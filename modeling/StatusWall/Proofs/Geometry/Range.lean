import StatusWall.Gesture.Basic
import StatusWall.Proofs.Document.Finite
import StatusWall.Proofs.Binary.Double

/-!
# Within the range of doubles

A gesture computes with what the pointer and the window report, and some of that is not finite. What a
movement brings is sanitized, a canvas one cannot divide by is refused, and from then on nothing is
undefined: a finite place in pixels plus a finite step, or the length of the canvas minus it, is a
number. But it may be too large for a double, and then it is infinite. Clamping takes the lesser of two
such numbers, and turning pixels into percent is monotone, so what a move or a resize yields is finite
exactly if one of the two is in percent (`Factor.isFinite_clamp_iff`).

Turning has neither of the two precautions. The angle is finite exactly if the way from the center to
the pointer is defined.

`Gesture.InRange` puts these conditions together, and `Gesture.apply_finite_iff` says that they are
exact. Directions are computed by a function that is only known to yield a finite angle if both its
arguments are numbers (`Angular`).
-/

namespace StatusWall

open StatusWall.Geometry

/-! ## What is computed -/

section

variable {α : Type} [Scalar α]

namespace Geometry

/-- Where a step leads something that has to fit a length, in percent. -/
def slid (place extent step length : α) : α :=
  toPercent (greater (lesser (place / span * length + step) (length - extent / span * length)) 0.0)
    length

/-- What a step makes of the size of something that has to end within a length, in percent. -/
def grown (place extent step length : α) : α :=
  toPercent (greater (lesser (extent / span * length + step) (length - place / span * length))
    leastSize) length

/-- The rectangle that a gesture gives a widget: a ticker's is as wide as the canvas. -/
def Placement.widened (p : Placement α) (r : Rect α) : Rect α := if p.isTicker then r.fullWidth else r

/-- The number is one: it compares with itself. -/
def Defined (x : α) : Prop := x ≤ x

/-- Some finite number is at least as large. -/
def Bounded (x : α) : Prop := ∃ y : α, isFinite y = true ∧ x ≤ y

/-- The place that a step leads to is not too large, or else the last place that fits is not. -/
def SlideInRange (place extent step length : α) : Prop :=
  Bounded (toPercent (place / span * length + step) length) ∨
    Bounded (toPercent (length - extent / span * length) length)

/-- The least size is not too large, and neither is the size that a step makes, or else the largest
size that fits. -/
def GrowInRange (place extent step length : α) : Prop :=
  Bounded (toPercent leastSize length) ∧
    (Bounded (toPercent (extent / span * length + step) length) ∨
      Bounded (toPercent (length - place / span * length) length))

/-- The numbers of a placement are finite. -/
structure Placement.Finite (p : Placement α) : Prop where
  rect : p.rect.Finite
  rotation : isFinite p.rotation = true

end Geometry

namespace Gesture

/-- The event leaves the gesture within the range of the numbers. A canvas one cannot divide by has no
part in moving and resizing, and a ticker's width none in anything. -/
def InRange (gesture : Gesture) (p : Placement α) (layout : Layout α) (event : PointerEvent α) : Prop :=
  let step := event.movement.sanitized
  let center := p.rect.pixelCenter layout.size
  match gesture with
  | .move => layout.size.isUsable = true →
      (p.isTicker = false → SlideInRange p.rect.x p.rect.w step.dx layout.size.width) ∧
        SlideInRange p.rect.y p.rect.h step.dy layout.size.height
  | .resize => layout.size.isUsable = true →
      (p.isTicker = false → GrowInRange p.rect.x p.rect.w step.dx layout.size.width) ∧
        GrowInRange p.rect.y p.rect.h step.dy layout.size.height
  | .rotate => p.isTicker = false →
      Defined (event.client.y - (layout.origin.y + center.y)) ∧
        Defined (event.client.x - (layout.origin.x + center.x))

variable {p : Placement α} {container : Size α}

/-- On a canvas with a size, both places slide. -/
theorem moved_of_usable (usable : container.isUsable = true) (movement : Delta α) :
    moved p container movement = p.widened
      { x := slid p.rect.x p.rect.w movement.sanitized.dx container.width
        y := slid p.rect.y p.rect.h movement.sanitized.dy container.height
        w := p.rect.w
        h := p.rect.h } := by
  unfold moved Placement.widened moveRect
  simp only [usable, if_true]
  rfl

theorem moved_of_unusable (unusable : container.isUsable = false) (movement : Delta α) :
    moved p container movement = p.widened p.rect := by
  unfold moved Placement.widened moveRect
  simp only [unusable, Bool.false_eq_true, if_false]
  rfl

/-- On a canvas with a size, both extents grow. -/
theorem resized_of_usable (usable : container.isUsable = true) (movement : Delta α) :
    resized p container movement = p.widened
      { x := p.rect.x
        y := p.rect.y
        w := grown p.rect.x p.rect.w movement.sanitized.dx container.width
        h := grown p.rect.y p.rect.h movement.sanitized.dy container.height } := by
  unfold resized Placement.widened resizeRect
  simp only [usable, if_true]
  rfl

/-- On a canvas without a size, a gesture leaves a rectangle as it is, up to a ticker's width. -/
theorem resized_of_unusable (unusable : container.isUsable = false) (movement : Delta α) :
    resized p container movement = p.widened p.rect := by
  unfold resized Placement.widened resizeRect
  simp only [unusable, Bool.false_eq_true, if_false]

end Gesture

end

/-! ## Doubles -/

namespace Geometry

section

variable {a b c : Float} {u v : EReal}

/-- The lesser of two doubles stands for the lesser number. -/
theorem value?_lesser (hu : Double.value? a = some u) (hv : Double.value? b = some v) :
    Double.value? (lesser a b) = some (min u v) := by
  unfold lesser
  split
  · next h => rw [hu, min_eq_left ((Double.le_iff hu hv).mp h)]
  · next h =>
    have hvu : v ≤ u := (not_le.mp fun huv => h ((Double.le_iff hu hv).mpr huv)).le
    rw [if_pos ((Double.le_iff hv hv).mpr le_rfl), hv, min_eq_right hvu]

/-- The greater of two doubles stands for the greater number. -/
theorem value?_greater (hu : Double.value? a = some u) (hv : Double.value? b = some v) :
    Double.value? (greater a b) = some (max u v) := by
  unfold greater
  split
  · next h => rw [hv, max_eq_right ((Double.le_iff hu hv).mp h)]
  · next h =>
    have hvu : v ≤ u := (not_le.mp fun huv => h ((Double.le_iff hu hv).mpr huv)).le
    rw [if_pos ((Double.le_iff hu hu).mpr le_rfl), hu, max_eq_left hvu]

/-- A number has a finite one above it unless it is infinite itself. -/
theorem bounded_iff (hu : Double.value? a = some u) : Bounded a ↔ u < ⊤ := by
  constructor
  · rintro ⟨y, hy, hle⟩
    obtain ⟨r, hr⟩ := Double.isFinite_iff.mp hy
    exact ((Double.le_iff hu hr).mp hle).trans_lt (EReal.coe_lt_top r)
  · intro h
    induction u with
    | bot => exact ⟨0, by decide, (Double.le_iff hu (v := 0) rfl).mpr bot_le⟩
    | top => exact absurd h (lt_irrefl _)
    | coe r => exact ⟨a, Double.isFinite_iff.mpr ⟨r, hu⟩, (Double.le_iff hu hu).mpr le_rfl⟩

/-- A number that is not negative is finite unless it is too large. -/
theorem isFinite_iff_of_nonneg (hu : Double.value? a = some u) (h : 0 ≤ u) :
    a.isFinite = true ↔ u < ⊤ := by
  constructor
  · intro hfinite
    obtain ⟨r, hr⟩ := Double.isFinite_iff.mp hfinite
    obtain rfl := Option.some.inj (hu.symm.trans hr)
    exact EReal.coe_lt_top r
  · intro htop
    have hreal : (u.toReal : EReal) = u :=
      EReal.coe_toReal htop.ne (EReal.bot_lt_zero.trans_le h).ne'
    exact Double.isFinite_iff.mpr ⟨u.toReal, hu.trans (congrArg some hreal.symm)⟩

/-- A double one can divide by without losing the order: finite and positive. -/
structure Factor (c : Float) : Prop where
  finite : c.isFinite = true
  positive : 0.0 < c

theorem factor_span : Factor span := ⟨by decide, by decide⟩

namespace Factor

theorem exists_value? (h : Factor c) : ∃ r : ℝ, 0 < r ∧ Double.value? c = some (r : EReal) := by
  obtain ⟨r, hr⟩ := Double.isFinite_iff.mp h.finite
  have hpos : (0 : EReal) < r := (Double.lt_iff (a := 0.0) rfl hr).mp h.positive
  exact ⟨r, EReal.coe_pos.mp hpos, hr⟩

/-- **Pixels become percent in order**, whatever is rounded, and none stay none. -/
theorem exists_percent (h : Factor c) : ∃ g : EReal → EReal, Monotone g ∧ g 0 = 0 ∧
    ∀ pixels, Double.value? (toPercent pixels c) = (Double.value? pixels).map g := by
  obtain ⟨r, hr, hc⟩ := h.exists_value?
  obtain ⟨s, hs, hspan⟩ := factor_span.exists_value?
  refine ⟨Binary.scale .binary64 s ∘ Binary.scale .binary64 r⁻¹,
    (Binary.scale_mono hs).comp (Binary.scale_mono (inv_pos.mpr hr)), ?_, fun pixels => ?_⟩
  · rw [Function.comp_apply, Binary.scale_zero, Binary.scale_zero]
  · unfold toPercent
    rw [Double.value?_mul hspan hs, Double.value?_div hc hr, Option.map_map]

/-- A finite percentage is a number of pixels, if perhaps an infinite one. -/
theorem isNaN_pixels (h : Factor c) (ha : a.isFinite = true) : (a / span * c).isNaN = false := by
  obtain ⟨r, hr, hc⟩ := h.exists_value?
  obtain ⟨s, hs, hspan⟩ := factor_span.exists_value?
  obtain ⟨x, hx⟩ := Double.isFinite_iff.mp ha
  refine Bool.eq_false_iff.mpr fun hnan => ?_
  have hnone := Double.isNaN_iff.mp hnan
  rw [Double.value?_mul hc hr, Double.value?_div hspan hs, hx] at hnone
  cases hnone

/-- **What is clamped is finite exactly if the clamps are and one of the two numbers is not too
large.** -/
theorem isFinite_clamp_iff (h : Factor c) (ha : a.isNaN = false) (hb : b.isNaN = false) (least : Float)
    (hfinite : least.isFinite = true) (hleast : 0.0 ≤ least) :
    (toPercent (greater (lesser a b) least) c).isFinite = true ↔
      Bounded (toPercent least c) ∧ (Bounded (toPercent a c) ∨ Bounded (toPercent b c)) := by
  obtain ⟨g, mono, zero, percent⟩ := h.exists_percent
  obtain ⟨u, hu⟩ := Double.exists_value? ha
  obtain ⟨v, hv⟩ := Double.exists_value? hb
  obtain ⟨l, hl⟩ := Double.isFinite_iff.mp hfinite
  have value (pixels : Float) {w : EReal} (hw : Double.value? pixels = some w) :
      Double.value? (toPercent pixels c) = some (g w) := by
    rw [percent, hw, Option.map_some]
  have result := value _ (value?_greater (value?_lesser hu hv) hl)
  have hl0 : (0 : EReal) ≤ l := (Double.le_iff (a := 0.0) rfl hl).mp hleast
  have hresult : 0 ≤ g (max (min u v) l) := zero.ge.trans (mono (hl0.trans (le_max_right _ _)))
  rw [isFinite_iff_of_nonneg result hresult, bounded_iff (value _ hu), bounded_iff (value _ hv),
    bounded_iff (value _ hl), mono.map_max, mono.map_min, max_lt_iff, min_lt_iff, and_comm]

theorem bounded_nought (h : Factor c) : Bounded (toPercent 0.0 c) := by
  obtain ⟨g, -, zero, percent⟩ := h.exists_percent
  exact (bounded_iff (percent 0.0)).mpr (zero.trans_lt EReal.zero_lt_top)

end Factor

end

/-! ## Doubles and directions -/

/-- Doubles whose directions are computed by a given function. -/
def Directed (_direction : Float → Float → Float) : Type := Float

/-- The direction of a point is a finite angle exactly if both its height and its width are numbers,
infinite ones included. -/
def Angular (direction : Float → Float → Float) : Prop :=
  ∀ y x : Float, (direction y x).isFinite = (!y.isNaN && !x.isNaN)

variable {direction : Float → Float → Float}

instance directedScalar : Scalar (Directed direction) :=
  let doubles : Scalar Float := inferInstance
  show Scalar Float from { doubles with atan2 := direction }

section

variable {place extent step length : Directed direction}

/-- A place is finite after it slid if one of its two bounds is not too large. -/
theorem isFinite_slid_iff (hlength : Factor length) (hplace : isFinite place = true)
    (hextent : isFinite extent = true) (hstep : isFinite step = true) :
    isFinite (slid place extent step length) = true ↔ SlideInRange place extent step length :=
  (hlength.isFinite_clamp_iff (Double.isNaN_add (hlength.isNaN_pixels hplace) hstep)
    (Double.isNaN_sub hlength.finite (hlength.isNaN_pixels hextent)) (0.0 : Float) (by decide)
    (by decide)).trans ⟨fun h => h.2, fun h => ⟨hlength.bounded_nought, h⟩⟩

/-- An extent is finite after it grew if the least one is, and one of its two bounds. -/
theorem isFinite_grown_iff (hlength : Factor length) (hplace : isFinite place = true)
    (hextent : isFinite extent = true) (hstep : isFinite step = true) :
    isFinite (grown place extent step length) = true ↔ GrowInRange place extent step length :=
  hlength.isFinite_clamp_iff (Double.isNaN_add (hlength.isNaN_pixels hextent) hstep)
    (Double.isNaN_sub hlength.finite (hlength.isNaN_pixels hplace)) (leastSize : Float) (by decide)
    (by decide)

end

theorem isFinite_nought : isFinite (0.0 : Directed direction) = true :=
  show Float.isFinite 0.0 = true by decide

theorem isFinite_span : isFinite (span : Directed direction) = true :=
  show Float.isFinite 100.0 = true by decide

/-- Whatever is reported, what is left of it is finite. -/
theorem isFinite_sanitized (d : Delta (Directed direction)) :
    isFinite d.sanitized.dx = true ∧ isFinite d.sanitized.dy = true := by
  have sanitized (x : Directed direction) : isFinite (if isFinite x = true then x else 0.0) = true := by
    split
    · assumption
    · exact isFinite_nought
  exact ⟨sanitized d.dx, sanitized d.dy⟩

/-- A size one can divide by has two factors. -/
theorem Size.factors_of_isUsable {s : Size (Directed direction)} (h : s.isUsable = true) :
    Factor s.width ∧ Factor s.height := by
  unfold Size.isUsable at h
  simp only [Bool.and_eq_true, decide_eq_true_eq] at h
  obtain ⟨⟨⟨width, height⟩, wide⟩, high⟩ := h
  exact ⟨⟨width, wide⟩, ⟨height, high⟩⟩

theorem Placement.widened_finite_iff {p : Placement (Directed direction)} {r : Rect (Directed direction)} :
    (p.widened r).Finite ↔ (p.isTicker = false → isFinite r.x = true ∧ isFinite r.w = true) ∧
      isFinite r.y = true ∧ isFinite r.h = true := by
  unfold widened
  cases p.isTicker with
  | true =>
    exact ⟨fun f => ⟨nofun, f.y, f.h⟩, fun f => ⟨isFinite_nought, f.2.1, isFinite_span, f.2.2⟩⟩
  | false =>
    exact ⟨fun f => ⟨fun _ => ⟨f.x, f.w⟩, f.y, f.h⟩, fun ⟨across, y, h⟩ =>
      ⟨(across rfl).1, y, (across rfl).2, h⟩⟩

theorem Rect.Finite.widened {r : Rect (Directed direction)} (h : r.Finite)
    (p : Placement (Directed direction)) : (p.widened r).Finite :=
  Placement.widened_finite_iff.mpr ⟨fun _ => ⟨h.x, h.w⟩, h.y, h.h⟩

end Geometry

/-! ## Gestures -/

namespace Gesture

variable {direction : Float → Float → Float} {p : Placement (Directed direction)}

theorem moved_finite_iff (h : p.rect.Finite) (layout : Layout (Directed direction))
    (event : PointerEvent (Directed direction)) :
    (moved p layout.size event.movement).Finite ↔ InRange .move p layout event := by
  obtain ⟨hdx, hdy⟩ := isFinite_sanitized event.movement
  unfold InRange
  cases usable : layout.size.isUsable with
  | false =>
    rw [moved_of_unusable usable]
    exact ⟨fun _ => nofun, fun _ => h.widened p⟩
  | true =>
    obtain ⟨hwidth, hheight⟩ := Size.factors_of_isUsable usable
    rw [moved_of_usable usable, Placement.widened_finite_iff, isFinite_slid_iff hwidth h.x h.w hdx,
      isFinite_slid_iff hheight h.y h.h hdy]
    exact ⟨fun ⟨across, down, _⟩ _ => ⟨fun ticker => (across ticker).1, down⟩,
      fun f => ⟨fun ticker => ⟨(f rfl).1 ticker, h.w⟩, (f rfl).2, h.h⟩⟩

theorem resized_finite_iff (h : p.rect.Finite) (layout : Layout (Directed direction))
    (event : PointerEvent (Directed direction)) :
    (resized p layout.size event.movement).Finite ↔ InRange .resize p layout event := by
  obtain ⟨hdx, hdy⟩ := isFinite_sanitized event.movement
  unfold InRange
  cases usable : layout.size.isUsable with
  | false =>
    rw [resized_of_unusable usable]
    exact ⟨fun _ => nofun, fun _ => h.widened p⟩
  | true =>
    obtain ⟨hwidth, hheight⟩ := Size.factors_of_isUsable usable
    rw [resized_of_usable usable, Placement.widened_finite_iff, isFinite_grown_iff hwidth h.x h.w hdx,
      isFinite_grown_iff hheight h.y h.h hdy]
    exact ⟨fun ⟨across, _, down⟩ _ => ⟨fun ticker => (across ticker).2, down⟩,
      fun f => ⟨fun ticker => ⟨h.x, (f rfl).1 ticker⟩, h.y, (f rfl).2⟩⟩

theorem turned_finite_iff (angular : Angular direction) (h : p.Finite)
    (layout : Layout (Directed direction)) (event : PointerEvent (Directed direction)) :
    isFinite (turned p layout event.client) = true ↔ InRange .rotate p layout event := by
  unfold InRange turned
  cases p.isTicker with
  | true => exact ⟨fun _ => nofun, fun _ => h.rotation⟩
  | false =>
    let center := p.rect.pixelCenter layout.size
    let down : Float := event.client.y - (layout.origin.y + center.y)
    let across : Float := event.client.x - (layout.origin.x + center.x)
    have angle : (direction down across).isFinite = true ↔ down ≤ down ∧ across ≤ across := by
      rw [angular, Bool.and_eq_true, Bool.not_eq_true', Bool.not_eq_true', Double.le_self_iff,
        Double.le_self_iff]
    exact angle.trans ⟨fun f _ => f, fun f => f rfl⟩

/-- **A gesture keeps a placement finite exactly if its event is in range.** -/
theorem apply_finite_iff (angular : Angular direction) (h : p.Finite) (gesture : Gesture)
    (layout : Layout (Directed direction)) (event : PointerEvent (Directed direction)) :
    (gesture.apply p layout event).Finite ↔ gesture.InRange p layout event := by
  cases gesture with
  | move =>
    rw [← moved_finite_iff h.rect]
    exact ⟨fun f => f.rect, fun f => ⟨f, h.rotation⟩⟩
  | resize =>
    rw [← resized_finite_iff h.rect]
    exact ⟨fun f => f.rect, fun f => ⟨f, h.rotation⟩⟩
  | rotate =>
    rw [← turned_finite_iff angular h]
    exact ⟨fun f => f.rotation, fun f => ⟨h.rect, f⟩⟩

end Gesture

end StatusWall
