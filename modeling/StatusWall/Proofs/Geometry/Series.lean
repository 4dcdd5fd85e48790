import Mathlib.Algebra.Order.BigOperators.Group.List
import StatusWall.Proofs.Geometry.Canvas

/-!
# Gestures in a series

A drag is a series of events, and how many of them there are is the window's choice: it reports what the
pointer did since the last frame as one movement. Moving and resizing are clamped at every event, so
several movements are not always the same as one that goes as far. They are if none of them goes back on
another one (`Delta.OneWay`): what is stopped at a bound is still stopped there when the rest of the way
is added (`clamp_clamp`). So events may be put together as long as the pointer goes one way
(`Gesture.movements_add_up`).

Two premises say that the widget begins between its bounds. For a move it lies in the canvas. For a
resize it also has at least the least size: then the bounds do not contradict each other.
-/

namespace StatusWall

open StatusWall.Geometry

/-- An event of the pointer while a gesture runs, in the layout of the moment. -/
structure GestureStep (α : Type) where
  gesture : Gesture
  layout : Layout α
  event : PointerEvent α

/-- The placement after a series of events. -/
def Geometry.Placement.after {α : Type} [Scalar α] (p : Placement α) (steps : List (GestureStep α)) :
    Placement α :=
  steps.foldl (fun p s => s.gesture.apply p s.layout s.event) p

/-- No gesture makes a ticker, or makes one something else. -/
theorem Gesture.isTicker_apply {α : Type} [Scalar α] (gesture : Gesture) (p : Placement α)
    (layout : Layout α) (event : PointerEvent α) :
    (gesture.apply p layout event).isTicker = p.isTicker := by
  cases gesture with
  | move | resize | rotate => rfl

namespace Geometry

variable {K : Type} [Field K] [LinearOrder K]

/-! ## One way -/

instance : Add (Delta K) where
  add d e := { dx := d.dx + e.dx, dy := d.dy + e.dy }

instance : Zero (Delta K) where
  zero := { dx := 0, dy := 0 }

/-- No two of the numbers have opposite signs. -/
def OneSigned (xs : List K) : Prop := (∀ x ∈ xs, 0 ≤ x) ∨ ∀ x ∈ xs, x ≤ 0

/-- None of the movements goes back on another one, neither across nor down. -/
structure Delta.OneWay (ds : List (Delta K)) : Prop where
  across : OneSigned (ds.map (·.dx))
  down : OneSigned (ds.map (·.dy))

omit [LinearOrder K] in
theorem Delta.sum_dx (ds : List (Delta K)) : ds.sum.dx = (ds.map (·.dx)).sum := by
  induction ds with
  | nil => rfl
  | cons d ds ih => exact congrArg (d.dx + ·) ih

omit [LinearOrder K] in
theorem Delta.sum_dy (ds : List (Delta K)) : ds.sum.dy = (ds.map (·.dy)).sum := by
  induction ds with
  | nil => rfl
  | cons d ds ih => exact congrArg (d.dy + ·) ih

variable [IsStrictOrderedRing K]

/-- The first number and all the others together have no opposite signs either. -/
theorem OneSigned.cons {x : K} {xs : List K} (h : OneSigned (x :: xs)) :
    OneSigned [x, xs.sum] ∧ OneSigned xs := by
  unfold OneSigned at h ⊢
  simp only [List.forall_mem_cons] at h ⊢
  rcases h with ⟨hx, hxs⟩ | ⟨hx, hxs⟩
  · exact ⟨.inl ⟨hx, List.sum_nonneg hxs, nofun⟩, .inl hxs⟩
  · have rest : xs.sum ≤ 0 := (List.sum_le_card_nsmul xs 0 hxs).trans_eq (nsmul_zero _)
    exact ⟨.inr ⟨hx, rest, nofun⟩, .inr hxs⟩

theorem Delta.OneWay.cons {d : Delta K} {ds : List (Delta K)} (h : OneWay (d :: ds)) :
    OneWay [d, ds.sum] ∧ OneWay ds := by
  obtain ⟨across, acrossRest⟩ := OneSigned.cons h.across
  obtain ⟨down, downRest⟩ := OneSigned.cons h.down
  rw [← sum_dx] at across
  rw [← sum_dy] at down
  exact ⟨⟨across, down⟩, ⟨acrossRest, downRest⟩⟩

/-- If two movements that go one way come to one that goes as far, then so does a whole list of them. -/
theorem foldl_eq_of_oneWay {σ : Type} {f : σ → Delta K → σ} {S : σ → Prop}
    (keeps : ∀ s d, S s → S (f s d)) (still : ∀ s, S s → f s 0 = s)
    (adds : ∀ s d e, S s → Delta.OneWay [d, e] → f (f s d) e = f s (d + e))
    {s : σ} (hs : S s) {ds : List (Delta K)} (oneWay : Delta.OneWay ds) :
    ds.foldl f s = f s ds.sum := by
  induction ds generalizing s with
  | nil => exact (still s hs).symm
  | cons d ds ih =>
    obtain ⟨along, rest⟩ := oneWay.cons
    calc ds.foldl f (f s d)
      _ = f (f s d) ds.sum := ih (keeps s d hs) rest
      _ = f s (d + ds.sum) := adds s d ds.sum hs along

/-! ## One axis -/

section Clamp

variable {low high x s t : K} (above : low ≤ x) (below : x ≤ high)

include above below

omit [Field K] [IsStrictOrderedRing K] in
theorem clamp_of_mem : max (min x high) low = x := by
  rw [min_eq_left below, max_eq_left above]

/-- **What is stopped at a bound is stopped there still** when the rest of the way is added. -/
theorem clamp_clamp (oneSigned : OneSigned [s, t]) :
    max (min (max (min (x + s) high) low + t) high) low = max (min (x + (s + t)) high) low := by
  unfold OneSigned at oneSigned
  simp only [List.forall_mem_cons] at oneSigned
  rcases oneSigned with ⟨hs, ht, -⟩ | ⟨hs, ht, -⟩
  · -- Going up, the lower bound has no part in it, and the upper one is met once.
    have first : max (min (x + s) high) low = min (x + s) high :=
      max_eq_left (le_min (by linarith) (above.trans below))
    have second : min (min (x + s) high + t) high = min (x + (s + t)) high := by
      rw [min_add, min_assoc, min_eq_right (le_add_of_nonneg_right ht), add_assoc]
    rw [first, second]
  · have first : min (x + s) high = x + s := min_eq_left (by linarith)
    have second : min (max (x + s) low + t) high = max (x + s) low + t := by
      have := max_le (show x + s ≤ high by linarith) (above.trans below)
      exact min_eq_left (by linarith)
    have whole : min (x + (s + t)) high = x + (s + t) := min_eq_left (by linarith)
    rw [first, second, whole, max_add, max_assoc, max_eq_right (add_le_of_nonpos_right ht), add_assoc]

end Clamp

variable {place extent s t least : K}

theorem Within.slide_zero (h : Within place extent) : Geometry.slide place extent 0 = place := by
  rw [Geometry.slide, add_zero]
  exact clamp_of_mem h.begins (le_sub_iff_add_le.mpr h.ends)

theorem Within.slide_slide (h : Within place extent) (oneSigned : OneSigned [s, t]) :
    Geometry.slide (Geometry.slide place extent s) extent t = Geometry.slide place extent (s + t) :=
  clamp_clamp h.begins (le_sub_iff_add_le.mpr h.ends) oneSigned

theorem Within.grow_zero (h : Within place extent) (large : least ≤ extent) :
    grow place extent 0 least = extent := by
  rw [grow, add_zero]
  exact clamp_of_mem large (le_sub_iff_add_le'.mpr h.ends)

theorem Within.grow_grow (h : Within place extent) (large : least ≤ extent)
    (oneSigned : OneSigned [s, t]) :
    grow place (grow place extent s least) t least = grow place extent (s + t) least :=
  clamp_clamp large (le_sub_iff_add_le'.mpr h.ends) oneSigned

/-- What is large enough does not leave the canvas by growing. -/
theorem Within.grow (h : Within place extent) (positive : 0 ≤ least) (large : least ≤ extent)
    (step : K) : Within place (Geometry.grow place extent step least) :=
  (h.grow_iff step positive).mpr (large.trans (le_sub_iff_add_le'.mpr h.ends))

variable [Exact K]

/-- In percent the signs are those of the pixels. -/
theorem OneSigned.toPercent {length : K} (positive : 0 < length) (h : OneSigned [s, t]) :
    OneSigned [toPercent s length, toPercent t length] := by
  have nonneg (x : K) : 0 ≤ Geometry.toPercent x length ↔ 0 ≤ x := by
    rw [← toPercent_le_iff positive (b := x), toPercent_zero]
  have nonpos (x : K) : Geometry.toPercent x length ≤ 0 ↔ x ≤ 0 := by
    rw [← toPercent_le_iff positive (a := x), toPercent_zero]
  unfold OneSigned at h ⊢
  simpa only [List.forall_mem_cons, nonneg, nonpos] using h

theorem toPercent_leastSize_nonneg {length : K} (positive : 0 < length) :
    0 ≤ toPercent leastSize length := by
  rw [← toPercent_zero length, toPercent_le_iff positive, leastSize_eq]
  norm_num

/-- The least size in pixels is the least size in percent. -/
theorem toPercent_leastSize_le {length : K} (positive : 0 < length)
    (large : 40 ≤ extent / span * length) : toPercent leastSize length ≤ extent := by
  rw [← toPercent_pixels positive extent, toPercent_le_iff positive, leastSize_eq]
  exact large

/-! ## Both axes -/

omit [IsStrictOrderedRing K] in
theorem Delta.sanitized_of_finite (finite : ∀ x : K, isFinite x = true) (d : Delta K) :
    d.sanitized = d := by
  simp only [sanitized, finite, if_true]

omit [LinearOrder K] [IsStrictOrderedRing K] [Exact K] in
theorem Placement.spanned_of_free {p : Placement K} (free : p.isTicker = false) (r : Rect K) :
    p.spanned r = r := by
  rw [spanned, free, if_neg Bool.false_ne_true]

namespace Rect

/-- The rectangle after a move in pixels. -/
def slid (container : Size K) (r : Rect K) (d : Delta K) : Rect K :=
  { r with
    x := slide r.x r.w (toPercent d.dx container.width)
    y := slide r.y r.h (toPercent d.dy container.height) }

/-- The rectangle after a resize in pixels. -/
def grown (container : Size K) (r : Rect K) (d : Delta K) : Rect K :=
  { r with
    w := grow r.x r.w (toPercent d.dx container.width) (toPercent leastSize container.width)
    h := grow r.y r.h (toPercent d.dy container.height) (toPercent leastSize container.height) }

/-- The rectangle lies in the canvas, and has the least size or a larger one. -/
structure Ample (container : Size K) (r : Rect K) : Prop where
  inside : r.InCanvas
  wide : toPercent leastSize container.width ≤ r.w
  high : toPercent leastSize container.height ≤ r.h

variable {container : Size K} {r : Rect K} {ds : List (Delta K)}

/-- **Moves that go one way add up.** -/
theorem InCanvas.foldl_slid (usable : container.isUsable = true) (h : r.InCanvas)
    (oneWay : Delta.OneWay ds) : ds.foldl (slid container) r = r.slid container ds.sum := by
  refine foldl_eq_of_oneWay (S := InCanvas) ?keeps ?still ?adds h oneWay
  case keeps =>
    exact fun r d h => ⟨h.horizontal.slide _, h.vertical.slide _⟩
  case still =>
    intro r h
    show ({ r with x := slide _ _ (toPercent 0 _), y := slide _ _ (toPercent 0 _) } : Rect K) = r
    rw [toPercent_zero, toPercent_zero, h.horizontal.slide_zero, h.vertical.slide_zero]
  case adds =>
    intro r d e h along
    have across := h.horizontal.slide_slide (along.across.toPercent (Size.isUsable.width_pos usable))
    have down := h.vertical.slide_slide (along.down.toPercent (Size.isUsable.height_pos usable))
    rw [← toPercent_add] at across down
    exact congrArg₂ (fun x y => { r with x, y }) across down

/-- **Resizes that go one way add up.** -/
theorem Ample.foldl_grown (usable : container.isUsable = true) (h : r.Ample container)
    (oneWay : Delta.OneWay ds) : ds.foldl (grown container) r = r.grown container ds.sum := by
  have wide := Size.isUsable.width_pos usable
  have high := Size.isUsable.height_pos usable
  refine foldl_eq_of_oneWay (S := Ample container) ?keeps ?still ?adds h oneWay
  case keeps =>
    intro r d h
    exact
      { inside :=
          ⟨h.inside.horizontal.grow (toPercent_leastSize_nonneg wide) h.wide _,
            h.inside.vertical.grow (toPercent_leastSize_nonneg high) h.high _⟩
        wide := le_max_right _ _
        high := le_max_right _ _ }
  case still =>
    intro r h
    show ({ r with w := grow _ _ (toPercent 0 _) _, h := grow _ _ (toPercent 0 _) _ } : Rect K) = r
    rw [toPercent_zero, toPercent_zero, h.inside.horizontal.grow_zero h.wide,
      h.inside.vertical.grow_zero h.high]
  case adds =>
    intro r d e h along
    have across := h.inside.horizontal.grow_grow h.wide (along.across.toPercent wide)
    have down := h.inside.vertical.grow_grow h.high (along.down.toPercent high)
    rw [← toPercent_add] at across down
    exact congrArg₂ (fun w h => { r with w, h }) across down

end Rect

end Geometry

/-! ## Series of one gesture -/

namespace Gesture

variable {K : Type} [Field K] [LinearOrder K] [IsStrictOrderedRing K] [Exact K]

omit [IsStrictOrderedRing K] in
/-- If a gesture gives a widget that is no ticker a rectangle by a function of its rectangle and the
movement, then a series of the gesture does so by the series of movements. -/
theorem after_eq {gesture : Gesture} {layout : Layout K} {f : Rect K → Delta K → Rect K}
    (gives : ∀ p : Placement K, p.isTicker = false → ∀ event,
      gesture.apply p layout event = { p with rect := f p.rect event.movement })
    {p : Placement K} (free : p.isTicker = false) (events : List (PointerEvent K)) :
    p.after (events.map fun event => { gesture, layout, event }) =
      { p with rect := (events.map (·.movement)).foldl f p.rect } := by
  induction events generalizing p with
  | nil => rfl
  | cons event events ih =>
    have first := gives p free event
    have rest := ih (p := { p with rect := f p.rect event.movement }) free
    show Placement.after (gesture.apply p layout event) _ = _
    rw [first]
    exact rest

section

variable (finite : ∀ x : K, isFinite x = true) {layout : Layout K}
  (usable : layout.size.isUsable = true) {p : Placement K} (free : p.isTicker = false)

include finite usable free

theorem move_apply_eq (event : PointerEvent K) :
    move.apply p layout event = { p with rect := p.rect.slid layout.size event.movement } := by
  have rect := moved_eq usable p event.movement
  rw [Delta.sanitized_of_finite finite, Placement.spanned_of_free free] at rect
  exact congrArg (fun r => { p with rect := r }) rect

theorem resize_apply_eq (event : PointerEvent K) :
    resize.apply p layout event = { p with rect := p.rect.grown layout.size event.movement } := by
  have rect := resized_eq usable p event.movement
  rw [Delta.sanitized_of_finite finite, Placement.spanned_of_free free] at rect
  exact congrArg (fun r => { p with rect := r }) rect

end

/-- **Movements that go one way may be put together.** Take a layout one can divide by, a widget in the
canvas that is no ticker, and events of the pointer none of which goes back on another one. Moving the
widget event by event comes to moving it once, by the sum of the movements. So does resizing, if the
widget has the least size or a larger one at first. -/
theorem movements_add_up (finite : ∀ x : K, isFinite x = true) {layout : Layout K}
    (usable : layout.size.isUsable = true) {p : Placement K} (free : p.isTicker = false)
    (inside : p.rect.InCanvas) {events : List (PointerEvent K)}
    (oneWay : Delta.OneWay (events.map (·.movement))) {whole : PointerEvent K}
    (sum : whole.movement = (events.map (·.movement)).sum) :
    p.after (events.map fun event => { gesture := .move, layout, event }) =
      move.apply p layout whole ∧
    (40 ≤ (p.rect.pixelSize layout.size).width → 40 ≤ (p.rect.pixelSize layout.size).height →
      p.after (events.map fun event => { gesture := .resize, layout, event }) =
        resize.apply p layout whole) := by
  constructor
  · rw [after_eq (fun _ => move_apply_eq finite usable) free, inside.foldl_slid usable oneWay,
      move_apply_eq finite usable free, sum]
  · intro wide high
    have ample : p.rect.Ample layout.size :=
      ⟨inside, toPercent_leastSize_le (Size.isUsable.width_pos usable) wide,
        toPercent_leastSize_le (Size.isUsable.height_pos usable) high⟩
    rw [after_eq (fun _ => resize_apply_eq finite usable) free, ample.foldl_grown usable oneWay,
      resize_apply_eq finite usable free, sum]

/-! ### A card in two frames -/

/-- A card of 200 by 100 pixels in a layout of 1000 by 500. -/
def sampleCard {α : Type} [Scalar α] : Placement α :=
  { rect := { x := 10.0, y := 10.0, w := 20.0, h := 20.0 }, rotation := 0.0, isTicker := false }

/-- The pointer goes to the right and down; `dx` across is beyond the canvas after the second event. -/
def samplePulls {α : Type} [Scalar α] : List (PointerEvent α) :=
  [{ client := { x := 600.0, y := 60.0 }, movement := { dx := 500.0, dy := 0.0 }, target := .canvas },
    { client := { x := 1000.0, y := 90.0 }, movement := { dx := 400.0, dy := 30.0 }, target := .canvas }]

/-- Both events as one. -/
def samplePulled {α : Type} [Scalar α] : PointerEvent α :=
  { client := { x := 1000.0, y := 90.0 }, movement := { dx := 900.0, dy := 30.0 }, target := .canvas }

/-- The card is stopped at the right edge of the canvas, by its place or by its size, whether the window
reports one event or two. -/
theorem card_is_pulled_to_the_edge :
    let layout : Layout ℝ :=
      { origin := { x := 0, y := 0 }, size := { width := 1000.0, height := 500.0 } }
    let moved := sampleCard.after (samplePulls.map fun event => { gesture := .move, layout, event })
    let resized := sampleCard.after (samplePulls.map fun event => { gesture := .resize, layout, event })
    layout.size.isUsable = true ∧ Delta.OneWay ((samplePulls (α := ℝ)).map (·.movement)) ∧
      (moved = move.apply sampleCard layout samplePulled ∧ moved.rect.x = 80.0) ∧
      resized = resize.apply sampleCard layout samplePulled ∧ resized.rect.w = 90.0 := by
  intro layout moved resized
  have finite : ∀ x : ℝ, isFinite x = true := fun _ => rfl
  have usable : layout.size.isUsable = true :=
    Size.isUsable_iff.mpr ⟨⟨rfl, rfl⟩, by norm_num [layout], by norm_num [layout]⟩
  have inside : (sampleCard (α := ℝ)).rect.InCanvas := by
    refine ⟨⟨?_, ?_, ?_⟩, ⟨?_, ?_, ?_⟩⟩ <;> norm_num [sampleCard]
  have oneWay : Delta.OneWay ((samplePulls (α := ℝ)).map (·.movement)) := by
    constructor <;> left <;> norm_num [samplePulls]
  have sum : (samplePulled (α := ℝ)).movement = (samplePulls.map (·.movement)).sum := by
    show (⟨900.0, 30.0⟩ : Delta ℝ) = ⟨500.0 + (400.0 + 0), 0.0 + (30.0 + 0)⟩
    norm_num
  have both := movements_add_up finite usable (p := sampleCard) rfl inside oneWay sum
  have hmoved : moved = move.apply sampleCard layout samplePulled := both.1
  have hresized : resized = resize.apply sampleCard layout samplePulled :=
    both.2 (by norm_num [Rect.pixelSize, sampleCard, layout, span_eq])
      (by norm_num [Rect.pixelSize, sampleCard, layout, span_eq])
  refine ⟨usable, oneWay, ⟨hmoved, ?_⟩, hresized, ?_⟩
  · rw [hmoved, move_apply_eq finite usable rfl]
    norm_num [Rect.slid, slide, sampleCard, samplePulled, layout, toPercent_eq]
  · rw [hresized, resize_apply_eq finite usable rfl]
    norm_num [Rect.grown, grow, sampleCard, samplePulled, layout, toPercent_eq, leastSize_eq]

end Gesture

end StatusWall
