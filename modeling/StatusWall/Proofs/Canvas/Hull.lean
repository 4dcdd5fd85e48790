import Mathlib.Analysis.Convex.Combination
import StatusWall.Canvas.Paint
import StatusWall.Proofs.Geometry.Exact

/-!
# One can press what one sees

A widget is painted as a polygon: its corners are turned from the widget's axes into the window. It is
pressed the other way round: the pointer is turned back into the widget's axes and compared with the half
sides. The two turns are written separately, with the functions of an angle and of its opposite. In exact
arithmetic they undo each other (`WidgetFrame.toLocal_toClient`, `WidgetFrame.toClient_toLocal`), so the
points that a frame contains are those of the polygon.

The polygon is the convex hull of the corners. In the widget's axes, where it is a box
(`WidgetFrame.box_eq_convexHull`), this is a fact about two segments; the turn into the window is affine,
and an affine map takes hulls to hulls.
-/

namespace StatusWall

open Set StatusWall.Geometry

variable {K : Type} [Field K] [LinearOrder K] [IsStrictOrderedRing K] [Exact K]

/-- An angle turns: its functions are a point of the unit circle, and the opposite angle turns back. -/
structure IsTurn (r : K) : Prop where
  circle : sin r ^ 2 + cos r ^ 2 = 1
  sin_neg : sin (-r) = -sin r
  cos_neg : cos (-r) = cos r

/-- A point as a pair. -/
def Geometry.Point.pair {α : Type} (p : Point α) : α × α := (p.x, p.y)

theorem Geometry.Point.pair_injective {α : Type} : Function.Injective (Point.pair (α := α)) := by
  rintro ⟨x, y⟩ ⟨x', y'⟩ h
  obtain ⟨rfl, rfl⟩ := Prod.mk.inj h
  rfl

namespace WidgetFrame

section

omit [IsStrictOrderedRing K]

variable (f : WidgetFrame K)

/-- The polygon that is painted: what its corners span. -/
def hull : Set (K × K) := convexHull K {q | ∃ c ∈ f.corners, c.pair = q}

/-- The frame in the widget's axes. -/
def box : Set (K × K) := Icc (-f.halfWidth) f.halfWidth ×ˢ Icc (-f.halfHeight) f.halfHeight

theorem contains_iff (p : Point K) : f.contains p = true ↔ (f.toLocal p).pair ∈ f.box := by
  unfold contains within box Point.pair
  simp only [Bool.and_eq_true, decide_eq_true_eq, mem_prod, mem_Icc]

section Turn

variable {f} (turn : IsTurn f.rotation) (p : Point K)

include turn

/-- A turn into the window is undone by the turn back. -/
theorem toLocal_toClient : f.toLocal (f.toClient p) = p := by
  have circle := turn.circle
  obtain ⟨x, y⟩ := p
  simp only [toLocal, toClient, turn.sin_neg, turn.cos_neg, Point.mk.injEq]
  constructor
  · linear_combination x * circle
  · linear_combination y * circle

theorem toClient_toLocal : f.toClient (f.toLocal p) = p := by
  have circle := turn.circle
  obtain ⟨x, y⟩ := p
  simp only [toLocal, toClient, turn.sin_neg, turn.cos_neg, Point.mk.injEq]
  constructor
  · linear_combination (x - f.center.x) * circle
  · linear_combination (y - f.center.y) * circle

end Turn

/-! ## The polygon -/

/-- The turn into the window, as an affine map. -/
def clientMap : K × K →ᵃ[K] K × K where
  toFun q := (f.toClient ⟨q.1, q.2⟩).pair
  linear :=
    { toFun q := (q.1 * cos f.rotation - q.2 * sin f.rotation,
        q.1 * sin f.rotation + q.2 * cos f.rotation)
      map_add' q q' := by
        ext
        · simp only [Prod.fst_add, Prod.snd_add]
          ring
        · simp only [Prod.fst_add, Prod.snd_add]
          ring
      map_smul' a q := by
        ext
        · simp only [Prod.smul_fst, Prod.smul_snd, smul_eq_mul, RingHom.id_apply]
          ring
        · simp only [Prod.smul_fst, Prod.smul_snd, smul_eq_mul, RingHom.id_apply]
          ring }
  map_vadd' q v := by
    ext
    · simp only [toClient, Point.pair, vadd_eq_add, Prod.fst_add, Prod.snd_add, LinearMap.coe_mk,
        AddHom.coe_mk]
      ring
    · simp only [toClient, Point.pair, vadd_eq_add, Prod.fst_add, Prod.snd_add, LinearMap.coe_mk,
        AddHom.coe_mk]
      ring

theorem clientMap_pair (p : Point K) : f.clientMap p.pair = (f.toClient p).pair := rfl

/-- The corners are those of the box, turned into the window. -/
theorem corners_eq_image : {q | ∃ c ∈ f.corners, c.pair = q} =
    f.clientMap '' ({-f.halfWidth, f.halfWidth} ×ˢ {-f.halfHeight, f.halfHeight}) := by
  ext q
  constructor
  · rintro ⟨c, hc, rfl⟩
    simp only [corners, List.mem_cons, List.not_mem_nil, or_false] at hc
    rcases hc with rfl | rfl | rfl | rfl
    · exact ⟨(-f.halfWidth, -f.halfHeight), ⟨.inl rfl, .inl rfl⟩, rfl⟩
    · exact ⟨(f.halfWidth, -f.halfHeight), ⟨.inr rfl, .inl rfl⟩, rfl⟩
    · exact ⟨(f.halfWidth, f.halfHeight), ⟨.inr rfl, .inr rfl⟩, rfl⟩
    · exact ⟨(-f.halfWidth, f.halfHeight), ⟨.inl rfl, .inr rfl⟩, rfl⟩
  · rintro ⟨⟨x, y⟩, ⟨hx, hy⟩, rfl⟩
    refine ⟨f.toClient ⟨x, y⟩, ?_, rfl⟩
    rcases hx with rfl | rfl <;> rcases hy with rfl | rfl <;> simp [corners]

end

variable (f : WidgetFrame K)

/-- The box is what its corners span. -/
theorem box_eq_convexHull (wide : 0 ≤ f.halfWidth) (high : 0 ≤ f.halfHeight) :
    f.box = convexHull K ({-f.halfWidth, f.halfWidth} ×ˢ {-f.halfHeight, f.halfHeight}) := by
  rw [convexHull_prod, convexHull_pair, convexHull_pair, segment_eq_Icc (neg_le_self wide),
    segment_eq_Icc (neg_le_self high)]
  rfl

/-- The polygon is the box, turned into the window. -/
theorem hull_eq_image (wide : 0 ≤ f.halfWidth) (high : 0 ≤ f.halfHeight) :
    f.hull = f.clientMap '' f.box := by
  unfold hull
  rw [f.corners_eq_image, ← f.clientMap.image_convexHull, f.box_eq_convexHull wide high]

variable {f}

section Sides

variable (turn : IsTurn f.rotation) (wide : 0 ≤ f.halfWidth) (high : 0 ≤ f.halfHeight)

include turn wide high

/-- **A frame contains what its corners span.** -/
theorem contains_iff_mem_hull (p : Point K) : f.contains p = true ↔ p.pair ∈ f.hull := by
  rw [contains_iff, f.hull_eq_image wide high]
  constructor
  · intro inside
    refine ⟨_, inside, ?_⟩
    rw [clientMap_pair, toClient_toLocal turn]
  · rintro ⟨⟨x, y⟩, inside, heq⟩
    have hp : p = f.toClient ⟨x, y⟩ := Point.pair_injective heq.symm
    rw [hp, toLocal_toClient turn]
    exact inside

theorem contains_corner {c : Point K} (hc : c ∈ f.corners) : f.contains c = true :=
  (contains_iff_mem_hull turn wide high c).mpr (subset_convexHull K _ ⟨c, hc, rfl⟩)

end Sides

theorem contains_center (wide : 0 ≤ f.halfWidth) (high : 0 ≤ f.halfHeight) :
    f.contains f.center = true := by
  have middle : f.toLocal f.center = ⟨0, 0⟩ := by
    simp only [toLocal, sub_self, zero_mul, add_zero]
  rw [contains_iff, middle]
  exact ⟨⟨neg_nonpos.mpr wide, wide⟩, ⟨neg_nonpos.mpr high, high⟩⟩

/-- On a canvas one can divide by, the half sides of a frame are those of the rectangle. -/
theorem of_halves_nonneg {rect : Rect K} {layout : Layout K} (usable : layout.size.isUsable = true)
    (wide : 0 ≤ rect.w) (high : 0 ≤ rect.h) (rotation : K) :
    0 ≤ (WidgetFrame.of rect rotation layout).halfWidth ∧
      0 ≤ (WidgetFrame.of rect rotation layout).halfHeight := by
  have half {side length : K} (hside : 0 ≤ side) (hlength : 0 < length) :
      0 ≤ side / span * length / (2.0 : K) := by
    rw [span_eq]
    have : (0 : K) ≤ 2.0 := by norm_num
    positivity
  exact ⟨half wide (Size.isUsable.width_pos usable), half high (Size.isUsable.height_pos usable)⟩

omit [IsStrictOrderedRing K] in
/-- The first shape of a widget is the polygon of its corners. -/
theorem exists_widgetShapes_eq (e : Element K) (status : Option WidgetStatus) (layout : Layout K)
    (selected : Bool) : ∃ fill stroke rest,
      widgetShapes e status layout selected = .polygon (e.frame layout).corners fill stroke :: rest := by
  have exact_screen : (e.frame layout).corners.map (ScreenRect.narrowPoint (σ := K)) =
      (e.frame layout).corners := List.map_id _
  rw [← exact_screen]
  exact ⟨_, _, _, rfl⟩

/-- **One can press a widget exactly where it is painted.** In exact arithmetic, whatever the functions of
an angle are as long as they turn, on a canvas one can divide by: a point lies in the frame of a rectangle
if and only if it lies in what the corners of the frame span, and these are the corners of the polygon that
is painted. So the center and the corners lie in the frame, and the ways into the window and back undo each
other. -/
theorem contains_exactly_what_is_painted {rect : Rect K} {rotation : K} {layout : Layout K}
    (turn : IsTurn rotation) (usable : layout.size.isUsable = true) (wide : 0 ≤ rect.w)
    (high : 0 ≤ rect.h) :
    let f := WidgetFrame.of rect rotation layout
    (∀ p, f.contains p = true ↔ p.pair ∈ convexHull K {q | ∃ c ∈ f.corners, c.pair = q}) ∧
    (∀ e : Element K, e.rect = rect → e.rotation = rotation → ∀ status selected,
      ∃ fill stroke rest,
        widgetShapes e status layout selected = .polygon f.corners fill stroke :: rest) ∧
    f.contains f.center = true ∧ (∀ c ∈ f.corners, f.contains c = true) ∧
    (∀ p, f.toLocal (f.toClient p) = p) ∧ ∀ p, f.toClient (f.toLocal p) = p := by
  intro f
  obtain ⟨wide, high⟩ := of_halves_nonneg usable wide high rotation
  refine ⟨contains_iff_mem_hull turn wide high, ?_, contains_center wide high,
    fun c => contains_corner turn wide high, toLocal_toClient turn, toClient_toLocal turn⟩
  rintro e rfl rfl status selected
  exact exists_widgetShapes_eq e status layout selected

/-- A card twice as wide as it is high, turned by a quarter: it is painted below its center where it was
not before, and no longer beside it. -/
theorem quarter_turned_card_is_painted_upright :
    let rect : Rect ℝ := { x := 10, y := 10, w := 20, h := 20 }
    let layout : Layout ℝ := { origin := ⟨100, 50⟩, size := ⟨1000, 500⟩ }
    let f := WidgetFrame.of rect (Real.pi / 2) layout
    IsTurn (Real.pi / 2) ∧ layout.size.isUsable = true ∧ 0 ≤ rect.w ∧ 0 ≤ rect.h ∧
      ((300, 240) : ℝ × ℝ) ∈ convexHull ℝ {q | ∃ c ∈ f.corners, c.pair = q} ∧
      ((390, 150) : ℝ × ℝ) ∉ convexHull ℝ {q | ∃ c ∈ f.corners, c.pair = q} := by
  intro rect layout f
  have turn : IsTurn (Real.pi / 2) :=
    ⟨Real.sin_sq_add_cos_sq _, Real.sin_neg _, Real.cos_neg _⟩
  have usable : layout.size.isUsable = true :=
    Size.isUsable_iff.mpr ⟨⟨rfl, rfl⟩, by norm_num [layout], by norm_num [layout]⟩
  have wide : 0 ≤ rect.w := by norm_num [rect]
  have high : 0 ≤ rect.h := by norm_num [rect]
  have sin_back : (sin (-(Real.pi / 2)) : ℝ) = -1 :=
    (Real.sin_neg _).trans (congrArg Neg.neg Real.sin_pi_div_two)
  have cos_back : (cos (-(Real.pi / 2)) : ℝ) = 0 := (Real.cos_neg _).trans Real.cos_pi_div_two
  have frame : f = ⟨⟨300, 150⟩, 100, 50, Real.pi / 2⟩ := by
    norm_num [f, WidgetFrame.of, rect, layout, Rect.pixelCenter, Rect.pixelSize, Rect.pixelOrigin,
      span_eq]
  have below : f.toLocal ⟨300, 240⟩ = ⟨90, 0⟩ := by
    norm_num [frame, toLocal, sin_back, cos_back]
  have beside : f.toLocal ⟨390, 150⟩ = ⟨0, -90⟩ := by
    norm_num [frame, toLocal, sin_back, cos_back]
  have pressed : f.contains ⟨300, 240⟩ = true := by
    rw [contains_iff, below, frame]
    refine ⟨⟨?_, ?_⟩, ⟨?_, ?_⟩⟩ <;> norm_num [Point.pair]
  have missed : ¬ f.contains ⟨390, 150⟩ = true := by
    rw [contains_iff, beside, frame]
    rintro ⟨-, low, -⟩
    norm_num [Point.pair] at low
  obtain ⟨painted, -⟩ := contains_exactly_what_is_painted turn usable wide high
  exact ⟨turn, usable, wide, high, (painted ⟨300, 240⟩).mp pressed,
    fun h => missed ((painted ⟨390, 150⟩).mpr h)⟩

end WidgetFrame

end StatusWall
