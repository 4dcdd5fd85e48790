import StatusWall.Proofs.Geometry.Exact

/-!
# Moving is projecting

A movement asks for a place: the old one, and the way of the pointer in percent. On each axis by itself
the rectangle comes to lie as near to that place as the canvas lets it (`Nearest`), and at the edge if
it is larger than the canvas (`Settled`). So the clamp in pixels, the lesser first and the greater
last, is the projection onto the places that keep the rectangle on the canvas, wherever it was before
(`moveRect_settles`).

A component that is not finite counts as no movement along its axis, and says nothing about the other
one. This holds for any numbers, so for doubles too (`moveRect_of_not_finite`).
-/

namespace StatusWall.Geometry

section

variable {α : Type} [Scalar α]

/-- **A component that is not finite is no movement**, along its own axis only. -/
theorem moveRect_of_not_finite (r : Rect α) (container element : Size α) (dx dy : α) :
    (isFinite dx = false →
      moveRect r container element ⟨dx, dy⟩ = moveRect r container element ⟨0.0, dy⟩) ∧
    (isFinite dy = false →
      moveRect r container element ⟨dx, dy⟩ = moveRect r container element ⟨dx, 0.0⟩) := by
  constructor
  · intro undefined
    simp only [moveRect, Delta.sanitized, undefined, ite_self, Bool.false_eq_true, if_false]
  · intro undefined
    simp only [moveRect, Delta.sanitized, undefined, ite_self, Bool.false_eq_true, if_false]

end

/-! ## The nearest point -/

variable {K : Type} [Field K] [LinearOrder K]

/-- Of all points between two bounds, this one alone is nearest to the target. -/
structure Nearest (low high target x : K) : Prop where
  low_le : low ≤ x
  le_high : x ≤ high
  nearer : ∀ z, low ≤ z → z ≤ high → z ≠ x → |x - target| < |z - target|

/-- Where something of a certain extent ends up that is wanted at a place: as near to it as the canvas
allows, and at the edge if it does not fit. -/
structure Settled (extent target x : K) : Prop where
  fits : extent ≤ 100 → Nearest 0 (100 - extent) target x
  pinned : 100 < extent → x = 0

/-- What a movement in pixels does along one axis of a container of the given length. -/
structure Moved [Exact K] (length extent place pixels x : K) : Prop where
  finite : isFinite pixels = true → Settled extent (place + 100 * pixels / length) x
  undefined : isFinite pixels = false → Settled extent place x
  begins : 0 ≤ x
  ends : extent ≤ 100 → x + extent ≤ 100

/-- There is one nearest point only. -/
theorem Nearest.unique {low high target x y : K} (hx : Nearest low high target x)
    (hy : Nearest low high target y) : x = y := by
  by_contra hne
  have closer : |x - target| < |y - target| := hx.nearer y hy.low_le hy.le_high (Ne.symm hne)
  exact lt_asymm closer (hy.nearer x hx.low_le hx.le_high hne)

variable [IsStrictOrderedRing K]

/-- The clamp between two bounds is the nearest point between them. -/
theorem Nearest.clamp {low high : K} (ordered : low ≤ high) (target : K) :
    Nearest low high target (max (min target high) low) := by
  rcases le_total target low with before | after
  · -- The target lies below: the lower bound is taken, and every other point is above it.
    rw [min_eq_left (before.trans ordered), max_eq_right before]
    refine ⟨le_refl low, ordered, ?_⟩
    intro z hlow _ hne
    have above : low < z := lt_of_le_of_ne hlow hne.symm
    rw [abs_of_nonneg (sub_nonneg.mpr before), abs_of_nonneg (by linarith)]
    linarith
  rcases le_total target high with inside | beyond
  · rw [min_eq_left inside, max_eq_left after]
    refine ⟨after, inside, ?_⟩
    intro z _ _ hne
    rw [sub_self, abs_zero]
    exact abs_pos.mpr (sub_ne_zero.mpr hne)
  · rw [min_eq_right beyond, max_eq_left ordered]
    refine ⟨ordered, le_refl high, ?_⟩
    intro z _ hhigh hne
    have below : z < high := lt_of_le_of_ne hhigh hne
    rw [abs_of_nonpos (sub_nonpos.mpr beyond), abs_of_nonpos (by linarith)]
    linarith

/-- What slides is settled at the place it was to go to. -/
theorem Settled.slide (place extent step : K) :
    Settled extent (place + step) (slide place extent step) where
  fits small := Nearest.clamp (sub_nonneg.mpr small) (place + step)
  pinned large := max_eq_right ((min_le_right _ _).trans (sub_nonpos.mpr large.le))

variable [Exact K]

/-- Along one axis, what a component counts for is a step in percent, or none. -/
theorem Moved.slide (length extent place pixels : K) :
    Moved length extent place pixels
      (slide place extent (toPercent (if isFinite pixels then pixels else 0.0) length)) := by
  have settled := Settled.slide place extent
  have inPercent : toPercent pixels length = 100 * pixels / length := by
    rw [toPercent_eq]
    ring
  refine ⟨?finite, ?undefined, le_max_right _ _, ?ends⟩
  case finite =>
    intro finite
    rw [if_pos finite, inPercent]
    exact settled _
  case undefined =>
    intro undefined
    rw [undefined, if_neg Bool.false_ne_true, nought_eq, toPercent_zero]
    simpa only [add_zero] using settled 0
  case ends =>
    intro small
    exact le_sub_iff_add_le.mp ((settled _).fits small).le_high

/-- **Moving is projecting onto the canvas.** The size stays, and along each axis the rectangle comes to
lie as near as the canvas allows to where the movement asks for. -/
theorem moveRect_settles {α : Type} [Scalar α] {container : Size K}
    (usable : container.isUsable = true) (r : Rect K) (delta : Delta K) :
    ((moveRect r container (r.pixelSize container) delta).w = r.w ∧
      (moveRect r container (r.pixelSize container) delta).h = r.h ∧
      Moved container.width r.w r.x delta.dx
        (moveRect r container (r.pixelSize container) delta).x ∧
      Moved container.height r.h r.y delta.dy
        (moveRect r container (r.pixelSize container) delta).y) ∧
    ∀ (r : Rect α) (container element : Size α) (dx dy : α),
      (isFinite dx = false →
        moveRect r container element ⟨dx, dy⟩ = moveRect r container element ⟨0.0, dy⟩) ∧
      (isFinite dy = false →
        moveRect r container element ⟨dx, dy⟩ = moveRect r container element ⟨dx, 0.0⟩) := by
  have moved : moveRect r container (r.pixelSize container) delta =
      { r with
        x := slide r.x r.w (toPercent delta.sanitized.dx container.width)
        y := slide r.y r.h (toPercent delta.sanitized.dy container.height) } :=
    Gesture.moved_eq usable ⟨r, 0, false⟩ delta
  rw [moved]
  exact ⟨⟨rfl, rfl, Moved.slide .., Moved.slide ..⟩, moveRect_of_not_finite⟩

/-- On a canvas of 800 by 600 pixels, a rectangle too wide for it is pinned to the left, and the whole
height of the canvas takes it down to the lower edge; an infinite way across takes it nowhere. -/
theorem wide_rectangle_settles :
    let container : Size ℝ := { width := 800, height := 600 }
    let wide : Rect ℝ := { x := -10, y := 50, w := 120, h := 20 }
    let moved := moveRect wide container (wide.pixelSize container) ⟨80, 600⟩
    let small : Rect Float := { x := 10.0, y := 50.0, w := 30.0, h := 20.0 }
    container.isUsable = true ∧ moved.x = 0 ∧ moved.y = 80 ∧
      moveRect small ⟨800.0, 600.0⟩ ⟨240.0, 120.0⟩ ⟨1.0 / 0.0, 6.0⟩ =
        moveRect small ⟨800.0, 600.0⟩ ⟨240.0, 120.0⟩ ⟨0.0, 6.0⟩ := by
  intro container wide moved small
  have usable : container.isUsable = true :=
    Size.isUsable_iff.mpr ⟨⟨rfl, rfl⟩, by norm_num [container], by norm_num [container]⟩
  obtain ⟨⟨-, -, across, down⟩, infinite⟩ :=
    moveRect_settles (α := Float) usable wide ⟨80, 600⟩
  refine ⟨usable, (across.finite rfl).pinned (by norm_num [wide]), ?_,
    (infinite small _ _ _ _).1 (by decide)⟩
  have nearest := (down.finite rfl).fits (by norm_num [wide])
  rw [nearest.unique (Nearest.clamp (by norm_num [wide]) _)]
  norm_num [wide, container]

end StatusWall.Geometry
