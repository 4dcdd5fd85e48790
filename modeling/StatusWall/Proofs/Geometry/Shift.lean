import StatusWall.Canvas.Pointer
import StatusWall.Proofs.Geometry.Canvas

/-!
# Ways in pixels

What the pointer goes is a way in pixels, and a rectangle displaced by it (`Rect.shifted`) has its
upper left corner that way off (`Rect.wayTo_pixelOrigin_shifted`). Ways add up: a rectangle
displaced along one and then along another is displaced from the first place to the last
(`Rect.shifted_shifted`).

As long as the displaced rectangle lies in the canvas, moving is displacing
(`Gesture.moved_eq_shifted`).
-/

namespace StatusWall.Geometry

/-- A rectangle displaced by a way in pixels. -/
def Rect.shifted {α : Type} [Scalar α] (r : Rect α) (container : Size α) (way : Delta α) : Rect α :=
  { r with
    x := r.x + toPercent way.dx container.width
    y := r.y + toPercent way.dy container.height }

variable {K : Type} [Field K]

/-- The way from one point to another. -/
def Point.wayTo (p q : Point K) : Delta K := { dx := q.x - p.x, dy := q.y - p.y }

theorem Point.wayTo_inj {p q r : Point K} : p.wayTo q = p.wayTo r ↔ q = r := by
  constructor
  · intro h
    obtain ⟨hx, hy⟩ := Delta.mk.inj h
    cases q
    cases r
    exact congrArg₂ Point.mk (sub_left_injective hx) (sub_left_injective hy)
  · rintro rfl
    rfl

variable [LinearOrder K] [IsStrictOrderedRing K]

/-- What stays on the canvas slides by the whole step. -/
theorem Within.slide_eq {place extent step : K} (h : Within (place + step) extent) :
    Geometry.slide place extent step = place + step := by
  unfold Geometry.slide
  rw [min_eq_left (by linarith [h.ends]), max_eq_left h.begins]

variable [Exact K]

/-- Between two places there is a movement, unless they are one. -/
theorem Point.wayTo_isMovement_eq_false_iff {p q : Point K} :
    (p.wayTo q).isMovement = false ↔ q = p := by
  have across : q.x = p.x ↔ q.x - p.x ≤ 0 ∧ 0 ≤ q.x - p.x := sub_eq_zero.symm.trans le_antisymm_iff
  have down : q.y = p.y ↔ q.y - p.y ≤ 0 ∧ 0 ≤ q.y - p.y := sub_eq_zero.symm.trans le_antisymm_iff
  have same : q = p ↔ q.x = p.x ∧ q.y = p.y := by
    cases p
    cases q
    exact Point.mk.injEq .. ▸ Iff.rfl
  rw [same, across, down]
  simp only [Delta.isMovement, wayTo, nought_eq, Bool.not_eq_false', Bool.and_eq_true,
    decide_eq_true_eq, and_assoc]

namespace Rect

variable {r : Rect K} {container : Size K}

theorem shifted_shifted (p q q' : Point K) :
    (r.shifted container (p.wayTo q)).shifted container (q.wayTo q') =
      r.shifted container (p.wayTo q') := by
  have across : q'.x - p.x = (q.x - p.x) + (q'.x - q.x) := by ring
  have down : q'.y - p.y = (q.y - p.y) + (q'.y - q.y) := by ring
  simp only [shifted, Point.wayTo, across, down, toPercent_add, add_assoc]

theorem shifted_self (p : Point K) : r.shifted container (p.wayTo p) = r := by
  simp only [shifted, Point.wayTo, sub_self, toPercent_zero, add_zero]

/-- The corner of a displaced rectangle is the way off. -/
theorem wayTo_pixelOrigin_shifted (usable : container.isUsable = true) (way : Delta K) :
    (r.pixelOrigin container).wayTo ((r.shifted container way).pixelOrigin container) = way := by
  have wide := (Size.isUsable.width_pos usable).ne'
  have high := (Size.isUsable.height_pos usable).ne'
  simp only [Point.wayTo, pixelOrigin, shifted, toPercent_eq, span_eq]
  cases way
  congr 1
  · field_simp
    ring
  · field_simp
    ring

end Rect

end StatusWall.Geometry

namespace StatusWall.Gesture

open StatusWall.Geometry

section

variable {α : Type} [Scalar α] {p : Placement α}

/-- Resizing and turning leave the upper left corner of what is no ticker. -/
theorem corner_apply {gesture : Gesture} (other : gesture ≠ .move) (free : p.isTicker = false)
    (layout : Layout α) (event : PointerEvent α) (container : Size α) :
    (gesture.apply p layout event).rect.pixelOrigin container = p.rect.pixelOrigin container := by
  cases gesture with
  | move => exact absurd rfl other
  | rotate => rfl
  | resize =>
    simp only [apply, resized, resizeRect, free, Bool.false_eq_true, if_false]
    split <;> rfl

end

variable {K : Type} [Field K] [LinearOrder K] [IsStrictOrderedRing K] [Exact K]
  {container : Size K} {p : Placement K}

/-- **Moving is displacing**, as long as it stays in the canvas. -/
theorem moved_eq_shifted (finite : ∀ x : K, isFinite x = true) (usable : container.isUsable = true)
    (free : p.isTicker = false) {way : Delta K}
    (inside : (p.rect.shifted container way).InCanvas) :
    moved p container way = p.rect.shifted container way := by
  have whole : way.sanitized = way := by
    simp only [Delta.sanitized, finite, if_true]
  have across : slide p.rect.x p.rect.w _ = _ := inside.horizontal.slide_eq
  have down : slide p.rect.y p.rect.h _ = _ := inside.vertical.slide_eq
  rw [moved_eq usable, whole, across, down]
  unfold Placement.spanned
  rw [free, if_neg Bool.false_ne_true]
  rfl

end StatusWall.Gesture
