import Mathlib.Algebra.Order.Field.Basic
import Mathlib.Analysis.SpecialFunctions.Complex.Arg
import Mathlib.Data.Rat.Cast.OfScientific
import Mathlib.Tactic.FieldSimp
import Mathlib.Tactic.Linarith
import StatusWall.Gesture.Basic

/-!
# Exact numbers

Geometry is written over any numbers that have its operations. Here the numbers are those of an
ordered field, and the operations the field's own: the same definitions, without rounding. What the
field does not have, the functions of angles and the notion of a finite number, is left open
(`Exact`); no rectangle depends on the former, and every statement about the latter holds for any.

In exact arithmetic pixels can be done away with. `Gesture.moved_eq` and `Gesture.resized_eq` say
what a gesture makes of a rectangle in percent of the canvas, one axis at a time: a movement in
pixels is a step in percent (`toPercent`), moving is `slide` and resizing is `grow`.
-/

namespace StatusWall.Geometry

/-- What geometry asks of a field beyond its order and its laws. -/
class Exact (K : Type) where
  isFinite : K → Bool
  sin : K → K
  cos : K → K
  atan2 : K → K → K
  hypot : K → K → K

instance exactScalar {K : Type} [Field K] [LinearOrder K] [Exact K] : Scalar K where
  toOfScientific := inferInstance
  decidableLT := inferInstance
  decidableLE := inferInstance
  isFinite := Exact.isFinite
  sin := Exact.sin
  cos := Exact.cos
  atan2 := Exact.atan2
  hypot := Exact.hypot

/-- The screen counts in the numbers of the document. -/
instance exactScreen {K : Type} [Field K] [LinearOrder K] [Exact K] : Screen K K where
  widen x := x
  narrow x := x

noncomputable instance : Exact ℝ where
  isFinite _ := true
  sin := Real.sin
  cos := Real.cos
  atan2 y x := Complex.arg ⟨x, y⟩
  hypot x y := √(x ^ 2 + y ^ 2)

section

variable {K : Type} [Field K] [LinearOrder K]

/-- Where something of a certain extent ends up when it is moved by a step: on the canvas, and at
its edge if it does not fit. -/
def slide (place extent step : K) : K := max (min (place + step) (100 - extent)) 0

/-- What becomes of an extent that grows by a step: it ends on the canvas, unless that leaves less
than the least extent. -/
def grow (place extent step least : K) : K := max (min (extent + step) (100 - place)) least

/-- The rectangle a gesture gives a widget: a ticker's is as wide as the canvas, whatever it was. -/
def Placement.spanned (p : Placement K) (r : Rect K) : Rect K :=
  if p.isTicker then { r with x := 0, w := 100 } else r

variable [Exact K]

/-- Where numbers are in a linear order, `lesser` is the minimum. -/
theorem lesser_eq_min (a b : K) : lesser a b = min a b := by
  unfold lesser
  rw [if_pos (le_refl b)]
  exact (min_def a b).symm

/-- Where numbers are in a linear order, `greater` is the maximum. -/
theorem greater_eq_max (a b : K) : greater a b = max a b := by
  unfold greater
  rw [if_pos (le_refl a)]
  exact (max_def a b).symm

end

variable {K : Type} [Field K] [LinearOrder K] [IsStrictOrderedRing K] [Exact K]

theorem nought_eq : (0.0 : K) = 0 := by norm_num

theorem span_eq : (span : K) = 100 := by
  show (100.0 : K) = 100
  norm_num

theorem leastSize_eq : (leastSize : K) = 40 := by
  show (40.0 : K) = 40
  norm_num

/-- A size one can divide by has positive sides. -/
theorem Size.isUsable_iff {s : Size K} :
    s.isUsable = true ↔
      (isFinite s.width = true ∧ isFinite s.height = true) ∧ 0 < s.width ∧ 0 < s.height := by
  unfold Size.isUsable
  simp only [Bool.and_eq_true, decide_eq_true_eq, nought_eq, and_assoc]

theorem Size.isUsable.width_pos {s : Size K} (h : s.isUsable = true) : 0 < s.width :=
  (Size.isUsable_iff.mp h).2.1

theorem Size.isUsable.height_pos {s : Size K} (h : s.isUsable = true) : 0 < s.height :=
  (Size.isUsable_iff.mp h).2.2

/-! ## Pixels and percent -/

section Percent

variable {length : K} (positive : 0 < length)

/-- Pixels are counted in hundredths of the length. -/
theorem toPercent_eq (pixels length : K) : toPercent pixels length = pixels / length * 100 :=
  congrArg (pixels / length * ·) span_eq

theorem toPercent_add (a b length : K) :
    toPercent (a + b) length = toPercent a length + toPercent b length := by
  simp only [toPercent_eq]
  ring

theorem toPercent_sub (a b length : K) :
    toPercent (a - b) length = toPercent a length - toPercent b length := by
  simp only [toPercent_eq]
  ring

theorem toPercent_zero (length : K) : toPercent 0 length = 0 := by
  rw [toPercent_eq, zero_div, zero_mul]

include positive

/-- The whole length is a hundred percent. -/
theorem toPercent_length : toPercent length length = 100 := by
  rw [toPercent_eq, div_self positive.ne', one_mul]

/-- Percent of a length, counted in pixels and in percent again. -/
theorem toPercent_pixels (x : K) : toPercent (x / span * length) length = x := by
  rw [toPercent_eq, span_eq]
  have := positive.ne'
  field_simp

/-- Percent of a positive length are in the order of the pixels. -/
theorem toPercent_le_iff {a b : K} : toPercent a length ≤ toPercent b length ↔ a ≤ b := by
  rw [toPercent_eq, toPercent_eq, mul_le_mul_iff_left₀ (by norm_num),
    div_le_div_iff_of_pos_right positive]

theorem toPercent_monotone : Monotone fun pixels => toPercent pixels length :=
  fun _ _ h => (toPercent_le_iff positive).mpr h

end Percent

/-! ## One axis -/

/-- The clamp of a movement in pixels is the clamp of the step in percent. -/
theorem toPercent_slide {length : K} (positive : 0 < length) (place extent pixels : K) :
    toPercent (greater (lesser (place / span * length + pixels) (length - extent / span * length))
      0.0) length = slide place extent (toPercent pixels length) := by
  rw [greater_eq_max, lesser_eq_min, nought_eq, (toPercent_monotone positive).map_max,
    (toPercent_monotone positive).map_min]
  simp only [toPercent_add, toPercent_sub, toPercent_zero, toPercent_pixels positive,
    toPercent_length positive]
  rfl

/-- The clamp of an extent in pixels is the clamp of its growth in percent. -/
theorem toPercent_grow {length : K} (positive : 0 < length) (place extent pixels : K) :
    toPercent (greater (lesser (extent / span * length + pixels) (length - place / span * length))
      leastSize) length =
      grow place extent (toPercent pixels length) (toPercent leastSize length) := by
  rw [greater_eq_max, lesser_eq_min, (toPercent_monotone positive).map_max,
    (toPercent_monotone positive).map_min]
  simp only [toPercent_add, toPercent_sub, toPercent_pixels positive, toPercent_length positive]
  rfl

/-! ## Gestures -/

/-- Where numbers are exact, a ticker spans the canvas as the gestures write it. -/
theorem Placement.spanned_eq (p : Placement K) (r : Rect K) :
    p.spanned r = if p.isTicker then r.fullWidth else r := by
  unfold spanned Rect.fullWidth
  rw [nought_eq, span_eq]

end StatusWall.Geometry

namespace StatusWall.Gesture

open StatusWall.Geometry

variable {K : Type} [Field K] [LinearOrder K] [IsStrictOrderedRing K] [Exact K]
  {container : Size K}

/-- **Moving, in percent.** -/
theorem moved_eq (usable : container.isUsable = true) (p : Placement K) (movement : Delta K) :
    moved p container movement =
      p.spanned
        { p.rect with
          x := slide p.rect.x p.rect.w (toPercent movement.sanitized.dx container.width)
          y := slide p.rect.y p.rect.h (toPercent movement.sanitized.dy container.height) } := by
  have vertical := toPercent_slide (Size.isUsable.height_pos usable) p.rect.y p.rect.h
    movement.sanitized.dy
  have horizontal := toPercent_slide (Size.isUsable.width_pos usable) p.rect.x p.rect.w
    movement.sanitized.dx
  rw [Placement.spanned_eq, ← vertical, ← horizontal]
  simp only [moved, moveRect, usable, if_true]
  cases p.isTicker with
  | true => rfl
  | false => rfl

/-- **Resizing, in percent.** -/
theorem resized_eq (usable : container.isUsable = true) (p : Placement K) (movement : Delta K) :
    resized p container movement =
      p.spanned
        { p.rect with
          w := grow p.rect.x p.rect.w (toPercent movement.sanitized.dx container.width)
            (toPercent leastSize container.width)
          h := grow p.rect.y p.rect.h (toPercent movement.sanitized.dy container.height)
            (toPercent leastSize container.height) } := by
  have vertical := toPercent_grow (Size.isUsable.height_pos usable) p.rect.y p.rect.h
    movement.sanitized.dy
  have horizontal := toPercent_grow (Size.isUsable.width_pos usable) p.rect.x p.rect.w
    movement.sanitized.dx
  rw [Placement.spanned_eq, ← vertical, ← horizontal]
  simp only [resized, resizeRect, usable, if_true]
  cases p.isTicker with
  | true => rfl
  | false => rfl

/-- On a canvas one cannot divide by, a ticker is spread and everything else stays. -/
theorem moved_of_not_usable (unusable : container.isUsable = false) (p : Placement K)
    (movement : Delta K) : moved p container movement = p.spanned p.rect := by
  rw [Placement.spanned_eq]
  simp only [moved, moveRect, unusable, Bool.false_eq_true, if_false]
  cases p.isTicker with
  | true => rfl
  | false => rfl

/-- A canvas without a size gives nothing to grow by; a ticker spans it all the same. -/
theorem resized_of_not_usable (unusable : container.isUsable = false) (p : Placement K)
    (movement : Delta K) : resized p container movement = p.spanned p.rect := by
  rw [Placement.spanned_eq]
  simp only [resized, resizeRect, unusable, Bool.false_eq_true, if_false]

end StatusWall.Gesture
