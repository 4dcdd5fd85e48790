import StatusWall.Json.Value
import StatusWall.Proofs.Binary.Double

/-!
# Numbers that JSON has

A whole number within its 64 bits, or a finite double. As a double every one of them is finite.
-/

namespace StatusWall.Json.Number

/-- The number is one that JSON has. -/
def InRange : Number → Prop
  | .natural n => n ≤ greatest
  | .negative n => n ≤ lowest
  | .real x => x.isFinite = true

/-- **A number that JSON has is finite as a double.** -/
theorem InRange.isFinite_toFloat {n : Number} (h : n.InRange) : n.toFloat.isFinite = true := by
  cases n with
  | natural n =>
    have hle : n ≤ 2 ^ 64 - 1 := h
    exact Double.isFinite_ofScientific (by omega)
  | negative n =>
    have hle : n ≤ 2 ^ 63 := h
    exact Double.isFinite_neg (Double.isFinite_ofScientific (by omega))
  | real x => exact h

end StatusWall.Json.Number
