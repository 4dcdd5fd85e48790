import StatusWall.Decimal.Shortest

/-!
# Writing a decimal literal

A layout says from where to where a number is written in positional form and how its exponent looks
elsewhere. The digits themselves are never changed: a layout is a spelling, not a rounding.
-/

namespace StatusWall.Decimal

/-- How a decimal literal is spelled. -/
structure Layout where
  /-- The least place of a leading digit that is still written positionally. -/
  leastPlace : Int
  /-- The greatest place of a leading digit that is still written positionally. -/
  greatestPlace : Int
  /-- Whole numbers in positional form carry `.0`. -/
  keepsPoint : Bool
  /-- Positive exponents carry their sign. -/
  signsExponent : Bool

/-- The digits of a coefficient as characters. -/
def digitsOf (n : Nat) : List Char := Nat.toDigits 10 n

/-- The magnitude in positional form. -/
def Layout.positional (y : Layout) (l : Literal) : List Char :=
  let ds := digitsOf l.coefficient
  if 0 ≤ l.exponent then
    ds ++ List.replicate l.exponent.toNat '0' ++ (if y.keepsPoint then ['.', '0'] else [])
  else
    let behind := l.exponent.natAbs
    let padded := List.replicate (behind + 1 - ds.length) '0' ++ ds
    padded.take (padded.length - behind) ++ '.' :: padded.drop (padded.length - behind)

/-- The magnitude with one digit before the point and an exponent behind. -/
def Layout.scientific (y : Layout) (l : Literal) : List Char :=
  let ds := digitsOf l.coefficient
  let exponent := l.place - 1
  let sign := if exponent < 0 then ['-'] else if y.signsExponent then ['+'] else []
  ds.take 1 ++ (if ds.length = 1 then [] else '.' :: ds.drop 1) ++
    'e' :: sign ++ digitsOf exponent.natAbs

/-- The spelling of a literal whose coefficient does not end in zero, or is zero. -/
def Layout.write (y : Layout) (l : Literal) : String :=
  let magnitude :=
    if l.coefficient = 0 ∨ (y.leastPlace ≤ l.place ∧ l.place ≤ y.greatestPlace)
    then y.positional l else y.scientific l
  String.ofList (if l.negative then '-' :: magnitude else magnitude)

end StatusWall.Decimal
