import StatusWall.Decimal.Shortest

/-!
# The numbers geometry is done in

Every computation on the canvas is written once, over a type of numbers with the operations below.
The program runs it on doubles and, for positions on the screen, on single-precision numbers; what
the computation means is read off at an exact field, where the operations have their textbook laws.

Comparison is a proposition with a decision, so that the same text serves an ordered field and a
float, where an undefined number compares with nothing, itself included.
-/

namespace StatusWall.Geometry

/-- Numbers with the operations that geometry needs. -/
class Scalar (α : Type) extends Add α, Sub α, Mul α, Div α, Neg α, LT α, LE α, OfScientific α where
  decidableLT : DecidableLT α
  decidableLE : DecidableLE α
  /-- Neither infinite nor undefined. -/
  isFinite : α → Bool
  sin : α → α
  cos : α → α
  /-- The angle of the point with the given height and width, seen from the origin. -/
  atan2 : α → α → α
  /-- The length of the hypotenuse over two legs. -/
  hypot : α → α → α

instance scalarDecidableLT {α : Type} [s : Scalar α] : DecidableLT α := s.decidableLT

instance scalarDecidableLE {α : Type} [s : Scalar α] : DecidableLE α := s.decidableLE

export Scalar (isFinite sin cos atan2 hypot)

variable {α : Type} [Scalar α]

/-- The lesser of two numbers. One that does not compare, not even with itself, is ignored. -/
def lesser (a b : α) : α := if a ≤ b then a else if b ≤ b then b else a

/-- The greater of two numbers. One that does not compare, not even with itself, is ignored. -/
def greater (a b : α) : α := if a ≤ b then b else if a ≤ a then a else b

/-! ## Floats -/

/-- The whole part of a square root. -/
def wholeRoot (n : Nat) : Nat :=
  if n = 0 then 0
  else
    let r := 2 * wholeRoot (n / 4)
    if (r + 1) * (r + 1) ≤ n then r + 1 else r
decreasing_by omega

/-- The double nearest to `n * 2 ^ e`. -/
def floatOfBinary (n : Nat) (e : Int) : Float :=
  if 0 ≤ e then Float.ofScientific (n * Nat.pow 2 e.toNat) false 0
  else Float.ofScientific (n * Nat.pow 5 e.natAbs) true e.natAbs

/-- The hypotenuse over two doubles, rounded once: the exact sum of the squares is scaled up until
its root has more bits than a double, and a remainder is kept as a last bit. -/
def floatHypot (x y : Float) : Float :=
  if x.isInf ∨ y.isInf then 1 / 0
  else match Decimal.Binary.ofFloat? x, Decimal.Binary.ofFloat? y with
    | some a, some b =>
      let e := if a.exponent ≤ b.exponent then a.exponent else b.exponent
      let p := a.mantissa * Nat.pow 2 (a.exponent - e).toNat
      let q := b.mantissa * Nat.pow 2 (b.exponent - e).toNat
      let sum := (p * p + q * q) * Nat.pow 4 64
      let root := wholeRoot sum
      let odd := if root * root = sum then 0 else 1
      floatOfBinary (2 * root + odd) (e - 65)
    | _, _ => 0 / 0

instance : Scalar Float where
  decidableLT := inferInstance
  decidableLE := inferInstance
  isFinite := Float.isFinite
  sin := Float.sin
  cos := Float.cos
  atan2 := Float.atan2
  hypot := floatHypot

instance : Scalar Float32 where
  decidableLT := inferInstance
  decidableLE := inferInstance
  isFinite := Float32.isFinite
  sin := Float32.sin
  cos := Float32.cos
  atan2 := Float32.atan2
  hypot x y := (floatHypot x.toFloat y.toFloat).toFloat32

/-- Two types of numbers, the one on the screen and the one in the document, and the ways between
them. -/
class Screen (σ : outParam Type) (α : Type) [Scalar σ] [Scalar α] where
  widen : σ → α
  narrow : α → σ

instance : Screen Float32 Float where
  widen := Float32.toFloat
  narrow := Float.toFloat32

end StatusWall.Geometry
