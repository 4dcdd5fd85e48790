import StatusWall.Decimal.Literal

/-!
# The shortest decimal of a binary float

A binary float stands for every real number that rounds to it. Among the decimals that read back as
the float, this module picks one with the fewest digits, and of those the one nearest to the float.

The float is first taken apart into `mantissa * 2 ^ exponent`, exactly. The reals that round to it
form an interval that reaches half way to either neighbour; its ends belong to it when the mantissa
is even. For one digit, two digits, and so on, the two decimals of that length next to the value
are tried: if any decimal of a length lies in the interval, one of these two does.
-/

namespace StatusWall.Decimal

/-- A finite binary float, taken apart: `mantissa * 2 ^ exponent` with a sign. -/
structure Binary where
  negative : Bool
  mantissa : Nat
  exponent : Int
  /-- The neighbour below is only half as far away as the one above: the mantissa is the least of
  its binade. -/
  narrowBelow : Bool
  deriving DecidableEq, Repr

/-- The layout of a binary interchange format: how many bits its fraction and exponent take. -/
structure BinaryLayout where
  fractionBits : Nat
  exponentBits : Nat

/-- Double precision. -/
def BinaryLayout.double : BinaryLayout := ⟨52, 11⟩

/-- Single precision. -/
def BinaryLayout.single : BinaryLayout := ⟨23, 8⟩

/-- The power of two that one unit of a subnormal fraction is worth. -/
def BinaryLayout.leastExponent (l : BinaryLayout) : Int :=
  2 - (Nat.pow 2 (l.exponentBits - 1) : Int) - (l.fractionBits : Int)

/-- Takes a bit pattern apart; `none` for infinities and undefined numbers. -/
def Binary.ofBits? (l : BinaryLayout) (bits : Nat) : Option Binary :=
  let fraction := bits % Nat.pow 2 l.fractionBits
  let biased := bits / Nat.pow 2 l.fractionBits % Nat.pow 2 l.exponentBits
  let negative := bits / Nat.pow 2 (l.fractionBits + l.exponentBits) % 2 = 1
  if biased = Nat.pow 2 l.exponentBits - 1 then none
  else if biased = 0 then
    some { negative, mantissa := fraction, exponent := l.leastExponent, narrowBelow := false }
  else
    some { negative, mantissa := fraction + Nat.pow 2 l.fractionBits,
           exponent := l.leastExponent + (biased - 1),
           narrowBelow := fraction = 0 ∧ 1 < biased }

/-- The parts of a double. -/
def Binary.ofFloat? (x : Float) : Option Binary := Binary.ofBits? .double x.toBits.toNat

/-- The parts of a single-precision number. -/
def Binary.ofFloat32? (x : Float32) : Option Binary := Binary.ofBits? .single x.toBits.toNat

/-- Drops the zeros at the end of a coefficient and counts them into the exponent. -/
def trimZeros : Nat → Nat → Int → Nat × Int
  | 0, n, e => (n, e)
  | fuel + 1, n, e => if n ≠ 0 ∧ n % 10 = 0 then trimZeros fuel (n / 10) (e + 1) else (n, e)

/-- The value and the ends of the interval that rounds to it, as numerators over one denominator. -/
structure Span where
  low : Nat
  value : Nat
  high : Nat
  denominator : Nat
  /-- The ends themselves round to the value. -/
  closed : Bool

/-- The interval of reals that round to a float. -/
def Binary.span (b : Binary) : Span :=
  let up := Nat.pow 2 (b.exponent - 2).toNat
  { low := (4 * b.mantissa - if b.narrowBelow then 1 else 2) * up
    value := 4 * b.mantissa * up
    high := (4 * b.mantissa + 2) * up
    denominator := Nat.pow 2 (2 - b.exponent).toNat
    closed := b.mantissa % 2 = 0 }

/-- Whether the decimal `n * 10 ^ e` lies in the interval. -/
def Span.contains (s : Span) (n : Nat) (e : Int) : Bool :=
  let x := n * Nat.pow 10 e.toNat * s.denominator
  let scale := Nat.pow 10 (-e).toNat
  if s.closed then s.low * scale ≤ x ∧ x ≤ s.high * scale
  else s.low * scale < x ∧ x < s.high * scale

/-- What becomes of a value that lies half way between two decimals. -/
inductive Tie where
  /-- The decimal with the even last digit is taken. -/
  | toEven
  /-- The decimal farther from zero is taken. -/
  | away
  deriving DecidableEq, Repr

/-- The decimal with last place `10 ^ e` that represents the interval, if there is one: of the two
next to the value, the nearer that lies inside. -/
def Span.decimalAt? (s : Span) (tie : Tie) (e : Int) : Option Nat :=
  let top := s.value * Nat.pow 10 (-e).toNat
  let bottom := Nat.pow 10 e.toNat * s.denominator
  let n := top / bottom
  let below := s.contains n e
  let above := s.contains (n + 1) e
  let twice := 2 * (top % bottom)
  let nearerBelow := twice < bottom ∨ (twice = bottom ∧ tie = .toEven ∧ n % 2 = 0)
  if below ∧ (nearerBelow ∨ ¬ above) then some n
  else if above then some (n + 1)
  else none

/-- The place of the value's leading digit. -/
def Span.place (s : Span) : Int :=
  if s.denominator ≤ s.value then digitCount (s.value / s.denominator)
  else
    -- For a value below one, the place is that of the largest `10 ^ -k` it reaches.
    let k := digitCount ((s.denominator + s.value - 1) / s.value)
    if s.denominator ≤ s.value * Nat.pow 10 (k - 1) then 2 - (k : Int) else 1 - (k : Int)

/-- Tries decimals of growing length: `left` more lengths, the next one ending at `10 ^ e`. -/
def Span.search (s : Span) (tie : Tie) : Nat → Int → Nat × Int
  | 0, e => (s.value * Nat.pow 10 (-e).toNat / (Nat.pow 10 e.toNat * s.denominator), e)
  | left + 1, e =>
    match s.decimalAt? tie e with
    | some n => (n, e)
    | none => s.search tie left (e - 1)

/-- The shortest decimal that reads back as the float. -/
def Binary.shortest (b : Binary) (tie : Tie) : Literal :=
  if b.mantissa = 0 then { negative := b.negative, coefficient := 0, exponent := 0 }
  else
    let s := b.span
    let (n, e) := s.search tie 18 (s.place - 1)
    let (n, e) := trimZeros 20 n e
    { negative := b.negative, coefficient := n, exponent := e }

end StatusWall.Decimal
