/-!
# Decimal literals

A decimal literal is a sign, a coefficient and a power of ten. This module holds that value, its
two readings as a binary float, and the grammar that turns free text into one.

The readings are correctly rounded: they go through the core library's exact conversion. Before
they do, a literal whose magnitude lies far outside the float's range is settled on sight, so an
exponent of a billion costs nothing.
-/

namespace StatusWall.Decimal

/-- The number `coefficient * 10 ^ exponent`, negated when `negative`.

The sign is kept apart from the coefficient because a negative zero is not the zero. -/
structure Literal where
  negative : Bool
  coefficient : Nat
  exponent : Int
  deriving DecidableEq, Repr

/-- How many decimal digits a number has; zero has one. -/
def digitCount (n : Nat) : Nat := (Nat.toDigits 10 n).length

/-- The value of a run of digit characters, read on from `start`. -/
def digitsValue (start : Nat) (cs : List Char) : Nat :=
  cs.foldl (fun n c => n * 10 + (c.toNat - '0'.toNat)) start

namespace Literal

/-- The place of the leading digit: the magnitude is below `10 ^ place` and, unless it is zero,
at least `10 ^ (place - 1)`. -/
def place (l : Literal) : Int := digitCount l.coefficient + l.exponent

/-- The nearest double, or `none` when the magnitude rounds past the largest one. -/
def toFloat? (l : Literal) : Option Float :=
  let magnitude : Float :=
    if l.coefficient = 0 ∨ l.place < -330 then 0
    else if 320 < l.place then 1 / 0
    else Float.ofScientific l.coefficient (decide (l.exponent < 0)) l.exponent.natAbs
  if magnitude.isFinite then some (if l.negative then -magnitude else magnitude) else none

/-- The nearest single-precision number; magnitudes past the largest one become infinite. -/
def toFloat32 (l : Literal) : Float32 :=
  let magnitude : Float32 :=
    if l.coefficient = 0 ∨ l.place < -60 then 0
    else if 50 < l.place then 1 / 0
    else Float32.ofScientific l.coefficient (decide (l.exponent < 0)) l.exponent.natAbs
  if l.negative then -magnitude else magnitude

end Literal

/-! ## Free text

The grammar of a number typed by hand: a sign or none, then digits with at most one point (a digit
on at least one side of it), then an exponent or none. Nothing around it, no separators. -/

/-- Splits a leading sign off; `true` means minus. -/
def takeSign : List Char → Bool × List Char
  | '-' :: rest => (true, rest)
  | '+' :: rest => (false, rest)
  | cs => (false, cs)

/-- The digits at the head of a text and what follows them. -/
def takeDigits (cs : List Char) : List Char × List Char :=
  (cs.takeWhile Char.isDigit, cs.dropWhile Char.isDigit)

/-- An exponent part that takes up the whole of `cs`; an absent one is zero. -/
def exponentOf? : List Char → Option Int
  | [] => some 0
  | c :: rest =>
    if c = 'e' ∨ c = 'E' then
      let (minus, rest) := takeSign rest
      match takeDigits rest with
      | ([], _) => none
      | (ds, []) =>
        let n : Int := digitsValue 0 ds
        some (if minus then -n else n)
      | _ => none
    else none

/-- A hand-typed finite number, the whole of `cs`. -/
def Literal.ofText? (cs : List Char) : Option Literal :=
  let (negative, cs) := takeSign cs
  let (whole, rest) := takeDigits cs
  let (fraction, rest) :=
    match rest with
    | '.' :: rest => takeDigits rest
    | _ => ([], rest)
  if whole.isEmpty ∧ fraction.isEmpty then none
  else (exponentOf? rest).map fun e =>
    { negative, coefficient := digitsValue (digitsValue 0 whole) fraction,
      exponent := e - fraction.length }

/-- A hand-typed single-precision number. Besides the finite ones there are the words for infinity
and for the undefined number, with a sign or none, in any case. -/
def float32OfText? (cs : List Char) : Option Float32 :=
  match Literal.ofText? cs with
  | some l => some l.toFloat32
  | none =>
    let (negative, word) := takeSign cs
    let magnitude? : Option Float32 :=
      match String.ofList (word.map Char.toLower) with
      | "inf" | "infinity" => some (1 / 0)
      | "nan" => some (0 / 0)
      | _ => none
    magnitude?.map fun m => if negative then -m else m

end StatusWall.Decimal
