/-!
# Percent-encoding

A character that may not stand in a part of an address is written as its UTF-8 bytes, each as a
percent sign and two digits. Which characters may stand differs from part to part. A percent sign
itself is left alone, so a part that is encoded already stays as it is.

Forms have an encoding of their own: there a blank becomes a plus sign, and only letters, digits and
four marks are left alone.
-/

namespace StatusWall.Web

/-- The digits of base sixteen, capital letters. -/
def hexDigit (n : Nat) : Char := (Nat.digitChar n).toUpper

/-- A byte, percent-encoded. -/
def escapeByte (b : UInt8) : List Char := ['%', hexDigit (b.toNat / 16), hexDigit (b.toNat % 16)]

/-- Percent-encodes the characters that may not stay. -/
def encodeUnless (stays : Char → Bool) (cs : List Char) : List Char :=
  cs.flatMap fun c => if stays c then [c] else (String.utf8EncodeChar c).flatMap escapeByte

/-- A visible ASCII character. -/
def isGraphic (c : Char) : Bool := decide (0x21 ≤ c.toNat) && decide (c.toNat ≤ 0x7E)

/-- The code point of the grave accent. -/
def graveAccent : Nat := 0x60

/-- Characters that may stand behind the number sign of an address. -/
def staysInFragment (c : Char) : Bool :=
  isGraphic c && !(c = '"' || c = '<' || c = '>' || c.toNat = graveAccent)

/-- Characters that may stand in a path. -/
def staysInPath (c : Char) : Bool :=
  staysInFragment c && !(c = '#' || c = '?' || c = '\x7b' || c = '\x7d')

/-- Characters that may stand in a query. -/
def staysInQuery (c : Char) : Bool :=
  isGraphic c && !(c = '"' || c = '#' || c = '<' || c = '>' || c = '\'')

/-- Characters that may stand in a form. -/
def staysInForm (c : Char) : Bool :=
  c.isAlphanum || c = '*' || c = '-' || c = '.' || c = '_'

/-- A name or a value of a form. -/
def formEncode (s : String) : String :=
  String.ofList (s.toList.flatMap fun c => if c = ' ' then ['+'] else encodeUnless staysInForm [c])

/-- The value of a hexadecimal digit. -/
def hexDigitValue? (c : Char) : Option Nat :=
  if c.isDigit then some (c.toNat - '0'.toNat)
  else
    let n := c.toLower.toNat
    if 'a'.toNat ≤ n ∧ n ≤ 'f'.toNat then some (n - 'a'.toNat + 10) else none

/-- Undoes percent-encoding; a percent sign without two digits behind it stays. Bytes outside ASCII
become characters of their own. -/
def percentDecode : List Char → List Char
  | '%' :: a :: b :: rest =>
    match hexDigitValue? a, hexDigitValue? b with
    | some x, some y => Char.ofNat (16 * x + y) :: percentDecode rest
    | _, _ => '%' :: percentDecode (a :: b :: rest)
  | c :: rest => c :: percentDecode rest
  | [] => []

end StatusWall.Web
