import StatusWall.Json.Doc

/-!
# Reading JSON text

From the characters of a text to the document they spell. The reader goes on for as long as a loose
reading can, and records where the strict reading would have stopped (`Lexeme`).

Whether a fault counts as malformed or as cut short follows one rule: cut short means that the text
ended where more of it was needed. A loose number is the exception. It is malformed when it breaks
off at its sign, its point or its exponent, even at the end of the text.
-/

namespace StatusWall.Json.Reader

/-- Blank characters between the tokens. -/
def isSpace (c : Char) : Bool := c = ' ' || c = '\n' || c = '\t' || c = '\r'

/-- The rest of a text behind its blanks. -/
def skipSpace (cs : List Char) : List Char := cs.dropWhile isSpace

/-! ## Numbers -/

/-- The pieces of a number as it is written. -/
structure NumberParts where
  whole : List Char
  /-- The digits behind a point, if there is one. -/
  fraction : List Char
  exponent : Int
  /-- Written without point and exponent. -/
  isInteger : Bool

/-- The number that the pieces spell, unless it lies out of range. A number that is no whole one is the
double nearest to what is written; a reader that works with doubles on the way may come out a neighbour
of it when many digits or a large exponent are written. -/
def NumberParts.value (negative : Bool) (p : NumberParts) : Except Fault Number :=
  let whole := Decimal.digitsValue 0 p.whole
  if p.isInteger ∧ ¬ negative ∧ whole ≤ Number.greatest then .ok (.natural whole)
  else if p.isInteger ∧ negative ∧ 0 < whole ∧ whole ≤ Number.lowest then .ok (.negative whole)
  else
    let literal : Decimal.Literal :=
      { negative, coefficient := Decimal.digitsValue whole p.fraction,
        exponent := p.exponent - p.fraction.length }
    match literal.toFloat? with
    | some x => .ok (.real x)
    | none => .error .malformed

/-- The exponent behind the letter, or whether the text ended there. -/
def scanExponent (cs : List Char) : Except Fault (Int × List Char) :=
  let (minus, cs) := Decimal.takeSign cs
  match Decimal.takeDigits cs with
  | ([], []) => .error .cutShort
  | ([], _) => .error .malformed
  | (ds, rest) =>
    let n : Int := Decimal.digitsValue 0 ds
    .ok (if minus then -n else n, rest)

/-- An exponent, if one follows. -/
def scanTail (whole fraction : List Char) (isInteger : Bool) :
    List Char → Except Fault (NumberParts × List Char)
  | 'e' :: rest => (scanExponent rest).map fun (e, rest) => (⟨whole, fraction, e, false⟩, rest)
  | 'E' :: rest => (scanExponent rest).map fun (e, rest) => (⟨whole, fraction, e, false⟩, rest)
  | rest => .ok (⟨whole, fraction, 0, isInteger⟩, rest)

/-- The pieces of a number without its sign. A zero stands alone before the point. -/
def scanParts (cs : List Char) : Except Fault (NumberParts × List Char) :=
  match Decimal.takeDigits cs with
  | ([], []) => .error .cutShort
  | ([], _) => .error .malformed
  | ('0' :: _ :: _, _) => .error .malformed
  | (whole, '.' :: rest) =>
    match Decimal.takeDigits rest with
    | ([], []) => .error .cutShort
    | ([], _) => .error .malformed
    | (fraction, rest) => scanTail whole fraction false rest
  | (whole, rest) => scanTail whole [] true rest

/-- A number, sign included. -/
def scanNumber (cs : List Char) : Lexeme Number × Except Fault (List Char) :=
  let (negative, cs) :=
    match cs with
    | '-' :: rest => (true, rest)
    | cs => (false, cs)
  match scanParts cs with
  | .ok (parts, rest) => (⟨parts.value negative, .ok ()⟩, .ok rest)
  | .error fault => (⟨.error fault, .error .malformed⟩, .error .malformed)

/-! ## Strings -/

/-- The value of a hexadecimal digit. -/
def hexValue? (c : Char) : Option Nat :=
  if '0' ≤ c ∧ c ≤ '9' then some (c.toNat - '0'.toNat)
  else if 'a' ≤ c ∧ c ≤ 'f' then some (c.toNat - 'a'.toNat + 10)
  else if 'A' ≤ c ∧ c ≤ 'F' then some (c.toNat - 'A'.toNat + 10)
  else none

/-- The unit of an escape by number. Four bytes must be left, and all four must be digits. -/
def hexUnit (a b c d : Option Char) : Except Fault Nat :=
  match a.bind hexValue?, b.bind hexValue?, c.bind hexValue?, d.bind hexValue? with
  | some a, some b, some c, some d => .ok (((a * 16 + b) * 16 + c) * 16 + d)
  | _, _, _, _ =>
    let size := fun (c : Option Char) => (c.map Char.utf8Size).getD 0
    if size a + size b + size c + size d < 4 then .error .cutShort else .error .malformed

/-- The character of an escape by letter. -/
def escaped? : Char → Option Char
  | '"' => some '"'
  | '\\' => some '\\'
  | '/' => some '/'
  | 'b' => some (Char.ofNat 8)
  | 'f' => some (Char.ofNat 12)
  | 'n' => some '\n'
  | 'r' => some '\r'
  | 't' => some '\t'
  | _ => none

/-- What the strict reading of a string knows so far: its characters, last one first, the leading
half of a pair whose other half must follow, and its first fault. -/
structure Spelled where
  done : List Char := []
  leading : Option Nat := none
  fault : Option Fault := none

/-- A character follows. It may not follow half a pair. -/
def Spelled.push (s : Spelled) (c : Char) : Spelled :=
  match s.leading with
  | none => { s with done := c :: s.done }
  | some _ => { s with leading := none, fault := s.fault.or (some .malformed) }

/-- A unit given by number follows: half a pair or a character. -/
def Spelled.pushUnit (s : Spelled) (n : Nat) : Spelled :=
  let isLeading := 0xD800 ≤ n ∧ n ≤ 0xDBFF
  let isTrailing := 0xDC00 ≤ n ∧ n ≤ 0xDFFF
  match s.leading with
  | some high =>
    if isTrailing then
      { s with leading := none
               done := Char.ofNat (0x10000 + (high - 0xD800) * 0x400 + (n - 0xDC00)) :: s.done }
    else { s with leading := none, fault := s.fault.or (some .malformed) }
  | none =>
    if isTrailing then { s with fault := s.fault.or (some .malformed) }
    else if isLeading then { s with leading := some n }
    else { s with done := Char.ofNat n :: s.done }

/-- The string breaks off. -/
def Spelled.breakOff (s : Spelled) (fault : Fault) : Lexeme String × Except Fault (List Char) :=
  (⟨.error (s.fault.getD fault), .error fault⟩, .error fault)

/-- The string ends. -/
def Spelled.finish (s : Spelled) (rest : List Char) : Lexeme String × Except Fault (List Char) :=
  let strict : Except Fault String :=
    match s.fault, s.leading with
    | some fault, _ => .error fault
    | none, some _ => .error .malformed
    | none, none => .ok (String.ofList s.done.reverse)
  (⟨strict, .ok ()⟩, .ok rest)

/-- The rest of a string behind its opening mark. -/
def scanString (s : Spelled) : List Char → Lexeme String × Except Fault (List Char)
  | [] => s.breakOff .cutShort
  | '"' :: rest => s.finish rest
  | ['\\'] => s.breakOff .cutShort
  | ['\\', 'u'] => s.breakOff .cutShort
  | ['\\', 'u', a] =>
    match hexUnit (some a) none none none with
    | .ok _ => s.breakOff .cutShort
    | .error fault => s.breakOff fault
  | ['\\', 'u', a, b] =>
    match hexUnit (some a) (some b) none none with
    | .ok _ => s.breakOff .cutShort
    | .error fault => s.breakOff fault
  | ['\\', 'u', a, b, c] =>
    match hexUnit (some a) (some b) (some c) none with
    | .ok _ => s.breakOff .cutShort
    | .error fault => s.breakOff fault
  | '\\' :: 'u' :: a :: b :: c :: d :: rest =>
    match hexUnit (some a) (some b) (some c) (some d) with
    | .ok n => scanString (s.pushUnit n) rest
    | .error fault => s.breakOff fault
  | '\\' :: c :: rest =>
    match escaped? c with
    | some c => scanString (s.push c) rest
    | none => s.breakOff .malformed
  | c :: rest => if c.toNat < 0x20 then s.breakOff .malformed else scanString (s.push c) rest

/-! ## Values -/

/-- One of the three words. -/
def scanWord (word : List Char) (d : Doc) : List Char → Doc × Except Fault (List Char)
  | cs =>
    match word, cs with
    | [], cs => (d, .ok cs)
    | _ :: _, [] => (.stop .cutShort, .error .cutShort)
    | w :: word, c :: cs =>
      if w = c then scanWord word d cs else (.stop .malformed, .error .malformed)

/-- Closes a container: what stands in place of its bracket, and the rest behind it. -/
def close (rest : Except Fault (List Char)) : Except Fault Unit := rest.map fun _ => ()

/-- A key that is missing behind a comma. -/
def missingKey (fault : Fault) : Lexeme String × Doc :=
  (⟨.error fault, .error fault⟩, .stop fault)

mutual

/-- The value at the head of a text, and the rest behind it if a loose reading gets there. The
number bounds how many tokens may be read. -/
def readValue : Nat → List Char → Doc × Except Fault (List Char)
  | 0, _ => (.stop .malformed, .error .malformed)
  | fuel + 1, cs =>
    match skipSpace cs with
    | [] => (.stop .cutShort, .error .cutShort)
    | 'n' :: rest => scanWord ['u', 'l', 'l'] .null rest
    | 't' :: rest => scanWord ['r', 'u', 'e'] (.bool true) rest
    | 'f' :: rest => scanWord ['a', 'l', 's', 'e'] (.bool false) rest
    | '"' :: rest =>
      let (lexeme, rest) := scanString {} rest
      (.text lexeme, rest)
    | '[' :: rest =>
      match skipSpace rest with
      | [] => (.array [] (.error .cutShort), .error .cutShort)
      | ']' :: rest => (.array [] (.ok ()), .ok rest)
      | rest =>
        let (items, rest) := readItems fuel rest
        (.array items (close rest), rest)
    | '\x7b' :: rest =>
      match skipSpace rest with
      | [] => (.object [] (.error .cutShort), .error .cutShort)
      | '\x7d' :: rest => (.object [] (.ok ()), .ok rest)
      | '"' :: rest =>
        let (fields, rest) := readFields fuel rest
        (.object fields (close rest), rest)
      | _ => (.object [] (.error .malformed), .error .malformed)
    | c :: rest =>
      if c = '-' ∨ c.isDigit then
        let (lexeme, rest) := scanNumber (c :: rest)
        (.number lexeme, rest)
      else (.stop .malformed, .error .malformed)

/-- The items of a list from the next one on, and the rest behind its bracket. -/
def readItems : Nat → List Char → List Doc × Except Fault (List Char)
  | 0, _ => ([], .error .malformed)
  | fuel + 1, cs =>
    let (d, rest) := readValue fuel cs
    match rest with
    | .error fault => ([d], .error fault)
    | .ok rest =>
      match skipSpace rest with
      | [] => ([d], .error .cutShort)
      | ']' :: rest => ([d], .ok rest)
      | ',' :: rest =>
        match skipSpace rest with
        | [] => ([d, .stop .cutShort], .error .cutShort)
        | ']' :: _ => ([d, .stop .malformed], .error .malformed)
        | rest =>
          let (ds, rest) := readItems fuel rest
          (d :: ds, rest)
      | _ => ([d], .error .malformed)

/-- The fields of an object from the next one on, its opening mark already read, and the rest
behind the closing brace. -/
def readFields : Nat → List Char → List (Lexeme String × Doc) × Except Fault (List Char)
  | 0, _ => ([], .error .malformed)
  | fuel + 1, cs =>
    let (key, rest) := scanString {} cs
    match rest with
    | .error fault => ([(key, .stop fault)], .error fault)
    | .ok rest =>
      match skipSpace rest with
      | [] => ([(key, .stop .cutShort)], .error .cutShort)
      | ':' :: rest =>
        let (d, rest) := readValue fuel rest
        match rest with
        | .error fault => ([(key, d)], .error fault)
        | .ok rest =>
          match skipSpace rest with
          | [] => ([(key, d)], .error .cutShort)
          | '\x7d' :: rest => ([(key, d)], .ok rest)
          | ',' :: rest =>
            match skipSpace rest with
            | [] => ([(key, d), missingKey .cutShort], .error .cutShort)
            | '"' :: rest =>
              let (fs, rest) := readFields fuel rest
              ((key, d) :: fs, rest)
            | _ => ([(key, d), missingKey .malformed], .error .malformed)
          | _ => ([(key, d)], .error .malformed)
      | _ => ([(key, .stop .malformed)], .error .malformed)

end

end StatusWall.Json.Reader

namespace StatusWall.Json

open Reader in
/-- Reads a text as one document of a shape: the shape's own faults come first, then those of the
text behind it. -/
def readText {α : Type} (read : Origin → Doc → Except Fault α) (text : String) :
    Except Fault α := do
  let cs := text.toList
  let (d, rest) := readValue (2 * cs.length + 2) cs
  let a ← read (.text nestingLimit) d
  match rest with
  | .error fault => .error fault
  | .ok rest => if (skipSpace rest).isEmpty then return a else .error .malformed

/-- Reads a value as a document of a shape. -/
def readDoc {α : Type} (read : Origin → Doc → Except Fault α) (v : Value) : Except Fault α :=
  read .value (.ofValue v)

end StatusWall.Json
