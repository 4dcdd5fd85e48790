import StatusWall.Text.CaseTable

/-!
# Lowercase

Lowercasing as the character database defines it, for texts and not only for characters: one
character grows to two (the dotted capital I), and one letter's lowercase depends on where it
stands. A capital sigma at the end of a word becomes the final form, elsewhere the plain one.

A sigma ends a word when a cased character stands somewhere before it and none after it, looking
through the characters that do not count (`isCaseIgnorable`) on both sides.
-/

namespace StatusWall.Text

/-- Whether a code point lies in one of the runs. -/
def inRanges (ranges : List (Nat × Nat)) (n : Nat) : Bool :=
  ranges.any fun r => r.1 ≤ n && n ≤ r.2

/-- Looked through when a word's end is sought. -/
def isCaseIgnorable (c : Char) : Bool := inRanges caseIgnorableRanges c.toNat

/-- Carries case, and is not looked through. -/
def isCased (c : Char) : Bool := inRanges casedRanges c.toNat

/-- The lowercase of one character by itself. -/
def lowerChar (c : Char) : List Char :=
  if c.toNat < 128 then [c.toLower]
  else if c.toNat = 0x130 then ['i', Char.ofNat 0x307]
  else match caseRuns.findSome? (·.lower? c.toNat) with
    | some n => [Char.ofNat n]
    | none => [c]

/-- Whether the first character that counts carries case. -/
def startsCased (cs : List Char) : Bool :=
  match cs.dropWhile isCaseIgnorable with
  | [] => false
  | c :: _ => isCased c

/-- Lowercases `cs`, which follows the characters `before`, nearest first. -/
def lowerAfter (before : List Char) : List Char → List Char
  | [] => []
  | c :: cs =>
    let here :=
      if c.toNat = 0x3A3 then
        [if startsCased before && !startsCased cs then Char.ofNat 0x3C2 else Char.ofNat 0x3C3]
      else lowerChar c
    here ++ lowerAfter (c :: before) cs

/-- The lowercase of a run of characters. -/
def lowerChars (cs : List Char) : List Char := lowerAfter [] cs

/-- The lowercase of a text. -/
def lower (s : String) : String := String.ofList (lowerChars s.toList)

end StatusWall.Text
