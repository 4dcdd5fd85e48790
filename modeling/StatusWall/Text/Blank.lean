/-!
# Blank characters

Which characters count as blank space, and what is left of a text when the blanks around it are
taken away. The set is that of the character database: the ASCII blanks, the next-line control,
the no-break space and the typographic spaces, twenty-five characters in all.
-/

namespace StatusWall.Text

/-- The blank characters, by code point. -/
def isBlank (c : Char) : Bool :=
  let n := c.toNat
  (9 ≤ n && n ≤ 13) || n = 0x20 || n = 0x85 || n = 0xA0 || n = 0x1680 || (0x2000 ≤ n && n ≤ 0x200A) ||
    n = 0x2028 || n = 0x2029 || n = 0x202F || n = 0x205F || n = 0x3000

/-- Characters without the blanks at either end. -/
def trimChars (cs : List Char) : List Char :=
  ((cs.dropWhile isBlank).reverse.dropWhile isBlank).reverse

/-- A text without the blanks at either end. -/
def trim (s : String) : String := String.ofList (trimChars s.toList)

/-- A text of nothing but blanks, the empty one included. -/
def isBlankText (s : String) : Bool := s.toList.all isBlank

/-- Whether one run of characters stands somewhere inside another. -/
def occursIn (needle : List Char) : List Char → Bool
  | [] => needle.isEmpty
  | c :: cs => needle.isPrefixOf (c :: cs) || occursIn needle cs

/-- ASCII letters to lowercase, everything else as it is. -/
def asciiLower (s : String) : String := String.ofList (s.toList.map Char.toLower)

end StatusWall.Text
