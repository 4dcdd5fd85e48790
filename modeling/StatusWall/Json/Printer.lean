import StatusWall.Json.Value

/-!
# Writing JSON text

Two spellings of a value: the compact one, without any blanks, and the indented one, with a field
or an item per line. Both escape what a string must escape and nothing else.
-/

namespace StatusWall.Json

/-- One character inside a string. -/
def escapeChar (c : Char) : List Char :=
  if c = '"' ∨ c = '\\' then ['\\', c]
  else if c.toNat = 8 then ['\\', 'b']
  else if c.toNat = 12 then ['\\', 'f']
  else if c = '\n' then ['\\', 'n']
  else if c = '\r' then ['\\', 'r']
  else if c = '\t' then ['\\', 't']
  else if c.toNat < 0x20 then
    let ds := Nat.toDigits 16 c.toNat
    ['\\', 'u'] ++ List.replicate (4 - ds.length) '0' ++ ds
  else [c]

/-- A string between its marks. -/
def stringText (s : String) : String :=
  String.ofList ('"' :: s.toList.flatMap escapeChar ++ ['"'])

mutual

/-- The compact spelling. -/
def Value.compact : Value → String
  | .null => "null"
  | .bool b => if b then "true" else "false"
  | .number n => n.text
  | .text s => stringText s
  | .array items => "[" ++ ",".intercalate (compactItems items) ++ "]"
  | .object fields => "\x7b" ++ ",".intercalate (compactFields fields) ++ "\x7d"

def compactItems : List Value → List String
  | [] => []
  | v :: rest => v.compact :: compactItems rest

def compactFields : List (String × Value) → List String
  | [] => []
  | (k, v) :: rest => (stringText k ++ ":" ++ v.compact) :: compactFields rest

end

/-- A container over several lines, its parts indented by `depth + 1` steps. -/
def indented (opening closing : String) (depth : Nat) (parts : List String) : String :=
  if parts.isEmpty then opening ++ closing
  else
    let step := "".pushn ' ' (2 * (depth + 1))
    opening ++ "\n" ++ ",\n".intercalate (parts.map (step ++ ·)) ++ "\n" ++
      "".pushn ' ' (2 * depth) ++ closing

mutual

/-- The indented spelling, two blanks a step. -/
def Value.pretty (depth : Nat) : Value → String
  | .array items => indented "[" "]" depth (prettyItems (depth + 1) items)
  | .object fields => indented "\x7b" "\x7d" depth (prettyFields (depth + 1) fields)
  | .null => "null"
  | .bool b => if b then "true" else "false"
  | .number n => n.text
  | .text s => stringText s

def prettyItems (depth : Nat) : List Value → List String
  | [] => []
  | v :: rest => v.pretty depth :: prettyItems depth rest

def prettyFields (depth : Nat) : List (String × Value) → List String
  | [] => []
  | (k, v) :: rest => (stringText k ++ ": " ++ v.pretty depth) :: prettyFields depth rest

end

end StatusWall.Json
