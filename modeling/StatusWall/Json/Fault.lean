import StatusWall.Json.Value
import StatusWall.Text.Quoted

/-!
# Why a document is refused

A document can be malformed, it can end too early, or it can be well formed and not fit the shape
it is read as. The third kind carries its reason, and `Misfit.message` words it.
-/

namespace StatusWall.Json

/-- What stands in a document where something else was wanted. -/
inductive Found where
  | null
  | bool (b : Bool)
  | number (n : Number)
  | text (s : String)
  | sequence
  | map

/-- Why a well-formed document does not fit. -/
inductive Misfit where
  | wrongKind (found : Found) (wanted : String)
  | outOfRange (found : Found) (wanted : String)
  | wrongLength (count : Nat) (wanted : String)
  | missing (field : String)
  | repeated (field : String)
  | unknownVariant (name : String) (known : List String)

/-- Why a document is refused. -/
inductive Fault where
  | malformed
  | cutShort
  | misfit (reason : Misfit)

/-- The words for what stands in the document. -/
def Found.describe : Found → String
  | .null => "null"
  | .bool b => "boolean `" ++ (if b then "true" else "false") ++ "`"
  | .number (.real x) => "floating point `" ++ Number.text (.real x) ++ "`"
  | .number n => "integer `" ++ n.text ++ "`"
  | .text s => "string " ++ Text.quoted s
  | .sequence => "sequence"
  | .map => "map"

/-- The alternatives of an enumeration in words. -/
def alternatives (known : List String) : String :=
  "one of " ++ ", ".intercalate (known.map fun k => "`" ++ k ++ "`")

/-- The wording of a misfit. -/
def Misfit.message : Misfit → String
  | .wrongKind found wanted => "invalid type: " ++ found.describe ++ ", expected " ++ wanted
  | .outOfRange found wanted => "invalid value: " ++ found.describe ++ ", expected " ++ wanted
  | .wrongLength count wanted => "invalid length " ++ toString count ++ ", expected " ++ wanted
  | .missing field => "missing field `" ++ field ++ "`"
  | .repeated field => "duplicate field `" ++ field ++ "`"
  | .unknownVariant name known =>
    "unknown variant `" ++ name ++ "`, expected " ++ alternatives known

end StatusWall.Json
