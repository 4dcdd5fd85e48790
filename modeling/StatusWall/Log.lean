import StatusWall.Text.Lowercase

/-!
# Log records

What the program tells about itself while it runs: a level, the part of the program that speaks, a
message, and named values. A record is written when its level is no more talkative than the level
that was asked for.
-/

namespace StatusWall

/-- How talkative a record is, from the least to the most. -/
inductive LogLevel where
  | error
  | warn
  | info
  | debug
  | trace
  deriving DecidableEq, Repr

namespace LogLevel

/-- The rank of a level: more talkative levels rank higher. -/
def rank : LogLevel → Nat
  | .error => 0
  | .warn => 1
  | .info => 2
  | .debug => 3
  | .trace => 4

/-- The level's name in a record. -/
def name : LogLevel → String
  | .error => "ERROR"
  | .warn => "WARN"
  | .info => "INFO"
  | .debug => "DEBUG"
  | .trace => "TRACE"

/-- The level that a text asks for, in any case. Whatever is no level asks for the middle one. -/
def ofText (text : String) : LogLevel :=
  let name := Text.lower text
  if name = "trace" then .trace
  else if name = "debug" then .debug
  else if name = "warn" then .warn
  else if name = "error" then .error
  else .info

end LogLevel

/-- One record. -/
structure LogRecord where
  level : LogLevel
  source : String
  message : String
  fields : List (String × String) := []
  deriving DecidableEq, Repr

/-- The record on one line. A value called `message` stands without its name. -/
def LogRecord.line (r : LogRecord) : String :=
  let field (f : String × String) := if f.1 = "message" then f.2 else f.1 ++ "=" ++ f.2
  " ".intercalate (r.level.name :: (r.source ++ ":") :: r.message :: r.fields.map field)

/-- Whether a record is written when `level` was asked for. -/
def LogRecord.isWritten (r : LogRecord) (level : LogLevel) : Bool := r.level.rank ≤ level.rank

end StatusWall
