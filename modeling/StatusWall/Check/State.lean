import StatusWall.Text.Blank

/-!
# Monitored objects and their states

A monitored object is a service or a host. A check reports a result code, and the code resolves to
one of the states its kind of object can be in: four for a service, two for a host. Codes nobody
defined resolve to the state that asks for attention.
-/

namespace StatusWall

/-- What kind of object is monitored. -/
inductive ObjectType where
  | service
  | host
  deriving DecidableEq, Repr

/-- The state of a monitored object. -/
inductive CheckState where
  | ok
  | warning
  | critical
  | unknown
  | up
  | down
  deriving DecidableEq, Repr

namespace ObjectType

/-- The name in requests and documents. -/
def name : ObjectType → String
  | .service => "service"
  | .host => "host"

/-- Reads a name in any ASCII case with blanks around it. -/
def parse? (text : String) : Option ObjectType :=
  let word := Text.asciiLower (Text.trim text)
  if word = "service" then some .service
  else if word = "host" then some .host
  else none

/-- The states an object of the type can be in, from the healthy one on. -/
def severities : ObjectType → List CheckState
  | .service => [.ok, .warning, .critical, .unknown]
  | .host => [.up, .down]

end ObjectType

namespace CheckState

/-- Every state, in the order of the types. -/
def all : List CheckState := [.ok, .warning, .critical, .unknown, .up, .down]

/-- The name in messages and documents. -/
def name : CheckState → String
  | .ok => "ok"
  | .warning => "warning"
  | .critical => "critical"
  | .unknown => "unknown"
  | .up => "up"
  | .down => "down"

/-- The state with a given name. -/
def ofName? (name : String) : Option CheckState := all.find? fun s => s.name = name

/-- Nothing to worry about. -/
def isHealthy : CheckState → Bool
  | .ok => true
  | .up => true
  | _ => false

/-- The state a result code stands for. A host is up or down and nothing else. -/
def resolve (type : ObjectType) (code : Int) : CheckState :=
  match type with
  | .service =>
    if code = 0 then .ok else if code = 1 then .warning else if code = 2 then .critical else .unknown
  | .host => if code = 0 then .up else .down

theorem resolve_mem_severities (type : ObjectType) (code : Int) :
    resolve type code ∈ type.severities := by
  cases type <;> simp only [resolve, ObjectType.severities] <;> (repeat' split) <;> simp

end CheckState

/-- The object a widget shows: its type, and the filter that picks it out. -/
structure CheckTarget where
  objectType : ObjectType
  filter : String
  deriving DecidableEq, Repr

namespace CheckTarget

/-- A target; a blank filter picks nothing out. -/
def ofFilter? (objectType : ObjectType) (filter : String) : Option CheckTarget :=
  if Text.isBlankText filter then none else some { objectType, filter }

/-- The target in messages. -/
def text (t : CheckTarget) : String := t.objectType.name ++ ":" ++ t.filter

end CheckTarget

end StatusWall
