import StatusWall.Alert.Machine

/-!
# The options of a check

The options of an element are a free map. A check keeps the object it shows, its mute flag and its
sounds there, next to whatever else the map holds. `CheckOptions` is the typed view of these
entries: `parse?` reads it, `fields` writes it. A map in which one of the entries has the wrong type
has no typed view, and counts as one in which nothing is configured.
-/

namespace StatusWall

open Json

/-- The typed view of a check's options. -/
structure CheckOptions where
  objectType : Option String := none
  filter : Option String := none
  muteAlerts : Bool := false
  sounds : SoundSet := {}
  deriving DecidableEq, Repr

namespace CheckOptions

/-- A text that may be missing or null. The outer `none` means that something else is there. -/
def textEntry? (options : Fields) (key : String) : Option (Option String) :=
  match options.get? key with
  | none => some none
  | some .null => some none
  | some (.text s) => some (some s)
  | some _ => none

/-- A flag that may be missing. The outer `none` means that something else is there, null
included. -/
def flagEntry? (options : Fields) (key : String) : Option Bool :=
  match options.get? key with
  | none => some false
  | some (.bool b) => some b
  | some _ => none

/-- The sounds among the options. -/
def soundEntries? (options : Fields) : Option SoundSet := do
  return { ok := ← textEntry? options (SoundSet.key .ok)
           warning := ← textEntry? options (SoundSet.key .warning)
           critical := ← textEntry? options (SoundSet.key .critical)
           unknown := ← textEntry? options (SoundSet.key .unknown)
           up := ← textEntry? options (SoundSet.key .up)
           down := ← textEntry? options (SoundSet.key .down) }

/-- The typed view of an options map, if every entry has its type. -/
def parse? (options : Fields) : Option CheckOptions := do
  return { objectType := ← textEntry? options "objectType"
           filter := ← textEntry? options "filter"
           muteAlerts := ← flagEntry? options "muteAlerts"
           sounds := ← soundEntries? options }

/-- What is wrong with an ill-typed map: the first entry, in the order of the keys, that has the wrong
type. The sounds come last. -/
def misfit? (options : Fields) : Option Misfit :=
  let typed (key : String) (v : Value) : Except Fault Unit :=
    if key = "muteAlerts" then ((Doc.ofValue v).asBool).map fun _ => ()
    else ((Doc.ofValue v).optional Doc.asText).map fun _ => ()
  let fault? (keys : List String) (f : String × Value) : Option Misfit :=
    if keys.contains f.1 then
      match typed f.1 f.2 with
      | .error (.misfit m) => some m
      | _ => none
    else none
  (options.findSome? (fault? ["filter", "muteAlerts", "objectType"])).or
    (options.findSome? (fault? (CheckState.all.map SoundSet.key)))

/-- The typed view of an options map; an ill-typed map counts as unconfigured. -/
def ofOptions (options : Fields) : CheckOptions := (parse? options).getD {}

/-- The object to show: none until its type can be read and its filter is not blank. -/
def target (o : CheckOptions) : Option CheckTarget := do
  let objectType ← ObjectType.parse? (← o.objectType)
  CheckTarget.ofFilter? objectType (← o.filter)

/-- What the widget says about its alerts. -/
def policy (o : CheckOptions) : SoundPolicy := { muted := o.muteAlerts, overrides := o.sounds }

/-- The entries of the typed view. What is absent has none; the mute flag always has one. -/
def fields (o : CheckOptions) : List (String × Value) :=
  (o.objectType.map fun s => ("objectType", Value.text s)).toList ++
    (o.filter.map fun s => ("filter", Value.text s)).toList ++
    ("muteAlerts", Value.bool o.muteAlerts) :: o.sounds.fields

/-- The typed view as a document of its own. -/
def toJson (o : CheckOptions) : Value := .object (Fields.ofList o.fields)

/-- Writes the typed view into a map. Other keys keep their values. -/
def applyTo (o : CheckOptions) (options : Fields) : Fields := options.merge o.fields

end CheckOptions

end StatusWall
