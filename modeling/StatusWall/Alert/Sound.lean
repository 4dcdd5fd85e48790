import StatusWall.Check.State
import StatusWall.Json.Doc

/-!
# Alert sounds

A set of sounds names at most one sound file per state. A blank name is no sound. The widget's own
set is asked first, the board's second, and either of them can mute an alert without changing which
sound it would have been.
-/

namespace StatusWall

open Json

/-- At most one sound per state. -/
structure SoundSet where
  ok : Option String := none
  warning : Option String := none
  critical : Option String := none
  unknown : Option String := none
  up : Option String := none
  down : Option String := none
  deriving DecidableEq, Repr

namespace SoundSet

/-- The sounds the server brings along. -/
def bundled : SoundSet :=
  let path (name : String) := some ("/dashboards-data/" ++ name ++ ".mp3")
  { ok := path "ok", warning := path "warning", critical := path "critical"
    unknown := path "unknown", up := path "up", down := path "down" }

/-- The key of a state's sound in a document. -/
def key : CheckState → String
  | .ok => "okSound"
  | .warning => "warningSound"
  | .critical => "criticalSound"
  | .unknown => "unknownSound"
  | .up => "upSound"
  | .down => "downSound"

/-- The state whose sound a key holds. -/
def stateOfKey? (key : String) : Option CheckState := CheckState.all.find? fun s => SoundSet.key s = key

/-- The entry of a state as it was given, blank or not. -/
def entry (sounds : SoundSet) : CheckState → Option String
  | .ok => sounds.ok
  | .warning => sounds.warning
  | .critical => sounds.critical
  | .unknown => sounds.unknown
  | .up => sounds.up
  | .down => sounds.down

/-- Changes the entry of a state. -/
def setEntry (sounds : SoundSet) (state : CheckState) (entry : Option String) : SoundSet :=
  match state with
  | .ok => { sounds with ok := entry }
  | .warning => { sounds with warning := entry }
  | .critical => { sounds with critical := entry }
  | .unknown => { sounds with unknown := entry }
  | .up => { sounds with up := entry }
  | .down => { sounds with down := entry }

/-- The sound of a state. -/
def get? (sounds : SoundSet) (state : CheckState) : Option String :=
  (sounds.entry state).filter fun url => !Text.isBlankText url

/-! ## In documents -/

/-- The fields of a document: the entries that are given, under their keys. -/
def fields (sounds : SoundSet) : List (String × Value) :=
  CheckState.all.filterMap fun s => (sounds.entry s).map fun url => (key s, Value.text url)

/-- The set as a document of its own. -/
def toJson (sounds : SoundSet) : Value := .object (Fields.ofList sounds.fields)

/-- The entries met so far in a document; a state is met when its key is. -/
abbrev Places := CheckState → Option (Option String)

/-- The set that the entries make up. What was not met is absent. -/
def ofPlaces (places : Places) : SoundSet :=
  let entry (s : CheckState) : Option String := (places s).getD none
  { ok := entry .ok, warning := entry .warning, critical := entry .critical
    unknown := entry .unknown, up := entry .up, down := entry .down }

/-- Meets the field of a state. -/
def meet (places : Places) (state : CheckState) (d : Doc) : Except Fault Places := do
  let filled ← Doc.fill (key state) (places state) (d.optional Doc.asText)
  return fun s => if s = state then filled else places s

/-- Reads the sounds among the fields of a larger document; what else is there is not looked at. -/
def ofFields : List (String × Value) → Places → Except Fault SoundSet
  | [], places => .ok (ofPlaces places)
  | (k, v) :: rest, places =>
    match stateOfKey? k with
    | some state => do ofFields rest (← meet places state (.ofValue v))
    | none => ofFields rest places

/-- Reads the sounds of a set given as a list, one per state. -/
def readList : List CheckState → Places → List Doc → Except Fault Unit →
    Except Fault (Places × List Doc)
  | [], places, items, _ => .ok (places, items)
  | state :: states, places, items, fin => do
    let (entry, items) ← Doc.nextItem (Doc.optional Doc.asText) items fin
    readList states (fun s => if s = state then entry else places s) items fin

/-- Reads a set that is a document of its own: an object, or a list in the order of the states. -/
def read (origin : Origin) : Doc → Except Fault SoundSet
  | .object fields fin => do
    let _ ← origin.enter
    let step (places : Places) (k : String) (d : Doc) : Except Fault Places :=
      match stateOfKey? k with
      | some state => meet places state d
      | none => do d.skip; return places
    let places ← Doc.foldFields step (fun _ => none) fields
    fin
    return ofPlaces places
  | .array items fin => do
    let _ ← origin.enter
    let (places, rest) ← readList CheckState.all (fun _ => none) items fin
    Doc.endItems origin 6 rest fin
    return ofPlaces places
  | d => .error (d.unfit "struct SoundSet")

end SoundSet

/-- What the board says about alerts; read anew at every poll. -/
structure AlertConfig where
  globalMute : Bool := false
  defaultSounds : SoundSet := {}
  deriving DecidableEq, Repr

/-- What a widget says about its alerts. -/
structure SoundPolicy where
  muted : Bool := false
  overrides : SoundSet := {}
  deriving DecidableEq, Repr

namespace SoundPolicy

/-- The widget's own sound, else the board's. -/
def soundFor (policy : SoundPolicy) (state : CheckState) (config : AlertConfig) : Option String :=
  (policy.overrides.get? state).or (config.defaultSounds.get? state)

/-- Whether an alert is heard. -/
def isAudible (policy : SoundPolicy) (config : AlertConfig) : Bool :=
  !(policy.muted || config.globalMute)

end SoundPolicy

/-- An alert: the state that was entered, its sound if there is one, and whether it is heard. -/
structure AlertSound where
  state : CheckState
  url : Option String
  audible : Bool
  deriving DecidableEq, Repr

/-- The volume an alert is played at: full or none. -/
def AlertSound.volume (s : AlertSound) : Nat := if s.audible then 1 else 0

end StatusWall
