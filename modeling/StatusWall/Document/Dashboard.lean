import StatusWall.Document.Element
import StatusWall.Document.Title

/-!
# Dashboards

A dashboard is the document that a board shows and the server stores: a title, a background, and a
list of elements. The second half of this module edits the list. An edit that names a place outside
the list changes nothing and says so.
-/

namespace StatusWall

open Json

/-- A board as a document. -/
structure Dashboard (α : Type) where
  title : String := ""
  slug : String := ""
  background : String := ""
  /-- The background's width, as text. -/
  width : String := ""
  /-- The background's height, as text. -/
  height : String := ""
  tags : List String := []
  elements : List (Element α) := []
  globalMute : Bool := false
  sounds : SoundSet := {}

namespace Dashboard

variable {α : Type}

/-- An empty board with the bundled sounds, muted until someone opts in. -/
def new (title : String) : Dashboard α :=
  { title, slug := Title.slug title, globalMute := true, sounds := .bundled }

/-- What the board says about alerts. -/
def alertConfig (d : Dashboard α) : AlertConfig :=
  { globalMute := d.globalMute, defaultSounds := d.sounds }

/-- The aspect ratio of a board whose background has no known size. -/
def defaultAspect : Float32 := 16 / 9

/-- A length written in a text, if it is finite and positive. -/
def length? (text : String) : Option Float32 := do
  let x ← Decimal.float32OfText? (Text.trimChars text.toList)
  if 0 < x ∧ x.isFinite then some x else none

/-- Width over height of the background. -/
def aspectRatio (d : Dashboard α) : Float32 :=
  match length? d.width, length? d.height with
  | some w, some h => w / h
  | _, _ => defaultAspect

/-! ## Editing the list -/

section Editing

variable [Geometry.Scalar α]

/-- Appends the default element; answers its place. -/
def addElement (d : Dashboard α) : Dashboard α × Nat :=
  ({ d with elements := d.elements ++ [.default] }, d.elements.length)

/-- Removes an element. -/
def deleteElement (d : Dashboard α) (index : Nat) : Dashboard α × Option (Element α) :=
  match d.elements[index]? with
  | some e => ({ d with elements := d.elements.eraseIdx index }, some e)
  | none => (d, none)

/-- Appends a copy of an element; answers the copy's place. -/
def duplicateElement (d : Dashboard α) (index : Nat) : Dashboard α × Option Nat :=
  match d.elements[index]? with
  | some e => ({ d with elements := d.elements ++ [e] }, some d.elements.length)
  | none => (d, none)

/-- Replaces an element by what `change` makes of it. -/
def modifyElement (d : Dashboard α) (index : Nat) (change : Element α → Element α) :
    Dashboard α :=
  { d with elements := d.elements.modify index change }

/-- Whether the list has an element there. -/
def has (d : Dashboard α) (index : Nat) : Bool := index < d.elements.length

/-- Gives an element another title. -/
def retitleElement (d : Dashboard α) (index : Nat) (title : String) : Dashboard α × Bool :=
  if d.has index then (d.modifyElement index fun e => { e with title }, true) else (d, false)

/-- Switches an element to another kind. -/
def changeElementKind (d : Dashboard α) (index : Nat) (kind : ElementKind) : Dashboard α × Bool :=
  if d.has index then (d.modifyElement index fun e => e.changeKind kind, true) else (d, false)

end Editing

/-- Takes the entry at `source` out of a list and puts it in again, so that it ends up at
`destination`. -/
def moveEntry {β : Type} (entries : List β) (source destination : Nat) : List β :=
  match entries[source]? with
  | some e => (entries.eraseIdx source).insertIdx destination e
  | none => entries

/-- Moves an element to another place. -/
def reorderElements (d : Dashboard α) (source destination : Nat) : Dashboard α × Bool :=
  if d.has source ∧ d.has destination then
    ({ d with elements := moveEntry d.elements source destination }, true)
  else (d, false)

/-- The boards of a list whose titles contain a filter. -/
def filterByTitle (boards : List (Dashboard α)) (filter : String) : List (Dashboard α) :=
  boards.filter fun d => Title.contains d.title filter

/-! ## In documents -/

/-- A length is written as a text or as a number; anything else is no length. -/
def readLength (origin : Origin) (d : Doc) : Except Fault String := do
  match ← d.toValue origin with
  | .text s => return s
  | .number n => return n.text
  | _ => return ""

/-- The fields of a board, as far as they were met. -/
structure Places where
  title : Option String := none
  slug : Option String := none
  background : Option String := none
  width : Option String := none
  height : Option String := none
  tags : Option (List String) := none
  elements : Option (List (Element Float)) := none
  globalMute : Option Bool := none
  /-- What stands under the other keys, last one first. The sounds are among it. -/
  others : List (String × Value) := []

/-- Meets a field of a board. -/
def Places.meet (inner : Origin) (p : Places) (k : String) (d : Doc) : Except Fault Places := do
  if k = "title" then return { p with title := ← Doc.fill k p.title d.asText }
  else if k = "slug" then return { p with slug := ← Doc.fill k p.slug d.asText }
  else if k = "background" then return { p with background := ← Doc.fill k p.background d.asText }
  else if k = "width" then return { p with width := ← Doc.fill k p.width (readLength inner d) }
  else if k = "height" then return { p with height := ← Doc.fill k p.height (readLength inner d) }
  else if k = "tags" then
    let tags := (d.optional (Doc.asList inner fun _ => Doc.asText)).map (·.getD [])
    return { p with tags := ← Doc.fill k p.tags tags }
  else if k = "elements" then
    let elements := (d.optional (Doc.asList inner Element.read)).map (·.getD [])
    return { p with elements := ← Doc.fill k p.elements elements }
  else if k = "globalMute" then return { p with globalMute := ← Doc.fill k p.globalMute d.asBool }
  else return { p with others := (k, ← d.toValue inner) :: p.others }

/-- The board that the fields make up. Its sounds are looked for among the other fields. -/
def Places.board (p : Places) : Except Fault (Dashboard Float) := do
  return { title := p.title.getD ""
           slug := p.slug.getD ""
           background := p.background.getD ""
           width := p.width.getD ""
           height := p.height.getD ""
           tags := p.tags.getD []
           elements := p.elements.getD []
           globalMute := p.globalMute.getD false
           sounds := ← SoundSet.ofFields p.others.reverse fun _ => none }

/-- Reads a board. -/
def read (origin : Origin) : Doc → Except Fault (Dashboard Float)
  | .object fields fin => do
    let inner ← origin.enter
    let p ← Doc.foldFields (Places.meet inner) {} fields
    fin
    p.board
  | d => .error (d.unfit "struct Dashboard")

/-- The board as a document. Sounds that are not set are left out. -/
def toJson (d : Dashboard Float) : Value :=
  .object (Fields.merge
    [("background", .text d.background), ("elements", .array (d.elements.map Element.toJson)),
     ("globalMute", .bool d.globalMute), ("height", .text d.height), ("slug", .text d.slug),
     ("tags", .array (d.tags.map .text)), ("title", .text d.title), ("width", .text d.width)]
    d.sounds.fields)

end Dashboard

end StatusWall
