import StatusWall.Document.CheckOptions
import StatusWall.Document.Kind
import StatusWall.Geometry.Basic

/-!
# Elements

An element is one widget of a board: what it shows, where it stands, and its options. Its numbers
are those of the geometry; a document's are doubles.
-/

namespace StatusWall

open Json StatusWall.Geometry

/-- One widget of a board. -/
structure Element (α : Type) where
  kind : ElementKind
  title : String
  rect : Rect α
  options : Fields
  rotation : α

namespace Element

variable {α : Type} [Scalar α]

/-- The rectangle of an element that has none. -/
def defaultRect : Rect α := { x := 0.0, y := 0.0, w := 30.0, h := 12.0 }

/-- Where an element stands once it is switched to the ticker kind. -/
def tickerRect : Rect α := { x := 0.0, y := 82.84371327849588, w := span, h := 16.0 }

/-- The element that is added to a board. -/
def default : Element α :=
  { kind := .staticText
    title := "New element"
    rect := defaultRect
    options := ElementKind.staticText.defaultOptions
    rotation := 0.0 }

/-- What gestures see of the element. -/
def placement (e : Element α) : Placement α :=
  { rect := e.rect, rotation := e.rotation, isTicker := e.kind.isTicker }

/-- Puts the element where a gesture left it. -/
def place (e : Element α) (p : Placement α) : Element α :=
  { e with rect := p.rect, rotation := p.rotation }

/-- Switches the element to a kind and its default options. A ticker also gets its place. -/
def changeKind (e : Element α) (kind : ElementKind) : Element α :=
  { e with
    kind
    options := kind.defaultOptions
    rect := if kind.isTicker then tickerRect else e.rect }

/-- The typed options of a check; other elements have none. -/
def checkOptions? (e : Element α) : Option CheckOptions :=
  if e.kind.pollsCheck then some (.ofOptions e.options) else none

/-- The object the element shows, if it shows one. -/
def target? (e : Element α) : Option CheckTarget := e.checkOptions?.bind (·.target)

/-- Merges entries into the options. -/
def updateOptions (e : Element α) (update : Fields) : Element α :=
  { e with options := e.options.merge update }

/-- The options after a check was bound to a target, or unbound. The other typed entries are written
back as they were read. -/
def boundOptions (options : Fields) (check : CheckOptions) (target : Option CheckTarget) : Fields :=
  let check :=
    { check with
      objectType := target.map fun (t : CheckTarget) => t.objectType.name
      filter := target.map CheckTarget.filter }
  let options :=
    if target.isNone then (options.without "objectType").without "filter" else options
  check.applyTo options

/-! ## In documents -/

/-- The fields of a rectangle, as far as they were met. -/
structure RectPlaces where
  x : Option Float := none
  y : Option Float := none
  w : Option Float := none
  h : Option Float := none

/-- Meets a field of a rectangle. -/
def RectPlaces.meet (p : RectPlaces) (k : String) (d : Doc) : Except Fault RectPlaces := do
  if k = "x" then return { p with x := ← Doc.fill k p.x d.asFloat }
  else if k = "y" then return { p with y := ← Doc.fill k p.y d.asFloat }
  else if k = "w" then return { p with w := ← Doc.fill k p.w d.asFloat }
  else if k = "h" then return { p with h := ← Doc.fill k p.h d.asFloat }
  else d.skip; return p

/-- The next number of a rectangle given as a list, of which `count` numbers were met. -/
def nextNumber (count : Nat) (items : List Doc) (fin : Except Fault Unit) :
    Except Fault (Float × List Doc) := do
  match ← Doc.nextItem Doc.asFloat items fin with
  | (some x, rest) => return (x, rest)
  | (none, _) => .error (.misfit (.wrongLength count "struct Rect with 4 elements"))

/-- Reads a rectangle: an object, or a list of its four numbers. -/
def readRect (origin : Origin) : Doc → Except Fault (Rect Float)
  | .object fields fin => do
    let _ ← origin.enter
    let p ← Doc.foldFields RectPlaces.meet {} fields
    fin
    return { x := ← Doc.require "x" p.x, y := ← Doc.require "y" p.y
             w := ← Doc.require "w" p.w, h := ← Doc.require "h" p.h }
  | .array items fin => do
    let _ ← origin.enter
    let (x, rest) ← nextNumber 0 items fin
    let (y, rest) ← nextNumber 1 rest fin
    let (w, rest) ← nextNumber 2 rest fin
    let (h, rest) ← nextNumber 3 rest fin
    Doc.endItems origin 4 rest fin
    return { x, y, w, h }
  | d => .error (d.unfit "struct Rect")

/-- The rectangle as an object. -/
def rectToJson (r : Rect Float) : Value :=
  .object [("h", .ofFloat r.h), ("w", .ofFloat r.w), ("x", .ofFloat r.x), ("y", .ofFloat r.y)]

/-- Reads options; null stands for none. -/
def readOptions (origin : Origin) (d : Doc) : Except Fault Fields :=
  (d.optional (Doc.asFields origin)).map (·.getD [])

/-- The fields of an element, as far as they were met. -/
structure Places where
  kind : Option ElementKind := none
  title : Option String := none
  rect : Option (Rect Float) := none
  options : Option Fields := none
  rotation : Option Float := none

/-- The element that the fields make up. Only the kind has no default. -/
def Places.element (p : Places) : Except Fault (Element Float) := do
  return { kind := ← Doc.require "type" p.kind
           title := p.title.getD ""
           rect := p.rect.getD defaultRect
           options := p.options.getD []
           rotation := p.rotation.getD 0.0 }

/-- Meets a field of an element. -/
def Places.meet (inner : Origin) (p : Places) (k : String) (d : Doc) : Except Fault Places := do
  if k = "type" then return { p with kind := ← Doc.fill k p.kind (ElementKind.read inner d) }
  else if k = "title" then return { p with title := ← Doc.fill k p.title d.asText }
  else if k = "rect" then return { p with rect := ← Doc.fill k p.rect (readRect inner d) }
  else if k = "options" then return { p with options := ← Doc.fill k p.options (readOptions inner d) }
  else if k = "rotation" then return { p with rotation := ← Doc.fill k p.rotation d.asFloat }
  else d.skip; return p

/-- Reads an element: an object, or a list of its fields. -/
def read (origin : Origin) : Doc → Except Fault (Element Float)
  | .object fields fin => do
    let inner ← origin.enter
    let p ← Doc.foldFields (Places.meet inner) {} fields
    fin
    p.element
  | .array items fin => do
    let inner ← origin.enter
    let (kind, rest) ← Doc.nextItem (ElementKind.read inner) items fin
    if kind.isNone then .error (.misfit (.wrongLength 0 "struct Element with 5 elements"))
    let (title, rest) ← Doc.nextItem Doc.asText rest fin
    let (rect, rest) ← Doc.nextItem (readRect inner) rest fin
    let (options, rest) ← Doc.nextItem (readOptions inner) rest fin
    let (rotation, rest) ← Doc.nextItem Doc.asFloat rest fin
    Doc.endItems origin 5 rest fin
    Places.element { kind, title, rect, options, rotation }
  | d => .error (d.unfit "struct Element")

/-- The element as a document. -/
def toJson (e : Element Float) : Value :=
  .object
    [("options", .object e.options), ("rect", rectToJson e.rect), ("rotation", .ofFloat e.rotation),
     ("title", .text e.title), ("type", .text e.kind.wireName)]

end Element

end StatusWall
