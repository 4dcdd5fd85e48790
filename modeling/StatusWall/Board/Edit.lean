import StatusWall.Board.Basic

/-!
# Working on a board

Everything the user can do to a board: edit the document, press and move the pointer, choose a
widget. Operations that name a widget fail when there is no such widget, and a failed operation
leaves the board as it was.
-/

namespace StatusWall.Board

open Json StatusWall.Geometry

variable {α : Type}

/-! ## The document as a whole -/

/-- Gives the document another title; answers whether that changed anything. -/
def setTitle (b : Board α) (title : String) : Board α × Bool :=
  if b.dashboard.title = title then (b, false)
  else ({ b with dashboard := { b.dashboard with title } }, true)

/-- Gives the document another background; answers whether that changed anything. -/
def setBackground (b : Board α) (url : String) : Board α × Bool :=
  if b.dashboard.background = url then (b, false)
  else ({ b with dashboard := { b.dashboard with background := url } }, true)

/-- Takes over the slug the document is stored under, and tells the tasks. -/
def setSlug (b : Board α) (slug : String) : Board α :=
  if b.dashboard.slug = slug then b
  else
    let b := { b with dashboard := { b.dashboard with slug } }
    b.widgets.foldl (fun b w =>
      match w.poller with
      | some handle => b.withFleet (·.setSlug handle.id slug)
      | none => b) b

/-- Mutes or unmutes the document. -/
def setGlobalMute (b : Board α) (muted : Bool) : Board α :=
  { b with dashboard := { b.dashboard with globalMute := muted } }

/-! ## Selection and pointer -/

/-- Chooses a widget, or none. While a gesture runs the choice stays. -/
def select (b : Board α) (id : Option WidgetId) : Board α :=
  if b.drag.isDragging then b
  else { b with selected := id.filter fun id => (b.indexOf? id).isSome }

/-- A press. On the canvas it clears the choice, on the body of another widget it chooses that
widget, and on the chosen widget it begins a gesture. -/
def pointerDown (b : Board α) (target : PointerTarget) : Board α × Option Gesture :=
  if b.drag.isDragging then (b, none)
  else
    let press (b : Board α) : Board α × Option Gesture :=
      let (drag, gesture) := b.drag.pointerDown target b.selected
      ({ b with drag }, gesture)
    match target with
    | .canvas => ({ b with selected := none }, none)
    | .body id => if b.selected = some id then press b else (b.select (some id), none)
    | _ => press b

/-- The pointer moved: the running gesture places its widget anew. -/
def pointerMove [Scalar α] (b : Board α) (event : PointerEvent α) (layout : Layout α) :
    Board α × Option WidgetId :=
  match b.drag.active with
  | none => (b, none)
  | some (id, _) =>
    match b.indexOf? id with
    | none => ({ b with drag := b.drag.cancel }, none)
    | some index =>
      let moved :=
        b.dashboard.elements[index]?.bind fun e =>
          (b.drag.pointerMove event layout e.placement).map e.place
      match moved with
      | none => (b, none)
      | some e => ({ b with dashboard := b.dashboard.modifyElement index fun _ => e }, some id)

/-- The release. -/
def pointerUp (b : Board α) : Board α × Option WidgetId :=
  let (drag, id) := b.drag.pointerUp
  ({ b with drag }, id)

/-- Abandons the gesture if it is on the given widget. -/
def cancelDragOf (b : Board α) (id : WidgetId) : Board α :=
  if (b.drag.active.map (·.1)) = some id then { b with drag := b.drag.cancel } else b

/-! ## The list of elements -/

/-- Appends the default element and chooses it. -/
def addElement [Scalar α] (b : Board α) : Board α × WidgetId :=
  let (dashboard, index) := b.dashboard.addElement
  let (b, id) := { b with dashboard }.mountWidget
  ((b.syncPoller index).select (some id), id)

/-- Removes a widget. Its gesture, its selection and its task end with it. -/
def deleteElement (b : Board α) (id : WidgetId) : Board α × Option (Element α) :=
  match b.indexOf? id with
  | none => (b, none)
  | some index =>
    let b := b.cancelDragOf id
    let b := if b.selected = some id then { b with selected := none } else b
    let b := b.stopPolling index
    let (dashboard, element) := b.dashboard.deleteElement index
    ({ b with dashboard, widgets := b.widgets.eraseIdx index }, element)

/-- Appends a copy of a widget. The copy has a task of its own. -/
def duplicateElement (b : Board α) (id : WidgetId) : Board α × Option WidgetId :=
  match b.indexOf? id with
  | none => (b, none)
  | some index =>
    match b.dashboard.duplicateElement index with
    | (_, none) => (b, none)
    | (dashboard, some copyIndex) =>
      let (b, copy) := { b with dashboard }.mountWidget
      (b.syncPoller copyIndex, some copy)

/-- Moves a widget to another place in the list. -/
def reorderElement (b : Board α) (id : WidgetId) (destination : Nat) : Board α × Bool :=
  match b.indexOf? id with
  | none => (b, false)
  | some source =>
    match b.dashboard.reorderElements source destination with
    | (_, false) => (b, false)
    | (dashboard, true) =>
      ({ b with dashboard, widgets := Dashboard.moveEntry b.widgets source destination }, true)

/-! ## One element -/

/-- Gives a widget another title. -/
def retitleElement (b : Board α) (id : WidgetId) (title : String) : Board α × Bool :=
  match b.indexOf? id with
  | none => (b, false)
  | some index =>
    let (dashboard, done) := b.dashboard.retitleElement index title
    ({ b with dashboard }, done)

/-- Switches a widget to another kind. Its gesture ends. -/
def changeKind [Scalar α] (b : Board α) (id : WidgetId) (kind : ElementKind) : Board α × Bool :=
  match b.indexOf? id with
  | none => (b, false)
  | some index =>
    let b := b.cancelDragOf id
    let b := { b with dashboard := (b.dashboard.changeElementKind index kind).1 }
    (b.syncPoller index, true)

/-- Changes the options of the widget at a place, and its task accordingly. -/
def changeOptions (b : Board α) (index : Nat) (change : Fields → Fields) : Board α :=
  let dashboard := b.dashboard.modifyElement index fun e => { e with options := change e.options }
  { b with dashboard }.syncPoller index

/-- Merges entries into the options of a widget. -/
def updateOptions (b : Board α) (id : WidgetId) (update : Fields) : Board α × Bool :=
  match b.indexOf? id with
  | none => (b, false)
  | some index => (b.changeOptions index (·.merge update), true)

/-- Binds a check to an object, or unbinds it. Widgets that are no checks cannot be bound. -/
def setTarget (b : Board α) (id : WidgetId) (target : Option CheckTarget) : Board α × Bool :=
  match b.indexOf? id with
  | none => (b, false)
  | some index =>
    match b.dashboard.elements[index]?.bind Element.checkOptions? with
    | none => (b, false)
    | some check =>
      (b.changeOptions index fun options => Element.boundOptions options check target, true)

/-- Sets a check's own sound for a state; a blank one leaves the state to the board's sounds. -/
def setSoundOverride (b : Board α) (id : WidgetId) (state : CheckState) (url : String) :
    Board α × Bool :=
  match (b.element? id).bind Element.checkOptions? with
  | none => (b, false)
  | some _ => b.updateOptions id [(SoundSet.key state, .text url)]

/-! ## Uploads -/

/-- Where the address of an uploaded file goes. -/
inductive UploadTarget where
  | background
  | sound (widget : WidgetId) (state : CheckState)
  deriving DecidableEq, Repr

/-- Stores the address of an uploaded file; answers whether it had a place to go. -/
def applyUpload (b : Board α) (target : UploadTarget) (url : String) : Board α × Bool :=
  match target with
  | .background => b.setBackground url
  | .sound widget state => b.setSoundOverride widget state url

end StatusWall.Board
