import StatusWall.Panel.Basic

/-!
# Working with the edit panel

What the user can do in the panel, and what comes of it. An action on something that the panel does
not show is no action: `Panel.act` answers nothing then. After an action the panel follows the
board's choice, because the action may have changed it.
-/

namespace StatusWall

open StatusWall.Geometry Json

/-- Something the user does in the panel. Rows of the list are named by their place. -/
inductive PanelAction where
  /-- Only looks. -/
  | look
  /-- Types a text into the field for the board's title and confirms it. -/
  | typeTitle (text : String)
  | typeBackground (text : String)
  | typeUploadPath (text : String)
  | typeName (text : String)
  | typeFilter (text : String)
  | uploadBackground
  | toggleGlobalMute
  | addElement
  | selectRow (row : Nat)
  | moveRowUp (row : Nat)
  | moveRowDown (row : Nat)
  | duplicateRow (row : Nat)
  | deleteRow (row : Nat)
  | chooseKind (kind : ElementKind)
  | chooseObjectType (type : ObjectType)
  | applyCheck
  | toggleMute
  | uploadSound (state : CheckState)
  | resetSound (state : CheckState)
  deriving DecidableEq, Repr

/-- A file that is to be uploaded, and where its address goes. -/
structure UploadRequest where
  path : String
  target : Board.UploadTarget
  deriving DecidableEq, Repr

/-- The panel and the board after an action, whether the document changed, and the upload that was
asked for. -/
structure PanelResult (α : Type) where
  panel : Panel
  board : Board α
  changed : Bool := false
  upload : Option UploadRequest := none

namespace Panel

variable {α : Type}

/-- Asks for an upload, if a file is named. -/
def request (p : Panel) (target : Board.UploadTarget) : Option UploadRequest :=
  p.upload?.map fun path => { path, target }

/-- Confirms the title in its field. A blank one is replaced by the board's. -/
def confirmTitle (p : Panel) (b : Board α) : PanelResult α :=
  let title := Text.trim p.dashboardTitle
  if title.isEmpty then { panel := { p with dashboardTitle := b.dashboard.title }, board := b }
  else
    let (board, changed) := b.setTitle title
    { panel := p, board, changed }

/-- Binds the chosen check to what the fields say; a blank filter unbinds it. -/
def applyCheck (p : Panel) (b : Board α) (id : WidgetId) : Board α × Bool :=
  b.setTarget id (CheckTarget.ofFilter? p.objectType p.filter)

/-- Moves a widget one place up in the list; the first one stays. -/
def moveUp (b : Board α) (id : WidgetId) : Nat → Board α × Bool
  | 0 => (b, false)
  | row + 1 => b.reorderElement id row

/-- Carries out an action on the chosen widget, whose check is given if it shows one. -/
def actOnChosen [Scalar α] (p : Panel) (b : Board α) (id : WidgetId) (e : Element α) :
    PanelAction → Option (PanelResult α)
  | .typeName text =>
    let (board, changed) := b.retitleElement id text
    some { panel := { p with title := text }, board, changed }
  | .chooseKind kind =>
    if kind = e.kind then some { panel := p, board := b }
    else
      let (board, changed) := b.changeKind id kind
      some { panel := p.load board (some id), board, changed }
  | action =>
    e.checkOptions?.bind fun check =>
      match action with
      | .typeFilter text => some { panel := { p with filter := text }, board := b }
      | .chooseObjectType objectType => some { panel := { p with objectType }, board := b }
      | .applyCheck =>
        let (board, changed) := p.applyCheck b id
        some { panel := p, board, changed }
      | .toggleMute =>
        let (board, changed) := b.updateOptions id [("muteAlerts", .bool !check.muteAlerts)]
        some { panel := p, board, changed }
      | .uploadSound state =>
        if p.objectType.severities.contains state then
          some { panel := p, board := b, upload := p.request (.sound id state) }
        else none
      | .resetSound state =>
        if !p.objectType.severities.contains state then none
        else if (check.sounds.get? state).isNone then some { panel := p, board := b }
        else
          let (board, changed) := b.setSoundOverride id state ""
          some { panel := p, board, changed }
      | _ => none

/-- Carries out an action on a row of the list. -/
def actOnRow (p : Panel) (b : Board α) (row : Nat) (act : WidgetId → Board α × Bool) :
    Option (PanelResult α) :=
  b.widgetIds[row]?.map fun id =>
    let (board, changed) := act id
    { panel := p, board, changed }

/-- Carries out an action in a panel that follows the board's choice. -/
def perform [Scalar α] (p : Panel) (b : Board α) : PanelAction → Option (PanelResult α)
  | .look => some { panel := p, board := b }
  | .typeTitle text => some (confirmTitle { p with dashboardTitle := text } b)
  | .typeBackground text =>
    let (board, changed) := b.setBackground (Text.trim text)
    some { panel := { p with background := text }, board, changed }
  | .typeUploadPath text => some { panel := { p with uploadPath := text }, board := b }
  | .uploadBackground => some { panel := p, board := b, upload := p.request .background }
  | .toggleGlobalMute =>
    some { panel := p, board := b.setGlobalMute !b.dashboard.globalMute, changed := true }
  | .addElement => some { panel := p, board := b.addElement.1, changed := true }
  | .selectRow row => p.actOnRow b row fun id => (b.select (some id), false)
  | .moveRowUp row => p.actOnRow b row fun id => moveUp b id row
  | .moveRowDown row => p.actOnRow b row fun id => b.reorderElement id (row + 1)
  | .duplicateRow row =>
    p.actOnRow b row fun id =>
      let (b, copy) := b.duplicateElement id
      (b, copy.isSome)
  | .deleteRow row =>
    p.actOnRow b row fun id =>
      let (b, element) := b.deleteElement id
      (b, element.isSome)
  | action =>
    b.selected.bind fun id => (b.element? id).bind fun e => p.actOnChosen b id e action

/-- Carries out an action: the panel follows the board's choice before and after. The panel is
given back also when the action was on something it does not show. -/
def act [Scalar α] (p : Panel) (b : Board α) (action : PanelAction) :
    Panel × Option (PanelResult α) :=
  let p := p.sync b
  match p.perform b action with
  | none => (p, none)
  | some r =>
    let panel := r.panel.sync r.board
    (panel, some { r with panel })

end Panel

end StatusWall
