import StatusWall.Board.Edit

/-!
# Commands

Everything that can be done to a board, as data, so that what happens to a board over its life is a
list of commands. A command says what it came to in a `BoardAnswer`.
-/

namespace StatusWall

open Json StatusWall.Geometry

/-- Something that is done to a board. -/
inductive BoardCommand (α : Type) where
  | setTitle (title : String)
  | setBackground (url : String)
  | setSlug (slug : String)
  | setGlobalMute (muted : Bool)
  | select (id : Option WidgetId)
  | pointerDown (target : PointerTarget)
  | pointerMove (event : PointerEvent α) (layout : Layout α)
  | pointerUp
  | addElement
  | deleteElement (id : WidgetId)
  | duplicateElement (id : WidgetId)
  | reorderElement (id : WidgetId) (destination : Nat)
  | retitleElement (id : WidgetId) (title : String)
  | changeKind (id : WidgetId) (kind : ElementKind)
  | updateOptions (id : WidgetId) (update : Fields)
  | setTarget (id : WidgetId) (target : Option CheckTarget)
  | setSoundOverride (id : WidgetId) (state : CheckState) (url : String)
  | applyUpload (target : Board.UploadTarget) (url : String)
  | unmount

/-- What a command came to. -/
inductive BoardAnswer (α : Type) where
  | nothing
  /-- Whether it did what it says. -/
  | done (ok : Bool)
  | widget (id : Option WidgetId)
  | gesture (gesture : Option Gesture)
  | element (element : Option (Element α))

namespace Board

variable {α : Type} [Scalar α]

/-- The board and the answer that an operation's result stands for. -/
def answering {β : Type} (answer : β → BoardAnswer α) (r : Board α × β) :
    Board α × BoardAnswer α :=
  (r.1, answer r.2)

/-- Carries out a command. -/
def perform (b : Board α) : BoardCommand α → Board α × BoardAnswer α
  | .setTitle title => answering .done (b.setTitle title)
  | .setBackground url => answering .done (b.setBackground url)
  | .setSlug slug => (b.setSlug slug, .nothing)
  | .setGlobalMute muted => (b.setGlobalMute muted, .nothing)
  | .select id => (b.select id, .nothing)
  | .pointerDown target => answering .gesture (b.pointerDown target)
  | .pointerMove event layout => answering .widget (b.pointerMove event layout)
  | .pointerUp => answering .widget b.pointerUp
  | .addElement => answering (.widget ∘ some) b.addElement
  | .deleteElement id => answering .element (b.deleteElement id)
  | .duplicateElement id => answering .widget (b.duplicateElement id)
  | .reorderElement id destination => answering .done (b.reorderElement id destination)
  | .retitleElement id title => answering .done (b.retitleElement id title)
  | .changeKind id kind => answering .done (b.changeKind id kind)
  | .updateOptions id update => answering .done (b.updateOptions id update)
  | .setTarget id target => answering .done (b.setTarget id target)
  | .setSoundOverride id state url => answering .done (b.setSoundOverride id state url)
  | .applyUpload target url => answering .done (b.applyUpload target url)
  | .unmount => (b.unmount, .nothing)

end Board

end StatusWall
