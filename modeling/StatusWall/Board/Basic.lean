import StatusWall.Document.Dashboard
import StatusWall.Gesture.Drag
import StatusWall.Polling.Fleet

/-!
# Boards

A board is a document at work: each of its elements is a widget with a number of its own, which
stays with the element through every reordering and is never given to another one. A widget whose
element shows a check has a task that polls it, and the state that task reported last.

The widgets stand in a list of their own, in the order of the document's elements (`Board.entries`
pairs the two). What the user does to the document goes through the board, so that numbers, tasks
and selection follow.
-/

namespace StatusWall

open StatusWall.Geometry

/-- A widget's hold on its task: the task's number, and the object it polls. -/
structure PollerHandle where
  id : PollerId
  target : CheckTarget
  deriving DecidableEq, Repr

/-- The state a widget's task reported last. -/
structure WidgetStatus where
  state : CheckState
  acknowledged : Bool
  deriving DecidableEq, Repr

/-- What the board knows of an element beyond the document. -/
structure Widget where
  id : WidgetId
  poller : Option PollerHandle := none
  status : Option WidgetStatus := none
  deriving DecidableEq, Repr

/-- A document at work. -/
structure Board (α : Type) where
  dashboard : Dashboard α
  /-- One widget per element, in the same order. -/
  widgets : List Widget := []
  /-- The number of the next widget; of a counter of 64 bits, so that fewer than 2^64 are given out. -/
  nextId : Nat := 0
  selected : Option WidgetId := none
  drag : Drag := {}
  /-- The tasks; none on a board that does not poll. -/
  fleet : Option Fleet := none

namespace Board

variable {α : Type}

/-- The numbers of the widgets, in the order of the document. -/
def widgetIds (b : Board α) : List WidgetId := b.widgets.map (·.id)

/-- The widgets, each with its element. -/
def entries (b : Board α) : List (Widget × Element α) := b.widgets.zip b.dashboard.elements

/-- The place of a widget. -/
def indexOf? (b : Board α) (id : WidgetId) : Option Nat := b.widgets.findIdx? fun w => w.id = id

/-- The element of a widget. -/
def element? (b : Board α) (id : WidgetId) : Option (Element α) :=
  (b.indexOf? id).bind fun index => b.dashboard.elements[index]?

/-- The widget with a number. -/
def widget? (b : Board α) (id : WidgetId) : Option Widget :=
  (b.indexOf? id).bind fun index => b.widgets[index]?

/-- The state of a widget. -/
def status? (b : Board α) (id : WidgetId) : Option WidgetStatus :=
  (b.widget? id).bind (·.status)

/-- How many widgets are polled. -/
def pollingCount (b : Board α) : Nat := (b.widgets.filter (·.poller.isSome)).length

/-- Changes the widget at a place. -/
def modifyWidget (b : Board α) (index : Nat) (change : Widget → Widget) : Board α :=
  { b with widgets := b.widgets.modify index change }

/-- Changes the tasks, if there are any. -/
def withFleet (b : Board α) (change : Fleet → Fleet) : Board α :=
  { b with fleet := b.fleet.map change }

/-! ## Tasks follow the document -/

/-- Cancels the task of the widget at a place and forgets its state. -/
def stopPolling (b : Board α) (index : Nat) : Board α :=
  let b :=
    match b.widgets[index]?.bind (·.poller) with
    | some handle => b.withFleet (·.cancel handle.id)
    | none => b
  b.modifyWidget index fun w => { w with poller := none, status := none }

/-- Starts a task for the widget at a place. -/
def startPolling (b : Board α) (index : Nat) (target : CheckTarget) (policy : SoundPolicy) :
    Board α :=
  match b.fleet, b.widgets[index]? with
  | some fleet, some w =>
    let (fleet, id) := fleet.spawn w.id target b.dashboard.slug policy
    { b with fleet := some fleet }.modifyWidget index fun w =>
      { w with poller := some { id, target } }
  | _, _ => b

/-- Brings the task of the widget at a place in line with its element. While the object stays the
same the task goes on and only learns the policy; otherwise it is cancelled, with everything it
remembers, and another one starts if there is an object to poll. -/
def syncPoller (b : Board α) (index : Nat) : Board α :=
  let options := b.dashboard.elements[index]?.bind Element.checkOptions?
  let wanted := options.bind fun o => o.target.map fun t => (t, o.policy)
  let poller := b.widgets[index]?.bind (·.poller)
  match poller, wanted with
  | none, none => b
  | some handle, some (target, policy) =>
    if handle.target = target then b.withFleet (·.updatePolicy handle.id policy)
    else (b.stopPolling index).startPolling index target policy
  | none, some (target, policy) => (b.stopPolling index).startPolling index target policy
  | some _, none => b.stopPolling index

/-- Gives the next number to a new widget at the end of the list. -/
def mountWidget (b : Board α) : Board α × WidgetId :=
  let id : WidgetId := ⟨b.nextId⟩
  ({ b with widgets := b.widgets ++ [{ id }], nextId := b.nextId + 1 }, id)

/-- Mounts a widget for each element and starts the tasks. -/
def new (dashboard : Dashboard α) (fleet : Option Fleet) : Board α :=
  let b : Board α := { dashboard, fleet }
  (List.range dashboard.elements.length).foldl
    (fun b index => (b.mountWidget.1).syncPoller index) b

/-! ## Reports -/

/-- Takes a report in; answers the message of a failure. Only the task a widget holds at the moment
counts: reports of other tasks change nothing and answer nothing. -/
def applyEvent (b : Board α) (event : PollEvent) : Board α × Option String :=
  let current := fun (w : Widget) =>
    w.id = event.widget ∧ (w.poller.map (·.id)) = some event.poller
  match b.widgets.findIdx? fun w => current w with
  | none => (b, none)
  | some index =>
    match event.outcome with
    | .state state acknowledged =>
      (b.modifyWidget index fun w => { w with status := some { state, acknowledged } }, none)
    | .failed message => (b, some message)

/-- Cancels every task and abandons the gesture. -/
def unmount (b : Board α) : Board α :=
  let stopped := (List.range b.widgets.length).foldl (fun b index => b.stopPolling index) b
  { stopped with drag := stopped.drag.cancel }

/-- Cancels the tasks one after the other, in the order of the widgets, and waits for the end of each.
The board is left as `unmount` leaves it; what the later tasks do while an earlier one ends is
answered. -/
def shutdown (b : Board α) (source : Source) : Board α × List Occurrence :=
  let stop (r : Option Fleet × List Occurrence) (w : Widget) : Option Fleet × List Occurrence :=
    match r.1, w.poller with
    | some fleet, some handle =>
      let (fleet, occurrences) := fleet.shutdown source handle.id
      (some fleet, r.2 ++ occurrences)
    | _, _ => r
  let (fleet, occurrences) := b.widgets.foldl stop (b.fleet, [])
  ({ b with fleet }.unmount, occurrences)

/-- Lets time pass. -/
def advance (b : Board α) (source : Source) (ms : Nat) : Board α × List Occurrence :=
  match b.fleet with
  | some fleet =>
    let (fleet, occurrences) := fleet.advance source ms
    ({ b with fleet := some fleet }, occurrences)
  | none => (b, [])

end Board

end StatusWall
