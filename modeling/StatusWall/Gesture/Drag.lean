import StatusWall.Gesture.Basic

/-!
# Dragging

At most one gesture runs at a time. It begins with a press on the selected widget, is fed by the
pointer's events, and ends with the release or when it is abandoned. Between gestures there is
nothing to remember, so the state is the running gesture or nothing.
-/

namespace StatusWall

open StatusWall.Geometry

/-- The gesture that is running, and on which widget. -/
structure Drag where
  active : Option (WidgetId × Gesture) := none
  deriving DecidableEq, Repr

namespace Drag

/-- Whether a gesture is running. -/
def isDragging (d : Drag) : Bool := d.active.isSome

/-- A press. It begins a gesture if none is running and the target belongs to the selected
widget. -/
def pointerDown (d : Drag) (target : PointerTarget) (selected : Option WidgetId) :
    Drag × Option Gesture :=
  match d.active, target.gesture? with
  | none, some (id, gesture) =>
    if selected = some id then ({ active := some (id, gesture) }, some gesture) else (d, none)
  | _, _ => (d, none)

/-- An event while the pointer is down: the placement the running gesture leads to. -/
def pointerMove {α : Type} [Scalar α] (d : Drag) (event : PointerEvent α) (layout : Layout α)
    (current : Placement α) : Option (Placement α) :=
  d.active.map fun (_, gesture) => gesture.apply current layout event

/-- The release. It ends the gesture and tells which widget was dragged. -/
def pointerUp (d : Drag) : Drag × Option WidgetId := ({}, d.active.map (·.1))

/-- Abandons the gesture, if one is running. -/
def cancel (_ : Drag) : Drag := {}

end Drag

end StatusWall
