import StatusWall.Geometry.Motion

/-!
# Gestures

What a pressed pointer does to a widget: it moves it, resizes it or turns it. A gesture is one
function from the placement before an event to the placement after it. A ticker keeps the full
width: it moves and grows up and down only, and it does not turn.
-/

namespace StatusWall

open StatusWall.Geometry

/-- The number of a widget on its board. Numbers are unbounded here; the counter behind them holds 64
bits and does not come round as long as a board gives out fewer than 2^64. -/
structure WidgetId where
  number : Nat
  deriving DecidableEq, Repr

/-- The name of a widget in messages. -/
def WidgetId.name (id : WidgetId) : String := "widget-" ++ toString id.number

/-- What dragging does. -/
inductive Gesture where
  | move
  | resize
  | rotate
  deriving DecidableEq, Repr

/-- What lies under the pointer. -/
inductive PointerTarget where
  | body (id : WidgetId)
  | resizeHandle (id : WidgetId)
  | rotateHandle (id : WidgetId)
  | canvas
  deriving DecidableEq, Repr

/-- The gesture that a press on the target begins, and on which widget. -/
def PointerTarget.gesture? : PointerTarget → Option (WidgetId × Gesture)
  | .body id => some (id, .move)
  | .resizeHandle id => some (id, .resize)
  | .rotateHandle id => some (id, .rotate)
  | .canvas => none

/-- What the pointer did, in the window's coordinates. -/
structure PointerEvent (α : Type) where
  client : Point α
  movement : Delta α
  target : PointerTarget

variable {α : Type} [Scalar α]

/-- A rectangle as wide as the canvas. -/
def Geometry.Rect.fullWidth (r : Rect α) : Rect α := { r with x := 0.0, w := span }

/-- Only the vertical part of a movement. -/
def Geometry.Delta.vertical (d : Delta α) : Delta α := { dx := 0.0, dy := d.dy }

namespace Gesture

/-- The rectangle after a movement of the pointer while moving. -/
def moved (current : Placement α) (container : Size α) (movement : Delta α) : Rect α :=
  if current.isTicker then
    let element : Size α :=
      { width := container.width, height := (current.rect.pixelSize container).height }
    (moveRect current.rect.fullWidth container element movement.vertical).fullWidth
  else moveRect current.rect container (current.rect.pixelSize container) movement

/-- The rectangle after a movement of the pointer while resizing. -/
def resized (current : Placement α) (container : Size α) (movement : Delta α) : Rect α :=
  let origin := current.rect.pixelOrigin container
  if current.isTicker then (resizeRect current.rect container origin movement.vertical).fullWidth
  else resizeRect current.rect container origin movement

/-- The angle after an event of the pointer while turning. It depends on where the pointer is and
not on the angle before. -/
def turned (current : Placement α) (layout : Layout α) (client : Point α) : α :=
  if current.isTicker then current.rotation
  else
    let center := current.rect.pixelCenter layout.size
    rotationTowards { x := layout.origin.x + center.x, y := layout.origin.y + center.y } client

/-- The placement after an event of the pointer. -/
def apply (gesture : Gesture) (current : Placement α) (layout : Layout α)
    (event : PointerEvent α) : Placement α :=
  match gesture with
  | .move => { current with rect := moved current layout.size event.movement }
  | .resize => { current with rect := resized current layout.size event.movement }
  | .rotate => { current with rotation := turned current layout event.client }

end Gesture

end StatusWall
