import StatusWall.Geometry.Scalar

/-!
# Points, sizes and rectangles

A widget's rectangle is kept in percent of the canvas, so it means the same thing in every window.
Pixels appear only where a canvas of a given size is at hand.
-/

namespace StatusWall.Geometry

/-- A position. -/
structure Point (α : Type) where
  x : α
  y : α

/-- How far the pointer moved since its last event. -/
structure Delta (α : Type) where
  dx : α
  dy : α

/-- A width and a height in pixels. -/
structure Size (α : Type) where
  width : α
  height : α

/-- A rectangle in percent of the canvas: the upper left corner, the width and the height. -/
structure Rect (α : Type) where
  x : α
  y : α
  w : α
  h : α

/-- Where the canvas lies in the window, in pixels. -/
structure Layout (α : Type) where
  origin : Point α
  size : Size α

/-- What a gesture changes of a widget, and whether the widget is a ticker, a strip as wide as the
canvas. -/
structure Placement (α : Type) where
  rect : Rect α
  /-- In radians, never normalized. -/
  rotation : α
  isTicker : Bool

variable {α : Type} [Scalar α]

/-- The whole canvas, in percent. -/
def span : α := 100.0

/-- A component that is not finite counts as zero. -/
def Delta.sanitized (d : Delta α) : Delta α :=
  { dx := if isFinite d.dx then d.dx else 0.0
    dy := if isFinite d.dy then d.dy else 0.0 }

/-- A size one can divide by: finite and positive in both directions. -/
def Size.isUsable (s : Size α) : Bool :=
  isFinite s.width && isFinite s.height && decide (0.0 < s.width) && decide (0.0 < s.height)

namespace Rect

/-- The upper left corner in pixels. -/
def pixelOrigin (r : Rect α) (container : Size α) : Point α :=
  { x := r.x / span * container.width, y := r.y / span * container.height }

/-- The size in pixels. -/
def pixelSize (r : Rect α) (container : Size α) : Size α :=
  { width := r.w / span * container.width, height := r.h / span * container.height }

/-- The center in pixels. -/
def pixelCenter (r : Rect α) (container : Size α) : Point α :=
  let origin := r.pixelOrigin container
  let size := r.pixelSize container
  { x := origin.x + size.width / 2.0, y := origin.y + size.height / 2.0 }

end Rect

end StatusWall.Geometry
