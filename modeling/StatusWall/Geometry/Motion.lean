import StatusWall.Geometry.Basic

/-!
# Moving, resizing and turning a rectangle

Each function takes pixels, the canvas they are counted in and the rectangle as it stands, and
answers the rectangle as it will stand. None of them fails: on a canvas one cannot divide by, and
for a movement that is not finite, the rectangle stays as it is.

Both clamps take the lesser number first and the greater one last, so the bound named last wins when
the two contradict each other: an element too large for the canvas is pinned to its upper left
corner, and a canvas too small for the least size yields to that size.
-/

namespace StatusWall.Geometry

variable {α : Type} [Scalar α]

/-- The least width and height, in pixels, that resizing leaves. -/
def leastSize : α := 40.0

/-- Pixels to percent of a length of the container. -/
def toPercent (pixels length : α) : α := pixels / length * span

/-- Moves a rectangle by a pointer movement. The element, whose size in pixels is given apart, stays
inside the container. -/
def moveRect (current : Rect α) (container element : Size α) (delta : Delta α) : Rect α :=
  if container.isUsable then
    let delta := delta.sanitized
    let origin := current.pixelOrigin container
    let left := greater (lesser (origin.x + delta.dx) (container.width - element.width)) 0.0
    let top := greater (lesser (origin.y + delta.dy) (container.height - element.height)) 0.0
    { x := toPercent left container.width
      y := toPercent top container.height
      w := current.w
      h := current.h }
  else current

/-- Resizes a rectangle by a pointer movement. Its upper left corner, given in pixels, stays; the
opposite one stays inside the container unless the least size forbids it. -/
def resizeRect (current : Rect α) (container : Size α) (origin : Point α) (delta : Delta α) :
    Rect α :=
  if container.isUsable then
    let delta := delta.sanitized
    let size := current.pixelSize container
    let width := greater (lesser (size.width + delta.dx) (container.width - origin.x)) leastSize
    let height := greater (lesser (size.height + delta.dy) (container.height - origin.y)) leastSize
    { x := current.x
      y := current.y
      w := toPercent width container.width
      h := toPercent height container.height }
  else current

/-- The direction from the center to the pointer. -/
def rotationTowards (center pointer : Point α) : α :=
  atan2 (pointer.y - center.y) (pointer.x - center.x)

end StatusWall.Geometry
