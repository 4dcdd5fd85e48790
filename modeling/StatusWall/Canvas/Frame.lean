import StatusWall.Board.Edit

/-!
# Where a widget is on the canvas

A widget's frame is its rectangle in pixels, turned about its center. The same frame is painted and
hit: `WidgetFrame.corners` goes from the widget's own axes to the window, `WidgetFrame.contains` goes
back.
-/

namespace StatusWall

open StatusWall.Geometry

/-- A turned rectangle in the window's coordinates. -/
structure WidgetFrame (α : Type) where
  center : Point α
  halfWidth : α
  halfHeight : α
  rotation : α

variable {α : Type} [Scalar α]

namespace WidgetFrame

/-- The frame of a rectangle on a canvas. -/
def of (rect : Rect α) (rotation : α) (layout : Layout α) : WidgetFrame α :=
  let center := rect.pixelCenter layout.size
  let size := rect.pixelSize layout.size
  { center := { x := layout.origin.x + center.x, y := layout.origin.y + center.y }
    halfWidth := size.width / 2.0
    halfHeight := size.height / 2.0
    rotation }

/-- From the widget's axes to the window. -/
def toClient (f : WidgetFrame α) (p : Point α) : Point α :=
  let s := sin f.rotation
  let c := cos f.rotation
  { x := f.center.x + p.x * c - p.y * s, y := f.center.y + p.x * s + p.y * c }

/-- From the window to the widget's axes. -/
def toLocal (f : WidgetFrame α) (p : Point α) : Point α :=
  let s := sin (-f.rotation)
  let c := cos (-f.rotation)
  let dx := p.x - f.center.x
  let dy := p.y - f.center.y
  { x := dx * c - dy * s, y := dx * s + dy * c }

/-- The upper left, upper right, lower right and lower left corner. -/
def corners (f : WidgetFrame α) : List (Point α) :=
  [f.toClient { x := -f.halfWidth, y := -f.halfHeight },
   f.toClient { x := f.halfWidth, y := -f.halfHeight },
   f.toClient { x := f.halfWidth, y := f.halfHeight },
   f.toClient { x := -f.halfWidth, y := f.halfHeight }]

/-- The distance from zero does not exceed a bound. -/
def within (x bound : α) : Bool := decide (-bound ≤ x) && decide (x ≤ bound)

/-- Whether a point of the window lies in the frame, its edge included. -/
def contains (f : WidgetFrame α) (p : Point α) : Bool :=
  let q := f.toLocal p
  within q.x f.halfWidth && within q.y f.halfHeight

/-- The corner one resizes by: the lower right one. -/
def resizeGrabber (f : WidgetFrame α) : Point α :=
  f.toClient { x := f.halfWidth, y := f.halfHeight }

/-- The corner one turns by: the upper right one. -/
def rotateGrabber (f : WidgetFrame α) : Point α :=
  f.toClient { x := f.halfWidth, y := -f.halfHeight }

end WidgetFrame

/-- The radius of a grabber, in pixels. -/
def grabberRadius : α := 7.0

/-- Whether two points are no farther apart than a radius. -/
def near (a b : Point α) (radius : α) : Bool := decide (hypot (a.x - b.x) (a.y - b.y) ≤ radius)

/-- The frame of an element. -/
def Element.frame (e : Element α) (layout : Layout α) : WidgetFrame α :=
  .of e.rect e.rotation layout

namespace Board

/-- The grabber of the chosen widget under a point. The one for resizing comes first; a ticker has
no other. -/
def grabberAt (b : Board α) (layout : Layout α) (p : Point α) : Option PointerTarget :=
  match b.selected with
  | none => none
  | some id =>
    match b.element? id with
    | none => none
    | some e =>
      let f := e.frame layout
      if near f.resizeGrabber p grabberRadius then some (.resizeHandle id)
      else if !e.kind.isTicker && near f.rotateGrabber p grabberRadius then some (.rotateHandle id)
      else none

/-- The widget under a point; of several the one painted last. -/
def bodyAt (b : Board α) (layout : Layout α) (p : Point α) : Option WidgetId :=
  b.widgetIds.reverse.find? fun id =>
    match b.element? id with
    | some e => (e.frame layout).contains p
    | none => false

/-- What lies under a point: a grabber, else a widget, else the canvas. -/
def hitTest (b : Board α) (layout : Layout α) (p : Point α) : PointerTarget :=
  match b.grabberAt layout p with
  | some target => target
  | none =>
    match b.bodyAt layout p with
    | some id => .body id
    | none => .canvas

end Board

end StatusWall
