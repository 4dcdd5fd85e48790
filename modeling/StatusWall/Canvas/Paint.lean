import StatusWall.Canvas.Fit
import StatusWall.Canvas.Frame

/-!
# Painting a board

The picture of a board is a list of shapes, the lowest first: the background, then every widget with
its label, in the order of the document. The chosen widget has an outline and its grabbers while the
board is edited.
-/

namespace StatusWall

open StatusWall.Geometry

/-- A color: red, green, blue, and how opaque it is. -/
structure Color where
  red : Nat
  green : Nat
  blue : Nat
  alpha : Nat := 255
  deriving DecidableEq, Repr

namespace Color

/-- The background of the canvas. -/
def background : Color := ⟨20, 22, 28, 255⟩

/-- Widgets that show no check. -/
def static : Color := ⟨48, 56, 70, 255⟩

/-- Labels. -/
def label : Color := ⟨255, 255, 255, 255⟩

/-- The chosen widget. -/
def selection : Color := ⟨80, 160, 255, 255⟩

/-- No color at all. -/
def transparent : Color := ⟨0, 0, 0, 0⟩

/-- The color of a check; one whose state is not known yet is grey. -/
def ofStatus : Option WidgetStatus → Color
  | none => ⟨110, 110, 110, 255⟩
  | some s =>
    match s.state with
    | .ok | .up => ⟨14, 225, 106, 255⟩
    | .warning => ⟨255, 144, 0, 255⟩
    | .critical | .down => ⟨255, 0, 25, 255⟩
    | .unknown => ⟨151, 14, 225, 255⟩

end Color

/-- The line around a shape. -/
structure Stroke where
  width : Nat
  color : Color
  deriving DecidableEq, Repr

/-- No line. -/
def Stroke.none : Stroke := ⟨0, .transparent⟩

/-- The line around the chosen widget. -/
def Stroke.selection : Stroke := ⟨2, .selection⟩

/-- A piece of the picture. -/
inductive Shape (σ : Type) where
  | rect (min max : Point σ) (fill : Color)
  | polygon (corners : List (Point σ)) (fill : Color) (stroke : Stroke)
  | text (s : String)
  | circle (center : Point σ) (radius : σ) (fill : Color) (stroke : Stroke)

/-- The label of a widget: its title, and below it the state of its check. -/
def widgetLabel (title : String) : Option WidgetStatus → String
  | none => title
  | some s => title ++ "\n" ++ s.state.name ++ if s.acknowledged then " (ACK)" else ""

variable {σ α : Type} [Scalar σ] [Scalar α] [Screen σ α]

/-- The shapes of one widget: its frame, its label, and its grabbers if it is the chosen one. -/
def widgetShapes (e : Element α) (status : Option WidgetStatus) (layout : Layout α)
    (selected : Bool) : List (Shape σ) :=
  let frame := e.frame layout
  let fill := if e.kind.pollsCheck then Color.ofStatus status else .static
  let stroke := if selected then Stroke.selection else Stroke.none
  let point (p : Point α) : Point σ := ScreenRect.narrowPoint p
  let grabbers : List (Shape σ) :=
    if selected then
      .circle (point frame.resizeGrabber) grabberRadius .selection .none ::
        (if e.kind.isTicker then []
         else [.circle (point frame.rotateGrabber) grabberRadius .label .selection])
    else []
  .polygon (frame.corners.map point) fill stroke :: .text (widgetLabel e.title status) :: grabbers

/-- The picture of a board. -/
def Board.paint (b : Board α) (canvas : ScreenRect σ) (editing : Bool) : List (Shape σ) :=
  .rect canvas.min canvas.max .background ::
    b.widgetIds.flatMap fun id =>
      match b.element? id with
      | none => []
      | some e =>
        widgetShapes e (b.status? id) canvas.layout (editing && decide (b.selected = some id))

end StatusWall
