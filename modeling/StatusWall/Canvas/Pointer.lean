import StatusWall.Canvas.Fit
import StatusWall.Canvas.Frame

/-!
# The pointer, frame by frame

The window hands over what the pointer did since the last frame, and the board sees one event per
frame: a press on the canvas, or a movement of the running gesture. A release that happens outside
the window is never heard of, so a pointer that leaves the window ends the gesture too.
-/

namespace StatusWall

open StatusWall.Geometry

/-- Something the pointer did. The flag of a press or release tells whether it was the primary
button. -/
inductive PointerInput (σ : Type) where
  | moved (position : Point σ)
  | press (primary : Bool) (position : Point σ)
  | release (primary : Bool) (position : Point σ)
  | gone

/-- What is known of the pointer between frames. -/
structure PointerState (σ : Type) where
  /-- Where it is; nothing while it is outside the window. -/
  latest : Option (Point σ) := none
  /-- The primary button is held. -/
  down : Bool := false

/-- What one frame knows of the pointer. -/
structure PointerFrame (σ : Type) where
  state : PointerState σ
  /-- Where it did something last. -/
  position : Option (Point σ)
  pressed : Bool := false
  released : Bool := false
  left : Bool := false

variable {σ : Type}

/-- Takes in one input. -/
def PointerFrame.input (f : PointerFrame σ) : PointerInput σ → PointerFrame σ
  | .moved p => { f with state := { f.state with latest := some p }, position := some p }
  | .press primary p =>
    { f with
      state := { latest := some p, down := primary || f.state.down }
      position := some p
      pressed := primary || f.pressed }
  | .release primary p =>
    { f with
      state := { latest := some p, down := !primary && f.state.down }
      position := some p
      released := primary || f.released }
  | .gone => { f with state := { f.state with latest := none }, left := true }

/-- The frame after a list of inputs. -/
def PointerState.frame (s : PointerState σ) (inputs : List (PointerInput σ)) : PointerFrame σ :=
  inputs.foldl PointerFrame.input { state := s, position := s.latest }

variable [Scalar σ]

/-- How far the pointer went between two frames; nothing unless it was there in both. -/
def pointerTravel (before after : Option (Point σ)) : Delta σ :=
  match before, after with
  | some p, some q => { dx := q.x - p.x, dy := q.y - p.y }
  | _, _ => { dx := 0.0, dy := 0.0 }

variable {α : Type} [Scalar α] [Screen σ α]

/-- Whether a movement moves at all. -/
def Geometry.Delta.isMovement (d : Delta α) : Bool :=
  !(decide (d.dx ≤ 0.0) && decide (0.0 ≤ d.dx) && decide (d.dy ≤ 0.0) && decide (0.0 ≤ d.dy))

namespace Board

/-- One frame: the board after the inputs, the pointer as it is left, and whether the document
changed. -/
def routePointer (b : Board α) (pointer : PointerState σ) (canvas : ScreenRect σ)
    (inputs : List (PointerInput σ)) : Board α × PointerState σ × Bool :=
  let frame := pointer.frame inputs
  let travel := pointerTravel pointer.latest frame.state.latest
  let movement : Delta α := { dx := Screen.widen travel.dx, dy := Screen.widen travel.dy }
  let gone := frame.state.latest.isNone || frame.left
  let (b, changed) :=
    match frame.position with
    | none => (b, false)
    | some position =>
      let client : Point α := ScreenRect.widenPoint position
      if frame.pressed && canvas.contains position then
        ((b.pointerDown (b.hitTest canvas.layout client)).1, false)
      else match b.drag.active with
        | some (id, _) =>
          if frame.state.down && !gone && movement.isMovement then
            let (b, moved) :=
              b.pointerMove { client, movement, target := .body id } canvas.layout
            (b, moved.isSome)
          else (b, false)
        | none => (b, false)
  let ends := b.drag.isDragging && (frame.released || gone || !frame.state.down)
  let b := if ends then b.pointerUp.1 else b
  (b, frame.state, changed)

end Board

end StatusWall
