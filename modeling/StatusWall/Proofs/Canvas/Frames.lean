import StatusWall.Canvas.Pointer
import StatusWall.Proofs.Board.Gesture

/-!
# What a frame does to a board

However much happened to the pointer since the last frame, the board hears of one thing at most
(`Board.hears`): of a press, where the pointer did something last, or of the way the pointer went,
while a gesture runs. Then the gesture ends if the frame says so (`PointerFrame.ends`).

So a frame is a list of commands (`routePointer_eq_perform`), it places at most the element of the
running gesture's widget (`element?_routePointer`), and whatever gesture runs after it ran before,
or was begun by a press of this frame (`active_routePointer`).
-/

namespace StatusWall

open StatusWall.Geometry

/-! ## The inputs of a frame -/

section Inputs

variable {σ : Type}

/-- Whether the primary button went down. -/
def PointerInput.isPress : PointerInput σ → Bool
  | .press primary _ => primary
  | _ => false

/-- Whether the primary button went up. -/
def PointerInput.isRelease : PointerInput σ → Bool
  | .release primary _ => primary
  | _ => false

/-- Whether the pointer left the window. -/
def PointerInput.isGone : PointerInput σ → Bool
  | .gone => true
  | _ => false

/-- A flag that some inputs raise and none lowers is raised by any of them. -/
theorem foldl_flag {β γ : Type} {f : β → γ → β} {flag : β → Bool} {raises : γ → Bool}
    (h : ∀ b c, flag (f b c) = (raises c || flag b)) (b : β) (cs : List γ) :
    flag (cs.foldl f b) = (cs.any raises || flag b) := by
  induction cs generalizing b with
  | nil => rfl
  | cons c cs ih =>
    rw [List.foldl_cons, ih, h, List.any_cons, ← Bool.or_assoc, Bool.or_comm (raises c)]

namespace PointerState

variable (s : PointerState σ) (inputs : List (PointerInput σ))

theorem pressed_frame : (s.frame inputs).pressed = inputs.any PointerInput.isPress := by
  have raised (f : PointerFrame σ) (i : PointerInput σ) :
      (f.input i).pressed = (i.isPress || f.pressed) := by
    cases i <;> rfl
  exact (foldl_flag raised _ inputs).trans (Bool.or_false _)

theorem released_frame : (s.frame inputs).released = inputs.any PointerInput.isRelease := by
  have raised (f : PointerFrame σ) (i : PointerInput σ) :
      (f.input i).released = (i.isRelease || f.released) := by
    cases i <;> rfl
  exact (foldl_flag raised _ inputs).trans (Bool.or_false _)

theorem left_frame : (s.frame inputs).left = inputs.any PointerInput.isGone := by
  have raised (f : PointerFrame σ) (i : PointerInput σ) :
      (f.input i).left = (i.isGone || f.left) := by
    cases i <;> rfl
  exact (foldl_flag raised _ inputs).trans (Bool.or_false _)

end PointerState

/-- Whether the pointer is not there, or was away. -/
def PointerFrame.gone (f : PointerFrame σ) : Bool := f.state.latest.isNone || f.left

/-- Whether the frame ends a gesture. -/
def PointerFrame.ends (f : PointerFrame σ) : Bool := f.released || f.gone || !f.state.down

end Inputs

/-- How far the pointer went in a frame, in the numbers of the document. -/
def PointerState.movement {σ α : Type} [Scalar σ] [Scalar α] [Screen σ α] (s : PointerState σ)
    (inputs : List (PointerInput σ)) : Delta α :=
  let travel := pointerTravel s.latest (s.frame inputs).state.latest
  { dx := Screen.widen travel.dx, dy := Screen.widen travel.dy }

/-! ## What the board hears -/

namespace Board

variable {σ α : Type} [Scalar σ] [Scalar α] [Screen σ α] {b : Board α}

/-- The board once it heard of a frame, before the gesture ends if the frame ends it. -/
def heard (b : Board α) (pointer : PointerState σ) (canvas : ScreenRect σ)
    (inputs : List (PointerInput σ)) : Board α :=
  let frame := pointer.frame inputs
  match frame.position with
  | none => b
  | some p =>
    let client := ScreenRect.widenPoint p
    if frame.pressed && canvas.contains p then
      (b.pointerDown (b.hitTest canvas.layout client)).1
    else match b.drag.active with
      | some (id, _) =>
        let movement := pointer.movement inputs
        if frame.state.down && !frame.gone && movement.isMovement then
          (b.pointerMove { client, movement, target := .body id } canvas.layout).1
        else b
      | none => b

omit [Scalar σ] [Scalar α] [Screen σ α] in
/-- The end of a frame: the gesture goes on, or not. -/
def afterFrame (b : Board α) (frame : PointerFrame σ) : Board α :=
  if b.drag.isDragging && frame.ends then b.pointerUp.1 else b

/-- **A frame** is what the board hears, and then the end of the gesture. -/
theorem routePointer_eq (b : Board α) (pointer : PointerState σ) (canvas : ScreenRect σ)
    (inputs : List (PointerInput σ)) :
    (b.routePointer pointer canvas inputs).1 =
      (b.heard pointer canvas inputs).afterFrame (pointer.frame inputs) := by
  unfold routePointer heard PointerState.movement PointerFrame.gone
  simp only
  cases (pointer.frame inputs).position with
  | none => rfl
  | some p =>
    simp only
    split
    · rfl
    · cases b.drag.active with
      | none => rfl
      | some running =>
        simp only
        split <;> rfl

/-- What the board can hear. -/
inductive Hears (b : Board α) (pointer : PointerState σ) (canvas : ScreenRect σ)
    (inputs : List (PointerInput σ)) : Board α → Prop
  | nothing : Hears b pointer canvas inputs b
  | press {p : Point σ} (pressed : (pointer.frame inputs).pressed = true)
      (place : (pointer.frame inputs).position = some p) (inside : canvas.contains p = true) :
      Hears b pointer canvas inputs
        (b.pointerDown (b.hitTest canvas.layout (ScreenRect.widenPoint p))).1
  | motion {id : WidgetId} {gesture : Gesture} (active : b.drag.active = some (id, gesture))
      (down : (pointer.frame inputs).state.down = true)
      (here : (pointer.frame inputs).gone = false) (event : PointerEvent α) :
      Hears b pointer canvas inputs (b.pointerMove event canvas.layout).1

/-- **The board hears of one thing at most.** -/
theorem hears (b : Board α) (pointer : PointerState σ) (canvas : ScreenRect σ)
    (inputs : List (PointerInput σ)) :
    b.Hears pointer canvas inputs (b.heard pointer canvas inputs) := by
  unfold heard
  simp only
  cases place : (pointer.frame inputs).position with
  | none => exact .nothing
  | some p =>
    simp only
    split
    · next press =>
      obtain ⟨pressed, inside⟩ := Bool.and_eq_true_iff.mp press
      exact .press pressed place inside
    · cases active : b.drag.active with
      | none => exact .nothing
      | some running =>
        simp only
        split
        · next motion =>
          obtain ⟨held, -⟩ := Bool.and_eq_true_iff.mp motion
          obtain ⟨down, here⟩ := Bool.and_eq_true_iff.mp held
          exact .motion active down (Bool.not_eq_true' _ ▸ here) _
        · exact .nothing

section Heard

variable {pointer : PointerState σ} {canvas : ScreenRect σ} {inputs : List (PointerInput σ)}
  {p : Point σ}

/-- A press in the canvas is handed on. -/
theorem heard_press (b : Board α) (pressed : (pointer.frame inputs).pressed = true)
    (place : (pointer.frame inputs).position = some p) (inside : canvas.contains p = true) :
    b.heard pointer canvas inputs =
      (b.pointerDown (b.hitTest canvas.layout (ScreenRect.widenPoint p))).1 := by
  unfold heard
  simp only [place, pressed, inside, Bool.and_self, if_true]

/-- While a gesture runs and the button is held, the board hears of the way the pointer went, if it
went anywhere. -/
theorem heard_motion (quiet : (pointer.frame inputs).pressed = false)
    (place : (pointer.frame inputs).position = some p) {id : WidgetId} {gesture : Gesture}
    (active : b.drag.active = some (id, gesture)) (down : (pointer.frame inputs).state.down = true)
    (here : (pointer.frame inputs).gone = false) :
    b.heard pointer canvas inputs =
      if (pointer.movement inputs : Delta α).isMovement then
        (b.pointerMove
          { client := ScreenRect.widenPoint p, movement := pointer.movement inputs
            target := .body id } canvas.layout).1
      else b := by
  unfold heard
  simp only [place, quiet, active, down, here, Bool.false_and, Bool.false_eq_true, if_false,
    Bool.not_false, Bool.true_and]

/-- With the button up, nothing moves. -/
theorem heard_up (b : Board α) (quiet : (pointer.frame inputs).pressed = false)
    (up : (pointer.frame inputs).state.down = false) :
    b.heard pointer canvas inputs = b := by
  unfold heard
  simp only [quiet, up, Bool.false_and, Bool.false_eq_true, if_false]
  cases (pointer.frame inputs).position with
  | none => rfl
  | some p => cases b.drag.active <;> rfl

end Heard

/-- A frame is a list of commands. -/
theorem routePointer_eq_perform (b : Board α) (pointer : PointerState σ) (canvas : ScreenRect σ)
    (inputs : List (PointerInput σ)) :
    ∃ cs : List (BoardCommand α),
      (b.routePointer pointer canvas inputs).1 = cs.foldl (fun b c => (b.perform c).1) b := by
  have commands : ∃ cs : List (BoardCommand α),
      b.heard pointer canvas inputs = cs.foldl (fun b c => (b.perform c).1) b := by
    have hears := b.hears pointer canvas inputs
    generalize b.heard pointer canvas inputs = b' at hears
    cases hears with
    | nothing => exact ⟨[], rfl⟩
    | press _ _ _ => exact ⟨[.pointerDown _], rfl⟩
    | motion _ _ _ event => exact ⟨[.pointerMove event canvas.layout], rfl⟩
  obtain ⟨cs, heq⟩ := commands
  rw [routePointer_eq, heq]
  unfold afterFrame
  split
  · refine ⟨cs ++ [.pointerUp], ?_⟩
    rw [List.foldl_concat]
    rfl
  · exact ⟨cs, rfl⟩

/-! ## What a frame changes -/

omit [Scalar σ] [Scalar α] [Screen σ α] in
theorem element?_afterFrame (b : Board α) (frame : PointerFrame σ) (x : WidgetId) :
    (b.afterFrame frame).element? x = b.element? x := by
  unfold afterFrame
  split <;> rfl

omit [Scalar σ] [Scalar α] [Screen σ α] in
theorem afterFrame_of_goes_on (b : Board α) {frame : PointerFrame σ} (goes : frame.ends = false) :
    b.afterFrame frame = b := by
  unfold afterFrame
  rw [goes, Bool.and_false, if_neg Bool.false_ne_true]

omit [Scalar σ] [Scalar α] [Screen σ α] in
/-- A gesture that runs after a frame was not ended by it. -/
theorem active_afterFrame {frame : PointerFrame σ} {p : WidgetId × Gesture}
    (h : (b.afterFrame frame).drag.active = some p) :
    b.drag.active = some p ∧ frame.ends = false := by
  unfold afterFrame at h
  split at h
  · cases h
  · next goes =>
    refine ⟨h, ?_⟩
    have dragging : b.drag.isDragging = true := Option.isSome_of_mem h
    rw [dragging, Bool.true_and] at goes
    exact Bool.not_eq_true _ ▸ goes

/-- **A frame places the element of the running gesture's widget at most**, while the primary button
is held and the pointer stays in the window. -/
theorem element?_routePointer (aligned : b.Aligned) {pointer : PointerState σ}
    {canvas : ScreenRect σ} {inputs : List (PointerInput σ)} {x : WidgetId}
    (changed : (b.routePointer pointer canvas inputs).1.element? x ≠ b.element? x) :
    ∃ gesture, b.drag.active = some (x, gesture) ∧ (pointer.frame inputs).state.down = true ∧
      (pointer.frame inputs).gone = false ∧
      ∀ y, y ≠ x → (b.routePointer pointer canvas inputs).1.element? y = b.element? y := by
  simp only [routePointer_eq, element?_afterFrame] at changed ⊢
  have hears := b.hears pointer canvas inputs
  generalize b.heard pointer canvas inputs = b' at changed hears ⊢
  cases hears with
  | nothing => exact absurd rfl changed
  | press _ _ _ => exact absurd (b.element?_pointerDown _ x) changed
  | @motion id gesture active down here event =>
    have moved := element?_pointerMove aligned active event canvas.layout
    have hx : x = id := by
      by_contra hne
      exact changed ((moved x).trans (if_neg hne))
    subst hx
    exact ⟨gesture, active, down, here, fun y hy => (moved y).trans (if_neg hy)⟩

/-- A frame presses the primary button, with the pointer on a part of the selected widget. -/
structure TakesHold (b : Board α) (pointer : PointerState σ) (canvas : ScreenRect σ)
    (inputs : List (PointerInput σ)) (id : WidgetId) (gesture : Gesture) : Prop where
  pressed : inputs.any PointerInput.isPress = true
  selected : b.selected = some id
  hit : ∃ p, (pointer.frame inputs).position = some p ∧ canvas.contains p = true ∧
    (b.hitTest canvas.layout (ScreenRect.widenPoint p)).gesture? = some (id, gesture)

/-- **Where a gesture comes from.** One that runs after a frame was not ended by it, and it ran
before, or the frame took hold of its widget. -/
theorem active_routePointer {pointer : PointerState σ} {canvas : ScreenRect σ}
    {inputs : List (PointerInput σ)} {id : WidgetId} {gesture : Gesture}
    (h : (b.routePointer pointer canvas inputs).1.drag.active = some (id, gesture)) :
    (pointer.frame inputs).ends = false ∧
      (b.drag.active = some (id, gesture) ∨ b.TakesHold pointer canvas inputs id gesture) := by
  rw [routePointer_eq] at h
  obtain ⟨h, goes⟩ := active_afterFrame h
  refine ⟨goes, ?_⟩
  have hears := b.hears pointer canvas inputs
  generalize b.heard pointer canvas inputs = b' at h hears
  cases hears with
  | nothing => exact .inl h
  | @press p pressed place inside =>
    rw [pointer.pressed_frame] at pressed
    rcases active_of_pointerDown h with before | ⟨-, selected, part⟩
    · exact .inl before
    · exact .inr ⟨pressed, selected, p, place, inside, part⟩
  | motion _ _ _ _ => exact .inl (active_of_pointerMove h)

end Board

end StatusWall
