import StatusWall.Proofs.Canvas.Frames
import StatusWall.Proofs.Geometry.Exact

/-!
# Boards in a window

A window hands the pointer to its board frame by frame (`WindowStep.frame`); between the frames
anything else can happen to the board, but nobody calls the pointer's operations. In such a window
the pointer moves, resizes or turns a widget only if an earlier frame took hold of it
(`Window.geometry_changes_after_press`).

The proof goes by the running gesture. What one step does to it is `Sound.active_step`: a gesture
that runs after a step was not ended by it, and it ran before, or the step is a frame that began it.
By induction a running gesture has a frame that began it (`Sound.gesture_origin`).
-/

namespace StatusWall

open StatusWall.Geometry

/-- A board in its window: the board and its tasks, and what is known of the pointer. -/
structure Window (σ α : Type) where
  chronicle : Chronicle α
  pointer : PointerState σ := {}

/-- What can happen in a window: a frame, or something that is not the pointer's. -/
inductive WindowStep (σ α : Type) where
  | frame (canvas : ScreenRect σ) (inputs : List (PointerInput σ))
  | moment (m : Moment α) (other : m.isPointerCall = false)

namespace WindowStep

variable {σ α : Type}

/-- Whether a step ends a gesture on a certain widget: a release of the primary button and the
pointer's leaving end every gesture, and the board may abandon the widget's. -/
def ends (t : WindowStep σ α) (id : WidgetId) : Bool :=
  match t with
  | .frame _ inputs => inputs.any PointerInput.isRelease || inputs.any PointerInput.isGone
  | .moment m _ => m.abandons id

/-- Whether a step is a frame with a press of the primary button. -/
def presses : WindowStep σ α → Bool
  | .frame _ inputs => inputs.any PointerInput.isPress
  | .moment _ _ => false

end WindowStep

/-- What the pointer can change of a widget: its rectangle and its angle. -/
def Board.geometry? {α : Type} (b : Board α) (id : WidgetId) : Option (Rect α × α) :=
  (b.element? id).map fun e => (e.rect, e.rotation)

namespace Window

variable {σ α : Type}

/-- The board in the window. -/
def board (w : Window σ α) : Board α := w.chronicle.board

/-- A step that ends the running gesture, or that leaves none. -/
def Stops (w : Window σ α) : WindowStep σ α → Prop
  | .frame _ inputs =>
    inputs.any PointerInput.isRelease = true ∨ inputs.any PointerInput.isGone = true
  | .moment m _ => ∃ id gesture, w.board.drag.active = some (id, gesture) ∧ m.abandons id = true

variable [Scalar σ] [Scalar α] [Screen σ α]

/-- Carries a step out. -/
def step (w : Window σ α) : WindowStep σ α → Window σ α
  | .frame canvas inputs =>
    let routed := w.board.routePointer w.pointer canvas inputs
    { chronicle := { w.chronicle with board := routed.1 }, pointer := routed.2.1 }
  | .moment m _ => { w with chronicle := w.chronicle.step m }

/-- Carries steps out one after the other. -/
def run (w : Window σ α) (ts : List (WindowStep σ α)) : Window σ α := ts.foldl step w

/-- What holds in every window. -/
structure Sound (w : Window σ α) : Prop where
  chronicle : w.chronicle.Sound
  focused : w.board.Focused

variable {w : Window σ α}

omit [Scalar σ] [Scalar α] [Screen σ α] in
theorem Sound.aligned (hw : w.Sound) : w.board.Aligned := hw.chronicle.inStep.aligned

theorem run_append (w : Window σ α) (ts us : List (WindowStep σ α)) :
    w.run (ts ++ us) = (w.run ts).run us := List.foldl_append

theorem run_concat (w : Window σ α) (ts : List (WindowStep σ α)) (t : WindowStep σ α) :
    w.run (ts ++ [t]) = (w.run ts).step t :=
  List.foldl_concat step w t ts

theorem board_frame (w : Window σ α) (canvas : ScreenRect σ) (inputs : List (PointerInput σ)) :
    (w.step (.frame canvas inputs)).board =
      (w.board.heard w.pointer canvas inputs).afterFrame (w.pointer.frame inputs) :=
  w.board.routePointer_eq w.pointer canvas inputs

omit [Scalar σ] [Screen σ α] in
/-- Commands one after the other are moments one after the other. -/
theorem chronicle_foldl_perform (c : Chronicle α) (cs : List (BoardCommand α)) :
    { c with board := cs.foldl (fun b c => (b.perform c).1) c.board } =
      c.run (cs.map .command) := by
  induction cs generalizing c with
  | nil => rfl
  | cons command cs ih => exact ih (c.step (.command command))

/-- A step is moments of the board. -/
theorem step_chronicle (w : Window σ α) (t : WindowStep σ α) :
    ∃ ms, (w.step t).chronicle = w.chronicle.run ms := by
  cases t with
  | frame canvas inputs =>
    obtain ⟨cs, heq⟩ := w.board.routePointer_eq_perform w.pointer canvas inputs
    refine ⟨cs.map .command, ?_⟩
    rw [← chronicle_foldl_perform]
    exact congrArg (fun board => { w.chronicle with board }) heq
  | moment m _ => exact ⟨[m], rfl⟩

theorem Sound.step (hw : w.Sound) (t : WindowStep σ α) : (w.step t).Sound := by
  obtain ⟨ms, heq⟩ := w.step_chronicle t
  refine ⟨?_, ?_⟩
  · rw [heq]
    exact hw.chronicle.run ms
  · unfold board
    rw [heq]
    exact Chronicle.focused_run hw.chronicle hw.focused ms

theorem Sound.run (hw : w.Sound) (ts : List (WindowStep σ α)) : (w.run ts).Sound := by
  induction ts generalizing w with
  | nil => exact hw
  | cons t ts ih => exact ih (hw.step t)

omit [Scalar σ] [Screen σ α] in
/-- A window over any board that can come about. -/
theorem sound_run (d : Dashboard α) (polling : Option PollConfig) (ms : List (Moment α))
    (pointer : PointerState σ) :
    ({ chronicle := (Chronicle.start d polling).run ms, pointer } : Window σ α).Sound where
  chronicle := (Chronicle.Sound.start d polling).run ms
  focused := Chronicle.focused_run (.start d polling) (Board.new_focused d _) ms

/-! ## The running gesture -/

/-- **What a step does to the gesture.** One that runs after the step was not ended by it, and it
ran before, or the step is a frame that took hold of its widget. -/
theorem Sound.active_step (hw : w.Sound) {t : WindowStep σ α} {id : WidgetId} {gesture : Gesture}
    (h : (w.step t).board.drag.active = some (id, gesture)) :
    t.ends id = false ∧
      (w.board.drag.active = some (id, gesture) ∨
        ∃ canvas inputs, t = .frame canvas inputs ∧
          w.board.TakesHold w.pointer canvas inputs id gesture) := by
  cases t with
  | frame canvas inputs =>
    obtain ⟨goes, origin⟩ := Board.active_routePointer h
    refine ⟨?_, origin.imp_right fun hold => ⟨canvas, inputs, rfl, hold⟩⟩
    have released := w.pointer.released_frame inputs
    have left := w.pointer.left_frame inputs
    simp only [PointerFrame.ends, PointerFrame.gone, Bool.or_eq_false_iff, released, left] at goes
    exact Bool.or_eq_false_iff.mpr ⟨goes.1.1, goes.1.2.2⟩
  | moment m other =>
    have kept := (Chronicle.active_step hw.focused other).symm.trans h
    obtain ⟨before, spared⟩ := Option.filter_eq_some_iff.mp kept
    exact ⟨Bool.not_eq_true' _ ▸ spared, .inl before⟩

/-- **A running gesture has a frame that began it**, and nothing since ended it. -/
theorem Sound.gesture_origin (hw : w.Sound) (idle : w.board.drag.active = none)
    (ts : List (WindowStep σ α)) {id : WidgetId} {gesture : Gesture}
    (h : (w.run ts).board.drag.active = some (id, gesture)) :
    ∃ pre canvas inputs between, ts = pre ++ .frame canvas inputs :: between ∧
      (w.run pre).board.TakesHold (w.run pre).pointer canvas inputs id gesture ∧
      ∀ t ∈ WindowStep.frame canvas inputs :: between, t.ends id = false := by
  induction ts using List.reverseRecOn with
  | nil => cases idle.symm.trans h
  | append_singleton ts t ih =>
    rw [run_concat] at h
    obtain ⟨goes, before | ⟨canvas, inputs, rfl, hold⟩⟩ := (hw.run ts).active_step h
    · obtain ⟨pre, canvas, inputs, between, rfl, hold, spared⟩ := ih before
      refine ⟨pre, canvas, inputs, between ++ [t], by simp, hold, ?_⟩
      intro u hu
      rcases List.mem_append.mp (List.cons_append ▸ hu) with hu | hu
      · exact spared u hu
      · rwa [List.mem_singleton.mp hu]
    · exact ⟨ts, canvas, inputs, [], rfl, hold, List.forall_mem_singleton.mpr goes⟩

/-- No gesture begins without a press. -/
theorem Sound.idle_run (hw : w.Sound) (idle : w.board.drag.active = none)
    {ts : List (WindowStep σ α)} (quiet : ∀ t ∈ ts, t.presses = false) :
    (w.run ts).board.drag.active = none := by
  cases h : (w.run ts).board.drag.active with
  | none => rfl
  | some p =>
    obtain ⟨pre, canvas, inputs, between, rfl, hold, -⟩ := hw.gesture_origin idle ts h
    have pressed : inputs.any PointerInput.isPress = false :=
      quiet (.frame canvas inputs) (List.mem_append_right pre List.mem_cons_self)
    cases hold.pressed.symm.trans pressed

theorem Sound.idle_of_stops (hw : w.Sound) {t : WindowStep σ α} (stops : w.Stops t) :
    (w.step t).board.drag.active = none := by
  cases h : (w.step t).board.drag.active with
  | none => rfl
  | some p =>
    obtain ⟨goes, origin⟩ := hw.active_step h
    cases t with
    | frame canvas inputs =>
      have ended := Bool.or_eq_true_iff.mpr stops
      cases goes.symm.trans ended
    | moment m other =>
      obtain ⟨id, gesture, active, abandoned⟩ := stops
      obtain before | ⟨_, _, hframe, -⟩ := origin
      · cases active.symm.trans before
        cases goes.symm.trans abandoned
      · cases hframe

/-! ## The geometry -/

/-- What a frame changes belongs to a running gesture. -/
theorem Sound.geometry_frame (hw : w.Sound) {canvas : ScreenRect σ}
    {inputs : List (PointerInput σ)} {id : WidgetId}
    (changed : (w.step (.frame canvas inputs)).board.geometry? id ≠ w.board.geometry? id) :
    ∃ gesture, w.board.drag.active = some (id, gesture) ∧
      (∀ x, x ≠ id → (w.step (.frame canvas inputs)).board.element? x = w.board.element? x) ∧
      inputs.any PointerInput.isGone = false ∧
      (w.step (.frame canvas inputs)).pointer.down = true := by
  have moved : (w.board.routePointer w.pointer canvas inputs).1.element? id ≠
      w.board.element? id := fun same =>
    changed (congrArg (Option.map fun e : Element α => (e.rect, e.rotation)) same)
  obtain ⟨gesture, active, down, here, others⟩ :=
    Board.element?_routePointer hw.aligned moved
  refine ⟨gesture, active, others, ?_, down⟩
  rw [← w.pointer.left_frame inputs]
  exact (Bool.or_eq_false_iff.mp here).2

/-- **The pointer moves nothing that it does not hold.** Take any board that can come about, on
which no gesture runs, and anything that happens in its window.

If a frame changes the rectangle or the angle of a widget, then an earlier frame had a press of the
primary button while the pointer was in the canvas, on a part of this widget, which was selected.
Since then, that frame included, the button was not released, the pointer did not leave the window,
and the board did not abandon the widget's gesture. The frame itself changes no other widget, the
pointer does not leave in it, and the button is down after it.

After a step that ends the gesture, no frame changes the geometry of any widget before another frame
had a press. -/
theorem geometry_changes_after_press (d : Dashboard α) (polling : Option PollConfig)
    (ms : List (Moment α)) (pointer : PointerState σ)
    (idle : ((Chronicle.start d polling).run ms).board.drag.active = none) :
    let w : Window σ α := { chronicle := (Chronicle.start d polling).run ms, pointer }
    (∀ ts canvas inputs id,
      (w.run (ts ++ [.frame canvas inputs])).board.geometry? id ≠ (w.run ts).board.geometry? id →
        (∃ pre canvas₀ inputs₀ between gesture, ts = pre ++ .frame canvas₀ inputs₀ :: between ∧
          (w.run pre).board.TakesHold (w.run pre).pointer canvas₀ inputs₀ id gesture ∧
          ∀ t ∈ WindowStep.frame canvas₀ inputs₀ :: between, t.ends id = false) ∧
        (∀ x, x ≠ id →
          (w.run (ts ++ [.frame canvas inputs])).board.element? x = (w.run ts).board.element? x) ∧
        inputs.any PointerInput.isGone = false ∧
        (w.run (ts ++ [.frame canvas inputs])).pointer.down = true) ∧
    ∀ pre t post canvas inputs, (w.run pre).Stops t → (∀ u ∈ post, u.presses = false) →
      ∀ id, (w.run (pre ++ t :: post ++ [.frame canvas inputs])).board.geometry? id =
        (w.run (pre ++ t :: post)).board.geometry? id := by
  intro w
  have hw : w.Sound := sound_run d polling ms pointer
  constructor
  · intro ts canvas inputs id changed
    rw [run_concat] at changed ⊢
    obtain ⟨gesture, active, others, here, down⟩ := (hw.run ts).geometry_frame changed
    obtain ⟨pre, canvas₀, inputs₀, between, split, hold, spared⟩ := hw.gesture_origin idle ts active
    exact ⟨⟨pre, canvas₀, inputs₀, between, gesture, split, hold, spared⟩, others, here, down⟩
  · intro pre t post canvas inputs stops quiet id
    have stopped : (w.run (pre ++ t :: post)).board.drag.active = none := by
      rw [run_append]
      exact ((hw.run pre).step t).idle_run ((hw.run pre).idle_of_stops stops) quiet
    by_contra changed
    rw [run_concat] at changed
    obtain ⟨gesture, active, -⟩ := (hw.run _).geometry_frame changed
    cases stopped.symm.trans active

/-! ### An element under the pointer -/

noncomputable def sampleElement : Element ℝ :=
  { kind := .staticText
    title := "Clock"
    rect := { x := 10, y := 10, w := 20, h := 20 }
    options := []
    rotation := 0 }

/-- The element on a board of its own, selected. -/
noncomputable def sampleWindow : Window ℝ ℝ :=
  { chronicle :=
      (Chronicle.start { elements := [sampleElement] } none).run
        [.command (.select (some ⟨0⟩))] }

noncomputable def sampleCanvas : ScreenRect ℝ :=
  { min := { x := 0, y := 0 }, max := { x := 1000, y := 500 } }

/-- Left of the middle of the element. -/
noncomputable def sampleSpot : Point ℝ := { x := 150, y := 90 }

/-- A hundred pixels to the right and down. -/
noncomputable def sampleGoal : Point ℝ := { x := 250, y := 190 }

/-- The primary button goes down on the element. -/
noncomputable def samplePress : WindowStep ℝ ℝ := .frame sampleCanvas [.press true sampleSpot]

/-- The pointer goes on. -/
noncomputable def sampleMove : WindowStep ℝ ℝ := .frame sampleCanvas [.moved sampleGoal]

/-- The button goes up. -/
noncomputable def sampleRelease : WindowStep ℝ ℝ := .frame sampleCanvas [.release true sampleSpot]

theorem sampleCanvas_size :
    (sampleCanvas.layout : Layout ℝ).size = { width := 1000, height := 500 } := by
  norm_num [sampleCanvas, ScreenRect.layout, ScreenRect.width, ScreenRect.height, Screen.widen]

theorem sampleCanvas_usable : (sampleCanvas.layout : Layout ℝ).size.isUsable = true := by
  rw [sampleCanvas_size]
  exact Size.isUsable_iff.mpr ⟨⟨rfl, rfl⟩, by norm_num, by norm_num⟩

theorem sampleElement_frame :
    sampleElement.frame sampleCanvas.layout =
      { center := { x := 200, y := 100 }, halfWidth := 100, halfHeight := 50, rotation := 0 } := by
  have origin : (sampleCanvas.layout : Layout ℝ).origin = { x := 0, y := 0 } := rfl
  simp only [Element.frame, WidgetFrame.of, sampleElement, origin, sampleCanvas_size,
    Rect.pixelCenter, Rect.pixelOrigin, Rect.pixelSize, span_eq]
  norm_num

/-- The spot is on the element's body, far from both grabbers. -/
theorem sampleWindow_hit :
    sampleWindow.board.hitTest sampleCanvas.layout sampleSpot = .body ⟨0⟩ := by
  have selected : sampleWindow.board.selected = some ⟨0⟩ := rfl
  have element : sampleWindow.board.element? ⟨0⟩ = some sampleElement := rfl
  have ids : sampleWindow.board.widgetIds = [⟨0⟩] := rfl
  have sine : sin (0 : ℝ) = 0 := Real.sin_zero
  have cosine : cos (0 : ℝ) = 1 := Real.cos_zero
  have far (x y : ℝ) (h : 7 ^ 2 < x ^ 2 + y ^ 2) : ¬ Exact.hypot x y ≤ 7 :=
    not_le.mpr (Real.lt_sqrt_of_sq_lt h)
  have grabber :
      sampleWindow.board.grabberAt sampleCanvas.layout sampleSpot = none := by
    have resize := far 150 60 (by norm_num)
    have rotate := far 150 (-40) (by norm_num)
    unfold Board.grabberAt
    simp only [selected, element, sampleElement_frame, sampleSpot, near, WidgetFrame.resizeGrabber,
      WidgetFrame.rotateGrabber, WidgetFrame.toClient, sine, cosine, hypot, grabberRadius]
    norm_num [resize, rotate]
  have within :
      (sampleElement.frame sampleCanvas.layout).contains sampleSpot = true := by
    rw [sampleElement_frame]
    simp only [sampleSpot, WidgetFrame.contains, WidgetFrame.toLocal, WidgetFrame.within, neg_zero,
      sine, cosine]
    norm_num
  have body : sampleWindow.board.bodyAt sampleCanvas.layout sampleSpot = some ⟨0⟩ := by
    unfold Board.bodyAt
    simp [ids, element, within]
  unfold Board.hitTest
  simp only [grabber, body]

theorem sampleCanvas_contains : sampleCanvas.contains sampleSpot = true := by
  norm_num [ScreenRect.contains, sampleCanvas, sampleSpot]

/-- The press takes hold of the element. -/
theorem samplePress_board :
    (sampleWindow.run [samplePress]).board =
      { sampleWindow.board with drag := ⟨some (⟨0⟩, .move)⟩ } := by
  have heard : sampleWindow.board.heard sampleWindow.pointer sampleCanvas
      [.press true sampleSpot] = (sampleWindow.board.pointerDown (.body ⟨0⟩)).1 :=
    (Board.heard_press _ rfl rfl sampleCanvas_contains).trans
      (congrArg (fun target => (sampleWindow.board.pointerDown target).1) sampleWindow_hit)
  refine (sampleWindow.board_frame sampleCanvas [.press true sampleSpot]).trans ?_
  rw [heard]
  rfl

/-- The movement takes the element along: a tenth of the canvas to the right, a fifth down. -/
theorem sampleMove_element :
    (sampleWindow.run [samplePress, sampleMove]).board.element? ⟨0⟩ =
      some { sampleElement with rect := { x := 20, y := 30, w := 20, h := 20 } } := by
  let pressed := sampleWindow.run [samplePress]
  let inputs : List (PointerInput ℝ) := [.moved sampleGoal]
  have board : pressed.board = { sampleWindow.board with drag := ⟨some (⟨0⟩, .move)⟩ } :=
    samplePress_board
  have active : pressed.board.drag.active = some (⟨0⟩, .move) := by rw [board]
  have aligned : pressed.board.Aligned := by
    rw [board]
    rfl
  have element : pressed.board.element? ⟨0⟩ = some sampleElement := by
    rw [board]
    rfl
  have way : (pressed.pointer.movement inputs : Delta ℝ) = { dx := 100, dy := 100 } := by
    show ({ dx := 250 - 150, dy := 190 - 90 } : Delta ℝ) = _
    norm_num
  have moves : (pressed.pointer.movement inputs : Delta ℝ).isMovement = true := by
    rw [way]
    norm_num [Delta.isMovement]
  have rect : Gesture.moved sampleElement.placement (sampleCanvas.layout : Layout ℝ).size
      { dx := 100, dy := 100 } = { x := 20, y := 30, w := 20, h := 20 } := by
    rw [Gesture.moved_eq sampleCanvas_usable, sampleCanvas_size]
    norm_num [Placement.spanned, sampleElement, Element.placement, ElementKind.isTicker, slide,
      toPercent_eq, Delta.sanitized, isFinite, Exact.isFinite]
  have heard : pressed.board.heard pressed.pointer sampleCanvas inputs = _ :=
    (Board.heard_motion rfl rfl active rfl rfl).trans (if_pos moves)
  show (pressed.step (.frame sampleCanvas inputs)).board.element? ⟨0⟩ = _
  rw [board_frame, Board.element?_afterFrame, heard, Board.element?_pointerMove aligned active,
    if_pos rfl, element]
  simp only [Option.map_some, Gesture.apply, way, rect]
  rfl

/-- Held, the element moves, and a frame took hold of it before; let go, it stays. -/
theorem sample_moves_while_held :
    ((sampleWindow.run [samplePress, sampleMove]).board.geometry? ⟨0⟩ ≠
        (sampleWindow.run [samplePress]).board.geometry? ⟨0⟩ ∧
      ∃ pre canvas inputs between gesture, [samplePress] = pre ++ .frame canvas inputs :: between ∧
        (sampleWindow.run pre).board.TakesHold (sampleWindow.run pre).pointer canvas inputs ⟨0⟩
          gesture) ∧
    (sampleWindow.run [samplePress, sampleRelease, sampleMove]).board.geometry? ⟨0⟩ =
      (sampleWindow.run [samplePress, sampleRelease]).board.geometry? ⟨0⟩ := by
  have law := geometry_changes_after_press { elements := [sampleElement] } none
    [.command (.select (some ⟨0⟩))] ({} : PointerState ℝ) rfl
  have changed : (sampleWindow.run [samplePress, sampleMove]).board.geometry? ⟨0⟩ ≠
      (sampleWindow.run [samplePress]).board.geometry? ⟨0⟩ := by
    unfold Board.geometry?
    rw [sampleMove_element, samplePress_board]
    intro same
    have hx : (20 : ℝ) = 10 := congrArg (fun g => (g.map (·.1.x)).getD 10) same
    norm_num at hx
  obtain ⟨⟨pre, canvas, inputs, between, gesture, split, hold, -⟩, -⟩ :=
    law.1 [samplePress] sampleCanvas [.moved sampleGoal] ⟨0⟩ changed
  refine ⟨⟨changed, pre, canvas, inputs, between, gesture, split, hold⟩, ?_⟩
  exact law.2 [samplePress] sampleRelease [] sampleCanvas [.moved sampleGoal]
    (.inl rfl) nofun ⟨0⟩

end Window

end StatusWall
