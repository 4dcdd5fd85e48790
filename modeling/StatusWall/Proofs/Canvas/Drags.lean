import StatusWall.Proofs.Canvas.Windows
import StatusWall.Proofs.Geometry.Shift

/-!
# Drags

A drag is a stroke of the pointer (`PointerStroke`): the primary button goes down, the pointer
moves, and the button goes up again. The window cuts it into frames, and the cut matters. The first
frame takes hold of what lies where the pointer is at its end, and the last one ends the gesture
before it moves anything. So in exact arithmetic a widget follows the pointer from the end of the
first frame to the beginning of the last one (`Window.stroke_way`): movements in the frames between
are never lost, however they are cut, and those that share a frame with the press or the release
always are.

`Window.drag_follows_pointer_between_frames` compares that with the way from the press to the
release.
-/

namespace StatusWall

open StatusWall.Geometry

/-- What the pointer does in a drag, cut into frames. -/
structure PointerStroke (σ : Type) where
  /-- Movements before the press, in its frame. -/
  approach : List (Point σ) := []
  press : Point σ
  /-- Movements after the press, in its frame. -/
  lead : List (Point σ) := []
  /-- The movements of each frame between the first and the last one. -/
  between : List (List (Point σ)) := []
  /-- Movements before the release, in its frame. -/
  tail : List (Point σ) := []
  release : Point σ
  /-- Movements after the release, in its frame. -/
  rest : List (Point σ) := []

/-- Movements, as inputs. -/
def moves {σ : Type} (ps : List (Point σ)) : List (PointerInput σ) := ps.map .moved

namespace PointerStroke

variable {σ : Type} (s : PointerStroke σ)

/-- The inputs of the first frame. -/
def opening : List (PointerInput σ) := moves s.approach ++ .press true s.press :: moves s.lead

/-- The inputs of the last frame. -/
def closing : List (PointerInput σ) := moves s.tail ++ .release true s.release :: moves s.rest

/-- The stroke as it comes, in two frames or more. -/
def frames {α : Type} (canvas : ScreenRect σ) : List (WindowStep σ α) :=
  .frame canvas s.opening :: s.between.map (fun ps => .frame canvas (moves ps)) ++
    [.frame canvas s.closing]

/-- The stroke in a single frame. -/
def inputs : List (PointerInput σ) :=
  moves s.approach ++ .press true s.press ::
    (moves (s.lead ++ s.between.flatten ++ s.tail) ++ .release true s.release :: moves s.rest)

/-- Where the pointer is after the first frame. -/
def grip : Point σ := s.lead.getLastD s.press

/-- Where the pointer is before the last frame. -/
def parting : Point σ := s.between.flatten.getLastD s.grip

end PointerStroke

/-! ## The pointer in a stroke -/

section Pointer

variable {σ : Type}

theorem getLastD_append {β : Type} (l m : List β) (a : β) :
    (l ++ m).getLastD a = m.getLastD (l.getLastD a) := by
  induction l generalizing a with
  | nil => rfl
  | cons b l ih => rw [List.cons_append, List.getLastD_cons, List.getLastD_cons, ih]

/-- A frame with the pointer at a place. -/
def PointerFrame.put (f : PointerFrame σ) (p : Point σ) : PointerFrame σ :=
  { f with state := { f.state with latest := some p }, position := some p }

/-- Movements leave the pointer at the last place. -/
theorem foldl_moves_put (f : PointerFrame σ) (p : Point σ) (ps : List (Point σ)) :
    (moves ps).foldl PointerFrame.input (f.put p) = f.put (ps.getLastD p) := by
  induction ps generalizing p with
  | nil => rfl
  | cons q ps ih =>
    rw [List.getLastD_cons]
    exact ih q

/-- Movements change where the pointer is, and nothing else. -/
theorem foldl_moves (f : PointerFrame σ) (ps : List (Point σ)) :
    ∃ latest position, (moves ps).foldl PointerFrame.input f =
      { f with state := { f.state with latest }, position } := by
  cases ps with
  | nil => exact ⟨f.state.latest, f.position, rfl⟩
  | cons p ps => exact ⟨_, _, foldl_moves_put f p ps⟩

namespace PointerState

variable (pointer : PointerState σ) (s : PointerStroke σ)

theorem frame_opening :
    pointer.frame s.opening =
      { state := { latest := some s.grip, down := true }, position := some s.grip
        pressed := true } := by
  obtain ⟨latest, position, approached⟩ :=
    foldl_moves { state := pointer, position := pointer.latest } s.approach
  unfold frame PointerStroke.opening
  rw [List.foldl_append, approached]
  exact foldl_moves_put
    { state := { pointer with down := true }, position := none, pressed := true } s.press s.lead

theorem frame_moves (p : Point σ) (ps : List (Point σ)) :
    ({ latest := some p, down := true } : PointerState σ).frame (moves ps) =
      { state := { latest := some (ps.getLastD p), down := true }
        position := some (ps.getLastD p) } :=
  foldl_moves_put { state := { down := true }, position := none } p ps

theorem frame_closing :
    pointer.frame s.closing =
      { state := { latest := some (s.rest.getLastD s.release), down := false }
        position := some (s.rest.getLastD s.release), released := true } := by
  obtain ⟨latest, position, moved⟩ :=
    foldl_moves { state := pointer, position := pointer.latest } s.tail
  unfold frame PointerStroke.closing
  rw [List.foldl_append, moved]
  exact foldl_moves_put
    { state := { pointer with down := false }, position := none, released := true } s.release s.rest

end PointerState

end Pointer

/-! ## A widget that is not moved -/

namespace Board

variable {σ α : Type} [Scalar σ] [Scalar α] [Screen σ α] {b : Board α}

/-- While a widget is not being moved, its upper left corner stays. -/
theorem corner_routePointer (aligned : b.Aligned) (pointer : PointerState σ)
    (canvas : ScreenRect σ) (inputs : List (PointerInput σ)) {id : WidgetId} {e : Element α}
    (element : b.element? id = some e) (free : e.kind.isTicker = false)
    (other : b.drag.active ≠ some (id, .move)) (container : Size α) :
    ∃ e', (b.routePointer pointer canvas inputs).1.element? id = some e' ∧ e'.kind = e.kind ∧
      e'.rect.pixelOrigin container = e.rect.pixelOrigin container := by
  rw [routePointer_eq, element?_afterFrame]
  have hears := b.hears pointer canvas inputs
  generalize b.heard pointer canvas inputs = b' at hears ⊢
  cases hears with
  | nothing => exact ⟨e, element, rfl, rfl⟩
  | press _ _ _ => exact ⟨e, (b.element?_pointerDown _ id).trans element, rfl, rfl⟩
  | @motion x gesture active down here event =>
    have moved := element?_pointerMove aligned active event canvas.layout id
    by_cases hx : id = x
    · subst hx
      rw [if_pos rfl, element] at moved
      refine ⟨_, moved, rfl, ?_⟩
      have notMove : gesture ≠ .move := by
        rintro rfl
        exact other active
      exact Gesture.corner_apply notMove free canvas.layout event container
    · rw [if_neg hx] at moved
      exact ⟨e, moved.trans element, rfl, rfl⟩

end Board

namespace Window

section Steady

variable {σ α : Type} [Scalar σ] [Scalar α] [Screen σ α] {w : Window σ α}

/-- A widget is there with its upper left corner at a place, and nothing is about to move it. -/
structure Steady (w : Window σ α) (container : Size α) (id : WidgetId) (corner : Point α) :
    Prop where
  other : w.board.drag.active ≠ some (id, .move)
  element : ∃ e, w.board.element? id = some e ∧ e.kind.isTicker = false ∧
    e.rect.pixelOrigin container = corner

variable {container : Size α} {id : WidgetId} {corner : Point α}

/-- Without a press, that stays so. -/
theorem Steady.step (hw : w.Sound) (steady : w.Steady container id corner)
    {canvas : ScreenRect σ} {inputs : List (PointerInput σ)}
    (quiet : inputs.any PointerInput.isPress = false) :
    (w.step (.frame canvas inputs)).Steady container id corner := by
  obtain ⟨e, element, free, rfl⟩ := steady.element
  obtain ⟨e', element', kind, same⟩ := Board.corner_routePointer hw.aligned w.pointer canvas inputs
    element free steady.other container
  refine ⟨fun active => ?_, e', element', kind ▸ free, same⟩
  rcases (Board.active_routePointer active).2 with before | hold
  · exact steady.other before
  · cases hold.pressed.symm.trans quiet

theorem Steady.run (hw : w.Sound) (steady : w.Steady container id corner)
    {ts : List (WindowStep σ α)} (frames : ∀ t ∈ ts, ∃ canvas inputs, t = .frame canvas inputs ∧
      inputs.any PointerInput.isPress = false) :
    (w.run ts).Steady container id corner := by
  induction ts generalizing w with
  | nil => exact steady
  | cons t ts ih =>
    obtain ⟨canvas, inputs, rfl, quiet⟩ := frames t List.mem_cons_self
    exact ih (hw.step _) (steady.step hw quiet) fun u hu => frames u (List.mem_cons_of_mem _ hu)

end Steady

/-! ## A widget that is moved -/

variable {K : Type} [Field K] [LinearOrder K] [Exact K] {w : Window K K} {canvas : ScreenRect K}
  {id : WidgetId} {e : Element K}

/-- A press, with the pointer at a place, takes hold of the body of a widget. -/
def Grasps (w : Window K K) (canvas : ScreenRect K) (p : Point K) (id : WidgetId) : Prop :=
  canvas.contains p = true ∧ w.board.hitTest canvas.layout p = .body id

/-- The pointer is at a place and moves the widget, which it has taken as far as it went from
another place. -/
structure Moving (w : Window K K) (canvas : ScreenRect K) (id : WidgetId) (e : Element K)
    (first last : Point K) : Prop where
  active : w.board.drag.active = some (id, .move)
  pointer : w.pointer = { latest := some last, down := true }
  element : w.board.element? id =
    some { e with rect := e.rect.shifted canvas.layout.size (first.wayTo last) }

/-- A first frame that takes hold of the selected widget begins to move it. -/
theorem moving_opening [IsStrictOrderedRing K] (idle : w.board.drag.active = none)
    (selected : w.board.selected = some id) (element : w.board.element? id = some e)
    (s : PointerStroke K) (grasps : w.Grasps canvas s.grip id) :
    (w.step (.frame canvas s.opening)).Moving canvas id e s.grip s.grip := by
  have frame := w.pointer.frame_opening s
  have place : (w.pointer.frame s.opening).position = some s.grip := by rw [frame]
  have heard := w.board.heard_press (by rw [frame]) place grasps.1
  have target : w.board.hitTest canvas.layout (ScreenRect.widenPoint s.grip) = .body id := grasps.2
  rw [target, Board.pointerDown_body idle selected] at heard
  have goes : (w.pointer.frame s.opening).ends = false := by
    rw [frame]
    rfl
  have board := w.board_frame canvas s.opening
  rw [Board.afterFrame_of_goes_on _ goes, heard] at board
  refine ⟨?_, congrArg PointerFrame.state frame, ?_⟩
  · rw [board]
  · rw [board, Rect.shifted_self]
    exact element

/-- Any other first frame does not. -/
theorem steady_opening (hw : w.Sound) (idle : w.board.drag.active = none)
    (element : w.board.element? id = some e) (free : e.kind.isTicker = false) (s : PointerStroke K)
    (misses : ¬ w.Grasps canvas s.grip id) (container : Size K) :
    (w.step (.frame canvas s.opening)).Steady container id (e.rect.pixelOrigin container) := by
  obtain ⟨e', element', kind, same⟩ := Board.corner_routePointer hw.aligned w.pointer canvas
    s.opening element free (fun moving => nomatch idle.symm.trans moving) container
  refine ⟨fun active => ?_, e', element', kind ▸ free, same⟩
  rcases (Board.active_routePointer active).2 with before | ⟨-, -, p, place, inside, part⟩
  · cases idle.symm.trans before
  · rw [w.pointer.frame_opening s] at place
    cases place
    refine misses ⟨inside, ?_⟩
    show w.board.hitTest canvas.layout (ScreenRect.widenPoint s.grip) = .body id
    cases target : w.board.hitTest canvas.layout (ScreenRect.widenPoint s.grip) with
    | body x =>
      rw [target] at part
      cases part
      rfl
    | resizeHandle x | rotateHandle x | canvas =>
      rw [target] at part
      cases part

/-- The last frame moves nothing. -/
theorem element?_closing (w : Window K K) (canvas : ScreenRect K) (s : PointerStroke K)
    (x : WidgetId) :
    (w.step (.frame canvas s.closing)).board.element? x = w.board.element? x := by
  have frame := w.pointer.frame_closing s
  have up : (w.pointer.frame s.closing).state.down = false := by rw [frame]
  rw [board_frame, Board.element?_afterFrame, w.board.heard_up (by rw [frame]) up]

/-- In a single frame, a stroke moves nothing. -/
theorem corner_inputs (hw : w.Sound) (idle : w.board.drag.active = none)
    (element : w.board.element? id = some e) (free : e.kind.isTicker = false) (s : PointerStroke K)
    (container : Size K) :
    ∃ e', (w.step (.frame canvas s.inputs)).board.element? id = some e' ∧
      e'.rect.pixelOrigin container = e.rect.pixelOrigin container := by
  obtain ⟨e', element', -, same⟩ := Board.corner_routePointer hw.aligned w.pointer canvas s.inputs
    element free (fun moving => nomatch idle.symm.trans moving) container
  exact ⟨e', element', same⟩

section Moving

variable [IsStrictOrderedRing K] (finite : ∀ x : K, isFinite x = true)
  (free : e.kind.isTicker = false) (usable : (canvas.layout : Layout K).size.isUsable = true)
  {first last : Point K}

include finite free usable

/-- **A frame of movements takes the widget along**, however many they are. -/
theorem Moving.step (hw : w.Sound) (moving : w.Moving canvas id e first last) {ps : List (Point K)}
    (inside : ∀ p ∈ ps,
      (e.rect.shifted (canvas.layout : Layout K).size (first.wayTo p)).InCanvas) :
    (w.step (.frame canvas (moves ps))).Moving canvas id e first (ps.getLastD last) := by
  have frame : w.pointer.frame (moves ps) = _ := moving.pointer ▸ PointerState.frame_moves last ps
  have way : (w.pointer.movement (moves ps) : Delta K) = last.wayTo (ps.getLastD last) := by
    unfold PointerState.movement
    rw [frame, moving.pointer]
    rfl
  have place : (w.pointer.frame (moves ps)).position = some (ps.getLastD last) := by rw [frame]
  have down : (w.pointer.frame (moves ps)).state.down = true := by rw [frame]
  have here : (w.pointer.frame (moves ps)).gone = false := by
    rw [frame]
    rfl
  have heard : w.board.heard w.pointer canvas (moves ps) = _ :=
    Board.heard_motion (by rw [frame]) place moving.active down here
  rw [way] at heard
  have goes : (w.pointer.frame (moves ps)).ends = false := by
    rw [frame]
    rfl
  have board := w.board_frame canvas (moves ps)
  rw [Board.afterFrame_of_goes_on _ goes, heard] at board
  have pointer : (w.step (.frame canvas (moves ps))).pointer =
      { latest := some (ps.getLastD last), down := true } := congrArg PointerFrame.state frame
  cases moved : (last.wayTo (ps.getLastD last)).isMovement with
  | false =>
    have stays := Point.wayTo_isMovement_eq_false_iff.mp moved
    rw [moved, if_neg Bool.false_ne_true] at board
    refine ⟨?_, pointer, ?_⟩
    · rw [board]
      exact moving.active
    · rw [board, stays]
      exact moving.element
  | true =>
    have there : ps.getLastD last ∈ ps := by
      rcases List.mem_cons.mp (List.getLastD_mem_cons (l := ps) (a := last)) with stays | there
      · rw [stays, Point.wayTo_isMovement_eq_false_iff.mpr rfl] at moved
        cases moved
      · exact there
    rw [moved, if_pos rfl] at board
    have displaced := inside _ there
    rw [← Rect.shifted_shifted first last] at displaced
    have slid := Gesture.moved_eq_shifted finite usable
      (p := { e.placement with rect := e.rect.shifted _ (first.wayTo last) }) free displaced
    rw [Rect.shifted_shifted first last] at slid
    have placed := Board.element?_pointerMove hw.aligned moving.active
    refine ⟨?_, pointer, ?_⟩
    · rw [board, Board.drag_pointerMove moving.active moving.element]
      exact moving.active
    · rw [board, placed, if_pos rfl, moving.element, ← slid]
      rfl

/-- **Frames of movements take the widget along**, however the movements are cut into frames. -/
theorem Moving.run (hw : w.Sound) (moving : w.Moving canvas id e first last)
    {between : List (List (Point K))} (inside : ∀ p ∈ between.flatten,
      (e.rect.shifted (canvas.layout : Layout K).size (first.wayTo p)).InCanvas) :
    (w.run (between.map fun ps => .frame canvas (moves ps))).Moving canvas id e first
      (between.flatten.getLastD last) := by
  induction between generalizing w last with
  | nil => exact moving
  | cons ps between ih =>
    rw [List.flatten_cons] at inside ⊢
    rw [getLastD_append]
    obtain ⟨here, later⟩ := List.forall_mem_append.mp inside
    exact ih (hw.step _) (moving.step finite free usable hw here) later

/-- **The way of a stroke.** If its first frame takes hold of the widget, the widget goes from where
the pointer is after that frame to where it is before the last one. Otherwise it stays. -/
theorem stroke_way (hw : w.Sound) (idle : w.board.drag.active = none)
    (selected : w.board.selected = some id) (element : w.board.element? id = some e)
    (s : PointerStroke K)
    (inside : ∀ p ∈ s.between.flatten,
      (e.rect.shifted (canvas.layout : Layout K).size (s.grip.wayTo p)).InCanvas) :
    let size := (canvas.layout : Layout K).size
    ∃ e', (w.run (s.frames canvas)).board.element? id = some e' ∧
      (w.Grasps canvas s.grip id →
        (e.rect.pixelOrigin size).wayTo (e'.rect.pixelOrigin size) = s.grip.wayTo s.parting) ∧
      (¬ w.Grasps canvas s.grip id → e'.rect.pixelOrigin size = e.rect.pixelOrigin size) := by
  intro size
  have split : w.run (s.frames canvas) =
      ((w.step (.frame canvas s.opening)).run
        (s.between.map fun ps => .frame canvas (moves ps))).step (.frame canvas s.closing) :=
    run_concat (w.step (.frame canvas s.opening)) _ _
  rw [split, element?_closing]
  by_cases grasps : w.Grasps canvas s.grip id
  · have moving := (moving_opening idle selected element s grasps).run finite free usable
      (hw.step _) inside
    refine ⟨_, moving.element, fun _ => ?_, fun misses => absurd grasps misses⟩
    exact Rect.wayTo_pixelOrigin_shifted usable _
  · have quiet : ∀ t ∈ s.between.map fun ps => (.frame canvas (moves ps) : WindowStep K K),
        ∃ canvas inputs, t = .frame canvas inputs ∧ inputs.any PointerInput.isPress = false := by
      intro t ht
      obtain ⟨ps, -, rfl⟩ := List.mem_map.mp ht
      exact ⟨canvas, moves ps, rfl, by simp [moves, PointerInput.isPress, Function.comp_def]⟩
    have steady := (steady_opening hw idle element free s grasps size).run (hw.step _) quiet
    obtain ⟨e', element', -, same⟩ := steady.element
    exact ⟨e', element', fun holds => absurd holds grasps, fun _ => same⟩

end Moving

/-- **A widget follows the pointer between the frames of the press and of the release.** Take any
board that can come about, with a selected widget that is no ticker, a canvas one can divide by, and
a stroke of the pointer that begins while no gesture runs. As long as the frames between keep the
widget in the canvas, its upper left corner goes exactly as far as the pointer does between the end
of the first frame and the beginning of the last one, if the first frame ends on the widget's body;
otherwise, and if the whole stroke is a single frame, it does not move.

So if the press is on the body and the last thing in its frame, the widget goes from the press to
the release exactly if the frame of the release brings no way of its own. -/
theorem drag_follows_pointer_between_frames [IsStrictOrderedRing K]
    (finite : ∀ x : K, isFinite x = true) (d : Dashboard K) (polling : Option PollConfig)
    (ms : List (Moment K)) (pointer : PointerState K) {canvas : ScreenRect K}
    (usable : (canvas.layout : Layout K).size.isUsable = true) {id : WidgetId} {e : Element K} :
    let w : Window K K := { chronicle := (Chronicle.start d polling).run ms, pointer }
    let size := (canvas.layout : Layout K).size
    w.board.drag.active = none → w.board.selected = some id → w.board.element? id = some e →
      e.kind.isTicker = false → ∀ s : PointerStroke K,
      (∀ p ∈ s.between.flatten, (e.rect.shifted size (s.grip.wayTo p)).InCanvas) →
      (∃ e', (w.run (s.frames canvas)).board.element? id = some e' ∧
        (w.Grasps canvas s.grip id →
          (e.rect.pixelOrigin size).wayTo (e'.rect.pixelOrigin size) = s.grip.wayTo s.parting) ∧
        (¬ w.Grasps canvas s.grip id → e'.rect.pixelOrigin size = e.rect.pixelOrigin size) ∧
        (w.Grasps canvas s.press id → s.grip = s.press →
          ((e.rect.pixelOrigin size).wayTo (e'.rect.pixelOrigin size) = s.press.wayTo s.release ↔
            s.parting = s.release))) ∧
      ∃ e', (w.step (.frame canvas s.inputs)).board.element? id = some e' ∧
        e'.rect.pixelOrigin size = e.rect.pixelOrigin size := by
  intro w size idle selected element free s inside
  have hw : w.Sound := sound_run d polling ms pointer
  obtain ⟨e', element', follows, stays⟩ :=
    stroke_way finite free usable hw idle selected element s inside
  refine ⟨⟨e', element', follows, stays, fun grasps grip => ?_⟩,
    corner_inputs hw idle element free s size⟩
  rw [follows (grip ▸ grasps), grip, Point.wayTo_inj]

/-! ### The frame of the last movement -/

theorem sampleWindow_grasps : sampleWindow.Grasps sampleCanvas sampleSpot ⟨0⟩ :=
  ⟨sampleCanvas_contains, sampleWindow_hit⟩

/-- From the press to the release. -/
theorem sampleElement_inCanvas :
    (sampleElement.rect.shifted (sampleCanvas.layout : Layout ℝ).size
      (sampleSpot.wayTo sampleGoal)).InCanvas := by
  rw [sampleCanvas_size]
  refine ⟨⟨?_, ?_, ?_⟩, ⟨?_, ?_, ?_⟩⟩ <;>
    norm_num [Rect.shifted, sampleElement, sampleSpot, sampleGoal, Point.wayTo, toPercent_eq]

/-- The pointer arrives in a frame of its own, and the button goes up in the next one. -/
noncomputable def sampleStroke : PointerStroke ℝ :=
  { press := sampleSpot
    between := [[sampleGoal]]
    release := sampleGoal }

/-- The element follows the pointer all the way. -/
theorem sample_follows_pointer :
    ∃ e', (sampleWindow.run (sampleStroke.frames sampleCanvas)).board.element? ⟨0⟩ = some e' ∧
      (sampleElement.rect.pixelOrigin (sampleCanvas.layout : Layout ℝ).size).wayTo
          (e'.rect.pixelOrigin (sampleCanvas.layout : Layout ℝ).size) =
        sampleStroke.press.wayTo sampleStroke.release := by
  have inside : ∀ p ∈ sampleStroke.between.flatten,
      (sampleElement.rect.shifted (sampleCanvas.layout : Layout ℝ).size
        (sampleStroke.grip.wayTo p)).InCanvas :=
    List.forall_mem_singleton.mpr sampleElement_inCanvas
  obtain ⟨⟨e', element, -, -, exact_iff⟩, -⟩ := drag_follows_pointer_between_frames
    (fun _ => rfl) { elements := [sampleElement] } none [.command (.select (some ⟨0⟩))] {}
    sampleCanvas_usable rfl rfl rfl rfl sampleStroke inside
  exact ⟨e', element, (exact_iff sampleWindow_grasps rfl).mpr rfl⟩

/-- The pointer arrives in the frame in which the button goes up. -/
noncomputable def hastyStroke : PointerStroke ℝ :=
  { press := sampleSpot
    tail := [sampleGoal]
    release := sampleGoal }

/-- **A movement in the frame of the release is lost**: the element stays, though the way to the
release would keep it in the canvas. -/
theorem hasty_movement_is_lost :
    sampleWindow.board.selected = some ⟨0⟩ ∧ sampleWindow.board.drag.active = none ∧
      sampleWindow.board.element? ⟨0⟩ = some sampleElement ∧
      sampleElement.kind.isTicker = false ∧
      (sampleCanvas.layout : Layout ℝ).size.isUsable = true ∧
      sampleWindow.Grasps sampleCanvas hastyStroke.press ⟨0⟩ ∧
      (∀ p ∈ hastyStroke.lead ++ hastyStroke.between.flatten ++ hastyStroke.tail,
        (sampleElement.rect.shifted (sampleCanvas.layout : Layout ℝ).size
          (hastyStroke.press.wayTo p)).InCanvas) ∧
      ∃ e', (sampleWindow.run (hastyStroke.frames sampleCanvas)).board.element? ⟨0⟩ = some e' ∧
        (sampleElement.rect.pixelOrigin (sampleCanvas.layout : Layout ℝ).size).wayTo
            (e'.rect.pixelOrigin (sampleCanvas.layout : Layout ℝ).size) ≠
          hastyStroke.press.wayTo hastyStroke.release := by
  have hw : sampleWindow.Sound := sound_run { elements := [sampleElement] } none _ {}
  refine ⟨rfl, rfl, rfl, rfl, sampleCanvas_usable, sampleWindow_grasps,
    List.forall_mem_singleton.mpr sampleElement_inCanvas, ?_⟩
  obtain ⟨e', element, follows, -⟩ := stroke_way (fun _ => rfl) (e := sampleElement) rfl
    sampleCanvas_usable hw rfl rfl rfl hastyStroke nofun
  refine ⟨e', element, ?_⟩
  rw [follows sampleWindow_grasps]
  intro same
  have arrived : (150 : ℝ) = 250 := congrArg Point.x (Point.wayTo_inj.mp same)
  norm_num at arrived

end Window

end StatusWall
