import StatusWall.Proofs.Board.Moves
import StatusWall.Proofs.Geometry.Range
import StatusWall.Proofs.Json.Reader

/-!
# Boards with finite numbers

A number that is not finite has no spelling in a document: it is written as null, and a board with it
is refused when it is read again. A board that was read has finite numbers only
(`Chronicle.start_finite_of_readText`), and being finite is about the geometry, so only movements of
the pointer can spoil it. They do so exactly if they leave the range of the numbers
(`Chronicle.sessions_stay_finite_iff_in_range`).

Two kinds of events leave it. A pointer or a canvas in an undefined place turns a widget by an undefined
angle, since turning neither sanitizes what it is given nor asks whether the canvas is usable. And
numbers that are finite but very large, or a canvas that is very small, make a move or a resize overflow
(`Chronicle.lost_pointer_and_tiny_canvas_undo_label`).
-/

namespace StatusWall

open StatusWall.Geometry

variable {direction : Float → Float → Float}

/-- Being finite is about the geometry. -/
theorem geometrical_finite (angular : Angular direction) :
    Geometrical (fun e : Element (Directed direction) => e.Finite)
      fun gesture e layout event => gesture.InRange e.placement layout event where
  default := ⟨⟨isFinite_nought, isFinite_nought, show Float.isFinite 30.0 = true by decide,
    show Float.isFinite 12.0 = true by decide⟩, isFinite_nought⟩
  elsewhere e e' h rotation rect := by
    have ticker : (Element.tickerRect : Rect (Directed direction)).Finite :=
      ⟨isFinite_nought, show Float.isFinite 82.84371327849588 = true by decide, isFinite_span,
        show Float.isFinite 16.0 = true by decide⟩
    refine ⟨?_, rotation ▸ h.rotation⟩
    rcases rect with hrect | hrect
    · exact hrect ▸ h.rect
    · exact hrect ▸ ticker
  place_iff e h gesture layout event := by
    have placed : e.placement.Finite := ⟨h.rect, h.rotation⟩
    rw [← Gesture.apply_finite_iff angular placed gesture layout event]
    exact ⟨fun f => ⟨f.rect, f.rotation⟩, fun f => ⟨f.rect, f.rotation⟩⟩

namespace Board

variable {α : Type} [Scalar α]

/-- Every number of every element is finite. -/
def Finite (b : Board α) : Prop := ∀ e ∈ b.dashboard.elements, e.Finite

/-- If a gesture runs, the event leaves it within the range of the numbers. -/
def StaysInRange (b : Board α) (event : PointerEvent α) (layout : Layout α) : Prop :=
  ∀ id gesture e, b.drag.active = some (id, gesture) → b.element? id = some e →
    gesture.InRange e.placement layout event

end Board

namespace Chronicle

/-- A board that was read from a text begins with finite numbers. -/
theorem start_finite_of_readText {text : String} {d : Dashboard Float}
    (h : Json.readText Dashboard.read text = .ok d) (polling : Option PollConfig) :
    (start (α := Directed direction) d polling).board.Finite := by
  obtain ⟨doc, hdoc, hread⟩ := Json.inRange_of_readText h
  have same : (start (α := Directed direction) d polling).board.dashboard = d :=
    (Board.new_becomes (α := Directed direction) d _).dashboard
  intro e he
  rw [same] at he
  obtain ⟨⟨rect, rotation⟩, -⟩ := Dashboard.writable_of_read hdoc hread e he
  exact ⟨⟨rect.x, rect.y, rect.w, rect.h⟩, rotation⟩

/-- **Gestures and sessions stay finite exactly as long as the pointer stays in range.** Directions are
computed by any function that is finite for numbers and only for them. A gesture takes a finite
placement to a finite one if and only if its event is in range. A board that was read is finite at
first; and from any finite board that can come about, a session keeps every number of every element
finite at every moment if and only if each movement of the pointer is in range for the gesture that
runs. Everything else keeps them finite: the other commands, and whatever the tasks do. -/
theorem sessions_stay_finite_iff_in_range {direction : Float → Float → Float}
    (angular : Angular direction) (d : Dashboard (Directed direction)) (polling : Option PollConfig)
    (ms ms' : List (Moment (Directed direction)))
    (ss ss' : List (Source × RunStep (Directed direction))) :
    let c := (start d polling).run ms
    let r := BoardRun.steps { board := (start d polling).board } ss
    (∀ (gesture : Gesture) (p : Placement (Directed direction)) layout event, p.Finite →
      ((gesture.apply p layout event).Finite ↔ gesture.InRange p layout event)) ∧
    (∀ text, Json.readText Dashboard.read text = .ok d → (start d polling).board.Finite) ∧
    (c.board.Finite →
      ((∀ pre, pre <+: ms' → (c.run pre).board.Finite) ↔
        ∀ pre event layout, pre ++ [.command (.pointerMove event layout)] <+: ms' →
          (c.run pre).board.StaysInRange event layout)) ∧
    (r.board.Finite →
      ((∀ pre, pre <+: ss' → (r.steps pre).board.Finite) ↔
        ∀ pre source event layout,
          pre ++ [(source, .command (.pointerMove event layout))] <+: ss' →
            (r.steps pre).board.StaysInRange event layout)) := by
  intro c r
  have geometrical := geometrical_finite angular
  exact ⟨fun gesture p layout event h => gesture.apply_finite_iff angular h layout event,
    fun text h => start_finite_of_readText h polling,
    fun h => run_all_iff geometrical ((Sound.start d polling).run ms) h ms',
    fun h => BoardRun.steps_all_iff geometrical (BoardRun.sound_steps d polling ss) h ss'⟩

/-! ### A label that is turned -/

/-- A label at the upper left, on a canvas of 1000 by 500 pixels with its center at 200 and 100. -/
def sampleLabel : Element (Directed direction) :=
  { kind := .staticText
    title := "Label"
    rect := { x := 10.0, y := 10.0, w := 20.0, h := 20.0 }
    options := []
    rotation := 0.5 }

def sampleFrame : Layout (Directed direction) :=
  { origin := { x := 0.0, y := 0.0 }, size := { width := 1000.0, height := 500.0 } }

/-- The pointer is somewhere, and reports a movement that is undefined. -/
def sampleTurn (x y : Float) : PointerEvent (Directed direction) :=
  { client := { x := x, y := y }, movement := { dx := (0.0 / 0.0 : Float), dy := 0.0 }, target := .canvas }

/-- The label is selected, its handle is pressed and pulled to a place. -/
def sampleTurning (x y : Float) : List (Moment (Directed direction)) :=
  [.command (.select (some ⟨0⟩)), .command (.pointerDown (.rotateHandle ⟨0⟩)),
    .command (.pointerMove (sampleTurn x y) sampleFrame)]

theorem sampleLabel_finite : (sampleLabel : Element (Directed direction)).Finite :=
  ⟨⟨show Float.isFinite 10.0 = true by decide, show Float.isFinite 10.0 = true by decide,
    show Float.isFinite 20.0 = true by decide, show Float.isFinite 20.0 = true by decide⟩,
    show Float.isFinite 0.5 = true by decide⟩

/-- Directions of the axes, and of everything else the direction of the axis that it is turned to. -/
def quarterTurns (y x : Float) : Float :=
  if y.isNaN || x.isNaN then 0.0 / 0.0
  else if 0.0 < y then 1.5707963267948966
  else if y < 0.0 then -1.5707963267948966
  else if x < 0.0 then 3.141592653589793 else 0.0

theorem angular_quarterTurns : Angular quarterTurns := by
  intro y x
  unfold quarterTurns
  have undefined : (0.0 / 0.0 : Float).isFinite = false := by decide
  cases y.isNaN with
  | true => exact undefined
  | false =>
    cases x.isNaN with
    | true => exact undefined
    | false =>
      simp only [Bool.or_self, Bool.false_eq_true, if_false]
      repeat' split
      all_goals decide

/-- A label that is turned to a place stays finite, whatever else the pointer reports. -/
theorem turned_label_stays_finite :
    let c : Chronicle (Directed quarterTurns) := start { elements := [sampleLabel] } none
    Angular quarterTurns ∧ c.board.Finite ∧
      ∀ pre, pre <+: sampleTurning 200.0 300.0 → (c.run pre).board.Finite := by
  intro c
  have h : c.board.Finite := List.forall_mem_singleton.mpr sampleLabel_finite
  have session := sessions_stay_finite_iff_in_range angular_quarterTurns { elements := [sampleLabel] }
    none [] (sampleTurning 200.0 300.0) [] []
  refine ⟨angular_quarterTurns, h, (session.2.2.1 h).mpr fun pre event layout hpre => ?_⟩
  obtain ⟨rfl, rfl, rfl⟩ : pre = (sampleTurning 200.0 300.0).take 2 ∧ event = sampleTurn 200.0 300.0 ∧
      layout = sampleFrame := by
    rcases pre with _ | ⟨m₁, _ | ⟨m₂, _ | ⟨m₃, pre⟩⟩⟩ <;>
      simp_all [sampleTurning, List.cons_prefix_cons]
  intro id gesture e hactive he
  cases hactive
  cases he
  have defined (client origin place extent length : Float)
      (h : (client - (origin + (place / 100.0 * length + extent / 100.0 * length / 2.0))).isNaN = false) :
      Defined (client - (origin + (place / 100.0 * length + extent / 100.0 * length / 2.0))) :=
    Double.le_self_iff.mpr h
  exact fun _ => ⟨defined 300.0 0.0 10.0 20.0 500.0 (by decide +kernel),
    defined 200.0 0.0 10.0 20.0 1000.0 (by decide +kernel)⟩

/-- Whatever computes directions, a pointer that is nowhere spoils the board. -/
theorem lost_pointer_spoils_board (angular : Angular direction) :
    let c : Chronicle (Directed direction) := start { elements := [sampleLabel] } none
    c.board.Finite ∧ ¬ (c.run (sampleTurning (0.0 / 0.0) 300.0)).board.Finite := by
  intro c
  have h : c.board.Finite := List.forall_mem_singleton.mpr sampleLabel_finite
  refine ⟨h, fun after => ?_⟩
  let pressed := c.run ((sampleTurning (0.0 / 0.0) 300.0).take 2)
  have sound : pressed.Sound := (Sound.start _ none).run _
  have before : pressed.board.Finite := List.forall_mem_singleton.mpr sampleLabel_finite
  have moves := (step_all_iff (geometrical_finite angular) sound before
    (.command (.pointerMove (sampleTurn (0.0 / 0.0) 300.0) sampleFrame))).mp after _ _ rfl
  have across : (0.0 / 0.0 : Float) - (0.0 + (10.0 / 100.0 * 1000.0 + 20.0 / 100.0 * 1000.0 / 2.0)) ≤
      (0.0 / 0.0 : Float) - (0.0 + (10.0 / 100.0 * 1000.0 + 20.0 / 100.0 * 1000.0 / 2.0)) :=
    (moves ⟨0⟩ .rotate sampleLabel rfl rfl rfl).2
  revert across
  decide +kernel

/-- **A lost pointer and a tiny canvas undo a label**: the one turns it by no angle at all, whatever
computes directions, and on the other its least size is too large for a double. -/
theorem lost_pointer_and_tiny_canvas_undo_label :
    (∀ direction, Angular direction →
      let c : Chronicle (Directed direction) := start { elements := [sampleLabel] } none
      c.board.Finite ∧ ¬ (c.run (sampleTurning (0.0 / 0.0) 300.0)).board.Finite) ∧
    (let tiny : Layout Float :=
      { origin := { x := 0.0, y := 0.0 }, size := { width := 1e-307, height := 500.0 } }
      let label : Placement Float :=
        { rect := { x := 10.0, y := 10.0, w := 20.0, h := 20.0 }, rotation := 0.5, isTicker := false }
      let still : PointerEvent Float :=
        { client := { x := 5.0, y := 0.0 }, movement := { dx := 0.0, dy := 0.0 }, target := .canvas }
      tiny.size.isUsable = true ∧ label.Finite ∧ ¬ (Gesture.resize.apply label tiny still).Finite) := by
  refine ⟨fun direction angular => lost_pointer_spoils_board angular, ?_⟩
  intro tiny label still
  have usable : tiny.size.isUsable = true := by decide +kernel
  have overflow : Float.isFinite (Gesture.resize.apply label tiny still).rect.w = false := by
    decide +kernel
  refine ⟨usable, ⟨⟨by decide, by decide, by decide, by decide⟩, by decide⟩, fun finite => ?_⟩
  exact Bool.eq_false_iff.mp overflow finite.rect.w

end Chronicle

end StatusWall
