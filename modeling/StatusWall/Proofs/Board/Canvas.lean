import StatusWall.Proofs.Geometry.Canvas
import StatusWall.Proofs.Board.Moves

/-!
# Boards on the canvas

Over a whole session, in exact arithmetic, every element stays in the canvas as long as a resize
never meets less room than the least size. That is all that can go wrong: being in the canvas is about
the geometry (`geometrical_inCanvas`), so no other command brings an element out, and neither does
anything the tasks do; and no other gesture does, in whatever layout.

The condition is about the widget and not about the window. A strip at the right edge of a large
canvas is pushed over the edge even when only its height is dragged.
-/

namespace StatusWall

open StatusWall.Geometry

section

variable {α : Type} [Scalar α]

/-- If a resize is under way, its widget has room for the least size in the layout. -/
def Board.LeavesRoom (b : Board α) (layout : Layout α) : Prop :=
  ∀ id e, b.drag.active = some (id, .resize) → b.element? id = some e →
    layout.size.isUsable = true → e.placement.HasRoom layout.size

end

variable {K : Type} [Field K] [LinearOrder K] [IsStrictOrderedRing K] [Exact K]

namespace Board

/-- Every element lies in the canvas. -/
def InCanvas {K : Type} [Field K] [LinearOrder K] (b : Board K) : Prop :=
  ∀ e ∈ b.dashboard.elements, e.rect.InCanvas

/-- Being in the canvas is about the geometry. -/
theorem geometrical_inCanvas : Geometrical (fun e : Element K => e.rect.InCanvas)
    fun gesture e layout _ =>
      gesture = .resize → layout.size.isUsable = true → e.placement.HasRoom layout.size where
  default := defaultRect_inCanvas
  elsewhere _ _ h _ rect := by
    rcases rect with hrect | hrect
    · exact hrect ▸ h
    · exact hrect ▸ tickerRect_inCanvas
  place_iff e h gesture layout event :=
    Gesture.apply_inCanvas_iff (p := e.placement) h gesture layout event

omit [IsStrictOrderedRing K] in
theorem movesRespect_iff_leavesRoom {b : Board K} {event : PointerEvent K} {layout : Layout K} :
    b.MovesRespect (fun gesture e layout _ =>
      gesture = .resize → layout.size.isUsable = true → e.placement.HasRoom layout.size) event layout ↔
        b.LeavesRoom layout := by
  constructor
  · exact fun moves id e hactive he => moves id .resize e hactive he rfl
  · rintro room id _ e hactive he rfl
    exact room id e hactive he

end Board

namespace Chronicle

variable {c : Chronicle K}

theorem step_inCanvas_iff (hc : c.Sound) (h : c.board.InCanvas) (m : Moment K) :
    (c.step m).board.InCanvas ↔
      ∀ event layout, m = .command (.pointerMove event layout) → c.board.LeavesRoom layout := by
  refine (step_all_iff Board.geometrical_inCanvas hc h m).trans ?_
  simp only [Board.movesRespect_iff_leavesRoom]

theorem run_inCanvas_iff (hc : c.Sound) (h : c.board.InCanvas) (ms : List (Moment K)) :
    (∀ pre, pre <+: ms → (c.run pre).board.InCanvas) ↔
      ∀ pre event layout, pre ++ [.command (.pointerMove event layout)] <+: ms →
        (c.run pre).board.LeavesRoom layout := by
  refine (run_all_iff Board.geometrical_inCanvas hc h ms).trans ?_
  simp only [Board.movesRespect_iff_leavesRoom]

end Chronicle

theorem BoardRun.steps_inCanvas_iff {r : BoardRun K} (hr : r.Sound) (h : r.board.InCanvas)
    (ss : List (Source × RunStep K)) :
    (∀ pre, pre <+: ss → (r.steps pre).board.InCanvas) ↔
      ∀ pre source event layout, pre ++ [(source, .command (.pointerMove event layout))] <+: ss →
        (r.steps pre).board.LeavesRoom layout := by
  refine (steps_all_iff Board.geometrical_inCanvas hr h ss).trans ?_
  simp only [Board.movesRespect_iff_leavesRoom]

namespace Chronicle

/-- **Sessions stay in the canvas exactly as long as every resize finds room.** Take any board that
can come about, and any session on it. If all elements lie in the canvas at first, they do so at
every moment of the session if and only if each movement of the pointer that resizes a widget in a
layout one can divide by finds the least size between the widget's upper left corner and the edges
of the canvas. Everything else keeps them there: the other gestures, the other commands, and
whatever the tasks do. -/
theorem sessions_stay_in_canvas_iff_room (d : Dashboard K) (polling : Option PollConfig)
    (ms ms' : List (Moment K)) (ss ss' : List (Source × RunStep K)) :
    let c := (start d polling).run ms
    let r := BoardRun.steps { board := (start d polling).board } ss
    (c.board.InCanvas →
      ((∀ pre, pre <+: ms' → (c.run pre).board.InCanvas) ↔
        ∀ pre event layout, pre ++ [.command (.pointerMove event layout)] <+: ms' →
          (c.run pre).board.LeavesRoom layout)) ∧
    (r.board.InCanvas →
      ((∀ pre, pre <+: ss' → (r.steps pre).board.InCanvas) ↔
        ∀ pre source event layout,
          pre ++ [(source, .command (.pointerMove event layout))] <+: ss' →
            (r.steps pre).board.LeavesRoom layout)) := by
  intro c r
  exact ⟨fun h => run_inCanvas_iff ((Sound.start d polling).run ms) h ms',
    fun h => BoardRun.steps_inCanvas_iff (BoardRun.sound_steps d polling ss) h ss'⟩

/-! ### A strip at the right edge -/

/-- An element at a place and of a width, in percent. -/
noncomputable def sampleStrip (x w : ℝ) : Element ℝ :=
  { kind := .staticText
    title := "Strip"
    rect := { x, y := 0, w, h := 50 }
    options := []
    rotation := 0 }

/-- The movement of a pointer that goes straight down. -/
noncomputable def samplePull : PointerEvent ℝ :=
  { client := { x := 310, y := 144 }, movement := { dx := 0, dy := 24 }, target := .canvas }

noncomputable def sampleLayout : Layout ℝ :=
  { origin := { x := 0, y := 0 }, size := { width := 320, height := 240 } }

/-- The strip is selected, its handle is pressed and pulled down. -/
noncomputable def sampleResize : List (Moment ℝ) :=
  [.command (.select (some ⟨0⟩)), .command (.pointerDown (.resizeHandle ⟨0⟩)),
    .command (.pointerMove samplePull sampleLayout)]

theorem sampleLayout_usable : sampleLayout.size.isUsable = true :=
  Size.isUsable_iff.mpr ⟨⟨rfl, rfl⟩, by norm_num [sampleLayout], by norm_num [sampleLayout]⟩

theorem sampleStrip_inCanvas {x w : ℝ} (horizontal : Within x w) :
    (sampleStrip x w).rect.InCanvas where
  horizontal := horizontal
  vertical := ⟨le_refl 0, by norm_num [sampleStrip], by norm_num [sampleStrip]⟩

/-- How far the strip is from the right edge of the layout. -/
theorem sampleStrip_hasRoom_iff {x w : ℝ} :
    (sampleStrip x w).placement.HasRoom sampleLayout.size ↔ x ≤ 87.5 := by
  have across : sampleLayout.size.width -
      ((sampleStrip x w).placement.rect.pixelOrigin sampleLayout.size).x = 320 - x / 100 * 320 :=
    congrArg (fun s : ℝ => 320 - x / s * 320) span_eq
  have down : sampleLayout.size.height -
      ((sampleStrip x w).placement.rect.pixelOrigin sampleLayout.size).y = 240 := by
    show (240 : ℝ) - 0 / span * 240 = 240
    rw [zero_div, zero_mul, sub_zero]
  unfold Placement.HasRoom
  rw [across, down, leastSize_eq]
  constructor
  · rintro ⟨room, -⟩
    linarith [room rfl]
  · intro hx
    exact ⟨fun _ => by linarith, by norm_num⟩

/-- A strip that is wide enough stays in the canvas while it is resized. -/
theorem wide_strip_stays_in_canvas :
    let c := start { elements := [sampleStrip 50 50] } none
    c.board.InCanvas ∧ ∀ pre, pre <+: sampleResize → (c.run pre).board.InCanvas := by
  intro c
  have inside : (sampleStrip 50 50).rect.InCanvas :=
    sampleStrip_inCanvas ⟨by norm_num, by norm_num, by norm_num⟩
  have h : c.board.InCanvas := List.forall_mem_singleton.mpr inside
  have session := sessions_stay_in_canvas_iff_room { elements := [sampleStrip 50 50] } none []
    sampleResize [] []
  refine ⟨h, (session.1 h).mpr fun pre event layout hpre => ?_⟩
  obtain ⟨rfl, rfl⟩ : pre = sampleResize.take 2 ∧ layout = sampleLayout := by
    rcases pre with _ | ⟨m₁, _ | ⟨m₂, _ | ⟨m₃, pre⟩⟩⟩ <;>
      simp_all [sampleResize, List.cons_prefix_cons]
  intro id e hactive he usable
  cases hactive
  cases he
  exact sampleStrip_hasRoom_iff.mpr (by norm_num)

/-- **A narrow strip leaves the canvas**: in a layout of 320 by 240 pixels, pulling its handle
straight down makes a strip at the right edge wider. -/
theorem narrow_strip_leaves_canvas :
    let c := start { elements := [sampleStrip 93.75 6.25] } none
    c.board.InCanvas ∧ sampleLayout.size.isUsable = true ∧ 40 ≤ sampleLayout.size.width ∧
      40 ≤ sampleLayout.size.height ∧ ¬ (c.run sampleResize).board.InCanvas := by
  intro c
  have inside : (sampleStrip 93.75 6.25).rect.InCanvas :=
    sampleStrip_inCanvas ⟨by norm_num, by norm_num, by norm_num⟩
  have h : c.board.InCanvas := List.forall_mem_singleton.mpr inside
  refine ⟨h, sampleLayout_usable, by norm_num [sampleLayout], by norm_num [sampleLayout], ?_⟩
  let pressed := c.run (sampleResize.take 2)
  have sound : pressed.Sound := (Sound.start _ none).run _
  have before : pressed.board.InCanvas := List.forall_mem_singleton.mpr inside
  intro after
  have room := (step_inCanvas_iff sound before (.command (.pointerMove samplePull sampleLayout))).mp
    after samplePull sampleLayout rfl ⟨0⟩ (sampleStrip 93.75 6.25) rfl rfl sampleLayout_usable
  have far : (93.75 : ℝ) ≤ 87.5 := sampleStrip_hasRoom_iff.mp room
  norm_num at far

end Chronicle

end StatusWall
