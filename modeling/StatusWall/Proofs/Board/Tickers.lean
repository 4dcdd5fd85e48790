import Mathlib.Tactic.NormNum
import StatusWall.Canvas.Frame
import StatusWall.Proofs.Board.Sessions
import StatusWall.Proofs.Geometry.Exact

/-!
# Tickers and the angle they come with

No gesture turns a ticker, and a ticker has no handle to be turned by. So the angle of a ticker is the one
that its element had when it became a ticker, and switching an element to that kind gives it a ticker's
place but leaves its angle. Over a whole session the tickers of a board are upright exactly if every
element that is switched to the kind is upright when this happens
(`Chronicle.tickers_stay_upright_iff`). A label that was turned and then switched stands askew, and
cannot be turned back (`Chronicle.turned_label_makes_tilted_ticker`).

Upright elements are painted and hit as the rectangle they have in pixels, in exact arithmetic
(`Element.Upright.isLevel`).
-/

namespace StatusWall

open StatusWall.Geometry

variable {α : Type} [Scalar α]

/-- The element is not turned. Its angle is compared, and not looked at: there are two zeros among
doubles. -/
def Element.Upright (e : Element α) : Prop := e.rotation ≤ 0.0 ∧ 0.0 ≤ e.rotation

/-- Every ticker of the board is upright. -/
def Board.TickersUpright (b : Board α) : Prop :=
  ∀ e ∈ b.dashboard.elements, e.kind = .staticTicker → e.Upright

/-- If there is an element under the number, it is upright. -/
def Board.FindsUpright (b : Board α) (id : WidgetId) : Prop :=
  ∀ e, b.element? id = some e → e.Upright

/-! ## Level rectangles -/

namespace Element

/-- The upper left corner of the element in the window. -/
def corner (e : Element α) (layout : Layout α) : Point α :=
  { x := layout.origin.x + (e.rect.pixelOrigin layout.size).x
    y := layout.origin.y + (e.rect.pixelOrigin layout.size).y }

/-- The element is painted and hit as its rectangle in pixels, with level edges. -/
structure IsLevel (e : Element α) (layout : Layout α) : Prop where
  painted :
    let p := e.corner layout
    let size := e.rect.pixelSize layout.size
    (e.frame layout).corners =
      [p, ⟨p.x + size.width, p.y⟩, ⟨p.x + size.width, p.y + size.height⟩, ⟨p.x, p.y + size.height⟩]
  hit (q : Point α) :
    let p := e.corner layout
    let size := e.rect.pixelSize layout.size
    (e.frame layout).contains q = true ↔
      (p.x ≤ q.x ∧ q.x ≤ p.x + size.width) ∧ p.y ≤ q.y ∧ q.y ≤ p.y + size.height

theorem Upright.isLevel {e : Element ℝ} (h : e.Upright) (layout : Layout ℝ) : e.IsLevel layout := by
  have straight : e.rotation = 0 := by
    have hzero : e.rotation = 0.0 := le_antisymm h.1 h.2
    exact hzero.trans nought_eq
  have half (x : ℝ) : x / 2.0 = x / 2 := by norm_num
  have hsin : Scalar.sin (0 : ℝ) = 0 := Real.sin_zero
  have hcos : Scalar.cos (0 : ℝ) = 1 := Real.cos_zero
  constructor
  · simp only [WidgetFrame.corners, WidgetFrame.toClient, frame, WidgetFrame.of, Rect.pixelCenter,
      corner, straight, half, hsin, hcos, List.cons.injEq, Point.mk.injEq]
    refine ⟨⟨?_, ?_⟩, ⟨?_, ?_⟩, ⟨?_, ?_⟩, ⟨?_, ?_⟩, trivial⟩ <;> ring
  · intro q
    simp only [WidgetFrame.contains, WidgetFrame.toLocal, WidgetFrame.within, frame, WidgetFrame.of,
      Rect.pixelCenter, corner, straight, half, neg_zero, hsin, hcos, mul_one, mul_zero, sub_zero,
      zero_add, Bool.and_eq_true, decide_eq_true_eq]
    constructor
    · rintro ⟨⟨left, right⟩, top, bottom⟩
      refine ⟨⟨?_, ?_⟩, ?_, ?_⟩ <;> linarith
    · rintro ⟨⟨left, right⟩, top, bottom⟩
      refine ⟨⟨?_, ?_⟩, ?_, ?_⟩ <;> linarith

end Element

/-! ## One command -/

/-- No gesture turns a ticker. -/
theorem Gesture.apply_rotation {p : Placement α} (ticker : p.isTicker = true) (gesture : Gesture)
    (layout : Layout α) (event : PointerEvent α) :
    (gesture.apply p layout event).rotation = p.rotation := by
  cases gesture with
  | move => rfl
  | resize => rfl
  | rotate =>
    show turned p layout event.client = p.rotation
    unfold turned
    exact if_pos ticker

/-- An edit leaves the kind and a ticker's angle, unless it is a switch of the kind. -/
theorem BoardCommand.rotation_of_edit? {c : BoardCommand α} {drag : Drag} {id : WidgetId}
    {edit : Element α → Element α} (h : c.edit? drag = some (id, edit))
    (hc : ∀ kind, c ≠ .changeKind id kind) (e : Element α) :
    (edit e).kind = e.kind ∧ (e.kind = .staticTicker → (edit e).rotation = e.rotation) := by
  cases c with
  | retitleElement _ _ => cases h; exact ⟨rfl, fun _ => rfl⟩
  | changeKind _ kind => cases h; exact absurd rfl (hc kind)
  | updateOptions _ _ => cases h; exact ⟨rfl, fun _ => rfl⟩
  | setTarget _ target => cases h; exact ⟨e.bound_kind target, fun _ => e.bound_rotation target⟩
  | setSoundOverride _ state url =>
    cases h
    exact ⟨e.withSound_kind state url, fun _ => e.withSound_rotation state url⟩
  | applyUpload target url =>
    cases target with
    | background => cases h
    | sound widget state =>
      cases h
      exact ⟨e.withSound_kind state url, fun _ => e.withSound_rotation state url⟩
  | pointerMove event layout =>
    obtain ⟨⟨_, gesture⟩, -, heq⟩ := Option.map_eq_some_iff.mp h
    cases heq
    refine ⟨rfl, fun hkind => ?_⟩
    have ticker : e.placement.isTicker = true := congrArg ElementKind.isTicker hkind
    exact gesture.apply_rotation ticker layout event
  | _ => cases h

/-- **Only a switch to the ticker kind decides whether tickers stay upright.** -/
theorem Board.governs_upright :
    Governs (fun (b : Board α) c => ∀ id, c = .changeKind id .staticTicker → b.FindsUpright id)
      fun e => e.kind = .staticTicker → e.Upright := by
  intro b aligned h c
  rw [h.perform_iff aligned nofun]
  constructor
  · rintro edited id rfl e he
    exact edited id (·.changeKind .staticTicker) e rfl he rfl
  · intro switches id edit e hedit he hkind
    by_cases hc : ∃ kind, c = .changeKind id kind
    · obtain ⟨kind, rfl⟩ := hc
      cases hedit
      obtain rfl : kind = .staticTicker := hkind
      exact switches id rfl e he
    · have hc : ∀ kind, c ≠ .changeKind id kind := fun kind heq => hc ⟨kind, heq⟩
      obtain ⟨same, rotation⟩ := BoardCommand.rotation_of_edit? hedit hc e
      have before : e.kind = .staticTicker := same.symm.trans hkind
      unfold Element.Upright
      rw [rotation before]
      exact h.of_element? he before

/-! ## Sessions -/

namespace Chronicle

/-- **Tickers stay upright exactly as long as upright elements become tickers.** Take any board that can
come about, and any session on it. If its tickers are upright at first, they are so at every moment of
the session if and only if each command that switches an element to the ticker kind finds the element
upright. Everything else keeps them upright: gestures, which turn no ticker, the other commands, and
whatever the tasks do. What is upright is painted and hit as a level rectangle. -/
theorem tickers_stay_upright_iff (d : Dashboard α) (polling : Option PollConfig)
    (ms ms' : List (Moment α)) (ss ss' : List (Source × RunStep α)) :
    let c := (start d polling).run ms
    let r := BoardRun.steps { board := (start d polling).board } ss
    (c.board.TickersUpright →
      ((∀ pre, pre <+: ms' → (c.run pre).board.TickersUpright) ↔
        ∀ pre id, pre ++ [.command (.changeKind id .staticTicker)] <+: ms' →
          (c.run pre).board.FindsUpright id)) ∧
    (r.board.TickersUpright →
      ((∀ pre, pre <+: ss' → (r.steps pre).board.TickersUpright) ↔
        ∀ pre source id, pre ++ [(source, .command (.changeKind id .staticTicker))] <+: ss' →
          (r.steps pre).board.FindsUpright id)) ∧
    (∀ (gesture : Gesture) (p : Placement α) (layout : Layout α) (event : PointerEvent α),
      p.isTicker = true → (gesture.apply p layout event).rotation = p.rotation) ∧
    ∀ (e : Element ℝ) (layout : Layout ℝ), e.Upright → e.IsLevel layout := by
  intro c r
  refine ⟨fun h => ?chronicle, fun h => ?run,
    fun gesture _ layout event ticker => gesture.apply_rotation ticker layout event,
    fun _ layout h => h.isLevel layout⟩
  case chronicle =>
    refine (governed_run_iff Board.governs_upright ((Sound.start d polling).run ms) h ms').trans ?_
    constructor
    · exact fun switches pre id hpre => switches pre _ hpre id rfl
    · rintro switches pre _ hpre id rfl
      exact switches pre id hpre
  case run =>
    refine (BoardRun.governed_steps_iff Board.governs_upright (BoardRun.sound_steps d polling ss) h
      ss').trans ?_
    constructor
    · exact fun switches pre source id hpre => switches pre source _ hpre id rfl
    · rintro switches pre source _ hpre id rfl
      exact switches pre source id hpre

/-! ### A label that becomes a ticker -/

/-- A label that is turned by an angle. -/
def sampleTitle (rotation : Float) : Element Float :=
  { kind := .staticText
    title := "Label"
    rect := { x := 10.0, y := 10.0, w := 20.0, h := 20.0 }
    options := []
    rotation }

/-- The label becomes a ticker. -/
def sampleSwitch : List (Moment Float) := [.command (.changeKind ⟨0⟩ .staticTicker)]

/-- A label that was never turned becomes an upright ticker. -/
theorem straight_label_makes_upright_ticker :
    let c := start { elements := [sampleTitle 0.0] } none
    c.board.TickersUpright ∧ (∀ pre, pre <+: sampleSwitch → (c.run pre).board.TickersUpright) ∧
      (c.run sampleSwitch).board.dashboard.elements.map (·.kind) = [.staticTicker] := by
  intro c
  have h : c.board.TickersUpright := List.forall_mem_singleton.mpr nofun
  have session := tickers_stay_upright_iff { elements := [sampleTitle 0.0] } none [] sampleSwitch [] []
  refine ⟨h, (session.1 h).mpr fun pre id hpre => ?_, rfl⟩
  obtain ⟨rfl, rfl⟩ : pre = [] ∧ id = ⟨0⟩ := by
    rcases pre with _ | ⟨m, pre⟩ <;> simp_all [sampleSwitch, List.cons_prefix_cons]
  intro e he
  cases he
  exact ⟨show (0.0 : Float) ≤ 0.0 by decide, show (0.0 : Float) ≤ 0.0 by decide⟩

/-- **A label that was turned becomes a ticker that stands askew.** -/
theorem turned_label_makes_tilted_ticker :
    let c := start { elements := [sampleTitle 0.5] } none
    c.board.TickersUpright ∧ ¬ (c.run sampleSwitch).board.TickersUpright := by
  intro c
  refine ⟨List.forall_mem_singleton.mpr nofun, fun after => ?_⟩
  have upright : (0.5 : Float) ≤ 0.0 := (List.forall_mem_singleton.mp after rfl).1
  revert upright
  decide

end Chronicle

end StatusWall
