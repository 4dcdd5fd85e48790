import StatusWall.Canvas.Paint
import StatusWall.Proofs.Board.Collapse
import StatusWall.Proofs.Board.Gesture

/-!
# What a press does

A press is decided in two places: the canvas says what lies under the pointer (`Board.hitTest`), and the
board what to make of it (`Board.pointerDown`). Each knows its part only. `Board.Pressed` is what both
come to, as the user sees it: the grabbers of the chosen widget first, then the topmost widget, which is
moved if it was chosen and chosen if it was not, then the canvas. `Board.pressed_iff` says that this is
what happens, on every board on which no gesture runs.

A grabber lies over whatever is painted above its widget. So a press on a widget may take hold of another
one, but only of the one that was chosen before.
-/

namespace StatusWall

open StatusWall.Geometry

variable {α : Type} [Scalar α]

namespace Board

/-! ## What lies under a point -/

/-- The frame of a widget contains a point. -/
def Covers (b : Board α) (layout : Layout α) (p : Point α) (id : WidgetId) : Prop :=
  ∃ e, b.element? id = some e ∧ (e.frame layout).contains p = true

/-- A widget covers a point, and none of those that come after it in the document does. -/
def OnTop (b : Board α) (layout : Layout α) (p : Point α) (id : WidgetId) : Prop :=
  ∃ below above, b.widgetIds = below ++ id :: above ∧ b.Covers layout p id ∧
    ∀ x ∈ above, ¬ b.Covers layout p x

/-- A point is on the grabber by which the chosen widget is resized. -/
def AtResizeGrabber (b : Board α) (layout : Layout α) (p : Point α) (id : WidgetId) : Prop :=
  b.selected = some id ∧ ∃ e, b.element? id = some e ∧
    near (e.frame layout).resizeGrabber p grabberRadius = true

/-- A point is on the grabber by which the chosen widget is turned. A ticker has none. -/
def AtRotateGrabber (b : Board α) (layout : Layout α) (p : Point α) (id : WidgetId) : Prop :=
  b.selected = some id ∧ ∃ e, b.element? id = some e ∧ e.kind.isTicker = false ∧
    near (e.frame layout).rotateGrabber p grabberRadius = true

/-- A point is on no grabber. -/
def OffGrabbers (b : Board α) (layout : Layout α) (p : Point α) : Prop :=
  ∀ id, ¬ b.AtResizeGrabber layout p id ∧ ¬ b.AtRotateGrabber layout p id

/-- What a press makes of a board, and the gesture that starts. -/
inductive Pressed (b : Board α) (layout : Layout α) (p : Point α) : Board α × Option Gesture → Prop
  | resizes {id : WidgetId} : b.AtResizeGrabber layout p id →
      Pressed b layout p ({ b with drag := ⟨some (id, .resize)⟩ }, some .resize)
  | turns {id : WidgetId} : ¬ b.AtResizeGrabber layout p id → b.AtRotateGrabber layout p id →
      Pressed b layout p ({ b with drag := ⟨some (id, .rotate)⟩ }, some .rotate)
  | moves {id : WidgetId} : b.OffGrabbers layout p → b.OnTop layout p id → b.selected = some id →
      Pressed b layout p ({ b with drag := ⟨some (id, .move)⟩ }, some .move)
  | chooses {id : WidgetId} : b.OffGrabbers layout p → b.OnTop layout p id → b.selected ≠ some id →
      Pressed b layout p ({ b with selected := some id }, none)
  | clears : b.OffGrabbers layout p → (∀ id ∈ b.widgetIds, ¬ b.Covers layout p id) →
      Pressed b layout p ({ b with selected := none }, none)

section HitTest

variable {b : Board α} {layout : Layout α} {p : Point α} {id : WidgetId}

theorem grabberAt_of_atResizeGrabber (h : b.AtResizeGrabber layout p id) :
    b.grabberAt layout p = some (.resizeHandle id) := by
  obtain ⟨selected, e, he, hnear⟩ := h
  unfold grabberAt
  simp only [selected, he, if_pos hnear]

theorem grabberAt_of_atRotateGrabber (off : ¬ b.AtResizeGrabber layout p id)
    (h : b.AtRotateGrabber layout p id) : b.grabberAt layout p = some (.rotateHandle id) := by
  obtain ⟨selected, e, he, hticker, hnear⟩ := h
  have hfar : ¬ near (e.frame layout).resizeGrabber p grabberRadius = true :=
    fun hnear => off ⟨selected, e, he, hnear⟩
  unfold grabberAt
  simp only [selected, he, if_neg hfar, hticker, hnear, Bool.not_false, Bool.and_self, if_true]

theorem grabberAt_of_offGrabbers (off : b.OffGrabbers layout p) : b.grabberAt layout p = none := by
  unfold grabberAt
  split
  · rfl
  · next id selected =>
    split
    · rfl
    · next e he =>
      have hfar : ¬ near (e.frame layout).resizeGrabber p grabberRadius = true :=
        fun hnear => (off id).1 ⟨selected, e, he, hnear⟩
      have hfar' :
          ¬ (!e.kind.isTicker && near (e.frame layout).rotateGrabber p grabberRadius) = true := by
        intro h
        obtain ⟨hticker, hnear⟩ := Bool.and_eq_true_iff.mp h
        exact (off id).2 ⟨selected, e, he, (Bool.not_eq_true' _).mp hticker, hnear⟩
      simp only [if_neg hfar, if_neg hfar']

theorem bodyAt_eq (b : Board α) (layout : Layout α) (p : Point α) :
    b.bodyAt layout p = b.widgetIds.reverse.find? fun id =>
      (b.element? id).any fun e => (e.frame layout).contains p := by
  unfold bodyAt
  congr 1
  funext id
  cases b.element? id <;> rfl

theorem covers_iff : ((b.element? id).any fun e => (e.frame layout).contains p) = true ↔
    b.Covers layout p id :=
  Option.any_eq_true _ _

/-- The search from the end finds the widget on top. -/
theorem bodyAt_eq_some_iff : b.bodyAt layout p = some id ↔ b.OnTop layout p id := by
  -- In the reversed list, what lies above a widget comes before it.
  have reversed (below above : List WidgetId) :
      (below ++ id :: above).reverse = above.reverse ++ id :: below.reverse := by
    rw [List.reverse_append, List.reverse_cons, List.append_assoc, List.singleton_append]
  rw [bodyAt_eq, List.find?_eq_some_iff_append, covers_iff]
  constructor
  · rintro ⟨covers, above, below, hids, free⟩
    have hids : b.widgetIds = below.reverse ++ id :: above.reverse := by
      rw [← List.reverse_inj, hids, reversed, List.reverse_reverse, List.reverse_reverse]
    refine ⟨below.reverse, above.reverse, hids, covers, fun x hx hcovers => ?_⟩
    have hfree := free x (List.mem_reverse.mp hx)
    rw [covers_iff.mpr hcovers] at hfree
    cases hfree
  · rintro ⟨below, above, hids, covers, free⟩
    refine ⟨covers, above.reverse, below.reverse, hids ▸ reversed below above, fun x hx => ?_⟩
    rw [Bool.not_eq_true', Bool.eq_false_iff]
    exact fun h => free x (List.mem_reverse.mp hx) (covers_iff.mp h)

theorem bodyAt_eq_none_iff :
    b.bodyAt layout p = none ↔ ∀ id ∈ b.widgetIds, ¬ b.Covers layout p id := by
  rw [bodyAt_eq, List.find?_eq_none]
  exact forall_congr' fun id => imp_congr List.mem_reverse (not_congr covers_iff)

theorem hitTest_of_grabberAt {target : PointerTarget} (h : b.grabberAt layout p = some target) :
    b.hitTest layout p = target := by
  unfold hitTest
  rw [h]

theorem hitTest_of_offGrabbers (off : b.OffGrabbers layout p) :
    b.hitTest layout p = (b.bodyAt layout p).elim .canvas .body := by
  unfold hitTest
  rw [grabberAt_of_offGrabbers off]
  cases b.bodyAt layout p <;> rfl

end HitTest

/-! ## What the board makes of it -/

section PointerDown

omit [Scalar α]

variable {b : Board α} (idle : b.drag.active = none) {id : WidgetId}

include idle

/-- On the body of another widget, a press chooses it. -/
theorem pointerDown_of_other (there : id ∈ b.widgetIds) (other : b.selected ≠ some id) :
    b.pointerDown (.body id) = ({ b with selected := some id }, none) := by
  have found : (b.indexOf? id).isSome = true :=
    Option.isSome_iff_ne_none.mpr fun absent => indexOf?_eq_none_iff.mp absent there
  simp [pointerDown, select, Drag.isDragging, idle, other, found, Option.filter]

theorem pointerDown_canvas : b.pointerDown .canvas = ({ b with selected := none }, none) := by
  simp [pointerDown, Drag.isDragging, idle]

end PointerDown

/-! ## The press -/

variable {b : Board α} {layout : Layout α} {p : Point α}

theorem OnTop.mem {id : WidgetId} (h : b.OnTop layout p id) : id ∈ b.widgetIds := by
  obtain ⟨below, above, hids, -⟩ := h
  rw [hids]
  exact List.mem_append_right below List.mem_cons_self

theorem Pressed.eq_pointerDown (idle : b.drag.active = none) {r : Board α × Option Gesture}
    (h : b.Pressed layout p r) : b.pointerDown (b.hitTest layout p) = r := by
  cases h with
  | resizes grabbed =>
    rw [hitTest_of_grabberAt (grabberAt_of_atResizeGrabber grabbed)]
    exact pointerDown_of_gesture idle rfl grabbed.1
  | turns off grabbed =>
    rw [hitTest_of_grabberAt (grabberAt_of_atRotateGrabber off grabbed)]
    exact pointerDown_of_gesture idle rfl grabbed.1
  | moves off top selected =>
    rw [hitTest_of_offGrabbers off, bodyAt_eq_some_iff.mpr top]
    exact pointerDown_of_gesture idle rfl selected
  | chooses off top other =>
    rw [hitTest_of_offGrabbers off, bodyAt_eq_some_iff.mpr top]
    exact pointerDown_of_other idle top.mem other
  | clears off free =>
    rw [hitTest_of_offGrabbers off, bodyAt_eq_none_iff.mpr free]
    exact pointerDown_canvas idle

/-- Every press is one of these. -/
theorem exists_pressed (b : Board α) (layout : Layout α) (p : Point α) :
    ∃ r, b.Pressed layout p r := by
  by_cases resized : ∃ id, b.AtResizeGrabber layout p id
  · obtain ⟨id, grabbed⟩ := resized
    exact ⟨_, .resizes grabbed⟩
  · by_cases turned : ∃ id, b.AtRotateGrabber layout p id
    · obtain ⟨id, grabbed⟩ := turned
      exact ⟨_, .turns (fun h => resized ⟨id, h⟩) grabbed⟩
    · have off : b.OffGrabbers layout p :=
        fun id => ⟨fun h => resized ⟨id, h⟩, fun h => turned ⟨id, h⟩⟩
      cases hbody : b.bodyAt layout p with
      | none => exact ⟨_, .clears off (bodyAt_eq_none_iff.mp hbody)⟩
      | some id =>
        have top := bodyAt_eq_some_iff.mp hbody
        by_cases selected : b.selected = some id
        · exact ⟨_, .moves off top selected⟩
        · exact ⟨_, .chooses off top selected⟩

/-- **What a press does.** -/
theorem pressed_iff (idle : b.drag.active = none) {r : Board α × Option Gesture} :
    b.Pressed layout p r ↔ b.pointerDown (b.hitTest layout p) = r := by
  refine ⟨fun h => h.eq_pointerDown idle, ?_⟩
  rintro rfl
  obtain ⟨r, h⟩ := b.exists_pressed layout p
  rw [h.eq_pointerDown idle]
  exact h

section Pressed

variable {r : Board α × Option Gesture} (h : b.Pressed layout p r)

include h

/-- A press is no edit. -/
theorem Pressed.element? (id : WidgetId) : r.1.element? id = b.element? id := by
  cases h <;> rfl

/-- A gesture that starts is a gesture of the chosen widget, and a ticker does not turn. -/
theorem Pressed.starts {gesture : Gesture} (started : r.2 = some gesture) :
    ∃ id e, r.1.drag.active = some (id, gesture) ∧ b.selected = some id ∧
      b.element? id = some e ∧ (gesture = .rotate → e.kind.isTicker = false) := by
  cases h with
  | resizes grabbed =>
    cases started
    obtain ⟨selected, e, he, -⟩ := grabbed
    exact ⟨_, e, rfl, selected, he, fun h => nomatch h⟩
  | turns _ grabbed =>
    cases started
    obtain ⟨selected, e, he, upright, -⟩ := grabbed
    exact ⟨_, e, rfl, selected, he, fun _ => upright⟩
  | moves _ top selected =>
    cases started
    obtain ⟨-, -, -, ⟨e, he, -⟩, -⟩ := top
    exact ⟨_, e, rfl, selected, he, fun h => nomatch h⟩
  | chooses | clears => cases started

theorem Pressed.idle (idle : b.drag.active = none) (ignored : r.2 = none) :
    r.1.drag.active = none := by
  cases h with
  | resizes | turns | moves => cases ignored
  | chooses | clears => exact idle

/-- Whatever gesture runs after the press is one of the widget that was chosen before it. -/
theorem Pressed.selected_of_active (idle : b.drag.active = none) {id : WidgetId} {gesture : Gesture}
    (active : r.1.drag.active = some (id, gesture)) : b.selected = some id := by
  cases hstarted : r.2 with
  | none => cases (h.idle idle hstarted).symm.trans active
  | some gesture =>
    obtain ⟨id, -, active', selected, -⟩ := h.starts hstarted
    cases active'.symm.trans active
    exact selected

end Pressed

/-! ## What follows a press -/

/-- Where no gesture runs, the pointer moves nothing. -/
theorem dragged_of_idle (idle : b.drag.active = none) (moves : List (PointerEvent α × Layout α)) :
    b.dragged moves = b := by
  induction moves with
  | nil => rfl
  | cons m moves ih =>
    have still : (b.pointerMove m.1 m.2).1 = b := by
      unfold pointerMove
      rw [idle]
    exact (congrArg (·.dragged moves) still).trans ih

/-- A movement leaves all widgets where they are but the one of the running gesture. -/
theorem element?_pointerMove_of_other {id : WidgetId}
    (other : ∀ gesture, b.drag.active ≠ some (id, gesture)) (event : PointerEvent α)
    (layout : Layout α) : (b.pointerMove event layout).1.element? id = b.element? id := by
  unfold pointerMove
  cases active : b.drag.active with
  | none => rfl
  | some running =>
    obtain ⟨x, gesture⟩ := running
    have hne : x ≠ id := fun h => other gesture (h ▸ active)
    cases hi : b.indexOf? x with
    | none =>
      simp only [hi]
      rfl
    | some i =>
      simp only [hi]
      split
      · rfl
      · exact element?_modifyElement_of_ne hne hi _

theorem element?_dragged_of_other {id : WidgetId}
    (other : ∀ gesture, b.drag.active ≠ some (id, gesture))
    (moves : List (PointerEvent α × Layout α)) : (b.dragged moves).element? id = b.element? id := by
  induction moves generalizing b with
  | nil => rfl
  | cons m moves ih =>
    refine (ih fun gesture active => ?_).trans (element?_pointerMove_of_other other m.1 m.2)
    exact other gesture (active_of_pointerMove active)

/-! ## The picture -/

section Picture

variable {σ : Type} [Scalar σ] [Screen σ α]

/-- What is painted for a widget. -/
def shapesOf (b : Board α) (canvas : ScreenRect σ) (editing : Bool) (id : WidgetId) :
    List (Shape σ) :=
  match b.element? id with
  | none => []
  | some e =>
    widgetShapes e (b.status? id) canvas.layout (editing && decide (b.selected = some id))

theorem paint_eq (b : Board α) (canvas : ScreenRect σ) (editing : Bool) :
    b.paint canvas editing =
      .rect canvas.min canvas.max .background :: b.widgetIds.flatMap (b.shapesOf canvas editing) := rfl

/-- Of the widgets that cover a point, the one on top is painted last. -/
theorem OnTop.paint_eq {id : WidgetId} (top : b.OnTop layout p id) (canvas : ScreenRect σ)
    (editing : Bool) :
    ∃ (before : List (Shape σ)) (after : List WidgetId), b.paint canvas editing =
        before ++ b.shapesOf canvas editing id ++ after.flatMap (b.shapesOf canvas editing) ∧
      ∀ x ∈ after, ¬ b.Covers layout p x := by
  obtain ⟨below, above, hids, -, free⟩ := top
  refine ⟨.rect canvas.min canvas.max .background :: below.flatMap (b.shapesOf canvas editing),
    above, ?_, free⟩
  rw [Board.paint_eq, hids, List.flatMap_append, List.flatMap_cons, List.cons_append,
    List.cons_append, List.append_assoc]

end Picture

/-- **A press takes hold of the chosen widget or chooses the topmost one.** On every board on which no
gesture runs, in every layout and at every point, a press does what `Pressed` says, and nothing else. It
edits nothing; a gesture that starts is one of the widget that was chosen before, and no ticker turns; and
without a gesture the pointer moves nothing. So whatever the pointer does until the next press, a widget
that was not chosen before stays as it is. The topmost widget at a point is, of those that cover it, the
one that is painted last. -/
theorem press_takes_hold_of_the_chosen_or_chooses_the_topmost {σ : Type} [Scalar σ] [Screen σ α]
    (b : Board α) (idle : b.drag.active = none) (layout : Layout α) (p : Point α) :
    let press := b.pointerDown (b.hitTest layout p)
    (∀ r, b.Pressed layout p r ↔ press = r) ∧
    (∀ gesture, press.2 = some gesture →
      ∃ id e, press.1.drag.active = some (id, gesture) ∧ b.selected = some id ∧
        b.element? id = some e ∧ (gesture = .rotate → e.kind.isTicker = false)) ∧
    (press.2 = none → ∀ moves, press.1.dragged moves = press.1) ∧
    (∀ id, b.selected ≠ some id → ∀ moves,
      (press.1.dragged moves).element? id = b.element? id) ∧
    ∀ id, b.OnTop layout p id → ∀ (canvas : ScreenRect σ) editing,
      ∃ (before : List (Shape σ)) (after : List WidgetId), b.paint canvas editing =
          before ++ b.shapesOf canvas editing id ++ after.flatMap (b.shapesOf canvas editing) ∧
        ∀ x ∈ after, ¬ b.Covers layout p x := by
  intro press
  have pressed : b.Pressed layout p press := (pressed_iff idle).mpr rfl
  refine ⟨fun r => pressed_iff idle, fun gesture => pressed.starts,
    fun ignored => dragged_of_idle (pressed.idle idle ignored), fun id other moves => ?_,
    fun id top => top.paint_eq⟩
  -- A gesture that runs after the press is on the widget that was chosen before, so not on this one.
  have free (gesture : Gesture) : press.1.drag.active ≠ some (id, gesture) :=
    fun active => other (pressed.selected_of_active idle active)
  exact (element?_dragged_of_other free moves).trans (pressed.element? id)

/-- A widget that was just added is chosen. Pressed at its lower right corner, it is resized. -/
theorem added_widget_is_resized_by_its_corner :
    let b := (Board.new ({} : Dashboard ℝ) none).addElement.1
    let layout : Layout ℝ := { origin := ⟨0, 0⟩, size := ⟨800, 600⟩ }
    let corner := ((Element.default : Element ℝ).frame layout).resizeGrabber
    b.drag.active = none ∧
      b.pointerDown (b.hitTest layout corner) =
        ({ b with drag := ⟨some (⟨0⟩, .resize)⟩ }, some .resize) := by
  intro b layout corner
  have idle : b.drag.active = none := rfl
  have grabbed : b.AtResizeGrabber layout corner ⟨0⟩ := by
    refine ⟨rfl, Element.default, rfl, decide_eq_true ?_⟩
    show √((corner.x - corner.x) ^ 2 + (corner.y - corner.y) ^ 2) ≤ (7.0 : ℝ)
    norm_num
  have press := press_takes_hold_of_the_chosen_or_chooses_the_topmost b idle layout corner
  exact ⟨idle, (press.1 _).mp (.resizes grabbed)⟩

end Board

end StatusWall
