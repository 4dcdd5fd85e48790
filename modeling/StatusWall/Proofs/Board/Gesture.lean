import StatusWall.Proofs.Board.Refinement

/-!
# What becomes of a gesture

A gesture begins with a press on a part of the selected widget (`active_of_pointerDown`), and while
it runs the pointer places the element of its widget and no other (`element?_pointerMove`).
Operations that are not the pointer's begin no gesture; they leave it running or end it, and
`BoardCommand.abandons` tells which end the gesture of which widget (`Focused.active_perform`).
-/

namespace StatusWall

open Json StatusWall.Geometry

variable {α : Type}

/-! ## The pointer's own operations -/

/-- Whether a command is one of the three by which the pointer speaks to a board. -/
def BoardCommand.isPointerCall : BoardCommand α → Bool
  | .pointerDown _ | .pointerMove _ _ | .pointerUp => true
  | _ => false

namespace Board

variable {b b' : Board α}

/-- The element of a widget is found by the document and the numbers alone. -/
theorem Becomes.element? {d : Dashboard α} {ids : List WidgetId} {next : Nat}
    (h : b.Becomes d ids next) (x : WidgetId) :
    b.element? x = (ids.idxOf? x).bind fun i => d.elements[i]? := by
  unfold Board.element?
  rw [indexOf?_eq_idxOf?, h.widgetIds, h.dashboard]

theorem element?_pointerDown (b : Board α) (target : PointerTarget) (x : WidgetId) :
    (b.pointerDown target).1.element? x = b.element? x := by
  rw [(b.pointerDown_becomes target).element?, Becomes.rfl.element?]

/-- **A press begins a gesture on the selected widget only**, and none while another one runs. -/
theorem active_of_pointerDown {target : PointerTarget} {p : WidgetId × Gesture}
    (h : (b.pointerDown target).1.drag.active = some p) :
    b.drag.active = some p ∨
      (b.drag.active = none ∧ b.selected = some p.1 ∧ target.gesture? = some p) := by
  have press (h : (b.drag.pointerDown target b.selected).1.active = some p) :
      b.drag.active = some p ∨
        (b.drag.active = none ∧ b.selected = some p.1 ∧ target.gesture? = some p) := by
    unfold Drag.pointerDown at h
    split at h
    · next id gesture idle part =>
      split at h
      · next selected =>
        cases h
        exact .inr ⟨idle, selected, part⟩
      · exact .inl h
    · exact .inl h
  unfold pointerDown at h
  split at h
  · exact .inl h
  · cases target with
    | canvas => exact .inl h
    | body id =>
      simp only at h
      split at h
      · exact press h
      · obtain ⟨selected, heq⟩ := b.select_eq (some id)
        rw [heq] at h
        exact .inl h
    | resizeHandle id | rotateHandle id => exact press h

/-- On a part of the selected widget, a press begins the gesture of this part. -/
theorem pointerDown_of_gesture (idle : b.drag.active = none) {id : WidgetId} {target : PointerTarget}
    {gesture : Gesture} (part : target.gesture? = some (id, gesture)) (selected : b.selected = some id) :
    b.pointerDown target = ({ b with drag := ⟨some (id, gesture)⟩ }, some gesture) := by
  cases target with
  | canvas => cases part
  | body _ | resizeHandle _ | rotateHandle _ =>
    cases part
    simp [pointerDown, Drag.pointerDown, Drag.isDragging, PointerTarget.gesture?, idle, selected]

/-- On the body of the selected widget, a press begins to move it. -/
theorem pointerDown_body {id : WidgetId} (idle : b.drag.active = none)
    (selected : b.selected = some id) :
    (b.pointerDown (.body id)).1 = { b with drag := ⟨some (id, .move)⟩ } :=
  congrArg Prod.fst (pointerDown_of_gesture idle rfl selected)

/-- A change at the place of one widget is not seen in another one. -/
theorem element?_modifyElement_of_ne {x id : WidgetId} (hne : x ≠ id) {i : Nat}
    (hi : b.indexOf? x = some i) (f : Element α → Element α) :
    Board.element? { b with dashboard := b.dashboard.modifyElement i f } id = b.element? id := by
  show ((b.indexOf? id).bind fun j => (b.dashboard.elements.modify i f)[j]?) = b.element? id
  unfold element?
  cases hj : b.indexOf? id with
  | none => rfl
  | some j =>
    have hij : i ≠ j := by
      rintro rfl
      obtain ⟨w, hw, hid⟩ := widget_of_indexOf? hi
      obtain ⟨v, hv, hid'⟩ := widget_of_indexOf? hj
      cases hw.symm.trans hv
      exact hne (hid.symm.trans hid')
    exact List.getElem?_modify_ne _ _ hij

variable [Scalar α]

/-- The gesture goes on while the pointer moves its widget. -/
theorem drag_pointerMove {id : WidgetId} {gesture : Gesture}
    (active : b.drag.active = some (id, gesture)) {e : Element α} (there : b.element? id = some e)
    (event : PointerEvent α) (layout : Layout α) :
    (b.pointerMove event layout).1.drag = b.drag := by
  obtain ⟨i, hi, -⟩ := Option.bind_eq_some_iff.mp there
  unfold pointerMove
  simp only [active, hi]
  split <;> rfl

/-- A movement begins no gesture. -/
theorem active_of_pointerMove {event : PointerEvent α} {layout : Layout α}
    {p : WidgetId × Gesture} (h : (b.pointerMove event layout).1.drag.active = some p) :
    b.drag.active = some p := by
  unfold pointerMove at h
  split at h
  · exact h
  · split at h
    · cases h
    · simp only at h
      split at h <;> exact h

/-- **A movement places the element of the gesture's widget**, and leaves the others. -/
theorem element?_pointerMove (aligned : b.Aligned) {id : WidgetId} {gesture : Gesture}
    (active : b.drag.active = some (id, gesture)) (event : PointerEvent α) (layout : Layout α)
    (x : WidgetId) :
    (b.pointerMove event layout).1.element? x =
      if x = id then (b.element? x).map fun e => e.place (gesture.apply e.placement layout event)
      else b.element? x := by
  have hedit : (BoardCommand.pointerMove event layout).edit? b.drag =
      some (id, fun e => e.place (gesture.apply e.placement layout event)) := by
    simp only [BoardCommand.edit?, active, Option.map_some]
  rw [(pointerMove_becomes aligned event layout).element?,
    BoardCommand.onDashboard_of_edit hedit fun _ hi => aligned.has_of_indexOf? hi,
    ← indexOf?_eq_idxOf?]
  unfold Board.element?
  cases hi : b.indexOf? id with
  | none =>
    by_cases hx : x = id
    · subst hx
      simp only [hi, Option.bind_none, if_true, Option.map_none]
    · rw [if_neg hx]
      rfl
  | some i =>
    by_cases hx : x = id
    · subst hx
      simp only [hi, Option.bind_some, if_true, Option.elim_some]
      exact List.getElem?_modify_eq _ _ _
    · rw [if_neg hx]
      exact element?_modifyElement_of_ne (Ne.symm hx) hi _

end Board

/-! ## Everything else -/

/-- Whether a command ends a gesture on a certain widget: because the widget goes or becomes another
kind, or the board is taken down. -/
def BoardCommand.abandons (c : BoardCommand α) (id : WidgetId) : Bool :=
  match c with
  | .deleteElement x | .changeKind x _ => id = x
  | .unmount => true
  | _ => false

/-- Whether a moment ends a gesture on a certain widget. -/
def Moment.abandons (m : Moment α) (id : WidgetId) : Bool :=
  match m with
  | .command c => c.abandons id
  | .letGo => true
  | _ => false

/-- Whether a moment is one of the pointer's own operations. -/
def Moment.isPointerCall : Moment α → Bool
  | .command c => c.isPointerCall
  | _ => false

theorem Drag.filter_true (d : Drag) : (d.active.filter fun _ => true) = d.active := by
  cases d.active <;> rfl

theorem Drag.filter_false (d : Drag) : (d.active.filter fun _ => false) = none := by
  cases d.active <;> rfl

namespace Board

variable {b : Board α}

theorem drag_syncPoller (b : Board α) (i : Nat) : (b.syncPoller i).drag = b.drag :=
  (b.syncPoller_retasked i).drag

theorem drag_select (b : Board α) (id : Option WidgetId) : (b.select id).drag = b.drag := by
  obtain ⟨selected, heq⟩ := b.select_eq id
  rw [heq]

theorem drag_updateOptions (b : Board α) (id : WidgetId) (update : Fields) :
    (b.updateOptions id update).1.drag = b.drag := by
  unfold updateOptions
  split
  · rfl
  · exact drag_syncPoller _ _

theorem drag_setSoundOverride (b : Board α) (id : WidgetId) (state : CheckState) (url : String) :
    (b.setSoundOverride id state url).1.drag = b.drag := by
  unfold setSoundOverride
  split
  · rfl
  · exact b.drag_updateOptions id _

theorem drag_setBackground (b : Board α) (url : String) :
    (b.setBackground url).1.drag = b.drag := by
  unfold setBackground
  split <;> rfl

theorem drag_setSlug (b : Board α) (slug : String) : (b.setSlug slug).drag = b.drag := by
  unfold setSlug
  split
  · rfl
  · obtain ⟨fleet, heq, -⟩ :=
      foldl_setSlug slug b.widgets { b with dashboard := { b.dashboard with slug } }
    exact Eq.mpr (congrArg (fun b' : Board α => b'.drag = b.drag) heq) rfl

theorem drag_duplicateElement (b : Board α) (id : WidgetId) :
    (b.duplicateElement id).1.drag = b.drag := by
  unfold duplicateElement
  split
  · rfl
  · split
    · rfl
    · exact drag_syncPoller _ _

theorem drag_reorderElement (b : Board α) (id : WidgetId) (destination : Nat) :
    (b.reorderElement id destination).1.drag = b.drag := by
  unfold reorderElement
  split
  · rfl
  · split <;> rfl

theorem drag_setTarget (b : Board α) (id : WidgetId) (target : Option CheckTarget) :
    (b.setTarget id target).1.drag = b.drag := by
  unfold setTarget
  split
  · rfl
  · split
    · rfl
    · exact drag_syncPoller _ _

/-- A gesture is on a widget of the board, so not on one that is not there. -/
theorem Focused.filter_of_absent (hb : b.Focused) {id : WidgetId} (absent : id ∉ b.widgetIds) :
    b.drag.active.filter (·.1 ≠ id) = b.drag.active := by
  cases hactive : b.drag.active with
  | none => rfl
  | some p =>
    have there : p.1 ∈ b.widgetIds := hb.selected _ (hb.gesture p.1 p.2 hactive)
    have other : p.1 ≠ id := fun h => absent (h ▸ there)
    exact Option.filter_eq_some_iff.mpr ⟨rfl, decide_eq_true other⟩

/-- A deleted widget takes its gesture along. -/
theorem Focused.active_deleteElement (hb : b.Focused) (id : WidgetId) :
    (b.deleteElement id).1.drag.active = b.drag.active.filter (·.1 ≠ id) := by
  cases hi : b.indexOf? id with
  | none =>
    rw [hb.filter_of_absent (indexOf?_eq_none_iff.mp hi)]
    unfold deleteElement
    rw [hi]
  | some i => rw [deleteElement_eq hi]

/-- A widget that becomes another kind loses its gesture. -/
theorem Focused.active_changeKind [Scalar α] (hb : b.Focused) (id : WidgetId)
    (kind : ElementKind) :
    (b.changeKind id kind).1.drag.active = b.drag.active.filter (·.1 ≠ id) := by
  unfold changeKind
  cases hi : b.indexOf? id with
  | none => rw [hb.filter_of_absent (indexOf?_eq_none_iff.mp hi)]
  | some i =>
    simp only [drag_syncPoller]
    rw [cancelDragOf_filter]

/-- **No other operation begins a gesture**: it goes on, unless it is abandoned. -/
theorem Focused.active_perform [Scalar α] (hb : b.Focused) {c : BoardCommand α}
    (hc : c.isPointerCall = false) :
    (b.perform c).1.drag.active = b.drag.active.filter fun p => !c.abandons p.1 := by
  have kept {drag : Drag} (same : drag = b.drag) :
      drag.active = b.drag.active.filter fun _ => true :=
    (congrArg Drag.active same).trans b.drag.filter_true.symm
  cases c with
  | pointerDown _ | pointerMove _ _ | pointerUp => cases hc
  | setTitle title =>
    refine kept ?_
    show (b.setTitle title).1.drag = b.drag
    unfold setTitle
    split <;> rfl
  | setBackground url => exact kept (b.drag_setBackground url)
  | setSlug slug => exact kept (b.drag_setSlug slug)
  | setGlobalMute _ => exact kept rfl
  | select id => exact kept (b.drag_select id)
  | addElement => exact kept ((drag_select _ _).trans (drag_syncPoller _ _))
  | deleteElement id =>
    simp only [BoardCommand.abandons, ← decide_not]
    exact hb.active_deleteElement id
  | duplicateElement id => exact kept (b.drag_duplicateElement id)
  | reorderElement id destination => exact kept (b.drag_reorderElement id destination)
  | retitleElement id title =>
    refine kept ?_
    show (b.retitleElement id title).1.drag = b.drag
    unfold retitleElement
    split <;> rfl
  | changeKind id kind =>
    simp only [BoardCommand.abandons, ← decide_not]
    exact hb.active_changeKind id kind
  | updateOptions id update => exact kept (b.drag_updateOptions id update)
  | setTarget id target => exact kept (b.drag_setTarget id target)
  | setSoundOverride id state url => exact kept (b.drag_setSoundOverride id state url)
  | applyUpload target url =>
    cases target with
    | background => exact kept (b.drag_setBackground url)
    | sound widget state => exact kept (b.drag_setSoundOverride widget state url)
  | unmount =>
    show b.unmount.drag.active = b.drag.active.filter fun _ => false
    rw [unmount_eq, b.drag.filter_false]

end Board

namespace Chronicle

variable [Scalar α] {c : Chronicle α}

theorem active_step (hb : c.board.Focused) {m : Moment α} (hm : m.isPointerCall = false) :
    (c.step m).board.drag.active = c.board.drag.active.filter fun p => !m.abandons p.1 := by
  have kept {drag : Drag} (same : drag = c.board.drag) :
      drag.active = c.board.drag.active.filter fun _ => true :=
    (congrArg Drag.active same).trans c.board.drag.filter_true.symm
  cases m with
  | command command => exact hb.active_perform hm
  | deliver index =>
    refine kept ?_
    rcases c.step_deliver index with heq | ⟨event, -, heq⟩
    · rw [heq]
    · rw [heq]
      rcases c.board.applyEvent_cases event with
        ⟨-, heq⟩ | ⟨_, _, _, -, -, -, -, ⟨_, _, -, heq⟩ | ⟨_, -, heq⟩⟩ <;> rw [heq]
  | stop id =>
    refine kept ?_
    rcases c.step_stop id with heq | ⟨-, heq⟩
    · rw [heq]
    · rw [heq]
      rfl
  | letGo => exact c.board.drag.filter_false.symm
  | turn _ _ _ | pass _ | hangUp => exact kept rfl

end Chronicle

end StatusWall
