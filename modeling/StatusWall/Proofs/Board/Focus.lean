import StatusWall.Proofs.Board.Runs

/-!
# The selection and the gesture

The selected widget is one of the board's, and a gesture is always on the selected widget: only a
press on the selected widget begins one, and while it runs the selection stays. That holds because
`select`, `pointerDown` and the operations that take a widget away or switch its kind work together;
`Board.Refocus` says once what an operation can do to the two, and each of the four things keeps
`Board.Focused`.

`Board.WellFormed` puts this beside what is known of the two lists and the numbers.
`Chronicle.wellFormed_run` has it for every board that can come about.
-/

namespace StatusWall

open Json StatusWall.Geometry

variable {α : Type}

/-- Leaving a value out by its key. -/
theorem filter_ne_eq_ite {β γ : Type} [DecidableEq γ] (k : γ) (key : β → γ) (o : Option β) :
    o.filter (fun a => key a ≠ k) = if o.map key = some k then none else o := by
  cases o with
  | none => exact (if_neg fun h => nomatch h).symm
  | some a =>
    by_cases h : key a = k
    · simp [h]
    · simp [h]

namespace Board

/-- The selected widget is there, and a gesture is on the selected widget. -/
structure Focused (b : Board α) : Prop where
  selected : ∀ id, b.selected = some id → id ∈ b.widgetIds
  gesture : ∀ id g, b.drag.active = some (id, g) → b.selected = some id

/-- What can happen to the selection and the gesture of a board. -/
inductive Refocus (b b' : Board α) : Prop
  /-- Every widget and the selection stay; the gesture goes on or is over. -/
  | kept (ids : ∀ id ∈ b.widgetIds, id ∈ b'.widgetIds) (selected : b'.selected = b.selected)
      (drag : b'.drag = b.drag ∨ b'.drag = {})
  /-- While no gesture runs, another widget is selected, or none. -/
  | chosen (idle : b'.drag.active = none)
      (selected : ∀ id, b'.selected = some id → id ∈ b'.widgetIds)
  /-- A gesture begins on the selected widget. -/
  | pressed (id : WidgetId) (gesture : Gesture) (ids : b'.widgetIds = b.widgetIds)
      (before : b.selected = some id) (after : b'.selected = some id)
      (drag : b'.drag.active = some (id, gesture))
  /-- A widget goes, and with it its selection and its gesture. -/
  | removed (id : WidgetId) (ids : ∀ x ∈ b.widgetIds, x ≠ id → x ∈ b'.widgetIds)
      (selected : b'.selected = b.selected.filter (· ≠ id))
      (drag : b'.drag.active = b.drag.active.filter (·.1 ≠ id))

theorem Refocus.refl (b : Board α) : Refocus b b := .kept (fun _ h => h) rfl (.inl rfl)

/-- **The gesture stays on the selected widget, and the selected widget is there.** -/
theorem Focused.refocus {b b' : Board α} (hb : b.Focused) (h : Refocus b b') : b'.Focused := by
  cases h with
  | kept ids selected drag =>
    refine ⟨fun id hid => ids id (hb.selected id (selected ▸ hid)), fun id g hg => ?_⟩
    rcases drag with hsame | hidle
    · rw [hsame] at hg
      exact selected.trans (hb.gesture id g hg)
    · rw [hidle] at hg
      cases hg
  | chosen idle selected =>
    exact ⟨selected, fun id g hg => nomatch idle.symm.trans hg⟩
  | pressed id gesture ids before after drag =>
    refine ⟨fun x hx => ?_, fun x g hg => ?_⟩
    · cases after.symm.trans hx
      rw [ids]
      exact hb.selected id before
    · cases drag.symm.trans hg
      exact after
  | removed id ids selected drag =>
    refine ⟨fun x hx => ?_, fun x g hg => ?_⟩
    · obtain ⟨hx, hne⟩ := Option.filter_eq_some_iff.mp (selected.symm.trans hx)
      exact ids x (hb.selected x hx) (of_decide_eq_true hne)
    · obtain ⟨hg, hne⟩ := Option.filter_eq_some_iff.mp (drag.symm.trans hg)
      rw [selected, hb.gesture x g hg]
      exact Option.filter_eq_some_iff.mpr ⟨rfl, hne⟩

/-! ## Tasks and states stand aside -/

/-- Two boards that differ in tasks and states at most. -/
structure Retasked (b b' : Board α) : Prop where
  ids : b'.widgetIds = b.widgetIds
  dashboard : b'.dashboard = b.dashboard
  nextId : b'.nextId = b.nextId
  selected : b'.selected = b.selected
  drag : b'.drag = b.drag

namespace Retasked

variable {b b' b'' : Board α}

theorem refl (b : Board α) : Retasked b b := ⟨rfl, rfl, rfl, rfl, rfl⟩

theorem trans (h : Retasked b b') (h' : Retasked b' b'') : Retasked b b'' where
  ids := h'.ids.trans h.ids
  dashboard := h'.dashboard.trans h.dashboard
  nextId := h'.nextId.trans h.nextId
  selected := h'.selected.trans h.selected
  drag := h'.drag.trans h.drag

/-- What tasks and states become afterwards is not seen. -/
theorem refocus (h : Retasked b' b'') (hr : Refocus b b') : Refocus b b'' := by
  cases hr with
  | kept ids selected drag =>
    refine .kept (fun id hid => ?_) (h.selected.trans selected) (by rw [h.drag]; exact drag)
    rw [h.ids]
    exact ids id hid
  | chosen idle selected =>
    refine .chosen (by rw [h.drag]; exact idle) fun id hid => ?_
    rw [h.ids]
    exact selected id (h.selected ▸ hid)
  | pressed id gesture ids before after drag =>
    exact .pressed id gesture (h.ids.trans ids) before (h.selected.trans after)
      (by rw [h.drag]; exact drag)
  | removed id ids selected drag =>
    refine .removed id (fun x hx hne => ?_) (h.selected.trans selected) (by rw [h.drag]; exact drag)
    rw [h.ids]
    exact ids x hx hne

end Retasked

theorem stopPolling_retasked (b : Board α) (i : Nat) : Retasked b (b.stopPolling i) := by
  rw [stopPolling_eq]
  refine ⟨map_modify_of_eq Widget.id ?_ b.widgets i, rfl, rfl, rfl, rfl⟩
  exact fun _ => rfl

theorem startPolling_retasked (b : Board α) (i : Nat) (target : CheckTarget)
    (policy : SoundPolicy) : Retasked b (b.startPolling i target policy) := by
  unfold startPolling
  split
  · refine ⟨map_modify_of_eq Widget.id ?_ b.widgets i, rfl, rfl, rfl, rfl⟩
    exact fun _ => rfl
  · exact .refl b

/-- Bringing a task in line leaves document, numbers, selection and gesture alone, wherever it is
done. -/
theorem syncPoller_retasked (b : Board α) (i : Nat) : Retasked b (b.syncPoller i) := by
  have restart : ∀ target policy, Retasked b ((b.stopPolling i).startPolling i target policy) :=
    fun target policy => (b.stopPolling_retasked i).trans (startPolling_retasked _ i target policy)
  unfold syncPoller
  simp only
  split
  · exact .refl b
  · split
    · exact ⟨rfl, rfl, rfl, rfl, rfl⟩
    · exact restart _ _
  · exact restart _ _
  · exact b.stopPolling_retasked i

/-! ## The operations -/

theorem mem_widgetIds_mountWidget {b : Board α} {id : WidgetId} :
    id ∈ b.mountWidget.1.widgetIds ↔ id ∈ b.widgetIds ∨ id = ⟨b.nextId⟩ := by
  unfold mountWidget widgetIds
  rw [List.map_append, List.mem_append]
  exact or_congr Iff.rfl List.mem_singleton

/-- Abandoning the gesture of a widget, as one board. -/
theorem cancelDragOf_filter (b : Board α) (id : WidgetId) :
    b.cancelDragOf id = { b with drag := ⟨b.drag.active.filter (·.1 ≠ id)⟩ } := by
  rw [filter_ne_eq_ite]
  unfold cancelDragOf
  split <;> rfl

/-- The gesture goes on or is over. -/
theorem cancelDragOf_cases (b : Board α) (id : WidgetId) :
    b.cancelDragOf id = b ∨ b.cancelDragOf id = { b with drag := {} } := by
  unfold cancelDragOf
  split
  · exact .inr rfl
  · exact .inl rfl

/-- Choosing does nothing while a gesture runs, and otherwise chooses a widget that is there, or
none. -/
theorem select_cases (b : Board α) (id : Option WidgetId) :
    b.select id = b ∨
      ((b.select id).drag.active = none ∧
        ∀ x, (b.select id).selected = some x → x ∈ (b.select id).widgetIds) := by
  unfold select
  by_cases hdragging : b.drag.isDragging = true
  · rw [if_pos hdragging]
    exact .inl rfl
  · rw [if_neg hdragging]
    refine .inr ⟨Option.not_isSome_iff_eq_none.mp hdragging, fun x hx => ?_⟩
    obtain ⟨-, hthere⟩ := Option.filter_eq_some_iff.mp hx
    show x ∈ b.widgetIds
    by_contra habsent
    rw [indexOf?_eq_none_iff.mpr habsent] at hthere
    cases hthere

/-- Choosing a widget after something else. -/
theorem Refocus.select {b b' : Board α} (h : Refocus b b') (id : Option WidgetId) :
    Refocus b (b'.select id) := by
  rcases b'.select_cases id with hsame | ⟨hidle, hthere⟩
  · rw [hsame]
    exact h
  · exact .chosen hidle hthere

theorem pointerDown_refocus (b : Board α) (target : PointerTarget) :
    Refocus b (b.pointerDown target).1 := by
  -- A press that is handed on begins a gesture if the widget is the selected one.
  have press : Refocus b { b with drag := (b.drag.pointerDown target b.selected).1 } := by
    unfold Drag.pointerDown
    split
    · next id gesture hactive _ =>
      split
      · next hselected => exact .pressed id gesture rfl hselected hselected rfl
      · exact .refl b
    · exact .refl b
  unfold pointerDown
  split
  · exact .refl b
  · next hidle =>
    cases target with
    | canvas => exact .chosen (Option.not_isSome_iff_eq_none.mp hidle) fun _ h => nomatch h
    | body id =>
      simp only
      split
      · exact press
      · exact (Refocus.refl b).select (some id)
    | resizeHandle id | rotateHandle id => exact press

theorem pointerMove_refocus [Scalar α] (b : Board α) (event : PointerEvent α) (layout : Layout α) :
    Refocus b (b.pointerMove event layout).1 := by
  unfold pointerMove
  split
  · exact .refl b
  · split
    · exact .kept (fun _ h => h) rfl (.inr rfl)
    · simp only
      split
      · exact .refl b
      · exact .kept (fun _ h => h) rfl (.inl rfl)

/-- Mounting a widget, and whatever is done to the tasks then. -/
theorem mount_refocus (b : Board α) (dashboard : Dashboard α) (i : Nat) :
    Refocus b ({ b with dashboard }.mountWidget.1.syncPoller i) := by
  refine (syncPoller_retasked _ i).refocus (.kept (fun id hid => ?_) rfl (.inl rfl))
  exact mem_widgetIds_mountWidget.mpr (.inl hid)

/-- What is left after a widget was deleted. -/
theorem deleteElement_eq {b : Board α} {id : WidgetId} {i : Nat} (hi : b.indexOf? id = some i) :
    b.deleteElement id =
      ({ b with
          dashboard := (b.dashboard.deleteElement i).1
          widgets := b.widgets.eraseIdx i
          selected := b.selected.filter (· ≠ id)
          drag := ⟨b.drag.active.filter (·.1 ≠ id)⟩
          fleet := b.fleet.map (·.release (b.widgets[i]?.bind (·.poller))) },
       (b.dashboard.deleteElement i).2) := by
  have hselected := filter_ne_eq_ite id (fun x => x) b.selected
  rw [Option.map_id'] at hselected
  unfold deleteElement
  rw [hi, hselected]
  simp only [cancelDragOf_filter, stopPolling_eq]
  by_cases h : b.selected = some id
  · simp only [if_pos h, List.eraseIdx_modify_of_eq]
  · simp only [if_neg h, List.eraseIdx_modify_of_eq]

theorem deleteElement_refocus (b : Board α) (id : WidgetId) :
    Refocus b (b.deleteElement id).1 := by
  cases hi : b.indexOf? id with
  | none =>
    unfold deleteElement
    rw [hi]
    exact .refl b
  | some i =>
    rw [deleteElement_eq hi]
    refine .removed id (fun x hx hne => ?_) rfl rfl
    obtain ⟨w, hw, rfl⟩ := List.mem_map.mp hx
    obtain ⟨j, hj⟩ := List.mem_iff_getElem?.mp hw
    obtain ⟨v, hv, hid⟩ := widget_of_indexOf? hi
    refine List.mem_map_of_mem (List.mem_eraseIdx_iff_getElem?.mpr ⟨j, ?_, hj⟩)
    rintro rfl
    cases hj.symm.trans hv
    exact hne hid

/-- The numbers of the widgets after one was moved. -/
theorem reorderElement_refocus {b : Board α} (aligned : b.Aligned) (id : WidgetId)
    (destination : Nat) : Refocus b (b.reorderElement id destination).1 := by
  unfold reorderElement Dashboard.reorderElements
  cases hi : b.indexOf? id with
  | none => exact .refl b
  | some i =>
    simp only
    split
    · exact .refl b
    · next hmoved =>
      split at hmoved
      · next hhas =>
        cases hmoved
        have hinside : destination < b.widgets.length := aligned ▸ of_decide_eq_true hhas.2
        refine .kept (fun x hx => ?_) rfl (.inl rfl)
        exact (((moveEntry_perm hinside).map _).mem_iff).mpr hx
      · cases hmoved

theorem setSlug_refocus (b : Board α) (slug : String) : Refocus b (b.setSlug slug) := by
  unfold setSlug
  split
  · exact .refl b
  · obtain ⟨fleet, heq, -⟩ :=
      foldl_setSlug slug b.widgets { b with dashboard := { b.dashboard with slug } }
    have renamed : Refocus b { b with dashboard := { b.dashboard with slug }, fleet } :=
      .kept (fun _ h => h) rfl (.inl rfl)
    exact Eq.mpr (congrArg (Refocus b) heq) renamed

theorem setBackground_refocus (b : Board α) (url : String) : Refocus b (b.setBackground url).1 := by
  unfold setBackground
  split
  · exact .refl b
  · exact .kept (fun _ h => h) rfl (.inl rfl)

/-- Changing an element and bringing its task in line. -/
theorem changeOptions_refocus (b : Board α) (i : Nat) (change : Fields → Fields) :
    Refocus b (b.changeOptions i change) :=
  (syncPoller_retasked _ i).refocus (.kept (fun _ h => h) rfl (.inl rfl))

theorem updateOptions_refocus (b : Board α) (id : WidgetId) (update : Fields) :
    Refocus b (b.updateOptions id update).1 := by
  unfold updateOptions
  split
  · exact .refl b
  · next i _ => exact b.changeOptions_refocus i fun options => options.merge update

theorem setSoundOverride_refocus (b : Board α) (id : WidgetId) (state : CheckState) (url : String) :
    Refocus b (b.setSoundOverride id state url).1 := by
  unfold setSoundOverride
  split
  · exact .refl b
  · exact b.updateOptions_refocus id _

theorem unmount_refocus (b : Board α) : Refocus b b.unmount := by
  rw [unmount_eq]
  refine .kept (fun id hid => ?_) rfl (.inr rfl)
  show id ∈ (b.widgets.map Widget.idled).map (·.id)
  rw [List.map_map]
  exact hid

/-- **What a command can do to the selection and the gesture.** -/
theorem perform_refocus [Scalar α] {b : Board α} (aligned : b.Aligned) (c : BoardCommand α) :
    Refocus b (b.perform c).1 := by
  cases c with
  | setTitle title =>
    show Refocus b (b.setTitle title).1
    unfold setTitle
    split
    · exact .refl b
    · exact .kept (fun _ h => h) rfl (.inl rfl)
  | setBackground url => exact b.setBackground_refocus url
  | setSlug slug => exact b.setSlug_refocus slug
  | setGlobalMute muted => exact .kept (fun _ h => h) rfl (.inl rfl)
  | select id => exact (Refocus.refl b).select id
  | pointerDown target => exact b.pointerDown_refocus target
  | pointerMove event layout => exact b.pointerMove_refocus event layout
  | pointerUp => exact .kept (fun _ h => h) rfl (.inr rfl)
  | addElement => exact (b.mount_refocus _ _).select _
  | deleteElement id => exact b.deleteElement_refocus id
  | duplicateElement id =>
    show Refocus b (b.duplicateElement id).1
    unfold duplicateElement
    split
    · exact .refl b
    · split
      · exact .refl b
      · exact b.mount_refocus _ _
  | reorderElement id destination => exact reorderElement_refocus aligned id destination
  | retitleElement id title =>
    show Refocus b (b.retitleElement id title).1
    unfold retitleElement
    split
    · exact .refl b
    · exact .kept (fun _ h => h) rfl (.inl rfl)
  | changeKind id kind =>
    show Refocus b (b.changeKind id kind).1
    unfold changeKind
    split
    · exact .refl b
    · refine (syncPoller_retasked _ _).refocus ?_
      rcases b.cancelDragOf_cases id with hsame | hidle
      · rw [hsame]
        exact .kept (fun _ h => h) rfl (.inl rfl)
      · rw [hidle]
        exact .kept (fun _ h => h) rfl (.inr rfl)
  | updateOptions id update => exact b.updateOptions_refocus id update
  | setTarget id target =>
    show Refocus b (b.setTarget id target).1
    unfold setTarget
    split
    · exact .refl b
    · split
      · exact .refl b
      · next i _ _ check _ =>
        exact b.changeOptions_refocus i fun options => Element.boundOptions options check target
  | setSoundOverride id state url => exact b.setSoundOverride_refocus id state url
  | applyUpload target url =>
    cases target with
    | background => exact b.setBackground_refocus url
    | sound widget state => exact b.setSoundOverride_refocus widget state url
  | unmount => exact b.unmount_refocus

theorem applyEvent_refocus (b : Board α) (event : PollEvent) :
    Refocus b (b.applyEvent event).1 := by
  rcases b.applyEvent_cases event with
    ⟨-, heq⟩ | ⟨i, w, h, hw, -, -, -, ⟨state, acknowledged, -, heq⟩ | ⟨_, -, heq⟩⟩
  · rw [heq]
    exact .refl b
  · rw [heq]
    refine .kept (fun id hid => ?_) rfl (.inl rfl)
    let shown : Widget := { w with status := some ⟨state, acknowledged⟩ }
    have hids : (b.widgets.set i shown).map Widget.id = b.widgets.map Widget.id :=
      map_set_of_eq hw Widget.id rfl
    exact Eq.mpr (congrArg (id ∈ ·) hids) hid
  · rw [heq]
    exact .refl b

/-- A new board has nothing selected and no gesture. -/
theorem new_focused (d : Dashboard α) (fleet : Option Fleet) : (Board.new d fleet).Focused := by
  have blank : ∀ (places : List Nat) (b : Board α), b.selected = none ∧ b.drag.active = none →
      (places.foldl (fun b i => b.mountWidget.1.syncPoller i) b).selected = none ∧
        (places.foldl (fun b i => b.mountWidget.1.syncPoller i) b).drag.active = none := by
    intro places
    induction places with
    | nil => exact fun _ h => h
    | cons i places ih =>
      intro b h
      have sync := syncPoller_retasked b.mountWidget.1 i
      refine ih _ ⟨sync.selected.trans h.1, ?_⟩
      rw [sync.drag]
      exact h.2
  obtain ⟨hselected, hidle⟩ :=
    blank (List.range d.elements.length) { dashboard := d, fleet } ⟨rfl, rfl⟩
  exact ⟨fun _ h => (nomatch hselected.symm.trans h), fun _ _ h => nomatch hidle.symm.trans h⟩

/-- What holds of every board that can come about: the two lists go together, the numbers are all
different and were all given out, the selected widget is there, and a gesture is on it. -/
structure WellFormed (b : Board α) : Prop where
  aligned : b.widgets.length = b.dashboard.elements.length
  nodup : b.widgetIds.Nodup
  fresh : ∀ id ∈ b.widgetIds, id.number < b.nextId
  selected : ∀ id, b.selected = some id → id ∈ b.widgetIds
  gesture : ∀ id g, b.drag.active = some (id, g) → id ∈ b.widgetIds ∧ b.selected = some id

theorem InStep.wellFormed {b : Board α} (hb : b.InStep) (h : b.Focused) : b.WellFormed where
  aligned := hb.aligned
  nodup := hb.nodup
  fresh id hid := by
    obtain ⟨w, hw, rfl⟩ := List.mem_map.mp hid
    exact hb.fresh w hw
  selected := h.selected
  gesture id g hg := ⟨h.selected id (h.gesture id g hg), h.gesture id g hg⟩

end Board

namespace Chronicle

variable [Scalar α] {c : Chronicle α}

/-- What a moment can do to the selection and the gesture. -/
theorem step_refocus (hb : c.board.InStep) (m : Moment α) :
    c.board.Refocus (c.step m).board := by
  cases m with
  | command command => exact Board.perform_refocus hb.aligned command
  | deliver index =>
    rcases c.step_deliver index with hstep | ⟨event, -, hstep⟩
    · rw [hstep]
      exact .refl _
    · rw [hstep]
      exact c.board.applyEvent_refocus event
  | letGo =>
    refine .kept (fun id hid => ?_) rfl (.inr rfl)
    show id ∈ (c.board.widgets.map Widget.idled).map (·.id)
    rw [List.map_map]
    exact hid
  | stop id =>
    rcases c.step_stop id with hstep | ⟨-, hstep⟩
    · rw [hstep]
      exact .refl _
    · rw [hstep]
      exact .kept (fun _ h => h) rfl (.inl rfl)
  | turn _ _ _ | pass _ | hangUp => exact .kept (fun _ h => h) rfl (.inl rfl)

theorem focused_run (hc : c.Sound) (h : c.board.Focused) (ms : List (Moment α)) :
    (c.run ms).board.Focused := by
  induction ms generalizing c with
  | nil => exact h
  | cons m ms ih => exact ih (hc.step m) (h.refocus (step_refocus hc.inStep m))

/-- **Every board that can come about is well formed.** -/
theorem wellFormed_run (d : Dashboard α) (polling : Option PollConfig) (ms : List (Moment α)) :
    ((start d polling).run ms).board.WellFormed := by
  have hstart : (start d polling).Sound := Sound.start d polling
  have hfocused : (start d polling).board.Focused := Board.new_focused d _
  exact (hstart.run ms).inStep.wellFormed (focused_run hstart hfocused ms)

end Chronicle

end StatusWall
