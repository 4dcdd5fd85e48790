import StatusWall.Proofs.Board.Sync

/-!
# What a command changes

Of all a command can do to a board, six things matter to widgets, elements and tasks:
`Board.Change` lists them, and `perform_change` says that a command other than `unmount` does one of
them. Title, background, mute flag, selection and gesture stand outside: what a command does to them
is not restricted here.

Three of the six bring one widget's task in line with its element (`Resync`) or cancel it. In the
others every task goes on, told of another slug at most. The kind and the options of an element
become others only where a task is brought in line, and `BoardCommand.Edits` says how.
-/

namespace StatusWall

open Json StatusWall.Geometry

/-- How a command edits the kind and the options of the element of a widget. -/
def BoardCommand.Edits {α : Type} [Scalar α] (c : BoardCommand α) (w : Widget)
    (e e' : Element α) : Prop :=
  match c with
  | .changeKind id kind => w.id = id ∧ e' = e.changeKind kind
  | .updateOptions id update => w.id = id ∧ e' = e.updateOptions update
  | .setTarget id target =>
    w.id = id ∧ ∃ check, e.checkOptions? = some check ∧
      e' = { e with options := Element.boundOptions e.options check target }
  | .setSoundOverride id state url | .applyUpload (.sound id state) url =>
    w.id = id ∧ e' = e.updateOptions [(SoundSet.key state, .text url)]
  | _ => False

namespace Board

variable {α : Type}

/-- What a command other than `unmount` makes of a board, where `edit` is what it makes of an
element. -/
inductive Change (edit : Widget → Element α → Element α → Prop) (b b' : Board α) : Prop
  /-- Widgets and tasks stay, and every element keeps its kind and its options. -/
  | touched
      (widgets : b'.widgets = b.widgets) (nextId : b'.nextId = b.nextId)
      (slug : b'.dashboard.slug = b.dashboard.slug) (fleet : b'.fleet = b.fleet)
      (checks : b'.dashboard.elements.map Element.checkOptions? =
        b.dashboard.elements.map Element.checkOptions?)
  /-- The document has another slug, and every task a widget holds knows it. -/
  | renamed
      (widgets : b'.widgets = b.widgets) (nextId : b'.nextId = b.nextId)
      (elements : b'.dashboard.elements = b.dashboard.elements)
      (told : Option.Rel Fleet.Told b.fleet b'.fleet)
      (tasks : ∀ w ∈ b.widgets, ∀ h t, w.poller = some h → b.task? h.id = some t →
        b'.task? h.id = some { t with slug := b'.dashboard.slug })
  /-- One element is another one, and the task of its widget is brought in line with it. -/
  | resynced (i : Nat) (w w' : Widget) (e e' : Element α)
      (place : b.widgets[i]? = some w) (element : b.dashboard.elements[i]? = some e)
      (edited : edit w e e')
      (widgets : b'.widgets = b.widgets.set i w') (nextId : b'.nextId = b.nextId)
      (elements : b'.dashboard.elements = b.dashboard.elements.set i e')
      (slug : b'.dashboard.slug = b.dashboard.slug)
      (sync : Resync b.fleet b.dashboard.slug w e' b'.fleet w')
  /-- An element is appended, with a widget under the next number. -/
  | mounted (w' : Widget) (e' : Element α)
      (widgets : b'.widgets = b.widgets ++ [w']) (nextId : b'.nextId = b.nextId + 1)
      (elements : b'.dashboard.elements = b.dashboard.elements ++ [e'])
      (slug : b'.dashboard.slug = b.dashboard.slug)
      (sync : Resync b.fleet b.dashboard.slug { id := ⟨b.nextId⟩ } e' b'.fleet w')
  /-- A widget is taken out with its element, and its task is cancelled. -/
  | removed (i : Nat) (w : Widget)
      (place : b.widgets[i]? = some w)
      (widgets : b'.widgets = b.widgets.eraseIdx i) (nextId : b'.nextId = b.nextId)
      (elements : b'.dashboard.elements = b.dashboard.elements.eraseIdx i)
      (slug : b'.dashboard.slug = b.dashboard.slug)
      (fleet : b'.fleet = b.fleet.map (·.release w.poller))
  /-- A widget is moved with its element. -/
  | moved (source destination : Nat) (inside : destination < b.widgets.length)
      (widgets : b'.widgets = Dashboard.moveEntry b.widgets source destination)
      (nextId : b'.nextId = b.nextId)
      (elements : b'.dashboard.elements =
        Dashboard.moveEntry b.dashboard.elements source destination)
      (slug : b'.dashboard.slug = b.dashboard.slug) (fleet : b'.fleet = b.fleet)

/-! ## The operations -/

section Operations

variable {edit : Widget → Element α → Element α → Prop}

theorem Change.refl (b : Board α) : Change edit b b := .touched rfl rfl rfl rfl rfl

/-- Changing an entry in what is not looked at. -/
theorem map_modify_of_eq {β γ : Type} (g : β → γ) {f : β → β} (h : ∀ a, g (f a) = g a)
    (l : List β) (i : Nat) : (l.modify i f).map g = l.map g := by
  induction l generalizing i with
  | nil => cases i <;> rfl
  | cons a l ih =>
    cases i with
    | zero => exact congrArg (· :: l.map g) (h a)
    | succ i => exact congrArg (g a :: ·) (ih i)

/-- Letting go of a widget changes the gesture only. -/
theorem cancelDragOf_eq (b : Board α) (id : WidgetId) :
    ∃ drag, b.cancelDragOf id = { b with drag } := by
  unfold cancelDragOf
  split
  · exact ⟨_, rfl⟩
  · exact ⟨b.drag, rfl⟩

/-- Selecting changes the selection only. -/
theorem select_eq (b : Board α) (id : Option WidgetId) :
    ∃ selected, b.select id = { b with selected } := by
  unfold select
  split
  · exact ⟨b.selected, rfl⟩
  · exact ⟨_, rfl⟩

/-- Neither widgets nor tasks know of the background. -/
theorem setBackground_change (b : Board α) (url : String) :
    Change edit b (b.setBackground url).1 := by
  unfold setBackground
  split <;> exact .touched rfl rfl rfl rfl rfl

/-- A press selects and begins a gesture, and leaves the document. -/
theorem pointerDown_change (b : Board α) (target : PointerTarget) :
    Change edit b (b.pointerDown target).1 := by
  unfold pointerDown
  split
  · exact .refl b
  · cases target with
    | canvas => exact .touched rfl rfl rfl rfl rfl
    | body id =>
      simp only
      split
      · exact .touched rfl rfl rfl rfl rfl
      · obtain ⟨selected, h⟩ := b.select_eq (some id)
        rw [h]
        exact .touched rfl rfl rfl rfl rfl
    | resizeHandle id | rotateHandle id => exact .touched rfl rfl rfl rfl rfl

/-- A motion places an element anew, which its options do not notice. -/
theorem pointerMove_change [Scalar α] (b : Board α) (event : PointerEvent α) (layout : Layout α) :
    Change edit b (b.pointerMove event layout).1 := by
  unfold pointerMove
  cases b.drag.active with
  | none => exact .refl b
  | some active =>
    simp only
    cases b.indexOf? active.1 with
    | none => exact .touched rfl rfl rfl rfl rfl
    | some i =>
      simp only
      cases he : b.dashboard.elements[i]? with
      | none => exact .refl b
      | some e =>
        cases hp : b.drag.pointerMove event layout e.placement with
        | none =>
          simp only [Option.bind_some, hp, Option.map_none]
          exact .refl b
        | some p =>
          simp only [Option.bind_some, hp, Option.map_some]
          refine .touched rfl rfl rfl rfl ?_
          show (b.dashboard.elements.modify i fun _ => e.place p).map _ = _
          rw [modify_eq_set_of_getElem? he, ← modify_eq_set_of_getElem? he (·.place p)]
          refine map_modify_of_eq Element.checkOptions? ?_ _ _
          exact fun _ => rfl

/-- A title is no option. -/
theorem retitleElement_change (b : Board α) (id : WidgetId) (title : String) :
    Change edit b (b.retitleElement id title).1 := by
  unfold retitleElement
  cases b.indexOf? id with
  | none => exact .refl b
  | some i =>
    unfold Dashboard.retitleElement
    simp only
    split
    · refine .touched rfl rfl rfl rfl (map_modify_of_eq Element.checkOptions? ?_ _ _)
      exact fun _ => rfl
    · exact .refl b

/-- Telling the tasks of a list of widgets of a slug. -/
theorem foldl_setSlug (slug : String) (ws : List Widget) (b : Board α) :
    ∃ fleet,
      ws.foldl (fun b w =>
        match w.poller with
        | some handle => b.withFleet (·.setSlug handle.id slug)
        | none => b) b = { b with fleet } ∧
      Option.Rel Fleet.Told b.fleet fleet ∧
      ∀ id t, b.task? id = some t →
        ∃ s, fleet.bind (·.task? id) = some { t with slug := s } ∧ (t.slug = slug → s = slug) ∧
          ∀ w ∈ ws, ∀ h, w.poller = some h → h.id = id → s = slug := by
  induction ws generalizing b with
  | nil =>
    refine ⟨b.fleet, rfl, Fleet.told_rfl _, fun id t ht => ⟨t.slug, ht, fun h => h, ?_⟩⟩
    exact fun w hw => absurd hw List.not_mem_nil
  | cons w ws ih =>
    rw [List.foldl_cons]
    cases hp : w.poller with
    | none =>
      obtain ⟨fleet, heq, told, tasks⟩ := ih b
      refine ⟨fleet, heq, told, fun id t ht => ?_⟩
      obtain ⟨s, hs, hkeep, hws⟩ := tasks id t ht
      refine ⟨s, hs, hkeep, fun v hv h hh hid => ?_⟩
      rcases List.mem_cons.mp hv with rfl | hv
      · rw [hp] at hh
        cases hh
      · exact hws v hv h hh hid
    | some handle =>
      obtain ⟨fleet, heq, told, tasks⟩ := ih (b.withFleet (·.setSlug handle.id slug))
      refine ⟨fleet, heq, ?_, fun id t ht => ?_⟩
      · exact Fleet.told_trans (Fleet.told_map (fun _ => Fleet.Told.refl.setSlug _ _) _) told
      · obtain ⟨f, hf, htf⟩ := Option.bind_eq_some_iff.mp ht
        have hset : (b.withFleet (·.setSlug handle.id slug)).task? id =
            some (if t.id = handle.id then { t with slug } else t) := by
          have hc : ∀ t : PollTask, ({ t with slug } : PollTask).id = t.id := fun _ => rfl
          unfold task? withFleet
          rw [hf]
          show (f.modifyTask handle.id fun t => { t with slug }).task? id = _
          rw [f.task?_modifyTask _ hc, htf]
          rfl
        have hid := Fleet.task?_id htf
        by_cases hown : t.id = handle.id
        · rw [if_pos hown] at hset
          obtain ⟨s, hs, hkeep, -⟩ := tasks id _ hset
          exact ⟨s, hs, fun _ => hkeep rfl, fun _ _ _ _ _ => hkeep rfl⟩
        · rw [if_neg hown] at hset
          obtain ⟨s, hs, hkeep, hws⟩ := tasks id t hset
          refine ⟨s, hs, hkeep, fun v hv h hh hh' => ?_⟩
          rcases List.mem_cons.mp hv with rfl | hv
          · rw [hp] at hh
            cases hh
            exact absurd (hid.trans hh'.symm) hown
          · exact hws v hv h hh hh'

/-- A new slug is told to every task that some widget holds, and to no other. -/
theorem setSlug_change (b : Board α) (slug : String) : Change edit b (b.setSlug slug) := by
  unfold setSlug
  split
  · exact .refl b
  · obtain ⟨fleet, heq, told, tasks⟩ :=
      foldl_setSlug slug b.widgets { b with dashboard := { b.dashboard with slug } }
    have renamed : Change edit b { b with dashboard := { b.dashboard with slug }, fleet } := by
      refine .renamed rfl rfl rfl told fun w hw h t hp ht => ?_
      obtain ⟨s, hs, -, hws⟩ := tasks h.id t ht
      rw [hws w hw h hp rfl] at hs
      exact hs
    exact Eq.mpr (congrArg (Change edit b) heq) renamed

/-- Mounting a widget for the first element without one, and starting its task. -/
theorem mount_sync_eq {b : Board α} {k : Nat} {e : Element α} (hk : b.widgets.length = k)
    (he : b.dashboard.elements[k]? = some e) :
    ∃ fleet w', Resync b.fleet b.dashboard.slug { id := ⟨b.nextId⟩ } e fleet w' ∧
      b.mountWidget.1.syncPoller k =
        { b with widgets := b.widgets ++ [w'], nextId := b.nextId + 1, fleet } := by
  subst hk
  have hw : b.mountWidget.1.widgets[b.widgets.length]? = some { id := ⟨b.nextId⟩ } :=
    List.getElem?_concat_length
  obtain ⟨fleet, w', sync, heq⟩ := syncPoller_eq hw he fun _ => rfl
  have hset : b.mountWidget.1.widgets.set b.widgets.length w' = b.widgets ++ [w'] := by
    show (b.widgets ++ [_]).set b.widgets.length w' = _
    rw [List.set_append_right _ _ (Nat.le_refl _), Nat.sub_self]
    rfl
  refine ⟨fleet, w', sync, ?_⟩
  rw [heq, hset]
  rfl

section Edits

variable {b : Board α} (aligned : b.Aligned)
  (idle : ∀ w ∈ b.widgets, w.poller = none → w.status = none)

include aligned idle

/-- Making another element of one, and bringing the task of its widget in line. -/
theorem modify_sync_change {id : WidgetId} {i : Nat} (hi : b.indexOf? id = some i) (drag : Drag)
    {change : Element α → Element α}
    (hedit : ∀ w e, w.id = id → b.element? id = some e → edit w e (change e)) :
    Change edit b
      ({ b with drag, dashboard := b.dashboard.modifyElement i change }.syncPoller i) := by
  obtain ⟨w, hw, hid⟩ := widget_of_indexOf? hi
  obtain ⟨e, he⟩ := aligned.exists_element hw
  have helement : b.element? id = some e := by
    unfold element?
    rw [hi]
    exact he
  have hset : b.dashboard.elements.modify i change = b.dashboard.elements.set i (change e) :=
    modify_eq_set_of_getElem? he change
  have he' : (b.dashboard.modifyElement i change).elements[i]? = some (change e) := by
    show (b.dashboard.elements.modify i change)[i]? = _
    rw [hset, List.getElem?_set_self (List.getElem?_eq_some_iff.mp he).1]
  obtain ⟨fleet, w', sync, heq⟩ :=
    syncPoller_eq (b := { b with drag, dashboard := b.dashboard.modifyElement i change }) hw he'
      (idle w (List.mem_of_getElem? hw))
  rw [heq]
  exact .resynced i w w' e (change e) hw he (hedit w e hid helement) rfl rfl hset rfl sync

/-- A new kind sets the options of the element anew, and its task follows. -/
theorem changeKind_change [Scalar α] (id : WidgetId) (kind : ElementKind) :
    Change (BoardCommand.changeKind id kind).Edits b (b.changeKind id kind).1 := by
  unfold changeKind
  cases hi : b.indexOf? id with
  | none => exact .refl b
  | some i =>
    obtain ⟨w, hw, -⟩ := widget_of_indexOf? hi
    have hhas : b.dashboard.has i = true :=
      decide_eq_true (aligned ▸ (List.getElem?_eq_some_iff.mp hw).1)
    obtain ⟨drag, hdrag⟩ := b.cancelDragOf_eq id
    simp only [hdrag, Dashboard.changeElementKind, hhas, ↓reduceIte]
    exact modify_sync_change aligned idle hi drag fun _ _ hid _ => ⟨hid, rfl⟩

/-- An update is laid over the options of one element, whose task follows. -/
theorem updateOptions_change {id : WidgetId} {update : Fields}
    (hedit : ∀ w e, w.id = id → edit w e (e.updateOptions update)) :
    Change edit b (b.updateOptions id update).1 := by
  unfold updateOptions
  cases hi : b.indexOf? id with
  | none => exact .refl b
  | some i => exact modify_sync_change aligned idle hi b.drag fun w e hid _ => hedit w e hid

/-- A check element is bound, and its task follows; another element refuses. -/
theorem setTarget_change [Scalar α] (id : WidgetId) (target : Option CheckTarget) :
    Change (BoardCommand.setTarget id target : BoardCommand α).Edits b
      (b.setTarget id target).1 := by
  unfold setTarget
  cases hi : b.indexOf? id with
  | none => exact .refl b
  | some i =>
    simp only
    cases hcheck : b.dashboard.elements[i]?.bind Element.checkOptions? with
    | none => exact .refl b
    | some check =>
      refine modify_sync_change aligned idle hi b.drag fun w e hid he => ⟨hid, check, ?_, rfl⟩
      obtain ⟨e₀, he₀, hcheck⟩ := Option.bind_eq_some_iff.mp hcheck
      unfold element? at he
      rw [hi, Option.bind_some, he₀] at he
      cases he
      exact hcheck

theorem setSoundOverride_change {id : WidgetId} {state : CheckState} {url : String}
    (hedit : ∀ w e, w.id = id → edit w e (e.updateOptions [(SoundSet.key state, .text url)])) :
    Change edit b (b.setSoundOverride id state url).1 := by
  unfold setSoundOverride
  cases (b.element? id).bind Element.checkOptions? with
  | none => exact .refl b
  | some _ => exact updateOptions_change aligned idle hedit

omit idle in
/-- The default element is appended, with a widget under the next number. -/
theorem addElement_change [Scalar α] : Change edit b b.addElement.1 := by
  unfold addElement Dashboard.addElement
  simp only
  obtain ⟨selected, hselected⟩ := select_eq
    ({ b with
        dashboard := { b.dashboard with elements := b.dashboard.elements ++ [Element.default] }
      }.mountWidget.1.syncPoller b.dashboard.elements.length) (some ⟨b.nextId⟩)
  obtain ⟨fleet, w', sync, heq⟩ :=
    mount_sync_eq
      (b := { b with
        dashboard := { b.dashboard with elements := b.dashboard.elements ++ [Element.default] } })
      aligned List.getElem?_concat_length
  refine Eq.mpr (congrArg (Change edit b) hselected) ?_
  rw [heq]
  exact .mounted w' _ rfl rfl rfl rfl sync

omit idle in
/-- The copy is appended at the end, and its widget is a new one. -/
theorem duplicateElement_change (id : WidgetId) : Change edit b (b.duplicateElement id).1 := by
  unfold duplicateElement Dashboard.duplicateElement
  cases hi : b.indexOf? id with
  | none => exact .refl b
  | some i =>
    obtain ⟨w, hw, -⟩ := widget_of_indexOf? hi
    obtain ⟨e, he⟩ := aligned.exists_element hw
    obtain ⟨fleet, w', sync, heq⟩ :=
      mount_sync_eq
        (b := { b with dashboard := { b.dashboard with elements := b.dashboard.elements ++ [e] } })
        aligned List.getElem?_concat_length
    simp only [he]
    refine Eq.mpr (congrArg (Change edit b) heq) ?_
    exact .mounted w' e rfl rfl rfl rfl sync

omit idle in
/-- The widget goes with its element, after its task was cancelled. -/
theorem deleteElement_change (id : WidgetId) : Change edit b (b.deleteElement id).1 := by
  unfold deleteElement
  cases hi : b.indexOf? id with
  | none => exact .refl b
  | some i =>
    obtain ⟨w, hw, -⟩ := widget_of_indexOf? hi
    obtain ⟨e, he⟩ := aligned.exists_element hw
    obtain ⟨drag, hdrag⟩ := b.cancelDragOf_eq id
    have hselected : ∃ selected,
        (if b.selected = some id then { b with drag, selected := none } else { b with drag }) =
          { b with drag, selected } := by
      split
      · exact ⟨none, rfl⟩
      · exact ⟨b.selected, rfl⟩
    obtain ⟨selected, hselected⟩ := hselected
    simp only [hdrag, hselected, stopPolling_eq, Dashboard.deleteElement, he, hw, Option.bind_some]
    exact .removed i w hw (List.eraseIdx_modify_of_eq _ _ _) rfl rfl rfl rfl

omit idle in
/-- Widgets and elements are moved the same way, or the move is refused. -/
theorem reorderElement_change (id : WidgetId) (destination : Nat) :
    Change edit b (b.reorderElement id destination).1 := by
  unfold reorderElement Dashboard.reorderElements
  cases hi : b.indexOf? id with
  | none => exact .refl b
  | some i =>
    simp only
    split
    · exact .refl b
    · next hmoved =>
      split at hmoved
      · next hhas =>
        cases hmoved
        exact .moved i destination (aligned ▸ of_decide_eq_true hhas.2) rfl rfl rfl rfl rfl
      · cases hmoved

end Edits

end Operations

/-- **What a command changes.** Every command but `unmount` makes one of the six changes, with its
own edit. -/
theorem perform_change [Scalar α] {b : Board α} (aligned : b.Aligned)
    (idle : ∀ w ∈ b.widgets, w.poller = none → w.status = none) {c : BoardCommand α}
    (hc : c ≠ .unmount) : Change c.Edits b (b.perform c).1 := by
  cases c with
  | setTitle title =>
    show Change _ b (b.setTitle title).1
    unfold setTitle
    split <;> exact .touched rfl rfl rfl rfl rfl
  | setBackground url => exact setBackground_change b url
  | setSlug slug => exact setSlug_change b slug
  | setGlobalMute muted => exact .touched rfl rfl rfl rfl rfl
  | select id =>
    obtain ⟨selected, h⟩ := b.select_eq id
    show Change _ b (b.select id)
    rw [h]
    exact .touched rfl rfl rfl rfl rfl
  | pointerDown target => exact pointerDown_change b target
  | pointerMove event layout => exact pointerMove_change b event layout
  | pointerUp => exact .touched rfl rfl rfl rfl rfl
  | addElement => exact addElement_change aligned
  | deleteElement id => exact deleteElement_change aligned id
  | duplicateElement id => exact duplicateElement_change aligned id
  | reorderElement id destination => exact reorderElement_change aligned id destination
  | retitleElement id title => exact retitleElement_change b id title
  | changeKind id kind => exact changeKind_change aligned idle id kind
  | updateOptions id update => exact updateOptions_change aligned idle fun _ _ hid => ⟨hid, rfl⟩
  | setTarget id target => exact setTarget_change aligned idle id target
  | setSoundOverride id state url =>
    exact setSoundOverride_change aligned idle fun _ _ hid => ⟨hid, rfl⟩
  | applyUpload target url =>
    cases target with
    | background => exact setBackground_change b url
    | sound widget state =>
      exact setSoundOverride_change aligned idle fun _ _ hid => ⟨hid, rfl⟩
  | unmount => exact absurd rfl hc

end Board

end StatusWall
