import StatusWall.Proofs.Board.Runs
import StatusWall.Proofs.Polling.Silence
import StatusWall.Proofs.Document.Alerting

/-!
# Boards that alert alike

Two boards alert alike (`Board.Alike`) if their widgets and tasks are the same, and their elements
are in what alerting sees of them. Selection, gesture, titles and places are not part of it.

Alikeness is kept by everything that is done to both boards (`Alike.perform`, `Alike.step`), and
what happens meanwhile is then the same for both. `Alike.presented` is the other half: a command that
presents (`BoardCommand.Presents`) leaves a board alike to what it was. Among these commands only an
update of options looks at a task at all. It finds the task in step with the element, and so leaves it
alone, unless the widget has no task although its element shows an object (`Board.Dormant`), as after
the board was taken down.
-/

namespace StatusWall

open Json StatusWall.Geometry

variable {α : Type}

/-- Alike elements want the same object polled. -/
theorem Element.AlertsAlike.wanted?_eq {e₁ e₂ : Element α} (h : e₁.AlertsAlike e₂) :
    e₁.wanted? = e₂.wanted? := by
  unfold wanted?
  rw [h.checkOptions?_eq]

namespace Board

/-- Widgets and tasks are the same, and the documents are in what alerting sees of them. -/
structure Alike (b₁ b₂ : Board α) : Prop where
  widgets : b₁.widgets = b₂.widgets
  nextId : b₁.nextId = b₂.nextId
  fleet : b₁.fleet = b₂.fleet
  document : b₁.dashboard.AlertsAlike b₂.dashboard

namespace Alike

variable {b₁ b₂ b₃ : Board α}

theorem refl (b : Board α) : b.Alike b := ⟨rfl, rfl, rfl, .refl b.dashboard⟩

theorem symm (h : b₁.Alike b₂) : b₂.Alike b₁ :=
  ⟨h.widgets.symm, h.nextId.symm, h.fleet.symm, h.document.symm⟩

theorem trans (h : b₁.Alike b₂) (h' : b₂.Alike b₃) : b₁.Alike b₃ :=
  ⟨h.widgets.trans h'.widgets, h.nextId.trans h'.nextId, h.fleet.trans h'.fleet,
    h.document.trans h'.document⟩

/-! ## What operations are made of -/

section Pieces

variable (h : b₁.Alike b₂)

include h

/-- A widget has the same place on alike boards. -/
theorem indexOf?_eq (id : WidgetId) : b₁.indexOf? id = b₂.indexOf? id := by
  unfold indexOf?
  rw [h.widgets]

/-- Other documents that are alike in place of the old ones. -/
theorem withDocument {d₁ d₂ : Dashboard α} (hd : d₁.AlertsAlike d₂) :
    ({ b₁ with dashboard := d₁ } : Board α).Alike { b₂ with dashboard := d₂ } :=
  ⟨h.widgets, h.nextId, h.fleet, hd⟩

/-- Documents with other elements. -/
theorem withElements {es₁ es₂ : List (Element α)} (he : List.Forall₂ Element.AlertsAlike es₁ es₂) :
    ({ b₁ with dashboard := { b₁.dashboard with elements := es₁ } } : Board α).Alike
      { b₂ with dashboard := { b₂.dashboard with elements := es₂ } } :=
  h.withDocument ⟨h.document.slug, he⟩

theorem modifyWidget (i : Nat) (change : Widget → Widget) :
    (b₁.modifyWidget i change).Alike (b₂.modifyWidget i change) := by
  refine ⟨?_, h.nextId, h.fleet, h.document⟩
  unfold Board.modifyWidget
  rw [h.widgets]

theorem withFleet (change : Fleet → Fleet) : (b₁.withFleet change).Alike (b₂.withFleet change) := by
  refine ⟨h.widgets, h.nextId, ?_, h.document⟩
  unfold Board.withFleet
  rw [h.fleet]

theorem mountWidget : b₁.mountWidget.1.Alike b₂.mountWidget.1 := by
  refine ⟨?_, congrArg (· + 1) h.nextId, h.fleet, h.document⟩
  unfold Board.mountWidget
  rw [h.widgets, h.nextId]

theorem stopPolling (i : Nat) : (b₁.stopPolling i).Alike (b₂.stopPolling i) := by
  unfold Board.stopPolling
  rw [h.widgets]
  refine modifyWidget ?_ i _
  cases b₂.widgets[i]?.bind (·.poller) with
  | none => exact h
  | some handle => exact h.withFleet (·.cancel handle.id)

/-- The new task gets the same number, slug and clock on both boards. -/
theorem startPolling (i : Nat) (target : CheckTarget) (policy : SoundPolicy) :
    (b₁.startPolling i target policy).Alike (b₂.startPolling i target policy) := by
  cases hf : b₂.fleet with
  | none =>
    rw [startPolling_of_none hf, startPolling_of_none (h.fleet.trans hf)]
    exact h
  | some f =>
    cases hw : b₂.widgets[i]? with
    | none =>
      have hw₁ : b₁.widgets[i]? = none := by rw [h.widgets, hw]
      rw [startPolling_of_no_widget hw, startPolling_of_no_widget hw₁]
      exact h
    | some w =>
      have hw₁ : b₁.widgets[i]? = some w := by rw [h.widgets, hw]
      rw [startPolling_eq hf hw, startPolling_eq (h.fleet.trans hf) hw₁, h.document.slug, h.widgets]
      exact ⟨rfl, h.nextId, rfl, h.document⟩

/-- What a task is brought in line with is seen by alerting, so both boards do the same. -/
theorem syncPoller (i : Nat) : (b₁.syncPoller i).Alike (b₂.syncPoller i) := by
  unfold Board.syncPoller
  simp only [h.widgets, h.document.checkOptions?_eq i]
  split
  · exact h
  · next handle target policy _ _ =>
    split
    · exact h.withFleet (·.updatePolicy handle.id policy)
    · exact (h.stopPolling i).startPolling i target policy
  · next target policy _ _ => exact (h.stopPolling i).startPolling i target policy
  · exact h.stopPolling i

/-- Making other elements of the ones at a place, and bringing the task in line. -/
theorem modifySync (i : Nat) {change₁ change₂ : Element α → Element α}
    (hchange : ∀ e₁ e₂ : Element α, e₁.AlertsAlike e₂ → (change₁ e₁).AlertsAlike (change₂ e₂)) :
    ({ b₁ with dashboard := b₁.dashboard.modifyElement i change₁ }.syncPoller i).Alike
      ({ b₂ with dashboard := b₂.dashboard.modifyElement i change₂ }.syncPoller i) :=
  syncPoller (h.withElements (forall₂_modify h.document.elements hchange i)) i

end Pieces

/-! ## Commands that do not look at tasks -/

/-- Alerting does not see what is selected. -/
theorem of_select (b : Board α) (id : Option WidgetId) : (b.select id).Alike b := by
  obtain ⟨selected, h⟩ := b.select_eq id
  rw [h]
  exact ⟨rfl, rfl, rfl, .refl b.dashboard⟩

/-- Alerting does not see the gesture. -/
theorem of_cancelDrag (b : Board α) (id : WidgetId) : (b.cancelDragOf id).Alike b := by
  obtain ⟨drag, h⟩ := b.cancelDragOf_eq id
  rw [h]
  exact ⟨rfl, rfl, rfl, .refl b.dashboard⟩

/-- The document was edited where alerting does not look. -/
theorem of_document (b : Board α) {d : Dashboard α} (hd : d.AlertsAlike b.dashboard) :
    ({ b with dashboard := d } : Board α).Alike b :=
  ⟨rfl, rfl, rfl, hd⟩

/-- An element was edited where alerting does not look. -/
theorem of_modify (b : Board α) (i : Nat) {change : Element α → Element α}
    (hchange : ∀ e, (change e).AlertsAlike e) :
    ({ b with dashboard := b.dashboard.modifyElement i change } : Board α).Alike b := by
  refine of_document b ⟨rfl, ?_⟩
  have hmodify : List.Forall₂ Element.AlertsAlike (b.dashboard.elements.modify i change)
      (b.dashboard.elements.modify i id) :=
    forall₂_modify (Dashboard.AlertsAlike.refl b.dashboard).elements
      (fun e _ he => (hchange e).trans he) i
  rwa [List.modify_id] at hmodify

/-- Alerting does not see the title of the board. -/
theorem of_setTitle (b : Board α) (title : String) : (b.setTitle title).1.Alike b := by
  unfold Board.setTitle
  split
  · exact .refl b
  · exact of_document b ⟨rfl, (Dashboard.AlertsAlike.refl b.dashboard).elements⟩

theorem of_setBackground (b : Board α) (url : String) : (b.setBackground url).1.Alike b := by
  unfold Board.setBackground
  split
  · exact .refl b
  · exact of_document b ⟨rfl, (Dashboard.AlertsAlike.refl b.dashboard).elements⟩

theorem of_pointerDown (b : Board α) (target : PointerTarget) :
    (b.pointerDown target).1.Alike b := by
  have same : ∀ (selected : Option WidgetId) (drag : Drag),
      ({ b with selected, drag } : Board α).Alike b :=
    fun _ _ => ⟨rfl, rfl, rfl, .refl b.dashboard⟩
  unfold Board.pointerDown
  split
  · exact .refl b
  · cases target with
    | canvas => exact same _ _
    | body id =>
      simp only
      split
      · exact same _ _
      · exact of_select b (some id)
    | resizeHandle id | rotateHandle id => exact same _ _

/-- Alerting does not see where an element is placed. -/
theorem of_pointerMove [Scalar α] (b : Board α) (event : PointerEvent α) (layout : Layout α) :
    (b.pointerMove event layout).1.Alike b := by
  unfold Board.pointerMove
  cases b.drag.active with
  | none => exact .refl b
  | some active =>
    simp only
    cases b.indexOf? active.1 with
    | none => exact ⟨rfl, rfl, rfl, .refl b.dashboard⟩
    | some i =>
      simp only
      cases he : b.dashboard.elements[i]? with
      | none => exact .refl b
      | some e =>
        cases hp : b.drag.pointerMove event layout e.placement with
        | none =>
          simp only [Option.bind_some, hp, Option.map_none]
          exact .refl b
        | some p =>
          have hplace : b.dashboard.elements.modify i (fun _ => e.place p) =
              b.dashboard.elements.modify i (·.place p) := by
            rw [modify_eq_set_of_getElem? he, modify_eq_set_of_getElem? he]
          simp only [Option.bind_some, hp, Option.map_some, Dashboard.modifyElement, hplace]
          exact of_modify b i fun e => ⟨rfl, fun _ _ => rfl⟩

/-- Alerting does not see the title of an element. -/
theorem of_retitleElement (b : Board α) (id : WidgetId) (title : String) :
    (b.retitleElement id title).1.Alike b := by
  unfold Board.retitleElement
  cases b.indexOf? id with
  | none => exact .refl b
  | some i =>
    unfold Dashboard.retitleElement
    simp only
    split
    · exact of_modify b i fun e => ⟨rfl, fun _ _ => rfl⟩
    · exact .refl b

/-! ## The same command on both -/

section Commands

variable (h : b₁.Alike b₂)

include h

/-- What leaves each board alike to what it was. -/
theorem both {b₁' b₂' : Board α} (h₁ : b₁'.Alike b₁) (h₂ : b₂'.Alike b₂) : b₁'.Alike b₂' :=
  h₁.trans (h.trans h₂.symm)

omit h in
/-- Doing the same for each entry of the same list. -/
theorem foldl_alike {β : Type} {f : Board α → β → Board α}
    (hf : ∀ (x : β) (c₁ c₂ : Board α), c₁.Alike c₂ → (f c₁ x).Alike (f c₂ x)) {l m : List β}
    (hlm : l = m) (h : b₁.Alike b₂) : (l.foldl f b₁).Alike (m.foldl f b₂) := by
  subst hlm
  induction l generalizing b₁ b₂ with
  | nil => exact h
  | cons x l ih => exact ih (hf x b₁ b₂ h)

/-- The same slug is told to the same tasks. -/
theorem setSlug (slug : String) : (b₁.setSlug slug).Alike (b₂.setSlug slug) := by
  unfold Board.setSlug
  rw [h.document.slug]
  split
  · exact h
  · refine foldl_alike ?_ h.widgets (h.withDocument ⟨rfl, h.document.elements⟩)
    intro w c₁ c₂ hc
    cases w.poller with
    | none => exact hc
    | some handle => exact hc.withFleet (·.setSlug handle.id slug)

theorem unmount : b₁.unmount.Alike b₂.unmount := by
  rw [unmount_eq, unmount_eq, h.fleet, h.widgets]
  exact ⟨rfl, h.nextId, rfl, h.document⟩

theorem addElement [Scalar α] : b₁.addElement.1.Alike b₂.addElement.1 := by
  have hlen : b₁.dashboard.elements.length = b₂.dashboard.elements.length :=
    h.document.elements.length_eq
  have added : List.Forall₂ Element.AlertsAlike (b₁.dashboard.elements ++ [Element.default])
      (b₂.dashboard.elements ++ [Element.default]) :=
    List.rel_append h.document.elements (.cons (.refl _) .nil)
  have synced := ((h.withElements added).mountWidget).syncPoller b₂.dashboard.elements.length
  unfold Board.addElement Dashboard.addElement
  simp only [hlen]
  exact synced.both (of_select _ _) (of_select _ _)

/-- On alike boards the same widget goes; what it showed and whether it was selected may differ. -/
theorem deleteElement (id : WidgetId) : (b₁.deleteElement id).1.Alike (b₂.deleteElement id).1 := by
  unfold Board.deleteElement
  rw [h.indexOf?_eq]
  cases b₂.indexOf? id with
  | none => exact h
  | some i =>
    have unchosen : ∀ b : Board α,
        (if b.selected = some id then { b with selected := none } else b : Board α).Alike b := by
      intro b
      split
      · exact ⟨rfl, rfl, rfl, .refl b.dashboard⟩
      · exact .refl b
    have stopped := stopPolling
      ((h.both (of_cancelDrag b₁ id) (of_cancelDrag b₂ id)).both (unchosen _) (unchosen _)) i
    revert stopped
    simp only
    generalize Board.stopPolling _ i = s₁
    generalize Board.stopPolling _ i = s₂
    intro stopped
    have erased := forall₂_eraseIdx stopped.document.elements i
    have hi := forall₂_getElem? stopped.document.elements i
    unfold Dashboard.deleteElement
    rw [stopped.widgets]
    revert hi erased
    cases s₁.dashboard.elements[i]? with
    | none =>
      cases s₂.dashboard.elements[i]? with
      | none => exact fun _ _ => ⟨rfl, stopped.nextId, stopped.fleet, stopped.document⟩
      | some e => rintro - (_ | _)
    | some e₁ =>
      cases s₂.dashboard.elements[i]? with
      | none => rintro - (_ | _)
      | some e₂ =>
        exact fun erased _ => ⟨rfl, stopped.nextId, stopped.fleet, stopped.document.slug, erased⟩

/-- The copies are alike because what they were made of is. -/
theorem duplicateElement (id : WidgetId) :
    (b₁.duplicateElement id).1.Alike (b₂.duplicateElement id).1 := by
  unfold Board.duplicateElement Dashboard.duplicateElement
  rw [h.indexOf?_eq]
  cases b₂.indexOf? id with
  | none => exact h
  | some i =>
    have hlen : b₁.dashboard.elements.length = b₂.dashboard.elements.length :=
      h.document.elements.length_eq
    have hi := forall₂_getElem? h.document.elements i
    revert hi
    simp only [hlen]
    cases b₁.dashboard.elements[i]? with
    | none =>
      cases b₂.dashboard.elements[i]? with
      | none => exact fun _ => h
      | some e => rintro (_ | _)
    | some e₁ =>
      cases b₂.dashboard.elements[i]? with
      | none => rintro (_ | _)
      | some e₂ =>
        rintro (he | -)
        have added := List.rel_append h.document.elements (.cons he .nil)
        exact ((h.withElements added).mountWidget).syncPoller b₂.dashboard.elements.length

/-- Alike documents are equally long, so both boards move or both refuse. -/
theorem reorderElement (id : WidgetId) (destination : Nat) :
    (b₁.reorderElement id destination).1.Alike (b₂.reorderElement id destination).1 := by
  have hhas : ∀ i, b₁.dashboard.has i = b₂.dashboard.has i := by
    intro i
    unfold Dashboard.has
    rw [h.document.elements.length_eq]
  unfold Board.reorderElement Dashboard.reorderElements
  rw [h.indexOf?_eq]
  cases b₂.indexOf? id with
  | none => exact h
  | some source =>
    simp only [hhas]
    by_cases hboth : b₂.dashboard.has source = true ∧ b₂.dashboard.has destination = true
    · simp only [hboth, and_self, ↓reduceIte]
      refine ⟨?_, h.nextId, h.fleet, h.document.slug, ?_⟩
      · show Dashboard.moveEntry b₁.widgets source destination = _
        rw [h.widgets]
      · exact forall₂_moveEntry h.document.elements source destination
    · simp only [hboth, ↓reduceIte]
      exact h

/-- A new kind sets the options of both elements anew. -/
theorem changeKind [Scalar α] (id : WidgetId) (kind : ElementKind) :
    (b₁.changeKind id kind).1.Alike (b₂.changeKind id kind).1 := by
  unfold Board.changeKind
  rw [h.indexOf?_eq]
  cases b₂.indexOf? id with
  | none => exact h
  | some i =>
    have cancelled := h.both (of_cancelDrag b₁ id) (of_cancelDrag b₂ id)
    have changed : ∀ d : Dashboard α, (d.changeElementKind i kind).1 =
        d.modifyElement i fun e => e.changeKind kind := by
      intro d
      unfold Dashboard.changeElementKind
      split
      · rfl
      · next hout =>
        have hge : d.elements.length ≤ i := Nat.le_of_not_lt fun hlt => hout (decide_eq_true hlt)
        show d = { d with elements := d.elements.modify i _ }
        rw [List.modify_eq_self hge]
    simp only [changed]
    exact cancelled.modifySync i fun _ _ _ => .changeKind kind

/-- An edit of the options, where each entry of the new ones depends on the old entry under its key
alone. -/
theorem changeOptions (i : Nat) {change : Fields → Fields}
    (hchange : ∀ (options₁ options₂ : Fields) (key : String),
      options₁.get? key = options₂.get? key →
      (change options₁).get? key = (change options₂).get? key) :
    (b₁.changeOptions i change).Alike (b₂.changeOptions i change) :=
  h.modifySync i fun e₁ e₂ he => he.withOptions (hchange e₁.options e₂.options)

theorem updateOptions (id : WidgetId) (update : Fields) :
    (b₁.updateOptions id update).1.Alike (b₂.updateOptions id update).1 := by
  unfold Board.updateOptions
  rw [h.indexOf?_eq]
  cases b₂.indexOf? id with
  | none => exact h
  | some i => exact h.changeOptions i fun _ _ _ hkey => Fields.get?_merge_congr hkey update

/-- Both elements are checks or none is. -/
theorem setTarget (id : WidgetId) (target : Option CheckTarget) :
    (b₁.setTarget id target).1.Alike (b₂.setTarget id target).1 := by
  unfold Board.setTarget
  rw [h.indexOf?_eq]
  cases b₂.indexOf? id with
  | none => exact h
  | some i =>
    simp only [h.document.checkOptions?_eq i]
    cases b₂.dashboard.elements[i]?.bind Element.checkOptions? with
    | none => exact h
    | some check =>
      exact h.changeOptions i fun _ _ _ hkey => Element.get?_boundOptions_congr hkey check target

theorem setSoundOverride (id : WidgetId) (state : CheckState) (url : String) :
    (b₁.setSoundOverride id state url).1.Alike (b₂.setSoundOverride id state url).1 := by
  have hcheck : (b₁.element? id).bind Element.checkOptions? =
      (b₂.element? id).bind Element.checkOptions? := by
    unfold element?
    rw [h.indexOf?_eq]
    cases b₂.indexOf? id with
    | none => rfl
    | some i => exact h.document.checkOptions?_eq i
  unfold Board.setSoundOverride
  rw [hcheck]
  cases (b₂.element? id).bind Element.checkOptions? with
  | none => exact h
  | some _ => exact h.updateOptions id _

/-- **Everything that is done to both keeps boards alike.** -/
theorem perform [Scalar α] (c : BoardCommand α) : (b₁.perform c).1.Alike (b₂.perform c).1 := by
  cases c with
  | setTitle title => exact h.both (of_setTitle b₁ title) (of_setTitle b₂ title)
  | setBackground url => exact h.both (of_setBackground b₁ url) (of_setBackground b₂ url)
  | setSlug slug => exact h.setSlug slug
  | setGlobalMute muted =>
    exact h.withDocument ⟨h.document.slug, h.document.elements⟩
  | select id => exact h.both (of_select b₁ id) (of_select b₂ id)
  | pointerDown target => exact h.both (of_pointerDown b₁ target) (of_pointerDown b₂ target)
  | pointerMove event layout =>
    exact h.both (of_pointerMove b₁ event layout) (of_pointerMove b₂ event layout)
  | pointerUp => exact ⟨h.widgets, h.nextId, h.fleet, h.document⟩
  | addElement => exact h.addElement
  | deleteElement id => exact h.deleteElement id
  | duplicateElement id => exact h.duplicateElement id
  | reorderElement id destination => exact h.reorderElement id destination
  | retitleElement id title =>
    exact h.both (of_retitleElement b₁ id title) (of_retitleElement b₂ id title)
  | changeKind id kind => exact h.changeKind id kind
  | updateOptions id update => exact h.updateOptions id update
  | setTarget id target => exact h.setTarget id target
  | setSoundOverride id state url => exact h.setSoundOverride id state url
  | applyUpload target url =>
    cases target with
    | background => exact h.both (of_setBackground b₁ url) (of_setBackground b₂ url)
    | sound id state => exact h.setSoundOverride id state url
  | unmount => exact h.unmount

end Commands

end Alike

end Board

/-! ## Presentation -/

/-- A command that is about what the board looks like: it writes none of the entries that the typed
view of a check is made of. -/
def BoardCommand.Presents : BoardCommand α → Prop
  | .setTitle _ | .setBackground _ | .setGlobalMute _ | .select _ | .pointerDown _
  | .pointerMove _ _ | .pointerUp | .retitleElement _ _ | .applyUpload .background _ => True
  | .updateOptions _ update => ∀ f ∈ update, f.1 ∉ CheckOptions.keys
  | _ => False

/-- The board polls, and the element of a widget shows an object, but the widget has no task. -/
def Board.Dormant (b : Board α) (id : WidgetId) : Prop :=
  b.fleet ≠ none ∧ ∃ w e, (w, e) ∈ b.entries ∧ w.id = id ∧ e.wanted? ≠ none ∧ w.poller = none

/-- A command that brings the task of a widget in line that has none but should. -/
def BoardCommand.Wakes (b : Board α) : BoardCommand α → Prop
  | .updateOptions id _ => b.Dormant id
  | _ => False

/-- Telling a task the policy it has. -/
theorem Fleet.updatePolicy_eq_self {f : Fleet} (hf : f.Numbered) {id : PollerId} {t : PollTask}
    (ht : f.task? id = some t) : f.updatePolicy id t.policy = f := by
  have same : ∀ u ∈ f.tasks, (if u.id = id then { u with policy := t.policy } else u) = u := by
    intro u hu
    split
    · next hid =>
      have found := hf.task?_of_mem hu
      rw [hid, ht] at found
      cases found
      rfl
    · rfl
  unfold updatePolicy modifyTask
  rw [List.map_congr_left same, List.map_id']

namespace Board

/-- Bringing a task in line with an element that shows what the task is in line with. -/
theorem Resync.unchanged {b : Board α} (hb : b.InStep) {slug : String} {w w' : Widget}
    {e e' : Element α} {after : Option Fleet} (he : (w, e) ∈ b.entries)
    (hshows : e'.wanted? = e.wanted?) (hawake : ¬ b.Dormant w.id)
    (sync : Resync b.fleet slug w e' after w') : after = b.fleet ∧ w' = w := by
  cases sync with
  | @kept h policy hp hwant =>
    obtain ⟨t, ht, hserved⟩ := hb.served w e he h hp
    have hwanted := (hwant.symm.trans hshows).trans hserved
    obtain rfl : policy = t.policy := congrArg Prod.snd (Option.some.inj hwanted)
    obtain ⟨f, hf, hft⟩ := Option.bind_eq_some_iff.mp ht.found
    refine ⟨?_, rfl⟩
    rw [hf, Option.map_some, Fleet.updatePolicy_eq_self (hb.numbered f hf) hft]
  | stopped hnone =>
    have hp : w.poller = none := by
      cases hp : w.poller with
      | none => rfl
      | some h =>
        obtain ⟨t, ht, hserved⟩ := hb.served w e he h hp
        rcases hnone with hnone | hnone
        · cases hnone.symm.trans (hshows.trans hserved)
        · have found := ht.found
          rw [hnone] at found
          cases found
    refine ⟨?_, ?_⟩
    · rw [hp, Fleet.map_release_none]
    · unfold Widget.idled
      rw [← hp, ← hb.idle w (mem_widgets_of_mem_entries he) hp]
  | @started f target policy hf hwant hne =>
    cases hp : w.poller with
    | none =>
      refine absurd ⟨?_, w, e, he, rfl, ?_, hp⟩ hawake
      · rw [hf]
        exact Option.some_ne_none f
      · rw [← hshows, hwant]
        exact Option.some_ne_none _
    | some h =>
      obtain ⟨t, -, hserved⟩ := hb.served w e he h hp
      have hwanted := (hserved.symm.trans hshows.symm).trans hwant
      exact absurd (congrArg Prod.fst (Option.some.inj hwanted)) (hne h hp)

namespace Alike

/-- Updating other options of a widget that has the task it should have. -/
theorem of_updateOptions {b : Board α} (hb : b.InStep) {id : WidgetId} {update : Fields}
    (hother : ∀ f ∈ update, f.1 ∉ CheckOptions.keys) (hawake : ¬ b.Dormant id) :
    (b.updateOptions id update).1.Alike b := by
  unfold Board.updateOptions
  cases hi : b.indexOf? id with
  | none => exact .refl b
  | some i =>
    obtain ⟨w, hw, rfl⟩ := widget_of_indexOf? hi
    obtain ⟨e, he⟩ := hb.aligned.exists_element hw
    have he' : (b.dashboard.modifyElement i (·.updateOptions update)).elements[i]? =
        some (e.updateOptions update) := by
      show (b.dashboard.elements.modify i _)[i]? = _
      rw [List.getElem?_modify_eq, he]
      rfl
    have hw' : ({ b with dashboard := b.dashboard.modifyElement i (·.updateOptions update) } :
        Board α).widgets[i]? = some w := hw
    obtain ⟨fleet, w', sync, heq⟩ := syncPoller_eq hw' he' (hb.idle w (List.mem_of_getElem? hw))
    obtain ⟨hfleet, rfl⟩ := sync.unchanged hb (mem_entries_iff_getElem?.mpr ⟨i, hw, he⟩)
      (Element.AlertsAlike.updateOptions_other e hother).wanted?_eq hawake
    have hset : b.widgets.set i w' = b.widgets := by
      obtain ⟨hlt, rfl⟩ := List.getElem?_eq_some_iff.mp hw
      exact List.set_getElem_self hlt
    have edited := of_modify b i fun e => Element.AlertsAlike.updateOptions_other e hother
    refine (congrArg (Alike · b) heq).mpr ?_
    exact ⟨hset, rfl, hfleet, edited.document⟩

/-- **Presentation leaves a board alike to what it was.** -/
theorem presented [Scalar α] {b : Board α} (hb : b.InStep) {c : BoardCommand α} (hc : c.Presents)
    (hawake : ¬ c.Wakes b) : (b.perform c).1.Alike b := by
  cases c with
  | setTitle title => exact of_setTitle b title
  | setBackground url => exact of_setBackground b url
  | setGlobalMute muted =>
    exact of_document b ⟨rfl, (Dashboard.AlertsAlike.refl b.dashboard).elements⟩
  | select id => exact of_select b id
  | pointerDown target => exact of_pointerDown b target
  | pointerMove event layout => exact of_pointerMove b event layout
  | pointerUp => exact ⟨rfl, rfl, rfl, .refl b.dashboard⟩
  | retitleElement id title => exact of_retitleElement b id title
  | updateOptions id update => exact of_updateOptions hb hc hawake
  | applyUpload target url =>
    cases target with
    | background => exact of_setBackground b url
    | sound id state => exact hc.elim
  | setSlug _ | addElement | deleteElement _ | duplicateElement _ | reorderElement _ _
  | changeKind _ _ | setTarget _ _ | setSoundOverride _ _ _ | unmount => exact hc.elim

end Alike

end Board

end StatusWall
