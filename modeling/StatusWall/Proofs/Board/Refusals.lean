import StatusWall.Proofs.Board.Refinement

/-!
# Refusals

A command that cannot do what it says answers so (`BoardAnswer.Refuses`), and a report of a task that
no widget holds any more is stale (`Board.Stale`). Neither leaves a trace: the whole board is what it was,
tasks included (`Board.WellFormed.atomic`). The commands decide before they change anything, and the one
branch that changes the board and still answers nothing, a gesture on a widget that is gone, is not met
on a well-formed board.

A number that was given out and is not in use stays out of use, since new widgets only get new numbers.
So nothing is ever found again under the number of a widget that was deleted, and whatever is meant for
it is refused (`Board.Gone`): an upload or a report that comes late reaches no other widget.
-/

namespace StatusWall

open Json StatusWall.Geometry

variable {α : Type}

/-- The answer of a command that did not do what it says. -/
def BoardAnswer.Refuses : BoardAnswer α → Prop
  | .done ok => ok = false
  | .widget id => id = none
  | .element e => e = none
  | .nothing | .gesture _ => False

namespace Board

/-- No widget holds the task that the report comes from. -/
def Stale (b : Board α) (event : PollEvent) : Prop :=
  ∀ w ∈ b.widgets, ∀ h, w.poller = some h → w.id = event.widget → h.id ≠ event.poller

/-- What is refused changes nothing. -/
structure Atomic [Scalar α] (b : Board α) : Prop where
  command : ∀ c, (b.perform c).2.Refuses → (b.perform c).1 = b
  report : ∀ event, b.Stale event → b.applyEvent event = (b, none)

/-- Nothing is left under a number, and nothing that is meant for it is carried out. -/
structure Gone [Scalar α] (b : Board α) (id : WidgetId) : Prop where
  unmounted : id ∉ b.widgetIds
  element : b.element? id = none
  status : b.status? id = none
  selected : b.selected ≠ some id
  gesture : ∀ gesture, b.drag.active ≠ some (id, gesture)
  command : ∀ c : BoardCommand α, c.addressee? b.drag = some id →
    (b.perform c).2.Refuses ∧ (b.perform c).1 = b
  press : ∀ target gesture, target.gesture? = some (id, gesture) → (b.pointerDown target).2 = none
  report : ∀ event, event.widget = id → b.applyEvent event = (b, none)

/-! ## What is refused changes nothing -/

/-- A report of a task that no widget holds is dropped. -/
theorem Stale.applyEvent {b : Board α} {event : PollEvent} (h : b.Stale event) :
    b.applyEvent event = (b, none) := by
  rcases b.applyEvent_cases event with ⟨-, heq⟩ | ⟨i, w, handle, hw, hid, hp, hpoller, -⟩
  · exact heq
  · exact absurd hpoller (h w (List.mem_of_getElem? hw) handle hp hid)

section Refused

variable {b : Board α}

theorem setTitle_of_refused {title : String} (h : (b.setTitle title).2 = false) :
    (b.setTitle title).1 = b := by
  unfold setTitle at h ⊢
  split at h
  · simp only [*, if_true]
  · cases h

theorem setBackground_of_refused {url : String} (h : (b.setBackground url).2 = false) :
    (b.setBackground url).1 = b := by
  unfold setBackground at h ⊢
  split at h
  · simp only [*, if_true]
  · cases h

theorem pointerUp_of_refused (h : b.pointerUp.2 = none) : b.pointerUp.1 = b := by
  have idle : b.drag.active = none := Option.map_eq_none_iff.mp h
  obtain ⟨_, _, _, _, ⟨active⟩, _⟩ := b
  subst idle
  rfl

theorem reorderElement_of_refused {id : WidgetId} {destination : Nat}
    (h : (b.reorderElement id destination).2 = false) : (b.reorderElement id destination).1 = b := by
  unfold reorderElement Dashboard.reorderElements at h ⊢
  cases hi : b.indexOf? id with
  | none => rfl
  | some i =>
    by_cases inside : b.dashboard.has i ∧ b.dashboard.has destination
    · simp only [hi, if_pos inside] at h
      cases h
    · simp only [if_neg inside]

theorem retitleElement_of_refused {id : WidgetId} {title : String}
    (h : (b.retitleElement id title).2 = false) : (b.retitleElement id title).1 = b := by
  unfold retitleElement Dashboard.retitleElement at h ⊢
  cases hi : b.indexOf? id with
  | none => rfl
  | some i =>
    by_cases inside : b.dashboard.has i
    · simp only [hi, if_pos inside] at h
      cases h
    · simp only [if_neg inside]

theorem changeKind_of_refused [Scalar α] {id : WidgetId} {kind : ElementKind}
    (h : (b.changeKind id kind).2 = false) : (b.changeKind id kind).1 = b := by
  unfold changeKind at h ⊢
  cases hi : b.indexOf? id with
  | none => rfl
  | some i =>
    rw [hi] at h
    cases h

theorem updateOptions_of_refused {id : WidgetId} {update : Fields}
    (h : (b.updateOptions id update).2 = false) : (b.updateOptions id update).1 = b := by
  unfold updateOptions at h ⊢
  cases hi : b.indexOf? id with
  | none => rfl
  | some i =>
    rw [hi] at h
    cases h

theorem setTarget_of_refused {id : WidgetId} {target : Option CheckTarget}
    (h : (b.setTarget id target).2 = false) : (b.setTarget id target).1 = b := by
  unfold setTarget at h ⊢
  cases hi : b.indexOf? id with
  | none => rfl
  | some i =>
    simp only [hi] at h ⊢
    cases hcheck : b.dashboard.elements[i]?.bind Element.checkOptions? with
    | none => rfl
    | some check =>
      rw [hcheck] at h
      cases h

theorem setSoundOverride_of_refused {id : WidgetId} {state : CheckState} {url : String}
    (h : (b.setSoundOverride id state url).2 = false) : (b.setSoundOverride id state url).1 = b := by
  unfold setSoundOverride at h ⊢
  cases hcheck : (b.element? id).bind Element.checkOptions? with
  | none => rfl
  | some check =>
    rw [hcheck] at h
    exact updateOptions_of_refused h

/-! The remaining commands go to a place of the document. Where a number has a place, an element is
there, so that they are refused only for a number without one. -/

variable (aligned : b.Aligned)

include aligned

theorem deleteElement_of_refused {id : WidgetId} (h : (b.deleteElement id).2 = none) :
    (b.deleteElement id).1 = b := by
  cases hi : b.indexOf? id with
  | none =>
    unfold deleteElement
    rw [hi]
  | some i =>
    obtain ⟨e, he, -⟩ := rows_of_indexOf? aligned hi
    rw [deleteElement_eq hi] at h
    simp only [Dashboard.deleteElement, he] at h
    cases h

theorem duplicateElement_of_refused {id : WidgetId} (h : (b.duplicateElement id).2 = none) :
    (b.duplicateElement id).1 = b := by
  unfold duplicateElement Dashboard.duplicateElement at h ⊢
  cases hi : b.indexOf? id with
  | none => rfl
  | some i =>
    obtain ⟨e, he, -⟩ := rows_of_indexOf? aligned hi
    simp only [hi, he] at h
    cases h

end Refused

namespace WellFormed

variable [Scalar α] {b : Board α} (hb : b.WellFormed)

include hb

/-- A movement of the pointer does nothing only if no gesture runs. -/
theorem pointerMove_of_refused {event : PointerEvent α} {layout : Layout α}
    (h : (b.pointerMove event layout).2 = none) : (b.pointerMove event layout).1 = b := by
  unfold pointerMove at h ⊢
  cases hactive : b.drag.active with
  | none => rfl
  | some active =>
    obtain ⟨id, gesture⟩ := active
    obtain ⟨i, hi⟩ : ∃ i, b.indexOf? id = some i := by
      apply Option.ne_none_iff_exists'.mp
      intro absent
      exact indexOf?_eq_none_iff.mp absent (hb.gesture id gesture hactive).1
    obtain ⟨e, he, -⟩ := rows_of_indexOf? hb.aligned hi
    simp only [hactive, hi, he, Drag.pointerMove, Option.map_some, Option.bind_some] at h
    cases h

/-- **What is refused changes nothing.** -/
theorem atomic : b.Atomic where
  report _ stale := stale.applyEvent
  command c h := by
    have aligned : b.Aligned := hb.aligned
    cases c with
    | setTitle title => exact setTitle_of_refused h
    | setBackground url => exact setBackground_of_refused h
    | pointerMove event layout => exact hb.pointerMove_of_refused h
    | pointerUp => exact pointerUp_of_refused h
    | deleteElement id => exact deleteElement_of_refused aligned h
    | duplicateElement id => exact duplicateElement_of_refused aligned h
    | reorderElement id destination => exact reorderElement_of_refused h
    | retitleElement id title => exact retitleElement_of_refused h
    | changeKind id kind => exact changeKind_of_refused h
    | updateOptions id update => exact updateOptions_of_refused h
    | setTarget id target => exact setTarget_of_refused h
    | setSoundOverride id state url => exact setSoundOverride_of_refused h
    | applyUpload target url =>
      cases target with
      | background => exact setBackground_of_refused h
      | sound widget state => exact setSoundOverride_of_refused h
    | addElement => cases h
    | setSlug _ | setGlobalMute _ | select _ | pointerDown _ | unmount => exact h.elim

/-! ## What is meant for a number that is not in use -/

variable {id : WidgetId}

/-- What is meant for a number that is not in use is refused. -/
theorem refuses_of_unmounted (unmounted : id ∉ b.widgetIds) {c : BoardCommand α}
    (h : c.addressee? b.drag = some id) : (b.perform c).2.Refuses := by
  have absent : b.indexOf? id = none := indexOf?_eq_none_iff.mpr unmounted
  have nothing : b.element? id = none := by
    unfold element?
    rw [absent, Option.bind_none]
  have silent (state : CheckState) (url : String) : (b.setSoundOverride id state url).2 = false := by
    simp only [setSoundOverride, nothing, Option.bind_none]
  cases c with
  | deleteElement x =>
    obtain rfl : x = id := Option.some.inj h
    show (b.deleteElement _).2 = none
    simp only [deleteElement, absent]
  | duplicateElement x =>
    obtain rfl : x = id := Option.some.inj h
    show (b.duplicateElement _).2 = none
    simp only [duplicateElement, absent]
  | reorderElement x destination =>
    obtain rfl : x = id := Option.some.inj h
    show (b.reorderElement _ destination).2 = false
    simp only [reorderElement, absent]
  | retitleElement x title =>
    obtain rfl : x = id := Option.some.inj h
    show (b.retitleElement _ title).2 = false
    simp only [retitleElement, absent]
  | changeKind x kind =>
    obtain rfl : x = id := Option.some.inj h
    show (b.changeKind _ kind).2 = false
    simp only [changeKind, absent]
  | updateOptions x update =>
    obtain rfl : x = id := Option.some.inj h
    show (b.updateOptions _ update).2 = false
    simp only [updateOptions, absent]
  | setTarget x target =>
    obtain rfl : x = id := Option.some.inj h
    show (b.setTarget _ target).2 = false
    simp only [setTarget, absent]
  | setSoundOverride x state url =>
    obtain rfl : x = id := Option.some.inj h
    exact silent state url
  | applyUpload target url =>
    cases target with
    | background => cases h
    | sound widget state =>
      obtain rfl : widget = id := Option.some.inj h
      exact silent state url
  | pointerMove event layout =>
    -- A gesture is on a widget that is there.
    obtain ⟨_, hedit, rfl⟩ := Option.map_eq_some_iff.mp h
    obtain ⟨⟨x, gesture⟩, hactive, rfl⟩ := Option.map_eq_some_iff.mp hedit
    exact absurd (hb.gesture x gesture hactive).1 unmounted
  | _ => cases h

theorem gone_of_unmounted (unmounted : id ∉ b.widgetIds) : b.Gone id := by
  have absent : b.indexOf? id = none := indexOf?_eq_none_iff.mpr unmounted
  have unselected : b.selected ≠ some id := fun h => unmounted (hb.selected id h)
  refine ⟨unmounted, ?_, ?_, unselected, ?_, ?_, ?_, ?_⟩
  · unfold element?
    rw [absent, Option.bind_none]
  · unfold status? widget?
    rw [absent, Option.bind_none, Option.bind_none]
  · intro gesture hactive
    exact unmounted (hb.gesture id gesture hactive).1
  · intro c h
    have refused := hb.refuses_of_unmounted unmounted h
    exact ⟨refused, hb.atomic.command c refused⟩
  · intro target gesture htarget
    have ignored : (b.drag.pointerDown target b.selected).2 = none := by
      unfold Drag.pointerDown
      rw [htarget]
      cases b.drag.active with
      | none => simp only [if_neg unselected]
      | some _ => rfl
    unfold pointerDown
    split
    · rfl
    · cases target with
      | canvas => rfl
      | body x =>
        simp only
        split
        · exact ignored
        · rfl
      | resizeHandle _ | rotateHandle _ => exact ignored
  · rintro event rfl
    apply Stale.applyEvent
    intro w hw _ _ hid
    exact absurd (hid ▸ List.mem_map_of_mem hw) unmounted

end WellFormed

/-- Nothing is found exactly under the numbers that are not in use. -/
theorem Aligned.element?_eq_none_iff {b : Board α} (aligned : b.Aligned) {id : WidgetId} :
    b.element? id = none ↔ id ∉ b.widgetIds := by
  rw [← indexOf?_eq_none_iff]
  unfold element?
  cases hi : b.indexOf? id with
  | none => simp only [Option.bind_none]
  | some i =>
    obtain ⟨e, he, -⟩ := rows_of_indexOf? aligned hi
    simp only [Option.bind_some, he, reduceCtorEq]

/-- Deleting a widget takes away what was under its number, and the number is not given out again. -/
theorem InStep.element?_deleteElement [Scalar α] {b : Board α} (hb : b.InStep) {id : WidgetId}
    (deleted : (b.deleteElement id).2 ≠ none) :
    id.number < (b.perform (.deleteElement id)).1.nextId ∧
      (b.perform (.deleteElement id)).1.element? id = none := by
  obtain ⟨i, hi⟩ : ∃ i, b.indexOf? id = some i := by
    apply Option.ne_none_iff_exists'.mp
    intro absent
    apply deleted
    simp only [deleteElement, absent]
  obtain ⟨w, hw, rfl⟩ := widget_of_indexOf? hi
  have given : w.id.number < b.nextId := hb.fresh w (List.mem_of_getElem? hw)
  rw [(perform_becomes hb.aligned _).nextId, hb.element?_perform _ given]
  constructor
  · omega
  · cases b.element? w.id with
    | none => rfl
    | some e => exact if_pos rfl

end Board

/-! ## Over whole runs -/

variable [Scalar α] {id : WidgetId}

namespace BoardRun

/-- Nothing is found any more under the number of a widget that was deleted. -/
theorem Sound.element?_of_deleted {r : BoardRun α} (hr : r.Sound)
    (deleted : (r.board.deleteElement id).2 ≠ none) (source : Source)
    (ss : List (Source × RunStep α)) :
    (r.steps ((source, .command (.deleteElement id)) :: ss)).board.element? id = none := by
  obtain ⟨given, nothing⟩ := hr.inStep.element?_deleteElement deleted
  show ((r.step source (.command (.deleteElement id))).1.steps ss).board.element? id = none
  rw [element?_steps (hr.step _ _) ss given]
  show ((r.board.perform (.deleteElement id)).1.element? id).bind _ = none
  rw [nothing, Option.bind_none]

theorem wellFormed_steps (d : Dashboard α) (polling : Option PollConfig)
    (ss : List (Source × RunStep α)) :
    (steps { board := (Chronicle.start d polling).board } ss).board.WellFormed := by
  obtain ⟨ms, hcovers, -⟩ := Chronicle.covers_run d polling ss
  rw [← hcovers.board]
  exact Chronicle.wellFormed_run d polling ms

end BoardRun

namespace Chronicle

/-- Nothing is found any more under the number of a widget that was deleted. -/
theorem Sound.element?_of_deleted {c : Chronicle α} (hc : c.Sound)
    (deleted : (c.board.deleteElement id).2 ≠ none) (ms : List (Moment α)) :
    (c.run (.command (.deleteElement id) :: ms)).board.element? id = none := by
  obtain ⟨given, nothing⟩ := hc.inStep.element?_deleteElement deleted
  rw [run_cons, element?_run (hc.step _) ms given]
  show ((c.board.perform (.deleteElement id)).1.element? id).bind _ = none
  rw [nothing, Option.bind_none]

/-- **What is refused changes nothing, and what was deleted is gone.** On every board that can come
about, a command that is refused and a report that is stale leave the whole board as it was. Once a
widget was deleted, its number denotes no widget in any later state, whatever happens until then: nothing
is found under it, no press and no report reaches it, and every command that names it is refused. -/
theorem refusals_leave_no_trace (d : Dashboard α) (polling : Option PollConfig)
    (ms ms' : List (Moment α)) (source : Source) (ss ss' : List (Source × RunStep α)) :
    let c := (start d polling).run ms
    let r := BoardRun.steps { board := (start d polling).board } ss
    (c.board.Atomic ∧ r.board.Atomic) ∧
    (∀ id, (c.board.deleteElement id).2 ≠ none →
      (c.run (.command (.deleteElement id) :: ms')).board.Gone id) ∧
    ∀ id, (r.board.deleteElement id).2 ≠ none →
      (r.steps ((source, .command (.deleteElement id)) :: ss')).board.Gone id := by
  intro c r
  have hc : c.Sound := (Sound.start d polling).run ms
  have hr : r.Sound := BoardRun.sound_steps d polling ss
  refine ⟨⟨(wellFormed_run d polling ms).atomic, (BoardRun.wellFormed_steps d polling ss).atomic⟩,
    fun id deleted => ?_, fun id deleted => ?_⟩
  · have formed := wellFormed_run d polling (ms ++ .command (.deleteElement id) :: ms')
    rw [run_append] at formed
    apply formed.gone_of_unmounted
    exact (Board.Aligned.element?_eq_none_iff formed.aligned).mp (hc.element?_of_deleted deleted ms')
  · have formed := BoardRun.wellFormed_steps d polling
      (ss ++ (source, .command (.deleteElement id)) :: ss')
    rw [BoardRun.steps, List.foldl_append] at formed
    apply formed.gone_of_unmounted
    exact (Board.Aligned.element?_eq_none_iff formed.aligned).mp
      (hr.element?_of_deleted deleted source ss')

/-- A source that nobody asks. -/
def sampleSource : Source :=
  { objectState := fun _ _ => { delay := 0, outcome := .error (.timeout 10) }
    alertConfig := fun _ _ => { delay := 0, outcome := .ok {} } }

/-- On the sample, a title for a widget that is not there is refused and a report of another task is
stale. Once its check is deleted and an element is added, an upload for the check is refused and a report
of its task is dropped; neither reaches the new widget. -/
theorem deleted_sample_is_gone :
    let c := start sampleDashboard (some sampleConfig)
    let r : BoardRun Float := { board := c.board }
    let late : PollEvent := { widget := ⟨0⟩, poller := ⟨0⟩, outcome := .state .critical false }
    let after := [Moment.command (.deleteElement ⟨0⟩), .command .addElement]
    (c.board.perform (.retitleElement ⟨7⟩ "Other")).1 = c.board ∧
    c.board.applyEvent { late with poller := ⟨3⟩ } = (c.board, none) ∧
    (c.board.deleteElement ⟨0⟩).2 ≠ none ∧
    (c.run after).board.widgetIds = [⟨1⟩] ∧
    (c.run after).board.Gone ⟨0⟩ ∧
    (r.steps [(sampleSource, .command (.deleteElement ⟨0⟩)),
      (sampleSource, .command .addElement)]).board.Gone ⟨0⟩ := by
  intro c r late after
  have deleted : (c.board.deleteElement ⟨0⟩).2 ≠ none := nofun
  obtain ⟨⟨atomic, -⟩, gone, gone'⟩ := refusals_leave_no_trace sampleDashboard (some sampleConfig) []
    [.command .addElement] sampleSource [] [(sampleSource, .command .addElement)]
  refine ⟨atomic.command _ rfl, atomic.report _ ?_, deleted, rfl, gone _ deleted, gone' _ deleted⟩
  intro w hw h hp _
  cases List.mem_singleton.mp hw
  cases hp
  decide

end Chronicle

end StatusWall
