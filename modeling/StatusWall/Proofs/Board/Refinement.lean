import StatusWall.Proofs.Board.Places
import StatusWall.Proofs.Board.Restart

/-!
# Boards refine registers

To whoever uses it, a board is an ordered map from numbers to elements, each with a task and a
state. `Board.ActsAsRegister` spells it out: a command makes of the document what the operation at
the widget's place makes of it, of the register what the operation under the widget's number makes
of it, and every other widget keeps its element, its task and its state.

From this the history of a number follows, over any run (`element?_run`): what is found under a
number is the element that was loaded or created under it, with the edits that were meant for it and
no others, until it is deleted.
-/

namespace StatusWall

open StatusWall.Geometry

variable {α : Type} [Scalar α]

namespace Board

/-! ## The others -/

/-- The edit of a command is on the widget it touches. -/
theorem touches_of_edits {c : BoardCommand α} {w : Widget} {e e' : Element α}
    (h : c.Edits w e e') (drag : Drag) : c.Touches drag w.id := by
  unfold BoardCommand.Edits at h
  split at h
  · obtain ⟨rfl, -⟩ := h
    exact .inr ⟨_, rfl⟩
  · obtain ⟨rfl, -⟩ := h
    exact .inr ⟨_, rfl⟩
  · obtain ⟨rfl, -⟩ := h
    exact .inr ⟨_, rfl⟩
  · obtain ⟨rfl, -⟩ := h
    exact .inr ⟨_, rfl⟩
  · obtain ⟨rfl, -⟩ := h
    exact .inr ⟨_, rfl⟩
  · exact h.elim

theorem InStep.perform {b : Board α} (hb : b.InStep) (c : BoardCommand α) :
    (b.perform c).1.InStep := by
  by_cases hc : c = .unmount
  · subst hc
    have told := b.unmount_told
    show b.unmount.InStep
    rw [unmount_eq] at told ⊢
    exact hb.idled rfl rfl rfl (numbered_of_told told hb.numbered)
  · exact (perform_change hb.aligned hb.idle hc).inStep hb

/-- What two boards have in common where a widget is concerned: its element, its task and its state,
and what the task stands at as long as the document has the same slug. -/
structure Spares (b b' : Board α) (id : WidgetId) : Prop where
  element : b'.element? id = b.element? id
  widget : b'.widget? id = b.widget? id
  task : b'.dashboard.slug = b.dashboard.slug → ∀ w h, b.widget? id = some w →
    w.poller = some h → b'.task? h.id = b.task? h.id

section

variable {b : Board α} (hb : b.InStep) (c : BoardCommand α)

include hb

/-- What is found under a number after a command. -/
theorem InStep.element?_perform {id : WidgetId} (hid : id.number < b.nextId) :
    (b.perform c).1.element? id = (b.element? id).bind (c.becomes b.drag id) := by
  rw [← (hb.perform c).find?_register, hb.register_perform,
    Register.find?_apply hb.register_valid b.drag c hid, hb.find?_register]

/-- **The others notice nothing.** A widget that a command does not touch keeps its element, its
task and its state. -/
theorem InStep.spares (hc : c ≠ .unmount) {id : WidgetId} (hid : id ∈ b.widgetIds)
    (huntouched : ¬ c.Touches b.drag id) : b.Spares (b.perform c).1 id := by
  have change := perform_change hb.aligned hb.idle hc
  obtain ⟨w, hw, rfl⟩ := List.mem_map.mp hid
  obtain ⟨e, he⟩ := hb.aligned.exists_entry hw
  obtain ⟨hwidget, helement⟩ := (mem_entries_iff hb.nodup).mp he
  have helement' : (b.perform c).1.element? w.id = some e := by
    rw [hb.element?_perform c (hb.fresh w hw), BoardCommand.becomes_of_not_touches huntouched,
      Option.bind_fun_some, helement]
  obtain ⟨i, hi, hei⟩ := Option.bind_eq_some_iff.mp helement'
  obtain ⟨w', hwi, hid'⟩ := widget_of_indexOf? hi
  have he' : (w', e) ∈ (b.perform c).1.entries := mem_entries_iff_getElem?.mpr ⟨i, hwi, hei⟩
  have hwidget' := ((mem_entries_iff (hb.perform c).nodup).mp he').1
  rw [hid'] at hwidget'
  cases change.carried hb he he' hid' with
  | kept hsame _ tasks =>
    subst hsame
    refine ⟨helement'.trans helement.symm, hwidget'.trans hwidget.symm, ?_⟩
    intro hslug v h hv hp
    cases hwidget.symm.trans hv
    obtain ⟨t, ht, -⟩ := hb.served _ e he h hp
    have hold : b.task? h.id = some t := ht.found
    rw [tasks h t hp hold, hslug, hold, ← ht.slug]
  | resynced hedit _ _ => exact absurd (touches_of_edits hedit b.drag) huntouched

/-- A widget that was not there is under the next number, with a task of its own and no state. -/
theorem InStep.newcomer {w' : Widget} (hw' : w' ∈ (b.perform c).1.widgets)
    (hnew : w'.id ∉ b.widgetIds) :
    w'.id = ⟨b.nextId⟩ ∧ w'.status = none ∧
      ∀ h, w'.poller = some h → b.task? h.id = none := by
  by_cases hc : c = .unmount
  · subst hc
    have hids : (b.perform .unmount).1.widgetIds = b.widgetIds :=
      (perform_becomes hb.aligned .unmount).widgetIds
    exact absurd (hids ▸ List.mem_map_of_mem hw') hnew
  · have change := perform_change hb.aligned hb.idle hc
    obtain ⟨e', he'⟩ := (hb.perform c).aligned.exists_entry hw'
    rcases change.entry hb he' with ⟨w, e, he, carried⟩ | ⟨-, -, sync⟩
    · refine absurd ?_ hnew
      rw [carried.id]
      exact List.mem_map_of_mem (mem_widgets_of_mem_entries he)
    · refine ⟨sync.id, ?_, fun h hh => ?_⟩
      · rcases sync.same_or_blank with rfl | hblank
        · rfl
        · exact hblank
      · rcases sync.held_or_new hb.numbered hh with hp | hnone
        · cases hp
        · exact hnone

end

/-- **A board acts as an ordered map** from numbers to elements, each with a task and a state. -/
structure ActsAsRegister (b : Board α) : Prop where
  /-- The numbers are all different, and were all given out. -/
  valid : b.register.Valid
  find? (id : WidgetId) : b.register.find? id = b.element? id
  /-- A command edits the document at the place of the widget it names. -/
  document (c : BoardCommand α) :
    (b.perform c).1.dashboard =
      c.onDashboard b.drag (fun id => b.widgetIds.idxOf? id) b.dashboard
  /-- A command edits the register under the number of the widget it names. -/
  register (c : BoardCommand α) : (b.perform c).1.register = b.register.apply b.drag c
  others (c : BoardCommand α) : c ≠ .unmount → ∀ id ∈ b.widgetIds, ¬ c.Touches b.drag id →
    b.Spares (b.perform c).1 id
  newcomer (c : BoardCommand α) : ∀ w ∈ (b.perform c).1.widgets, w.id ∉ b.widgetIds →
    w.id = ⟨b.nextId⟩ ∧ w.status = none ∧ ∀ h, w.poller = some h → b.task? h.id = none
  /-- The others stay in order. -/
  order (c : BoardCommand α) :
    let other (id : WidgetId) : Bool := id ≠ ⟨b.nextId⟩ ∧ c.addressee? b.drag ≠ some id
    (b.perform c).1.widgetIds.filter other = b.widgetIds.filter other
  /-- A widget that is moved ends up where it was to go. -/
  moved (id : WidgetId) (destination : Nat) : id ∈ b.widgetIds →
    destination < b.widgetIds.length →
    (b.perform (.reorderElement id destination)).1.widgetIds[destination]? = some id

theorem InStep.actsAsRegister {b : Board α} (hb : b.InStep) : b.ActsAsRegister where
  valid := hb.register_valid
  find? := hb.find?_register
  document c := by
    have hplace : b.indexOf? = fun id => b.widgetIds.idxOf? id :=
      funext b.indexOf?_eq_idxOf?
    rw [← hplace]
    exact (perform_becomes hb.aligned c).dashboard
  register := hb.register_perform
  others c hc id hid huntouched := hb.spares c hc hid huntouched
  newcomer c w hw hnew := hb.newcomer c hw hnew
  order c := by
    intro other
    have hkeys := keys_register (hb.perform c).aligned
    rw [hb.register_perform c] at hkeys
    rw [← hkeys, ← keys_register hb.aligned]
    refine Register.filter_keys_apply b.drag c ?_ fun id hid => ?_
    · exact decide_eq_false fun h => h.1 rfl
    · exact decide_eq_false fun h => h.2 hid
  moved id destination hid hinside := by
    have hkeys := keys_register (hb.perform (.reorderElement id destination)).aligned
    rw [hb.register_perform] at hkeys
    have hlen : b.register.rows.length = b.widgetIds.length := by
      rw [← keys_register hb.aligned]
      exact (List.length_map _).symm
    rw [← hkeys]
    refine Register.keys_move hb.register_valid ?_ (hlen ▸ hinside)
    rw [keys_register hb.aligned]
    exact hid

/-! ## Everything but commands -/

omit [Scalar α] in
/-- A delivery leaves document and numbers alone. -/
theorem applyEvent_becomes (b : Board α) (event : PollEvent) :
    (b.applyEvent event).1.Becomes b.dashboard b.widgetIds b.nextId := by
  rcases b.applyEvent_cases event with
    ⟨-, heq⟩ | ⟨i, w, h, hw, -, -, -, ⟨state, acknowledged, -, heq⟩ | ⟨_, -, heq⟩⟩
  · rw [heq]
    exact .rfl
  · rw [heq]
    exact ⟨rfl, map_set_of_eq hw Widget.id rfl, rfl⟩
  · rw [heq]
    exact .rfl

omit [Scalar α] in
theorem takeIn_becomes (b : Board α) (events : List PollEvent) :
    (BoardRun.takeIn b events).1.Becomes b.dashboard b.widgetIds b.nextId := by
  induction events generalizing b with
  | nil => exact .rfl
  | cons event events ih =>
    have delivered := b.applyEvent_becomes event
    have rest := ih (b.applyEvent event).1
    rw [delivered.dashboard, delivered.widgetIds, delivered.nextId] at rest
    exact rest

omit [Scalar α] in
/-- The numbers of a new board are the places of the elements. -/
theorem new_becomes (d : Dashboard α) (fleet : Option Fleet) :
    (Board.new d fleet).Becomes d ((List.range d.elements.length).map WidgetId.mk)
      d.elements.length := by
  have mounted : ∀ k : Nat,
      ((List.range k).foldl (fun b i => b.mountWidget.1.syncPoller i)
        ({ dashboard := d, fleet } : Board α)).Becomes d ((List.range k).map WidgetId.mk) k := by
    intro k
    induction k with
    | zero => exact ⟨rfl, rfl, rfl⟩
    | succ k ih =>
      rw [List.range_succ, List.foldl_append, List.map_append]
      exact (syncPoller_retasked _ k).becomes ih.mountWidget
  exact mounted d.elements.length

end Board

namespace Chronicle

/-- The commands of a run, each with the gesture that ran when it came. -/
def commands (c : Chronicle α) : List (Moment α) → List (Drag × BoardCommand α)
  | [] => []
  | .command command :: ms => (c.board.drag, command) :: (c.step (.command command)).commands ms
  | m :: ms => (c.step m).commands ms

variable {c : Chronicle α}

theorem commands_cons {m : Moment α} (hm : ∀ command, m ≠ .command command)
    (ms : List (Moment α)) : c.commands (m :: ms) = (c.step m).commands ms := by
  cases m with
  | command command => exact absurd rfl (hm command)
  | _ => rfl

/-- Only commands change the register. -/
theorem register_step {m : Moment α} (hm : ∀ command, m ≠ .command command) :
    (c.step m).board.register = c.board.register := by
  cases m with
  | command command => exact absurd rfl (hm command)
  | deliver index =>
    rcases c.step_deliver index with hstep | ⟨event, -, hstep⟩
    · rw [hstep]
    · rw [hstep]
      exact (c.board.applyEvent_becomes event).register
  | letGo =>
    have becomes : (c.step .letGo).board.Becomes c.board.dashboard c.board.widgetIds
        c.board.nextId := ⟨rfl, List.map_map, rfl⟩
    exact becomes.register
  | stop id =>
    rcases c.step_stop id with hstep | ⟨-, hstep⟩
    · rw [hstep]
    · rw [hstep]
      rfl
  | turn _ _ _ | pass _ | hangUp => rfl

/-- **A run replays its commands on the register.** -/
theorem register_run (hc : c.Sound) (ms : List (Moment α)) :
    (c.run ms).board.register = c.board.register.replay (c.commands ms) := by
  induction ms generalizing c with
  | nil => rfl
  | cons m ms ih =>
    rw [run_cons, ih (hc.step m)]
    by_cases hm : ∃ command, m = .command command
    · obtain ⟨command, rfl⟩ := hm
      exact congrArg (Register.replay · _) (hc.inStep.register_perform command)
    · have hm : ∀ command, m ≠ .command command := fun command h => hm ⟨command, h⟩
      rw [register_step hm, commands_cons hm]

/-- **The history of a number.** What is found under a number that was given out is what was found
under it before, with the edits that were meant for it, until it is deleted. -/
theorem element?_run (hc : c.Sound) (ms : List (Moment α)) {id : WidgetId}
    (hid : id.number < c.board.nextId) :
    (c.run ms).board.element? id =
      (c.board.element? id).bind fun e =>
        (c.commands ms).foldlM (fun e p => p.2.becomes p.1 id e) e := by
  rw [← (hc.run ms).inStep.find?_register, register_run hc,
    Register.find?_replay hc.inStep.register_valid _ hid, hc.inStep.find?_register]

omit [Scalar α] in
/-- What is loaded under a number is the element at that place of the document. -/
theorem element?_start (d : Dashboard α) (polling : Option PollConfig) (i : Nat) :
    (start d polling).board.element? ⟨i⟩ = d.elements[i]? := by
  let b := (start d polling).board
  have hb : b.InStep := (Sound.start d polling).inStep
  have new : b.Becomes d ((List.range d.elements.length).map WidgetId.mk) d.elements.length :=
    Board.new_becomes d _
  show b.element? ⟨i⟩ = _
  unfold Board.element?
  rw [new.dashboard]
  rcases Nat.lt_or_ge i d.elements.length with hlt | hge
  · have hid : b.widgetIds[i]? = some ⟨i⟩ := by
      rw [new.widgetIds, List.getElem?_map, List.getElem?_range hlt]
      rfl
    have hi : b.indexOf? ⟨i⟩ = some i := by
      unfold Board.widgetIds at hid
      rw [List.getElem?_map, Option.map_eq_some_iff] at hid
      exact (Board.indexOf?_eq_some_iff hb.nodup).mpr hid
    rw [hi, Option.bind_some]
  · have habsent : (⟨i⟩ : WidgetId) ∉ b.widgetIds := by
      rw [new.widgetIds]
      intro hmem
      obtain ⟨j, hj, heq⟩ := List.mem_map.mp hmem
      cases heq
      exact Nat.not_lt.mpr hge (List.mem_range.mp hj)
    rw [Board.indexOf?_eq_none_iff.mpr habsent, List.getElem?_eq_none hge]
    rfl

end Chronicle

namespace BoardRun

/-- The commands of a run, each with the gesture that ran when it came. -/
def commands (r : BoardRun α) : List (Source × RunStep α) → List (Drag × BoardCommand α)
  | [] => []
  | (source, .command command) :: ss =>
    (r.board.drag, command) :: (r.step source (.command command)).1.commands ss
  | (source, s) :: ss => (r.step source s).1.commands ss

variable {r : BoardRun α}

theorem commands_cons (source : Source) {s : RunStep α} (hs : ∀ command, s ≠ .command command)
    (ss : List (Source × RunStep α)) :
    r.commands ((source, s) :: ss) = (r.step source s).1.commands ss := by
  cases s with
  | command command => exact absurd rfl (hs command)
  | _ => rfl

/-- Only commands change the register. -/
theorem register_step (source : Source) {s : RunStep α} (hs : ∀ command, s ≠ .command command) :
    (r.step source s).1.board.register = r.board.register := by
  cases s with
  | command command => exact absurd rfl (hs command)
  | wait ms =>
    show (r.board.advance source ms).1.register = _
    unfold Board.advance
    split <;> rfl
  | shutdown =>
    have becomes : (r.board.shutdown source).1.Becomes r.board.dashboard r.board.widgetIds
        r.board.nextId := by
      rw [Board.shutdown_eq, Board.unmount_eq]
      exact ⟨rfl, List.map_map, rfl⟩
    exact becomes.register
  | deliver =>
    cases hq : r.queue with
    | nil => simp only [step, hq]
    | cons event rest =>
      simp only [step, hq]
      exact (Board.takeIn_becomes r.board [event]).register
  | deliverAll => exact (Board.takeIn_becomes r.board r.queue).register
  | redeliver index =>
    cases he : r.reported[index]? with
    | none => simp only [step, he]
    | some event =>
      simp only [step, he]
      exact (Board.takeIn_becomes r.board [event]).register

/-- **A run replays its commands on the register.** -/
theorem register_steps (hr : r.Sound) (ss : List (Source × RunStep α)) :
    (r.steps ss).board.register = r.board.register.replay (r.commands ss) := by
  induction ss generalizing r with
  | nil => rfl
  | cons s ss ih =>
    obtain ⟨source, s⟩ := s
    show ((r.step source s).1.steps ss).board.register = _
    rw [ih (hr.step source s)]
    by_cases hs : ∃ command, s = .command command
    · obtain ⟨command, rfl⟩ := hs
      exact congrArg (Register.replay · _) (hr.inStep.register_perform command)
    · have hs : ∀ command, s ≠ .command command := fun command h => hs ⟨command, h⟩
      rw [register_step source hs, commands_cons source hs]

/-- The history of a number, in a run. -/
theorem element?_steps (hr : r.Sound) (ss : List (Source × RunStep α)) {id : WidgetId}
    (hid : id.number < r.board.nextId) :
    (r.steps ss).board.element? id =
      (r.board.element? id).bind fun e =>
        (r.commands ss).foldlM (fun e p => p.2.becomes p.1 id e) e := by
  rw [← (hr.steps ss).inStep.find?_register, register_steps hr,
    Register.find?_replay hr.inStep.register_valid _ hid, hr.inStep.find?_register]

end BoardRun

namespace Chronicle

/-- **Boards refine registers.** Every board that can come about acts as an ordered map. What is
found under a number is at the start the element of the document at that place; and over any run it
is the element that was loaded or created under it, edited by the commands that were meant for it,
until one of them deletes it. -/
theorem boards_refine_registers (d : Dashboard α) (polling : Option PollConfig)
    (ms ms' : List (Moment α)) (ss ss' : List (Source × RunStep α)) :
    let c := (start d polling).run ms
    let r := BoardRun.steps { board := (start d polling).board } ss
    (c.board.ActsAsRegister ∧ r.board.ActsAsRegister) ∧
    ((start d polling).board.nextId = d.elements.length ∧
      ∀ i, (start d polling).board.element? ⟨i⟩ = d.elements[i]?) ∧
    ((c.run ms').board.register = c.board.register.replay (c.commands ms') ∧
      (r.steps ss').board.register = r.board.register.replay (r.commands ss')) ∧
    (∀ id : WidgetId, id.number < c.board.nextId →
      (c.run ms').board.element? id =
        (c.board.element? id).bind fun e =>
          (c.commands ms').foldlM (fun e p => p.2.becomes p.1 id e) e) ∧
    ∀ id : WidgetId, id.number < r.board.nextId →
      (r.steps ss').board.element? id =
        (r.board.element? id).bind fun e =>
          (r.commands ss').foldlM (fun e p => p.2.becomes p.1 id e) e := by
  intro c r
  have hc : c.Sound := (Sound.start d polling).run ms
  have hr : r.Sound := BoardRun.sound_steps d polling ss
  have hnext : (start d polling).board.nextId = d.elements.length :=
    (Board.new_becomes d _).nextId
  exact ⟨⟨hc.inStep.actsAsRegister, hr.inStep.actsAsRegister⟩, ⟨hnext, element?_start d polling⟩,
    ⟨register_run hc ms', BoardRun.register_steps hr ss'⟩,
    fun _ hid => element?_run hc ms' hid,
    fun _ hid => BoardRun.element?_steps hr ss' hid⟩

end Chronicle

end StatusWall
