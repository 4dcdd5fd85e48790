import StatusWall.Proofs.Alert.Memory
import StatusWall.Proofs.Polling.Numbers

/-!
# Turns

A turn is one step of one task: `Turn` holds the task as it stood and what it met, and everything
else about the turn is read off `PollTask.step`. A poll takes up to three turns, the third of which
ends it; `PollTask.ending?` says whether the next turn does, and how the poll came out.

`PollTask.step_cases` lists what a step can be. Nothing below opens `PollTask.step` again. A task
keeps its number, its widget and its object through every turn, and hears nothing
(`Turn.after_eq`), and what a turn plays and reports is decided by the ending alone
(`Turn.resolved?_cases`, `Turn.reports_eq`).
-/

namespace StatusWall

namespace PollTask

/-- How the poll that the next step ends comes out, if the step ends one: with both answers, or with
the failure of one of them. -/
def ending? (config : PollConfig) (t : PollTask) :
    Option (Except FetchError (ObjectState × AlertConfig)) :=
  if t.cancelled then none
  else match t.phase with
    | .askedState _ deadline _ ready answer =>
      if deadline < ready then some (.error (overdue config))
      else match answer with
        | .error e => some (.error e)
        | .ok _ => none
    | .askedConfig _ deadline found ready answer =>
      if deadline < ready then some (.error (overdue config))
      else some (answer.map fun config => (found, config))
    | _ => none

/-- The state an answered poll stands for. -/
def resolved (t : PollTask) (found : ObjectState) : CheckState :=
  .resolve t.target.objectType found.resultCode

/-- The report of a poll that came out in a certain way. -/
def reportOf (t : PollTask) (found : Except FetchError (ObjectState × AlertConfig)) : PollEvent :=
  { widget := t.widget
    poller := t.id
    outcome :=
      match found with
      | .ok (found, _) => .state (t.resolved found) found.acknowledged
      | .error e => .failed e.message }

variable (config : PollConfig) (source : Source) (listening : Bool) (now : Nat) (t : PollTask)

/-- **What a step is.** A cancelled task stops; a task whose turn has come puts the first question;
one that got its first answer puts the second; a poll that got its last answer, or an error, or none
in time, ends; and a task that stopped does nothing. -/
theorem step_cases :
    (t.cancelled = true ∧ t.ending? config = none ∧
      t.step config source listening now = ({ t with phase := .stopped }, [])) ∨
    (t.cancelled = false ∧ t.ending? config = none ∧ ∃ due, t.phase = .waiting due ∧
      t.step config source listening now =
        ({ t with
            phase := .askedState (config.nextTurn due now) (now + config.timeout) t.slug
              (now + (source.objectState now t.target).delay)
              (source.objectState now t.target).outcome },
         [.askState t.target])) ∨
    (t.cancelled = false ∧ t.ending? config = none ∧ ∃ nextDue deadline slug ready found,
      t.phase = .askedState nextDue deadline slug ready (.ok found) ∧
      t.step config source listening now =
        ({ t with
            phase := .askedConfig nextDue deadline found
              (now + (source.alertConfig now slug).delay)
              (source.alertConfig now slug).outcome },
         [.askConfig slug])) ∨
    (t.cancelled = false ∧ ∃ nextDue found, t.ending? config = some found ∧
      t.step config source listening now = t.finish listening nextDue found) ∨
    (t.cancelled = false ∧ t.ending? config = none ∧ t.phase = .stopped ∧
      t.step config source listening now = (t, [])) := by
  unfold step ending?
  by_cases hc : t.cancelled = true
  · rw [if_pos hc, if_pos hc]
    exact .inl ⟨hc, rfl, rfl⟩
  · rw [if_neg hc, if_neg hc]
    have hc : t.cancelled = false := Bool.eq_false_iff.mpr hc
    cases hp : t.phase with
    | waiting due => exact .inr (.inl ⟨hc, rfl, due, rfl, rfl⟩)
    | askedState nextDue deadline slug ready answer =>
      by_cases hlate : deadline < ready
      · simp only [hlate, ↓reduceIte]
        exact .inr (.inr (.inr (.inl ⟨hc, nextDue, _, rfl, rfl⟩)))
      · simp only [hlate, ↓reduceIte]
        cases answer with
        | error e => exact .inr (.inr (.inr (.inl ⟨hc, nextDue, _, rfl, rfl⟩)))
        | ok found => exact .inr (.inr (.inl ⟨hc, rfl, _, _, _, _, _, rfl, rfl⟩))
    | askedConfig nextDue deadline found ready answer =>
      by_cases hlate : deadline < ready
      · simp only [hlate, ↓reduceIte]
        exact .inr (.inr (.inr (.inl ⟨hc, nextDue, _, rfl, rfl⟩)))
      · simp only [hlate, ↓reduceIte]
        exact .inr (.inr (.inr (.inl ⟨hc, nextDue, _, rfl, rfl⟩)))
    | stopped => exact .inr (.inr (.inr (.inr ⟨hc, rfl, rfl, rfl⟩)))

/-- The alert machine after a poll came out in a certain way, and the alert that was due. -/
def observed (found : Except FetchError (ObjectState × AlertConfig)) :
    AlertMachine × Option AlertSound :=
  match found with
  | .ok (found, config) => t.machine.observe (t.resolved found) t.policy config
  | .error _ => (t.machine, none)

theorem observed_target (found : Except FetchError (ObjectState × AlertConfig)) :
    (t.observed found).1.target = t.target := by
  cases found with
  | ok found => exact AlertMachine.observe_target _ _ _ _
  | error e => rfl

/-- What the end of a poll does: the machine observes, an alert that is due is played, and the
report is handed over as long as somebody takes it. -/
theorem finish_eq (nextDue : Nat) (found : Except FetchError (ObjectState × AlertConfig)) :
    t.finish listening nextDue found =
      ({ t with
          machine := (t.observed found).1
          phase := if listening then .waiting nextDue else .stopped },
       ((t.observed found).2.map .play).toList ++
         if listening then [.report (t.reportOf found)] else []) := by
  unfold finish conclude observed reportOf resolved
  cases found with
  | ok found =>
    simp only
    generalize t.machine.observe _ t.policy found.2 = observed
    obtain ⟨machine, alert⟩ := observed
    cases listening <;> cases alert <;> rfl
  | error e => cases listening <;> rfl

end PollTask

/-! ## Turns as data -/

/-- A step of a task: the task as it stood, and what it met. -/
structure Turn where
  config : PollConfig
  source : Source
  /-- Somebody took the reports. -/
  listening : Bool
  time : Nat
  task : PollTask

/-- The alert that an act plays. -/
def PollAct.sound? : PollAct → Option AlertSound
  | .play sound => some sound
  | _ => none

/-- The report that an act hands over. -/
def PollAct.event? : PollAct → Option PollEvent
  | .report event => some event
  | _ => none

namespace Turn

/-- What the task did. -/
def acts (u : Turn) : List PollAct := (u.task.step u.config u.source u.listening u.time).2

/-- The task afterwards. -/
def after (u : Turn) : PollTask := (u.task.step u.config u.source u.listening u.time).1

/-- How the poll came out that the turn ended, if it ended one. -/
def ending? (u : Turn) : Option (Except FetchError (ObjectState × AlertConfig)) :=
  u.task.ending? u.config

/-- The state that was found, if the turn ended a poll that was answered. -/
def resolved? (u : Turn) : Option CheckState :=
  match u.ending? with
  | some (.ok (found, _)) => some (u.task.resolved found)
  | _ => none

/-- The alerts that were played. -/
def sounds (u : Turn) : List AlertSound := u.acts.filterMap PollAct.sound?

/-- The reports that were handed over. -/
def reports (u : Turn) : List PollEvent := u.acts.filterMap PollAct.event?

/-- The turn asked for the state of the task's object, and this was the answer. -/
def AskedState (u : Turn) (answer : Except FetchError ObjectState) : Prop :=
  .askState u.task.target ∈ u.acts ∧
    (u.source.objectState u.time u.task.target).outcome = answer

/-- The turn asked for the board's word on alerts under a slug, and this was the answer. -/
def AskedConfig (u : Turn) (slug : String) (answer : Except FetchError AlertConfig) : Prop :=
  .askConfig slug ∈ u.acts ∧ (u.source.alertConfig u.time slug).outcome = answer

/-- A turn touches nothing of its task but the alert machine's memory and the phase. -/
theorem after_eq (u : Turn) :
    ∃ machine phase, machine.target = u.task.target ∧ u.after = { u.task with machine, phase } := by
  unfold after
  rcases u.task.step_cases u.config u.source u.listening u.time with
    ⟨-, -, h⟩ | ⟨-, -, _, _, h⟩ | ⟨-, -, _, _, _, _, _, -, h⟩ | ⟨-, _, found, -, h⟩ | ⟨-, -, -, h⟩
  · exact ⟨_, _, rfl, congrArg Prod.fst h⟩
  · exact ⟨_, _, rfl, congrArg Prod.fst h⟩
  · exact ⟨_, _, rfl, congrArg Prod.fst h⟩
  · rw [PollTask.finish_eq] at h
    exact ⟨_, _, u.task.observed_target found, congrArg Prod.fst h⟩
  · exact ⟨_, _, rfl, congrArg Prod.fst h⟩

@[simp] theorem after_id (u : Turn) : u.after.id = u.task.id := by
  obtain ⟨_, _, -, h⟩ := u.after_eq
  rw [h]

@[simp] theorem after_widget (u : Turn) : u.after.widget = u.task.widget := by
  obtain ⟨_, _, -, h⟩ := u.after_eq
  rw [h]

@[simp] theorem after_slug (u : Turn) : u.after.slug = u.task.slug := by
  obtain ⟨_, _, -, h⟩ := u.after_eq
  rw [h]

@[simp] theorem after_policy (u : Turn) : u.after.policy = u.task.policy := by
  obtain ⟨_, _, -, h⟩ := u.after_eq
  rw [h]

@[simp] theorem after_cancelled (u : Turn) : u.after.cancelled = u.task.cancelled := by
  obtain ⟨_, _, -, h⟩ := u.after_eq
  rw [h]

@[simp] theorem after_target (u : Turn) : u.after.target = u.task.target := by
  obtain ⟨_, _, htarget, h⟩ := u.after_eq
  rw [h]
  exact htarget

/-- The machine observes what the turn's ending found, and nothing without one. -/
theorem after_machine (u : Turn) :
    u.after.machine = (u.ending?.elim u.task.machine fun found => (u.task.observed found).1) := by
  unfold after ending?
  rcases u.task.step_cases u.config u.source u.listening u.time with
    ⟨-, he, h⟩ | ⟨-, he, _, _, h⟩ | ⟨-, he, _, _, _, _, _, -, h⟩ | ⟨-, _, found, he, h⟩ |
    ⟨-, he, -, h⟩
  case inr.inr.inr.inl => rw [he, h, PollTask.finish_eq]; rfl
  all_goals rw [he, h]; rfl

/-- While its reports are taken, a task that was not cancelled goes on. -/
theorem after_phase_ne_stopped (u : Turn) (hc : u.task.cancelled = false)
    (hl : u.listening = true) (hp : u.task.phase ≠ .stopped) : u.after.phase ≠ .stopped := by
  unfold after
  rcases u.task.step_cases u.config u.source u.listening u.time with
    ⟨hc', -, -⟩ | ⟨-, -, _, _, h⟩ | ⟨-, -, _, _, _, _, _, -, h⟩ | ⟨-, _, found, -, h⟩ |
    ⟨-, -, hp', -⟩
  · rw [hc] at hc'
    cases hc'
  · rw [h]
    intro hstop
    cases hstop
  · rw [h]
    intro hstop
    cases hstop
  · rw [h, PollTask.finish_eq, hl]
    intro hstop
    cases hstop
  · exact absurd hp' hp

/-- A turn plays what its ending makes due. -/
theorem sounds_eq (u : Turn) :
    u.sounds = (u.ending?.bind fun found => (u.task.observed found).2).toList := by
  unfold sounds acts ending?
  rcases u.task.step_cases u.config u.source u.listening u.time with
    ⟨-, he, h⟩ | ⟨-, he, _, _, h⟩ | ⟨-, he, _, _, _, _, _, -, h⟩ | ⟨-, _, found, he, h⟩ |
    ⟨-, he, -, h⟩
  case inr.inr.inr.inl =>
    rw [he, h, PollTask.finish_eq, Option.bind_some]
    generalize (u.task.observed found).2 = alert
    cases alert <;> cases u.listening <;> rfl
  all_goals rw [he, h]; rfl

/-- A turn reports its ending to whoever listens, and reports nothing else. -/
theorem reports_eq (u : Turn) :
    u.reports = if u.listening then (u.ending?.map u.task.reportOf).toList else [] := by
  unfold reports acts ending?
  rcases u.task.step_cases u.config u.source u.listening u.time with
    ⟨-, he, h⟩ | ⟨-, he, _, _, h⟩ | ⟨-, he, _, _, _, _, _, -, h⟩ | ⟨-, _, found, he, h⟩ |
    ⟨-, he, -, h⟩
  case inr.inr.inr.inl =>
    rw [he, h, PollTask.finish_eq]
    generalize (u.task.observed found).2 = alert
    cases alert <;> cases u.listening <;> rfl
  all_goals rw [he, h]; cases u.listening <;> rfl

/-- What a turn plays and remembers is what its machine observes of the state it found; a turn that
found none plays nothing and leaves the machine alone. -/
theorem resolved?_cases (u : Turn) :
    (u.resolved? = none ∧ u.sounds = [] ∧ u.after.machine = u.task.machine) ∨
    ∃ found word, u.ending? = some (.ok (found, word)) ∧
      u.resolved? = some (u.task.resolved found) ∧
      u.sounds = (u.task.machine.observe (u.task.resolved found) u.task.policy word).2.toList ∧
      u.after.machine = (u.task.machine.observe (u.task.resolved found) u.task.policy word).1 := by
  rw [u.sounds_eq, u.after_machine]
  unfold resolved?
  cases he : u.ending? with
  | none => exact .inl ⟨rfl, rfl, rfl⟩
  | some outcome =>
    cases outcome with
    | error e => exact .inl ⟨rfl, rfl, rfl⟩
    | ok answers => exact .inr ⟨answers.1, answers.2, rfl, rfl, rfl, rfl⟩

end Turn

end StatusWall
