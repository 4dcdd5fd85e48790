import StatusWall.Gesture.Basic
import StatusWall.Polling.Source

/-!
# Polling one check

A task polls the check of one widget. It asks for the object's state, then for the board's word on
alerts, and reports what it found; then it waits for its next turn. Both questions together have a
time limit. Turns come at a fixed interval, counted from the turn before; a turn that comes late,
because the poll before it took long, restarts the count.

A task that was cancelled does nothing more. It is asked at every point where it could go on, before
anything else is looked at.

`PollTask.step` is one such point: the next thing the task waits for has come. `PollTask.advance`
takes steps until a given time. Every step that leaves a poll behind moves the next turn forward, so
there are only finitely many up to any time.

A step is taken as a whole. The board and its tasks take turns on one thread, so that nothing comes
between a step's question whether the task was cancelled and what the step does then. A window that runs
the tasks on a thread of their own gives up that much: there a cancellation may come in the middle of a
step, and the step still plays and reports.
-/

namespace StatusWall

/-- The number of a task. No two tasks share one. Numbers are unbounded here; the counter behind them
holds 64 bits, so that this is true of it as long as fewer than 2^64 tasks are started. -/
structure PollerId where
  number : Nat
  deriving DecidableEq, Repr

/-- The name of a task in messages. -/
def PollerId.name (id : PollerId) : String := "poller-" ++ toString id.number

/-- How often to poll and how long a poll may take, in milliseconds. -/
structure PollConfig where
  interval : Nat
  timeout : Nat
  interval_pos : 0 < interval

/-- A turn that comes no later than this many milliseconds after it was due counts as punctual. -/
def punctuality : Nat := 5

/-- When the turn after the one that was due at `due` and came at `now` is due. -/
def PollConfig.nextTurn (config : PollConfig) (due now : Nat) : Nat :=
  if due + punctuality < now then now + config.interval else due + config.interval

theorem PollConfig.lt_nextTurn (config : PollConfig) (due now : Nat) :
    due < config.nextTurn due now := by
  have := config.interval_pos
  unfold nextTurn
  split <;> omega

/-- What a task reports about a poll. -/
inductive PollOutcome where
  | state (state : CheckState) (acknowledged : Bool)
  /-- The poll failed; the next one tries again. -/
  | failed (message : String)
  deriving DecidableEq, Repr

/-- A report: which task of which widget, and what it found. -/
structure PollEvent where
  widget : WidgetId
  poller : PollerId
  outcome : PollOutcome
  deriving DecidableEq, Repr

/-- Where a task stands. The time in each waiting phase is the end of the wait. -/
inductive PollPhase where
  /-- Waiting for its turn. -/
  | waiting (due : Nat)
  /-- The object's state was asked for. -/
  | askedState (nextDue deadline : Nat) (slug : String) (ready : Nat)
      (answer : Except FetchError ObjectState)
  /-- The board's word on alerts was asked for. -/
  | askedConfig (nextDue deadline : Nat) (found : ObjectState) (ready : Nat)
      (answer : Except FetchError AlertConfig)
  | stopped

/-- A task that polls one check. -/
structure PollTask where
  id : PollerId
  widget : WidgetId
  /-- The slug the board is asked under; a poll uses the one it began with. -/
  slug : String
  /-- The widget's word on alerts; a poll uses the one it ends with. -/
  policy : SoundPolicy
  machine : AlertMachine
  phase : PollPhase
  cancelled : Bool := false

/-- Something a task does that can be seen from outside. -/
inductive PollAct where
  | askState (target : CheckTarget)
  | askConfig (slug : String)
  | play (sound : AlertSound)
  | report (event : PollEvent)
  deriving DecidableEq, Repr

namespace PollTask

/-- The object the task polls. -/
def target (t : PollTask) : CheckTarget := t.machine.target

/-- A task whose first turn is due at once. -/
def new (id : PollerId) (widget : WidgetId) (target : CheckTarget) (slug : String)
    (policy : SoundPolicy) (now : Nat) : PollTask :=
  { id, widget, slug, policy, machine := .new target, phase := .waiting now }

/-- The report of a poll that ended, and the alert it led to. A failed poll leaves the alert machine
alone. -/
def conclude (t : PollTask) (found : Except FetchError (ObjectState × AlertConfig)) :
    AlertMachine × List PollAct :=
  let report (outcome : PollOutcome) : PollAct :=
    .report { widget := t.widget, poller := t.id, outcome }
  match found with
  | .ok (found, config) =>
    let state := CheckState.resolve t.target.objectType found.resultCode
    let (machine, alert) := t.machine.observe state t.policy config
    (machine, (alert.map .play).toList ++ [report (.state state found.acknowledged)])
  | .error e => (t.machine, [report (.failed e.message)])

/-- Ends a poll. The task stops when nobody takes its reports any more. -/
def finish (t : PollTask) (listening : Bool) (nextDue : Nat)
    (found : Except FetchError (ObjectState × AlertConfig)) : PollTask × List PollAct :=
  let (machine, acts) := t.conclude found
  if listening then ({ t with machine, phase := .waiting nextDue }, acts)
  else ({ t with machine, phase := .stopped }, acts.filter fun | .report _ => false | _ => true)

/-- When the next thing happens that the task waits for; a task that stopped waits for nothing. Of
an answer and the time limit the earlier one counts, and the answer if they coincide. -/
def wakesAt (t : PollTask) (now : Nat) : Option Nat :=
  match t.phase with
  | .waiting due => some (max now due)
  | .askedState _ deadline _ ready _ => some (max now (min ready deadline))
  | .askedConfig _ deadline _ ready _ => some (max now (min ready deadline))
  | .stopped => none

/-- The failure of a poll that took too long: the limit in whole seconds. -/
def overdue (config : PollConfig) : FetchError := .timeout (config.timeout / 1000)

/-- What the task does at the time it waited for, as a whole: nothing else happens meanwhile. -/
def step (config : PollConfig) (source : Source) (listening : Bool) (now : Nat) (t : PollTask) :
    PollTask × List PollAct :=
  if t.cancelled then ({ t with phase := .stopped }, [])
  else match t.phase with
    | .waiting due =>
      let answer := source.objectState now t.target
      let phase := .askedState (config.nextTurn due now) (now + config.timeout) t.slug
        (now + answer.delay) answer.outcome
      ({ t with phase }, [.askState t.target])
    | .askedState nextDue deadline slug ready answer =>
      if deadline < ready then t.finish listening nextDue (.error (overdue config))
      else match answer with
        | .error e => t.finish listening nextDue (.error e)
        | .ok found =>
          let answer := source.alertConfig now slug
          let phase := .askedConfig nextDue deadline found (now + answer.delay) answer.outcome
          ({ t with phase }, [.askConfig slug])
    | .askedConfig nextDue deadline found ready answer =>
      if deadline < ready then t.finish listening nextDue (.error (overdue config))
      else t.finish listening nextDue (answer.map fun config => (found, config))
    | .stopped => (t, [])

/-- How many steps a task may still take up to a time, at most. -/
def stepsLeft (t : PollTask) (horizon : Nat) : Nat :=
  match t.phase with
  | .waiting due => 3 * (horizon + 1 - due)
  | .askedState nextDue _ _ _ _ => 3 * (horizon + 1 - nextDue) + 2
  | .askedConfig nextDue _ _ _ _ => 3 * (horizon + 1 - nextDue) + 1
  | .stopped => 0

theorem stepsLeft_finish (t : PollTask) (listening : Bool) (nextDue horizon : Nat)
    (found : Except FetchError (ObjectState × AlertConfig)) :
    (t.finish listening nextDue found).1.stepsLeft horizon ≤ 3 * (horizon + 1 - nextDue) := by
  cases listening <;> simp [finish, stepsLeft]

theorem stepsLeft_step (config : PollConfig) (source : Source) (listening : Bool)
    (now horizon wake : Nat) (t : PollTask) (h : t.wakesAt now = some wake) (hw : wake ≤ horizon) :
    (t.step config source listening wake).1.stepsLeft horizon < t.stepsLeft horizon := by
  unfold wakesAt at h
  unfold step
  split at h
  · next due hp =>
    have hdue : due ≤ horizon := by
      simp only [Option.some.injEq] at h
      omega
    split
    · simp [stepsLeft, hp]; omega
    · have hn := config.lt_nextTurn due wake
      simp only [stepsLeft, hp]
      omega
  · next nextDue deadline slug ready answer hp =>
    have hb : ∀ found, (t.finish listening nextDue found).1.stepsLeft horizon <
        t.stepsLeft horizon := fun found => by
      have := t.stepsLeft_finish listening nextDue horizon found
      simp only [stepsLeft, hp] at this ⊢
      omega
    split
    · simp [stepsLeft, hp]
    · split
      · exact hb _
      · split
        · exact hb _
        · simp [stepsLeft, hp]
  · next nextDue deadline found ready answer hp =>
    have hb : ∀ found, (t.finish listening nextDue found).1.stepsLeft horizon <
        t.stepsLeft horizon := fun found => by
      have := t.stepsLeft_finish listening nextDue horizon found
      simp only [stepsLeft, hp] at this ⊢
      omega
    split
    · simp [stepsLeft, hp]
    · split <;> exact hb _
  · simp at h

/-- Takes every step up to a time, that time included; answers the task and what it did when. -/
def advance (config : PollConfig) (source : Source) (listening : Bool) (horizon now : Nat)
    (t : PollTask) : PollTask × List (Nat × PollAct) :=
  match _h : t.wakesAt now with
  | none => (t, [])
  | some wake =>
    if _hw : wake ≤ horizon then
      let next := t.step config source listening wake
      let rest := next.1.advance config source listening horizon wake
      (rest.1, next.2.map (wake, ·) ++ rest.2)
    else (t, [])
termination_by t.stepsLeft horizon
decreasing_by exact stepsLeft_step config source listening now horizon wake t _h _hw

end PollTask

end StatusWall
