import StatusWall.Polling.Task

/-!
# The tasks that run

A fleet holds every task that was ever started, numbered in the order of their starts, and the time
that has passed. Tasks do not see each other. Whoever holds a task's number can tell it of a new
policy or a new slug, and cancel it; telling a task that is cancelled changes nothing that can be
seen.
-/

namespace StatusWall

/-- The order given by the first of several keys that tells two entries apart. -/
def ordered (keys : List Ordering) : Bool :=
  match keys.find? (· ≠ .eq) with
  | some .gt => false
  | _ => true

/-- The tasks and the clock. -/
structure Fleet where
  config : PollConfig
  clock : Nat := 0
  tasks : List PollTask := []
  /-- Somebody takes the reports. -/
  listening : Bool := true

/-- Something that happened: when, to which task, and what. -/
structure Occurrence where
  time : Nat
  poller : PollerId
  act : PollAct
  deriving DecidableEq, Repr

namespace Fleet

/-- The number of the next task. -/
def nextId (f : Fleet) : PollerId := ⟨f.tasks.length⟩

/-- The task with a number. -/
def task? (f : Fleet) (id : PollerId) : Option PollTask := f.tasks.find? fun t => t.id = id

/-- Starts a task. -/
def spawn (f : Fleet) (widget : WidgetId) (target : CheckTarget) (slug : String)
    (policy : SoundPolicy) : Fleet × PollerId :=
  let task := PollTask.new f.nextId widget target slug policy f.clock
  ({ f with tasks := f.tasks ++ [task] }, f.nextId)

/-- Changes the task with a number. -/
def modifyTask (f : Fleet) (id : PollerId) (change : PollTask → PollTask) : Fleet :=
  { f with tasks := f.tasks.map fun t => if t.id = id then change t else t }

/-- Tells a task of a new policy. It counts from the end of the next poll on. -/
def updatePolicy (f : Fleet) (id : PollerId) (policy : SoundPolicy) : Fleet :=
  f.modifyTask id fun t => { t with policy }

/-- Tells a task of a new slug. It counts from the beginning of the next poll on. -/
def setSlug (f : Fleet) (id : PollerId) (slug : String) : Fleet :=
  f.modifyTask id fun t => { t with slug }

/-- Cancels a task. -/
def cancel (f : Fleet) (id : PollerId) : Fleet :=
  f.modifyTask id fun t => { t with cancelled := true }

/-- Nobody takes the reports any more. -/
def close (f : Fleet) : Fleet := { f with listening := false }

/-- Lets time pass; what happened meanwhile is told task by task. -/
def advance (f : Fleet) (source : Source) (ms : Nat) : Fleet × List Occurrence :=
  let horizon := f.clock + ms
  let runs := f.tasks.map fun t =>
    (t.id, t.advance f.config source f.listening horizon f.clock)
  ({ f with clock := horizon, tasks := runs.map (·.2.1) },
   runs.flatMap fun r => r.2.2.map fun a => { time := a.1, poller := r.1, act := a.2 })

/-- Cancels a task and waits for its end. No time passes, but whatever is due for the other tasks
happens meanwhile: one that was only just started takes its first turn. -/
def shutdown (f : Fleet) (source : Source) (id : PollerId) : Fleet × List Occurrence :=
  (f.cancel id).advance source 0

end Fleet

/-! ## Reading a run -/

namespace Occurrence

/-- The reports among what happened, by time, widget and task. -/
def reports (os : List Occurrence) : List (Nat × PollEvent) :=
  let events := os.filterMap fun o =>
    match o.act with
    | .report e => some (o.time, e)
    | _ => none
  events.mergeSort fun a b =>
    ordered [compare a.1 b.1, compare a.2.widget.number b.2.widget.number,
      compare a.2.poller.number b.2.poller.number]

/-- The alerts that were played, with their times. -/
def alerts (os : List Occurrence) : List (Nat × AlertSound) :=
  os.filterMap fun o =>
    match o.act with
    | .play s => some (o.time, s)
    | _ => none

/-- The questions that were asked, with their times, by time and wording. -/
def questions (os : List Occurrence) : List (Nat × String) :=
  let asked := os.filterMap fun o =>
    match o.act with
    | .askState target => some (o.time, "state " ++ target.text)
    | .askConfig slug => some (o.time, "config " ++ slug)
    | _ => none
  asked.mergeSort fun a b => ordered [compare a.1 b.1, compare a.2 b.2]

end Occurrence

end StatusWall
