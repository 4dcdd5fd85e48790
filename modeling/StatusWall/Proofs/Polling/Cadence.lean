import Mathlib.Data.List.Permutation
import StatusWall.Cli.Session
import StatusWall.Proofs.Polling.Silence
import StatusWall.Proofs.Settings.File

/-!
# The cadence of polls

A task that was started at some time polls at that time and then every interval, however slow its
source is, as long as a poll may not take longer than the interval. `polls_keep_cadence` says this of
everything that can happen to the fleet around the task: time that passes in pieces of any length,
with another source in each piece, other tasks that are started and told things, and the task itself
hearing of policies and slugs.

What is seen of a poll from outside are its two ends, the question for the object's state and the
report (`Mark`). The marks of a task are those of whole polls (`wholePolls`), one after the other,
and perhaps the beginning of another poll. The invariant behind it is `OnTime`: the task is never
later than the time it waits for, so a turn comes when it is due and no sooner or later.

A poll that ends when nobody takes the reports any more is the task's last
(`unheard_poll_is_the_last`). That, and cancelling it, are the two ways to stop a task.
-/

namespace StatusWall

/-! ## What is seen of a poll -/

/-- One end of a poll: the question for the state of an object, or the report. -/
inductive Mark where
  | asked (target : CheckTarget)
  | ended
  deriving DecidableEq, Repr

/-- The end of a poll that an act is. -/
def PollAct.mark? : PollAct → Option Mark
  | .askState target => some (.asked target)
  | .report _ => some .ended
  | _ => none

/-- The marks among a task's acts. -/
def marks (acts : List (Nat × PollAct)) : List (Nat × Mark) :=
  acts.filterMap fun a => a.2.mark?.map (a.1, ·)

/-- The marks of one task among everything that happened. -/
def Occurrence.marksOf (id : PollerId) (os : List Occurrence) : List (Nat × Mark) :=
  marks ((os.filter (·.poller = id)).map fun o => (o.time, o.act))

/-- The marks of whole polls of an object: the first begins at `start`, the others an interval after
the one before, and they end at the given times. -/
def wholePolls (target : CheckTarget) (start interval : Nat) (ends : List Nat) : List (Nat × Mark) :=
  ends.zipIdx.flatMap fun e => [(start + e.2 * interval, .asked target), (e.1, .ended)]

@[simp] theorem marks_append (as bs : List (Nat × PollAct)) :
    marks (as ++ bs) = marks as ++ marks bs := List.filterMap_append

theorem wholePolls_concat (target : CheckTarget) (start interval : Nat) (ends : List Nat)
    (e : Nat) :
    wholePolls target start interval (ends ++ [e]) =
      wholePolls target start interval ends ++
        [(start + ends.length * interval, .asked target), (e, .ended)] := by
  unfold wholePolls
  rw [List.zipIdx_append, List.flatMap_append, Nat.zero_add]
  rfl

/-- The polls end after they began, and within the time limit. -/
def InTime (config : PollConfig) (start : Nat) (ends : List Nat) : Prop :=
  ∀ k e, ends[k]? = some e →
    start + k * config.interval ≤ e ∧ e ≤ start + k * config.interval + config.timeout

theorem InTime.nil (config : PollConfig) (start : Nat) : InTime config start [] :=
  fun _ _ h => nomatch h

theorem InTime.concat {config : PollConfig} {start : Nat} {ends : List Nat} {e : Nat}
    (h : InTime config start ends) (after : start + ends.length * config.interval ≤ e)
    (before : e ≤ start + ends.length * config.interval + config.timeout) :
    InTime config start (ends ++ [e]) := by
  intro k e' hk
  rcases Nat.lt_or_ge k ends.length with hlt | hge
  · rw [List.getElem?_append_left hlt] at hk
    exact h k e' hk
  · rw [List.getElem?_append_right hge] at hk
    have hlast := (List.getElem?_eq_some_iff.mp hk).1
    obtain rfl : k = ends.length := by
      rw [List.length_singleton] at hlast
      omega
    rw [Nat.sub_self] at hk
    cases hk
    exact ⟨after, before⟩

/-! ## A task that is on time -/

namespace PollTask

/-- What a poll under way leads to: when the next turn is due, when the poll is given up, and when
the answer comes that it waits for. -/
def underWay? (t : PollTask) : Option (Nat × Nat × Nat) :=
  match t.phase with
  | .askedState nextDue deadline _ ready _ => some (nextDue, deadline, ready)
  | .askedConfig nextDue deadline _ ready _ => some (nextDue, deadline, ready)
  | _ => none

/-- A task that polls an object since `start` and has left these marks stands where the schedule
wants it, and is not late for what it waits for. -/
inductive OnTime (config : PollConfig) (target : CheckTarget) (start : Nat) (listening : Bool)
    (now : Nat) (t : PollTask) (ms : List (Nat × Mark)) : Prop
  | waiting {ends : List Nat} : InTime config start ends →
      ms = wholePolls target start config.interval ends →
      t.phase = .waiting (start + ends.length * config.interval) →
      now ≤ start + ends.length * config.interval →
      OnTime config target start listening now t ms
  | polling {ends : List Nat} {ready : Nat} : InTime config start ends →
      ms = wholePolls target start config.interval ends ++
        [(start + ends.length * config.interval, .asked target)] →
      t.underWay? = some (start + ends.length * config.interval + config.interval,
        start + ends.length * config.interval + config.timeout, ready) →
      start + ends.length * config.interval ≤ now → now ≤ ready →
      now ≤ start + ends.length * config.interval + config.timeout →
      OnTime config target start listening now t ms
  /-- The last poll ended, and nobody took its report. -/
  | stopped {ends : List Nat} : InTime config start ends →
      ms = wholePolls target start config.interval ends ++
        [(start + ends.length * config.interval, .asked target)] →
      t.phase = .stopped → start + ends.length * config.interval ≤ now → listening = false →
      OnTime config target start listening now t ms

/-- Nothing is due for the task any more. -/
def Rested (t : PollTask) (now : Nat) : Prop := ∀ wake, t.wakesAt now = some wake → now < wake

variable {config : PollConfig} {target : CheckTarget} {start now : Nat} {listening : Bool}
  {t : PollTask} {ms : List (Nat × Mark)}

/-- A turn whose time has come asks for the state of the object. -/
theorem step_waiting (config : PollConfig) (source : Source) (listening : Bool) (now : Nat)
    (hc : t.cancelled = false) {due : Nat} (hp : t.phase = .waiting due) :
    ∃ slug ready answer, now ≤ ready ∧
      t.step config source listening now =
        ({ t with
            phase := .askedState (config.nextTurn due now) (now + config.timeout) slug ready
              answer }, [.askState t.target]) := by
  refine ⟨t.slug, now + (source.objectState now t.target).delay,
    (source.objectState now t.target).outcome, Nat.le_add_right now _, ?_⟩
  unfold step
  rw [hp, if_neg (Bool.eq_false_iff.mp hc)]

/-- A poll under way asks its second question, and keeps its time limit, or it ends. -/
theorem step_underWay (config : PollConfig) (source : Source) (listening : Bool) (now : Nat)
    (hc : t.cancelled = false) {nextDue deadline ready : Nat}
    (hp : t.underWay? = some (nextDue, deadline, ready)) :
    (∃ slug found ready' answer, now ≤ ready' ∧ ready ≤ deadline ∧
      t.step config source listening now =
        ({ t with phase := .askedConfig nextDue deadline found ready' answer }, [.askConfig slug])) ∨
    ∃ found, t.step config source listening now = t.finish listening nextDue found := by
  unfold underWay? at hp
  unfold step
  rw [if_neg (Bool.eq_false_iff.mp hc)]
  cases hphase : t.phase with
  | waiting due | stopped =>
    rw [hphase] at hp
    cases hp
  | askedState nextDue' deadline' slug ready' answer =>
    rw [hphase] at hp
    cases hp
    by_cases hlate : deadline < ready
    · simp only [hlate, ↓reduceIte]
      exact .inr ⟨_, rfl⟩
    · simp only [hlate, ↓reduceIte]
      cases answer with
      | error e => exact .inr ⟨_, rfl⟩
      | ok found =>
        exact .inl ⟨slug, found, _, _, Nat.le_add_right now _, Nat.le_of_not_lt hlate, rfl⟩
  | askedConfig nextDue' deadline' found ready' answer =>
    rw [hphase] at hp
    cases hp
    by_cases hlate : deadline < ready
    · simp only [hlate, ↓reduceIte]
      exact .inr ⟨_, rfl⟩
    · simp only [hlate, ↓reduceIte]
      exact .inr ⟨_, rfl⟩

theorem wakesAt_underWay {nextDue deadline ready : Nat}
    (hp : t.underWay? = some (nextDue, deadline, ready)) :
    t.wakesAt now = some (max now (min ready deadline)) := by
  unfold underWay? at hp
  unfold wakesAt
  cases hphase : t.phase with
  | waiting due | stopped =>
    rw [hphase] at hp
    cases hp
  | askedState | askedConfig =>
    rw [hphase] at hp
    cases hp
    rfl

/-- The marks of the end of a poll: one, if somebody takes the report. -/
theorem marks_finish (nextDue wake : Nat)
    (found : Except FetchError (ObjectState × AlertConfig)) :
    marks ((t.finish listening nextDue found).2.map (wake, ·)) =
      if listening then [(wake, .ended)] else [] := by
  rw [finish_eq]
  cases (t.observed found).2 <;> cases listening <;> rfl

/-- The end of a poll that is on time. -/
theorem OnTime.finish {ends : List Nat} {wake : Nat} (hin : InTime config start ends)
    (after : start + ends.length * config.interval ≤ wake)
    (before : wake ≤ start + ends.length * config.interval + config.timeout)
    (hle : config.timeout ≤ config.interval)
    (found : Except FetchError (ObjectState × AlertConfig)) :
    let ended :=
      t.finish listening (start + ends.length * config.interval + config.interval) found
    OnTime config target start listening wake ended.1
      (wholePolls target start config.interval ends ++
        [(start + ends.length * config.interval, .asked target)] ++
        marks (ended.2.map (wake, ·))) := by
  intro ended
  have hmarks : marks (ended.2.map (wake, ·)) = if listening then [(wake, .ended)] else [] :=
    t.marks_finish _ wake found
  have hended : ended.1.phase =
      if listening then
        .waiting (start + ends.length * config.interval + config.interval) else .stopped :=
    congrArg (fun r => r.1.phase) (t.finish_eq listening _ found)
  rw [hmarks]
  cases listening with
  | true =>
    have hlength : start + (ends ++ [wake]).length * config.interval =
        start + ends.length * config.interval + config.interval := by
      rw [List.length_append, List.length_singleton, Nat.add_mul, Nat.one_mul, Nat.add_assoc]
    refine .waiting (hin.concat after before) ?_ ?_ ?_
    · rw [wholePolls_concat, List.append_assoc]
      rfl
    · rw [hlength]
      exact hended
    · rw [hlength]
      omega
  | false => exact .stopped hin (List.append_nil _) hended after rfl

/-- **A turn keeps a task on time.** It comes when it is due. -/
theorem OnTime.step (h : OnTime config target start listening now t ms) (htarget : t.target = target)
    (hle : config.timeout ≤ config.interval) (hc : t.cancelled = false) {wake : Nat}
    (hwake : t.wakesAt now = some wake) (source : Source) :
    OnTime config target start listening wake (t.step config source listening wake).1
      (ms ++ marks ((t.step config source listening wake).2.map (wake, ·))) := by
  cases h with
  | @waiting ends hin hms hp hnow =>
    obtain rfl : start + ends.length * config.interval = wake := by
      unfold wakesAt at hwake
      rw [hp] at hwake
      have := Option.some.inj hwake
      omega
    obtain ⟨slug, ready, answer, hready, hstep⟩ := step_waiting config source listening
      (start + ends.length * config.interval) hc hp
    have hnext : config.nextTurn (start + ends.length * config.interval)
        (start + ends.length * config.interval) =
          start + ends.length * config.interval + config.interval := by
      unfold PollConfig.nextTurn punctuality
      exact if_neg (by omega)
    rw [hstep, hms, hnext, htarget]
    exact .polling hin rfl rfl (Nat.le_refl _) hready (Nat.le_add_right _ _)
  | @polling ends ready hin hms hp hbegun hready hdeadline =>
    have hwake' := (wakesAt_underWay hp).symm.trans hwake
    have hbounds : start + ends.length * config.interval ≤ wake ∧
        wake ≤ start + ends.length * config.interval + config.timeout := by
      have := Option.some.inj hwake'
      omega
    rcases step_underWay config source listening wake hc hp with
      ⟨slug, found, ready', answer, hready', hanswered, hstep⟩ | ⟨found, hstep⟩
    · rw [hstep, hms]
      refine .polling hin (List.append_nil _) rfl hbounds.1 hready' hbounds.2
    · rw [hstep, hms]
      exact .finish hin hbounds.1 hbounds.2 hle found
  | stopped hin hms hp hbegun hl =>
    unfold wakesAt at hwake
    rw [hp] at hwake
    cases hwake

/-- A task that is on time stays so until the time it waits for. -/
theorem OnTime.later (h : OnTime config target start listening now t ms) {now' : Nat}
    (hnow : now ≤ now') (hwake : ∀ wake, t.wakesAt now = some wake → now' ≤ wake) :
    OnTime config target start listening now' t ms := by
  cases h with
  | @waiting ends hin hms hp hdue =>
    refine .waiting hin hms hp ?_
    have := hwake (max now (start + ends.length * config.interval)) (by unfold wakesAt; rw [hp])
    omega
  | polling hin hms hp hbegun hready hdeadline =>
    have := hwake _ (wakesAt_underWay hp)
    exact .polling hin hms hp (by omega) (by omega) (by omega)
  | stopped hin hms hp hbegun hl => exact .stopped hin hms hp (by omega) hl

/-- What a task waits for does not change while it waits. -/
theorem wakesAt_of_lt {wake horizon : Nat} (hwake : t.wakesAt now = some wake)
    (hnow : now ≤ horizon) (hlt : horizon < wake) : t.wakesAt horizon = some wake := by
  unfold wakesAt at hwake ⊢
  cases hp : t.phase with
  | stopped =>
    rw [hp] at hwake
    cases hwake
  | waiting | askedState | askedConfig =>
    rw [hp] at hwake
    have := Option.some.inj hwake
    exact congrArg some (by omega)

theorem wakesAt_eq_none_iff : t.wakesAt now = none ↔ t.phase = .stopped := by
  unfold wakesAt
  cases t.phase <;> simp

/-- **Time keeps a task on time**, and leaves nothing undone that is due. -/
theorem OnTime.advance (h : OnTime config target start listening now t ms)
    (htarget : t.target = target) (hle : config.timeout ≤ config.interval)
    (hc : t.cancelled = false) (source : Source) {horizon : Nat} (hnow : now ≤ horizon) :
    OnTime config target start listening horizon
        (t.advance config source listening horizon now).1
        (ms ++ marks (t.advance config source listening horizon now).2) ∧
      (t.advance config source listening horizon now).1.Rested horizon := by
  fun_induction PollTask.advance config source listening horizon now t generalizing ms with
  | case1 now t hnone =>
    have rested : ∀ n wake, t.wakesAt n ≠ some wake := by
      intro n wake hwake
      rw [wakesAt_eq_none_iff.mpr (wakesAt_eq_none_iff.mp hnone)] at hwake
      cases hwake
    refine ⟨?_, fun wake hwake => absurd hwake (rested horizon wake)⟩
    exact (List.append_nil ms).symm ▸
      h.later hnow fun wake hwake => absurd hwake (rested now wake)
  | case2 now t wake hwake hwh next rest =>
    rename_i ih
    have hstep := h.step htarget hle hc hwake source
    have htarget' : next.1.target = target :=
      (Turn.after_target ⟨config, source, listening, wake, t⟩).trans htarget
    have hc' : next.1.cancelled = false :=
      (Turn.after_cancelled ⟨config, source, listening, wake, t⟩).trans hc
    obtain ⟨hrest, rested⟩ := ih hstep htarget' hc' hwh
    refine ⟨?_, rested⟩
    show OnTime _ _ _ _ _ rest.1 (ms ++ marks (next.2.map (wake, ·) ++ rest.2))
    rw [marks_append, ← List.append_assoc]
    exact hrest
  | case3 now t wake hwake hgt =>
    have hlt : horizon < wake := Nat.lt_of_not_le hgt
    refine ⟨?_, fun wake' hwake' => ?_⟩
    · refine (List.append_nil ms).symm ▸ h.later hnow fun wake' hwake' => ?_
      obtain rfl := Option.some.inj (hwake.symm.trans hwake')
      exact Nat.le_of_lt hlt
    · obtain rfl := Option.some.inj ((wakesAt_of_lt hwake hnow hlt).symm.trans hwake')
      exact hlt

/-- Hearing of policies and slugs makes nobody late. -/
theorem OnTime.of_heard (h : OnTime config target start listening now t ms) {t' : PollTask}
    (heard : t.Heard t') : OnTime config target start listening now t' ms := by
  have hunder : t'.underWay? = t.underWay? := by
    unfold underWay?
    rw [heard.phase]
  cases h with
  | waiting hin hms hp hnow => exact .waiting hin hms (heard.phase.trans hp) hnow
  | polling hin hms hp hbegun hready hdeadline =>
    exact .polling hin hms (hunder.trans hp) hbegun hready hdeadline
  | stopped hin hms hp hbegun hl => exact .stopped hin hms (heard.phase.trans hp) hbegun hl

theorem Rested.of_heard (h : t.Rested now) {t' : PollTask} (heard : t.Heard t') :
    t'.Rested now := by
  have hwakes : t'.wakesAt now = t.wakesAt now := by
    unfold wakesAt
    rw [heard.phase]
  intro wake hwake
  exact h wake (hwakes.symm.trans hwake)

/-- Nor does it matter for the time that nobody takes the reports any more. -/
theorem OnTime.of_closed (h : OnTime config target start listening now t ms) :
    OnTime config target start false now t ms := by
  cases h with
  | waiting hin hms hp hnow => exact .waiting hin hms hp hnow
  | polling hin hms hp hbegun hready hdeadline => exact .polling hin hms hp hbegun hready hdeadline
  | stopped hin hms hp hbegun hl => exact .stopped hin hms hp hbegun rfl

variable (config listening now t)

theorem advance_target (source : Source) (horizon : Nat) :
    (t.advance config source listening horizon now).1.target = t.target := by
  fun_induction PollTask.advance config source listening horizon now t with
  | case1 now t hwake => rfl
  | case2 now t wake hwake hle next rest ih =>
    exact ih.trans (Turn.after_target ⟨config, source, listening, wake, t⟩)
  | case3 now t wake hwake hgt => rfl

theorem advance_cancelled (source : Source) (horizon : Nat) :
    (t.advance config source listening horizon now).1.cancelled = t.cancelled := by
  fun_induction PollTask.advance config source listening horizon now t with
  | case1 now t hwake => rfl
  | case2 now t wake hwake hle next rest ih =>
    exact ih.trans (Turn.after_cancelled ⟨config, source, listening, wake, t⟩)
  | case3 now t wake hwake hgt => rfl

end PollTask

/-! ## The life of a fleet -/

@[simp] theorem Occurrence.marksOf_append (id : PollerId) (os os' : List Occurrence) :
    marksOf id (os ++ os') = marksOf id os ++ marksOf id os' := by
  unfold marksOf
  rw [List.filter_append, List.map_append, marks_append]

/-- A number names one of the tasks. -/
theorem Fleet.Numbered.split {f : Fleet} (hf : f.Numbered) {id : PollerId} {t : PollTask}
    (ht : f.task? id = some t) :
    ∃ pre post, f.tasks = pre ++ t :: post ∧ (∀ u ∈ pre, u.id ≠ id) ∧ ∀ u ∈ post, u.id ≠ id := by
  obtain ⟨hid, pre, post, htasks, hpre⟩ := List.find?_eq_some_iff_append.mp ht
  refine ⟨pre, post, htasks, fun u hu => ?_, fun u hu hsame => ?_⟩
  · simpa using hpre u hu
  · obtain ⟨j, hj⟩ := List.mem_iff_getElem?.mp hu
    have ht' : f.tasks[pre.length]? = some t := by
      rw [htasks, List.getElem?_append_right (Nat.le_refl _), Nat.sub_self]
      rfl
    have hu' : f.tasks[pre.length + (j + 1)]? = some u := by
      rw [htasks, List.getElem?_append_right (Nat.le_add_right _ _), Nat.add_sub_cancel_left]
      exact hj
    have hnumber : (⟨pre.length⟩ : PollerId) = ⟨pre.length + (j + 1)⟩ := by
      rw [← hf _ t ht', ← hf _ u hu', of_decide_eq_true hid, hsame]
    have := congrArg PollerId.number hnumber
    simp only at this
    omega

/-- A task's marks while time passes are those of its own advance. -/
theorem Fleet.marksOf_advance {f : Fleet} (hf : f.Numbered) {id : PollerId} {t : PollTask}
    (ht : f.task? id = some t) (source : Source) (ms : Nat) :
    Occurrence.marksOf id (f.advance source ms).2 =
      marks (t.advance f.config source f.listening (f.clock + ms) f.clock).2 := by
  let run (u : PollTask) : List Occurrence :=
    (u.advance f.config source f.listening (f.clock + ms) f.clock).2.map fun a =>
      { time := a.1, poller := u.id, act := a.2 }
  have hruns : (f.advance source ms).2 = f.tasks.flatMap run := by
    unfold advance
    exact List.flatMap_map _ _ f.tasks
  have others : ∀ us : List PollTask, (∀ u ∈ us, u.id ≠ id) →
      Occurrence.marksOf id (us.flatMap run) = [] := by
    intro us hus
    have none : (us.flatMap run).filter (·.poller = id) = [] := by
      refine List.filter_eq_nil_iff.mpr fun o ho hid => ?_
      obtain ⟨u, hu, ho⟩ := List.mem_flatMap.mp ho
      obtain ⟨a, -, rfl⟩ := List.mem_map.mp ho
      exact hus u hu (of_decide_eq_true hid)
    unfold Occurrence.marksOf
    rw [none]
    rfl
  have own : Occurrence.marksOf id (run t) =
      marks (t.advance f.config source f.listening (f.clock + ms) f.clock).2 := by
    have all : (run t).filter (·.poller = id) = run t := by
      refine List.filter_eq_self.mpr fun o ho => ?_
      obtain ⟨a, -, rfl⟩ := List.mem_map.mp ho
      exact decide_eq_true (Fleet.task?_id ht)
    unfold Occurrence.marksOf
    rw [all, List.map_map]
    exact congrArg marks (List.map_id _)
  obtain ⟨pre, post, htasks, hpre, hpost⟩ := hf.split ht
  rw [hruns, htasks, List.flatMap_append, List.flatMap_cons, Occurrence.marksOf_append,
    Occurrence.marksOf_append, others pre hpre, others post hpost, own, List.nil_append,
    List.append_nil]

/-- What can become of a fleet, and what happens meanwhile: tasks are told things and others are
started, time passes with some source or other, and one day perhaps nobody takes the reports any
more. -/
inductive Fleet.Life (f : Fleet) : Fleet → List Occurrence → Prop
  | refl : Life f f []
  | told {g h : Fleet} {os : List Occurrence} : Life f g os → Told g h → Life f h os
  | advance {g : Fleet} {os : List Occurrence} (source : Source) (ms : Nat) :
      Life f g os → Life f (g.advance source ms).1 (os ++ (g.advance source ms).2)
  | close {g : Fleet} {os : List Occurrence} : Life f g os → Life f g.close os

namespace Fleet.Life

variable {f g : Fleet} {os : List Occurrence}

theorem config (life : Life f g os) : g.config = f.config := by
  induction life with
  | refl => rfl
  | told _ told ih => exact told.config.trans ih
  | advance _ _ _ ih | close _ ih => exact ih

theorem numbered (life : Life f g os) (hf : f.Numbered) : g.Numbered := by
  induction life with
  | refl => exact hf
  | told _ told ih => exact told.numbered ih
  | advance source ms _ ih => exact ih.advance source ms
  | close _ ih => exact ih

/-- A task that is there stays. -/
theorem known (life : Life f g os) (hf : f.Numbered) {id : PollerId} {t : PollTask}
    (ht : f.task? id = some t) : ∃ u, g.task? id = some u := by
  induction life with
  | refl => exact ⟨t, ht⟩
  | told life told ih =>
    obtain ⟨u, hu⟩ := ih
    obtain ⟨u', hu', -⟩ := told.old (life.numbered hf) hu
    exact ⟨u', hu'⟩
  | advance source ms _ ih =>
    obtain ⟨u, hu⟩ := ih
    exact ⟨_, by rw [Fleet.task?_advance, hu]; rfl⟩
  | close _ ih => exact ih

/-- A task that was not started before the life began, and was not cancelled since, is on time. It
has taken no turn yet, or nothing is due for it any more. -/
theorem onTime {target : CheckTarget} (hf : f.Numbered)
    (hle : f.config.timeout ≤ f.config.interval) {id : PollerId} {t₀ : PollTask}
    (h₀ : f.task? id = some t₀) (hnew : t₀.phase = .waiting f.clock) (htarget : t₀.target = target)
    (life : Life f g os) {t : PollTask} (ht : g.task? id = some t) (hc : t.cancelled = false) :
    t.target = target ∧
      t.OnTime f.config target f.clock g.listening g.clock (Occurrence.marksOf id os) ∧
      (t.Rested g.clock ∨ g.clock = f.clock ∧ Occurrence.marksOf id os = []) := by
  induction life generalizing t with
  | refl =>
    obtain rfl := Option.some.inj (h₀.symm.trans ht)
    refine ⟨htarget, .waiting (.nil f.config f.clock) rfl ?_ ?_, .inr ⟨rfl, rfl⟩⟩
    · simpa using hnew
    · simp
  | @told g h os life told ih =>
    obtain ⟨u, hu⟩ := life.known hf h₀
    obtain ⟨t', ht', heard⟩ := told.old (life.numbered hf) hu
    obtain rfl := Option.some.inj (ht'.symm.trans ht)
    have hc' : u.cancelled = false := by
      cases hu : u.cancelled with
      | false => rfl
      | true => exact absurd (heard.cancelled hu) (by rw [hc]; decide)
    obtain ⟨htarget', ontime, rested⟩ := ih hu hc'
    rw [told.clock, told.listening]
    refine ⟨heard.target.trans htarget', ontime.of_heard heard, rested.imp_left fun h => ?_⟩
    exact h.of_heard heard
  | @advance g os source ms life ih =>
    rw [Fleet.task?_advance] at ht
    obtain ⟨u, hu, rfl⟩ := Option.map_eq_some_iff.mp ht
    have hc' : u.cancelled = false := (u.advance_cancelled _ _ _ source _).symm.trans hc
    obtain ⟨htarget', ontime, -⟩ := ih hu hc'
    have hle' : g.config.timeout ≤ g.config.interval := life.config ▸ hle
    rw [← life.config] at ontime ⊢
    obtain ⟨ontime', rested'⟩ := ontime.advance htarget' hle' hc' source
      (Nat.le_add_right g.clock ms)
    rw [Occurrence.marksOf_append, Fleet.marksOf_advance (life.numbered hf) hu]
    exact ⟨(u.advance_target _ _ _ source _).trans htarget', ontime', .inl rested'⟩
  | close life ih =>
    obtain ⟨htarget', ontime, rested⟩ := ih ht hc
    exact ⟨htarget', ontime.of_closed, rested⟩

end Fleet.Life

/-! ## The cadence -/

/-- The marks that a task has left at a time, if it polls an object from `start` on: those of whole
polls, and then either nothing, until the next poll is due, or the beginning of one, which is not over
its limit unless nobody was there to take its report. -/
def KeepsCadence (config : PollConfig) (target : CheckTarget) (start now : Nat) (listening : Bool)
    (ms : List (Nat × Mark)) : Prop :=
  ∃ ends : List Nat,
    (∀ k e, ends[k]? = some e →
      start + k * config.interval ≤ e ∧ e ≤ start + k * config.interval + config.timeout ∧
        e ≤ start + (k + 1) * config.interval) ∧
    let whole := wholePolls target start config.interval ends
    let next := start + ends.length * config.interval
    (ms = whole ∧ (now < next ∨ ms = [] ∧ now = start)) ∨
      (ms = whole ++ [(next, .asked target)] ∧ next ≤ now ∧
        (now < next + config.timeout ∨ listening = false))

theorem PollTask.OnTime.keepsCadence {config : PollConfig} {target : CheckTarget} {start now : Nat}
    {listening : Bool} {t : PollTask} {ms : List (Nat × Mark)}
    (h : t.OnTime config target start listening now ms)
    (rested : t.Rested now ∨ now = start ∧ ms = []) (hle : config.timeout ≤ config.interval) :
    KeepsCadence config target start now listening ms := by
  have within : ∀ {ends}, InTime config start ends → ∀ k e, ends[k]? = some e →
      start + k * config.interval ≤ e ∧ e ≤ start + k * config.interval + config.timeout ∧
        e ≤ start + (k + 1) * config.interval := by
    intro ends hin k e hk
    obtain ⟨after, before⟩ := hin k e hk
    refine ⟨after, before, ?_⟩
    rw [Nat.add_mul, Nat.one_mul]
    omega
  cases h with
  | @waiting ends hin hms hp hnow =>
    refine ⟨ends, within hin, .inl ⟨hms, ?_⟩⟩
    rcases rested with rested | ⟨hstart, hnil⟩
    · have := rested (max now (start + ends.length * config.interval))
        (by unfold wakesAt; rw [hp])
      omega
    · exact .inr ⟨hnil, hstart⟩
  | @polling ends ready hin hms hp hbegun hready hdeadline =>
    refine ⟨ends, within hin, .inr ⟨hms, hbegun, .inl ?_⟩⟩
    rcases rested with rested | ⟨-, hnil⟩
    · have := rested _ (wakesAt_underWay hp)
      omega
    · rw [hnil] at hms
      simp at hms
  | stopped hin hms hp hbegun hl => exact ⟨_, within hin, .inr ⟨hms, hbegun, .inr hl⟩⟩

/-- Settings that were loaded, from a file or because there was none, keep a poll's time limit within
the interval. -/
theorem Settings.timeout_le_interval_of_load {path : String} {place : Settings.Place}
    {loaded : Settings.Loaded} (h : Settings.load path place = .ok loaded) :
    loaded.settings.fetchTimeoutSecs ≤ loaded.settings.pollIntervalSecs :=
  (Settings.withinBounds_of_load h).timeout.2

/-- **Polls keep their cadence.** Settings that were loaded never let a poll take longer than the
interval. If it may not, then whatever the source answers, and whatever happens to the fleet, a task
that was not cancelled polls at the time it was started and then every interval: it has asked at each
of these times until now, and each poll ended within its limit and before the next one began. Only a
poll whose end nobody hears of is the last. -/
theorem polls_keep_cadence :
    (∀ invocation level path place session,
      Cli.Session.load invocation level path place = .ok session →
        session.pollConfig.timeout ≤ session.pollConfig.interval) ∧
    ∀ (f : Fleet) (widget : WidgetId) (target : CheckTarget) (slug : String) (policy : SoundPolicy)
      (g : Fleet) (os : List Occurrence) (t : PollTask),
      f.Numbered → f.config.timeout ≤ f.config.interval →
      Fleet.Life (f.spawn widget target slug policy).1 g os →
      g.task? (f.spawn widget target slug policy).2 = some t → t.cancelled = false →
      KeepsCadence f.config target f.clock g.clock g.listening
        (Occurrence.marksOf (f.spawn widget target slug policy).2 os) := by
  refine ⟨fun invocation level path place session h => ?_,
    fun f widget target slug policy g os t hf hle life ht hc => ?_⟩
  · unfold Cli.Session.load at h
    cases hload : Settings.load path place with
    | error fault =>
      rw [hload] at h
      cases h
    | ok loaded =>
      rw [hload] at h
      cases h
      have := Settings.timeout_le_interval_of_load hload
      show loaded.settings.fetchTimeoutSecs * 1000 ≤ max (loaded.settings.pollIntervalSecs * 1000) 1
      omega
  · obtain ⟨-, ontime, rested⟩ := life.onTime (hf.spawn widget target slug policy) hle
      (Fleet.task?_spawn_self hf widget target slug policy) rfl rfl ht hc
    exact ontime.keepsCadence rested hle

/-- A source whose answers to the first question take exactly as long as they may, and the interval
too. -/
def slowSource : Source where
  objectState _ _ := { delay := 1000, outcome := .ok { resultCode := 0 } }
  alertConfig _ _ := { delay := 0, outcome := .ok {} }

/-- The first three polls of a task, each of which begins as the one before it ends. -/
theorem slow_source_keeps_cadence :
    let f : Fleet := { config := { interval := 1000, timeout := 1000, interval_pos := by decide } }
    let target : CheckTarget := { objectType := .service, filter := "web" }
    let g := (f.spawn ⟨0⟩ target "wall" {}).1.advance slowSource 2500
    KeepsCadence f.config target 0 2500 true (Occurrence.marksOf ⟨0⟩ g.2) ∧
      Occurrence.marksOf ⟨0⟩ g.2 =
        [(0, .asked target), (1000, .ended), (1000, .asked target), (2000, .ended),
         (2000, .asked target)] := by
  intro f target g
  have hf : f.Numbered := fun i t h => nomatch h
  have life : Fleet.Life (f.spawn ⟨0⟩ target "wall" {}).1 g.1 ([] ++ g.2) :=
    Fleet.Life.refl.advance slowSource 2500
  have hcancelled : (g.1.task? ⟨0⟩).map (·.cancelled) = some false := by
    cbv
  obtain ⟨t, ht, hc⟩ := Option.map_eq_some_iff.mp hcancelled
  refine ⟨?_, by cbv⟩
  exact polls_keep_cadence.2 f ⟨0⟩ target "wall" {} g.1 ([] ++ g.2) t hf (Nat.le_refl _) life ht hc

/-- After everybody stopped listening, the first poll is the last, although the task was not
cancelled and the next one would have been due twice. -/
theorem unheard_poll_is_the_last :
    let f : Fleet := { config := { interval := 1000, timeout := 1000, interval_pos := by decide } }
    let target : CheckTarget := { objectType := .service, filter := "web" }
    let g := (f.spawn ⟨0⟩ target "wall" {}).1.close.advance slowSource 2500
    (g.1.task? ⟨0⟩).map (·.cancelled) = some false ∧
      Occurrence.marksOf ⟨0⟩ g.2 = [(0, .asked target)] := by
  intro f target g
  exact ⟨by cbv, by cbv⟩

end StatusWall
