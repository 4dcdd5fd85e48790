import StatusWall.Proofs.Board.Sound

/-!
# Alerts over the life of a task

A task plays an alert when the state it finds is not the one it found before, and never otherwise:
over its whole life, the states of its alerts are the states of its answered polls without immediate
repetitions. Polls that fail come in between without a trace. Commands cannot disturb this, whatever
they do to the task's policy and slug, because they never touch its memory (`PollTask.Trail`).

Which polls are answered is decided by the source: those for which both answers come within the time
limit, counted from the beginning of the poll (`PollTask.Course`). How an alert sounds is decided by the
policy the task goes by when the poll ends and by the word of the board that the poll itself got.
`turn_moment` finds the moment a turn was taken at, so that the policy can be compared with the document
of that moment.
-/

namespace StatusWall

open StatusWall.Geometry

variable {α : Type}

/-- What an alert of a turn is like: it is for the state that was found; it is silent exactly if the
task's policy or the board's word mutes it; and its sound is the policy's own, else the board's,
where a blank one does not count. -/
structure Turn.Plays (u : Turn) (found : ObjectState) (word : AlertConfig) (s : AlertSound) :
    Prop where
  state : s.state = u.task.resolved found
  volume : s.volume = if u.task.policy.muted = true ∨ word.globalMute = true then 0 else 1
  url : s.url =
    ((u.task.policy.overrides.entry s.state).filter fun url => !Text.isBlankText url).or
      ((word.defaultSounds.entry s.state).filter fun url => !Text.isBlankText url)

namespace Turn

/-- An alert that was played is one that the ending made due. -/
theorem plays_of_mem_sounds {u : Turn} {s : AlertSound} (hs : s ∈ u.sounds) :
    ∃ found word, u.ending? = some (.ok (found, word)) ∧ u.Plays found word s := by
  rcases u.resolved?_cases with ⟨-, hnone, -⟩ | ⟨found, word, hending, -, hsounds, -⟩
  · rw [hnone] at hs
    cases hs
  · refine ⟨found, word, hending, ?_⟩
    rw [hsounds] at hs
    unfold AlertMachine.observe at hs
    split at hs
    · cases hs
    · cases List.mem_singleton.mp hs
      refine ⟨rfl, ?_, rfl⟩
      unfold AlertSound.volume SoundPolicy.isAudible
      cases u.task.policy.muted <;> cases word.globalMute <;> rfl

/-- Whoever listens gets the endings of the polls. -/
theorem flatMap_reports (us : List Turn) :
    us.flatMap Turn.reports =
      (us.filter (·.listening)).filterMap fun u => u.ending?.map u.task.reportOf := by
  induction us with
  | nil => rfl
  | cons u us ih =>
    rw [List.flatMap_cons, ih, u.reports_eq]
    cases hl : u.listening with
    | false =>
      rw [List.filter_cons_of_neg (by rw [hl]; exact Bool.false_ne_true)]
      rfl
    | true =>
      rw [List.filter_cons_of_pos hl, List.filterMap_cons]
      cases u.ending? <;> rfl

end Turn

namespace Chronicle

variable [Scalar α]

/-- Every turn in a log was taken at some moment, after the turns before it in the log. -/
theorem turn_moment {c : Chronicle α} (hc : c.turns = []) {ms : List (Moment α)} {id : PollerId}
    {pre post : List Turn} {u : Turn} (h : (c.run ms).turnsOf id = pre ++ u :: post) :
    ∃ ms₁ source now ms₂, ms = ms₁ ++ .turn id source now :: ms₂ ∧
      (c.run ms₁).turnsOf id = pre ∧ (c.run ms₁).turnAt id source now = some u := by
  -- Either the last moment took the turn, or the turn was in the log before it.
  induction ms using List.reverseRecOn generalizing post with
  | nil =>
    have hnil : (c.run []).turnsOf id = [] := by
      show c.turns.filter _ = []
      rw [hc]
      rfl
    rw [hnil] at h
    exact absurd h.symm (List.append_ne_nil_of_right_ne_nil _ (List.cons_ne_nil _ _))
  | append_singleton ms m ih =>
    have later : ∀ post', (c.run ms).turnsOf id = pre ++ u :: post' →
        ∃ ms₁ source now ms₂, ms ++ [m] = ms₁ ++ .turn id source now :: ms₂ ∧
          (c.run ms₁).turnsOf id = pre ∧ (c.run ms₁).turnAt id source now = some u := by
      intro post' h'
      obtain ⟨ms₁, source, now, ms₂, rfl, hpre, hu⟩ := ih h'
      exact ⟨ms₁, source, now, ms₂ ++ [m], by simp, hpre, hu⟩
    rw [run_append] at h
    rcases (c.run ms).turnsOf_step m id with hsame | ⟨source, now, v, rfl, hv, hlog⟩
    · exact later post (hsame.symm.trans h)
    · rcases split_concat (hlog.symm.trans h) with ⟨hpre, rfl⟩ | ⟨post', hbefore⟩
      · exact ⟨ms, source, now, [], rfl, hpre, hv⟩
      · exact later post' hbefore

/-- **One alert per transition.** Over any run, the states of a task's alerts are the states of its
answered polls without immediate repetitions, and polls that were not answered leave no trace. Each
alert belongs to the poll that ended with it, and sounds as the policy of that moment, which is the
widget's, and the board's word say. The reports are the endings of the polls, in their order. And a poll
ends as the source has it: answered if both answers come within the limit, else with the failure that
came first, or overdue. -/
theorem alerts_once_per_transition (d : Dashboard α) (polling : Option PollConfig)
    (ms : List (Moment α)) (id : PollerId) :
    let us := ((start d polling).run ms).turnsOf id
    (us.flatMap Turn.sounds).map (·.state) = (us.filterMap Turn.resolved?).destutter (· ≠ ·) ∧
    (∀ u ∈ us, u.resolved? = none → u.sounds = [] ∧ u.after.machine = u.task.machine) ∧
    (∀ pre u post, us = pre ++ u :: post → ∀ s ∈ u.sounds,
      ∃ found word, u.ending? = some (.ok (found, word)) ∧
        PollTask.Answered pre found word ∧ u.Plays found word s) ∧
    (∀ pre u post, us = pre ++ u :: post →
      ∃ ms₁ source now ms₂, ms = ms₁ ++ .turn id source now :: ms₂ ∧
        ((start d polling).run ms₁).turnsOf id = pre ∧
        let b := ((start d polling).run ms₁).board
        b.task? id = some u.task ∧
        ∀ w ∈ b.widgets, ∀ h, w.poller = some h → h.id = id →
          ∃ e check, b.element? w.id = some e ∧ e.checkOptions? = some check ∧
            u.task.policy = check.policy) ∧
    us.flatMap Turn.reports =
      (us.filter (·.listening)).filterMap (fun u => u.ending?.map u.task.reportOf) ∧
    ∀ config, polling = some config → PollTask.Course config us := by
  intro us
  have hc : ((start d polling).run ms).Sound := (Sound.start d polling).run ms
  have hconfig : ∀ u ∈ us, some u.config = polling := fun u hu =>
    ((Configured.start d polling).run (.start d polling) ms).turns u (List.mem_filter.mp hu).1
  obtain ⟨t, trail⟩ := hc.exists_trail id
  refine ⟨trail.sounds, fun u _ hnone => ?_, fun pre u post hsplit s hs => ?_,
    fun pre u post hsplit => ?_, Turn.flatMap_reports us, fun config hpolling => ?_⟩
  · rcases u.resolved?_cases with ⟨-, hsilent, hmachine⟩ | ⟨_, _, -, hsome, -⟩
    · exact ⟨hsilent, hmachine⟩
    · cases hnone.symm.trans hsome
  · obtain ⟨found, word, hending, hplays⟩ := Turn.plays_of_mem_sounds hs
    exact ⟨found, word, hending, trail.answered pre u post found word hsplit hending, hplays⟩
  · obtain ⟨ms₁, source, now, ms₂, hms, hpre, hu⟩ := turn_moment (c := start d polling) rfl hsplit
    have hb := ((Sound.start d polling).run ms₁).inStep
    refine ⟨ms₁, source, now, ms₂, hms, hpre, task?_of_turnAt hu, fun w hw h hp hid => ?_⟩
    obtain ⟨e, he⟩ := hb.aligned.exists_entry hw
    obtain ⟨t, ht, hwant⟩ := hb.served w e he h hp
    subst hid
    cases ht.found.symm.trans (task?_of_turnAt hu)
    obtain ⟨check, hcheck, hpolicy⟩ := e.checkOptions?_of_wanted hwant
    exact ⟨e, check, ((Board.mem_entries_iff hb.nodup).mp he).2, hcheck, hpolicy.symm⟩
  · exact trail.linked.course fun u hu => Option.some.inj ((hconfig u hu).trans hpolling)

/-- A source that finds a state, and takes its time for each of the two answers. -/
def delayedSource (found : ObjectState) (wait wait' : Nat) : Source where
  objectState _ _ := { delay := wait, outcome := .ok found }
  alertConfig _ _ := { delay := wait', outcome := .ok {} }

section

variable {u : Turn} {found : ObjectState} {wait wait' : Nat}

theorem stateAnswer_delayedSource (h : u.source = delayedSource found wait wait') :
    u.stateAnswer = { delay := wait, outcome := .ok found } := by
  rw [Turn.stateAnswer, h]
  rfl

theorem wordAnswer_delayedSource (h : u.source = delayedSource found wait wait') (slug : String) :
    u.wordAnswer slug = { delay := wait', outcome := .ok {} } := by
  rw [Turn.wordAnswer, h]
  rfl

end

/-- A poll is overdue by a millisecond, and plays nothing. The next one gets its second answer at the
very end of its limit, and plays what it found. -/
theorem late_answers_are_heard_within_the_limit :
    let late := delayedSource { resultCode := 0 } 501 0
    let slow := delayedSource { resultCode := 0 } 200 300
    let c := (start sampleDashboard (some sampleConfig)).run
      (samplePoll (.ok { resultCode := 2 }) ++ [.turn ⟨0⟩ late 1000, .turn ⟨0⟩ late 1500])
    let us := (c.run [.turn ⟨0⟩ slow 2000, .turn ⟨0⟩ slow 2200, .turn ⟨0⟩ slow 2500]).turnsOf ⟨0⟩
    (∃ first second last, us = c.turnsOf ⟨0⟩ ++ [first, second, last] ∧
      first.time = 2000 ∧ second.time = 2200 ∧ last.time = 2500 ∧
      last.ending? = some (.ok ({ resultCode := 0 }, {}))) ∧
    (us.flatMap Turn.sounds).map (·.state) = [.critical, .ok] ∧
    (us.flatMap Turn.reports).map (·.outcome) =
      [.state .critical false, .failed "no answer within 0 seconds", .state .ok false] := by
  intro late slow c us
  obtain ⟨states, -, -, -, reports, course⟩ :=
    alerts_once_per_transition sampleDashboard (some sampleConfig)
      (samplePoll (.ok { resultCode := 2 }) ++ [.turn ⟨0⟩ late 1000, .turn ⟨0⟩ late 1500] ++
        [.turn ⟨0⟩ slow 2000, .turn ⟨0⟩ slow 2200, .turn ⟨0⟩ slow 2500]) ⟨0⟩
  rw [run_append] at states reports course
  refine ⟨?_, states.trans (by decide), (congrArg _ reports).trans (by decide)⟩
  let c₁ := c.step (.turn ⟨0⟩ slow 2000)
  let c₂ := c₁.step (.turn ⟨0⟩ slow 2200)
  have begun : (c.turnAt ⟨0⟩ slow 2000).map (fun u => decide u.Begins) = some true := by decide
  have asked : (c₁.turnAt ⟨0⟩ slow 2200).isSome = true := by decide
  have running : (c₂.turnAt ⟨0⟩ slow 2500).map (·.task.cancelled) = some false := by decide
  obtain ⟨first, hfirst, begins⟩ := Option.map_eq_some_iff.mp begun
  obtain ⟨second, hsecond⟩ := Option.isSome_iff_exists.mp asked
  obtain ⟨last, hlast, running⟩ := Option.map_eq_some_iff.mp running
  have log : us = c.turnsOf ⟨0⟩ ++ [first] ++ [second] ++ [last] := by
    rw [← turnsOf_step_of_turnAt hfirst, ← turnsOf_step_of_turnAt hsecond,
      ← turnsOf_step_of_turnAt hlast]
    rfl
  rw [List.append_assoc, List.append_assoc] at log
  obtain ⟨source₁, time₁⟩ := turnAt_eq_some hfirst
  obtain ⟨source₂, time₂⟩ := turnAt_eq_some hsecond
  have poll : PollTask.FollowsFound sampleConfig us first second last { resultCode := 0 } :=
    { next := ⟨c.turnsOf ⟨0⟩, [], by rw [log, List.append_nil]; rfl⟩
      begins := of_decide_eq_true begins
      inTime := by rw [stateAnswer_delayedSource source₁]; decide
      found := by rw [stateAnswer_delayedSource source₁]
      running }
  refine ⟨first, second, last, log, time₁, time₂, (turnAt_eq_some hlast).2, ?_⟩
  refine (course sampleConfig rfl).answered poll ?_ ?_
  · rw [wordAnswer_delayedSource source₂, time₁, time₂]
    decide
  · rw [wordAnswer_delayedSource source₂]

/-- A failure between two findings of one state causes no second alert. -/
example :
    (((sampleShown.run
      (samplePoll (.error (.timeout 1)) ++ samplePoll (.ok { resultCode := 2 }))).turnsOf
        ⟨0⟩).flatMap Turn.sounds).map (·.state) = [.critical] := by
  decide

end Chronicle

end StatusWall
