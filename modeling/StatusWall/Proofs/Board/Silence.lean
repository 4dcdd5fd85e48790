import StatusWall.Proofs.Board.Release

/-!
# A cancelled task is silent for ever

Once a task is cancelled, nothing that happens brings it back: it asks nothing, plays nothing and
reports nothing, and what it reported before no longer reaches a widget. It does not matter what the
task was waiting for when it was cancelled. `Chronicle.Silenced` says this of the smallest steps,
where turns, deliveries and commands come in any order, and `BoardRun.Silenced` of the steps of a
run; `cancelled_task_is_silent` has both, and says when a task is cancelled.

Between the two stands `held_or_cancelled_run`: a task that a widget holds is held until it is
cancelled. Only in the middle of a shutdown is there a task that nobody holds and that still runs.
-/

namespace StatusWall

open StatusWall.Geometry

variable {α : Type}

namespace Chronicle

variable {c c' : Chronicle α} {id : PollerId}

/-! ## One moment -/

/-- No moment revives a task. -/
theorem Effect.cancelled {m : Moment α} (e : Effect c m c') (hc : c.Sound)
    (h : c.board.Cancelled id) : c'.board.Cancelled id := by
  cases e with
  | changed change => exact h.of_told hc.inStep.numbered change.told
  | idled _ _ _ _ told => exact h.of_told hc.inStep.numbered told
  | turned id' source now =>
    obtain ⟨t, ht, hcancelled⟩ := h
    unfold Board.Cancelled
    rw [task?_takeTurn]
    by_cases hid : id = id'
    · subst hid
      rw [if_pos rfl]
      cases hu : c.turnAt id source now with
      | none => cases ht.symm.trans (task?_of_turnAt_eq_none hu)
      | some u =>
        cases ht.symm.trans (task?_of_turnAt hu)
        exact ⟨u.after, rfl, u.after_cancelled.trans hcancelled⟩
    · rw [if_neg hid]
      exact ⟨t, ht, hcancelled⟩
  | shown _ _ _ => exact h
  | retimed htasks _ _ =>
    unfold Board.Cancelled
    rw [c.board.task?_withFleet htasks]
    exact h
  | @stopped id' _ =>
    exact h.of_told hc.inStep.numbered (Fleet.told_map (fun _ => Fleet.Told.refl.cancel id') _)

variable [Scalar α]

/-- A widget's task is the widget's until it is cancelled, unless the board is being shut down. -/
theorem step_held_or_cancelled (hc : c.Sound) {m : Moment α} (hm : m ≠ .letGo)
    (h : c.board.Holds id) : (c.step m).board.Holds id ∨ (c.step m).board.Cancelled id := by
  obtain ⟨w, hw, k, hk, rfl⟩ := h
  by_cases hunmount : m = .command .unmount
  · subst hunmount
    obtain ⟨t, ht⟩ := hc.inStep.serves hw hk
    have known : c.board.task? k.id ≠ none := fun hnone => nomatch ht.found.symm.trans hnone
    exact .inr (Board.unmount_cancelled hc.inStep.numbered hw hk known)
  · have e := effect hc.inStep m
    generalize c.step m = c' at e
    cases e with
    | @changed _ b change =>
      by_cases hheld : b.Holds k.id
      · exact .inl hheld
      · exact .inr (change.cancelled hc.inStep hw hk hheld)
    | idled hdown _ _ _ _ =>
      cases m with
      | command command =>
        cases command with
        | unmount => exact absurd rfl hunmount
        | _ => cases hdown
      | letGo => exact absurd rfl hm
      | _ => cases hdown
    | @shown i v _ s hv _ _ =>
      obtain ⟨j, hj⟩ := List.mem_iff_getElem?.mp hw
      left
      by_cases hij : i = j
      · subst hij
        cases hv.symm.trans hj
        have hi : i < c.board.widgets.length := (List.getElem?_eq_some_iff.mp hv).1
        exact ⟨_, List.mem_set hi _, k, hk, rfl⟩
      · refine ⟨w, List.mem_of_getElem? (i := j) ?_, k, hk, rfl⟩
        rw [List.getElem?_set_ne hij, hj]
    | turned _ _ _ | retimed _ _ _ | stopped _ => exact .inl ⟨w, hw, k, hk, rfl⟩

/-! ## Whatever happens -/

theorem cancelled_run (hc : c.Sound) (h : c.board.Cancelled id) (ms : List (Moment α)) :
    (c.run ms).board.Cancelled id := by
  induction ms generalizing c with
  | nil => exact h
  | cons m ms ih => exact ih (hc.step m) ((effect hc.inStep m).cancelled hc h)

theorem held_or_cancelled_run (hc : c.Sound) (h : c.board.Holds id) {ms : List (Moment α)}
    (hms : .letGo ∉ ms) : (c.run ms).board.Holds id ∨ (c.run ms).board.Cancelled id := by
  induction ms generalizing c with
  | nil => exact .inl h
  | cons m ms ih =>
    have hm : m ≠ .letGo := fun hm => hms (hm ▸ List.mem_cons_self)
    rcases step_held_or_cancelled hc hm h with hheld | hcancelled
    · exact ih (hc.step m) hheld fun hmem => hms (List.mem_cons_of_mem m hmem)
    · exact .inr (cancelled_run (hc.step m) hcancelled ms)

/-- The later turns of a cancelled task come to nothing. -/
theorem turnsOf_run_of_cancelled (hc : c.Sound) (h : c.board.Cancelled id) (ms : List (Moment α)) :
    ∃ us, (c.run ms).turnsOf id = c.turnsOf id ++ us ∧ ∀ u ∈ us, u.acts = [] := by
  induction ms generalizing c with
  | nil => exact ⟨[], (List.append_nil _).symm, fun _ hu => absurd hu List.not_mem_nil⟩
  | cons m ms ih =>
    obtain ⟨us, hus, hacts⟩ := ih (hc.step m) ((effect hc.inStep m).cancelled hc h)
    rcases c.turnsOf_step m id with hsame | ⟨source, now, u, -, hu, hlater⟩
    · exact ⟨us, by rw [run_cons, hus, hsame], hacts⟩
    · refine ⟨u :: us, ?_, fun v hv => ?_⟩
      · rw [run_cons, hus, hlater, List.append_assoc]
        rfl
      · rcases List.mem_cons.mp hv with rfl | hv
        · obtain ⟨t, ht, hcancelled⟩ := h
          cases ht.symm.trans (task?_of_turnAt hu)
          exact v.acts_of_cancelled hcancelled
        · exact hacts v hv

/-- From here on the task with a number does nothing, whatever happens: its turns come to nothing,
and nothing it reported or could report has an effect. -/
def Silenced (c : Chronicle α) (id : PollerId) : Prop :=
  ∀ ms : List (Moment α),
    (∃ us, (c.run ms).turnsOf id = c.turnsOf id ++ us ∧ ∀ u ∈ us, u.acts = []) ∧
    ∀ event : PollEvent, event.poller = id →
      (c.run ms).board.applyEvent event = ((c.run ms).board, none)

theorem Sound.silenced (hc : c.Sound) (h : c.board.Cancelled id) : c.Silenced id := by
  intro ms
  refine ⟨turnsOf_run_of_cancelled hc h ms, ?_⟩
  rintro event rfl
  have hfree := (hc.run ms).inStep.not_holds (cancelled_run hc h ms)
  exact Board.applyEvent_of_not_holds hfree

end Chronicle

/-! ## Runs -/

namespace BoardRun

variable [Scalar α] {r : BoardRun α} {id : PollerId}

/-- What happens in the steps of a run. -/
def occurrences (r : BoardRun α) : List (Source × RunStep α) → List Occurrence
  | [] => []
  | s :: ss => (r.step s.1 s.2).2.2 ++ (r.step s.1 s.2).1.occurrences ss

/-- From here on the task with a number does nothing in a run, and nothing it reported has an
effect. -/
def Silenced (r : BoardRun α) (id : PollerId) : Prop :=
  ∀ ss : List (Source × RunStep α),
    (∀ o ∈ r.occurrences ss, o.poller ≠ id) ∧
    ∀ event : PollEvent, event.poller = id →
      (r.steps ss).board.applyEvent event = ((r.steps ss).board, none)

/-- What happens in a step is not a cancelled task's doing. -/
theorem step_silent (hb : r.board.InStep) (h : r.board.Cancelled id) (source : Source)
    (s : RunStep α) {o : Occurrence} (ho : o ∈ (r.step source s).2.2) : o.poller ≠ id := by
  obtain ⟨f, hf, hcancelled⟩ := Board.cancelled_iff.mp h
  have hn := hb.numbered f hf
  cases s with
  | wait ms =>
    change o ∈ (r.board.advance source ms).2 at ho
    unfold Board.advance at ho
    rw [hf] at ho
    exact hcancelled.silent hn ho
  | shutdown =>
    change o ∈ (r.board.shutdown source).2 at ho
    obtain ⟨g, os, heq, -, -, silent⟩ := Board.foldl_stopNext source r.board.widgets hn []
    rw [Board.shutdown_eq, hf, heq] at ho
    exact (silent id hcancelled).2 o ho
  | command c => exact absurd ho List.not_mem_nil
  | deliver =>
    cases hq : r.queue with
    | nil | cons =>
      simp only [step, hq] at ho
      exact absurd ho List.not_mem_nil
  | deliverAll => exact absurd ho List.not_mem_nil
  | redeliver index =>
    cases he : r.reported[index]? with
    | none | some =>
      simp only [step, he] at ho
      exact absurd ho List.not_mem_nil

/-- A widget's task is the widget's until it is cancelled, in a shutdown too. -/
theorem step_held_or_cancelled (hr : r.Sound) (h : r.board.Holds id) (source : Source)
    (s : RunStep α) :
    (r.step source s).1.board.Holds id ∨ (r.step source s).1.board.Cancelled id := by
  have hb := hr.inStep
  cases hdown : s.takesDown with
  | true =>
    obtain ⟨w, hw, k, hk, rfl⟩ := h
    refine .inr ?_
    cases s with
    | command command =>
      cases command with
      | unmount =>
        exact (Board.perform_cancelled_iff hb .unmount hw hk).mpr (.inl rfl)
      | _ => cases hdown
    | shutdown =>
      obtain ⟨pre, post, hsplit⟩ := List.append_of_mem hw
      exact (Board.shutdown_cancelled hb source hsplit hk).1
    | _ => cases hdown
  | false =>
    obtain ⟨c, hc, hcovers⟩ := hr
    obtain ⟨moments, hcovers', hmoments⟩ := Chronicle.covers_step source hc hcovers s
    rw [← hcovers'.board]
    refine Chronicle.held_or_cancelled_run hc (hcovers.board ▸ h) fun hmem => ?_
    cases hmoments hdown _ hmem

theorem cancelled_step (hr : r.Sound) (h : r.board.Cancelled id) (source : Source)
    (s : RunStep α) : (r.step source s).1.board.Cancelled id := by
  obtain ⟨c, hc, hcovers⟩ := hr
  obtain ⟨moments, hcovers', -⟩ := Chronicle.covers_step source hc hcovers s
  rw [← hcovers'.board]
  exact Chronicle.cancelled_run hc (hcovers.board ▸ h) moments

theorem Sound.silenced (hr : r.Sound) (h : r.board.Cancelled id) : r.Silenced id := by
  intro ss
  induction ss generalizing r with
  | nil =>
    refine ⟨fun _ ho => absurd ho List.not_mem_nil, ?_⟩
    rintro event rfl
    exact Board.applyEvent_of_not_holds (hr.inStep.not_holds h)
  | cons s ss ih =>
    obtain ⟨silent, ignored⟩ := ih (hr.step s.1 s.2) (cancelled_step hr h s.1 s.2)
    refine ⟨fun o ho => ?_, ignored⟩
    rcases List.mem_append.mp ho with ho | ho
    · exact step_silent hr.inStep h s.1 s.2 ho
    · exact silent o ho

end BoardRun

namespace Chronicle

variable [Scalar α]

/-- **A cancelled task is silent for ever**, after whatever happened and whatever happens next. A
widget's task is cancelled by the commands after which the widget shows something else, by `unmount`
and by a shutdown, and until then it stays the widget's. Taking a board down leaves the document,
the ids and the selection as they were, whichever way it is done, and has no effect a second
time. -/
theorem cancelled_task_is_silent (d : Dashboard α) (polling : Option PollConfig)
    (ms : List (Moment α)) (ss : List (Source × RunStep α)) :
    let c := (start d polling).run ms
    let r := BoardRun.steps { board := (start d polling).board } ss
    (∀ id, c.board.Cancelled id → c.Silenced id) ∧
    (∀ id, r.board.Cancelled id → r.Silenced id) ∧
    (∀ w ∈ c.board.widgets, ∀ h, w.poller = some h → c.board.Cancels w h) ∧
    (∀ w ∈ r.board.widgets, ∀ h, w.poller = some h → r.board.Cancels w h) ∧
    (∀ ms' id, .letGo ∉ ms' → c.board.Holds id →
      (c.run ms').board.Holds id ∨ (c.run ms').board.Cancelled id) ∧
    (∀ source s id, r.board.Holds id →
      (r.step source s).1.board.Holds id ∨ (r.step source s).1.board.Cancelled id) ∧
    ∀ (b : Board α) (source : Source),
      (b.shutdown source).1 = { b.unmount with fleet := (b.shutdown source).1.fleet } ∧
      ∀ b' ∈ [b.unmount, (b.shutdown source).1], b.TakenDown b' ∧
        ∀ source', b'.unmount = b' ∧ b'.shutdown source' = (b', []) := by
  intro c r
  have hc : c.Sound := (Sound.start d polling).run ms
  have hr : r.Sound := BoardRun.sound_steps d polling ss
  refine ⟨fun _ h => hc.silenced h, fun _ h => hr.silenced h,
    fun _ hw _ hp => hc.inStep.cancels hw hp, fun _ hw _ hp => hr.inStep.cancels hw hp,
    fun _ _ hms h => held_or_cancelled_run hc h hms,
    fun source s _ h => BoardRun.step_held_or_cancelled hr h source s, fun b source => ?_⟩
  obtain ⟨down, same⟩ := b.shutdown_takenDown source
  refine ⟨same, fun b' hb' => ?_⟩
  rcases List.mem_cons.mp hb' with rfl | hb'
  · exact ⟨b.unmount_takenDown, b.unmount_takenDown.again⟩
  · rw [List.mem_singleton.mp hb']
    exact ⟨down, down.again⟩

/-- The task of the sample is silent after the board is unmounted, whether it waits for its turn,
for the state of its object, or for the board's word on alerts. -/
theorem sample_silenced :
    ∀ n < 3,
      let poll := (samplePoll (.ok { resultCode := 2 })).take n
      let c := ((start sampleDashboard (some sampleConfig)).run poll).step (.command .unmount)
      c.board.Cancelled ⟨0⟩ ∧ c.Silenced ⟨0⟩ := by
  intro n hn poll c
  have hwidgets : ∀ n < 3, ((start sampleDashboard (some sampleConfig)).run
      ((samplePoll (.ok { resultCode := 2 })).take n)).board.widgets =
        [{ id := ⟨0⟩, poller := some ⟨⟨0⟩, sampleTarget⟩ }] := by
    decide
  have hmem := List.mem_of_getElem? (congrArg (·[0]?) (hwidgets n hn))
  obtain ⟨-, -, cancels, -⟩ :=
    cancelled_task_is_silent sampleDashboard (some sampleConfig) poll []
  obtain ⟨silence, -⟩ :=
    cancelled_task_is_silent sampleDashboard (some sampleConfig) (poll ++ [.command .unmount]) []
  have hcancelled : c.board.Cancelled ⟨0⟩ :=
    ((cancels _ hmem _ rfl).command .unmount).mpr (.inl rfl)
  rw [run_append] at silence
  exact ⟨hcancelled, silence ⟨0⟩ hcancelled⟩

end Chronicle

end StatusWall
