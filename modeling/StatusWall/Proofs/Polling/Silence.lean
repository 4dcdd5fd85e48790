import StatusWall.Proofs.Polling.Turn

/-!
# Silence after cancellation

A task is asked whether it was cancelled before anything else, at every point where it could go on.
So a turn of a cancelled task does nothing, whatever the task was waiting for: its next turn, the
state of its object, or the board's word on alerts (`Turn.acts_of_cancelled`). A cancelled task
stays cancelled, whatever it is told and however much time passes, and none of what happens in a
fleet is its doing (`Fleet.Cancelled.silent`).
-/

namespace StatusWall

/-- A turn of a cancelled task does nothing. -/
theorem Turn.acts_of_cancelled (u : Turn) (h : u.task.cancelled = true) : u.acts = [] := by
  unfold acts
  rcases u.task.step_cases u.config u.source u.listening u.time with
    ⟨-, -, hs⟩ | ⟨hc, -⟩ | ⟨hc, -⟩ | ⟨hc, -⟩ | ⟨hc, -⟩
  · rw [hs]
  all_goals
    rw [h] at hc
    cases hc

namespace PollTask

variable (config : PollConfig) (source : Source) (listening : Bool) (horizon now : Nat)

@[simp] theorem advance_id (t : PollTask) :
    (t.advance config source listening horizon now).1.id = t.id := by
  fun_induction PollTask.advance config source listening horizon now t with
  | case1 now t hwake => rfl
  | case2 now t wake hwake hle next rest ih =>
    exact ih.trans (Turn.after_id ⟨config, source, listening, wake, t⟩)
  | case3 now t wake hwake hgt => rfl

/-- A cancelled task does nothing up to any time, and stays cancelled. -/
theorem advance_of_cancelled {t : PollTask} (h : t.cancelled = true) :
    (t.advance config source listening horizon now).2 = [] ∧
      (t.advance config source listening horizon now).1.cancelled = true := by
  fun_induction PollTask.advance config source listening horizon now t with
  | case1 now t hwake => exact ⟨rfl, h⟩
  | case2 now t wake hwake hle next rest ih =>
    let u : Turn := ⟨config, source, listening, wake, t⟩
    have hacts : next.2 = [] := u.acts_of_cancelled h
    obtain ⟨hrest, hcancelled⟩ := ih (u.after_cancelled.trans h)
    refine ⟨?_, hcancelled⟩
    show next.2.map (wake, ·) ++ rest.2 = []
    rw [hacts, hrest]
    rfl
  | case3 now t wake hwake hgt => exact ⟨rfl, h⟩

end PollTask

namespace Fleet

variable {f : Fleet} {id : PollerId}

/-- A task is found by its own number. -/
theorem Numbered.task?_of_mem (hf : f.Numbered) {t : PollTask} (ht : t ∈ f.tasks) :
    f.task? t.id = some t := by
  obtain ⟨i, hi⟩ := List.mem_iff_getElem?.mp ht
  rw [task?_eq_getElem? hf, hf i t hi]
  exact hi

/-- Time passes for each task on its own. -/
theorem tasks_advance (f : Fleet) (source : Source) (ms : Nat) :
    (f.advance source ms).1.tasks = f.tasks.map fun t =>
      (t.advance f.config source f.listening (f.clock + ms) f.clock).1 := by
  unfold advance
  simp only [List.map_map]
  rfl

theorem task?_advance (f : Fleet) (source : Source) (ms : Nat) (id : PollerId) :
    (f.advance source ms).1.task? id = (f.task? id).map fun t =>
      (t.advance f.config source f.listening (f.clock + ms) f.clock).1 := by
  unfold task?
  rw [tasks_advance, List.find?_map]
  simp only [Function.comp_def, PollTask.advance_id]

/-- Time leaves the numbers of the tasks alone. -/
theorem Numbered.advance (hf : f.Numbered) (source : Source) (ms : Nat) :
    (f.advance source ms).1.Numbered := by
  intro i t' h
  rw [tasks_advance, List.getElem?_map, Option.map_eq_some_iff] at h
  obtain ⟨t, ht, rfl⟩ := h
  exact (t.advance_id _ _ _ _ _).trans (hf i t ht)

/-- What happens while time passes is done by tasks that were not cancelled. -/
theorem exists_task_of_mem_advance {source : Source} {ms : Nat} {o : Occurrence}
    (h : o ∈ (f.advance source ms).2) : ∃ t ∈ f.tasks, t.id = o.poller ∧ t.cancelled = false := by
  obtain ⟨r, hr, ho⟩ := List.mem_flatMap.mp h
  obtain ⟨t, ht, rfl⟩ := List.mem_map.mp hr
  obtain ⟨a, ha, rfl⟩ := List.mem_map.mp ho
  refine ⟨t, ht, rfl, ?_⟩
  cases hc : t.cancelled with
  | false => rfl
  | true =>
    have hnone := (t.advance_of_cancelled f.config source f.listening (f.clock + ms) f.clock hc).1
    rw [hnone] at ha
    cases ha

/-- The task with a number is there and was cancelled. -/
def Cancelled (f : Fleet) (id : PollerId) : Prop := ∃ t, f.task? id = some t ∧ t.cancelled = true

/-- Cancelling a task that is there. -/
theorem cancelled_cancel (h : f.task? id ≠ none) : (f.cancel id).Cancelled id := by
  obtain ⟨t, ht⟩ := Option.ne_none_iff_exists'.mp h
  have hc : ∀ t : PollTask, ({ t with cancelled := true } : PollTask).id = t.id := fun _ => rfl
  refine ⟨{ t with cancelled := true }, ?_, rfl⟩
  unfold cancel
  rw [f.task?_modifyTask_self id hc, ht]
  rfl

namespace Cancelled

variable (h : f.Cancelled id)

include h

/-- No message revives a task. -/
theorem told (hf : f.Numbered) {g : Fleet} (hg : Told f g) : g.Cancelled id := by
  obtain ⟨t, ht, hc⟩ := h
  obtain ⟨t', ht', heard⟩ := hg.old hf ht
  exact ⟨t', ht', heard.cancelled hc⟩

/-- No time revives a task. -/
theorem advance (source : Source) (ms : Nat) : (f.advance source ms).1.Cancelled id := by
  obtain ⟨t, ht, hc⟩ := h
  refine ⟨_, ?_, (t.advance_of_cancelled f.config source f.listening (f.clock + ms) f.clock hc).2⟩
  rw [task?_advance, ht]
  rfl

/-- **A cancelled task does nothing while time passes.** -/
theorem silent (hf : f.Numbered) {source : Source} {ms : Nat} {o : Occurrence}
    (ho : o ∈ (f.advance source ms).2) : o.poller ≠ id := by
  rintro rfl
  obtain ⟨t, ht, hid, hrunning⟩ := exists_task_of_mem_advance ho
  obtain ⟨t', ht', hc⟩ := h
  have found := hf.task?_of_mem ht
  rw [hid, ht'] at found
  cases found
  rw [hrunning] at hc
  cases hc

end Cancelled

end Fleet

end StatusWall
