import StatusWall.Proofs.Polling.Course

/-!
# The trail of a task

The turns a task has taken so far, oldest first, say all there is to know about it: which state its
memory holds, which alerts it has played, and which answers the poll under way has got.
`PollTask.Trail` is that connection. It holds of a task that has taken no turn (`Trail.new`), a task
may hear whatever it likes in between (`Trail.heard`), and each turn carries it on (`Trail.turn`).
-/

namespace StatusWall

/-- Taking a list apart that got one entry more: at the new entry, or before it. -/
theorem split_concat {β : Type} {l pre post : List β} {a u : β} (h : l ++ [a] = pre ++ u :: post) :
    (l = pre ∧ a = u) ∨ ∃ post', l = pre ++ u :: post' := by
  rcases List.append_eq_append_iff.mp h with ⟨middle, rfl, hmiddle⟩ | ⟨middle, rfl, hmiddle⟩
  · cases middle with
    | nil =>
      cases hmiddle
      exact .inl ⟨(List.append_nil l).symm, rfl⟩
    | cons _ middle => simp at hmiddle
  · cases middle with
    | nil =>
      cases hmiddle
      exact .inl ⟨List.append_nil pre, rfl⟩
    | cons _ middle =>
      obtain ⟨rfl, -⟩ := List.cons.inj hmiddle
      exact .inr ⟨middle, rfl⟩

namespace PollTask

/-- A poll is answered only after both of its questions were. -/
theorem phase_of_ending?_ok {config : PollConfig} {t : PollTask} {found : ObjectState}
    {word : AlertConfig} (h : t.ending? config = some (.ok (found, word))) :
    ∃ nextDue deadline ready, t.phase = .askedConfig nextDue deadline found ready (.ok word) := by
  unfold ending? at h
  by_cases hc : t.cancelled = true
  · rw [if_pos hc] at h
    cases h
  · rw [if_neg hc] at h
    cases hp : t.phase with
    | waiting due | stopped =>
      rw [hp] at h
      cases h
    | askedState nextDue deadline slug ready answer =>
      rw [hp] at h
      simp only at h
      split at h
      · cases h
      · cases answer <;> cases h
    | askedConfig nextDue deadline found' ready answer =>
      rw [hp] at h
      simp only at h
      split at h
      · cases h
      · cases answer with
        | error e => cases h
        | ok word' =>
          cases h
          exact ⟨nextDue, deadline, ready, rfl⟩

/-- The questions of the poll under way were put by the last turns, and their answers are those the
task holds. The second question goes out under the slug the first turn found. -/
def Pending (t : PollTask) (us : List Turn) : Prop :=
  match t.phase with
  | .askedState _ _ slug _ answer =>
    ∃ pre asked, us = pre ++ [asked] ∧ asked.task.slug = slug ∧ asked.AskedState answer
  | .askedConfig _ _ found _ answer =>
    ∃ pre asked then', us = pre ++ [asked, then'] ∧ asked.AskedState (.ok found) ∧
      then'.AskedConfig asked.task.slug answer
  | _ => True

/-- The two turns at the end of a list got these answers to the two questions of a poll. -/
def Answered (us : List Turn) (found : ObjectState) (word : AlertConfig) : Prop :=
  ∃ pre asked then', us = pre ++ [asked, then'] ∧ asked.AskedState (.ok found) ∧
    then'.AskedConfig asked.task.slug (.ok word)

/-- The task and the turns it took so far belong together. -/
structure Trail (t : PollTask) (us : List Turn) : Prop where
  own : ∀ u ∈ us, u.task.id = t.id ∧ u.task.widget = t.widget ∧ u.task.target = t.target
  linked : t.Linked us
  /-- The memory holds the last state that was found. -/
  memory : t.machine.memory.Remembers (us.filterMap Turn.resolved?).getLast?
  /-- The alerts so far are the states that were found, each once. -/
  sounds : (us.flatMap Turn.sounds).map (·.state) =
    (us.filterMap Turn.resolved?).destutter (· ≠ ·)
  pending : t.Pending us
  /-- What an answered poll found was answered in the two turns before its last. -/
  answered : ∀ pre u post found word, us = pre ++ u :: post →
    u.ending? = some (.ok (found, word)) → Answered pre found word

namespace Trail

theorem new (id : PollerId) (widget : WidgetId) (target : CheckTarget) (slug : String)
    (policy : SoundPolicy) (now : Nat) :
    Trail (.new id widget target slug policy now) [] where
  own u hu := absurd hu List.not_mem_nil
  linked := .new id widget target slug policy now
  memory := AlertMemory.remembers_new target.objectType
  sounds := rfl
  pending := trivial
  answered pre u post _ _ h := absurd h.symm (List.append_ne_nil_of_right_ne_nil _ (by simp))

theorem heard {t t' : PollTask} {us : List Turn} (h : Trail t us) (ht : t.Heard t') :
    Trail t' us where
  own u hu := by
    rw [ht.id, ht.widget, ht.target]
    exact h.own u hu
  linked := h.linked.heard ht
  memory := by
    rw [ht.machine]
    exact h.memory
  sounds := h.sounds
  pending := by
    unfold Pending
    rw [ht.phase]
    exact h.pending
  answered := h.answered

/-- The end of the poll under way was answered in the two turns before. -/
theorem answered_of_ending {us : List Turn} {u : Turn} (h : Trail u.task us) {found : ObjectState}
    {word : AlertConfig} (he : u.ending? = some (.ok (found, word))) : Answered us found word := by
  obtain ⟨_, _, _, hp⟩ := phase_of_ending?_ok he
  have pending := h.pending
  unfold Pending at pending
  rw [hp] at pending
  exact pending

/-- The questions a turn puts, and the answers they get, are those of the poll it leaves under
way. -/
theorem pending_turn {us : List Turn} {u : Turn} (h : Trail u.task us) :
    u.after.Pending (us ++ [u]) := by
  have pending := h.pending
  unfold Turn.after
  -- The task is cancelled, puts the first question, puts the second, ends the poll, or is stopped.
  rcases u.task.step_cases u.config u.source u.listening u.time with
    ⟨-, -, hs⟩ | ⟨-, -, _, _, hs⟩ | ⟨-, -, _, _, slug, _, found, hp, hs⟩ |
    ⟨-, nextDue, found, -, hs⟩ | ⟨-, -, hp, hs⟩
  · rw [hs]
    exact trivial
  · rw [hs]
    refine ⟨us, u, rfl, rfl, ?_, rfl⟩
    unfold Turn.acts
    rw [hs]
    exact List.mem_singleton_self _
  · unfold Pending at pending
    rw [hp] at pending
    obtain ⟨pre, asked, rfl, rfl, hasked⟩ := pending
    rw [hs]
    refine ⟨pre, asked, u, by rw [List.append_assoc]; rfl, hasked, ?_, rfl⟩
    unfold Turn.acts
    rw [hs]
    exact List.mem_singleton_self _
  · rw [hs, finish_eq]
    cases u.listening <;> exact trivial
  · rw [hs]
    unfold Pending
    simp only [hp]

/-- **A turn carries the trail on.** -/
theorem turn {us : List Turn} {u : Turn} (h : Trail u.task us) : Trail u.after (us ++ [u]) where
  own v hv := by
    rw [u.after_id, u.after_widget, u.after_target]
    rcases List.mem_append.mp hv with hv | hv
    · exact h.own v hv
    · rw [List.mem_singleton.mp hv]
      exact ⟨rfl, rfl, rfl⟩
  linked := h.linked.turn
  memory := by
    rw [List.filterMap_append]
    rcases u.resolved?_cases with ⟨hr, -, hm⟩ | ⟨found, word, -, hr, -, hm⟩
    · rw [List.filterMap_cons_none hr, List.filterMap_nil, List.append_nil, hm]
      exact h.memory
    · rw [List.filterMap_cons_some hr, List.filterMap_nil, List.getLast?_concat, hm]
      exact (AlertMachine.observe_of_remembers h.memory _ _ _).1
  sounds := by
    rw [List.flatMap_append, List.map_append, List.filterMap_append, h.sounds,
      List.flatMap_singleton]
    rcases u.resolved?_cases with ⟨hr, hs, -⟩ | ⟨found, word, -, hr, hs, -⟩
    · rw [List.filterMap_cons_none hr, List.filterMap_nil, hs, List.map_nil, List.append_nil,
        List.append_nil]
    · rw [List.filterMap_cons_some hr, List.filterMap_nil, destutter_concat, hs,
        (AlertMachine.observe_of_remembers h.memory _ _ _).2]
      split
      · exact List.append_nil _
      · rfl
  pending := h.pending_turn
  answered pre v post found word hsplit he := by
    rcases split_concat hsplit with ⟨rfl, rfl⟩ | ⟨post', hbefore⟩
    · exact h.answered_of_ending he
    · exact h.answered pre v post' found word hbefore he

end Trail

end PollTask

end StatusWall
