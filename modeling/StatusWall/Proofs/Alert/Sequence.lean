import StatusWall.Proofs.Alert.Memory

/-!
# Sequences of observations

A machine observes one state after the other, each under the policy and the board's word of its moment
(`AlertMachine.observeAll`). The memory starts out with a flag for each severity of its object and gets
another one when a state from outside is observed; no severity ever has two (`AlertMemory.OneHot`). With
that the flags that are set are a list that can be written down: the last state and nothing else
(`OneHot.fired_eq`).

What the memory holds is a matter of the states alone, so which observations make an alert due is one
too (`isSome_observeAll`).
-/

namespace StatusWall

namespace AlertMemory

/-- Each severity has one flag at most, and the one that is set is that of `last`. -/
structure OneHot (m : AlertMemory) (last : Option CheckState) : Prop where
  keys : (m.flags.map (·.1)).Nodup
  remembers : m.Remembers last

theorem new_oneHot (type : ObjectType) : (new type).OneHot none where
  keys := by cases type <;> decide
  remembers := remembers_new type

/-- Whether a flag existed before or is added now, it is the only one of its severity. -/
theorem nodup_keys_markFired {m : AlertMemory} (h : (m.flags.map (·.1)).Nodup) (state : CheckState) :
    ((m.markFired state).flags.map (·.1)).Nodup := by
  have cleared : (m.flags.map fun f => (f.1, decide (f.1 = state))).map (·.1) = m.flags.map (·.1) :=
    List.map_map
  unfold markFired
  by_cases known : m.flags.any fun f => f.1 = state
  · simp only [known, if_true]
    rw [cleared]
    exact h
  · simp only [known, Bool.false_eq_true, if_false]
    rw [List.map_append, cleared, List.map_singleton]
    refine List.nodup_append.mpr ⟨h, List.nodup_singleton _, ?_⟩
    intro s hs t ht hst
    obtain ⟨f, hf, rfl⟩ := List.mem_map.mp hs
    rw [List.mem_singleton.mp ht] at hst
    exact known (List.any_eq_true.mpr ⟨f, hf, decide_eq_true hst⟩)

/-- Looking a severity up finds its flag. -/
theorem find?_flags_eq_some_iff {m : AlertMemory} (h : (m.flags.map (·.1)).Nodup) {s : CheckState}
    {f : CheckState × Bool} : m.flags.find? (fun f => f.1 = s) = some f ↔ f ∈ m.flags ∧ f.1 = s := by
  constructor
  · intro hfind
    refine ⟨List.mem_of_find?_eq_some hfind, ?_⟩
    simpa using List.find?_some hfind
  · rintro ⟨hf, rfl⟩
    cases hfind : m.flags.find? fun g => g.1 = f.1 with
    | none => simpa using List.find?_eq_none.mp hfind f hf
    | some g =>
      have hg : g.1 = f.1 := by simpa using List.find?_some hfind
      rw [List.inj_on_of_nodup_map h (List.mem_of_find?_eq_some hfind) hf hg]

theorem hasFired_iff {m : AlertMemory} (h : (m.flags.map (·.1)).Nodup) {s : CheckState} :
    m.hasFired s = true ↔ (s, true) ∈ m.flags := by
  unfold hasFired
  constructor
  · intro set
    cases hfind : m.flags.find? fun f => f.1 = s with
    | none =>
      rw [hfind] at set
      cases set
    | some f =>
      rw [hfind] at set
      obtain ⟨hf, hs⟩ := (find?_flags_eq_some_iff h).mp hfind
      have heq : f = (s, true) := Prod.ext hs set
      rwa [heq] at hf
  · intro hf
    rw [(find?_flags_eq_some_iff h).mpr ⟨hf, rfl⟩]
    rfl

theorem mem_fired_iff {m : AlertMemory} {s : CheckState} : s ∈ m.fired ↔ (s, true) ∈ m.flags := by
  simp [fired]

namespace OneHot

variable {m : AlertMemory} {last : Option CheckState}

/-- **The memory holds one state.** -/
theorem fired_eq (h : m.OneHot last) : m.fired = last.toList := by
  have nodup : m.fired.Nodup := h.keys.sublist (List.filter_sublist.map _)
  have nodup' : last.toList.Nodup := by cases last <;> simp
  have hmem (s : CheckState) : s ∈ m.fired ↔ s ∈ last.toList := by
    rw [mem_fired_iff, ← hasFired_iff h.keys, h.remembers s, decide_eq_true_iff, Option.mem_toList]
  have perm : m.fired.Perm last.toList :=
    (List.perm_ext_iff_of_nodup nodup nodup').mpr hmem
  cases last with
  | none => exact List.perm_nil.mp perm
  | some state => exact List.perm_singleton.mp perm

theorem observe {machine : AlertMachine} (h : machine.memory.OneHot last) (state : CheckState)
    (policy : SoundPolicy) (config : AlertConfig) :
    (machine.observe state policy config).1.memory.OneHot (some state) where
  keys := by
    unfold AlertMachine.observe
    split
    · exact h.keys
    · exact nodup_keys_markFired h.keys state
  remembers := (AlertMachine.observe_of_remembers h.remembers state policy config).1

end OneHot

end AlertMemory

/-! ## One state after the other -/

/-- A state, and what was said about alerts when it was observed. -/
structure Observation where
  state : CheckState
  policy : SoundPolicy := {}
  config : AlertConfig := {}
  deriving DecidableEq, Repr

namespace AlertMachine

/-- Observes one state after the other; answers what each of them made due. -/
def observeAll (m : AlertMachine) : List Observation → AlertMachine × List (Option AlertSound)
  | [] => (m, [])
  | o :: os =>
    let (m, sound) := m.observe o.state o.policy o.config
    let (m, sounds) := m.observeAll os
    (m, sound :: sounds)

theorem observeAll_append (m : AlertMachine) (os os' : List Observation) :
    m.observeAll (os ++ os') =
      (((m.observeAll os).1.observeAll os').1,
        (m.observeAll os).2 ++ ((m.observeAll os).1.observeAll os').2) := by
  induction os generalizing m with
  | nil => rfl
  | cons o os ih => simp only [List.cons_append, observeAll, ih]

theorem length_observeAll (m : AlertMachine) (os : List Observation) :
    (m.observeAll os).2.length = os.length := by
  induction os generalizing m with
  | nil => rfl
  | cons o os ih => simp only [observeAll, List.length_cons, ih]

/-- After a sequence the memory holds its last state. -/
theorem oneHot_observeAll (target : CheckTarget) (os : List Observation) :
    ((new target).observeAll os).1.memory.OneHot (os.getLast?.map (·.state)) := by
  induction os using List.reverseRecOn with
  | nil => exact AlertMemory.new_oneHot target.objectType
  | append_singleton os o ih =>
    rw [observeAll_append, List.getLast?_concat]
    exact ih.observe o.state o.policy o.config

/-- The answer to an observation, between those before it and those after it. -/
theorem getElem?_observeAll (target : CheckTarget) (before : List Observation) (o : Observation)
    (after : List Observation) :
    ((new target).observeAll (before ++ o :: after)).2[before.length]? =
      some (if before.getLast?.map (·.state) = some o.state then none
        else some (alertOf o.state o.policy o.config)) := by
  have h := (oneHot_observeAll target before).remembers
  have answer := (observe_of_remembers h o.state o.policy o.config).2
  have hlen := (new target).length_observeAll before
  rw [observeAll_append, List.getElem?_append_right (Nat.le_of_eq hlen), hlen, Nat.sub_self, ← answer]
  rfl

/-- What an observation does to the memory, and whether it makes an alert due, is a matter of the state. -/
theorem observe_eq (m : AlertMachine) (state : CheckState) (policy : SoundPolicy) (config : AlertConfig) :
    (m.observe state policy config).1.memory =
        (if m.memory.hasFired state then m.memory else m.memory.markFired state) ∧
      (m.observe state policy config).2.isSome = !m.memory.hasFired state := by
  unfold observe
  cases m.memory.hasFired state <;> exact ⟨rfl, rfl⟩

/-- Two machines that remember the same, observing the same states, find the same observations due. -/
theorem isSome_observeAll {m m' : AlertMachine} (hm : m.memory = m'.memory) {os os' : List Observation}
    (hs : os.map (·.state) = os'.map (·.state)) :
    (m.observeAll os).2.map (·.isSome) = (m'.observeAll os').2.map (·.isSome) := by
  induction os generalizing m m' os' with
  | nil =>
    obtain rfl : os' = [] := List.map_eq_nil_iff.mp hs.symm
    rfl
  | cons o os ih =>
    cases os' with
    | nil => cases hs
    | cons o' os' =>
      obtain ⟨hstate : o.state = o'.state, hs⟩ := List.cons.inj hs
      obtain ⟨memory, due⟩ := m.observe_eq o.state o.policy o.config
      obtain ⟨memory', due'⟩ := m'.observe_eq o'.state o'.policy o'.config
      rw [hm, hstate] at memory due
      have rest := ih (memory.trans memory'.symm) hs
      simp only [observeAll, List.map_cons, hstate, due, due', rest]

/-- **The memory is one-hot, and alerts are due where states change.** After any observations exactly one
severity is marked as fired, the last one. An observation makes an alert due if it is the first one or its
state is not that of the one before it, and then the alert is its own. Which observations do so depends on
the states alone. -/
theorem memory_is_one_hot (target : CheckTarget) (os : List Observation) :
    let m := ((new target).observeAll os).1
    let answers := ((new target).observeAll os).2
    (∀ o, os.getLast? = some o →
      m.memory.fired = [o.state] ∧ ∀ s, m.memory.hasFired s = true ↔ s = o.state) ∧
    answers.length = os.length ∧
    (∀ before o after, os = before ++ o :: after → ∃ answer, answers[before.length]? = some answer ∧
      (answer.isSome = true ↔
        before = [] ∨ ∃ previous, before.getLast? = some previous ∧ previous.state ≠ o.state) ∧
      ∀ sound, answer = some sound → sound = alertOf o.state o.policy o.config) ∧
    ∀ os', os'.map (·.state) = os.map (·.state) →
      ((new target).observeAll os').2.map (·.isSome) = answers.map (·.isSome) := by
  intro m answers
  refine ⟨?_, (new target).length_observeAll os, ?_, fun os' hs => isSome_observeAll rfl hs⟩
  · intro o hlast
    have h : m.memory.OneHot (some o.state) := by
      have h := oneHot_observeAll target os
      rwa [hlast] at h
    refine ⟨h.fired_eq, fun s => ?_⟩
    rw [h.remembers s, decide_eq_true_iff, Option.some.injEq, eq_comm]
  · rintro before o after rfl
    refine ⟨_, getElem?_observeAll target before o after, ?_, ?_⟩
    · cases hlast : before.getLast? with
      | none => simp [List.getLast?_eq_none_iff.mp hlast]
      | some previous =>
        have hne : before ≠ [] := by
          rintro rfl
          cases hlast
        by_cases hsame : previous.state = o.state <;> simp [hsame, hne]
    · intro sound hsound
      split at hsound
      · cases hsound
      · exact (Option.some.inj hsound).symm

/-- A service that is found up, which no service can be, twice over, and then critical on a muted board:
the state from outside is forgotten when the next one comes, and only its repetition is not due. -/
theorem foreign_state_is_forgotten :
    let target : CheckTarget := { objectType := .service, filter := "web" }
    let up : Observation := { state := .up }
    let again : Observation := { state := .up, policy := { muted := true } }
    let critical : Observation := { state := .critical, config := { globalMute := true } }
    let m := ((new target).observeAll [up, again, critical]).1
    let answers := ((new target).observeAll [up, again, critical]).2
    m.memory.flags.length = 5 ∧ m.memory.fired = [.critical] ∧
      answers[1]? = some none ∧
      answers[2]? = some (some { state := .critical, url := none, audible := false }) ∧
      ((new target).observeAll [up, up, { state := .critical }]).2.map (·.isSome) =
        answers.map (·.isSome) := by
  intro target up again critical m answers
  obtain ⟨last, -, step, alike⟩ := memory_is_one_hot target [up, again, critical]
  obtain ⟨repeated, hrepeated, due, -⟩ := step [up] again [critical] rfl
  obtain ⟨changed, hchanged, due', own⟩ := step [up, again] critical [] rfl
  have quiet : repeated = none := by
    rw [← Option.not_isSome_iff_eq_none, due]
    decide
  have sounds : changed.isSome = true := due'.mpr (.inr ⟨again, rfl, by decide⟩)
  obtain ⟨sound, rfl⟩ := Option.isSome_iff_exists.mp sounds
  refine ⟨rfl, (last critical rfl).1, quiet ▸ hrepeated, hchanged.trans ?_, alike _ rfl⟩
  rw [own sound rfl]
  rfl

end AlertMachine

end StatusWall
