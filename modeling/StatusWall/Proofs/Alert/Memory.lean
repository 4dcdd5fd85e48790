import Mathlib.Data.List.Destutter
import StatusWall.Alert.Machine

/-!
# The memory holds one state

Of the flags of a memory at most one is set, and it is that of the state observed last:
`AlertMemory.Remembers`. So whether an alert is due is a question about two neighbours of the
sequence of observed states (`observe_of_remembers`), and the alerts of a whole sequence are the
sequence without its repetitions. `destutter_concat` is the step of that argument on lists.
-/

namespace StatusWall

/-- A sequence without repetitions, one entry later. -/
theorem destutter_concat {β : Type} [DecidableEq β] (l : List β) (a : β) :
    (l ++ [a]).destutter (· ≠ ·) =
      if l.getLast? = some a then l.destutter (· ≠ ·) else l.destutter (· ≠ ·) ++ [a] := by
  cases l with
  | nil => rfl
  | cons b l =>
    show (l ++ [a]).destutter' (· ≠ ·) b =
      if (b :: l).getLast? = some a then l.destutter' (· ≠ ·) b else l.destutter' (· ≠ ·) b ++ [a]
    induction l generalizing b with
    | nil => by_cases h : b = a <;> simp [h]
    | cons c l ih =>
      rw [List.getLast?_cons_cons, List.cons_append]
      by_cases h : b = c
      · subst h
        have hsame : ¬ b ≠ b := not_not.mpr rfl
        rw [List.destutter'_cons_neg _ hsame, List.destutter'_cons_neg _ hsame]
        exact ih b
      · rw [List.destutter'_cons_pos _ h, List.destutter'_cons_pos _ h, ih c]
        split <;> rfl

/-- The one flag that is set is that of `last`; without a last state none is. -/
def AlertMemory.Remembers (m : AlertMemory) (last : Option CheckState) : Prop :=
  ∀ s, m.hasFired s = decide (last = some s)

namespace AlertMemory

theorem remembers_new (type : ObjectType) : (AlertMemory.new type).Remembers none := by
  intro s
  cases type <;> cases s <;> rfl

theorem remembers_markFired (m : AlertMemory) (state : CheckState) :
    (m.markFired state).Remembers (some state) := by
  intro s
  rw [hasFired_markFired]
  simp only [Option.some.injEq, eq_comm]

end AlertMemory

namespace AlertMachine

theorem observe_target (m : AlertMachine) (state : CheckState) (policy : SoundPolicy)
    (config : AlertConfig) : (m.observe state policy config).1.target = m.target := by
  unfold observe
  split <;> rfl

/-- The alert of a state that was just entered. -/
def alertOf (state : CheckState) (policy : SoundPolicy) (config : AlertConfig) : AlertSound :=
  { state, url := policy.soundFor state config, audible := policy.isAudible config }

/-- An alert is due exactly when the state is not the one before it, and afterwards the memory holds
the state either way. -/
theorem observe_of_remembers {m : AlertMachine} {last : Option CheckState}
    (h : m.memory.Remembers last) (state : CheckState) (policy : SoundPolicy)
    (config : AlertConfig) :
    (m.observe state policy config).1.memory.Remembers (some state) ∧
      (m.observe state policy config).2 =
        if last = some state then none else some (alertOf state policy config) := by
  unfold observe
  rw [h state]
  by_cases hlast : last = some state
  · subst hlast
    simp only [decide_true, ↓reduceIte, and_true]
    exact h
  · simp only [hlast, decide_false, Bool.false_eq_true, ↓reduceIte]
    exact ⟨AlertMemory.remembers_markFired _ _, rfl⟩

end AlertMachine

end StatusWall
