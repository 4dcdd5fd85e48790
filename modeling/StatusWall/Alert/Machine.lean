import StatusWall.Alert.Sound

/-!
# Alerting once per transition

A check is polled whether or not anything changed, and an alert is due only when its state is
entered. The memory holds a flag per severity: an alert sets the flag of its state and clears every
other, so a later return to an earlier state alerts again.

The flags of a new memory are those of the object's own severities. A state from outside them is
remembered like any other; its flag is added when it is first observed.
-/

namespace StatusWall

/-- Which severities have alerted. A severity without an entry has not. -/
structure AlertMemory where
  flags : List (CheckState × Bool)
  deriving DecidableEq, Repr

namespace AlertMemory

/-- Nothing has alerted yet. -/
def new (type : ObjectType) : AlertMemory := { flags := type.severities.map fun s => (s, false) }

/-- Whether a severity has alerted and nothing else since. -/
def hasFired (m : AlertMemory) (state : CheckState) : Bool :=
  ((m.flags.find? fun f => f.1 = state).map (·.2)).getD false

/-- Sets one flag and clears the others. -/
def markFired (m : AlertMemory) (state : CheckState) : AlertMemory :=
  let cleared := m.flags.map fun f => (f.1, decide (f.1 = state))
  { flags := if m.flags.any fun f => f.1 = state then cleared else cleared ++ [(state, true)] }

/-- The flags after an alert: that of its state, whether it had an entry before or not, and no
other. -/
theorem hasFired_markFired (m : AlertMemory) (state s : CheckState) :
    (m.markFired state).hasFired s = decide (s = state) := by
  obtain ⟨flags⟩ := m
  have hcleared : ∀ fs : List (CheckState × Bool),
      (fs.map fun f => (f.1, decide (f.1 = state))).find? (fun f => f.1 = s) =
        if fs.any fun f => f.1 = s then some (s, decide (s = state)) else none := by
    intro fs
    induction fs with
    | nil => rfl
    | cons f rest ih =>
      by_cases h : f.1 = s
      · simp [h]
      · simp only [List.map_cons, List.find?_cons, List.any_cons, h, decide_false, Bool.false_or]
        exact ih
  unfold markFired hasFired
  by_cases hs : flags.any fun f => f.1 = state
  · simp only [hs, if_true, hcleared]
    split <;> rename_i h
    · simp
    · have : s ≠ state := fun e => h (e ▸ hs)
      simp [this]
  · simp only [hs, Bool.false_eq_true, if_false, List.find?_append, hcleared]
    by_cases h : s = state
    · subst h
      simp [hs]
    · have h' : ¬ state = s := fun e => h e.symm
      split <;> simp [h, h']

/-- The severities whose flags are set. -/
def fired (m : AlertMemory) : List CheckState := (m.flags.filter (·.2)).map (·.1)

end AlertMemory

/-- The alerts of one target. Another target needs another machine. -/
structure AlertMachine where
  target : CheckTarget
  memory : AlertMemory
  deriving DecidableEq, Repr

namespace AlertMachine

/-- A machine that has observed nothing. -/
def new (target : CheckTarget) : AlertMachine := { target, memory := .new target.objectType }

/-- Observes a state; answers the alert if the state was just entered. -/
def observe (m : AlertMachine) (state : CheckState) (policy : SoundPolicy) (config : AlertConfig) :
    AlertMachine × Option AlertSound :=
  if m.memory.hasFired state then (m, none)
  else
    ({ m with memory := m.memory.markFired state },
     some { state, url := policy.soundFor state config, audible := policy.isAudible config })

end AlertMachine

end StatusWall
