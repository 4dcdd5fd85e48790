import StatusWall.Polling.Fleet

/-!
# Tasks by their numbers

A fleet hands out numbers and answers to them. `Fleet.Numbered` says that the tasks stand at the
places their numbers name; every operation keeps it, so a number that was handed out finds its own
task for ever, and the next number finds none.

A board does two things to its fleet: it tells tasks something, be it a policy, a slug or to stop,
and it starts tasks. `Fleet.Told` is what any number of these lead to. What the two fleets have in
common is proved once, here: an old task keeps its widget, its alert machine and the phase of its
poll (`Told.old`), and a new one has not begun (`Told.new`).
-/

namespace StatusWall

/-- `t'` is `t` after it was told things: of another policy or slug, or to stop. -/
structure PollTask.Heard (t t' : PollTask) : Prop where
  id : t'.id = t.id
  widget : t'.widget = t.widget
  machine : t'.machine = t.machine
  phase : t'.phase = t.phase
  cancelled : t.cancelled = true → t'.cancelled = true

namespace PollTask.Heard

theorem refl (t : PollTask) : t.Heard t := ⟨rfl, rfl, rfl, rfl, fun h => h⟩

theorem trans {a b c : PollTask} (hab : a.Heard b) (hbc : b.Heard c) : a.Heard c where
  id := hbc.id.trans hab.id
  widget := hbc.widget.trans hab.widget
  machine := hbc.machine.trans hab.machine
  phase := hbc.phase.trans hab.phase
  cancelled h := hbc.cancelled (hab.cancelled h)

/-- What a task polls is in its alert machine, of which it is told nothing. -/
theorem target {t t' : PollTask} (h : t.Heard t') : t'.target = t.target := by
  unfold PollTask.target
  rw [h.machine]

end PollTask.Heard

namespace Fleet

/-- The tasks stand at the places their numbers name. -/
def Numbered (f : Fleet) : Prop :=
  ∀ (i : Nat) (t : PollTask), f.tasks[i]? = some t → t.id = ⟨i⟩

/-! ## Looking up -/

/-- A task is found under its own number. -/
theorem task?_id {f : Fleet} {id : PollerId} {t : PollTask} (h : f.task? id = some t) :
    t.id = id := by
  have := List.find?_some h
  exact of_decide_eq_true this

/-- A number finds the task at its place. -/
theorem task?_eq_getElem? {f : Fleet} (hf : f.Numbered) (id : PollerId) :
    f.task? id = f.tasks[id.number]? := by
  cases h : f.task? id with
  | none =>
    cases hi : f.tasks[id.number]? with
    | none => rfl
    | some t =>
      have hmem : t ∈ f.tasks := List.mem_of_getElem? hi
      have hne := List.find?_eq_none.mp h t hmem
      exact absurd (decide_eq_true (hf _ _ hi)) hne
  | some t =>
    obtain ⟨i, hi⟩ := List.mem_iff_getElem?.mp (List.mem_of_find?_eq_some h)
    have hid : id = ⟨i⟩ := (task?_id h).symm.trans (hf i t hi)
    rw [hid]
    exact hi.symm

/-- The next number is nobody's. -/
theorem task?_nextId {f : Fleet} (hf : f.Numbered) : f.task? f.nextId = none := by
  rw [task?_eq_getElem? hf]
  exact List.getElem?_eq_none (Nat.le_refl _)

/-! ## Changing one task -/

/-- A change of the tasks with one number, seen by any number. The change must leave the number. -/
theorem task?_modifyTask (f : Fleet) (id : PollerId) {change : PollTask → PollTask}
    (hc : ∀ t : PollTask, (change t).id = t.id) (id' : PollerId) :
    (f.modifyTask id change).task? id' =
      (f.task? id').map fun t => if t.id = id then change t else t := by
  unfold modifyTask task?
  rw [List.find?_map]
  congr 2
  funext t
  show decide ((if t.id = id then change t else t).id = id') = decide (t.id = id')
  split
  · rw [hc]
  · rfl

/-- The number that is meant finds the task changed. -/
theorem task?_modifyTask_self (f : Fleet) (id : PollerId) {change : PollTask → PollTask}
    (hc : ∀ t : PollTask, (change t).id = t.id) :
    (f.modifyTask id change).task? id = (f.task? id).map change := by
  rw [task?_modifyTask f id hc]
  cases h : f.task? id with
  | none => rfl
  | some t => exact congrArg some (if_pos (task?_id h))

/-- Other numbers find their tasks as they were. -/
theorem task?_modifyTask_ne (f : Fleet) {id id' : PollerId} {change : PollTask → PollTask}
    (hc : ∀ t : PollTask, (change t).id = t.id) (hne : id' ≠ id) :
    (f.modifyTask id change).task? id' = f.task? id' := by
  rw [task?_modifyTask f id hc]
  cases h : f.task? id' with
  | none => rfl
  | some t =>
    refine congrArg some (if_neg ?_)
    rw [task?_id h]
    exact hne

theorem Numbered.modifyTask {f : Fleet} (hf : f.Numbered) (id : PollerId)
    {change : PollTask → PollTask} (hc : ∀ t : PollTask, (change t).id = t.id) :
    (f.modifyTask id change).Numbered := by
  intro i t' h
  simp only [Fleet.modifyTask, List.getElem?_map, Option.map_eq_some_iff] at h
  obtain ⟨t, ht, rfl⟩ := h
  split
  · exact (hc t).trans (hf i t ht)
  · exact hf i t ht

/-! ## Starting a task -/

/-- A new task is found under the number it was given, and is due at once. -/
theorem task?_spawn_self {f : Fleet} (hf : f.Numbered) (widget : WidgetId) (target : CheckTarget)
    (slug : String) (policy : SoundPolicy) :
    (f.spawn widget target slug policy).1.task? f.nextId =
      some (.new f.nextId widget target slug policy f.clock) := by
  have hnone : f.tasks.find? (fun t => t.id = f.nextId) = none := task?_nextId hf
  show (f.tasks ++ [_]).find? (fun t : PollTask => t.id = f.nextId) = _
  rw [List.find?_append, hnone, Option.none_or]
  simp only [List.find?_cons, PollTask.new, decide_true]

/-- Starting a task leaves the others. -/
theorem task?_spawn_ne (f : Fleet) (widget : WidgetId) (target : CheckTarget)
    (slug : String) (policy : SoundPolicy) {id : PollerId} (hne : id ≠ f.nextId) :
    (f.spawn widget target slug policy).1.task? id = f.task? id := by
  have hnew : [PollTask.new f.nextId widget target slug policy f.clock].find?
      (fun t => t.id = id) = none :=
    List.find?_cons_of_neg (fun h => hne (of_decide_eq_true h).symm)
  show (f.tasks ++ [_]).find? (fun t : PollTask => t.id = id) = f.tasks.find? _
  rw [List.find?_append, hnew, Option.or_none]

/-- A new task stands at the end, which is where its number points. -/
theorem Numbered.spawn {f : Fleet} (hf : f.Numbered) (widget : WidgetId) (target : CheckTarget)
    (slug : String) (policy : SoundPolicy) : (f.spawn widget target slug policy).1.Numbered := by
  intro i t h
  change (f.tasks ++ [PollTask.new f.nextId widget target slug policy f.clock])[i]? = some t at h
  rcases Nat.lt_or_ge i f.tasks.length with hlt | hge
  · rw [List.getElem?_append_left hlt] at h
    exact hf i t h
  · rw [List.getElem?_append_right hge] at h
    obtain ⟨hi, rfl⟩ := List.getElem?_eq_some_iff.mp h
    have : i = f.tasks.length := by
      simp only [List.length_singleton] at hi
      omega
    subst this
    simp only [Nat.sub_self, List.getElem_cons_zero]
    rfl

/-- A task that is told of a policy goes by it. -/
theorem task?_updatePolicy_self (f : Fleet) (id : PollerId) (policy : SoundPolicy) :
    (f.updatePolicy id policy).task? id = (f.task? id).map fun t => { t with policy } := by
  refine f.task?_modifyTask_self id ?_
  exact fun _ => rfl

/-! ## What a board does to its fleet -/

/-- The second fleet is the first after tasks were told things and others were started. -/
inductive Told (f : Fleet) : Fleet → Prop
  | refl : Told f f
  | tell {g : Fleet} (id : PollerId) {change : PollTask → PollTask} :
      (∀ t : PollTask, t.Heard (change t)) → Told f g → Told f (g.modifyTask id change)
  | spawn {g : Fleet} (widget : WidgetId) (target : CheckTarget) (slug : String)
      (policy : SoundPolicy) : Told f g → Told f (g.spawn widget target slug policy).1

namespace Told

variable {f g h : Fleet}

theorem updatePolicy (hg : Told f g) (id : PollerId) (policy : SoundPolicy) :
    Told f (g.updatePolicy id policy) :=
  hg.tell id fun _ => ⟨rfl, rfl, rfl, rfl, fun h => h⟩

theorem setSlug (hg : Told f g) (id : PollerId) (slug : String) : Told f (g.setSlug id slug) :=
  hg.tell id fun _ => ⟨rfl, rfl, rfl, rfl, fun h => h⟩

theorem cancel (hg : Told f g) (id : PollerId) : Told f (g.cancel id) :=
  hg.tell id fun _ => ⟨rfl, rfl, rfl, rfl, fun _ => rfl⟩

theorem trans (hfg : Told f g) (hgh : Told g h) : Told f h := by
  induction hgh with
  | refl => exact hfg
  | tell id hc _ ih => exact ih.tell id hc
  | spawn widget target slug policy _ ih => exact ih.spawn widget target slug policy

/-- Telling tasks things takes no time. -/
theorem clock (hg : Told f g) : g.clock = f.clock := by
  induction hg with
  | refl => rfl
  | tell _ _ _ ih | spawn _ _ _ _ _ ih => exact ih

theorem config (hg : Told f g) : g.config = f.config := by
  induction hg with
  | refl => rfl
  | tell _ _ _ ih | spawn _ _ _ _ _ ih => exact ih

/-- Telling tasks things stops nobody from listening. -/
theorem listening (hg : Told f g) : g.listening = f.listening := by
  induction hg with
  | refl => rfl
  | tell _ _ _ ih | spawn _ _ _ _ _ ih => exact ih

/-- Told fleets keep their numbers in order. -/
theorem numbered (hg : Told f g) (hf : f.Numbered) : g.Numbered := by
  induction hg with
  | refl => exact hf
  | tell id hc _ ih => exact ih.modifyTask id fun t => (hc t).id
  | spawn widget target slug policy _ ih => exact ih.spawn widget target slug policy

/-- A task that was there is there still, and has only heard things. -/
theorem old (hg : Told f g) (hf : f.Numbered) {id : PollerId} {t : PollTask}
    (ht : f.task? id = some t) : ∃ t', g.task? id = some t' ∧ t.Heard t' := by
  induction hg with
  | refl => exact ⟨t, ht, .refl t⟩
  | tell i hc _ ih =>
    obtain ⟨u, hu, heard⟩ := ih
    rw [task?_modifyTask _ i fun t => (hc t).id, hu]
    refine ⟨_, rfl, heard.trans ?_⟩
    show u.Heard (if u.id = i then _ else u)
    split
    · exact hc u
    · exact .refl u
  | @spawn g' widget target slug policy hg' ih =>
    obtain ⟨u, hu, heard⟩ := ih
    have hne : id ≠ g'.nextId := by
      rintro rfl
      rw [task?_nextId (hg'.numbered hf)] at hu
      cases hu
    exact ⟨u, by rw [task?_spawn_ne g' widget target slug policy hne, hu], heard⟩

/-- A task that was not there is new: it has heard things at most, and its first turn is to come. -/
theorem new (hg : Told f g) (hf : f.Numbered) {id : PollerId} {t : PollTask}
    (hnone : f.task? id = none) (ht : g.task? id = some t) :
    ∃ widget target slug policy,
      (PollTask.new id widget target slug policy f.clock).Heard t := by
  induction hg generalizing t with
  | refl =>
    rw [hnone] at ht
    cases ht
  | tell i hc _ ih =>
    rw [task?_modifyTask _ i fun t => (hc t).id, Option.map_eq_some_iff] at ht
    obtain ⟨u, hu, rfl⟩ := ht
    obtain ⟨widget, target, slug, policy, heard⟩ := ih hu
    refine ⟨widget, target, slug, policy, heard.trans ?_⟩
    split
    · exact hc u
    · exact .refl u
  | @spawn g' widget target slug policy hg' ih =>
    by_cases hid : id = g'.nextId
    · subst hid
      rw [task?_spawn_self (hg'.numbered hf)] at ht
      cases ht
      rw [hg'.clock]
      exact ⟨widget, target, slug, policy, .refl _⟩
    · rw [task?_spawn_ne g' widget target slug policy hid] at ht
      exact ih ht

end Told

end Fleet

end StatusWall
