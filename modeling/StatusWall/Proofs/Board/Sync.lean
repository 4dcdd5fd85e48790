import StatusWall.Proofs.Board.Entries
import StatusWall.Proofs.Polling.Numbers

/-!
# Bringing a task in line

`Board.syncPoller` is where a widget's task meets its element, and the only place where a task is
started. `Board.Resync` says what it can come to: the task goes on and learns the policy, there is
none afterwards, or there is another one. `syncPoller_eq` says that it comes to one of these and
touches nothing else; the rest of the module is what each of them means for the widget's own task
and for the tasks of everybody else.
-/

namespace StatusWall

/-- The object an element wants polled, and its word on alerts. -/
def Element.wanted? {α : Type} (e : Element α) : Option (CheckTarget × SoundPolicy) :=
  e.checkOptions?.bind fun o => o.target.map fun t => (t, o.policy)

theorem Element.target?_eq {α : Type} (e : Element α) : e.target? = e.wanted?.map (·.1) := by
  unfold target? wanted?
  cases e.checkOptions? with
  | none => rfl
  | some o =>
    show o.target = (o.target.map fun t => (t, o.policy)).map (·.1)
    cases o.target <;> rfl

/-- An element that wants an object polled is a check, and its policy is the wanted one. -/
theorem Element.checkOptions?_of_wanted {α : Type} (e : Element α) {target : CheckTarget}
    {policy : SoundPolicy} (h : e.wanted? = some (target, policy)) :
    ∃ check, e.checkOptions? = some check ∧ check.policy = policy := by
  obtain ⟨check, hcheck, h⟩ := Option.bind_eq_some_iff.mp h
  obtain ⟨_, -, heq⟩ := Option.map_eq_some_iff.mp h
  exact ⟨check, hcheck, congrArg Prod.snd heq⟩

/-- The widget without a task. -/
def Widget.idled (w : Widget) : Widget := { w with poller := none, status := none }

/-- Cancels the task of a handle, if there is one. -/
def Fleet.release (f : Fleet) (handle : Option PollerHandle) : Fleet :=
  match handle with
  | some h => f.cancel h.id
  | none => f

namespace Fleet

/-- Cancelling the task of a handle is a thing it is told. -/
theorem told_release (f : Fleet) (handle : Option PollerHandle) : Told f (f.release handle) := by
  cases handle with
  | none => exact .refl
  | some h => exact Told.refl.cancel h.id

theorem told_map {change : Fleet → Fleet} (h : ∀ f, Told f (change f)) (fleet : Option Fleet) :
    Option.Rel Told fleet (fleet.map change) := by
  cases fleet with
  | none => exact .none
  | some f => exact .some (h f)

theorem told_rfl (fleet : Option Fleet) : Option.Rel Told fleet fleet := by
  cases fleet with
  | none => exact .none
  | some _ => exact .some .refl

theorem told_trans {a b c : Option Fleet} (hab : Option.Rel Told a b)
    (hbc : Option.Rel Told b c) : Option.Rel Told a c := by
  cases hab with
  | none => exact hbc
  | some hab =>
    cases hbc with
    | some hbc => exact .some (hab.trans hbc)

/-- Nothing that tasks are told makes or unmakes the fleet. -/
theorem eq_none_iff_of_told {a b : Option Fleet} (h : Option.Rel Told a b) :
    b = none ↔ a = none := by
  cases h with
  | none => exact Iff.rfl
  | some _ => exact ⟨fun hb => (nomatch hb), fun ha => (nomatch ha)⟩

@[simp] theorem map_release_none (fleet : Option Fleet) : fleet.map (·.release none) = fleet := by
  cases fleet <;> rfl

@[simp] theorem release_nextId (f : Fleet) (handle : Option PollerHandle) :
    (f.release handle).nextId = f.nextId := by
  cases handle with
  | none => rfl
  | some h =>
    unfold release Fleet.cancel modifyTask nextId
    rw [List.length_map]

/-- Cancelling one task leaves the others. -/
theorem task?_release (f : Fleet) {handle : Option PollerHandle} {id : PollerId}
    (hne : ∀ h, handle = some h → h.id ≠ id) : (f.release handle).task? id = f.task? id := by
  cases handle with
  | none => rfl
  | some h => exact f.task?_modifyTask_ne (fun _ => rfl) (hne h rfl).symm

/-- A task that takes the place of another one gets the next number, and begins now. -/
theorem task?_respawn {f : Fleet} (hf : f.Numbered) (handle : Option PollerHandle)
    (widget : WidgetId) (target : CheckTarget) (slug : String) (policy : SoundPolicy) :
    ((f.release handle).spawn widget target slug policy).1.task? f.nextId =
      some (.new f.nextId widget target slug policy f.clock) := by
  have found := task?_spawn_self ((f.told_release handle).numbered hf) widget target slug policy
  rw [f.release_nextId, (f.told_release handle).clock] at found
  exact found

end Fleet

namespace Board

variable {α : Type}

/-- The task with a number. -/
def task? (b : Board α) (id : PollerId) : Option PollTask := b.fleet.bind (·.task? id)

/-- The numbers of the board's tasks are their places. -/
def Numbered (b : Board α) : Prop := ∀ f, b.fleet = some f → f.Numbered

/-- The numbers of the tasks stay their places. -/
theorem numbered_of_told {before after : Option Fleet} (told : Option.Rel Fleet.Told before after)
    (hn : ∀ f, before = some f → f.Numbered) : ∀ f, after = some f → f.Numbered := by
  rintro f rfl
  cases told with
  | some told => exact told.numbered (hn _ rfl)

/-- What happens to the fleet is not seen in the tasks if it leaves them alone. -/
theorem task?_withFleet (b : Board α) {change : Fleet → Fleet}
    (htasks : ∀ f, (change f).tasks = f.tasks) (id : PollerId) :
    (b.withFleet change).task? id = b.task? id := by
  unfold task? withFleet Fleet.task?
  cases b.fleet with
  | none => rfl
  | some f => simp only [Option.map_some, Option.bind_some, htasks]

/-- A number that finds a task finds one for ever. -/
theorem known_of_told {before after : Option Fleet} (told : Option.Rel Fleet.Told before after)
    (hn : ∀ f, before = some f → f.Numbered) {id : PollerId}
    (h : before.bind (·.task? id) ≠ none) : after.bind (·.task? id) ≠ none := by
  obtain ⟨t, ht⟩ := Option.ne_none_iff_exists'.mp h
  cases told with
  | none => cases ht
  | some told =>
    obtain ⟨t', ht', -⟩ := told.old (hn _ rfl) ht
    exact fun hnone => nomatch ht'.symm.trans hnone

/-! ## What stopping and starting are -/

/-- Stopping idles the widget and cancels its task. -/
theorem stopPolling_eq (b : Board α) (i : Nat) :
    b.stopPolling i =
      { b with
          widgets := b.widgets.modify i Widget.idled
          fleet := b.fleet.map (·.release (b.widgets[i]?.bind (·.poller))) } := by
  unfold stopPolling
  cases b.widgets[i]?.bind (·.poller) with
  | some h => rfl
  | none =>
    rw [Fleet.map_release_none]
    rfl

/-- Starting gives the widget a handle to a new task, under the next number. -/
theorem startPolling_eq {b : Board α} {i : Nat} {w : Widget} {f : Fleet} (hf : b.fleet = some f)
    (hw : b.widgets[i]? = some w) (target : CheckTarget) (policy : SoundPolicy) :
    b.startPolling i target policy =
      { b with
          widgets := b.widgets.set i { w with poller := some ⟨f.nextId, target⟩ }
          fleet := some (f.spawn w.id target b.dashboard.slug policy).1 } := by
  unfold startPolling
  rw [hf, hw]
  simp only [modifyWidget]
  rw [modify_eq_set_of_getElem? hw]
  rfl

/-- A board that does not poll starts nothing. -/
theorem startPolling_of_none {b : Board α} (hf : b.fleet = none) (i : Nat) (target : CheckTarget)
    (policy : SoundPolicy) : b.startPolling i target policy = b := by
  unfold startPolling
  rw [hf]

theorem startPolling_of_no_widget {b : Board α} {i : Nat} (hw : b.widgets[i]? = none)
    (target : CheckTarget) (policy : SoundPolicy) : b.startPolling i target policy = b := by
  unfold startPolling
  rw [hw]
  cases b.fleet <;> rfl

/-! ## What syncing is -/

/-- What the tasks of a board with a slug become, and what one of its widgets, when the widget's
task is brought in line with an element. -/
inductive Resync (tasks : Option Fleet) (slug : String) (w : Widget) (e : Element α) :
    Option Fleet → Widget → Prop
  /-- The task polls what the element shows: it goes on. -/
  | kept {h : PollerHandle} {policy : SoundPolicy} :
      w.poller = some h → e.wanted? = some (h.target, policy) →
      Resync tasks slug w e (tasks.map (·.updatePolicy h.id policy)) w
  /-- The element shows no object, or there is nobody to poll it. -/
  | stopped : e.wanted? = none ∨ tasks = none →
      Resync tasks slug w e (tasks.map (·.release w.poller)) w.idled
  /-- The element shows an object that the widget's task, if there is one, does not poll. -/
  | started {f : Fleet} {target : CheckTarget} {policy : SoundPolicy} :
      tasks = some f → e.wanted? = some (target, policy) →
      (∀ h, w.poller = some h → h.target ≠ target) →
      Resync tasks slug w e (some ((f.release w.poller).spawn w.id target slug policy).1)
        { w with poller := some ⟨f.nextId, target⟩, status := none }

/-- Stopping a widget's task and starting another one. -/
theorem restart_eq {b : Board α} {i : Nat} {w : Widget} {e : Element α} {target : CheckTarget}
    {policy : SoundPolicy} (hw : b.widgets[i]? = some w) (he : e.wanted? = some (target, policy))
    (hne : ∀ h, w.poller = some h → h.target ≠ target) :
    ∃ fleet w', Resync b.fleet b.dashboard.slug w e fleet w' ∧
      (b.stopPolling i).startPolling i target policy =
        { b with widgets := b.widgets.set i w', fleet } := by
  rw [stopPolling_eq, hw, modify_eq_set_of_getElem? hw, Option.bind_some]
  cases hf : b.fleet with
  | none =>
    refine ⟨_, _, .stopped (.inr rfl), ?_⟩
    rw [startPolling_of_none rfl]
  | some f =>
    refine ⟨_, _, .started rfl he hne, ?_⟩
    have hlt := (List.getElem?_eq_some_iff.mp hw).1
    have hi : (b.widgets.set i w.idled)[i]? = some w.idled := by
      rw [List.getElem?_set_self hlt]
    rw [startPolling_eq rfl hi, List.set_set, f.release_nextId]
    rfl

/-- **What syncing is.** It brings one widget and the tasks in line with the widget's element, and
touches nothing else. -/
theorem syncPoller_eq {b : Board α} {i : Nat} {w : Widget} {e : Element α}
    (hw : b.widgets[i]? = some w) (he : b.dashboard.elements[i]? = some e)
    (hidle : w.poller = none → w.status = none) :
    ∃ fleet w', Resync b.fleet b.dashboard.slug w e fleet w' ∧
      b.syncPoller i = { b with widgets := b.widgets.set i w', fleet } := by
  have hset : b.widgets.set i w = b.widgets := by
    obtain ⟨hlt, rfl⟩ := List.getElem?_eq_some_iff.mp hw
    exact List.set_getElem_self hlt
  unfold syncPoller
  -- What syncing computes from the element is `e.wanted?`, spelled out.
  have hwanted : (e.checkOptions?.bind fun o => o.target.map fun t => (t, o.policy)) = e.wanted? :=
    rfl
  simp only [hw, he, Option.bind_some, hwanted]
  cases hp : w.poller with
  | none =>
    cases hwant : e.wanted? with
    | none =>
      have hself : w.idled = w := by
        unfold Widget.idled
        rw [← hp, ← hidle hp]
      refine ⟨_, _, .stopped (.inl hwant), ?_⟩
      rw [hself, hset, hp, Fleet.map_release_none]
    | some want =>
      exact restart_eq hw hwant fun h hh => by rw [hp] at hh; cases hh
  | some h =>
    cases hwant : e.wanted? with
    | none =>
      refine ⟨_, _, .stopped (.inl hwant), ?_⟩
      show b.stopPolling i = _
      rw [stopPolling_eq, hw, modify_eq_set_of_getElem? hw]
      rfl
    | some want =>
      obtain ⟨target, policy⟩ := want
      by_cases ht : h.target = target
      · refine ⟨_, _, .kept hp (ht ▸ hwant), ?_⟩
        simp only [if_pos ht, hset]
        rfl
      · simp only [if_neg ht]
        refine restart_eq hw hwant fun h' hh' => ?_
        rw [hp] at hh'
        cases hh'
        exact ht

namespace Resync

variable {before after : Option Fleet} {slug : String} {w w' : Widget} {e : Element α}

theorem id (h : Resync before slug w e after w') : w'.id = w.id := by
  cases h <;> rfl

/-- A task that is brought in line was told things, or a new one started. -/
theorem told (h : Resync before slug w e after w') : Option.Rel Fleet.Told before after := by
  cases h with
  | kept hp hwant => exact Fleet.told_map (fun _ => Fleet.Told.refl.updatePolicy _ _) _
  | stopped hnone => exact Fleet.told_map (fun f => f.told_release _) _
  | started hf hwant hne =>
    rw [hf]
    exact .some ((Fleet.told_release _ _).spawn _ _ _ _)

/-- The other tasks notice nothing. -/
theorem frame (hn : ∀ f, before = some f → f.Numbered) (h : Resync before slug w e after w')
    {id : PollerId} {t : PollTask} (hne : ∀ h, w.poller = some h → h.id ≠ id)
    (ht : before.bind (·.task? id) = some t) : after.bind (·.task? id) = some t := by
  obtain ⟨f, hf, ht⟩ := Option.bind_eq_some_iff.mp ht
  cases h with
  | kept hp hwant =>
    rw [hf]
    refine Eq.trans (f.task?_modifyTask_ne ?_ (hne _ hp).symm) ht
    exact fun _ => rfl
  | stopped hnone =>
    rw [hf]
    exact (f.task?_release hne).trans ht
  | started hf' hwant hne' =>
    obtain rfl := Option.some.inj (hf.symm.trans hf')
    have hid : id ≠ (f.release w.poller).nextId := by
      rintro rfl
      rw [f.release_nextId, Fleet.task?_nextId (hn f hf)] at ht
      cases ht
    exact (Fleet.task?_spawn_ne _ _ _ _ _ hid).trans ((f.task?_release hne).trans ht)

end Resync

end Board

end StatusWall
