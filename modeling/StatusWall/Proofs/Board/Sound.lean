import StatusWall.Proofs.Board.Chronicle

/-!
# What every chronicle keeps to

`Chronicle.Sound` holds in every chronicle: the tasks are in step with the document, each task has
the trail of its own turns, and a widget shows nothing that its present task did not report. Every
moment keeps it (`Sound.step`), so every run does (`Sound.run`), and it holds from the start
(`Sound.start`).

Two things follow about numbers. A task that was started stays where it is (`known_run`), so that
its number is never given to another one; and a task that no widget holds is never held again
(`unheld_run`).
-/

namespace StatusWall

open StatusWall.Geometry

variable {α : Type}

/-! ## Staying in step -/

namespace Board

namespace InStep

variable {b : Board α} (hb : b.InStep)

include hb

/-- Widgets stay in step if what happens to the tasks leaves theirs in service. -/
theorem withFleet {change : Fleet → Fleet} (hn : ∀ f, f.Numbered → (change f).Numbered)
    (hserves : ∀ f w h t, b.fleet = some f → w ∈ b.widgets → w.poller = some h →
      Serves (some f) b.dashboard.slug w h t →
      ∃ t', Serves (some (change f)) b.dashboard.slug w h t' ∧ t'.policy = t.policy) :
    (b.withFleet change).InStep where
  aligned := hb.aligned
  nodup := hb.nodup
  fresh := hb.fresh
  numbered f' hf' := by
    obtain ⟨f, hf, rfl⟩ := Option.map_eq_some_iff.mp hf'
    exact hn f (hb.numbered f hf)
  idle := hb.idle
  served w e he h hp := by
    obtain ⟨t, ht, hwant⟩ := hb.served w e he h hp
    obtain ⟨f, hf, -⟩ := Option.bind_eq_some_iff.mp ht.found
    rw [hf] at ht
    obtain ⟨t', ht', hpolicy⟩ := hserves f w h t hf (mem_widgets_of_mem_entries he) hp ht
    refine ⟨t', ?_, hpolicy ▸ hwant⟩
    show Serves (b.fleet.map change) _ w h t'
    rw [hf]
    exact ht'

/-- A turn leaves every task in service. -/
theorem turned (id : PollerId) (source : Source) (now : Nat) :
    (b.withFleet fun f => f.modifyTask id fun t => (f.turn source now t).after).InStep := by
  have hid : ∀ (f : Fleet) (t : PollTask), (f.turn source now t).after.id = t.id :=
    fun f t => (f.turn source now t).after_id
  refine hb.withFleet (fun f hf => hf.modifyTask id (hid f)) fun f w h t hf hw hp ht => ?_
  have found : f.task? h.id = some t := ht.found
  refine ⟨if t.id = id then (f.turn source now t).after else t, ?_, ?_⟩
  · have found' : (f.modifyTask id fun t => (f.turn source now t).after).task? h.id =
        some (if t.id = id then (f.turn source now t).after else t) := by
      rw [f.task?_modifyTask id (hid f), found]
      rfl
    split at found'
    · next hown =>
      rw [if_pos hown]
      exact
        { found := found'
          widget := (f.turn source now t).after_widget.trans ht.widget
          target := (f.turn source now t).after_target.trans ht.target
          slug := (f.turn source now t).after_slug.trans ht.slug
          running := ⟨(f.turn source now t).after_cancelled.trans ht.running.1, fun hl =>
            (f.turn source now t).after_phase_ne_stopped ht.running.1 hl (ht.running.2 hl)⟩ }
    · next hother =>
      rw [if_neg hother]
      exact ⟨found', ht.widget, ht.target, ht.slug, ht.running⟩
  · split
    · exact (f.turn source now t).after_policy
    · rfl

/-- Cancelling a task that no widget holds. -/
theorem stopped {id : PollerId} (hid : ¬ b.Holds id) : (b.withFleet (·.cancel id)).InStep := by
  have hc : ∀ t : PollTask, ({ t with cancelled := true } : PollTask).id = t.id := fun _ => rfl
  refine hb.withFleet (fun f hf => hf.modifyTask id hc) fun f w h t hf hw hp ht => ⟨t, ?_, rfl⟩
  have hne : h.id ≠ id := fun heq => hid ⟨w, hw, h, hp, heq⟩
  refine ⟨?_, ht.widget, ht.target, ht.slug, ht.running⟩
  exact (f.task?_modifyTask_ne hc hne).trans ht.found

/-- What a widget with a task shows is not looked at. -/
theorem withStatus {i : Nat} {w : Widget} {h : PollerHandle} (hw : b.widgets[i]? = some w)
    (hp : w.poller = some h) (status : Option WidgetStatus) :
    ({ b with widgets := b.widgets.set i { w with status } } : Board α).InStep := by
  -- The new list has the old ids and pollers, place by place.
  have same : ∀ (j : Nat) (v : Widget), (b.widgets.set i { w with status })[j]? = some v →
      ∃ v₀, b.widgets[j]? = some v₀ ∧ v₀.id = v.id ∧ v₀.poller = v.poller ∧
        (v = v₀ ∨ v.poller = some h) := by
    intro j v hv
    rw [List.getElem?_set] at hv
    by_cases hij : i = j
    · subst hij
      rw [if_pos rfl, if_pos (List.getElem?_eq_some_iff.mp hw).1] at hv
      cases hv
      exact ⟨w, hw, rfl, rfl, .inr hp⟩
    · rw [if_neg hij] at hv
      exact ⟨v, hv, rfl, rfl, .inl rfl⟩
  exact
    { aligned := by
        unfold Aligned
        rw [List.length_set]
        exact hb.aligned
      nodup := by
        have hids : (b.widgets.set i { w with status }).map (·.id) = b.widgets.map (·.id) :=
          map_set_of_eq hw _ rfl
        exact Eq.mpr (congrArg List.Nodup hids) hb.nodup
      fresh := fun v hv => by
        obtain ⟨j, hj⟩ := List.mem_iff_getElem?.mp hv
        obtain ⟨v₀, hv₀, hid, -⟩ := same j v hj
        rw [← hid]
        exact hb.fresh v₀ (List.mem_of_getElem? hv₀)
      numbered := hb.numbered
      idle := fun v hv hidle => by
        obtain ⟨j, hj⟩ := List.mem_iff_getElem?.mp hv
        obtain ⟨v₀, hv₀, -, -, heq | hheld⟩ := same j v hj
        · subst heq
          exact hb.idle v (List.mem_of_getElem? hv₀) hidle
        · rw [hheld] at hidle
          cases hidle
      served := fun v e he k hk => by
        obtain ⟨j, hv, hej⟩ := mem_entries_iff_getElem?.mp he
        obtain ⟨v₀, hv₀, hid, hpoller, -⟩ := same j v hv
        obtain ⟨t, ht, hwant⟩ :=
          hb.served v₀ e (mem_entries_iff_getElem?.mpr ⟨j, hv₀, hej⟩) k (hpoller.trans hk)
        exact ⟨t, ⟨ht.found, ht.widget.trans hid, ht.target, ht.slug, ht.running⟩, hwant⟩ }

end InStep

end Board

/-! ## Soundness -/

namespace Chronicle

/-- What holds in every chronicle. -/
structure Sound (c : Chronicle α) : Prop where
  inStep : c.board.InStep
  /-- Each task has the trail of its own turns. -/
  trail : ∀ id t, c.board.task? id = some t → t.Trail (c.turnsOf id)
  /-- Only tasks take turns. -/
  silent : ∀ id, c.board.task? id = none → c.turnsOf id = []
  /-- What a widget shows was reported by the task it holds. -/
  shown : ∀ w ∈ c.board.widgets, ∀ s, w.status = some s →
    ∃ h, w.poller = some h ∧
      { widget := w.id, poller := h.id, outcome := .state s.state s.acknowledged } ∈ c.reported

variable {c : Chronicle α}

namespace Sound

/-- A task that hears things keeps its trail, and a new one begins its own. -/
theorem trail_told (hc : c.Sound) {fleet : Option Fleet}
    (told : Option.Rel Fleet.Told c.board.fleet fleet) :
    (∀ id t, fleet.bind (·.task? id) = some t → t.Trail (c.turnsOf id)) ∧
      ∀ id, fleet.bind (·.task? id) = none → c.turnsOf id = [] := by
  have trail := hc.trail
  have silent := hc.silent
  have numbered := hc.inStep.numbered
  unfold Board.task? at trail silent
  unfold Board.Numbered at numbered
  generalize c.board.fleet = before at told trail silent numbered
  cases told with
  | none => exact ⟨fun id t ht => (nomatch ht), silent⟩
  | @some f g told =>
    have hf := numbered f rfl
    refine ⟨fun id t ht => ?_, fun id hnone => ?_⟩
    · cases hold : f.task? id with
      | none =>
        obtain ⟨widget, target, slug, policy, heard⟩ := told.new hf hold ht
        rw [silent id hold]
        exact (PollTask.Trail.new id widget target slug policy f.clock).heard heard
      | some t₀ =>
        obtain ⟨t', ht', heard⟩ := told.old hf hold
        cases ht'.symm.trans ht
        exact (trail id t₀ hold).heard heard
    · cases hold : f.task? id with
      | none => exact silent id hold
      | some t₀ =>
        obtain ⟨t', ht', -⟩ := told.old hf hold
        cases ht'.symm.trans hnone

/-- Another board whose tasks have only heard things, and whose widgets show nothing new. -/
theorem withBoard (hc : c.Sound) {b : Board α} (hb : b.InStep)
    (told : Option.Rel Fleet.Told c.board.fleet b.fleet)
    (same : ∀ w ∈ b.widgets, w ∈ c.board.widgets ∨ w.status = none) :
    Sound { c with board := b } where
  inStep := hb
  trail := (hc.trail_told told).1
  silent := (hc.trail_told told).2
  shown w hw s hs := by
    rcases same w hw with hw | hnone
    · exact hc.shown w hw s hs
    · rw [hnone] at hs
      cases hs

theorem change {edit : Widget → Element α → Element α → Prop} {b : Board α} (hc : c.Sound)
    (change : Board.Change edit c.board b) : Sound { c with board := b } :=
  hc.withBoard (change.inStep hc.inStep) change.told fun _ hw => change.same_or_blank hc.inStep hw

theorem retimed (hc : c.Sound) {change : Fleet → Fleet} (htasks : ∀ f, (change f).tasks = f.tasks)
    (hl : ∀ f, (change f).listening = true → f.listening = true) :
    Sound { c with board := c.board.withFleet change } where
  inStep := by
    refine hc.inStep.withFleet (fun f hf => ?_) fun f w h t _ _ _ ht => ⟨t, ?_, rfl⟩
    · unfold Fleet.Numbered
      rw [htasks]
      exact hf
    · have found : (change f).task? h.id = some t := by
        unfold Fleet.task?
        rw [htasks]
        exact ht.found
      exact ⟨found, ht.widget, ht.target, ht.slug, ht.running.1, fun hlistening =>
        ht.running.2 (hl f hlistening)⟩
  trail id t ht := hc.trail id t ((c.board.task?_withFleet htasks id).symm.trans ht)
  silent id hnone := hc.silent id ((c.board.task?_withFleet htasks id).symm.trans hnone)
  shown := hc.shown

theorem takeTurn (hc : c.Sound) (id : PollerId) (source : Source) (now : Nat) :
    (c.takeTurn id source now).Sound where
  inStep := hc.inStep.turned id source now
  trail id' t' ht' := by
    rw [turnsOf_takeTurn]
    rw [task?_takeTurn] at ht'
    by_cases hid : id' = id
    · subst hid
      rw [if_pos rfl] at ht' ⊢
      obtain ⟨u, hu, rfl⟩ := Option.map_eq_some_iff.mp ht'
      rw [hu]
      exact (hc.trail id' u.task (task?_of_turnAt hu)).turn
    · rw [if_neg hid] at ht' ⊢
      rw [List.append_nil]
      exact hc.trail id' t' ht'
  silent id' hnone := by
    rw [turnsOf_takeTurn]
    rw [task?_takeTurn] at hnone
    by_cases hid : id' = id
    · subst hid
      rw [if_pos rfl, Option.map_eq_none_iff] at hnone
      rw [if_pos rfl, hnone, hc.silent id' (task?_of_turnAt_eq_none hnone)]
      rfl
    · rw [if_neg hid] at hnone ⊢
      rw [hc.silent id' hnone]
      rfl
  shown w hw s hs := by
    obtain ⟨h, hp, hreported⟩ := hc.shown w hw s hs
    refine ⟨h, hp, ?_⟩
    show _ ∈ (c.turns ++ _).flatMap Turn.reports
    rw [List.flatMap_append]
    exact List.mem_append_left _ hreported

theorem effect {c' : Chronicle α} {m : Moment α} (hc : c.Sound) (e : Effect c m c') : c'.Sound := by
  cases e with
  | changed change => exact hc.change change
  | @idled b _ widgets nextId dashboard told =>
    refine hc.withBoard ?_ told fun w hw => ?_
    · exact hc.inStep.idled widgets nextId (congrArg Dashboard.elements dashboard)
        (Board.numbered_of_told told hc.inStep.numbered)
    · rw [widgets] at hw
      obtain ⟨v, -, rfl⟩ := List.mem_map.mp hw
      exact .inr rfl
  | turned id source now => exact hc.takeTurn id source now
  | @shown i w h s hw hp hreported =>
    refine ⟨hc.inStep.withStatus hw hp _, hc.trail, hc.silent, fun v hv s' hs' => ?_⟩
    rcases List.mem_or_eq_of_mem_set hv with hv | rfl
    · exact hc.shown v hv s' hs'
    · cases hs'
      exact ⟨h, hp, hreported⟩
  | retimed htasks hl _ => exact hc.retimed htasks hl
  | @stopped id hfree =>
    exact hc.withBoard (hc.inStep.stopped hfree)
      (Fleet.told_map (fun _ => Fleet.Told.refl.cancel id) _) fun w hw => .inl hw

/-- **Every moment keeps a chronicle sound.** -/
theorem step [Scalar α] (hc : c.Sound) (m : Moment α) : (c.step m).Sound :=
  hc.effect (Chronicle.effect hc.inStep m)

/-- **Every run is sound.** -/
theorem run [Scalar α] (hc : c.Sound) (ms : List (Moment α)) : (c.run ms).Sound := by
  induction ms generalizing c with
  | nil => exact hc
  | cons m ms ih => exact ih (hc.step m)

theorem start (d : Dashboard α) (polling : Option PollConfig) :
    (Chronicle.start d polling).Sound := by
  let fleet : Option Fleet := polling.map fun config => { config }
  have hn : ∀ f, fleet = some f → f.Numbered := by
    intro f hf
    obtain ⟨config, -, rfl⟩ := Option.map_eq_some_iff.mp hf
    exact fun i t ht => nomatch ht
  have empty : Sound { board := { dashboard := { d with elements := [] }, fleet := fleet } } :=
    { inStep := Board.empty_inStep d hn
      trail := fun id t ht => by
        obtain ⟨f, hf, ht⟩ := Option.bind_eq_some_iff.mp ht
        obtain ⟨config, -, rfl⟩ := Option.map_eq_some_iff.mp hf
        cases ht
      silent := fun _ _ => rfl
      shown := fun _ hw => absurd hw List.not_mem_nil }
  exact Board.new_induction (P := fun b => Sound { board := b }) d _ empty
    fun _ _ h change => h.change change

end Sound

/-- The turns under a number are the trail of a task; where no task has the number yet, of one that is
still to be started. -/
theorem Sound.exists_trail (hc : c.Sound) (id : PollerId) :
    ∃ t : PollTask, t.Trail (c.turnsOf id) := by
  cases ht : c.board.task? id with
  | none =>
    rw [hc.silent id ht]
    exact ⟨_, .new id ⟨0⟩ ⟨.service, ""⟩ "" {} 0⟩
  | some t => exact ⟨t, hc.trail id t ht⟩

/-! ## One configuration for all -/

/-- The tasks go by the board's configuration, and so did every turn. -/
structure Configured (polling : Option PollConfig) (c : Chronicle α) : Prop where
  fleet : c.board.fleet.map (·.config) = polling
  turns : ∀ u ∈ c.turns, some u.config = polling

theorem config_told {before after : Option Fleet} (told : Option.Rel Fleet.Told before after) :
    after.map (·.config) = before.map (·.config) := by
  cases told with
  | none => rfl
  | some told => exact congrArg some told.config

namespace Configured

variable {polling : Option PollConfig}

theorem withFleet {change : Fleet → Fleet} (h : Configured polling c)
    (same : ∀ f, (change f).config = f.config) :
    Configured polling { c with board := c.board.withFleet change } where
  fleet := by
    rw [← h.fleet]
    show (c.board.fleet.map change).map _ = _
    rw [Option.map_map]
    exact congrArg (c.board.fleet.map ·) (funext same)
  turns := h.turns

theorem effect {c' : Chronicle α} {m : Moment α} (h : Configured polling c) (e : Effect c m c') :
    Configured polling c' := by
  cases e with
  | changed change => exact ⟨(config_told change.told).trans h.fleet, h.turns⟩
  | idled _ _ _ _ told => exact ⟨(config_told told).trans h.fleet, h.turns⟩
  | turned id source now =>
    have same : ∀ f : Fleet,
        (f.modifyTask id fun t => (f.turn source now t).after).config = f.config := fun _ => rfl
    refine ⟨(h.withFleet same).fleet, fun u hu => ?_⟩
    rcases List.mem_append.mp hu with hu | hu
    · exact h.turns u hu
    · obtain ⟨f, hf, hu⟩ := Option.bind_eq_some_iff.mp (Option.mem_toList.mp hu)
      obtain ⟨t, -, rfl⟩ := Option.map_eq_some_iff.mp hu
      rw [← h.fleet, hf]
      rfl
  | shown _ _ _ => exact ⟨h.fleet, h.turns⟩
  | retimed _ _ same => exact h.withFleet same
  | stopped _ => exact h.withFleet fun _ => rfl

/-- **Every turn goes by the configuration that the board started with.** -/
theorem run [Scalar α] (h : Configured polling c) (hc : c.Sound) (ms : List (Moment α)) :
    Configured polling (c.run ms) := by
  induction ms generalizing c with
  | nil => exact h
  | cons m ms ih => exact ih (h.effect (Chronicle.effect hc.inStep m)) (hc.step m)

theorem start (d : Dashboard α) (polling : Option PollConfig) :
    Configured polling (Chronicle.start d polling) := by
  refine ⟨?_, fun u hu => absurd hu List.not_mem_nil⟩
  refine Board.new_induction (P := fun b => b.fleet.map (·.config) = polling) d _ ?_
    fun _ _ h change => (config_told change.told).trans h
  cases polling <;> rfl

end Configured

/-! ## Numbers are given out once -/

section Numbers

variable {id : PollerId}

theorem Effect.known {c' : Chronicle α} {m : Moment α} (e : Effect c m c') (hc : c.Sound)
    (h : c.board.task? id ≠ none) : c'.board.task? id ≠ none := by
  cases e with
  | changed change => exact Board.known_of_told change.told hc.inStep.numbered h
  | idled _ _ _ _ told => exact Board.known_of_told told hc.inStep.numbered h
  | turned id' source now =>
    rw [task?_takeTurn]
    split
    · next heq =>
      subst heq
      exact fun hnone => h (task?_of_turnAt_eq_none (Option.map_eq_none_iff.mp hnone))
    · exact h
  | shown _ _ _ => exact h
  | retimed htasks _ _ =>
    rw [c.board.task?_withFleet htasks]
    exact h
  | @stopped id' _ =>
    exact Board.known_of_told (Fleet.told_map (fun _ => Fleet.Told.refl.cancel id') _)
      hc.inStep.numbered h

/-- A task that is there stays there. -/
theorem known_run [Scalar α] (hc : c.Sound) (h : c.board.task? id ≠ none) (ms : List (Moment α)) :
    (c.run ms).board.task? id ≠ none := by
  induction ms generalizing c with
  | nil => exact h
  | cons m ms ih => exact ih (hc.step m) ((effect hc.inStep m).known hc h)

theorem Effect.unheld {c' : Chronicle α} {m : Moment α} (e : Effect c m c') (hc : c.Sound)
    (h : c.board.task? id ≠ none) (hfree : ¬ c.board.Holds id) : ¬ c'.board.Holds id := by
  cases e with
  | changed change =>
    rintro ⟨w', hw', k, hk, rfl⟩
    rcases change.held_or_new hc.inStep hw' hk with ⟨w, hw, hp⟩ | hnone
    · exact hfree ⟨w, hw, k, hp, rfl⟩
    · exact h hnone
  | idled _ widgets _ _ _ =>
    rintro ⟨w', hw', k, hk, -⟩
    rw [widgets] at hw'
    obtain ⟨w, -, rfl⟩ := List.mem_map.mp hw'
    cases hk
  | shown hw hp _ =>
    rintro ⟨v, hv, k, hk, hid⟩
    rcases List.mem_or_eq_of_mem_set hv with hv | rfl
    · exact hfree ⟨v, hv, k, hk, hid⟩
    · exact hfree ⟨_, List.mem_of_getElem? hw, k, hk, hid⟩
  | turned _ _ _ | retimed _ _ _ | stopped _ => exact hfree

/-- A task that no widget holds is never held again. -/
theorem unheld_run [Scalar α] (hc : c.Sound) (h : c.board.task? id ≠ none)
    (hfree : ¬ c.board.Holds id) (ms : List (Moment α)) : ¬ (c.run ms).board.Holds id := by
  induction ms generalizing c with
  | nil => exact hfree
  | cons m ms ih =>
    have e := effect hc.inStep m
    exact ih (hc.step m) (e.known hc h) (e.unheld hc h hfree)

end Numbers

end Chronicle

end StatusWall
