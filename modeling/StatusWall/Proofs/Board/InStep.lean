import StatusWall.Proofs.Board.Change

/-!
# Tasks in step with the document

`Board.InStep` is what a board keeps to at all times: every task a widget holds runs, polls for that
widget the object its element shows, and knows the element's policy and the document's slug. A
widget without a task shows no state. `Board.Full` is the other half, which holds until the board is
unmounted: every widget whose element shows an object has a task.

`Change.entry` sorts the widgets of a changed board into those that stayed as they were, those that
were brought in line, and the one that is new. Both halves follow for the changed board
(`Change.inStep`, `Change.full`), and a board is built up by such changes from an empty one
(`new_induction`).
-/

namespace StatusWall.Board

variable {α : Type}

/-- Nobody cancelled the task, and it goes on as long as somebody takes its reports. -/
def Running (tasks : Option Fleet) (t : PollTask) : Prop :=
  t.cancelled = false ∧ (tasks.any (·.listening) = true → t.phase ≠ .stopped)

/-- The task that a widget's handle names runs, polls the handle's object for the widget, and knows
the slug. -/
structure Serves (tasks : Option Fleet) (slug : String) (w : Widget) (h : PollerHandle)
    (t : PollTask) : Prop where
  found : tasks.bind (·.task? h.id) = some t
  widget : t.widget = w.id
  target : t.target = h.target
  slug : t.slug = slug
  running : Running tasks t

/-- The widgets are numbered apart, and the task of each is in step with its element. -/
structure InStep (b : Board α) : Prop where
  aligned : b.Aligned
  nodup : b.widgetIds.Nodup
  fresh : ∀ w ∈ b.widgets, w.id.number < b.nextId
  numbered : b.Numbered
  idle : ∀ w ∈ b.widgets, w.poller = none → w.status = none
  served : ∀ w e, (w, e) ∈ b.entries → ∀ h, w.poller = some h →
    ∃ t, Serves b.fleet b.dashboard.slug w h t ∧ e.wanted? = some (h.target, t.policy)

/-- Every widget whose element shows an object has a task, if the board polls at all. -/
def Full (b : Board α) : Prop :=
  b.fleet ≠ none → ∀ w e, (w, e) ∈ b.entries → e.wanted? ≠ none → w.poller ≠ none

namespace InStep

variable {b : Board α} (hb : b.InStep)

include hb

/-- A widget's task is in step also when its element is not looked at. -/
theorem serves {w : Widget} (hw : w ∈ b.widgets) {h : PollerHandle} (hp : w.poller = some h) :
    ∃ t, Serves b.fleet b.dashboard.slug w h t := by
  obtain ⟨e, he⟩ := hb.aligned.exists_entry hw
  obtain ⟨t, ht, -⟩ := hb.served w e he h hp
  exact ⟨t, ht⟩

/-- No two widgets hold one task. -/
theorem holder_unique {v w : Widget} (hv : v ∈ b.widgets) (hw : w ∈ b.widgets)
    {k h : PollerHandle} (hk : v.poller = some k) (hh : w.poller = some h) (hid : k.id = h.id) :
    v = w := by
  obtain ⟨t, ht⟩ := hb.serves hv hk
  obtain ⟨u, hu⟩ := hb.serves hw hh
  have found := hu.found
  rw [← hid, ht.found] at found
  cases found
  exact widget_unique hb.nodup hv hw (ht.widget.symm.trans hu.widget)

/-- The tasks of two places are two. -/
theorem handle_ne {i j : Nat} {v w : Widget} (hv : b.widgets[i]? = some v)
    (hw : b.widgets[j]? = some w) (hij : i ≠ j) {k h : PollerHandle} (hk : v.poller = some k)
    (hh : w.poller = some h) : k.id ≠ h.id := by
  intro hid
  have hsame := hb.holder_unique (List.mem_of_getElem? hv) (List.mem_of_getElem? hw) hk hh hid
  exact hij (place_unique hb.nodup hv hw (congrArg Widget.id hsame))

end InStep

/-! ## After syncing -/

theorem Running.of_told {before after : Option Fleet} (told : Option.Rel Fleet.Told before after)
    {t : PollTask} (h : Running before t) : Running after t := by
  cases told with
  | none => exact h
  | some told =>
    refine ⟨h.1, fun hl => h.2 ?_⟩
    exact told.listening.symm.trans hl

namespace Resync

variable {before after : Option Fleet} {slug : String} {w w' : Widget} {e : Element α}

/-- A widget without a task shows no state. -/
theorem idle (h : Resync before slug w e after w') (hp : w'.poller = none) : w'.status = none := by
  cases h with
  | kept hp' _ =>
    rw [hp'] at hp
    cases hp
  | stopped _ => rfl
  | started _ _ _ => rfl

/-- The task the widget holds afterwards is in step with the element. -/
theorem serves (hn : ∀ f, before = some f → f.Numbered) (h : Resync before slug w e after w')
    (hw : ∀ h, w.poller = some h → ∃ t, Serves before slug w h t) {k : PollerHandle}
    (hk : w'.poller = some k) :
    ∃ t, Serves after slug w' k t ∧ e.wanted? = some (k.target, t.policy) := by
  cases h with
  | @kept _ policy hp hwant =>
    rw [hp] at hk
    cases hk
    obtain ⟨t, ht⟩ := hw k hp
    obtain ⟨f, rfl, hft⟩ := Option.bind_eq_some_iff.mp ht.found
    have found : (f.updatePolicy k.id policy).task? k.id = some { t with policy } := by
      rw [f.task?_updatePolicy_self, hft]
      rfl
    exact ⟨_, ⟨found, ht.widget, ht.target, ht.slug, ht.running⟩, hwant⟩
  | stopped _ => cases hk
  | @started f target policy hf hwant hne =>
    cases hk
    subst hf
    have found := Fleet.task?_respawn (hn f rfl) w.poller w.id target slug policy
    refine ⟨_, ⟨found, rfl, rfl, rfl, rfl, ?_⟩, hwant⟩
    intro _ hstop
    cases hstop

/-- A widget has a task afterwards if there is an object to poll. -/
theorem full (h : Resync before slug w e after w') (hf : after ≠ none) (hwant : e.wanted? ≠ none) :
    w'.poller ≠ none := by
  cases h with
  | kept hp _ =>
    rw [hp]
    exact Option.some_ne_none _
  | stopped hnone =>
    rcases hnone with hnone | rfl
    · exact absurd hnone hwant
    · exact absurd rfl hf
  | started _ _ _ => exact Option.some_ne_none _

/-- A widget holds the task it held, or one that was not there. -/
theorem held_or_new (hn : ∀ f, before = some f → f.Numbered)
    (h : Resync before slug w e after w') {k : PollerHandle} (hk : w'.poller = some k) :
    w.poller = some k ∨ before.bind (·.task? k.id) = none := by
  cases h with
  | kept _ _ => exact .inl hk
  | stopped _ => cases hk
  | started hf _ _ =>
    cases hk
    subst hf
    exact .inr (Fleet.task?_nextId (hn _ rfl))

/-- A widget stays as it was or shows nothing. -/
theorem same_or_blank (h : Resync before slug w e after w') : w' = w ∨ w'.status = none := by
  cases h with
  | kept _ _ => exact .inl rfl
  | stopped _ => exact .inr rfl
  | started _ _ _ => exact .inr rfl

end Resync

/-! ## After a change -/

/-- What becomes of a widget that stays, and of its element. -/
inductive Carried (edit : Widget → Element α → Element α → Prop) (b b' : Board α) (w : Widget)
    (e : Element α) (w' : Widget) (e' : Element α) : Prop
  /-- The widget is as it was, and its task goes on and knows the slug. -/
  | kept : w' = w → e'.wanted? = e.wanted? →
      (∀ h t, w.poller = some h → b.task? h.id = some t →
        b'.task? h.id = some { t with slug := b'.dashboard.slug }) →
      Carried edit b b' w e w' e'
  /-- The element was edited, and the widget's task was brought in line with it. -/
  | resynced : edit w e e' → b'.dashboard.slug = b.dashboard.slug →
      Resync b.fleet b.dashboard.slug w e' b'.fleet w' → Carried edit b b' w e w' e'

variable {edit : Widget → Element α → Element α → Prop}

theorem Carried.id {b b' : Board α} {w w' : Widget} {e e' : Element α}
    (h : Carried edit b b' w e w' e') : w'.id = w.id := by
  cases h with
  | kept hw _ _ => rw [hw]
  | resynced _ _ sync => exact sync.id

/-- A task that knew the slug goes on as it was if the slug stays. -/
theorem Carried.of_frame {b b' : Board α} (hb : b.InStep) {w : Widget} {e e' : Element α}
    (he : (w, e) ∈ b.entries) (hwant : e'.wanted? = e.wanted?)
    (hslug : b'.dashboard.slug = b.dashboard.slug)
    (frame : ∀ h t, w.poller = some h → b.task? h.id = some t → b'.task? h.id = some t) :
    Carried edit b b' w e w e' := by
  refine .kept rfl hwant fun h t hp ht => ?_
  obtain ⟨u, hu, -⟩ := hb.served w e he h hp
  have hut : u = t := Option.some.inj (hu.found.symm.trans ht)
  have hknown : t.slug = b'.dashboard.slug := by rw [hslug, ← hu.slug, hut]
  rw [frame h t hp ht, ← hknown]

namespace Change

variable {b b' : Board α}

/-- **The widgets after a change.** One that was there before was carried over; any other is new,
and was brought in line with its element from nothing. -/
theorem entry (hb : b.InStep) (c : Change edit b b') {w' : Widget} {e' : Element α}
    (h : (w', e') ∈ b'.entries) :
    (∃ w e, (w, e) ∈ b.entries ∧ Carried edit b b' w e w' e') ∨
      (b'.nextId = b.nextId + 1 ∧ b'.dashboard.slug = b.dashboard.slug ∧
        Resync b.fleet b.dashboard.slug { id := ⟨b.nextId⟩ } e' b'.fleet w') := by
  obtain ⟨j, hw, he⟩ := mem_entries_iff_getElem?.mp h
  cases c with
  | touched widgets nextId slug fleet checks =>
    rw [widgets] at hw
    obtain ⟨e, hej⟩ := hb.aligned.exists_element hw
    have hmem : (w', e) ∈ b.entries := mem_entries_iff_getElem?.mpr ⟨j, hw, hej⟩
    have hchecks : e'.checkOptions? = e.checkOptions? := by
      have := congrArg (·[j]?) checks
      simp only [List.getElem?_map, he, hej] at this
      exact Option.some.inj this
    refine .inl ⟨w', e, hmem, .of_frame hb hmem ?_ slug fun h t hp ht => ?_⟩
    · unfold Element.wanted?
      rw [hchecks]
    · unfold task?
      rw [fleet]
      exact ht
  | renamed widgets nextId elements told tasks =>
    rw [widgets] at hw
    rw [elements] at he
    refine .inl ⟨w', e', mem_entries_iff_getElem?.mpr ⟨j, hw, he⟩, .kept rfl rfl ?_⟩
    exact tasks w' (List.mem_of_getElem? hw)
  | resynced i w v e e₀ place hei edited widgets nextId elements slug sync =>
    rw [widgets, List.getElem?_set] at hw
    rw [elements, List.getElem?_set] at he
    by_cases hij : i = j
    · subst hij
      rw [if_pos rfl, if_pos (List.getElem?_eq_some_iff.mp place).1] at hw
      rw [if_pos rfl, if_pos (List.getElem?_eq_some_iff.mp hei).1] at he
      cases hw
      cases he
      exact .inl ⟨w, e, mem_entries_iff_getElem?.mpr ⟨i, place, hei⟩, .resynced edited slug sync⟩
    · rw [if_neg hij] at hw he
      have hmem : (w', e') ∈ b.entries := mem_entries_iff_getElem?.mpr ⟨j, hw, he⟩
      refine .inl ⟨w', e', hmem, .of_frame hb hmem rfl slug fun h t hp ht => ?_⟩
      exact sync.frame hb.numbered (fun k hk => hb.handle_ne place hw hij hk hp) ht
  | mounted v e₀ widgets nextId elements slug sync =>
    have hentries : b'.entries = b.entries ++ [(v, e₀)] := by
      unfold entries
      rw [widgets, elements, List.zip_append hb.aligned]
      rfl
    rw [hentries] at h
    rcases List.mem_append.mp h with hmem | hnew
    · refine .inl ⟨w', e', hmem, .of_frame hb hmem rfl slug fun h t hp ht => ?_⟩
      exact sync.frame hb.numbered (fun k hk => nomatch hk) ht
    · cases List.mem_singleton.mp hnew
      exact .inr ⟨nextId, slug, sync⟩
  | removed i w place widgets nextId elements slug fleet =>
    have hentries : b'.entries = b.entries.eraseIdx i := by
      unfold entries
      rw [widgets, elements, zip_eraseIdx]
    rw [hentries] at h
    obtain ⟨k, hki, hk⟩ := List.mem_eraseIdx_iff_getElem?.mp h
    obtain ⟨hwk, hek⟩ := List.getElem?_zip_eq_some.mp hk
    have hmem : (w', e') ∈ b.entries := mem_entries_iff_getElem?.mpr ⟨k, hwk, hek⟩
    refine .inl ⟨w', e', hmem, .of_frame hb hmem rfl slug fun h t hp ht => ?_⟩
    obtain ⟨f, hf, hft⟩ := Option.bind_eq_some_iff.mp ht
    unfold task?
    rw [fleet, hf]
    have hne := fun own hown => hb.handle_ne place hwk (Ne.symm hki) (k := own) hown hp
    exact (f.task?_release hne).trans hft
  | moved source destination inside widgets nextId elements slug fleet =>
    have hentries : b'.entries = Dashboard.moveEntry b.entries source destination := by
      unfold entries
      rw [widgets, elements, zip_moveEntry hb.aligned]
    have hlen : destination < b.entries.length := by
      unfold entries
      rw [List.length_zip, ← hb.aligned, Nat.min_self]
      exact inside
    rw [hentries, (moveEntry_perm hlen).mem_iff] at h
    refine .inl ⟨w', e', h, .of_frame hb h rfl slug fun h t hp ht => ?_⟩
    unfold task?
    rw [fleet]
    exact ht

theorem told (c : Change edit b b') : Option.Rel Fleet.Told b.fleet b'.fleet := by
  cases c with
  | touched _ _ _ fleet _ | moved _ _ _ _ _ _ _ fleet =>
    rw [fleet]
    exact Fleet.told_rfl _
  | renamed _ _ _ told _ => exact told
  | resynced _ _ _ _ _ _ _ _ _ _ _ _ sync | mounted _ _ _ _ _ _ sync => exact sync.told
  | removed _ w _ _ _ _ _ fleet =>
    rw [fleet]
    exact Fleet.told_map (fun f => f.told_release w.poller) _

theorem nextId_le (c : Change edit b b') : b.nextId ≤ b'.nextId := by
  cases c with
  | mounted _ _ _ nextId => omega
  | touched _ nextId | renamed _ nextId | resynced _ _ _ _ _ _ _ _ _ nextId | removed _ _ _ _ nextId
  | moved _ _ _ _ nextId => exact Nat.le_of_eq nextId.symm

theorem aligned (hb : b.InStep) (c : Change edit b b') : b'.Aligned := by
  have h : b.widgets.length = b.dashboard.elements.length := hb.aligned
  unfold Aligned
  cases c with
  | touched widgets _ _ _ checks =>
    have hlen := congrArg List.length checks
    rw [List.length_map, List.length_map] at hlen
    rw [widgets, hlen, h]
  | renamed widgets _ elements => rw [widgets, elements, h]
  | resynced i w w' _ e' _ _ _ widgets _ elements =>
    rw [widgets, elements, List.length_set, List.length_set, h]
  | mounted w' e' widgets _ elements =>
    rw [widgets, elements, List.length_append, List.length_append, h]
    rfl
  | removed i w _ widgets _ elements =>
    rw [widgets, elements, List.length_eraseIdx, List.length_eraseIdx, h]
  | moved source destination inside widgets _ elements =>
    rw [widgets, elements, (moveEntry_perm inside).length_eq,
      (moveEntry_perm (h ▸ inside)).length_eq, h]

theorem nodup (hb : b.InStep) (c : Change edit b b') : b'.widgetIds.Nodup := by
  have h := hb.nodup
  unfold widgetIds at h ⊢
  cases c with
  | touched widgets | renamed widgets =>
    rw [widgets]
    exact h
  | resynced i w w' _ _ place _ _ widgets _ _ _ sync =>
    rw [widgets, map_set_of_eq place _ sync.id]
    exact h
  | mounted w' e' widgets _ _ _ sync =>
    rw [widgets, List.map_append, List.nodup_append]
    refine ⟨h, List.pairwise_singleton _ _, ?_⟩
    rintro _ hid _ hid' rfl
    obtain ⟨w, hw, hwid⟩ := List.mem_map.mp hid
    have hlt : w.id.number < b.nextId := hb.fresh w hw
    have hnew : w.id = ⟨b.nextId⟩ := (hwid.trans (List.mem_singleton.mp hid')).trans sync.id
    rw [hnew] at hlt
    exact Nat.lt_irrefl _ hlt
  | removed i w _ widgets =>
    rw [widgets]
    exact h.sublist ((List.eraseIdx_sublist _ _).map _)
  | moved source destination inside widgets =>
    rw [widgets]
    exact (((moveEntry_perm inside).map _).nodup_iff).mpr h

/-- **A change keeps the tasks in step.** -/
theorem inStep (hb : b.InStep) (c : Change edit b b') : b'.InStep where
  aligned := c.aligned hb
  nodup := c.nodup hb
  fresh w' hw' := by
    obtain ⟨e', he'⟩ := (c.aligned hb).exists_entry hw'
    rcases c.entry hb he' with ⟨w, e, he, carried⟩ | ⟨nextId, -, sync⟩
    · rw [carried.id]
      exact Nat.lt_of_lt_of_le (hb.fresh w (mem_widgets_of_mem_entries he)) c.nextId_le
    · rw [sync.id, nextId]
      exact Nat.lt_succ_self _
  numbered := numbered_of_told c.told hb.numbered
  idle w' hw' hp := by
    obtain ⟨e', he'⟩ := (c.aligned hb).exists_entry hw'
    rcases c.entry hb he' with ⟨w, e, he, carried⟩ | ⟨-, -, sync⟩
    · cases carried with
      | kept hw _ _ =>
        subst hw
        exact hb.idle _ (mem_widgets_of_mem_entries he) hp
      | resynced _ _ sync => exact sync.idle hp
    · exact sync.idle hp
  served w' e' he' h hp := by
    rcases c.entry hb he' with ⟨w, e, he, carried⟩ | ⟨-, hslug, sync⟩
    · cases carried with
      | kept hw hwant tasks =>
        subst hw
        obtain ⟨t, ht, hte⟩ := hb.served _ e he h hp
        rw [← hwant] at hte
        have hrunning := ht.running.of_told c.told
        exact ⟨_, ⟨tasks h t hp ht.found, ht.widget, ht.target, rfl, hrunning⟩, hte⟩
      | resynced _ hslug sync =>
        rw [hslug]
        exact sync.serves hb.numbered (fun _ => hb.serves (mem_widgets_of_mem_entries he)) hp
    · rw [hslug]
      exact sync.serves hb.numbered (fun _ hk => nomatch hk) hp

/-- A change leaves no widget without the task it should have, if none was. -/
theorem full (hb : b.InStep) (hfull : b.Full) (c : Change edit b b') : b'.Full := by
  intro hf w' e' he' hwant
  rcases c.entry hb he' with ⟨w, e, he, carried⟩ | ⟨-, -, sync⟩
  · cases carried with
    | kept hw hsame _ =>
      subst hw
      exact hfull (fun hnone => hf ((Fleet.eq_none_iff_of_told c.told).mpr hnone)) _ e he
        (hsame ▸ hwant)
    | resynced _ _ sync => exact sync.full hf hwant
  · exact sync.full hf hwant

/-- A widget holds a task that a widget held, or one that was not there. -/
theorem held_or_new (hb : b.InStep) (c : Change edit b b') {w' : Widget} (hw' : w' ∈ b'.widgets)
    {k : PollerHandle} (hk : w'.poller = some k) :
    (∃ w ∈ b.widgets, w.poller = some k) ∨ b.task? k.id = none := by
  obtain ⟨e', he'⟩ := (c.aligned hb).exists_entry hw'
  rcases c.entry hb he' with ⟨w, e, he, carried⟩ | ⟨-, -, sync⟩
  · have hw := mem_widgets_of_mem_entries he
    cases carried with
    | kept hsame _ _ => exact .inl ⟨w, hw, hsame ▸ hk⟩
    | resynced _ _ sync => exact (sync.held_or_new hb.numbered hk).imp (fun hp => ⟨w, hw, hp⟩) id
  · rcases sync.held_or_new hb.numbered hk with hp | hnone
    · cases hp
    · exact .inr hnone

/-- A change brings no states: a widget stays as it was or shows nothing. -/
theorem same_or_blank (hb : b.InStep) (c : Change edit b b') {w' : Widget} (hw' : w' ∈ b'.widgets) :
    w' ∈ b.widgets ∨ w'.status = none := by
  obtain ⟨e', he'⟩ := (c.aligned hb).exists_entry hw'
  rcases c.entry hb he' with ⟨w, e, he, carried⟩ | ⟨-, -, sync⟩
  · have hw := mem_widgets_of_mem_entries he
    cases carried with
    | kept hsame _ _ => exact .inl (hsame ▸ hw)
    | resynced _ _ sync =>
      rcases sync.same_or_blank with rfl | hblank
      · exact .inl hw
      · exact .inr hblank
  · rcases sync.same_or_blank with rfl | hblank
    · exact .inr rfl
    · exact .inr hblank

end Change

end StatusWall.Board
