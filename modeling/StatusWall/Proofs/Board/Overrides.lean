import StatusWall.Proofs.Board.Alerts
import StatusWall.Proofs.Board.Refinement
import StatusWall.Proofs.Document.Reread

/-!
# A sound of its own

A check's own sound for a state is one entry of its options. Setting it changes the typed view in this
one entry (`SoundChanged`) and the options under this one key. The object stays, so the widget's task
goes on as it was and only learns the new policy (`Board.InStep.keeps_of_target?_eq`): its memory is the
old one, so no alert comes a second time, and the next alert of the state is played with the new sound
(`Chronicle.Sound.plays_own_sound`).

A blank sound is kept in the options like any other, but it is no sound: the board's own is played then.
-/

namespace StatusWall

open Json StatusWall.Geometry

/-! ## The typed view -/

/-- A sound that is set for a state, or the board's sound for the state if it is blank. -/
def AlertConfig.soundBehind (config : AlertConfig) (s : CheckState) (url : String) : Option String :=
  if Text.isBlankText url then config.defaultSounds.get? s else some url

theorem SoundSet.get?_of_entry {sounds : SoundSet} {s : CheckState} {url : String}
    (h : sounds.entry s = some url) :
    sounds.get? s = if Text.isBlankText url then none else some url := by
  unfold get?
  rw [h]
  cases hblank : Text.isBlankText url <;> simp [hblank]

theorem SoundPolicy.soundFor_of_entry {policy : SoundPolicy} {s : CheckState} {url : String}
    (h : policy.overrides.entry s = some url) (config : AlertConfig) :
    policy.soundFor s config = config.soundBehind s url := by
  unfold soundFor AlertConfig.soundBehind
  rw [SoundSet.get?_of_entry h]
  split <;> rfl

/-- A typed view is another one but for the sound of a state. -/
structure CheckOptions.SoundChanged (o o' : CheckOptions) (s : CheckState) (url : String) : Prop where
  sound : o'.sounds.get? s = if Text.isBlankText url then none else some url
  played (config : AlertConfig) : o'.policy.soundFor s config = config.soundBehind s url
  others : ∀ t, t ≠ s → o'.sounds.entry t = o.sounds.entry t
  muteAlerts : o'.muteAlerts = o.muteAlerts
  objectType : o'.objectType = o.objectType
  filter : o'.filter = o.filter

theorem CheckOptions.soundChanged_setEntry (o : CheckOptions) (s : CheckState) (url : String) :
    o.SoundChanged { o with sounds := o.sounds.setEntry s (some url) } s url := by
  have set : (o.sounds.setEntry s (some url)).entry s = some url :=
    (o.sounds.entry_setEntry s s _).trans (if_pos rfl)
  exact
    { sound := SoundSet.get?_of_entry set
      played := SoundPolicy.soundFor_of_entry set
      others := fun t ht => (o.sounds.entry_setEntry s t _).trans (if_neg ht)
      muteAlerts := rfl
      objectType := rfl
      filter := rfl }

namespace Element

variable {α : Type} {e : Element α} (hkind : e.kind.pollsCheck = true)

include hkind

theorem withSound_eq (s : CheckState) (url : String) :
    e.withSound s url = e.updateOptions [(SoundSet.key s, .text url)] := by
  unfold withSound checkOptions?
  rw [if_pos hkind]

theorem checkOptions?_of_parse? {o : CheckOptions} (ho : CheckOptions.parse? e.options = some o) :
    e.checkOptions? = some o := by
  unfold checkOptions? CheckOptions.ofOptions
  rw [if_pos hkind, ho]
  rfl

end Element

/-! ## The widget -/

namespace Board

variable {α : Type}

/-- A widget holds a certain task, and has a sound of its own for a state. -/
def HasOwnSound (b : Board α) (id : WidgetId) (task : PollerId) (s : CheckState) (url : String) :
    Prop :=
  ∃ w h e o, b.widget? id = some w ∧ w.poller = some h ∧ h.id = task ∧ b.element? id = some e ∧
    e.checkOptions? = some o ∧ o.sounds.entry s = some url

/-- The task and the sound stay with a widget when a widget is shown a state. -/
theorem HasOwnSound.withStatus {b : Board α} {id : WidgetId} {task : PollerId} {s : CheckState}
    {url : String} (h : b.HasOwnSound id task s url) {i : Nat} {v : Widget} (hv : b.widgets[i]? = some v)
    (status : Option WidgetStatus) :
    Board.HasOwnSound { b with widgets := b.widgets.set i { v with status } } id task s url := by
  obtain ⟨w, handle, e, o, hw, hp, hid, he, ho, hentry⟩ := h
  let b' : Board α := { b with widgets := b.widgets.set i { v with status } }
  have places : b'.indexOf? id = b.indexOf? id := by
    have ids : b'.widgetIds = b.widgetIds := map_set_of_eq hv Widget.id rfl
    rw [indexOf?_eq_idxOf?, indexOf?_eq_idxOf?, ids]
  have he' : b'.element? id = some e := by
    unfold element?
    rw [places]
    exact he
  obtain ⟨j, hj, hwj⟩ := Option.bind_eq_some_iff.mp hw
  have widget (w' : Widget) (hw' : b'.widgets[j]? = some w') : b'.widget? id = some w' :=
    Option.bind_eq_some_iff.mpr ⟨j, places.trans hj, hw'⟩
  by_cases hij : i = j
  · subst hij
    obtain rfl : w = v := Option.some.inj (hwj.symm.trans hv)
    have hset : b'.widgets[i]? = some { w with status } :=
      List.getElem?_set_self (List.getElem?_eq_some_iff.mp hv).1
    exact ⟨_, handle, e, o, widget _ hset, hp, hid, he', ho, hentry⟩
  · have hset : b'.widgets[j]? = some w := (List.getElem?_set_ne hij).trans hwj
    exact ⟨w, handle, e, o, widget w hset, hp, hid, he', ho, hentry⟩

/-- What is found under a number is the element of the widget with that number. -/
theorem exists_entry_of_element? {b : Board α} {id : WidgetId} {e : Element α}
    (he : b.element? id = some e) : ∃ w, (w, e) ∈ b.entries ∧ w.id = id := by
  obtain ⟨i, hi, hei⟩ := Option.bind_eq_some_iff.mp he
  obtain ⟨w, hw, hid⟩ := widget_of_indexOf? hi
  exact ⟨w, mem_entries_iff_getElem?.mpr ⟨i, hw, hei⟩, hid⟩

/-- The task of a widget goes by the policy of the widget's element. -/
theorem InStep.policy_eq {b : Board α} (hb : b.InStep) {w : Widget} {e : Element α} {h : PollerHandle}
    {t : PollTask} {o : CheckOptions} (he : (w, e) ∈ b.entries) (hp : w.poller = some h)
    (ht : b.task? h.id = some t) (ho : e.checkOptions? = some o) : t.policy = o.policy := by
  obtain ⟨u, hu, hwant⟩ := hb.served w e he h hp
  cases hu.found.symm.trans ht
  obtain ⟨check, hcheck, hpolicy⟩ := e.checkOptions?_of_wanted hwant
  cases hcheck.symm.trans ho
  exact hpolicy.symm

variable [Scalar α] {b : Board α} (hb : b.InStep)

include hb

/-- A command that leaves an element its object leaves the widget its task. -/
theorem InStep.keeps_of_target?_eq {c : BoardCommand α} (hc : c ≠ .unmount) {w w' : Widget}
    {e e' : Element α} {h : PollerHandle} (he : (w, e) ∈ b.entries) (hp : w.poller = some h)
    (he' : (w', e') ∈ (b.perform c).1.entries) (hid : w'.id = w.id)
    (htarget : e'.target? = e.target?) : b.Keeps (b.perform c).1 w w' := by
  rcases perform_verdict hb hc he hp he' hid with
    ⟨-, keeps⟩ | ⟨hsome, hnone, -⟩ | ⟨target, hother, hne, -⟩
  · exact keeps
  · exact absurd (htarget.symm.trans hnone) hsome
  · exact absurd (htarget.symm.trans hother) hne

/-- **A task goes on while its object stays**, whatever else a command makes of the element: the widget
is the same, state included, and the task knows the policy of the element afterwards. -/
theorem InStep.task?_of_target?_eq {c : BoardCommand α} (hc : c ≠ .unmount) {id : WidgetId}
    {e e' : Element α} {o' : CheckOptions} (he : b.element? id = some e)
    (he' : (b.perform c).1.element? id = some e') (ho' : e'.checkOptions? = some o')
    (htarget : e'.target? = e.target?) {w : Widget} {h : PollerHandle} (hw : b.widget? id = some w)
    (hp : w.poller = some h) :
    (b.perform c).1.widget? id = some w ∧ ∃ t t', b.task? h.id = some t ∧
      (b.perform c).1.task? h.id = some t' ∧ t'.machine = t.machine ∧ t'.phase = t.phase ∧
      t'.policy = o'.policy ∧ Running (b.perform c).1.fleet t' := by
  obtain ⟨hmem, rfl⟩ := (widget?_eq_some_iff hb.nodup).mp hw
  have hentry : (w, e) ∈ b.entries := (mem_entries_iff hb.nodup).mpr ⟨hw, he⟩
  have hb' : (b.perform c).1.InStep := hb.perform c
  obtain ⟨w', hentry', hid⟩ := exists_entry_of_element? he'
  obtain ⟨hpoller, hstatus, tasks⟩ := hb.keeps_of_target?_eq hc hentry hp hentry' hid htarget
  obtain rfl : w' = w := by
    obtain ⟨_, _, _⟩ := w'
    obtain rfl := hid
    obtain rfl := hpoller
    obtain rfl := hstatus
    rfl
  obtain ⟨t, t', ht, ht', hmachine, hphase, running⟩ := tasks h hp
  exact ⟨((mem_entries_iff hb'.nodup).mp hentry').1, t, t', ht, ht', hmachine, hphase,
    hb'.policy_eq hentry' hp ht' ho', running⟩

variable {id : WidgetId} {e : Element α} (he : b.element? id = some e)
  (hkind : e.kind.pollsCheck = true) (s : CheckState) (url : String)

include he hkind

/-- What setting a sound makes of the element. -/
theorem InStep.element?_setSoundOverride :
    (b.setSoundOverride id s url).2 = true ∧
      (b.setSoundOverride id s url).1.element? id =
        some (e.updateOptions [(SoundSet.key s, .text url)]) := by
  obtain ⟨i, hi, -⟩ := Option.bind_eq_some_iff.mp he
  obtain ⟨w, hw, rfl⟩ := widget_of_indexOf? hi
  have hcheck : e.checkOptions? = some (.ofOptions e.options) := if_pos hkind
  refine ⟨?_, ?_⟩
  · unfold setSoundOverride updateOptions
    simp only [he, Option.bind_some, hcheck, hi]
  · have becomes := hb.element?_perform (.setSoundOverride w.id s url)
      (hb.fresh w (List.mem_of_getElem? hw))
    rw [he, Option.bind_some] at becomes
    refine becomes.trans ?_
    rw [← Element.withSound_eq hkind]
    exact if_pos rfl

/-- **A task goes on when a sound is set**, and learns the policy. -/
theorem InStep.task?_setSoundOverride {o' : CheckOptions}
    (ho' : (e.updateOptions [(SoundSet.key s, .text url)]).checkOptions? = some o')
    (htarget : (e.updateOptions [(SoundSet.key s, .text url)]).target? = e.target?)
    {w : Widget} {h : PollerHandle} (hw : b.widget? id = some w) (hp : w.poller = some h) :
    let b' := (b.setSoundOverride id s url).1
    b'.widget? id = some w ∧ ∃ t t', b.task? h.id = some t ∧ b'.task? h.id = some t' ∧
      t'.machine = t.machine ∧ t'.phase = t.phase ∧ t'.policy = o'.policy ∧ Running b'.fleet t' :=
  hb.task?_of_target?_eq (c := .setSoundOverride id s url) (fun h => nomatch h) he
    (hb.element?_setSoundOverride he hkind s url).2 ho' htarget hw hp

end Board

/-! ## The next alert -/

/-- Whether the moment belongs to the polling: nobody does anything to the board. -/
def Moment.isPolling {α : Type} : Moment α → Bool
  | .command _ => false
  | .letGo => false
  | _ => true

/-- Each alert of the turn that is for a certain state sounds as the widget's own sound says. -/
def Turn.PlaysOwn (u : Turn) (s : CheckState) (url : String) : Prop :=
  ∀ a ∈ u.sounds, a.state = s →
    ∃ found word, u.ending? = some (.ok (found, word)) ∧ a.url = word.soundBehind s url

namespace Chronicle

variable {α : Type} {c : Chronicle α}

/-- The alerts of a task that has taken turns are what it found, without immediate repetitions. -/
theorem Sound.sounds_eq (hc : c.Sound) (task : PollerId) :
    ((c.turnsOf task).flatMap Turn.sounds).map (·.state) =
      ((c.turnsOf task).filterMap Turn.resolved?).destutter (· ≠ ·) := by
  obtain ⟨t, trail⟩ := hc.exists_trail task
  exact trail.sounds

/-- **An alert is played with the widget's own sound**, as long as this is its sound when the poll
ends. -/
theorem Sound.plays_own_sound (hc : c.Sound) {id : WidgetId} {task : PollerId} {s : CheckState}
    {url : String} (hsounds : c.board.HasOwnSound id task s url) {source : Source} {now : Nat} {u : Turn}
    (hu : c.turnAt task source now = some u) : u.PlaysOwn s url := by
  intro a ha hstate
  obtain ⟨w, h, e, o, hw, hp, rfl, he, ho, hentry⟩ := hsounds
  have hb := hc.inStep
  obtain ⟨-, rfl⟩ := (Board.widget?_eq_some_iff hb.nodup).mp hw
  have hpolicy : u.task.policy = o.policy :=
    hb.policy_eq ((Board.mem_entries_iff hb.nodup).mpr ⟨hw, he⟩) hp (task?_of_turnAt hu) ho
  obtain ⟨found, word, hending, plays⟩ := Turn.plays_of_mem_sounds ha
  refine ⟨found, word, hending, ?_⟩
  have played : a.url = u.task.policy.soundFor s word := hstate ▸ plays.url
  rw [played, hpolicy]
  exact SoundPolicy.soundFor_of_entry hentry word

section Polling

variable [Scalar α] {id : WidgetId} {task : PollerId} {s : CheckState} {url : String}

/-- The polling takes no sound from a widget. -/
theorem hasOwnSound_step {m : Moment α} (hm : m.isPolling = true)
    (h : c.board.HasOwnSound id task s url) : (c.step m).board.HasOwnSound id task s url := by
  cases m with
  | command _ | letGo => cases hm
  | turn _ _ _ | pass _ | hangUp => exact h
  | stop id' =>
    rcases c.step_stop id' with hstep | ⟨-, hstep⟩
    all_goals
      rw [hstep]
      exact h
  | deliver index =>
    rcases c.step_deliver index with hstep | ⟨event, -, hstep⟩
    · rw [hstep]
      exact h
    · rw [hstep]
      rcases c.board.applyEvent_cases event with
        ⟨-, heq⟩ | ⟨i, w, _, hw, -, -, -, ⟨state, acknowledged, -, heq⟩ | ⟨_, -, heq⟩⟩
      · rw [heq]
        exact h
      · rw [heq]
        exact h.withStatus hw _
      · rw [heq]
        exact h

theorem hasOwnSound_run {ms : List (Moment α)} (hms : ∀ m ∈ ms, m.isPolling = true)
    (h : c.board.HasOwnSound id task s url) : (c.run ms).board.HasOwnSound id task s url := by
  induction ms generalizing c with
  | nil => exact h
  | cons m ms ih =>
    exact ih (fun m' hm' => hms m' (List.mem_cons_of_mem m hm'))
      (hasOwnSound_step (hms m List.mem_cons_self) h)

end Polling

variable [Scalar α]

/-- **Setting a sound changes that sound and nothing else.** At the end of any run, a check whose
options have a typed view is given a sound for a state, and the answer says so. The typed view then has
this sound for the state, or none if it is blank, so that the board's sound is played; its other sounds,
the mute flag, the object and all other keys of the options are as they were. If the widget has a task, it
keeps it, with its memory, the poll that is under way, and the state the widget shows, and the task knows
the policy of the new view. So in whatever follows no alert comes twice in a row, and as long as the widget
keeps task and sound, which the polling never takes from it, each alert of the state is played with it. -/
theorem sound_override_changes_one_sound (d : Dashboard α) (polling : Option PollConfig)
    (ms : List (Moment α)) {id : WidgetId} {e : Element α} {o : CheckOptions}
    (he : ((start d polling).run ms).board.element? id = some e)
    (hkind : e.kind.pollsCheck = true) (ho : CheckOptions.parse? e.options = some o)
    (s : CheckState) (url : String) :
    let before := ((start d polling).run ms).board
    let set := before.setSoundOverride id s url
    set.2 = true ∧
    ∃ e' o', set.1.element? id = some e' ∧ e'.checkOptions? = some o' ∧
      CheckOptions.parse? e'.options = some o' ∧ o.SoundChanged o' s url ∧ e'.target? = e.target? ∧
      (∀ key, key ≠ SoundSet.key s → e'.options.get? key = e.options.get? key) ∧
      ∀ w h, before.widget? id = some w → w.poller = some h →
        set.1.widget? id = some w ∧
        (∃ t t', before.task? h.id = some t ∧ set.1.task? h.id = some t' ∧ t'.machine = t.machine ∧
          t'.phase = t.phase ∧ t'.policy = o'.policy ∧ Board.Running set.1.fleet t') ∧
        set.1.HasOwnSound id h.id s url ∧
        ∀ ms',
          let later := (start d polling).run (ms ++ .command (.setSoundOverride id s url) :: ms')
          ((later.turnsOf h.id).flatMap Turn.sounds).map (·.state) =
            ((later.turnsOf h.id).filterMap Turn.resolved?).destutter (· ≠ ·) ∧
          ((∀ m ∈ ms', m.isPolling = true) → later.board.HasOwnSound id h.id s url) ∧
          ∀ source now u, later.turnAt h.id source now = some u →
            later.board.HasOwnSound id h.id s url → u.PlaysOwn s url := by
  intro before set
  have hstart : (start d polling).Sound := Sound.start d polling
  have hb : before.InStep := (hstart.run ms).inStep
  let e' := e.updateOptions [(SoundSet.key s, .text url)]
  let o' : CheckOptions := { o with sounds := o.sounds.setEntry s (some url) }
  have hkind' : e'.kind.pollsCheck = true := hkind
  have ho' : CheckOptions.parse? e'.options = some o' := CheckOptions.parse?_merge_sound ho s url
  have view : e.checkOptions? = some o := Element.checkOptions?_of_parse? hkind ho
  have view' : e'.checkOptions? = some o' := Element.checkOptions?_of_parse? hkind' ho'
  have target : e'.target? = e.target? := by
    unfold Element.target?
    rw [view, view']
    rfl
  obtain ⟨done, he'⟩ := hb.element?_setSoundOverride he hkind s url
  refine ⟨done, e', o', he', view', ho', o.soundChanged_setEntry s url, target, fun key hkey => ?_,
    fun w h hw hp => ?_⟩
  · exact (Fields.get?_put e.options _ _ key).trans (if_neg hkey.symm)
  · obtain ⟨hw', task⟩ := hb.task?_setSoundOverride he hkind s url view' target hw hp
    have set_sound : set.1.HasOwnSound id h.id s url :=
      ⟨w, h, e', o', hw', hp, rfl, he', view', (o.sounds.entry_setEntry s s _).trans (if_pos rfl)⟩
    refine ⟨hw', task, set_sound, fun ms' => ?_⟩
    intro later
    have hlater : later.Sound := hstart.run _
    refine ⟨hlater.sounds_eq h.id, fun polled => ?_, fun source now u hu hsounds =>
      hlater.plays_own_sound hsounds hu⟩
    show ((start d polling).run (ms ++ _ :: ms')).board.HasOwnSound _ _ _ _
    rw [run_append, run_cons]
    exact hasOwnSound_run polled set_sound

/-- The check of the sample is found well, gets a siren for the critical state, and is found critical:
it keeps its task, and the siren is played. -/
theorem siren_is_set_and_played :
    let source : Source :=
      { objectState := fun _ _ => { delay := 0, outcome := .ok { resultCode := 2 } }
        alertConfig := fun _ _ => { delay := 0, outcome := .ok {} } }
    let siren : BoardCommand Float := .setSoundOverride ⟨0⟩ .critical "siren.mp3"
    let before :=
      (start sampleDashboard (some sampleConfig)).run (samplePoll (.ok { resultCode := 0 }))
    let set := (before.board.perform siren).1
    let later := (start sampleDashboard (some sampleConfig)).run
      (samplePoll (.ok { resultCode := 0 }) ++
        [.command siren, .turn ⟨0⟩ source 1000, .turn ⟨0⟩ source 1000])
    (∃ o', (set.element? ⟨0⟩).bind Element.checkOptions? = some o' ∧
      o'.sounds.get? .critical = some "siren.mp3") ∧
    set.widget? ⟨0⟩ = some { id := ⟨0⟩, poller := some ⟨⟨0⟩, sampleTarget⟩ } ∧
    ∃ u found word a, later.turnAt ⟨0⟩ source 1000 = some u ∧
      u.ending? = some (.ok (found, word)) ∧ u.sounds = [a] ∧ a.state = .critical ∧
      a.url = some "siren.mp3" := by
  intro source siren before set later
  let options : Fields := [("filter", .text "web"), ("objectType", .text "service")]
  have he : before.board.element? ⟨0⟩ =
      some { (Element.default : Element Float) with kind := .checkCard, options } := rfl
  have ho : CheckOptions.parse? options = some { objectType := "service", filter := "web" } := by
    decide
  obtain ⟨-, e', o', he', view, -, changed, -, -, kept⟩ :=
    sound_override_changes_one_sound sampleDashboard (some sampleConfig)
      (samplePoll (.ok { resultCode := 0 })) he rfl ho .critical "siren.mp3"
  obtain ⟨hw', -, -, next⟩ := kept { id := ⟨0⟩, poller := some ⟨⟨0⟩, sampleTarget⟩ } _ rfl rfl
  obtain ⟨-, keeps, plays⟩ := next [.turn ⟨0⟩ source 1000, .turn ⟨0⟩ source 1000]
  refine ⟨⟨o', ?_, changed.sound⟩, hw', ?_⟩
  · exact (congrArg (·.bind Element.checkOptions?) he').trans view
  · have alert : (later.turnAt ⟨0⟩ source 1000).map (·.sounds.map (·.state)) = some [.critical] := by
      decide
    obtain ⟨u, hu, hstates⟩ := Option.map_eq_some_iff.mp alert
    obtain ⟨a, hsounds, hstate⟩ := List.map_eq_singleton_iff.mp hstates
    have polled : ∀ m ∈ [Moment.turn ⟨0⟩ source 1000, .turn ⟨0⟩ source 1000],
        (m : Moment Float).isPolling = true := by
      intro m hm
      rcases List.mem_pair.mp hm with rfl | rfl
      all_goals rfl
    obtain ⟨found, word, hending, hurl⟩ :=
      plays source 1000 u hu (keeps polled) a (hsounds ▸ List.mem_singleton_self a) hstate
    exact ⟨u, found, word, a, hu, hending, hsounds, hstate, hurl.trans (if_neg (by decide))⟩

end Chronicle

end StatusWall
