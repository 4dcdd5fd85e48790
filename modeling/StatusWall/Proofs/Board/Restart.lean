import StatusWall.Proofs.Board.Sound
import StatusWall.Proofs.Document.Options

/-!
# When a task is started anew

A widget keeps its task through a command exactly if its element shows the same object before and
after. It then keeps everything: the number, the memory of the alerts, the schedule of the turns and
the state it shows. If the element shows no object any more, task and state are gone; if it shows
another one, a task under a number that was never given out begins, and nothing has alerted yet.
`Resync.verdict` is this for one widget, `restarts_exactly_when_target_changes` for a whole board at
the end of any run.

`BoardCommand.SparesObject` singles out the commands that cannot change a widget's object, whatever
it is: among them every command on another widget, and every edit of options that has nothing to do
with the object.
-/

namespace StatusWall

open StatusWall.Geometry

variable {α : Type}

/-! ## Commands that leave the object alone -/

/-- Whether a command cannot change what the element of a widget shows. -/
def BoardCommand.SparesObject (c : BoardCommand α) (id : WidgetId) : Prop :=
  match c with
  | .changeKind other _ | .setTarget other _ => other ≠ id
  | .updateOptions other update =>
    other ≠ id ∨ ∀ f ∈ update, CheckOptions.KeepsObject f.1 f.2
  | .unmount => False
  | _ => True

/-- The edit of a command that spares the object leaves the object alone. -/
theorem BoardCommand.SparesObject.target?_eq [Scalar α] {c : BoardCommand α} {w : Widget}
    {e e' : Element α} (hc : c.SparesObject w.id) (hedit : c.Edits w e e')
    (hshows : e.target? ≠ none) : e'.target? = e.target? := by
  have hsound : ∀ (state : CheckState) (url : String),
      (e.updateOptions [(SoundSet.key state, .text url)]).target? = e.target? := by
    refine fun state url => Element.target?_updateOptions hshows fun f hf => ?_
    rw [List.mem_singleton.mp hf]
    exact CheckOptions.keepsObject_sound state url
  unfold Edits at hedit
  split at hedit
  · exact absurd hedit.1.symm hc
  · obtain ⟨hid, rfl⟩ := hedit
    rcases hc with hother | hupdate
    · exact absurd hid.symm hother
    · exact Element.target?_updateOptions hshows hupdate
  · exact absurd hedit.1.symm hc
  · obtain ⟨-, rfl⟩ := hedit
    exact hsound _ _
  · obtain ⟨-, rfl⟩ := hedit
    exact hsound _ _
  · exact hedit.elim

namespace Board

/-- The widget kept its task, with its memory and schedule, and the state it shows. -/
def Keeps (b b' : Board α) (w w' : Widget) : Prop :=
  w'.poller = w.poller ∧ w'.status = w.status ∧
    ∀ h, w.poller = some h → ∃ t t', b.task? h.id = some t ∧ b'.task? h.id = some t' ∧
      t'.machine = t.machine ∧ t'.phase = t.phase ∧ Running b'.fleet t'

/-- The widget holds another task, on a given object. The task's number was nobody's before, it has
not begun, nothing has alerted, and the widget shows nothing. -/
def Renewed (b b' : Board α) (w' : Widget) (target : CheckTarget) : Prop :=
  w'.status = none ∧
    ∃ h t, w'.poller = some h ∧ h.target = target ∧ b.task? h.id = none ∧
      b'.task? h.id = some t ∧ t.machine = .new target ∧
      (∀ s, t.machine.memory.hasFired s = false) ∧ Running b'.fleet t

namespace Resync

variable {before after : Option Fleet} {slug : String} {w w' : Widget} {e : Element α}
  {h : PollerHandle} {t : PollTask}

/-- **What becomes of a task that runs.** It goes on if the element shows its object; otherwise it
is gone, and another one begins if there is an object. -/
theorem verdict (hn : ∀ f, before = some f → f.Numbered) (hsync : Resync before slug w e after w')
    (hp : w.poller = some h) (ht : Serves before slug w h t) :
    (e.target? = some h.target ∧ w' = w ∧
        ∃ t', after.bind (·.task? h.id) = some t' ∧ t'.machine = t.machine ∧ t'.phase = t.phase) ∨
      (e.target? = none ∧ w' = w.idled) ∨
      ∃ target f, e.target? = some target ∧ target ≠ h.target ∧ before = some f ∧
        w' = { w with poller := some ⟨f.nextId, target⟩, status := none } ∧
        ∃ policy, after.bind (·.task? f.nextId) =
          some (.new f.nextId w.id target slug policy f.clock) := by
  cases hsync with
  | @kept _ policy hp' hwant =>
    cases hp'.symm.trans hp
    obtain ⟨f, rfl, hft⟩ := Option.bind_eq_some_iff.mp ht.found
    have found : (f.updatePolicy h.id policy).task? h.id = some { t with policy } := by
      rw [f.task?_updatePolicy_self, hft]
      rfl
    refine .inl ⟨?_, rfl, _, found, rfl, rfl⟩
    rw [e.target?_eq, hwant]
    rfl
  | stopped hnone =>
    refine .inr (.inl ⟨?_, rfl⟩)
    rcases hnone with hnone | rfl
    · rw [e.target?_eq, hnone]
      rfl
    · cases ht.found
  | @started f target policy hf hwant hne =>
    subst hf
    have found := Fleet.task?_respawn (hn f rfl) w.poller w.id target slug policy
    refine .inr (.inr ⟨target, f, ?_, (hne h hp).symm, rfl, rfl, policy, found⟩)
    rw [e.target?_eq, hwant]
    rfl

end Resync

section Commands

variable {b : Board α} {c : BoardCommand α} {w w' : Widget} {e e' : Element α}

/-- A widget that is there before and after a change was carried over. -/
theorem Change.carried {edit : Widget → Element α → Element α → Prop} {b' : Board α}
    (hb : b.InStep) (change : Change edit b b') (he : (w, e) ∈ b.entries)
    (he' : (w', e') ∈ b'.entries) (hid : w'.id = w.id) : Carried edit b b' w e w' e' := by
  rcases change.entry hb he' with ⟨v, f, hf, carried⟩ | ⟨-, -, sync⟩
  · cases entry_unique hb.nodup hf he (carried.id.symm.trans hid)
    exact carried
  · have hlt := hb.fresh w (mem_widgets_of_mem_entries he)
    rw [← hid, sync.id] at hlt
    exact absurd hlt (Nat.lt_irrefl _)

variable [Scalar α]

/-- **What becomes of a widget with a task under a command.** -/
theorem perform_verdict (hb : b.InStep) (hc : c ≠ .unmount) {h : PollerHandle}
    (he : (w, e) ∈ b.entries) (hp : w.poller = some h)
    (he' : (w', e') ∈ (b.perform c).1.entries) (hid : w'.id = w.id) :
    (e'.target? = e.target? ∧ b.Keeps (b.perform c).1 w w') ∨
      (e.target? ≠ none ∧ e'.target? = none ∧ w'.poller = none ∧ w'.status = none) ∨
      ∃ target, e'.target? = some target ∧ e.target? ≠ some target ∧
        b.Renewed (b.perform c).1 w' target := by
  have change := perform_change hb.aligned hb.idle hc
  have hb' := change.inStep hb
  obtain ⟨t, ht, hwant⟩ := hb.served w e he h hp
  have htarget : e.target? = some h.target := by
    rw [e.target?_eq, hwant]
    rfl
  have keeps : ∀ t', w' = w → (b.perform c).1.task? h.id = some t' → t'.machine = t.machine →
      t'.phase = t.phase → b.Keeps (b.perform c).1 w w' := by
    intro t' hsame found hmachine hphase
    subst hsame
    refine ⟨rfl, rfl, fun k hk => ?_⟩
    cases hp.symm.trans hk
    obtain ⟨u, hu, -⟩ := hb'.served _ e' he' h hp
    cases hu.found.symm.trans found
    exact ⟨t, t', ht.found, found, hmachine, hphase, hu.running⟩
  cases change.carried hb he he' hid with
  | kept hsame hwanted tasks =>
    refine .inl ⟨?_, keeps _ hsame (tasks h t hp ht.found) rfl rfl⟩
    rw [e'.target?_eq, hwanted, ← e.target?_eq]
  | resynced _ _ sync =>
    rcases sync.verdict hb.numbered hp ht with
      ⟨hsame, hw', t', found, hmachine, hphase⟩ | ⟨hnone, rfl⟩ |
      ⟨target, f, hother, hne, hf, rfl, policy, found⟩
    · exact .inl ⟨hsame.trans htarget.symm, keeps t' hw' found hmachine hphase⟩
    · exact .inr (.inl ⟨htarget ▸ Option.some_ne_none _, hnone, rfl, rfl⟩)
    · refine .inr (.inr
        ⟨target, hother, ?_, rfl, ⟨f.nextId, target⟩, _, rfl, rfl, ?_, found, rfl, ?_, ?_⟩)
      · rw [htarget]
        exact fun heq => hne (Option.some.inj heq).symm
      · unfold task?
        rw [hf]
        exact Fleet.task?_nextId (hb.numbered f hf)
      · exact fun s => AlertMemory.remembers_new target.objectType s
      · obtain ⟨u, hu, -⟩ := hb'.served _ e' he' ⟨f.nextId, target⟩ rfl
        cases hu.found.symm.trans found
        exact hu.running

/-- A command that spares the object leaves a widget with a task its task. -/
theorem perform_spared (hb : b.InStep) {h : PollerHandle} (he : (w, e) ∈ b.entries)
    (hp : w.poller = some h) (he' : (w', e') ∈ (b.perform c).1.entries) (hid : w'.id = w.id)
    (hspares : c.SparesObject w.id) : e'.target? = e.target? := by
  have hc : c ≠ .unmount := by
    rintro rfl
    exact hspares
  obtain ⟨t, ht, hwant⟩ := hb.served w e he h hp
  cases (perform_change hb.aligned hb.idle hc).carried hb he he' hid with
  | kept _ hwanted _ => rw [e'.target?_eq, hwanted, ← e.target?_eq]
  | resynced hedit _ _ =>
    refine hspares.target?_eq hedit ?_
    rw [e.target?_eq, hwant]
    exact Option.some_ne_none _

end Commands

end Board

namespace Chronicle

variable [Scalar α]

/-- **A task is started anew exactly when the object changes.** At the end of any run, a command
other than `unmount` leaves a widget with a task its task, and everything that goes with it, exactly
if the widget's element shows the same object afterwards. If it shows none, task and state are gone.
If it shows another one, a new task begins, under a number that was never given out. -/
theorem restarts_exactly_when_target_changes (d : Dashboard α) (polling : Option PollConfig)
    (ms : List (Moment α)) {c : BoardCommand α} (hc : c ≠ .unmount) {w w' : Widget}
    {h : PollerHandle} (hw : w ∈ ((start d polling).run ms).board.widgets)
    (hp : w.poller = some h)
    (hw' : w' ∈ (((start d polling).run ms).board.perform c).1.widgets) (hid : w'.id = w.id) :
    let before := ((start d polling).run ms).board
    let after := (before.perform c).1
    ∃ e e', before.element? w.id = some e ∧ after.element? w.id = some e' ∧
      (before.Keeps after w w' ↔ e'.target? = e.target?) ∧
      (e'.target? = none → w'.poller = none ∧ w'.status = none) ∧
      (∀ target, e'.target? = some target → e.target? ≠ some target →
        before.Renewed after w' target ∧
        ∀ h', w'.poller = some h' → ∀ ms₁, ms₁ <+: ms →
          ((start d polling).run ms₁).board.task? h'.id = none) ∧
      (c.SparesObject w.id → before.Keeps after w w') := by
  intro before after
  have hsound : ((start d polling).run ms).Sound := (Sound.start d polling).run ms
  have hb : before.InStep := hsound.inStep
  have hb' : after.InStep := (Board.perform_change hb.aligned hb.idle hc).inStep hb
  obtain ⟨e, he⟩ := hb.aligned.exists_entry hw
  obtain ⟨e', he'⟩ := hb'.aligned.exists_entry hw'
  have keeps_of_eq : e'.target? = e.target? → before.Keeps after w w' := by
    intro heq
    rcases Board.perform_verdict hb hc he hp he' hid with
      ⟨-, hkeeps⟩ | ⟨hsome, hnone, -⟩ | ⟨target, hother, hne, -⟩
    · exact hkeeps
    · exact absurd (heq.symm.trans hnone) hsome
    · exact absurd (heq.symm.trans hother) hne
  refine ⟨e, e', ((Board.mem_entries_iff hb.nodup).mp he).2, ?_, ⟨?_, keeps_of_eq⟩, ?_, ?_, ?_⟩
  · rw [← hid]
    exact ((Board.mem_entries_iff hb'.nodup).mp he').2
  · intro hkeeps
    rcases Board.perform_verdict hb hc he hp he' hid with
      ⟨heq, -⟩ | ⟨-, -, hgone, -⟩ | ⟨target, -, -, -, k, t, hk, -, hunused, -⟩
    · exact heq
    · rw [hkeeps.1, hp] at hgone
      cases hgone
    · rw [hkeeps.1, hp] at hk
      cases hk
      obtain ⟨u, hu⟩ := hb.serves hw hp
      cases hu.found.symm.trans hunused
  · intro hnone
    rcases Board.perform_verdict hb hc he hp he' hid with
      ⟨heq, -⟩ | ⟨-, -, hgone⟩ | ⟨target, hother, -⟩
    · obtain ⟨t, -, hwant⟩ := hb.served w e he h hp
      rw [heq, e.target?_eq, hwant] at hnone
      cases hnone
    · exact hgone
    · cases hother.symm.trans hnone
  · intro target htarget hne
    rcases Board.perform_verdict hb hc he hp he' hid with
      ⟨heq, -⟩ | ⟨-, hnone, -⟩ | ⟨target', hother, -, hrenewed⟩
    · exact absurd (heq.symm.trans htarget) hne
    · cases hnone.symm.trans htarget
    · cases hother.symm.trans htarget
      refine ⟨hrenewed, fun k hk ms₁ hprefix => ?_⟩
      obtain ⟨-, h', -, hh', -, hunused, -⟩ := hrenewed
      cases hh'.symm.trans hk
      obtain ⟨ms₂, rfl⟩ := hprefix
      -- A number that was given out before would still be known at the end of the run.
      by_contra hknown
      have hlater := known_run ((Sound.start d polling).run ms₁) hknown ms₂
      rw [← run_append] at hlater
      exact hlater hunused
  · exact fun hspares => keeps_of_eq (Board.perform_spared hb he hp he' hid hspares)

/-- Binding the check of the sample to a host takes the critical state away and starts a task that
has alerted of nothing. -/
theorem sample_restarts :
    sampleShown.board.widgets =
        [{ id := ⟨0⟩, poller := some ⟨⟨0⟩, sampleTarget⟩, status := some ⟨.critical, false⟩ }] ∧
      sampleShown.board.Renewed (sampleShown.board.perform (.setTarget ⟨0⟩ (some ⟨.host, "web"⟩))).1
        { id := ⟨0⟩, poller := some ⟨⟨1⟩, ⟨.host, "web"⟩⟩ } ⟨.host, "web"⟩ := by
  have hw : sampleShown.board.widgets =
      [{ id := ⟨0⟩, poller := some ⟨⟨0⟩, sampleTarget⟩, status := some ⟨.critical, false⟩ }] := by
    decide
  have hw' : (sampleShown.board.perform (.setTarget ⟨0⟩ (some ⟨.host, "web"⟩))).1.widgets =
      [{ id := ⟨0⟩, poller := some ⟨⟨1⟩, ⟨.host, "web"⟩⟩ }] := by
    decide
  have hbefore : (sampleShown.board.element? ⟨0⟩).bind Element.target? = some sampleTarget := by
    decide
  have hafter : ((sampleShown.board.perform (.setTarget ⟨0⟩ (some ⟨.host, "web"⟩))).1.element?
      ⟨0⟩).bind Element.target? = some ⟨.host, "web"⟩ := by
    decide
  refine ⟨hw, ?_⟩
  have hmem := List.mem_of_getElem? (congrArg (·[0]?) hw)
  have hmem' := List.mem_of_getElem? (congrArg (·[0]?) hw')
  obtain ⟨e, e', he, he', -, -, hrenewed, -⟩ :=
    restarts_exactly_when_target_changes sampleDashboard (some sampleConfig)
      (samplePoll (.ok { resultCode := 2 }) ++ [.deliver 0])
      (c := .setTarget ⟨0⟩ (some ⟨.host, "web"⟩)) (fun h => nomatch h)
      hmem rfl hmem' rfl
  have htarget : e.target? = some sampleTarget := by
    change sampleShown.board.element? ⟨0⟩ = some e at he
    rw [he] at hbefore
    exact hbefore
  have htarget' : e'.target? = some ⟨.host, "web"⟩ := by
    change (sampleShown.board.perform _).1.element? ⟨0⟩ = some e' at he'
    rw [he'] at hafter
    exact hafter
  refine (hrenewed _ htarget' ?_).1
  rw [htarget]
  decide

end Chronicle

end StatusWall
