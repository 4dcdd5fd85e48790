import StatusWall.Panel.Action
import StatusWall.Proofs.Board.Binding
import StatusWall.Proofs.Board.Overrides

/-!
# A panel that nobody typed into

The panel's fields about a check are loaded from its options and applied to them again. On the way the
object changes its form four times: the entries of the options become a typed view, the view becomes
fields, the fields a target, and the target is written back. Reading an object type forgets its case and
the blanks around it, and nothing puts them back; a filter is never trimmed. So what is written may spell
the type another way, but it is read as the same object (`Panel.ofFilter?_load`,
`Element.checkOptions?_rebound`), and to the board nothing has happened: a task goes on if its object stays.

The fields are loaded when a widget is chosen, and the button is pressed later. In between the board may
change in any way that leaves the widget the object it had.
-/

namespace StatusWall

open Json StatusWall.Geometry

/-- What is known of the two entries that an object was read from. The type may be spelled in any way
that can be read; the filter is the object's, letter by letter. -/
theorem CheckOptions.entries_of_target {o : CheckOptions} {t : CheckTarget} (h : o.target = some t) :
    o.objectType.bind ObjectType.parse? = some t.objectType ∧ o.filter = some t.filter ∧ t.Valid := by
  unfold CheckOptions.target at h
  simp only [Option.bind_eq_bind] at h
  obtain ⟨name, hname, h⟩ := Option.bind_eq_some_iff.mp h
  obtain ⟨type, htype, h⟩ := Option.bind_eq_some_iff.mp h
  obtain ⟨filter, hfilter, h⟩ := Option.bind_eq_some_iff.mp h
  obtain rfl : { objectType := type, filter } = t := by
    unfold CheckTarget.ofFilter? at h
    split at h
    · cases h
    · exact Option.some.inj h
  exact ⟨Option.bind_eq_some_iff.mpr ⟨name, hname, htype⟩, hfilter, h⟩

/-! ## Binding a check to its own object -/

namespace Element

variable {α : Type} {e : Element α} {t : CheckTarget}

/-- **A check that is bound to its own object** is read as before, but for the spelling of the type. -/
theorem checkOptions?_rebound (ht : e.target? = some t) :
    ∃ o o', e.checkOptions? = some o ∧ (e.bound (some t)).checkOptions? = some o' ∧
      o' = { o with objectType := some t.objectType.name } ∧ (e.bound (some t)).target? = some t := by
  obtain ⟨hkind, o, ho, htarget⟩ := target?_eq_some_iff.mp ht
  obtain ⟨-, hfilter, valid⟩ := CheckOptions.entries_of_target htarget
  let o' : CheckOptions := { o with objectType := some t.objectType.name }
  have written : CheckOptions.parse? (e.bound (some t)).options = some o' := by
    have laid : ({ o with objectType := some t.objectType.name, filter := some t.filter } :
        CheckOptions).overlay o = o' := by
      unfold CheckOptions.overlay
      rw [SoundSet.overlay_self]
      simp only [Option.some_or, ← hfilter, Option.or_self, o']
    rw [bound_eq hkind, ← laid]
    unfold CheckOptions.ofOptions
    rw [ho]
    exact CheckOptions.parse?_applyTo ho _
  have hkind' : (e.bound (some t)).kind.pollsCheck = true := e.bound_kind (some t) ▸ hkind
  have target' : o'.target = some t :=
    CheckOptions.target_of_written (fun u hu => Option.some.inj hu ▸ valid) rfl hfilter
  exact ⟨o, o', checkOptions?_of_parse? hkind ho, checkOptions?_of_parse? hkind' written, rfl,
    target?_eq_some_iff.mpr ⟨hkind', o', written, target'⟩⟩

/-- The filter is written as it was read. -/
theorem get?_filter_rebound (ht : e.target? = some t) :
    (e.bound (some t)).options.get? "filter" = e.options.get? "filter" := by
  obtain ⟨hkind, o, ho, htarget⟩ := target?_eq_some_iff.mp ht
  obtain ⟨-, hfilter, -⟩ := CheckOptions.entries_of_target htarget
  have read : e.options.get? "filter" = some (.text t.filter) := by
    have hread := (CheckOptions.parse?_eq_some_iff.mp ho).2.1
    rw [hfilter] at hread
    unfold CheckOptions.textEntry? at hread
    split at hread <;> cases hread
    assumption
  rw [bound_eq hkind, read]
  exact get?_rebound_filter e.options (some t)

/-- Nothing that has to do with alerts is lost. -/
theorem keepsAlertSettings_rebound (ht : e.target? = some t) :
    KeepsAlertSettings e.options (e.bound (some t)).options := by
  obtain ⟨hkind, o, ho, -⟩ := target?_eq_some_iff.mp ht
  rw [bound_eq hkind]
  exact (keepsAlertSettings_rebound_iff e.options (some t)).mpr
    (.inl (CheckOptions.exists_parse?_iff.mp ⟨o, ho⟩))

end Element

/-! ## The fields -/

namespace Panel

variable {α : Type} {b : Board α} {id : WidgetId} {e : Element α} {t : CheckTarget}

theorem editing_load (p : Panel) (b : Board α) (id : Option WidgetId) : (p.load b id).editing = id := by
  unfold load
  split <;> rfl

/-- **What the fields say is the object they were loaded from.** -/
theorem ofFilter?_load (he : b.element? id = some e) (ht : e.target? = some t) (p : Panel) :
    CheckTarget.ofFilter? (p.load b (some id)).objectType (p.load b (some id)).filter = some t := by
  obtain ⟨hkind, o, ho, htarget⟩ := Element.target?_eq_some_iff.mp ht
  obtain ⟨htype, hfilter, valid⟩ := CheckOptions.entries_of_target htarget
  have hcheck : e.checkOptions? = some o := Element.checkOptions?_of_parse? hkind ho
  have hload : p.load b (some id) =
      { p with editing := some id, title := e.title, objectType := t.objectType, filter := t.filter } := by
    unfold load
    simp only [Option.bind_some, he, hcheck, Option.getD_some, htype, hfilter]
  rw [hload]
  exact valid

/-- The button is there for a check, and does what it says. -/
theorem act_applyCheck [Scalar α] {p : Panel} (hp : p.editing = some id)
    (hselected : b.selected = some id) (he : b.element? id = some e) (ht : e.target? = some t) :
    let applied := p.applyCheck b id
    p.act b .applyCheck =
      (p.sync applied.1,
        some { panel := p.sync applied.1, board := applied.1, changed := applied.2 }) := by
  obtain ⟨o, -, hcheck, -⟩ := Element.checkOptions?_rebound ht
  have follows : p.sync b = p := if_pos (hp.trans hselected.symm)
  unfold act
  simp only [follows, perform, hselected, Option.bind_some, he, actOnChosen, hcheck]

end Panel

/-- Binding a widget does not change the choice. -/
theorem Board.selected_setTarget {α : Type} (b : Board α) (id : WidgetId) (target : Option CheckTarget) :
    (b.setTarget id target).1.selected = b.selected := by
  unfold setTarget
  split
  · rfl
  · split
    · rfl
    · exact (Board.syncPoller_retasked _ _).selected

namespace Chronicle

open Element

variable {α : Type} [Scalar α]

/-- **Applying a check that nobody edited changes nothing that counts.** The panel's fields are loaded
from a widget that shows an object, however its options spell the type and whatever blanks are around
the filter. Some time later the widget still shows the object, and the button is pressed. Then the
widget is bound to exactly this object. The answer is that it was done, and the element shows what it
showed: of its options at most the spelling of the type is another one, and a mute flag that mutes
nothing may have been added. Its policy is the same. If it has a task, the widget is the same, the
state included, and the task goes on, with its memory and the poll that is under way. So whatever
follows, no alert comes twice in a row. -/
theorem unedited_check_is_applied_in_vain (d : Dashboard α) (polling : Option PollConfig)
    (ms between : List (Moment α)) {id : WidgetId} {e₀ e : Element α} {t : CheckTarget}
    (he₀ : ((start d polling).run ms).board.element? id = some e₀) (ht₀ : e₀.target? = some t)
    (he : ((start d polling).run (ms ++ between)).board.element? id = some e)
    (ht : e.target? = some t) (p : Panel) :
    let panel := p.load ((start d polling).run ms).board (some id)
    let before := ((start d polling).run (ms ++ between)).board
    let applied := panel.applyCheck before id
    applied = before.setTarget id (some t) ∧ applied.2 = true ∧
    (before.selected = some id →
      panel.act before .applyCheck =
        (panel, some { panel, board := applied.1, changed := true })) ∧
    (∃ e', applied.1.element? id = some e' ∧ e'.target? = some t ∧
      e' = { e with options := e'.options } ∧ KeepsAlertSettings e.options e'.options ∧
      e'.options.get? "filter" = e.options.get? "filter" ∧
      e'.checkOptions?.map (·.policy) = e.checkOptions?.map (·.policy)) ∧
    ∀ w h, before.widget? id = some w → w.poller = some h →
      applied.1.widget? id = some w ∧
      (∃ task task', before.task? h.id = some task ∧ applied.1.task? h.id = some task' ∧
        task'.machine = task.machine ∧ task'.phase = task.phase ∧ task'.policy = task.policy ∧
        Board.Running applied.1.fleet task') ∧
      ∀ ms',
        let later :=
          (start d polling).run (ms ++ between ++ .command (.setTarget id (some t)) :: ms')
        ((later.turnsOf h.id).flatMap Turn.sounds).map (·.state) =
          ((later.turnsOf h.id).filterMap Turn.resolved?).destutter (· ≠ ·) := by
  intro panel before applied
  have hstart : (start d polling).Sound := Sound.start d polling
  have hb : before.InStep := (hstart.run _).inStep
  have hkind : e.kind.pollsCheck = true := (Element.target?_eq_some_iff.mp ht).1
  have bound : applied = before.setTarget id (some t) :=
    congrArg (before.setTarget id) (Panel.ofFilter?_load he₀ ht₀ p)
  obtain ⟨-, -, -, -, -, done, -, he', -⟩ := Board.setTarget_eq hb he hkind (some t)
  obtain ⟨o, o', view, view', rfl, target'⟩ := Element.checkOptions?_rebound ht
  refine ⟨bound, bound ▸ done, fun hselected => ?_, ⟨e.bound (some t), bound ▸ he', target', ?_,
    Element.keepsAlertSettings_rebound ht, Element.get?_filter_rebound ht, ?_⟩, fun w h hw hp => ?_⟩
  · have chosen : panel.editing = some id := p.editing_load _ _
    have follows : panel.sync applied.1 = panel := by
      refine if_pos (chosen.trans ?_)
      rw [bound, Board.selected_setTarget, hselected]
    have changed : applied.2 = true := bound ▸ done
    have pressed : panel.act before .applyCheck =
        (panel.sync applied.1,
          some { panel := panel.sync applied.1, board := applied.1, changed := applied.2 }) :=
      Panel.act_applyCheck chosen hselected he ht
    rw [pressed, follows, changed]
  · rw [Element.bound_eq hkind]
  · rw [view, view']
    rfl
  · obtain ⟨hw', task, task', htask, htask', hmachine, hphase, hpolicy, running⟩ :=
      hb.task?_of_target?_eq (c := .setTarget id (some t)) (fun h => nomatch h) he he' view'
        (target'.trans ht.symm) hw hp
    obtain ⟨hmem, rfl⟩ := (Board.widget?_eq_some_iff hb.nodup).mp hw
    have policy : task.policy = o.policy :=
      hb.policy_eq ((Board.mem_entries_iff hb.nodup).mpr ⟨hw, he⟩) hp htask view
    rw [bound]
    exact ⟨hw', ⟨task, task', htask, htask', hmachine, hphase, hpolicy.trans policy.symm, running⟩,
      fun ms' => (hstart.run _).sounds_eq h.id⟩

/-- A document with a check whose object type is spelled with a capital and blanks, and whose filter
begins with a blank. -/
def sampleSpelling : Dashboard Float :=
  sampleCheck [("filter", .text " web"), ("muteAlerts", .bool false), ("objectType", .text " Service ")]

/-- The check was found critical when the panel was loaded, and the button is pressed after the next
poll: the critical state stays, and so does the task. -/
theorem oddly_spelled_check_stays_critical :
    let target : CheckTarget := { objectType := .service, filter := " web" }
    let found := samplePoll (.ok { resultCode := 2 }) ++ [.deliver 0]
    let panel := (Panel.new sampleSpelling).load
      ((start sampleSpelling (some sampleConfig)).run found).board (some ⟨0⟩)
    let before := ((start sampleSpelling (some sampleConfig)).run
      (found ++ [.command (.select (some ⟨0⟩)), .pass 1000])).board
    let applied := before.setTarget ⟨0⟩ (some target)
    panel.act before .applyCheck = (panel, some { panel, board := applied.1, changed := true }) ∧
      applied.1.widget? ⟨0⟩ =
        some { id := ⟨0⟩, poller := some ⟨⟨0⟩, target⟩, status := some ⟨.critical, false⟩ } ∧
      ((applied.1.element? ⟨0⟩).bind (·.checkOptions?)).bind (·.objectType) = some "service" := by
  intro target found panel before applied
  let options : Fields :=
    [("filter", .text " web"), ("muteAlerts", .bool false), ("objectType", .text " Service ")]
  let e : Element Float := { (Element.default : Element Float) with kind := .checkCard, options }
  have loaded :
      ((start sampleSpelling (some sampleConfig)).run found).board.element? ⟨0⟩ = some e := rfl
  have held : before.element? ⟨0⟩ = some e := rfl
  have shows : e.target? = some target := by decide
  obtain ⟨bound, -, pressed, -, kept⟩ :=
    unedited_check_is_applied_in_vain sampleSpelling (some sampleConfig) found
      [.command (.select (some ⟨0⟩)), .pass 1000] loaded shows held shows (Panel.new sampleSpelling)
  have critical : before.widget? ⟨0⟩ =
      some { id := ⟨0⟩, poller := some ⟨⟨0⟩, target⟩, status := some ⟨.critical, false⟩ } := by decide
  obtain ⟨hw, -, -⟩ := kept _ _ critical rfl
  refine ⟨?_, ?_, by decide⟩
  · exact (pressed rfl).trans (by rw [bound])
  · exact (congrArg (fun r => r.1.widget? ⟨0⟩) bound).symm.trans hw

end Chronicle

end StatusWall
