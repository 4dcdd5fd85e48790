import StatusWall.Proofs.Board.Mirror
import StatusWall.Proofs.Board.Refinement
import StatusWall.Proofs.Document.Binding

/-!
# Binding a widget

Binding a check to an object goes through its options, and the widget's task follows the options.
`setTarget_eq` says what binding makes of a board: one element is bound and its widget is brought in
line. So the widget polls what its element shows afterwards (`Resync.polls_iff`), and that is the
object exactly if no sound among the options has a wrong type (`binding_takes_effect_iff`). A board
that polls never refuses to bind a check, and what it answers does not tell the two cases apart.

The other keys of the options stay, and so does the mute flag of a well-typed map
(`binding_keeps_alert_settings_iff`).
-/

namespace StatusWall

open Json StatusWall.Geometry

variable {α : Type}

namespace Board

/-- The widget holds a running task of its own that polls an object. -/
def Polls (fleet : Option Fleet) (w : Widget) (target : CheckTarget) : Prop :=
  ∃ h t, w.poller = some h ∧ h.target = target ∧ fleet.bind (·.task? h.id) = some t ∧
    t.widget = w.id ∧ t.target = target ∧ Running fleet t

namespace Resync

variable {before after : Option Fleet} {slug : String} {w w' : Widget} {e : Element α}

/-- A widget polls what its element shows. -/
theorem polls_iff (hn : ∀ f, before = some f → f.Numbered) (sync : Resync before slug w e after w')
    (hw : ∀ h, w.poller = some h → ∃ t, Serves before slug w h t) (hf : after ≠ none)
    (target : CheckTarget) : Polls after w' target ↔ e.target? = some target := by
  constructor
  · rintro ⟨h, -, hp, rfl, -⟩
    obtain ⟨t, -, hwant⟩ := sync.serves hn hw hp
    rw [e.target?_eq, hwant]
    rfl
  · intro hshows
    rw [e.target?_eq] at hshows
    obtain ⟨want, hwant, rfl⟩ := Option.map_eq_some_iff.mp hshows
    have hpoller : w'.poller ≠ none := sync.full hf (by rw [hwant]; exact Option.some_ne_none want)
    obtain ⟨h, hp⟩ := Option.ne_none_iff_exists'.mp hpoller
    obtain ⟨t, ht, hwant'⟩ := sync.serves hn hw hp
    have htarget : h.target = want.1 := by
      rw [hwant] at hwant'
      exact (congrArg Prod.fst (Option.some.inj hwant')).symm
    exact ⟨h, t, hp, htarget, ht.found, ht.widget, ht.target.trans htarget, ht.running⟩

/-- A widget whose element shows nothing has no task and no state. -/
theorem bare (hn : ∀ f, before = some f → f.Numbered) (sync : Resync before slug w e after w')
    (hw : ∀ h, w.poller = some h → ∃ t, Serves before slug w h t) (hnone : e.target? = none) :
    w'.poller = none ∧ w'.status = none := by
  have hp : w'.poller = none := by
    cases hp : w'.poller with
    | none => rfl
    | some h =>
      obtain ⟨t, -, hwant⟩ := sync.serves hn hw hp
      rw [e.target?_eq, hwant] at hnone
      cases hnone
  exact ⟨hp, sync.idle hp⟩

end Resync

section

variable {b : Board α} {id : WidgetId} {e : Element α}

/-- **What binding makes of a board.** The element is bound, and its widget brought in line. -/
theorem setTarget_eq (hb : b.InStep) (he : b.element? id = some e)
    (hkind : e.kind.pollsCheck = true) (target : Option CheckTarget) :
    ∃ w fleet w', w ∈ b.widgets ∧
      Resync b.fleet b.dashboard.slug w (e.bound target) fleet w' ∧
      (b.setTarget id target).2 = true ∧
      (b.setTarget id target).1.fleet = fleet ∧
      (b.setTarget id target).1.element? id = some (e.bound target) ∧
      (b.setTarget id target).1.widget? id = some w' := by
  obtain ⟨i, hi, hei⟩ := Option.bind_eq_some_iff.mp he
  obtain ⟨w, hw, -⟩ := widget_of_indexOf? hi
  have hcheck : e.checkOptions? = some (.ofOptions e.options) := if_pos hkind
  have hset : b.dashboard.elements.modify i (fun e' =>
      { e' with options := Element.boundOptions e'.options (.ofOptions e.options) target }) =
      b.dashboard.elements.set i (e.bound target) := by
    rw [modify_eq_set_of_getElem? hei, Element.bound_eq hkind]
  have hbound : (b.dashboard.elements.set i (e.bound target))[i]? = some (e.bound target) :=
    List.getElem?_set_self (List.getElem?_eq_some_iff.mp hei).1
  let edited : Board α :=
    { b with
      dashboard := { b.dashboard with elements := b.dashboard.elements.set i (e.bound target) } }
  obtain ⟨fleet, w', sync, heq⟩ :=
    syncPoller_eq (b := edited) hw hbound (hb.idle w (List.mem_of_getElem? hw))
  have hresult : b.setTarget id target =
      ({ edited with widgets := b.widgets.set i w', fleet }, true) := by
    unfold setTarget
    simp only [hi, hei, Option.bind_some, hcheck]
    unfold changeOptions Dashboard.modifyElement
    rw [hset]
    exact congrArg (·, true) heq
  have hi' : (b.setTarget id target).1.indexOf? id = some i := by
    rw [hresult, indexOf?_eq_idxOf?, ← hi, indexOf?_eq_idxOf?]
    exact congrArg (·.idxOf? id) (map_set_of_eq hw Widget.id sync.id)
  refine ⟨w, fleet, w', List.mem_of_getElem? hw, sync, ?_, ?_, ?_, ?_⟩
  · rw [hresult]
  · rw [hresult]
  · unfold element?
    rw [hi', Option.bind_some, hresult]
    exact hbound
  · unfold widget?
    rw [hi', Option.bind_some, hresult]
    exact List.getElem?_set_self (List.getElem?_eq_some_iff.mp hw).1

end

end Board

namespace Chronicle

open CheckOptions Element

variable [Scalar α] (d : Dashboard α) (polling : Option PollConfig) (ms : List (Moment α))
  {id : WidgetId} {e : Element α}

/-- **Binding takes effect exactly if no sound has a wrong type.** At the end of any run, a check is
bound to any object and unbound, whatever its options hold, and the answer says so. It then shows
the object, and has a running task that polls it if the board polls at all, exactly if under each of
the keys of the sounds there is a text, null or nothing. An unbound check shows nothing, and its
widget has no task and no state. -/
theorem binding_takes_effect_iff (he : ((start d polling).run ms).board.element? id = some e)
    (hkind : e.kind.pollsCheck = true) :
    let b := ((start d polling).run ms).board
    (∀ t : CheckTarget, t.Valid →
      let bound := b.setTarget id (some t)
      bound.2 = true ∧
      ∃ e' w', bound.1.element? id = some e' ∧ bound.1.widget? id = some w' ∧
        (e'.target? = some t ↔ ∀ s, TextAt e.options (SoundSet.key s)) ∧
        (polling ≠ none →
          (Board.Polls bound.1.fleet w' t ↔ ∀ s, TextAt e.options (SoundSet.key s)))) ∧
    let unbound := b.setTarget id none
    unbound.2 = true ∧
    ∃ e' w', unbound.1.element? id = some e' ∧ unbound.1.widget? id = some w' ∧
      e'.target? = none ∧ w'.poller = none ∧ w'.status = none := by
  intro b
  have hstart : (start d polling).Sound := Sound.start d polling
  have hb : b.InStep := (hstart.run ms).inStep
  refine ⟨fun t valid => ?_, ?_⟩
  · intro bound
    obtain ⟨w, fleet, w', hw, sync, hdone, hfleet, helement, hwidget⟩ :=
      Board.setTarget_eq hb he hkind (some t)
    have shows : (e.bound (some t)).target? = some t ↔ ∀ s, TextAt e.options (SoundSet.key s) := by
      rw [target?_bound_eq_some_iff hkind fun u hu => Option.some.inj hu ▸ valid]
      exact ⟨fun h => h.2, fun h => ⟨rfl, h⟩⟩
    refine ⟨hdone, _, w', helement, hwidget, shows, fun hpolling => ?_⟩
    have hpolls : fleet ≠ none := by
      rw [Ne, Fleet.eq_none_iff_of_told sync.told, fleet_run hstart ms, fleet_start d polling]
      exact hpolling
    rw [← shows, ← sync.polls_iff hb.numbered (fun _ => hb.serves hw) hpolls t]
    exact Iff.of_eq (congrArg (Board.Polls · w' t) hfleet)
  · intro unbound
    obtain ⟨w, fleet, w', hw, sync, hdone, -, helement, hwidget⟩ :=
      Board.setTarget_eq hb he hkind none
    have valid : ∀ t, (none : Option CheckTarget) = some t → t.Valid := fun _ ht => nomatch ht
    have hnone : (e.bound none).target? = none := by
      refine Option.eq_none_iff_forall_ne_some.mpr fun t ht => ?_
      cases ((target?_bound_eq_some_iff hkind valid).mp ht).1
    obtain ⟨hpoller, hstatus⟩ := sync.bare hb.numbered (fun _ => hb.serves hw) hnone
    exact ⟨hdone, _, w', helement, hwidget, hnone, hpoller, hstatus⟩

/-- **Binding keeps the alert settings exactly if the options are well typed**, or hold no muting
that could be lost. At the end of any run, binding a check to an object and unbinding it writes the
two keys of the object and the mute flag, and every other key keeps its value, the sounds among
them. A check whose options say that it is muted is muted afterwards exactly if each entry that the
typed view looks at has its type. -/
theorem binding_keeps_alert_settings_iff
    (he : ((start d polling).run ms).board.element? id = some e)
    (hkind : e.kind.pollsCheck = true) (target : Option CheckTarget) :
    let bound := ((start d polling).run ms).board.setTarget id target
    bound.2 = true ∧
    ∃ e', bound.1.element? id = some e' ∧
      (∀ key, key ≠ "objectType" → key ≠ "filter" → key ≠ "muteAlerts" →
        e'.options.get? key = e.options.get? key) ∧
      (∀ s, e'.options.get? (SoundSet.key s) = e.options.get? (SoundSet.key s)) ∧
      (KeepsAlertSettings e.options e'.options ↔
        WellTyped e.options ∨ e.options.get? "muteAlerts" = none ∨
          e.options.get? "muteAlerts" = some (.bool false)) ∧
      (e.options.get? "muteAlerts" = some (.bool true) →
        ((∃ check, e'.checkOptions? = some check ∧ check.policy.muted = true) ↔
          WellTyped e.options)) := by
  intro bound
  have hb := ((Sound.start d polling).run ms).inStep
  obtain ⟨-, -, -, -, -, hdone, -, helement, -⟩ := Board.setTarget_eq hb he hkind target
  have hoptions : (e.bound target).options =
      boundOptions e.options (.ofOptions e.options) target := by rw [bound_eq hkind]
  refine ⟨hdone, _, helement, ?_, ?_, ?_, muted_bound_iff hkind target⟩
  · rw [hoptions]
    exact fun key => get?_rebound e.options target
  · rw [hoptions]
    exact get?_rebound_key e.options target
  · rw [hoptions]
    exact keepsAlertSettings_rebound_iff e.options target

/-! ## A check with given options -/

/-- A document with a single check that has certain options. -/
def sampleCheck (options : Fields) : Dashboard Float :=
  { sampleDashboard with
    elements := [{ (Element.default : Element Float) with kind := .checkCard, options }] }

/-- The check of the sample, bound to an object. -/
def sampleBound (options : Fields) : Board Float × Bool :=
  (start (sampleCheck options) (some sampleConfig)).board.setTarget ⟨0⟩ (some sampleTarget)

/-- A filter and a mute flag of wrong types are repaired: the check is bound, and polled. -/
theorem repaired_check_is_bound :
    let bound := sampleBound [("filter", .number (.natural 7)), ("muteAlerts", .text "no")]
    bound.2 = true ∧ ∃ e' w', bound.1.element? ⟨0⟩ = some e' ∧ bound.1.widget? ⟨0⟩ = some w' ∧
      e'.target? = some sampleTarget ∧ Board.Polls bound.1.fleet w' sampleTarget := by
  let options : Fields := [("filter", .number (.natural 7)), ("muteAlerts", .text "no")]
  have typed : ∀ s, TextAt options (SoundSet.key s) := by
    intro s value hvalue
    cases s <;> cases hvalue
  have he : (start (sampleCheck options) (some sampleConfig)).board.element? ⟨0⟩ =
      some { (Element.default : Element Float) with kind := .checkCard, options } := rfl
  obtain ⟨hdone, e', w', he', hw', hshows, hpolls⟩ :=
    (binding_takes_effect_iff (sampleCheck options) (some sampleConfig) [] he rfl).1
      sampleTarget rfl
  exact ⟨hdone, e', w', he', hw', hshows.mpr typed, (hpolls (Option.some_ne_none _)).mpr typed⟩

/-- **A check with an ill-typed sound is not bound**: the answer says that it was, but it shows
nothing and nobody polls it. -/
theorem check_with_ill_typed_sound_is_not_bound :
    let options : Fields := [("okSound", .number (.natural 5))]
    let bound := sampleBound options
    sampleTarget.Valid ∧
      ((start (sampleCheck options) (some sampleConfig)).board.element? ⟨0⟩).map (·.kind) =
        some .checkCard ∧
      bound.2 = true ∧ (bound.1.element? ⟨0⟩).map Element.target? = some none ∧
      (bound.1.widget? ⟨0⟩).map (·.poller) = some none :=
  ⟨rfl, by decide, by decide, by decide, by decide⟩

/-- A muted check with a sound of its own stays muted while it is bound. -/
theorem well_typed_check_stays_muted :
    let options : Fields := [("criticalSound", .text "siren.mp3"), ("muteAlerts", .bool true)]
    ∃ e', (sampleBound options).1.element? ⟨0⟩ = some e' ∧
      KeepsAlertSettings options e'.options ∧
      ∃ check, e'.checkOptions? = some check ∧ check.policy.muted = true := by
  intro options
  have typed : WellTyped options := by
    refine exists_parse?_iff.mp ⟨{ muteAlerts := true
                                   sounds := { critical := some "siren.mp3" } }, ?_⟩
    decide
  have he : (start (sampleCheck options) (some sampleConfig)).board.element? ⟨0⟩ =
      some { (Element.default : Element Float) with kind := .checkCard, options } := rfl
  obtain ⟨-, e', he', -, -, hkeeps, hmuted⟩ :=
    binding_keeps_alert_settings_iff (sampleCheck options) (some sampleConfig) [] he rfl
      (some sampleTarget)
  exact ⟨e', he', hkeeps.mpr (.inl typed), (hmuted rfl).mpr typed⟩

/-- Options that say that the check is muted, and hold a filter of a wrong type. -/
def sampleMuted : Fields := [("filter", .number (.natural 7)), ("muteAlerts", .bool true)]

/-- **Binding unmutes a check with an ill-typed filter**: the options say that it is muted, and once
it is bound they say that it is not, and neither does its policy. -/
theorem check_with_ill_typed_filter_is_unmuted :
    sampleMuted.get? "muteAlerts" = some (.bool true) ∧
      ∃ e', (sampleBound sampleMuted).1.element? ⟨0⟩ = some e' ∧
        e'.target? = some sampleTarget ∧
        e'.options.get? "muteAlerts" = some (.bool false) ∧
        e'.checkOptions?.map (·.policy.muted) = some false ∧
        ¬ KeepsAlertSettings sampleMuted e'.options := by
  refine ⟨rfl, _, rfl, by decide, rfl, by decide, fun keeps => ?_⟩
  rcases keeps.mute with hsame | ⟨habsent, -⟩
  · cases hsame
  · cases habsent

end Chronicle

end StatusWall
