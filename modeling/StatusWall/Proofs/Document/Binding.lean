import StatusWall.Proofs.Board.Register
import StatusWall.Proofs.Document.Overlay

/-!
# Binding a check in its options

Binding reads the options of a check into the typed view, puts the object into the view and writes
the view over the options (`Element.boundOptions`). Three keys are written: those of the object and
the mute flag. Everything else in the map stays as it was, sounds included (`get?_rebound`).

What is written of the mute flag is what was read, and a map with any entry of a wrong type reads as
the default view, in which nothing is muted. So the flag survives exactly in a map that is well
typed (`Element.muted_bound_iff`). Writing repairs the three entries; an ill-typed sound stays and keeps
the map from being read, and then the check shows nothing although it was bound
(`Element.target?_bound_eq_some_iff`).
-/

namespace StatusWall

open Json

theorem ObjectType.parse?_name (type : ObjectType) : parse? type.name = some type := by
  cases type <;> decide

/-- A target that can be asked for: its filter picks something out. -/
def CheckTarget.Valid (t : CheckTarget) : Prop := ofFilter? t.objectType t.filter = some t

namespace CheckOptions

/-- Reading a target out of the entries it was written into. -/
theorem target_of_written {o : CheckOptions} {target : Option CheckTarget}
    (valid : ∀ t, target = some t → t.Valid)
    (htype : o.objectType = target.map fun (t : CheckTarget) => t.objectType.name)
    (hfilter : o.filter = target.map CheckTarget.filter) : o.target = target := by
  unfold CheckOptions.target
  rw [htype, hfilter]
  cases target with
  | none => rfl
  | some t =>
    have hname := t.objectType.parse?_name
    simp only [Option.map_some, Option.bind_eq_bind, Option.bind_some, hname]
    exact valid t rfl

/-- A sound that was read is written back as it was, and one that could not be read is not
written. -/
theorem sound_entry_or (options : Fields) (s : CheckState) :
    (((ofOptions options).sounds.entry s).map Value.text).or (options.get? (SoundSet.key s)) =
      options.get? (SoundSet.key s) := by
  unfold ofOptions
  cases ho : parse? options with
  | none => cases s <;> rfl
  | some o =>
    obtain ⟨-, -, -, hsounds⟩ := parse?_eq_some_iff.mp ho
    have hread := hsounds s
    unfold textEntry? at hread
    rw [Option.getD_some]
    split at hread
    · next hget =>
      rw [← Option.some.inj hread, hget]
      rfl
    · next hget =>
      rw [← Option.some.inj hread, hget]
      rfl
    · next hget =>
      rw [← Option.some.inj hread, hget]
      rfl
    · cases hread

end CheckOptions

namespace Element

open CheckOptions

/-- What is under a key after the typed view was given a target and written back. -/
theorem get?_boundOptions (options : Fields) (check : CheckOptions) (target : Option CheckTarget)
    (key : String) :
    (boundOptions options check target).get? key =
      if key = "objectType" then target.map fun t => .text t.objectType.name
      else if key = "filter" then target.map fun t => .text t.filter
      else if key = "muteAlerts" then some (.bool check.muteAlerts)
      else (check.written? key).or (options.get? key) := by
  unfold boundOptions
  rw [get?_applyTo]
  unfold written?
  cases target with
  | none =>
    simp only [Option.isNone_none, if_true, Fields.get?_without, Option.map_none]
    split
    · next hkey => simp [hkey]
    · split
      · next hkey => simp [hkey]
      · split
        · rfl
        · next hType hFilter _ => simp [Ne.symm hType, Ne.symm hFilter]
  | some t =>
    simp only [Option.isNone_some, Bool.false_eq_true, if_false, Option.map_some]
    split
    · rfl
    · split
      · rfl
      · split <;> rfl

section Rebound

variable (options : Fields) (target : Option CheckTarget)

/-- **Binding writes three keys and no others.** -/
theorem get?_rebound {key : String} (hType : key ≠ "objectType") (hFilter : key ≠ "filter")
    (hMute : key ≠ "muteAlerts") :
    (boundOptions options (.ofOptions options) target).get? key = options.get? key := by
  rw [get?_boundOptions, if_neg hType, if_neg hFilter, if_neg hMute]
  unfold written?
  rw [if_neg hType, if_neg hFilter, if_neg hMute]
  cases hs : SoundSet.stateOfKey? key with
  | none => rfl
  | some s =>
    rw [← SoundSet.stateOfKey?_eq_some_iff.mp hs]
    exact sound_entry_or options s

theorem get?_rebound_key (s : CheckState) :
    (boundOptions options (.ofOptions options) target).get? (SoundSet.key s) =
      options.get? (SoundSet.key s) := by
  obtain ⟨hType, hFilter, hMute⟩ := SoundSet.key_ne s
  exact get?_rebound options target hType hFilter hMute

theorem get?_rebound_objectType :
    (boundOptions options (.ofOptions options) target).get? "objectType" =
      target.map fun t => .text t.objectType.name := by
  rw [get?_boundOptions, if_pos rfl]

theorem get?_rebound_filter :
    (boundOptions options (.ofOptions options) target).get? "filter" =
      target.map fun t => .text t.filter := by
  rw [get?_boundOptions, if_neg (by decide), if_pos rfl]

theorem get?_rebound_muteAlerts :
    (boundOptions options (.ofOptions options) target).get? "muteAlerts" =
      some (.bool (ofOptions options).muteAlerts) := by
  rw [get?_boundOptions, if_neg (by decide), if_neg (by decide), if_pos rfl]

/-- Binding repairs every entry but the sounds. -/
theorem wellTyped_rebound_iff :
    WellTyped (boundOptions options (.ofOptions options) target) ↔
      ∀ s, TextAt options (SoundSet.key s) := by
  have sounds : (∀ s, TextAt (boundOptions options (.ofOptions options) target)
      (SoundSet.key s)) ↔ ∀ s, TextAt options (SoundSet.key s) := by
    unfold TextAt
    simp only [get?_rebound_key]
  refine ⟨fun h => sounds.mp h.sounds, fun h => ⟨?_, ?_, ?_, sounds.mpr h⟩⟩
  · intro value hvalue
    rw [get?_rebound_objectType] at hvalue
    obtain ⟨t, -, rfl⟩ := Option.map_eq_some_iff.mp hvalue
    exact .inr ⟨_, rfl⟩
  · intro value hvalue
    rw [get?_rebound_filter] at hvalue
    obtain ⟨t, -, rfl⟩ := Option.map_eq_some_iff.mp hvalue
    exact .inr ⟨_, rfl⟩
  · intro value hvalue
    rw [get?_rebound_muteAlerts] at hvalue
    cases hvalue
    exact ⟨_, rfl⟩

/-! ## The mute flag -/

variable {options}

/-- When a map reads as muted. -/
theorem muteAlerts_iff :
    (ofOptions options).muteAlerts = true ↔
      WellTyped options ∧ options.get? "muteAlerts" = some (.bool true) := by
  rw [← exists_parse?_iff]
  unfold ofOptions
  cases ho : parse? options with
  | none => simp
  | some o =>
    have hmute := (parse?_eq_some_iff.mp ho).2.2.1
    unfold flagEntry? at hmute
    rw [Option.getD_some]
    split at hmute
    · next hget => simp [hget, ← Option.some.inj hmute]
    · next hget => simp [hget, Option.some.inj hmute]
    · cases hmute

end Rebound

/-- What is meant by keeping the alert settings of a map of options: every key but the two of the
object keeps its value, unless there was no mute flag and the flag of no muting was added. -/
structure KeepsAlertSettings (options options' : Fields) : Prop where
  others : ∀ key, key ≠ "objectType" → key ≠ "filter" → key ≠ "muteAlerts" →
    options'.get? key = options.get? key
  mute : options'.get? "muteAlerts" = options.get? "muteAlerts" ∨
    options.get? "muteAlerts" = none ∧ options'.get? "muteAlerts" = some (.bool false)

/-- **Binding keeps the alert settings exactly if the map is well typed** or has no muting to
lose. -/
theorem keepsAlertSettings_rebound_iff (options : Fields) (target : Option CheckTarget) :
    KeepsAlertSettings options (boundOptions options (.ofOptions options) target) ↔
      WellTyped options ∨ options.get? "muteAlerts" = none ∨
        options.get? "muteAlerts" = some (.bool false) := by
  have written := get?_rebound_muteAlerts options target
  by_cases hmuted : (ofOptions options).muteAlerts = true
  · obtain ⟨htyped, hflag⟩ := muteAlerts_iff.mp hmuted
    refine ⟨fun _ => .inl htyped, fun _ => ⟨fun key => get?_rebound options target, .inl ?_⟩⟩
    rw [written, hmuted, hflag]
  · have unmuted : (ofOptions options).muteAlerts = false := Bool.eq_false_iff.mpr hmuted
    rw [unmuted] at written
    constructor
    · intro h
      rcases h.mute with hsame | ⟨habsent, -⟩
      · exact .inr (.inr (hsame.symm.trans written))
      · exact .inr (.inl habsent)
    · intro h
      refine ⟨fun key => get?_rebound options target, ?_⟩
      rw [written]
      rcases h with htyped | habsent | hfalse
      · cases hget : options.get? "muteAlerts" with
        | none => exact .inr ⟨rfl, rfl⟩
        | some value =>
          obtain ⟨flag, rfl⟩ := htyped.muteAlerts value hget
          cases flag with
          | false => exact .inl rfl
          | true => exact absurd (muteAlerts_iff.mpr ⟨htyped, hget⟩) hmuted
      · exact .inr ⟨habsent, rfl⟩
      · exact .inl hfalse.symm

/-! ## Elements -/

section Bound

variable {α : Type} {e : Element α} (hkind : e.kind.pollsCheck = true)
  (target : Option CheckTarget)

include hkind

theorem bound_eq :
    e.bound target =
      { e with options := boundOptions e.options (.ofOptions e.options) target } := by
  unfold bound checkOptions?
  rw [if_pos hkind]

/-- **What a check shows after it was bound.** -/
theorem target?_bound_eq_some_iff {target : Option CheckTarget}
    (valid : ∀ t, target = some t → t.Valid) {t : CheckTarget} :
    (e.bound target).target? = some t ↔
      target = some t ∧ ∀ s, TextAt e.options (SoundSet.key s) := by
  have read : ∀ o, parse? (boundOptions e.options (.ofOptions e.options) target) = some o →
      o.target = target := by
    intro o ho
    obtain ⟨htype, hfilter, -, -⟩ := parse?_eq_some_iff.mp ho
    unfold textEntry? at htype hfilter
    rw [get?_rebound_objectType] at htype
    rw [get?_rebound_filter] at hfilter
    refine target_of_written valid ?_ ?_
    · cases target <;> exact (Option.some.inj htype).symm
    · cases target <;> exact (Option.some.inj hfilter).symm
  rw [bound_eq hkind, target?_eq_some_iff, ← wellTyped_rebound_iff e.options target,
    ← exists_parse?_iff]
  constructor
  · rintro ⟨-, o, ho, hot⟩
    exact ⟨(read o ho).symm.trans hot, o, ho⟩
  · rintro ⟨rfl, o, ho⟩
    exact ⟨hkind, o, ho, read o ho⟩

/-- **A muted check stays muted exactly if its options are well typed.** -/
theorem muted_bound_iff (hmuted : e.options.get? "muteAlerts" = some (.bool true)) :
    (∃ check, (e.bound target).checkOptions? = some check ∧ check.policy.muted = true) ↔
      WellTyped e.options := by
  have hbound : (e.bound target).checkOptions? =
      some (.ofOptions (boundOptions e.options (.ofOptions e.options) target)) := by
    rw [bound_eq hkind]
    exact if_pos hkind
  have bound_muted :
      (ofOptions (boundOptions e.options (.ofOptions e.options) target)).muteAlerts = true ↔
        WellTyped e.options := by
    rw [muteAlerts_iff, wellTyped_rebound_iff, get?_rebound_muteAlerts, Option.some.injEq,
      Value.bool.injEq, muteAlerts_iff]
    exact ⟨fun h => h.2.1, fun h => ⟨h.sounds, h, hmuted⟩⟩
  rw [hbound, ← bound_muted]
  constructor
  · rintro ⟨check, hcheck, hafter⟩
    cases hcheck
    exact hafter
  · exact fun hafter => ⟨_, rfl, hafter⟩

end Bound

end Element

end StatusWall
