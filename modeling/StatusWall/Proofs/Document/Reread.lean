import StatusWall.Proofs.Document.Alerting
import StatusWall.Proofs.Json.Fields

/-!
# Reading what was written

A map of options that has a typed view is written over, and read again. `CheckOptions.overlay` says what
is read: a text that is given takes the place of the one below it, a text that is not given lets the
one below through, and the mute flag is always the upper one. This is not the view that was written,
because a view cannot take a text away: what it does not give it does not write.

Two things are written over options: a whole typed view (`parse?_applyTo`), and the sound of one
state (`parse?_merge_sound`). Both leave every other key as it was.
-/

namespace StatusWall

open Json

namespace SoundSet

/-- The sounds of one set, and those of another one for the states that have none. -/
def overlay (upper lower : SoundSet) : SoundSet where
  ok := upper.ok.or lower.ok
  warning := upper.warning.or lower.warning
  critical := upper.critical.or lower.critical
  unknown := upper.unknown.or lower.unknown
  up := upper.up.or lower.up
  down := upper.down.or lower.down

theorem entry_overlay (upper lower : SoundSet) (s : CheckState) :
    (upper.overlay lower).entry s = (upper.entry s).or (lower.entry s) := by
  cases s <;> rfl

theorem overlay_self (sounds : SoundSet) : sounds.overlay sounds = sounds := by
  unfold overlay
  simp only [Option.or_self]

theorem entry_setEntry (sounds : SoundSet) (state s : CheckState) (url : Option String) :
    (sounds.setEntry state url).entry s = if s = state then url else sounds.entry s := by
  cases state <;> cases s <;> rfl

theorem key_injective : Function.Injective key := by
  intro s t h
  have hs := stateOfKey?_eq_some_iff.mpr h
  rw [stateOfKey?_eq_some_iff.mpr rfl] at hs
  exact (Option.some.inj hs).symm

end SoundSet

namespace CheckOptions

/-- One typed view laid over another. -/
def overlay (upper lower : CheckOptions) : CheckOptions where
  objectType := upper.objectType.or lower.objectType
  filter := upper.filter.or lower.filter
  muteAlerts := upper.muteAlerts
  sounds := upper.sounds.overlay lower.sounds

theorem overlay_self (o : CheckOptions) : o.overlay o = o := by
  unfold overlay
  rw [Option.or_self, Option.or_self, SoundSet.overlay_self]

theorem mem_keys_of_written? {c : CheckOptions} {key : String} {value : Value}
    (h : c.written? key = some value) : key ∈ keys := by
  unfold written? at h
  split at h
  · next hkey => exact hkey ▸ by decide
  · split at h
    · next hkey => exact hkey ▸ by decide
    · split at h
      · next hkey => exact hkey ▸ by decide
      · obtain ⟨s, hs, -⟩ := Option.bind_eq_some_iff.mp h
        exact SoundSet.stateOfKey?_eq_some_iff.mp hs ▸ key_mem_keys s

variable {options options' : Fields} {key : String}

/-- A text that is written is read, and where none is written the one below it is. -/
theorem textEntry?_of_written {upper lower : Option String}
    (hlower : textEntry? options key = some lower)
    (hwritten : options'.get? key = (upper.map Value.text).or (options.get? key)) :
    textEntry? options' key = some (upper.or lower) := by
  unfold textEntry?
  rw [hwritten]
  cases upper with
  | none => exact hlower
  | some s => rfl

variable {old : CheckOptions}

/-- **A typed view that is written over another one is read as the one laid over the other.** -/
theorem parse?_applyTo (hold : parse? options = some old) (c : CheckOptions) :
    parse? (c.applyTo options) = some (c.overlay old) := by
  obtain ⟨htype, hfilter, -, hsounds⟩ := parse?_eq_some_iff.mp hold
  have written := c.get?_applyTo options
  refine parse?_eq_some_iff.mpr ⟨?_, ?_, ?_, fun s => ?_⟩
  · exact textEntry?_of_written htype (written "objectType")
  · exact textEntry?_of_written hfilter (written "filter")
  · have flag : (c.applyTo options).get? "muteAlerts" = some (.bool c.muteAlerts) :=
      written "muteAlerts"
    unfold flagEntry?
    rw [flag]
    rfl
  · have sound := written (SoundSet.key s)
    rw [written?_key] at sound
    exact (textEntry?_of_written (hsounds s) sound).trans
      (congrArg some (c.sounds.entry_overlay old.sounds s).symm)

/-- Keys that the typed view has nothing to do with keep their values. -/
theorem get?_applyTo_of_not_mem_keys (h : key ∉ keys) (c : CheckOptions) :
    (c.applyTo options).get? key = options.get? key := by
  rw [get?_applyTo]
  cases hwritten : c.written? key with
  | none => rfl
  | some value => exact absurd (mem_keys_of_written? hwritten) h

/-- Every field that is there afterwards was there before, or is the typed view's. -/
theorem mem_applyTo {c : CheckOptions} {f : String × Value} (h : f ∈ c.applyTo options) :
    f ∈ options ∨ f.1 ∈ keys :=
  (Fields.mem_merge h).imp_right fun hwritten => mem_keys_of_written? (mem_fields.mp hwritten)

/-- **A sound that is written is read, and nothing else changes.** -/
theorem parse?_merge_sound (hold : parse? options = some old) (s : CheckState) (url : String) :
    parse? (options.merge [(SoundSet.key s, .text url)]) =
      some { old with sounds := old.sounds.setEntry s (some url) } := by
  obtain ⟨htype, hfilter, hmute, hsounds⟩ := parse?_eq_some_iff.mp hold
  obtain ⟨notType, notFilter, notMute⟩ := SoundSet.key_ne s
  refine parse?_eq_some_iff.mpr ⟨?_, ?_, ?_, fun t => ?_⟩
  · exact (textEntry?_put_ne _ notType).trans htype
  · exact (textEntry?_put_ne _ notFilter).trans hfilter
  · exact (flagEntry?_put_ne _ notMute).trans hmute
  · rw [SoundSet.entry_setEntry]
    by_cases ht : t = s
    · subst ht
      have stored : (options.merge [(SoundSet.key t, .text url)]).get? (SoundSet.key t) =
          some (.text url) := (Fields.get?_put _ _ _ _).trans (if_pos rfl)
      unfold textEntry?
      rw [stored, if_pos rfl]
    · have other : SoundSet.key s ≠ SoundSet.key t := fun h => ht (SoundSet.key_injective h).symm
      rw [if_neg ht]
      exact (textEntry?_put_ne _ other).trans (hsounds t)

/-- **Writing a typed view lays it over the one that was there.** The options have a typed view again:
the written one laid over the one before. Under keys that are none of its nine nothing changes, and no
other field appears. In particular, a view that is written back where it was read is read as it was. -/
theorem written_view_is_laid_over (hold : parse? options = some old) (c : CheckOptions) :
    parse? (c.applyTo options) = some (c.overlay old) ∧
    (∀ key, key ∉ keys → (c.applyTo options).get? key = options.get? key) ∧
    (∀ f ∈ c.applyTo options, f ∈ options ∨ f.1 ∈ keys) ∧
    parse? (old.applyTo options) = some old := by
  refine ⟨parse?_applyTo hold c, fun key hkey => get?_applyTo_of_not_mem_keys hkey c,
    fun f hf => mem_applyTo hf, ?_⟩
  rw [parse?_applyTo hold old, overlay_self]

/-- Options with a filter, a sound that is null, a blank one, one of their own, and a size. -/
def sampleOptions : Fields :=
  [("criticalSound", .null), ("filter", .text "web"), ("fontSize", .number (.natural 22)),
   ("okSound", .text " "), ("upSound", .text "up.mp3")]

/-- A view with an object type, another sound, and a mute flag is laid over them. -/
theorem muted_view_is_laid_over :
    let c : CheckOptions :=
      { objectType := some "service", muteAlerts := true, sounds := { critical := some "siren.mp3" } }
    let old : CheckOptions := { filter := some "web", sounds := { ok := some " ", up := some "up.mp3" } }
    parse? sampleOptions = some old ∧
      parse? (c.applyTo sampleOptions) =
        some
          { objectType := some "service", filter := some "web", muteAlerts := true
            sounds := { ok := some " ", critical := some "siren.mp3", up := some "up.mp3" } } ∧
      (c.applyTo sampleOptions).get? "fontSize" = some (.number (.natural 22)) ∧
      parse? (old.applyTo sampleOptions) = some old := by
  intro c old
  have hold : parse? sampleOptions = some old := by decide
  obtain ⟨view, others, -, back⟩ := written_view_is_laid_over hold c
  exact ⟨hold, view, others "fontSize" (by decide), back⟩

end CheckOptions

end StatusWall
