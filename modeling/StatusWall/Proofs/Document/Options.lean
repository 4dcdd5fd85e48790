import Mathlib.Tactic.Choose
import StatusWall.Document.Element

/-!
# The object in the options

The object a check shows is read from two entries of its options, but only if the typed view exists,
and that takes nine entries to have their types. `CheckOptions.KeepsObject` singles out the entries
that can be written without anybody's losing sight of the object: under neither of the two keys, and
of its type under the other seven. Writing such entries leaves the object alone
(`Element.target?_updateOptions`).
-/

namespace StatusWall

open Json

namespace CheckOptions

/-- The sounds are there when each entry is. -/
theorem soundEntries?_eq_some_iff {options : Fields} {sounds : SoundSet} :
    soundEntries? options = some sounds ↔
      ∀ s, textEntry? options (SoundSet.key s) = some (sounds.entry s) := by
  unfold soundEntries?
  simp only [Option.bind_eq_bind, Option.bind_eq_some_iff, Option.pure_def, Option.some.injEq]
  constructor
  · rintro ⟨_, hok, _, hwarning, _, hcritical, _, hunknown, _, hup, _, hdown, rfl⟩ s
    cases s <;> assumption
  · intro h
    exact ⟨_, h .ok, _, h .warning, _, h .critical, _, h .unknown, _, h .up, _, h .down, rfl⟩

/-- The typed view is there when each entry is. -/
theorem parse?_eq_some_iff {options : Fields} {o : CheckOptions} :
    parse? options = some o ↔
      textEntry? options "objectType" = some o.objectType ∧
      textEntry? options "filter" = some o.filter ∧
      flagEntry? options "muteAlerts" = some o.muteAlerts ∧
      ∀ s, textEntry? options (SoundSet.key s) = some (o.sounds.entry s) := by
  rw [← soundEntries?_eq_some_iff]
  unfold parse?
  simp only [Option.bind_eq_bind, Option.bind_eq_some_iff, Option.pure_def, Option.some.injEq]
  constructor
  · rintro ⟨_, htype, _, hfilter, _, hmute, _, hsounds, rfl⟩
    exact ⟨htype, hfilter, hmute, hsounds⟩
  · rintro ⟨htype, hfilter, hmute, hsounds⟩
    exact ⟨_, htype, _, hfilter, _, hmute, _, hsounds, rfl⟩

/-- An entry that can be written without losing sight of the object: it has nothing to do with the
object, and is what the typed view expects under its key. -/
def KeepsObject (key : String) (value : Value) : Prop :=
  key ≠ "objectType" ∧ key ≠ "filter" ∧
    (key = "muteAlerts" → ∃ muted, value = .bool muted) ∧
    ∀ s, key = SoundSet.key s → value = .null ∨ ∃ url, value = .text url

theorem textEntry?_put_ne {options : Fields} {key k : String} (value : Value) (h : key ≠ k) :
    textEntry? (options.put key value) k = textEntry? options k := by
  unfold textEntry?
  rw [Fields.get?_put, if_neg h]

theorem flagEntry?_put_ne {options : Fields} {key k : String} (value : Value) (h : key ≠ k) :
    flagEntry? (options.put key value) k = flagEntry? options k := by
  unfold flagEntry?
  rw [Fields.get?_put, if_neg h]

/-- Writing such an entry leaves a typed view with the same object. -/
theorem parse?_put {options : Fields} {o : CheckOptions} {key : String} {value : Value}
    (ho : parse? options = some o) (hkey : KeepsObject key value) :
    ∃ o', parse? (options.put key value) = some o' ∧
      o'.objectType = o.objectType ∧ o'.filter = o.filter := by
  obtain ⟨htype, hfilter, hmute, hsounds⟩ := parse?_eq_some_iff.mp ho
  obtain ⟨notType, notFilter, isFlag, isText⟩ := hkey
  have flag : ∃ muted, flagEntry? (options.put key value) "muteAlerts" = some muted := by
    by_cases hk : key = "muteAlerts"
    · obtain ⟨muted, rfl⟩ := isFlag hk
      refine ⟨muted, ?_⟩
      unfold flagEntry?
      rw [Fields.get?_put, if_pos hk]
    · exact ⟨o.muteAlerts, (flagEntry?_put_ne value hk).trans hmute⟩
  have sound : ∀ s, ∃ url, textEntry? (options.put key value) (SoundSet.key s) = some url := by
    intro s
    by_cases hk : key = SoundSet.key s
    · unfold textEntry?
      rw [Fields.get?_put, if_pos hk]
      rcases isText s hk with rfl | ⟨url, rfl⟩
      · exact ⟨none, rfl⟩
      · exact ⟨some url, rfl⟩
    · exact ⟨o.sounds.entry s, (textEntry?_put_ne value hk).trans (hsounds s)⟩
  obtain ⟨muted, hmuted⟩ := flag
  choose url hurl using sound
  refine ⟨{ o with
    muteAlerts := muted
    sounds := { ok := url .ok, warning := url .warning, critical := url .critical
                unknown := url .unknown, up := url .up, down := url .down } }, ?_, rfl, rfl⟩
  refine parse?_eq_some_iff.mpr ⟨?_, ?_, hmuted, fun s => ?_⟩
  · exact (textEntry?_put_ne value notType).trans htype
  · exact (textEntry?_put_ne value notFilter).trans hfilter
  · rw [hurl s]
    cases s <;> rfl

theorem parse?_merge {options update : Fields} {o : CheckOptions} (ho : parse? options = some o)
    (hupdate : ∀ f ∈ update, KeepsObject f.1 f.2) :
    ∃ o', parse? (options.merge update) = some o' ∧
      o'.objectType = o.objectType ∧ o'.filter = o.filter := by
  unfold Fields.merge
  induction update generalizing options o with
  | nil => exact ⟨o, ho, rfl, rfl⟩
  | cons f update ih =>
    obtain ⟨o₁, ho₁, htype₁, hfilter₁⟩ := parse?_put ho (hupdate f List.mem_cons_self)
    obtain ⟨o₂, ho₂, htype₂, hfilter₂⟩ := ih ho₁ fun g hg => hupdate g (List.mem_cons_of_mem f hg)
    exact ⟨o₂, ho₂, htype₂.trans htype₁, hfilter₂.trans hfilter₁⟩

/-- A sound entry is such an entry. -/
theorem keepsObject_sound (s : CheckState) (url : String) :
    KeepsObject (SoundSet.key s) (.text url) := by
  have hkey : SoundSet.key s ≠ "objectType" ∧ SoundSet.key s ≠ "filter" ∧
      SoundSet.key s ≠ "muteAlerts" := by
    cases s <;> decide
  exact ⟨hkey.1, hkey.2.1, fun hmute => absurd hmute hkey.2.2, fun _ _ => .inr ⟨url, rfl⟩⟩

end CheckOptions

/-- An element that shows an object is a check with a typed view. -/
theorem Element.target?_eq_some_iff {α : Type} {e : Element α} {target : CheckTarget} :
    e.target? = some target ↔
      e.kind.pollsCheck = true ∧
        ∃ o, CheckOptions.parse? e.options = some o ∧ o.target = some target := by
  unfold target? checkOptions? CheckOptions.ofOptions
  constructor
  · intro h
    split at h
    · next hkind =>
      refine ⟨hkind, ?_⟩
      cases ho : CheckOptions.parse? e.options with
      | none =>
        rw [ho] at h
        cases h
      | some o =>
        rw [ho] at h
        exact ⟨o, rfl, h⟩
    · cases h
  · rintro ⟨hkind, o, ho, htarget⟩
    rw [if_pos hkind, ho]
    exact htarget

/-- Writing entries that have nothing to do with the object leaves the object alone. -/
theorem Element.target?_updateOptions {α : Type} {e : Element α} {update : Fields}
    (hshows : e.target? ≠ none)
    (hupdate : ∀ f ∈ update, CheckOptions.KeepsObject f.1 f.2) :
    (e.updateOptions update).target? = e.target? := by
  obtain ⟨target, htarget⟩ := Option.ne_none_iff_exists'.mp hshows
  obtain ⟨hkind, o, ho, hot⟩ := target?_eq_some_iff.mp htarget
  obtain ⟨o', ho', htype, hfilter⟩ := CheckOptions.parse?_merge ho hupdate
  rw [htarget]
  refine target?_eq_some_iff.mpr ⟨hkind, o', ho', ?_⟩
  rw [← hot]
  unfold CheckOptions.target
  rw [htype, hfilter]

end StatusWall
