import StatusWall.Proofs.Document.Options

/-!
# Writing the typed view

A check's options are read into a typed view and the view is written over them again. What is under
a key afterwards is `CheckOptions.get?_applyTo`: the view's own entry, if it has one, and otherwise
what was there. A view has an entry for each text that is given, and always one for the mute flag.

Reading succeeds exactly on the maps in which nine entries have their types
(`CheckOptions.exists_parse?_iff`); every other map reads as the default view.
-/

namespace StatusWall

open Json

namespace Json.Fields

/-- The last write wins. -/
theorem get?_merge (fields update : Fields) (key : String) :
    (fields.merge update).get? key = (update.reverse.lookup key).or (fields.get? key) := by
  unfold merge
  induction update generalizing fields with
  | nil => rfl
  | cons f update ih =>
    obtain ⟨k, v⟩ := f
    rw [List.foldl_cons, ih, get?_put, List.reverse_cons, List.lookup_append]
    cases List.lookup key update.reverse with
    | some v' => rfl
    | none =>
      by_cases hkey : k = key
      · subst hkey
        simp
      · have hne : (key == k) = false := beq_eq_false_iff_ne.mpr (Ne.symm hkey)
        simp [List.lookup_cons, hkey, hne]

/-- Writing what a function of the keys tells. -/
theorem get?_merge_of_graph {written? : String → Option Value} {update : Fields}
    (graph : ∀ key value, (key, value) ∈ update ↔ written? key = some value) (fields : Fields)
    (key : String) : (fields.merge update).get? key = (written? key).or (fields.get? key) := by
  have hlookup : update.reverse.lookup key = written? key := by
    cases hfound : update.reverse.lookup key with
    | some value =>
      obtain ⟨pre, post, hsplit, -⟩ := List.lookup_eq_some_iff.mp hfound
      have hmem : (key, value) ∈ update.reverse := by rw [hsplit]; simp
      exact ((graph key value).mp (List.mem_reverse.mp hmem)).symm
    | none =>
      cases hentry : written? key with
      | none => rfl
      | some value =>
        have hmem := List.mem_reverse.mpr ((graph key value).mpr hentry)
        have habsent := List.lookup_eq_none_iff.mp hfound _ hmem
        simp at habsent
  rw [get?_merge, hlookup]

end Json.Fields

namespace SoundSet

theorem stateOfKey?_eq_some_iff {key : String} {s : CheckState} :
    stateOfKey? key = some s ↔ SoundSet.key s = key := by
  unfold stateOfKey?
  constructor
  · intro h
    have hkey := List.find?_some h
    exact of_decide_eq_true hkey
  · rintro rfl
    cases s <;> decide

/-- The field of a state. -/
theorem mem_fields {sounds : SoundSet} {key : String} {value : Value} :
    (key, value) ∈ sounds.fields ↔
      ∃ s, SoundSet.key s = key ∧ (sounds.entry s).map Value.text = some value := by
  unfold fields
  rw [List.mem_filterMap]
  constructor
  · rintro ⟨s, -, h⟩
    obtain ⟨url, hurl, heq⟩ := Option.map_eq_some_iff.mp h
    cases heq
    exact ⟨s, rfl, by rw [hurl]; rfl⟩
  · rintro ⟨s, rfl, h⟩
    obtain ⟨url, hurl, rfl⟩ := Option.map_eq_some_iff.mp h
    refine ⟨s, ?_, by rw [hurl]; rfl⟩
    cases s <;> decide

/-- No sound stands under one of the other keys. -/
theorem key_ne (s : CheckState) :
    key s ≠ "objectType" ∧ key s ≠ "filter" ∧ key s ≠ "muteAlerts" := by
  cases s <;> decide

end SoundSet

namespace CheckOptions

/-! ## Written -/

/-- What the typed view puts under a key. -/
def written? (o : CheckOptions) (key : String) : Option Value :=
  if key = "objectType" then o.objectType.map .text
  else if key = "filter" then o.filter.map .text
  else if key = "muteAlerts" then some (.bool o.muteAlerts)
  else (SoundSet.stateOfKey? key).bind fun s => (o.sounds.entry s).map .text

theorem written?_key (o : CheckOptions) (s : CheckState) :
    o.written? (SoundSet.key s) = (o.sounds.entry s).map .text := by
  obtain ⟨hType, hFilter, hMute⟩ := SoundSet.key_ne s
  unfold written?
  rw [if_neg hType, if_neg hFilter, if_neg hMute, SoundSet.stateOfKey?_eq_some_iff.mpr rfl,
    Option.bind_some]

/-- An entry that may be missing. -/
theorem mem_toList_map_text {k key : String} {text : Option String} {value : Value} :
    (key, value) ∈ (text.map fun s => (k, Value.text s)).toList ↔
      key = k ∧ text.map Value.text = some value := by
  cases text with
  | none => simp
  | some s => simp [eq_comm]

theorem mem_fields {o : CheckOptions} {key : String} {value : Value} :
    (key, value) ∈ o.fields ↔ o.written? key = some value := by
  unfold fields
  rw [List.mem_append, List.mem_append, List.mem_cons, mem_toList_map_text, mem_toList_map_text,
    SoundSet.mem_fields, or_assoc]
  constructor
  · rintro (⟨rfl, h⟩ | ⟨rfl, h⟩ | h | ⟨s, rfl, h⟩)
    · simpa [written?] using h
    · simpa [written?] using h
    · cases h
      simp [written?]
    · rw [written?_key]
      exact h
  · intro h
    unfold written? at h
    split at h
    · next hkey => exact .inl ⟨hkey, h⟩
    · split at h
      · next hkey => exact .inr (.inl ⟨hkey, h⟩)
      · split at h
        · next hkey =>
          cases h
          exact .inr (.inr (.inl (by rw [hkey])))
        · obtain ⟨s, hs, h⟩ := Option.bind_eq_some_iff.mp h
          exact .inr (.inr (.inr ⟨s, SoundSet.stateOfKey?_eq_some_iff.mp hs, h⟩))

/-- **What is under a key after the typed view was written.** -/
theorem get?_applyTo (o : CheckOptions) (options : Fields) (key : String) :
    (o.applyTo options).get? key = (o.written? key).or (options.get? key) :=
  Fields.get?_merge_of_graph (fun _ _ => mem_fields) options key

/-! ## Read -/

/-- Under a key there is a text, null, or nothing. -/
def TextAt (options : Fields) (key : String) : Prop :=
  ∀ value, options.get? key = some value → value = .null ∨ ∃ s, value = .text s

/-- Under a key there is a flag, or nothing. -/
def FlagAt (options : Fields) (key : String) : Prop :=
  ∀ value, options.get? key = some value → ∃ flag, value = .bool flag

/-- Each entry that the typed view looks at has its type. -/
structure WellTyped (options : Fields) : Prop where
  objectType : TextAt options "objectType"
  filter : TextAt options "filter"
  muteAlerts : FlagAt options "muteAlerts"
  sounds : ∀ s, TextAt options (SoundSet.key s)

theorem exists_textEntry?_iff {options : Fields} {key : String} :
    (∃ entry, textEntry? options key = some entry) ↔ TextAt options key := by
  unfold TextAt textEntry?
  cases options.get? key with
  | none => simp
  | some value => cases value <;> simp

theorem exists_flagEntry?_iff {options : Fields} {key : String} :
    (∃ flag, flagEntry? options key = some flag) ↔ FlagAt options key := by
  unfold FlagAt flagEntry?
  cases options.get? key with
  | none => simp
  | some value => cases value <;> simp

/-- **When reading succeeds.** -/
theorem exists_parse?_iff {options : Fields} :
    (∃ o, parse? options = some o) ↔ WellTyped options := by
  constructor
  · rintro ⟨o, ho⟩
    obtain ⟨htype, hfilter, hmute, hsounds⟩ := parse?_eq_some_iff.mp ho
    exact ⟨exists_textEntry?_iff.mp ⟨_, htype⟩, exists_textEntry?_iff.mp ⟨_, hfilter⟩,
      exists_flagEntry?_iff.mp ⟨_, hmute⟩, fun s => exists_textEntry?_iff.mp ⟨_, hsounds s⟩⟩
  · intro h
    obtain ⟨objectType, htype⟩ := exists_textEntry?_iff.mpr h.objectType
    obtain ⟨filter, hfilter⟩ := exists_textEntry?_iff.mpr h.filter
    obtain ⟨muteAlerts, hmute⟩ := exists_flagEntry?_iff.mpr h.muteAlerts
    choose entry hentry using fun s => exists_textEntry?_iff.mpr (h.sounds s)
    refine ⟨{ objectType, filter, muteAlerts
              sounds := { ok := entry .ok, warning := entry .warning, critical := entry .critical
                          unknown := entry .unknown, up := entry .up, down := entry .down } },
      parse?_eq_some_iff.mpr ⟨htype, hfilter, hmute, fun s => ?_⟩⟩
    rw [hentry s]
    cases s <;> rfl

end CheckOptions

end StatusWall
