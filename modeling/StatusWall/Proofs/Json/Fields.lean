import Mathlib.Data.String.Basic
import StatusWall.Json.Value

/-!
# Fields in order

Storing a value keeps the fields in ascending order (`Sorted.put`), so every list of fields that was
stored into an empty one is in order (`sorted_ofList`). The order in which fields of different keys are
stored does not matter (`Sorted.merge_eq`), and fields that are in order already stay as they are when
they are stored again one by one (`Sorted.ofList_eq`).
-/

namespace StatusWall.Json.Fields

variable {fields : Fields} {key : String} {value : Value}

/-- After a value was stored there is nothing but it and what was there. -/
theorem mem_put {f : String × Value} (h : f ∈ fields.put key value) : f = (key, value) ∨ f ∈ fields := by
  induction fields with
  | nil => exact .inl (List.mem_singleton.mp h)
  | cons g rest ih =>
    obtain ⟨k, v⟩ := g
    unfold put at h
    split at h
    · exact (List.mem_cons.mp h).imp_right (List.mem_cons_of_mem _)
    · split at h
      · exact List.mem_cons.mp h
      · rcases List.mem_cons.mp h with rfl | hrest
        · exact .inr List.mem_cons_self
        · exact (ih hrest).imp_right (List.mem_cons_of_mem _)

/-- **Storing a value keeps the order.** -/
theorem Sorted.put (h : Sorted fields) (key : String) (value : Value) :
    Sorted (fields.put key value) := by
  induction fields with
  | nil => exact List.pairwise_singleton _ _
  | cons f rest ih =>
    obtain ⟨k, v⟩ := f
    obtain ⟨hfirst, hrest⟩ := List.pairwise_cons.mp h
    unfold Fields.put
    split
    · next heq => exact List.pairwise_cons.mpr ⟨fun g hg => heq ▸ hfirst g hg, hrest⟩
    · next hne =>
      split
      · next hlt =>
        refine List.pairwise_cons.mpr ⟨fun g hg => ?_, h⟩
        rcases List.mem_cons.mp hg with rfl | hg
        · exact hlt
        · exact lt_trans hlt (hfirst g hg)
      · next hge =>
        refine List.pairwise_cons.mpr ⟨fun g hg => ?_, ih hrest⟩
        rcases mem_put hg with rfl | hg
        · exact lt_of_le_of_ne (not_lt.mp hge) hne
        · exact hfirst g hg

/-- So does storing one value after the other. -/
theorem Sorted.merge (h : Sorted fields) (update : Fields) : Sorted (fields.merge update) := by
  unfold Fields.merge
  induction update generalizing fields with
  | nil => exact h
  | cons f update ih => exact ih (h.put f.1 f.2)

/-- What is stored into an empty list one after the other is in order. -/
theorem sorted_ofList (pairs : List (String × Value)) : Sorted (ofList pairs) :=
  Sorted.merge List.Pairwise.nil pairs

/-! ## Fields that are in order already -/

theorem put_perm (h : ∀ f ∈ fields, f.1 ≠ key) : (fields.put key value).Perm ((key, value) :: fields) := by
  induction fields with
  | nil => exact .refl _
  | cons f rest ih =>
    obtain ⟨k, v⟩ := f
    obtain ⟨hfirst, hrest⟩ := List.forall_mem_cons.mp h
    rw [put, if_neg hfirst]
    split
    · exact .refl _
    · exact ((ih hrest).cons _).trans (.swap _ _ _)

/-- Under keys that are all different, nothing that is stored takes the place of anything else. -/
theorem merge_perm {update : Fields} (h : ((fields ++ update).map Prod.fst).Nodup) :
    (fields.merge update).Perm (fields ++ update) := by
  unfold merge
  induction update generalizing fields with
  | nil => exact .of_eq (List.append_nil fields).symm
  | cons f update ih =>
    have hmiddle : (fields ++ f :: update).Perm (f :: (fields ++ update)) := List.perm_middle
    have hnodup : (f.1 :: (fields ++ update).map Prod.fst).Nodup := (hmiddle.map Prod.fst).nodup_iff.mp h
    have habsent : ∀ g ∈ fields, g.1 ≠ f.1 := fun g hg heq =>
      (List.nodup_cons.mp hnodup).1 (heq ▸ List.mem_map_of_mem (List.mem_append_left _ hg))
    have hput : (fields.put f.1 f.2 ++ update).Perm (f :: (fields ++ update)) :=
      (put_perm habsent).append_right update
    exact (ih ((hput.map Prod.fst).nodup_iff.mpr hnodup)).trans (hput.trans hmiddle.symm)

/-- Fields in order have keys that are all different. -/
theorem Sorted.nodup (h : Sorted fields) : (fields.map Prod.fst).Nodup :=
  List.pairwise_map.mpr (h.imp ne_of_lt)

/-- **Storing yields the fields in order**, whatever the order they are stored in. -/
theorem Sorted.merge_eq {update stored : Fields} (h : Sorted fields) (hstored : Sorted stored)
    (hperm : stored.Perm (fields ++ update)) : fields.merge update = stored := by
  have hnodup := (hperm.map Prod.fst).nodup_iff.mp hstored.nodup
  exact ((merge_perm hnodup).trans hperm.symm).eq_of_pairwise
    (fun _ _ _ _ hlt hgt => absurd hlt hgt.not_gt) (h.merge update) hstored

/-- Fields in order are stored in order. -/
theorem Sorted.ofList_eq (h : Sorted fields) : ofList fields = fields :=
  Sorted.merge_eq List.Pairwise.nil h (.refl _)

/-! ## Values in order -/

theorem canonicalFields_iff {fields : Fields} :
    canonicalFields fields ↔ ∀ f ∈ fields, f.2.Canonical := by
  induction fields with
  | nil => exact ⟨fun _ => List.forall_mem_nil _, fun _ => trivial⟩
  | cons f rest ih =>
    rw [List.forall_mem_cons, ← ih]
    rfl

theorem mem_merge {fields update : Fields} {f : String × Value} (h : f ∈ fields.merge update) :
    f ∈ fields ∨ f ∈ update := by
  unfold merge at h
  induction update generalizing fields with
  | nil => exact .inl h
  | cons g update ih =>
    rcases ih h with hput | hrest
    · rcases mem_put hput with rfl | hmem
      · exact .inr List.mem_cons_self
      · exact .inl hmem
    · exact .inr (List.mem_cons_of_mem _ hrest)

/-- **An object that was put together from values in order is in order.** -/
theorem canonical_ofList {pairs : List (String × Value)} (h : canonicalFields pairs) :
    (Value.object (ofList pairs)).Canonical := by
  refine ⟨sorted_ofList pairs, canonicalFields_iff.mpr fun f hf => ?_⟩
  rcases mem_merge hf with hnil | hmem
  · exact absurd hnil List.not_mem_nil
  · exact canonicalFields_iff.mp h f hmem

end StatusWall.Json.Fields
