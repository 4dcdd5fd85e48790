import Mathlib.Data.List.Forall2
import StatusWall.Document.Dashboard
import StatusWall.Proofs.Document.Overlay

/-!
# What alerting sees of a document

Of an element, alerting sees whether its kind polls a check, and the nine entries of the options that
the typed view is made of. Two elements that agree on these are alike (`Element.AlertsAlike`): they
want the same object polled and say the same about alerts (`AlertsAlike.checkOptions?_eq`). Edits of
other entries leave an element alike to what it was, and an edit that is made to two alike elements
leaves them alike.
-/

namespace StatusWall

open Json

namespace CheckOptions

/-- The keys of the entries that the typed view is made of. -/
def keys : List String := ["objectType", "filter", "muteAlerts"] ++ CheckState.all.map SoundSet.key

/-- Every sound has its key among them. -/
theorem key_mem_keys (s : CheckState) : SoundSet.key s ∈ keys := by
  cases s <;> decide

/-- The typed view looks at nothing else. -/
theorem ofOptions_congr {options₁ options₂ : Fields}
    (h : ∀ key ∈ keys, options₁.get? key = options₂.get? key) :
    ofOptions options₁ = ofOptions options₂ := by
  have text : ∀ key ∈ keys, textEntry? options₁ key = textEntry? options₂ key := by
    intro key hkey
    unfold textEntry?
    rw [h key hkey]
  have flag : flagEntry? options₁ "muteAlerts" = flagEntry? options₂ "muteAlerts" := by
    unfold flagEntry?
    rw [h "muteAlerts" (by decide)]
  have sounds : soundEntries? options₁ = soundEntries? options₂ := by
    unfold soundEntries?
    rw [text _ (key_mem_keys .ok), text _ (key_mem_keys .warning), text _ (key_mem_keys .critical),
      text _ (key_mem_keys .unknown), text _ (key_mem_keys .up), text _ (key_mem_keys .down)]
  unfold ofOptions parse?
  rw [text "objectType" (by decide), text "filter" (by decide), flag, sounds]

end CheckOptions

namespace Element

variable {α : Type}

/-- The kinds agree on whether a check is polled, and the options on everything the typed view is
made of. -/
structure AlertsAlike (e₁ e₂ : Element α) : Prop where
  pollsCheck : e₁.kind.pollsCheck = e₂.kind.pollsCheck
  entries : ∀ key ∈ CheckOptions.keys, e₁.options.get? key = e₂.options.get? key

namespace AlertsAlike

variable {e₁ e₂ e₃ : Element α}

theorem refl (e : Element α) : e.AlertsAlike e := ⟨rfl, fun _ _ => rfl⟩

theorem symm (h : e₁.AlertsAlike e₂) : e₂.AlertsAlike e₁ :=
  ⟨h.pollsCheck.symm, fun key hkey => (h.entries key hkey).symm⟩

theorem trans (h : e₁.AlertsAlike e₂) (h' : e₂.AlertsAlike e₃) : e₁.AlertsAlike e₃ :=
  ⟨h.pollsCheck.trans h'.pollsCheck, fun key hkey => (h.entries key hkey).trans (h'.entries key hkey)⟩

/-- Alike elements have one typed view. -/
theorem checkOptions?_eq (h : e₁.AlertsAlike e₂) : e₁.checkOptions? = e₂.checkOptions? := by
  unfold checkOptions?
  rw [h.pollsCheck, CheckOptions.ofOptions_congr h.entries]

/-- A change to one kind makes any two elements alike: it sets their options anew. -/
theorem changeKind [Geometry.Scalar α] (kind : ElementKind) :
    (e₁.changeKind kind).AlertsAlike (e₂.changeKind kind) := ⟨rfl, fun _ _ => rfl⟩

/-- An edit of the options that looks at nothing but the entries it keeps or writes. -/
theorem withOptions (h : e₁.AlertsAlike e₂) {change : Fields → Fields}
    (hchange : ∀ key, e₁.options.get? key = e₂.options.get? key →
      (change e₁.options).get? key = (change e₂.options).get? key) :
    ({ e₁ with options := change e₁.options } : Element α).AlertsAlike
      { e₂ with options := change e₂.options } :=
  ⟨h.pollsCheck, fun key hkey => hchange key (h.entries key hkey)⟩

end AlertsAlike

end Element

/-- Writing the same entries over two maps. -/
theorem Json.Fields.get?_merge_congr {fields₁ fields₂ : Fields} {key : String}
    (h : fields₁.get? key = fields₂.get? key) (update : Fields) :
    (fields₁.merge update).get? key = (fields₂.merge update).get? key := by
  rw [get?_merge, get?_merge, h]

/-- Writing entries under other keys. -/
theorem Json.Fields.get?_merge_of_ne {update : Fields} {key : String}
    (h : ∀ f ∈ update, f.1 ≠ key) (fields : Fields) :
    (fields.merge update).get? key = fields.get? key := by
  have hlookup : update.reverse.lookup key = none := by
    refine List.lookup_eq_none_iff.mpr fun f hf => ?_
    exact bne_iff_ne.mpr (h f (List.mem_reverse.mp hf)).symm
  rw [get?_merge, hlookup, Option.none_or]

/-- Binding two maps to the same target, when their typed view was the same. -/
theorem Element.get?_boundOptions_congr {options₁ options₂ : Fields} {key : String}
    (h : options₁.get? key = options₂.get? key) (check : CheckOptions)
    (target : Option CheckTarget) :
    (boundOptions options₁ check target).get? key = (boundOptions options₂ check target).get? key := by
  unfold boundOptions CheckOptions.applyTo
  refine Fields.get?_merge_congr ?_ _
  split
  · rw [Fields.get?_without, Fields.get?_without, Fields.get?_without, Fields.get?_without, h]
  · exact h

/-- An update of other entries leaves the element alike to what it was. -/
theorem Element.AlertsAlike.updateOptions_other {α : Type} (e : Element α) {update : Fields}
    (h : ∀ f ∈ update, f.1 ∉ CheckOptions.keys) : (e.updateOptions update).AlertsAlike e :=
  ⟨rfl, fun _ hkey => Fields.get?_merge_of_ne (fun f hf heq => h f hf (heq ▸ hkey)) e.options⟩

/-! ## Lists of elements -/

section Lists

variable {β γ : Type} {R : β → γ → Prop} {l : List β} {m : List γ}

theorem forall₂_trans {R : β → β → Prop} (hR : ∀ a b c, R a b → R b c → R a c) {l m n : List β}
    (hlm : List.Forall₂ R l m) (hmn : List.Forall₂ R m n) : List.Forall₂ R l n := by
  induction hlm generalizing n with
  | nil => exact hmn
  | cons hab _ ih =>
    cases hmn with
    | cons hbc hmn => exact .cons (hR _ _ _ hab hbc) (ih hmn)

/-- Two lists that are related stay so if the same place is edited in both. -/
theorem forall₂_modify (h : List.Forall₂ R l m) {f : β → β} {g : γ → γ}
    (hfg : ∀ a b, R a b → R (f a) (g b)) (i : Nat) :
    List.Forall₂ R (l.modify i f) (m.modify i g) := by
  induction h generalizing i with
  | nil =>
    rw [List.modify_nil, List.modify_nil]
    exact .nil
  | cons hab h ih =>
    cases i with
    | zero => exact .cons (hfg _ _ hab) h
    | succ i => exact .cons hab (ih i)

/-- Two lists that are related stay so if the same place is taken out of both. -/
theorem forall₂_eraseIdx (h : List.Forall₂ R l m) (i : Nat) :
    List.Forall₂ R (l.eraseIdx i) (m.eraseIdx i) := by
  induction h generalizing i with
  | nil => exact .nil
  | cons hab h ih =>
    cases i with
    | zero => exact h
    | succ i => exact .cons hab (ih i)

/-- Two lists that are related stay so if related entries are put in at the same place. -/
theorem forall₂_insertIdx (h : List.Forall₂ R l m) {a : β} {b : γ} (hab : R a b) (i : Nat) :
    List.Forall₂ R (l.insertIdx i a) (m.insertIdx i b) := by
  induction h generalizing i with
  | nil => cases i with
    | zero => exact .cons hab .nil
    | succ i => exact .nil
  | cons hhead h ih =>
    cases i with
    | zero => exact .cons hab (.cons hhead h)
    | succ i => exact .cons hhead (ih i)

theorem forall₂_getElem? (h : List.Forall₂ R l m) (i : Nat) : Option.Rel R l[i]? m[i]? := by
  induction h generalizing i with
  | nil => exact .none
  | cons hab h ih =>
    cases i with
    | zero => exact .some hab
    | succ i => exact ih i

/-- Two lists that are related stay so if the same move is made in both. -/
theorem forall₂_moveEntry (h : List.Forall₂ R l m) (source destination : Nat) :
    List.Forall₂ R (Dashboard.moveEntry l source destination)
      (Dashboard.moveEntry m source destination) := by
  unfold Dashboard.moveEntry
  have hsource := forall₂_getElem? h source
  revert hsource
  generalize l[source]? = a
  generalize m[source]? = b
  rintro (hab | -)
  · exact forall₂_insertIdx (forall₂_eraseIdx h source) hab destination
  · exact h

end Lists

namespace Dashboard

variable {α : Type}

/-- The documents have one slug and as many elements as each other, alike one by one. -/
structure AlertsAlike (d₁ d₂ : Dashboard α) : Prop where
  slug : d₁.slug = d₂.slug
  elements : List.Forall₂ Element.AlertsAlike d₁.elements d₂.elements

namespace AlertsAlike

variable {d₁ d₂ d₃ : Dashboard α}

theorem refl (d : Dashboard α) : d.AlertsAlike d :=
  ⟨rfl, List.forall₂_same.mpr fun e _ => .refl e⟩

theorem trans (h : d₁.AlertsAlike d₂) (h' : d₂.AlertsAlike d₃) : d₁.AlertsAlike d₃ :=
  ⟨h.slug.trans h'.slug, forall₂_trans (fun _ _ _ => .trans) h.elements h'.elements⟩

theorem symm (h : d₁.AlertsAlike d₂) : d₂.AlertsAlike d₁ :=
  ⟨h.slug.symm, .flip (h.elements.imp fun _ _ => .symm)⟩

/-- The typed views at a place. -/
theorem checkOptions?_eq (h : d₁.AlertsAlike d₂) (i : Nat) :
    d₁.elements[i]?.bind Element.checkOptions? = d₂.elements[i]?.bind Element.checkOptions? := by
  have hi := forall₂_getElem? h.elements i
  revert hi
  generalize d₁.elements[i]? = e₁
  generalize d₂.elements[i]? = e₂
  rintro (he | -)
  · exact he.checkOptions?_eq
  · rfl

end AlertsAlike

end Dashboard

end StatusWall
