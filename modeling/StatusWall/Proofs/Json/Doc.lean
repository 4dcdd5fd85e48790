import StatusWall.Json.Doc
import StatusWall.Proofs.Json.Fields
import StatusWall.Proofs.Json.Number

/-!
# Values read from documents

A value in order that is met as a document is read back as it is (`toValue_ofValue`), and whatever is
read from any document is in order (`canonical_of_toValue`).

`InRange` says of a value or a document that each of its numbers is one that JSON has. What a shape
makes of such a document can be told field by field (`foldFields_induction`) and item by item
(`forall_of_asList`).
-/

namespace StatusWall.Json

/-! ## Results -/

/-- Two steps succeed if the first does and the second does with its result. -/
theorem bind_eq_ok {ε α β : Type} {x : Except ε α} {f : α → Except ε β} {b : β} :
    x >>= f = .ok b ↔ ∃ a, x = .ok a ∧ f a = .ok b := by
  cases x with
  | error e => exact ⟨nofun, fun ⟨_, h, _⟩ => nomatch h⟩
  | ok a => exact ⟨fun h => ⟨a, rfl, h⟩, fun ⟨_, h, hf⟩ => Except.ok.inj h ▸ hf⟩

/-- A mapped step succeeds if the step does. -/
theorem map_eq_ok {ε α β : Type} {x : Except ε α} {f : α → β} {b : β} :
    x.map f = .ok b ↔ ∃ a, x = .ok a ∧ f a = b := by
  cases x with
  | error e => exact ⟨nofun, fun ⟨_, h, _⟩ => nomatch h⟩
  | ok a =>
    exact ⟨fun h => ⟨a, rfl, Except.ok.inj h⟩,
      fun ⟨_, h, hf⟩ => congrArg Except.ok (Except.ok.inj h ▸ hf)⟩

namespace Doc

/-! ## Reading a value back -/

mutual

/-- **A value in order is read back as it is.** -/
theorem toValue_ofValue : ∀ {v : Value}, v.Canonical → (ofValue v).toValue .value = .ok v
  | .null, _ => rfl
  | .bool _, _ => rfl
  | .number _, _ => rfl
  | .text _, _ => rfl
  | .array items, h => by
    show (toValues .value (ofItems items) >>= fun vs => pure (Value.array vs)) = _
    rw [toValues_ofItems h]
    rfl
  | .object fields, h => by
    show (toPairs .value (ofFields fields) >>= fun pairs =>
      pure (Value.object (Fields.ofList pairs))) = _
    rw [toPairs_ofFields h.2]
    exact congrArg (fun fs => Except.ok (Value.object fs)) h.1.ofList_eq

/-- Items in order are read back one by one. -/
theorem toValues_ofItems : ∀ {items : List Value}, canonicalItems items →
    toValues .value (ofItems items) = .ok items
  | [], _ => rfl
  | v :: items, h => by
    unfold ofItems toValues
    rw [toValue_ofValue h.1, toValues_ofItems h.2]
    rfl

/-- Fields are read back in the order they are met in. -/
theorem toPairs_ofFields : ∀ {fields : List (String × Value)}, canonicalFields fields →
    toPairs .value (ofFields fields) = .ok fields
  | [], _ => rfl
  | (k, v) :: fields, h => by
    unfold ofFields toPairs
    rw [toValue_ofValue h.1, toPairs_ofFields h.2]
    rfl

end

/-! ## What is read is in order -/

mutual

/-- **What is read is in order.** -/
theorem canonical_of_toValue {origin : Origin} : ∀ {d : Doc} {v : Value},
    d.toValue origin = .ok v → v.Canonical
  | .stop _, _, h => nomatch h
  | .null, _, h => Except.ok.inj h ▸ trivial
  | .bool _, _, h => Except.ok.inj h ▸ trivial
  | .number _, _, h => by
    obtain ⟨_, _, rfl⟩ := map_eq_ok.mp h
    trivial
  | .text _, _, h => by
    obtain ⟨_, _, rfl⟩ := map_eq_ok.mp h
    trivial
  | .array items fin, _, h => by
    unfold toValue at h
    obtain ⟨_, -, h⟩ := bind_eq_ok.mp h
    obtain ⟨vs, hvs, h⟩ := bind_eq_ok.mp h
    obtain ⟨_, -, h⟩ := bind_eq_ok.mp h
    exact Except.ok.inj h ▸ canonicalItems_of_toValues hvs
  | .object fields fin, _, h => by
    unfold toValue at h
    obtain ⟨_, -, h⟩ := bind_eq_ok.mp h
    obtain ⟨pairs, hpairs, h⟩ := bind_eq_ok.mp h
    obtain ⟨_, -, h⟩ := bind_eq_ok.mp h
    exact Except.ok.inj h ▸ Fields.canonical_ofList (canonicalFields_of_toPairs hpairs)

theorem canonicalItems_of_toValues {origin : Origin} : ∀ {items : List Doc} {vs : List Value},
    toValues origin items = .ok vs → canonicalItems vs
  | [], _, h => Except.ok.inj h ▸ trivial
  | d :: items, _, h => by
    unfold toValues at h
    obtain ⟨v, hv, h⟩ := bind_eq_ok.mp h
    obtain ⟨vs, hvs, h⟩ := bind_eq_ok.mp h
    exact Except.ok.inj h ▸ ⟨canonical_of_toValue hv, canonicalItems_of_toValues hvs⟩

theorem canonicalFields_of_toPairs {origin : Origin} : ∀ {fields : List (Lexeme String × Doc)}
    {pairs : List (String × Value)}, toPairs origin fields = .ok pairs → canonicalFields pairs
  | [], _, h => Except.ok.inj h ▸ trivial
  | (key, d) :: fields, _, h => by
    unfold toPairs at h
    obtain ⟨k, -, h⟩ := bind_eq_ok.mp h
    obtain ⟨v, hv, h⟩ := bind_eq_ok.mp h
    obtain ⟨pairs, hpairs, h⟩ := bind_eq_ok.mp h
    exact Except.ok.inj h ▸ ⟨canonical_of_toValue hv, canonicalFields_of_toPairs hpairs⟩

end

end Doc

/-! ## Numbers in range -/

mutual

/-- Each number of the value is one that JSON has. -/
def Value.InRange : Value → Prop
  | .number n => n.InRange
  | .array items => itemsInRange items
  | .object fields => fieldsInRange fields
  | _ => True

/-- Each number of the items is one that JSON has. -/
def itemsInRange : List Value → Prop
  | [] => True
  | v :: rest => v.InRange ∧ itemsInRange rest

/-- Each number of the fields' values is one that JSON has. -/
def fieldsInRange : List (String × Value) → Prop
  | [] => True
  | (_, v) :: rest => v.InRange ∧ fieldsInRange rest

end

namespace Doc

mutual

/-- Each number that the strict reading of the document yields is one that JSON has. -/
def InRange : Doc → Prop
  | .number n => ∀ m, n.strict = .ok m → m.InRange
  | .array items _ => ItemsInRange items
  | .object fields _ => FieldsInRange fields
  | _ => True

/-- Each number that the strict reading of the items yields is one that JSON has. -/
def ItemsInRange : List Doc → Prop
  | [] => True
  | d :: rest => d.InRange ∧ ItemsInRange rest

/-- Each number that the strict reading of the fields' values yields is one that JSON has. -/
def FieldsInRange : List (Lexeme String × Doc) → Prop
  | [] => True
  | (_, d) :: rest => d.InRange ∧ FieldsInRange rest

end

mutual

/-- A value in range, met as a document, is in range. -/
theorem inRange_ofValue : ∀ {v : Value}, v.InRange → (ofValue v).InRange
  | .null, _ | .bool _, _ | .text _, _ => trivial
  | .number _, h => fun _ hm => Except.ok.inj hm ▸ h
  | .array _, h => itemsInRange_ofItems h
  | .object _, h => fieldsInRange_ofFields h

theorem itemsInRange_ofItems : ∀ {items : List Value}, itemsInRange items →
    ItemsInRange (ofItems items)
  | [], _ => trivial
  | _ :: _, h => ⟨inRange_ofValue h.1, itemsInRange_ofItems h.2⟩

theorem fieldsInRange_ofFields : ∀ {fields : List (String × Value)}, fieldsInRange fields →
    FieldsInRange (ofFields fields)
  | [], _ => trivial
  | (_, _) :: _, h => ⟨inRange_ofValue h.1, fieldsInRange_ofFields h.2⟩

end

/-- A double that is read from a number in range is finite. -/
theorem InRange.isFinite_of_asFloat {d : Doc} (h : d.InRange) {x : Float} (hx : d.asFloat = .ok x) :
    x.isFinite = true := by
  cases d with
  | number n =>
    obtain ⟨m, hm, rfl⟩ := map_eq_ok.mp hx
    exact (h m hm).isFinite_toFloat
  | _ => cases hx

/-! ## Shapes -/

/-- An empty place takes what is read. -/
theorem fill_none {α : Type} (name : String) {read : Except Fault α} {a : α} (h : read = .ok a) :
    fill name none read = .ok (some a) := by
  rw [h]
  rfl

/-- What is in a place, if anything is, has a property. -/
def Holds {α : Type} (P : α → Prop) : Option α → Prop
  | none => True
  | some a => P a

theorem Holds.getD {α : Type} {P : α → Prop} {place : Option α} (h : Holds P place) {default : α}
    (hdefault : P default) : P (place.getD default) := by
  cases place with
  | none => exact hdefault
  | some a => exact h

/-- What fills a place was read. -/
theorem holds_of_fill {α : Type} {P : α → Prop} {name : String} {place filled : Option α}
    {read : Except Fault α} (hread : ∀ a, read = .ok a → P a) (h : fill name place read = .ok filled) :
    Holds P filled := by
  cases place with
  | none =>
    obtain ⟨a, ha, rfl⟩ := map_eq_ok.mp h
    exact hread a ha
  | some _ => cases h

/-- What a required place holds has the property of the place. -/
theorem holds_of_require {α : Type} {P : α → Prop} {name : String} {place : Option α}
    (hplace : Holds P place) {a : α} (h : require name place = .ok a) : P a := by
  cases place with
  | none => cases h
  | some b => exact Except.ok.inj h ▸ hplace

/-- The next item of a list in range has what every item that is read has, and the rest is in range.
-/
theorem holds_of_nextItem {α : Type} {P : α → Prop} {read : Doc → Except Fault α}
    (hread : ∀ d a, d.InRange → read d = .ok a → P a) {items rest : List Doc}
    {fin : Except Fault Unit} (hitems : ItemsInRange items) {a? : Option α}
    (h : nextItem read items fin = .ok (a?, rest)) : Holds P a? ∧ ItemsInRange rest := by
  cases items with
  | nil =>
    obtain ⟨_, -, h⟩ := bind_eq_ok.mp h
    cases h
    exact ⟨trivial, trivial⟩
  | cons d items =>
    obtain ⟨a, ha, h⟩ := bind_eq_ok.mp h
    cases h
    exact ⟨hread d a hitems.1 ha, hitems.2⟩

theorem holds_of_optional {α : Type} {P : α → Prop} {read : Doc → Except Fault α} {d : Doc}
    (hread : ∀ a, read d = .ok a → P a) {a? : Option α} (h : d.optional read = .ok a?) :
    Holds P a? := by
  unfold optional at h
  split at h
  · exact Except.ok.inj h ▸ trivial
  · obtain ⟨a, ha, rfl⟩ := map_eq_ok.mp h
    exact hread a ha

/-- What every field keeps, all fields keep. -/
theorem foldFields_induction {σ : Type} {step : σ → String → Doc → Except Fault σ} {P : σ → Prop}
    (hstep : ∀ s k d s', d.InRange → P s → step s k d = .ok s' → P s') {s s' : σ}
    {fields : List (Lexeme String × Doc)} (hfields : FieldsInRange fields) (hs : P s)
    (h : foldFields step s fields = .ok s') : P s' := by
  induction fields generalizing s with
  | nil => exact Except.ok.inj h ▸ hs
  | cons f rest ih =>
    obtain ⟨key, d⟩ := f
    obtain ⟨k, -, h⟩ := bind_eq_ok.mp h
    obtain ⟨t, ht, h⟩ := bind_eq_ok.mp h
    exact ih hfields.2 (hstep s k d t hfields.1 hs ht) h

/-- The fields of a value are met one by one. -/
theorem foldFields_cons {σ : Type} {step : σ → String → Doc → Except Fault σ} {s s' : σ} {k : String}
    {v : Value} (h : step s k (ofValue v) = .ok s') (rest : Fields) :
    foldFields step s (ofFields ((k, v) :: rest)) = foldFields step s' (ofFields rest) := by
  show (step s k (ofValue v) >>= fun s => foldFields step s (ofFields rest)) = _
  rw [h]
  rfl

/-- What every item has that is read, all items of a list have. -/
theorem forall_of_readItems {α : Type} {read : Doc → Except Fault α} {P : α → Prop}
    (hread : ∀ d a, d.InRange → read d = .ok a → P a) {items : List Doc} (hitems : ItemsInRange items)
    {as : List α} (h : readItems read items = .ok as) : ∀ a ∈ as, P a := by
  induction items generalizing as with
  | nil => exact Except.ok.inj h ▸ List.forall_mem_nil _
  | cons d rest ih =>
    obtain ⟨a, ha, h⟩ := bind_eq_ok.mp h
    obtain ⟨as, has, h⟩ := bind_eq_ok.mp h
    exact Except.ok.inj h ▸ List.forall_mem_cons.mpr ⟨hread d a hitems.1 ha, ih hitems.2 has⟩

theorem forall_of_asList {α : Type} {origin : Origin} {read : Origin → Doc → Except Fault α}
    {P : α → Prop} (hread : ∀ origin d a, d.InRange → read origin d = .ok a → P a) {d : Doc}
    (hd : d.InRange) {as : List α} (h : asList origin read d = .ok as) : ∀ a ∈ as, P a := by
  cases d with
  | array items fin =>
    obtain ⟨inner, -, h⟩ := bind_eq_ok.mp h
    obtain ⟨as, has, h⟩ := bind_eq_ok.mp h
    obtain ⟨_, -, h⟩ := bind_eq_ok.mp h
    exact Except.ok.inj h ▸ forall_of_readItems (hread inner) hd has
  | _ => cases h

/-- Items are read back if each of them is. -/
theorem readItems_ofItems {α : Type} {read : Doc → Except Fault α} {write : α → Value} {as : List α}
    (h : ∀ a ∈ as, read (ofValue (write a)) = .ok a) :
    readItems read (ofItems (as.map write)) = .ok as := by
  induction as with
  | nil => rfl
  | cons a as ih =>
    obtain ⟨ha, has⟩ := List.forall_mem_cons.mp h
    show (read (ofValue (write a)) >>= fun a => readItems read (ofItems (as.map write)) >>= fun as =>
      pure (a :: as)) = _
    rw [ha, ih has]
    rfl

/-- **A list is read back if its items are.** -/
theorem asList_ofValue {α : Type} {read : Origin → Doc → Except Fault α} {write : α → Value}
    {as : List α} (h : ∀ a ∈ as, read .value (ofValue (write a)) = .ok a) :
    asList .value read (ofValue (.array (as.map write))) = .ok as := by
  show (readItems (read .value) (ofItems (as.map write)) >>= fun as => pure as) = _
  rw [readItems_ofItems h]
  rfl

/-- A place for a list that may be null. -/
theorem fill_asList {α : Type} (name : String) (read : Origin → Doc → Except Fault α)
    {write : α → Value} {as : List α} (h : ∀ a ∈ as, read .value (ofValue (write a)) = .ok a) :
    fill name none (((ofValue (.array (as.map write))).optional (asList .value read)).map (·.getD [])) =
      .ok (some as) :=
  fill_none name (congrArg (fun r => (r.map some).map (·.getD [])) (asList_ofValue h))

end Doc

end StatusWall.Json
