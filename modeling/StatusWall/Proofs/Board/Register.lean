import StatusWall.Proofs.Board.Entries

/-!
# Registers

A register is what a board is meant to be: an ordered map from numbers to elements. Its operations
know no places. An entry is found, edited, removed and moved by its number, and a new entry comes
last, under a number that was never given out.

`Register.find?_apply` says what becomes of a number under a command, and `Register.find?_replay`
what becomes of it under many. The second half of the lemmas about lists turns operations at a place
into operations by key; that a board's two lists are a register is the business of the modules that
use this one.
-/

namespace StatusWall

open Json StatusWall.Geometry

/-! ## Lists with keys -/

section Keys

variable {β γ : Type} [DecidableEq γ] {key : β → γ} {l : List β} {i : Nat} {a : β}

omit [DecidableEq γ] in
/-- The key of a place is the key of no other place. -/
theorem key_ne_of_nodup (hl : (l.map key).Nodup) (ha : l[i]? = some a) {j : Nat} {x : β}
    (hx : l[j]? = some x) (hij : i ≠ j) : key x ≠ key a := by
  intro heq
  have hi : (l.map key)[i]? = some (key a) := by rw [List.getElem?_map, ha]; rfl
  have hj : (l.map key)[j]? = some (key a) := by rw [List.getElem?_map, hx, ← heq]; rfl
  have hlt : i < (l.map key).length := (List.getElem?_eq_some_iff.mp hi).1
  exact hij ((List.getElem?_inj hlt hl).mp (hi.trans hj.symm))

/-- Changing the entry at a place is changing the entry with its key. -/
theorem modify_eq_map (hl : (l.map key).Nodup) (ha : l[i]? = some a) (f : β → β) :
    l.modify i f = l.map fun x => if key x = key a then f x else x := by
  apply List.ext_getElem?
  intro j
  rw [List.getElem?_modify, List.getElem?_map]
  cases hx : l[j]? with
  | none => rfl
  | some x =>
    by_cases hij : i = j
    · subst hij
      cases ha.symm.trans hx
      simp
    · have hne := key_ne_of_nodup hl ha hx hij
      simp [hij, hne]

/-- Taking out the entry at a place is leaving out the entry with its key. -/
theorem eraseIdx_eq_filter (hl : (l.map key).Nodup) (ha : l[i]? = some a) :
    l.eraseIdx i = l.filter fun x => key x ≠ key a := by
  induction l generalizing i with
  | nil => rfl
  | cons x l ih =>
    rw [List.map_cons, List.nodup_cons] at hl
    cases i with
    | zero =>
      obtain rfl : x = a := Option.some.inj ha
      have hrest : ∀ y ∈ l, key y ≠ key x := fun y hy heq =>
        hl.1 (heq ▸ List.mem_map_of_mem hy)
      have hkept : (l.filter fun y => key y ≠ key x) = l :=
        List.filter_eq_self.mpr fun y hy => decide_eq_true (hrest y hy)
      rw [List.filter_cons_of_neg (by simp), hkept]
      rfl
    | succ i =>
      have hmem : a ∈ l := List.mem_of_getElem? (i := i) ha
      have hne : key x ≠ key a := fun heq => hl.1 (heq ▸ List.mem_map_of_mem hmem)
      rw [List.filter_cons_of_pos (by simpa using hne)]
      exact congrArg (x :: ·) (ih hl.2 ha)

omit [DecidableEq γ] in
/-- An entry that is put in is not seen by a filter that leaves it out. -/
theorem filter_insertIdx_of_neg {p : β → Bool} (ha : ¬ p a = true) (l : List β) (i : Nat) :
    (l.insertIdx i a).filter p = l.filter p := by
  induction l generalizing i with
  | nil =>
    cases i with
    | zero => exact List.filter_cons_of_neg ha
    | succ i => rfl
  | cons x l ih =>
    cases i with
    | zero => exact List.filter_cons_of_neg ha
    | succ i =>
      rw [List.insertIdx_succ_cons, List.filter_cons, List.filter_cons, ih]

/-- With different keys, looking up finds every entry. -/
theorem lookup_eq_some_iff_mem {rows : List (γ × β)} (h : (rows.map (·.1)).Nodup) {k : γ} {v : β} :
    rows.lookup k = some v ↔ (k, v) ∈ rows := by
  rw [List.lookup_eq_some_iff]
  constructor
  · rintro ⟨pre, post, rfl, -⟩
    simp
  · intro hmem
    obtain ⟨pre, post, rfl⟩ := List.append_of_mem hmem
    refine ⟨pre, post, rfl, fun p hp => ?_⟩
    rw [List.map_append, List.nodup_append] at h
    have hne := h.2.2 p.1 (List.mem_map_of_mem hp) k (by simp)
    simpa using hne.symm

end Keys

/-! ## Registers -/

/-- An ordered map from numbers to elements, and the number that comes next. -/
structure Register (α : Type) where
  rows : List (WidgetId × Element α)
  next : Nat

namespace Register

variable {α : Type}

/-- The numbers, in order. -/
def keys (r : Register α) : List WidgetId := r.rows.map (·.1)

/-- The element under a number. -/
def find? (r : Register α) (id : WidgetId) : Option (Element α) := r.rows.lookup id

/-- Appends an element under the next number. -/
def append (r : Register α) (e : Element α) : Register α :=
  { rows := r.rows ++ [(⟨r.next⟩, e)], next := r.next + 1 }

/-- Removes the entry of a number. -/
def remove (r : Register α) (id : WidgetId) : Register α :=
  { r with rows := r.rows.filter (·.1 ≠ id) }

/-- Edits the element under a number. -/
def update (r : Register α) (id : WidgetId) (edit : Element α → Element α) : Register α :=
  { r with rows := r.rows.map fun p => if p.1 = id then (p.1, edit p.2) else p }

/-- Moves the entry of a number so that it ends up at a place. -/
def move (r : Register α) (id : WidgetId) (destination : Nat) : Register α :=
  match r.find? id with
  | some e =>
    if destination < r.rows.length then
      { r with rows := (r.remove id).rows.insertIdx destination (id, e) }
    else r
  | none => r

/-- The numbers are all different, and were all given out. -/
structure Valid (r : Register α) : Prop where
  nodup : r.keys.Nodup
  fresh : ∀ id ∈ r.keys, id.number < r.next

end Register

/-! ## Commands -/

namespace Element

variable {α : Type}

/-- Binds a check to an object, or unbinds it; an element that is no check stays as it is. -/
def bound (e : Element α) (target : Option CheckTarget) : Element α :=
  match e.checkOptions? with
  | none => e
  | some check => { e with options := boundOptions e.options check target }

/-- Sets a check's own sound for a state; an element that is no check stays as it is. -/
def withSound (e : Element α) (state : CheckState) (url : String) : Element α :=
  match e.checkOptions? with
  | none => e
  | some _ => e.updateOptions [(SoundSet.key state, .text url)]

@[simp] theorem bound_rect (e : Element α) (target : Option CheckTarget) :
    (e.bound target).rect = e.rect := by
  unfold bound
  cases e.checkOptions? with
  | none => rfl
  | some _ => rfl

@[simp] theorem withSound_rect (e : Element α) (state : CheckState) (url : String) :
    (e.withSound state url).rect = e.rect := by
  unfold withSound
  cases e.checkOptions? with
  | none => rfl
  | some _ => rfl

@[simp] theorem bound_kind (e : Element α) (target : Option CheckTarget) :
    (e.bound target).kind = e.kind := by
  unfold bound
  cases e.checkOptions? with
  | none => rfl
  | some _ => rfl

@[simp] theorem withSound_kind (e : Element α) (state : CheckState) (url : String) :
    (e.withSound state url).kind = e.kind := by
  unfold withSound
  cases e.checkOptions? with
  | none => rfl
  | some _ => rfl

@[simp] theorem bound_rotation (e : Element α) (target : Option CheckTarget) :
    (e.bound target).rotation = e.rotation := by
  unfold bound
  cases e.checkOptions? with
  | none => rfl
  | some _ => rfl

@[simp] theorem withSound_rotation (e : Element α) (state : CheckState) (url : String) :
    (e.withSound state url).rotation = e.rotation := by
  unfold withSound
  cases e.checkOptions? with
  | none => rfl
  | some _ => rfl

end Element

namespace BoardCommand

variable {α : Type} [Scalar α]

/-- The widget whose element a command edits while a certain gesture runs, if it edits one, and the
edit. -/
def edit? (c : BoardCommand α) (drag : Drag) : Option (WidgetId × (Element α → Element α)) :=
  match c with
  | .retitleElement id title => some (id, fun e => { e with title })
  | .changeKind id kind => some (id, (·.changeKind kind))
  | .updateOptions id update => some (id, (·.updateOptions update))
  | .setTarget id target => some (id, (·.bound target))
  | .setSoundOverride id state url | .applyUpload (.sound id state) url =>
    some (id, (·.withSound state url))
  | .pointerMove event layout =>
    drag.active.map fun (id, gesture) =>
      (id, fun e => e.place (gesture.apply e.placement layout event))
  | _ => none

/-- The widget that a command names, or whose gesture runs. -/
def addressee? (c : BoardCommand α) (drag : Drag) : Option WidgetId :=
  match c with
  | .deleteElement id | .duplicateElement id | .reorderElement id _ => some id
  | c => (c.edit? drag).map (·.1)

/-- Whether a command edits the element of a widget or takes the widget away. -/
def Touches (c : BoardCommand α) (drag : Drag) (id : WidgetId) : Prop :=
  c = .deleteElement id ∨ ∃ edit, c.edit? drag = some (id, edit)

/-- What becomes of the element of a widget under a command, if the widget stays. -/
def becomes (c : BoardCommand α) (drag : Drag) (id : WidgetId) (e : Element α) :
    Option (Element α) :=
  match c with
  | .deleteElement x => if x = id then none else some e
  | c =>
    match c.edit? drag with
    | some (x, edit) => if x = id then some (edit e) else some e
    | none => some e

end BoardCommand

/-- A widget that a command does not touch keeps its element. -/
theorem BoardCommand.becomes_of_not_touches {α : Type} [Scalar α] {c : BoardCommand α} {drag : Drag}
    {id : WidgetId} (h : ¬ c.Touches drag id) : c.becomes drag id = some := by
  funext e
  unfold becomes
  split
  · next x =>
    refine if_neg fun hx => h (.inl ?_)
    rw [hx]
  · split
    · next x edit hedit =>
      refine if_neg fun hx => h (.inr ⟨edit, ?_⟩)
      rw [hedit, hx]
    · rfl

namespace Register

variable {α : Type} [Scalar α]

/-- A register after a command, while a certain gesture runs. -/
def apply (r : Register α) (drag : Drag) (c : BoardCommand α) : Register α :=
  match c with
  | .addElement => r.append .default
  | .deleteElement id => r.remove id
  | .duplicateElement id =>
    match r.find? id with
    | some e => r.append e
    | none => r
  | .reorderElement id destination => r.move id destination
  | c =>
    match c.edit? drag with
    | some (id, edit) => r.update id edit
    | none => r

/-- A register after many commands, each with the gesture that ran when it came. -/
def replay (r : Register α) (cs : List (Drag × BoardCommand α)) : Register α :=
  cs.foldl (fun r p => r.apply p.1 p.2) r

/-! ## Looking up after an operation -/

section Lookup

omit [Scalar α]

variable {r : Register α} {id : WidgetId}

theorem find?_eq_some_iff (hr : r.Valid) {e : Element α} :
    r.find? id = some e ↔ (id, e) ∈ r.rows :=
  lookup_eq_some_iff_mem hr.nodup

theorem mem_keys_of_find? (hr : r.Valid) {e : Element α} (h : r.find? id = some e) :
    id ∈ r.keys :=
  List.mem_map_of_mem (f := (·.1)) ((find?_eq_some_iff hr).mp h)

theorem keys_append (r : Register α) (e : Element α) :
    (r.append e).keys = r.keys ++ [⟨r.next⟩] := by
  unfold keys append
  rw [List.map_append]
  rfl

theorem keys_remove (r : Register α) (id : WidgetId) :
    (r.remove id).keys = r.keys.filter (· ≠ id) := by
  unfold keys remove
  rw [List.filter_map]
  rfl

theorem keys_update (r : Register α) (id : WidgetId) (edit : Element α → Element α) :
    (r.update id edit).keys = r.keys := by
  unfold keys update
  rw [List.map_map]
  refine List.map_congr_left fun p _ => ?_
  simp only [Function.comp_apply]
  split <;> rfl

/-- Moving changes the order and nothing else. -/
theorem move_perm (hr : r.Valid) (id : WidgetId) (destination : Nat) :
    (r.move id destination).rows.Perm r.rows := by
  unfold move
  cases hfind : r.find? id with
  | none => exact .refl _
  | some e =>
    simp only
    split
    · next hinside =>
      obtain ⟨i, hi⟩ := List.mem_iff_getElem?.mp ((find?_eq_some_iff hr).mp hfind)
      have hlt : i < r.rows.length := (List.getElem?_eq_some_iff.mp hi).1
      have hrest : (r.remove id).rows = r.rows.eraseIdx i := (eraseIdx_eq_filter hr.nodup hi).symm
      have hle : destination ≤ (r.rows.eraseIdx i).length := by
        rw [List.length_eraseIdx_of_lt hlt]
        omega
      show ((r.remove id).rows.insertIdx destination (id, e)).Perm r.rows
      rw [hrest]
      refine (List.perm_insertIdx _ _ hle).trans ?_
      have hget : r.rows[i] = (id, e) := (List.getElem?_eq_some_iff.mp hi).2
      rw [← hget]
      exact List.getElem_cons_eraseIdx_perm hlt
    · exact .refl _

theorem Valid.append (hr : r.Valid) (e : Element α) : (r.append e).Valid where
  nodup := by
    rw [keys_append, List.nodup_append]
    refine ⟨hr.nodup, List.pairwise_singleton _ _, ?_⟩
    rintro x hx _ hnew rfl
    rw [List.mem_singleton.mp hnew] at hx
    exact Nat.lt_irrefl _ (hr.fresh _ hx)
  fresh x hx := by
    rw [keys_append] at hx
    show x.number < r.next + 1
    rcases List.mem_append.mp hx with hx | hx
    · have := hr.fresh x hx
      omega
    · rw [List.mem_singleton.mp hx]
      exact Nat.lt_succ_self _

theorem Valid.remove (hr : r.Valid) (id : WidgetId) : (r.remove id).Valid where
  nodup := by
    rw [keys_remove]
    exact hr.nodup.filter _
  fresh x hx := by
    rw [keys_remove] at hx
    exact hr.fresh x (List.mem_of_mem_filter hx)

theorem Valid.update (hr : r.Valid) (id : WidgetId) (edit : Element α → Element α) :
    (r.update id edit).Valid := by
  have hkeys := keys_update r id edit
  exact ⟨hkeys ▸ hr.nodup, fun x hx => hr.fresh x (hkeys ▸ hx)⟩

theorem move_next (r : Register α) (id : WidgetId) (destination : Nat) :
    (r.move id destination).next = r.next := by
  unfold move
  split
  · split <;> rfl
  · rfl

theorem Valid.move (hr : r.Valid) (id : WidgetId) (destination : Nat) :
    (r.move id destination).Valid where
  nodup := (((move_perm hr id destination).map _).nodup_iff).mpr hr.nodup
  fresh x hx := by
    rw [move_next]
    exact hr.fresh x ((((move_perm hr id destination).map _).mem_iff).mp hx)

/-- A register whose entries are a rearrangement finds the same. -/
theorem find?_eq_of_perm (hr : r.Valid) {r' : Register α} (hr' : r'.Valid)
    (h : r'.rows.Perm r.rows) (id : WidgetId) : r'.find? id = r.find? id := by
  apply Option.ext
  intro e
  rw [find?_eq_some_iff hr', find?_eq_some_iff hr, h.mem_iff]

theorem find?_append (hr : r.Valid) (e : Element α) (id : WidgetId) :
    (r.append e).find? id = if id = ⟨r.next⟩ then some e else r.find? id := by
  apply Option.ext
  intro e'
  rw [find?_eq_some_iff (hr.append e)]
  unfold append
  rw [List.mem_append, List.mem_singleton]
  by_cases hnew : id = ⟨r.next⟩
  · subst hnew
    have hold : (⟨r.next⟩, e') ∉ r.rows := fun hmem =>
      Nat.lt_irrefl _ (hr.fresh _ (List.mem_map_of_mem (f := (·.1)) hmem))
    simp [hold, eq_comm]
  · simp [hnew, find?_eq_some_iff hr]

theorem find?_remove (hr : r.Valid) (id x : WidgetId) :
    (r.remove id).find? x = if x = id then none else r.find? x := by
  apply Option.ext
  intro e
  rw [find?_eq_some_iff (hr.remove id)]
  unfold remove
  rw [List.mem_filter]
  by_cases hx : x = id
  · simp [hx]
  · simp [hx, find?_eq_some_iff hr]

theorem find?_update (r : Register α) (id : WidgetId) (edit : Element α → Element α)
    (x : WidgetId) :
    (r.update id edit).find? x = if x = id then (r.find? x).map edit else r.find? x := by
  unfold find? update
  simp only
  induction r.rows with
  | nil => split <;> rfl
  | cons p rows ih =>
    obtain ⟨k, e⟩ := p
    rw [List.map_cons]
    by_cases hk : x = k
    · subst hk
      by_cases hx : x = id <;> simp [hx]
    · have hhead : ∀ (e' : Element α) (rows : List (WidgetId × Element α)),
          ((k, e') :: rows).lookup x = rows.lookup x := by
        intro e' rows
        rw [List.lookup_cons, beq_eq_false_iff_ne.mpr hk]
      have hedited :
          (if k = id then (k, edit e) else (k, e)) = (k, if k = id then edit e else e) := by
        split <;> rfl
      show ((if k = id then (k, edit e) else (k, e)) :: _).lookup x = _
      rw [hedited, hhead, hhead, ih]

/-- A number that is moved ends up where it was to go. -/
theorem keys_move (hr : r.Valid) {id : WidgetId} {destination : Nat} (hid : id ∈ r.keys)
    (hinside : destination < r.rows.length) :
    (r.move id destination).keys[destination]? = some id := by
  obtain ⟨⟨k, e⟩, hmem, rfl⟩ := List.mem_map.mp hid
  have hfind := (find?_eq_some_iff hr).mpr hmem
  obtain ⟨i, hi⟩ := List.mem_iff_getElem?.mp hmem
  have hlt : i < r.rows.length := (List.getElem?_eq_some_iff.mp hi).1
  have hlen : (r.remove k).rows.length = r.rows.length - 1 := by
    have hrest : (r.remove k).rows = r.rows.eraseIdx i := (eraseIdx_eq_filter hr.nodup hi).symm
    rw [hrest, List.length_eraseIdx_of_lt hlt]
  unfold move keys
  simp only [hfind, if_pos hinside]
  rw [List.getElem?_map, List.getElem?_insertIdx_self, if_pos (by omega)]
  rfl

end Lookup

/-! ## Commands -/

section Commands

variable {r : Register α}

/-- What a command does that is none of the list's, in terms of its edit. -/
theorem apply_eq_update {c : BoardCommand α} {drag : Drag} {id : WidgetId}
    {edit : Element α → Element α} (h : c.edit? drag = some (id, edit)) (r : Register α) :
    r.apply drag c = r.update id edit := by
  cases c with
  | addElement | deleteElement _ | duplicateElement _ | reorderElement _ _ => cases h
  | _ =>
    unfold apply
    simp only [h]

theorem Valid.apply (hr : r.Valid) (drag : Drag) (c : BoardCommand α) : (r.apply drag c).Valid := by
  cases hedit : c.edit? drag with
  | some p =>
    obtain ⟨id, edit⟩ := p
    rw [apply_eq_update hedit]
    exact hr.update id edit
  | none =>
    cases c with
    | addElement => exact hr.append _
    | deleteElement id => exact hr.remove id
    | duplicateElement id =>
      cases hfind : r.find? id with
      | none =>
        simp only [Register.apply, hfind]
        exact hr
      | some e =>
        simp only [Register.apply, hfind]
        exact hr.append e
    | reorderElement id destination => exact hr.move id destination
    | _ =>
      unfold Register.apply
      simp only [hedit]
      exact hr

/-- Numbers are given out once. -/
theorem next_le_apply (r : Register α) (drag : Drag) (c : BoardCommand α) :
    r.next ≤ (r.apply drag c).next := by
  cases hedit : c.edit? drag with
  | some p =>
    rw [apply_eq_update hedit]
    exact Nat.le_refl _
  | none =>
    cases c with
    | addElement => exact Nat.le_succ _
    | deleteElement id => exact Nat.le_refl _
    | duplicateElement id =>
      cases hfind : r.find? id with
      | none =>
        simp only [apply, hfind]
        exact Nat.le_refl _
      | some e =>
        simp only [apply, hfind]
        exact Nat.le_succ _
    | reorderElement id destination => exact Nat.le_of_eq (r.move_next id destination).symm
    | _ =>
      unfold apply
      simp only [hedit]
      exact Nat.le_refl _

/-- **A command leaves the others in order**: what it does to the list of numbers is not seen where
the widget it names and a widget it mounts are left out. -/
theorem filter_keys_apply (drag : Drag) (c : BoardCommand α) {p : WidgetId → Bool}
    (hnext : p ⟨r.next⟩ = false) (hnamed : ∀ id, c.addressee? drag = some id → p id = false) :
    (r.apply drag c).keys.filter p = r.keys.filter p := by
  have appended : ∀ e, (r.append e).keys.filter p = r.keys.filter p := fun e => by
    rw [keys_append, List.filter_append, List.filter_cons_of_neg (by simp [hnext])]
    exact List.append_nil _
  have removed : ∀ id, p id = false → (r.remove id).keys.filter p = r.keys.filter p := by
    intro id hid
    rw [keys_remove, List.filter_filter]
    refine List.filter_congr fun x _ => ?_
    by_cases hx : x = id
    · subst hx
      simp [hid]
    · simp [hx]
  cases hedit : c.edit? drag with
  | some q =>
    obtain ⟨id, edit⟩ := q
    rw [apply_eq_update hedit, keys_update]
  | none =>
    cases c with
    | addElement => exact appended _
    | deleteElement id => exact removed id (hnamed id rfl)
    | duplicateElement id =>
      cases hfind : r.find? id with
      | none => simp only [apply, hfind]
      | some e =>
        simp only [apply, hfind]
        exact appended e
    | reorderElement id destination =>
      have hid := hnamed id rfl
      show (r.move id destination).keys.filter p = _
      unfold move
      cases hfind : r.find? id with
      | none => rfl
      | some e =>
        simp only
        split
        · have hkeys : (((r.remove id).rows.insertIdx destination (id, e)).map (·.1)) =
              (r.remove id).keys.insertIdx destination id := List.map_insertIdx _ _ _ _
          show (((r.remove id).rows.insertIdx destination (id, e)).map (·.1)).filter p = _
          rw [hkeys, filter_insertIdx_of_neg (by simp [hid]), removed id hid]
        · rfl
    | _ => simp only [apply, hedit]

/-- **What becomes of a number that was given out.** A command takes it away, edits its element, or
leaves it alone. -/
theorem find?_apply (hr : r.Valid) (drag : Drag) (c : BoardCommand α) {id : WidgetId}
    (hid : id.number < r.next) :
    (r.apply drag c).find? id = (r.find? id).bind (c.becomes drag id) := by
  have old : id ≠ ⟨r.next⟩ := fun h => Nat.lt_irrefl _ (h ▸ hid)
  have kept : ∀ e, (r.append e).find? id = r.find? id := fun e => by
    rw [find?_append hr, if_neg old]
  have alone : c.edit? drag = none → (∀ x, c ≠ .deleteElement x) →
      (r.find? id).bind (c.becomes drag id) = r.find? id := by
    intro hedit hc
    have hsome : c.becomes drag id = some := by
      funext e
      unfold BoardCommand.becomes
      split
      · exact absurd rfl (hc _)
      · rw [hedit]
    rw [hsome, Option.bind_fun_some]
  cases hedit : c.edit? drag with
  | some p =>
    obtain ⟨x, edit⟩ := p
    rw [apply_eq_update hedit, find?_update]
    have hsome : c.becomes drag id = fun e => if x = id then some (edit e) else some e := by
      funext e
      unfold BoardCommand.becomes
      split
      · cases hedit
      · rw [hedit]
    rw [hsome]
    by_cases hx : x = id
    · subst hx
      simp only [if_true, Option.map_eq_bind]
      rfl
    · simp only [Ne.symm hx, hx, if_false]
      exact (Option.bind_fun_some _).symm
  | none =>
    cases c with
    | addElement => exact (kept _).trans (alone hedit fun _ h => nomatch h).symm
    | deleteElement x =>
      show (r.remove x).find? id = (r.find? id).bind fun e => if x = id then none else some e
      rw [find?_remove hr]
      by_cases hx : x = id
      · simp [hx]
      · simp [hx, Ne.symm hx]
    | duplicateElement x =>
      refine Eq.trans ?_ (alone hedit fun _ h => nomatch h).symm
      cases hfind : r.find? x with
      | none => simp only [apply, hfind]
      | some e =>
        simp only [apply, hfind]
        exact kept e
    | reorderElement x destination =>
      refine Eq.trans ?_ (alone hedit fun _ h => nomatch h).symm
      exact find?_eq_of_perm hr (hr.move x destination) (move_perm hr x destination) id
    | _ =>
      refine Eq.trans ?_ (alone hedit fun _ h => nomatch h).symm
      simp only [apply, hedit]

/-- **What becomes of it in a run.** -/
theorem find?_replay (hr : r.Valid) (cs : List (Drag × BoardCommand α)) {id : WidgetId}
    (hid : id.number < r.next) :
    (r.replay cs).find? id =
      (r.find? id).bind fun e => cs.foldlM (fun e p => p.2.becomes p.1 id e) e := by
  induction cs generalizing r with
  | nil => exact (Option.bind_fun_some _).symm
  | cons p cs ih =>
    have hlater := ih (hr.apply p.1 p.2) (Nat.lt_of_lt_of_le hid (r.next_le_apply p.1 p.2))
    show ((r.apply p.1 p.2).replay cs).find? id = _
    rw [hlater, find?_apply hr p.1 p.2 hid, Option.bind_assoc]
    rfl

end Commands

end Register

end StatusWall
