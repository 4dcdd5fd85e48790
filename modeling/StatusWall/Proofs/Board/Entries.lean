import Mathlib.Data.List.Perm.Basic
import StatusWall.Board.Command

/-!
# Widgets and their elements

A board keeps its widgets in one list and their elements in another, and every operation that edits
the one edits the other in the same place. `Board.entries` is the one list that both stand for; the
lemmas of the first half say what an edit of the two lists is on it.

Widgets are named by numbers. With all numbers different, a number names the place of its widget
and nothing else (`Board.indexOf?_eq_some_iff`), so that `widget?` and `element?` read the entry of
a number (`Board.mem_entries_iff`).
-/

namespace StatusWall

/-! ## Two lists side by side -/

section Lists

variable {β γ : Type}

theorem zip_eraseIdx (l : List β) (m : List γ) (i : Nat) :
    (l.eraseIdx i).zip (m.eraseIdx i) = (l.zip m).eraseIdx i := by
  induction l generalizing m i with
  | nil => rfl
  | cons a l ih =>
    cases m with
    | nil => rw [List.eraseIdx_nil, List.zip_nil_right, List.zip_nil_right, List.eraseIdx_nil]
    | cons b m =>
      cases i with
      | zero => rfl
      | succ i => exact congrArg ((a, b) :: ·) (ih m i)

theorem zip_insertIdx {l : List β} {m : List γ} (h : l.length = m.length) (i : Nat) (a : β)
    (b : γ) : (l.insertIdx i a).zip (m.insertIdx i b) = (l.zip m).insertIdx i (a, b) := by
  induction i generalizing l m with
  | zero => rfl
  | succ i ih =>
    cases l with
    | nil =>
      cases m with
      | nil => rfl
      | cons _ _ => cases h
    | cons a' l =>
      cases m with
      | nil => cases h
      | cons b' m => exact congrArg ((a', b') :: ·) (ih (Nat.succ.inj h))

theorem zip_moveEntry {l : List β} {m : List γ} (h : l.length = m.length)
    (source destination : Nat) :
    (Dashboard.moveEntry l source destination).zip (Dashboard.moveEntry m source destination) =
      Dashboard.moveEntry (l.zip m) source destination := by
  unfold Dashboard.moveEntry
  rcases Nat.lt_or_ge source l.length with hlt | hge
  · have hz : (l.zip m)[source]? = some (l[source], m[source]) :=
      List.getElem?_zip_eq_some.mpr
        ⟨List.getElem?_eq_getElem hlt, List.getElem?_eq_getElem (h ▸ hlt)⟩
    have hlen : (l.eraseIdx source).length = (m.eraseIdx source).length := by
      rw [List.length_eraseIdx, List.length_eraseIdx, h]
    rw [List.getElem?_eq_getElem hlt, List.getElem?_eq_getElem (h ▸ hlt), hz]
    simp only
    rw [zip_insertIdx hlen, zip_eraseIdx]
  · have hz : (l.zip m)[source]? = none := by
      rw [List.getElem?_eq_none_iff, List.length_zip]
      omega
    rw [List.getElem?_eq_none hge, List.getElem?_eq_none (h ▸ hge), hz]

/-- Moving an entry changes the order and nothing else. -/
theorem moveEntry_perm {l : List β} {source destination : Nat} (h : destination < l.length) :
    (Dashboard.moveEntry l source destination).Perm l := by
  unfold Dashboard.moveEntry
  rcases Nat.lt_or_ge source l.length with hlt | hge
  · rw [List.getElem?_eq_getElem hlt]
    have hle : destination ≤ (l.eraseIdx source).length := by
      rw [List.length_eraseIdx_of_lt hlt]
      omega
    exact (List.perm_insertIdx _ _ hle).trans (List.getElem_cons_eraseIdx_perm hlt)
  · rw [List.getElem?_eq_none hge]

/-- A change at one place, where the entry is known. -/
theorem modify_eq_set_of_getElem? {l : List β} {i : Nat} {a : β} (h : l[i]? = some a) (f : β → β) :
    l.modify i f = l.set i (f a) := by
  apply List.ext_getElem?
  intro j
  rw [List.getElem?_modify, List.getElem?_set]
  by_cases hij : i = j
  · subst hij
    rw [if_pos rfl, if_pos (List.getElem?_eq_some_iff.mp h).1, h]
    exact congrArg some (if_pos rfl)
  · rw [if_neg hij]
    cases l[j]? with
    | none => rfl
    | some b => exact congrArg some (if_neg hij)

/-- An entry put in place of another one, in what the two have in common. -/
theorem map_set_of_eq {l : List β} {i : Nat} {a a' : β} (h : l[i]? = some a) (g : β → γ)
    (hg : g a' = g a) : (l.set i a').map g = l.map g := by
  obtain ⟨hlt, rfl⟩ := List.getElem?_eq_some_iff.mp h
  rw [List.map_set, hg, ← List.map_set, List.set_getElem_self]

end Lists

namespace Board

variable {α : Type}

/-- The document and the widgets have as many entries each. -/
def Aligned (b : Board α) : Prop := b.widgets.length = b.dashboard.elements.length

/-! ## Entries and places -/

theorem mem_entries_iff_getElem? {b : Board α} {p : Widget × Element α} :
    p ∈ b.entries ↔
      ∃ i : Nat, b.widgets[i]? = some p.1 ∧ b.dashboard.elements[i]? = some p.2 := by
  unfold entries
  rw [List.mem_iff_getElem?]
  exact exists_congr fun i => List.getElem?_zip_eq_some

theorem mem_widgets_of_mem_entries {b : Board α} {p : Widget × Element α} (h : p ∈ b.entries) :
    p.1 ∈ b.widgets := by
  obtain ⟨i, hw, -⟩ := mem_entries_iff_getElem?.mp h
  exact List.mem_of_getElem? hw

/-- Every widget has its element. -/
theorem Aligned.exists_entry {b : Board α} (h : b.Aligned) {w : Widget} (hw : w ∈ b.widgets) :
    ∃ e, (w, e) ∈ b.entries := by
  obtain ⟨i, hi⟩ := List.mem_iff_getElem?.mp hw
  have hlt : i < b.dashboard.elements.length := h ▸ (List.getElem?_eq_some_iff.mp hi).1
  exact ⟨_, mem_entries_iff_getElem?.mpr ⟨i, hi, List.getElem?_eq_getElem hlt⟩⟩

/-- Every place of a widget is the place of an element. -/
theorem Aligned.exists_element {b : Board α} (h : b.Aligned) {i : Nat} {w : Widget}
    (hw : b.widgets[i]? = some w) : ∃ e, b.dashboard.elements[i]? = some e :=
  ⟨_, List.getElem?_eq_getElem (h ▸ (List.getElem?_eq_some_iff.mp hw).1)⟩

/-! ## Numbers -/

/-- A place that a number names holds the widget with that number. -/
theorem widget_of_indexOf? {b : Board α} {id : WidgetId} {i : Nat} (h : b.indexOf? id = some i) :
    ∃ w, b.widgets[i]? = some w ∧ w.id = id := by
  obtain ⟨hlt, hid, -⟩ := List.findIdx?_eq_some_iff_getElem.mp h
  exact ⟨_, List.getElem?_eq_getElem hlt, of_decide_eq_true hid⟩

theorem indexOf?_eq_none_iff {b : Board α} {id : WidgetId} :
    b.indexOf? id = none ↔ id ∉ b.widgetIds := by
  unfold indexOf? widgetIds
  rw [List.findIdx?_eq_none_iff, List.mem_map]
  constructor
  · rintro h ⟨w, hw, hid⟩
    exact absurd hid (of_decide_eq_false (h w hw))
  · intro h w hw
    exact decide_eq_false fun hid => h ⟨w, hw, hid⟩

section Nodup

variable {b : Board α} (hids : b.widgetIds.Nodup)

include hids

/-- Two places with one number are one place. -/
theorem place_unique {i j : Nat} {w v : Widget} (hw : b.widgets[i]? = some w)
    (hv : b.widgets[j]? = some v) (hid : w.id = v.id) : i = j := by
  have hi : b.widgetIds[i]? = some w.id := by
    unfold widgetIds
    rw [List.getElem?_map, hw]
    rfl
  have hj : b.widgetIds[j]? = some w.id := by
    unfold widgetIds
    rw [List.getElem?_map, hv, hid]
    rfl
  exact (List.getElem?_inj (List.getElem?_eq_some_iff.mp hi).1 hids).mp (hi.trans hj.symm)

theorem indexOf?_eq_some_iff {id : WidgetId} {i : Nat} :
    b.indexOf? id = some i ↔ ∃ w, b.widgets[i]? = some w ∧ w.id = id := by
  refine ⟨widget_of_indexOf?, ?_⟩
  rintro ⟨w, hw, hid⟩
  cases h : b.indexOf? id with
  | none =>
    have hmem : id ∈ b.widgetIds := List.mem_map.mpr ⟨w, List.mem_of_getElem? hw, hid⟩
    exact absurd hmem (indexOf?_eq_none_iff.mp h)
  | some j =>
    obtain ⟨v, hv, hid'⟩ := widget_of_indexOf? h
    rw [place_unique hids hw hv (hid.trans hid'.symm)]

/-- The widget and the element of a number are its entry. -/
theorem mem_entries_iff {w : Widget} {e : Element α} :
    (w, e) ∈ b.entries ↔ b.widget? w.id = some w ∧ b.element? w.id = some e := by
  rw [mem_entries_iff_getElem?]
  unfold widget? element?
  constructor
  · rintro ⟨i, hw, he⟩
    have hi := (indexOf?_eq_some_iff hids).mpr ⟨w, hw, rfl⟩
    rw [hi]
    exact ⟨hw, he⟩
  · rintro ⟨hw, he⟩
    obtain ⟨i, hi, hw⟩ := Option.bind_eq_some_iff.mp hw
    rw [hi] at he
    exact ⟨i, hw, he⟩

/-- A number has one entry. -/
theorem entry_unique {p q : Widget × Element α} (hp : p ∈ b.entries) (hq : q ∈ b.entries)
    (hid : p.1.id = q.1.id) : p = q := by
  obtain ⟨i, hpw, hpe⟩ := mem_entries_iff_getElem?.mp hp
  obtain ⟨j, hqw, hqe⟩ := mem_entries_iff_getElem?.mp hq
  obtain rfl := place_unique hids hpw hqw hid
  exact Prod.ext (Option.some.inj (hpw.symm.trans hqw)) (Option.some.inj (hpe.symm.trans hqe))

theorem widget_unique {w v : Widget} (hw : w ∈ b.widgets) (hv : v ∈ b.widgets)
    (hid : w.id = v.id) : w = v := by
  obtain ⟨i, hi⟩ := List.mem_iff_getElem?.mp hw
  obtain ⟨j, hj⟩ := List.mem_iff_getElem?.mp hv
  obtain rfl := place_unique hids hi hj hid
  exact Option.some.inj (hi.symm.trans hj)

theorem widget?_eq_some_iff {id : WidgetId} {w : Widget} :
    b.widget? id = some w ↔ w ∈ b.widgets ∧ w.id = id := by
  unfold widget?
  rw [Option.bind_eq_some_iff]
  constructor
  · rintro ⟨i, hi, hw⟩
    obtain ⟨v, hv, hid⟩ := widget_of_indexOf? hi
    obtain rfl := Option.some.inj (hv.symm.trans hw)
    exact ⟨List.mem_of_getElem? hw, hid⟩
  · rintro ⟨hw, hid⟩
    obtain ⟨i, hi⟩ := List.mem_iff_getElem?.mp hw
    exact ⟨i, (indexOf?_eq_some_iff hids).mpr ⟨w, hi, hid⟩, hi⟩

end Nodup

end Board

end StatusWall
