import StatusWall.Proofs.Board.Refusals

/-!
# Reordering

A widget is moved by taking its entry out of a list and putting it in again further up or down. Taking out
closes a gap and putting in opens one, so every other entry between the two places goes one place towards
the gap (`Dashboard.placeAfter`), and the rest stays where it was.

`Dashboard.MovedOnce` says all that this makes of a list, and moving the entry back is its inverse
(`Dashboard.moveEntry_moveEntry`). A board keeps its widgets in a list of their own; both lists are moved
from the same place to the same place, so each widget keeps its element. The main statement has both, for
documents and for every board that can come about.
-/

namespace StatusWall

open StatusWall.Geometry

variable {α : Type}

/-! ## One entry of a list -/

namespace Dashboard

/-- Where an entry stands after the one at `source` was moved to `destination`. -/
def placeAfter (source destination i : Nat) : Nat :=
  if i = source then destination
  else if source < i ∧ i ≤ destination then i - 1
  else if destination ≤ i ∧ i < source then i + 1
  else i

/-- One entry changed its place, and all others stayed in order. -/
structure MovedOnce {β : Type} (source destination : Nat) (before after : List β) : Prop where
  perm : after.Perm before
  moved : after[destination]? = before[source]?
  others : after.eraseIdx destination = before.eraseIdx source
  places (i : Nat) : after[placeAfter source destination i]? = before[i]?

section Entries

variable {β : Type} {l : List β} {source destination : Nat}

theorem moveEntry_eq (hs : source < l.length) (destination : Nat) :
    moveEntry l source destination = (l.eraseIdx source).insertIdx destination l[source] := by
  unfold moveEntry
  rw [List.getElem?_eq_getElem hs]

/-- Without the moved entry the list is what it was without it. -/
theorem eraseIdx_moveEntry (hs : source < l.length) (destination : Nat) :
    (moveEntry l source destination).eraseIdx destination = l.eraseIdx source := by
  rw [moveEntry_eq hs, List.eraseIdx_insertIdx_self]

theorem length_moveEntry (source : Nat) (hd : destination < l.length) :
    (moveEntry l source destination).length = l.length := (moveEntry_perm hd).length_eq

section

variable (hs : source < l.length) (hd : destination < l.length)

include hs hd

theorem getElem?_moveEntry (i : Nat) :
    (moveEntry l source destination)[placeAfter source destination i]? = l[i]? := by
  have hlen : (l.eraseIdx source).length = l.length - 1 := List.length_eraseIdx_of_lt hs
  rw [moveEntry_eq hs, List.getElem?_insertIdx, List.getElem?_eraseIdx, List.getElem?_eraseIdx]
  unfold placeAfter
  by_cases hi : i = source
  · subst hi
    rw [if_pos rfl, if_neg (Nat.lt_irrefl _), if_pos rfl, if_pos (by omega),
      List.getElem?_eq_getElem hs]
  · rw [if_neg hi]
    -- The gap at `source` and the entry at `destination` cut the list in three.
    grind

theorem moveEntry_movedOnce : MovedOnce source destination l (moveEntry l source destination) where
  perm := moveEntry_perm hd
  moved := by
    have h := getElem?_moveEntry hs hd source
    rwa [placeAfter, if_pos rfl] at h
  others := eraseIdx_moveEntry hs destination
  places := getElem?_moveEntry hs hd

/-- **Moving an entry back** restores the list. -/
theorem moveEntry_moveEntry :
    moveEntry (moveEntry l source destination) destination source = l := by
  have there : (moveEntry l source destination)[destination]? = some l[source] :=
    (moveEntry_movedOnce hs hd).moved.trans (List.getElem?_eq_getElem hs)
  rw [moveEntry, there, eraseIdx_moveEntry hs]
  exact List.insertIdx_eraseIdx_getElem hs

end

end Entries

/-- Down, up, and between neighbours. -/
example :
    moveEntry ["a", "b", "c", "d"] 0 2 = ["b", "c", "a", "d"] ∧
      moveEntry ["a", "b", "c", "d"] 3 1 = ["a", "d", "b", "c"] ∧
      moveEntry ["a", "b", "c", "d"] 1 2 = moveEntry ["a", "b", "c", "d"] 2 1 := by
  decide

/-! ## Documents -/

/-- Reordering a document is one move that can be taken back, or nothing at all. -/
structure Reorders (d : Dashboard α) (source destination : Nat) : Prop where
  done_iff : (d.reorderElements source destination).2 = true ↔
    source < d.elements.length ∧ destination < d.elements.length
  refused : (d.reorderElements source destination).2 = false →
    (d.reorderElements source destination).1 = d
  /-- Nothing but the list of elements is touched. -/
  frame : (d.reorderElements source destination).1 =
    { d with elements := (d.reorderElements source destination).1.elements }
  moved : (d.reorderElements source destination).2 = true →
    MovedOnce source destination d.elements (d.reorderElements source destination).1.elements
  back : (d.reorderElements source destination).2 = true →
    (d.reorderElements source destination).1.reorderElements destination source = (d, true)

theorem reorderElements_of_lt {d : Dashboard α} {source destination : Nat}
    (hs : source < d.elements.length) (hd : destination < d.elements.length) :
    d.reorderElements source destination =
      ({ d with elements := moveEntry d.elements source destination }, true) :=
  if_pos ⟨decide_eq_true hs, decide_eq_true hd⟩

theorem reorderElements_of_not_lt {d : Dashboard α} {source destination : Nat}
    (h : ¬ (source < d.elements.length ∧ destination < d.elements.length)) :
    d.reorderElements source destination = (d, false) :=
  if_neg fun has => h (has.imp of_decide_eq_true of_decide_eq_true)

/-- Every document can be reordered, from every place to every place that it has. -/
theorem reorders (d : Dashboard α) (source destination : Nat) : d.Reorders source destination := by
  by_cases h : source < d.elements.length ∧ destination < d.elements.length
  · obtain ⟨hs, hd⟩ := h
    have heq := reorderElements_of_lt hs hd
    constructor
    · rw [heq]
      exact iff_of_true rfl ⟨hs, hd⟩
    · rw [heq]
      exact nofun
    · rw [heq]
    · intro _
      rw [heq]
      exact moveEntry_movedOnce hs hd
    · intro _
      have hlen := length_moveEntry source hd
      rw [heq, reorderElements_of_lt (hlen.symm ▸ hd) (hlen.symm ▸ hs)]
      simp only [moveEntry_moveEntry hs hd]
  · have heq := reorderElements_of_not_lt h
    constructor
    · rw [heq]
      exact iff_of_false Bool.false_ne_true h
    · rw [heq]
      exact fun _ => rfl
    · rw [heq]
    all_goals
      rw [heq]
      exact nofun

end Dashboard

/-! ## Boards -/

namespace Board

open Dashboard

/-- Reordering a board is one move of its document and the same move of its widgets, that can be taken
back, or nothing at all. -/
structure Reorders (b : Board α) (id : WidgetId) (destination : Nat) : Prop where
  done_iff : (b.reorderElement id destination).2 = true ↔
    id ∈ b.widgetIds ∧ destination < b.widgetIds.length
  refused : (b.reorderElement id destination).2 = false → (b.reorderElement id destination).1 = b
  /-- Nothing but the document and the list of widgets is touched. -/
  frame :
    let b' := (b.reorderElement id destination).1
    b' = { b with dashboard := b'.dashboard, widgets := b'.widgets }
  moved : (b.reorderElement id destination).2 = true →
    let b' := (b.reorderElement id destination).1
    ∃ source, b.widgetIds[source]? = some id ∧
      b.dashboard.reorderElements source destination = (b'.dashboard, true) ∧
      MovedOnce source destination b.dashboard.elements b'.dashboard.elements ∧
      MovedOnce source destination b.widgetIds b'.widgetIds ∧
      MovedOnce source destination b.entries b'.entries ∧
      b'.reorderElement id source = (b, true)

/-- A board with document and widgets moved. -/
def moveWidget (b : Board α) (source destination : Nat) : Board α :=
  { b with
    dashboard := { b.dashboard with elements := moveEntry b.dashboard.elements source destination }
    widgets := moveEntry b.widgets source destination }

theorem widgetIds_moveWidget (b : Board α) (source destination : Nat) :
    (b.moveWidget source destination).widgetIds = moveEntry b.widgetIds source destination :=
  map_moveEntry _ _ _ _

theorem entries_moveWidget {b : Board α} (aligned : b.Aligned) (source destination : Nat) :
    (b.moveWidget source destination).entries = moveEntry b.entries source destination :=
  zip_moveEntry aligned source destination

theorem Reorders.of_refused {b : Board α} {id : WidgetId} {destination : Nat}
    (heq : b.reorderElement id destination = (b, false))
    (h : ¬ (id ∈ b.widgetIds ∧ destination < b.widgetIds.length)) : b.Reorders id destination := by
  constructor
  all_goals rw [heq]
  · exact iff_of_false Bool.false_ne_true h
  · exact fun _ => rfl
  · exact nofun

section

variable {b : Board α} {id : WidgetId} {source destination : Nat} (aligned : b.Aligned)

include aligned

theorem reorderElement_of_lt (hi : b.indexOf? id = some source)
    (hd : destination < b.widgets.length) :
    b.reorderElement id destination = (b.moveWidget source destination, true) := by
  have hs := of_decide_eq_true (aligned.has_of_indexOf? hi)
  unfold reorderElement
  simp only [hi, reorderElements_of_lt hs (aligned ▸ hd)]
  rfl

theorem aligned_moveWidget (source : Nat) (hd : destination < b.widgets.length) :
    (b.moveWidget source destination).Aligned := by
  have elements := length_moveEntry (l := b.dashboard.elements) source (aligned ▸ hd)
  have widgets := length_moveEntry (l := b.widgets) source hd
  exact widgets.trans (aligned.trans elements.symm)

theorem moveWidget_moveWidget (hs : source < b.widgets.length) (hd : destination < b.widgets.length) :
    (b.moveWidget source destination).moveWidget destination source = b := by
  unfold moveWidget
  simp only [moveEntry_moveEntry hs hd, moveEntry_moveEntry (aligned ▸ hs) (aligned ▸ hd)]

/-- Every list of a board makes the same move. -/
theorem moveWidget_movedOnce (hs : source < b.widgets.length) (hd : destination < b.widgets.length) :
    let b' := b.moveWidget source destination
    MovedOnce source destination b.dashboard.elements b'.dashboard.elements ∧
      MovedOnce source destination b.widgetIds b'.widgetIds ∧
      MovedOnce source destination b.entries b'.entries := by
  intro b'
  have hids : b.widgetIds.length = b.widgets.length := List.length_map _
  have hentries : b.entries.length = b.widgets.length := by
    rw [entries, List.length_zip, ← aligned, Nat.min_self]
  refine ⟨moveEntry_movedOnce (aligned ▸ hs) (aligned ▸ hd), ?_, ?_⟩
  · rw [widgetIds_moveWidget]
    exact moveEntry_movedOnce (hids ▸ hs) (hids ▸ hd)
  · rw [entries_moveWidget aligned]
    exact moveEntry_movedOnce (hentries ▸ hs) (hentries ▸ hd)

end

/-- A widget that was moved is found at its new place. -/
theorem indexOf?_moveWidget {b : Board α} (nodup : b.widgetIds.Nodup) {w : Widget}
    {source destination : Nat} (hw : b.widgets[source]? = some w)
    (hd : destination < b.widgets.length) :
    (b.moveWidget source destination).indexOf? w.id = some destination := by
  have hs := (List.getElem?_eq_some_iff.mp hw).1
  have numbers : (b.moveWidget source destination).widgetIds.Perm b.widgetIds :=
    (moveEntry_movedOnce hs hd).perm.map _
  refine (indexOf?_eq_some_iff (numbers.nodup_iff.mpr nodup)).mpr ⟨w, ?_, rfl⟩
  exact (moveEntry_movedOnce hs hd).moved.trans hw

/-- The widget that was moved can be moved back, which leaves nothing of the move. -/
theorem InStep.reorderElement_moveWidget {b : Board α} (hb : b.InStep) {w : Widget}
    {source destination : Nat} (hw : b.widgets[source]? = some w)
    (hd : destination < b.widgets.length) :
    (b.moveWidget source destination).reorderElement w.id source = (b, true) := by
  have hs := (List.getElem?_eq_some_iff.mp hw).1
  have hs' : source < (b.moveWidget source destination).widgets.length :=
    (length_moveEntry source hd).symm ▸ hs
  rw [reorderElement_of_lt (aligned_moveWidget hb.aligned source hd)
    (indexOf?_moveWidget hb.nodup hw hd) hs', moveWidget_moveWidget hb.aligned hs hd]

/-- Every widget of a board can be moved to every place that the board has. -/
theorem InStep.reorders {b : Board α} (hb : b.InStep) (id : WidgetId) (destination : Nat) :
    b.Reorders id destination := by
  have hlen : b.widgetIds.length = b.widgets.length := List.length_map _
  cases hi : b.indexOf? id with
  | none =>
    refine .of_refused ?_ fun h => indexOf?_eq_none_iff.mp hi h.1
    unfold reorderElement
    simp only [hi]
  | some source =>
    obtain ⟨w, hw, rfl⟩ := widget_of_indexOf? hi
    have hs := (List.getElem?_eq_some_iff.mp hw).1
    by_cases hd : destination < b.widgets.length
    · have heq := reorderElement_of_lt hb.aligned hi hd
      have hid : b.widgetIds[source]? = some w.id := by
        unfold widgetIds
        rw [List.getElem?_map, hw]
        rfl
      constructor
      all_goals rw [heq]
      · exact iff_of_true rfl ⟨List.mem_of_getElem? hid, hlen ▸ hd⟩
      · exact nofun
      · rfl
      · intro _ b'
        obtain ⟨elements, ids, entries⟩ := moveWidget_movedOnce hb.aligned hs hd
        exact ⟨source, hid, reorderElements_of_lt (hb.aligned ▸ hs) (hb.aligned ▸ hd), elements, ids,
          entries, hb.reorderElement_moveWidget hw hd⟩
    · have inside : ¬ (source < b.dashboard.elements.length ∧
          destination < b.dashboard.elements.length) := fun h => hd (hb.aligned ▸ h.2)
      refine .of_refused ?_ fun h => hd (hlen ▸ h.2)
      unfold reorderElement
      simp only [hi, reorderElements_of_not_lt inside]

end Board

namespace Chronicle

variable [Scalar α]

/-- **Reordering is one move, and can be taken back.** Every document, whatever its length, can be
reordered from every place to every place that it has, and from or to no other: one element changes its
place, the others stay in order, and the move back restores the document. On every board that can come
about the same holds of its widgets, which move as their elements do. -/
theorem reordering_is_one_move (d : Dashboard α) (polling : Option PollConfig)
    (ms : List (Moment α)) (ss : List (Source × RunStep α)) :
    let c := (start d polling).run ms
    let r := BoardRun.steps { board := (start d polling).board } ss
    (∀ source destination, d.Reorders source destination) ∧
    ∀ id destination, c.board.Reorders id destination ∧ r.board.Reorders id destination := by
  intro c r
  have hc : c.Sound := (Sound.start d polling).run ms
  have hr : r.Sound := BoardRun.sound_steps d polling ss
  exact ⟨d.reorders, fun id destination =>
    ⟨hc.inStep.reorders id destination, hr.inStep.reorders id destination⟩⟩

/-- The first of three labels goes to the end and back again, and not beyond the end. -/
theorem first_label_goes_to_the_end_and_back :
    let labels := ["a", "b", "c"].map fun title => { (Element.default : Element Float) with title }
    let b := (start { elements := labels } none).board
    let b' := (b.reorderElement ⟨0⟩ 2).1
    (b.reorderElement ⟨0⟩ 2).2 = true ∧ b'.widgetIds = [⟨1⟩, ⟨2⟩, ⟨0⟩] ∧
      b'.dashboard.elements.map (·.title) = ["b", "c", "a"] ∧
      b'.reorderElement ⟨0⟩ 0 = (b, true) ∧ (b.reorderElement ⟨0⟩ 3).1 = b := by
  intro labels b b'
  obtain ⟨-, moves⟩ := reordering_is_one_move { elements := labels } none [] []
  have done : (b.reorderElement ⟨0⟩ 2).2 = true := rfl
  obtain ⟨source, hid, -, -, -, -, back⟩ := (moves ⟨0⟩ 2).1.moved done
  have first : b.widgetIds = [⟨0⟩, ⟨1⟩, ⟨2⟩] := rfl
  obtain rfl : source = 0 := by
    have nodup : b.widgetIds.Nodup := by
      rw [first]
      decide
    exact (List.getElem?_inj (List.getElem?_eq_some_iff.mp hid).1 nodup).mp hid
  exact ⟨done, rfl, rfl, back, (moves ⟨0⟩ 3).1.refused rfl⟩

end Chronicle

end StatusWall
