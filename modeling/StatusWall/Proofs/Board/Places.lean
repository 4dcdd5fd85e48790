import StatusWall.Proofs.Board.Focus
import StatusWall.Proofs.Board.Register

/-!
# Operations at the place of a number

A command that names a widget edits the document at the widget's place: `BoardCommand.onDashboard`
is the edit of the document, one operation on its list or on one of its elements, and
`BoardCommand.onIds` the edit of the list of numbers. `perform_becomes` says that a command makes
exactly these two edits, whatever else it does to tasks, states, selection and gesture.

Since the two lists are edited alike, a board stays a register (`register_perform`).
-/

namespace StatusWall

open Json StatusWall.Geometry

variable {α : Type}

namespace BoardCommand

/-- What a command makes of the document, where `place` tells the place of a widget. -/
def onDashboard [Scalar α] (c : BoardCommand α) (drag : Drag) (place : WidgetId → Option Nat)
    (d : Dashboard α) : Dashboard α :=
  match c with
  | .setTitle title => { d with title }
  | .setBackground url | .applyUpload .background url => { d with background := url }
  | .setSlug slug => { d with slug }
  | .setGlobalMute muted => { d with globalMute := muted }
  | .addElement => d.addElement.1
  | .deleteElement id => (place id).elim d fun i => (d.deleteElement i).1
  | .duplicateElement id => (place id).elim d fun i => (d.duplicateElement i).1
  | .reorderElement id destination =>
    (place id).elim d fun i => (d.reorderElements i destination).1
  | .retitleElement id title => (place id).elim d fun i => (d.retitleElement i title).1
  | .changeKind id kind => (place id).elim d fun i => (d.changeElementKind i kind).1
  | c =>
    match c.edit? drag with
    | some (id, edit) => (place id).elim d fun i => d.modifyElement i edit
    | none => d

/-- A command that edits an element does so at the place of its widget. -/
theorem onDashboard_of_edit [Scalar α] {c : BoardCommand α} {drag : Drag} {id : WidgetId}
    {edit : Element α → Element α} (h : c.edit? drag = some (id, edit))
    {place : WidgetId → Option Nat} {d : Dashboard α}
    (inside : ∀ i, place id = some i → d.has i = true) :
    c.onDashboard drag place d = (place id).elim d fun i => d.modifyElement i edit := by
  cases c with
  | retitleElement x title =>
    cases h
    cases hi : place id with
    | none => simp only [onDashboard, hi, Option.elim_none]
    | some i =>
      simp only [onDashboard, hi, Option.elim_some, Dashboard.retitleElement, inside i hi, if_true]
  | changeKind x kind =>
    cases h
    cases hi : place id with
    | none => simp only [onDashboard, hi, Option.elim_none]
    | some i =>
      simp only [onDashboard, hi, Option.elim_some, Dashboard.changeElementKind, inside i hi,
        if_true]
  | applyUpload target url =>
    cases target with
    | background => cases h
    | sound widget state => cases h; rfl
  | pointerMove event layout =>
    unfold onDashboard
    simp only [h]
  | updateOptions x update | setTarget x target | setSoundOverride x state url => cases h; rfl
  | _ => cases h

/-- What a command makes of the list of numbers, where `next` is the next one. -/
def onIds (c : BoardCommand α) (place : WidgetId → Option Nat) (next : WidgetId)
    (ids : List WidgetId) : List WidgetId :=
  match c with
  | .addElement => ids ++ [next]
  | .deleteElement id => (place id).elim ids fun i => ids.eraseIdx i
  | .duplicateElement id => (place id).elim ids fun _ => ids ++ [next]
  | .reorderElement id destination =>
    (place id).elim ids fun i =>
      if destination < ids.length then Dashboard.moveEntry ids i destination else ids
  | _ => ids

/-- How many numbers a command gives out. -/
def mounts (c : BoardCommand α) (place : WidgetId → Option Nat) : Nat :=
  match c with
  | .addElement => 1
  | .duplicateElement id => (place id).elim 0 fun _ => 1
  | _ => 0

end BoardCommand

/-- Changing an entry on one side. -/
theorem zip_modify {β γ : Type} (l : List β) (m : List γ) (i : Nat) (f : γ → γ) :
    l.zip (m.modify i f) = (l.zip m).modify i fun p => (p.1, f p.2) := by
  induction l generalizing m i with
  | nil => cases i <;> rfl
  | cons a l ih =>
    cases m with
    | nil => cases i <;> rfl
    | cons b m =>
      cases i with
      | zero => rfl
      | succ i => exact congrArg ((a, b) :: ·) (ih m i)

/-- Moving entries and then looking at one side of them. -/
theorem map_moveEntry {β γ : Type} (g : β → γ) (l : List β) (source destination : Nat) :
    (Dashboard.moveEntry l source destination).map g =
      Dashboard.moveEntry (l.map g) source destination := by
  unfold Dashboard.moveEntry
  rw [List.getElem?_map]
  cases l[source]? with
  | none => rfl
  | some a =>
    show ((l.eraseIdx source).insertIdx destination a).map g =
      ((l.map g).eraseIdx source).insertIdx destination (g a)
    rw [List.map_insertIdx, List.eraseIdx_map]

/-! ## What holds of every element -/

section

variable {d : Dashboard α} {P : Element α → Prop} (h : ∀ e ∈ d.elements, P e)

include h

theorem forall_mem_elim {i? : Option Nat} {change : Nat → Dashboard α}
    (changed : ∀ i, i? = some i → ∀ e ∈ (change i).elements, P e) :
    ∀ e ∈ (i?.elim d change).elements, P e := by
  cases i? with
  | none => exact h
  | some i => exact changed i rfl

theorem forall_mem_deleteElement (i : Nat) : ∀ e ∈ (d.deleteElement i).1.elements, P e := by
  unfold Dashboard.deleteElement
  cases d.elements[i]? with
  | none => exact h
  | some _ => exact fun e he => h e (List.mem_of_mem_eraseIdx he)

theorem forall_mem_duplicateElement (i : Nat) : ∀ e ∈ (d.duplicateElement i).1.elements, P e := by
  unfold Dashboard.duplicateElement
  cases hi : d.elements[i]? with
  | none => exact h
  | some old =>
    exact List.forall_mem_append.mpr
      ⟨h, List.forall_mem_singleton.mpr (h old (List.mem_of_getElem? hi))⟩

theorem forall_mem_reorderElements (source destination : Nat) :
    ∀ e ∈ (d.reorderElements source destination).1.elements, P e := by
  unfold Dashboard.reorderElements
  split
  · next inside =>
    have perm : (Dashboard.moveEntry d.elements source destination).Perm d.elements :=
      moveEntry_perm (of_decide_eq_true inside.2)
    exact fun e he => h e (perm.mem_iff.mp he)
  · exact h

theorem forall_mem_modifyElement {i : Nat} {edit : Element α → Element α}
    (edited : ∀ e, d.elements[i]? = some e → P e → P (edit e)) :
    ∀ e ∈ (d.modifyElement i edit).elements, P e := by
  unfold Dashboard.modifyElement
  cases hi : d.elements[i]? with
  | none =>
    rw [List.modify_eq_self (List.getElem?_eq_none_iff.mp hi)]
    exact h
  | some old =>
    rw [modify_eq_set_of_getElem? hi]
    intro e he
    rcases List.mem_or_eq_of_mem_set he with he | rfl
    · exact h e he
    · exact edited old hi (h old (List.mem_of_getElem? hi))

/-- What holds of every element holds of every element after a command, if it holds of the default
element and no edit breaks it. -/
theorem BoardCommand.forall_mem_onDashboard [Scalar α] {c : BoardCommand α} {drag : Drag}
    {place : WidgetId → Option Nat} (inside : ∀ id i, place id = some i → d.has i = true)
    (default : P .default)
    (edited : ∀ id edit, c.edit? drag = some (id, edit) → ∀ i, place id = some i →
      ∀ e, d.elements[i]? = some e → P e → P (edit e)) :
    ∀ e ∈ (c.onDashboard drag place d).elements, P e := by
  cases hedit : c.edit? drag with
  | some p =>
    rw [onDashboard_of_edit hedit (inside p.1)]
    exact forall_mem_elim h fun i hi => forall_mem_modifyElement h (edited p.1 p.2 hedit i hi)
  | none =>
    cases c with
    | addElement => exact List.forall_mem_append.mpr ⟨h, List.forall_mem_singleton.mpr default⟩
    | deleteElement id => exact forall_mem_elim h fun i _ => forall_mem_deleteElement h i
    | duplicateElement id => exact forall_mem_elim h fun i _ => forall_mem_duplicateElement h i
    | reorderElement id destination =>
      exact forall_mem_elim h fun i _ => forall_mem_reorderElements h i destination
    | pointerMove event layout =>
      unfold onDashboard
      simp only [hedit]
      exact h
    | applyUpload target url =>
      cases target with
      | background => exact h
      | sound widget state => cases hedit
    | retitleElement _ _ | changeKind _ _ | updateOptions _ _ | setTarget _ _
    | setSoundOverride _ _ _ => cases hedit
    | _ => exact h

end
namespace Board

/-- The document, the numbers and the next number of a board. -/
structure Becomes (b : Board α) (dashboard : Dashboard α) (ids : List WidgetId) (next : Nat) :
    Prop where
  dashboard : b.dashboard = dashboard
  widgetIds : b.widgetIds = ids
  nextId : b.nextId = next

theorem Retasked.becomes {b b' : Board α} (h : Retasked b b') {d : Dashboard α}
    {ids : List WidgetId} {next : Nat} (hb : b.Becomes d ids next) : b'.Becomes d ids next :=
  ⟨h.dashboard.trans hb.dashboard, h.ids.trans hb.widgetIds, h.nextId.trans hb.nextId⟩

/-- The place of a number, in the list of numbers. -/
theorem indexOf?_eq_idxOf? (b : Board α) (id : WidgetId) :
    b.indexOf? id = b.widgetIds.idxOf? id := by
  unfold indexOf? widgetIds List.idxOf?
  rw [List.findIdx?_map]
  rfl

theorem Aligned.has_of_indexOf? {b : Board α} (aligned : b.Aligned) {id : WidgetId} {i : Nat}
    (hi : b.indexOf? id = some i) : b.dashboard.has i = true := by
  obtain ⟨w, hw, -⟩ := widget_of_indexOf? hi
  exact decide_eq_true (aligned ▸ (List.getElem?_eq_some_iff.mp hw).1)

theorem Becomes.rfl {b : Board α} : b.Becomes b.dashboard b.widgetIds b.nextId :=
  ⟨Eq.refl _, Eq.refl _, Eq.refl _⟩

theorem Becomes.select {b : Board α} {d : Dashboard α} {ids : List WidgetId} {next : Nat}
    (h : b.Becomes d ids next) (id : Option WidgetId) : (b.select id).Becomes d ids next := by
  obtain ⟨selected, heq⟩ := b.select_eq id
  rw [heq]
  exact ⟨h.dashboard, h.widgetIds, h.nextId⟩

theorem Becomes.mountWidget {b : Board α} {d : Dashboard α} {ids : List WidgetId} {next : Nat}
    (h : b.Becomes d ids next) : b.mountWidget.1.Becomes d (ids ++ [⟨next⟩]) (next + 1) := by
  have hids : b.mountWidget.1.widgetIds = b.widgetIds ++ [⟨b.nextId⟩] := List.map_append
  refine ⟨h.dashboard, ?_, congrArg (· + 1) h.nextId⟩
  rw [hids, h.widgetIds, h.nextId]

/-- An edit of an element that leaves it as it is. -/
theorem modifyElement_eq_self {d : Dashboard α} {i : Nat} {e : Element α}
    (he : d.elements[i]? = some e) {edit : Element α → Element α} (h : edit e = e) :
    d.modifyElement i edit = d := by
  have hsame : d.elements.modify i edit = d.elements := by
    obtain ⟨hlt, rfl⟩ := List.getElem?_eq_some_iff.mp he
    rw [modify_eq_set_of_getElem? he, h, List.set_getElem_self]
  exact congrArg (fun elements => { d with elements }) hsame

/-- Changing options, as an edit of the document. -/
theorem changeOptions_becomes {b : Board α} {i : Nat} {e : Element α}
    (he : b.dashboard.elements[i]? = some e) (change : Fields → Fields)
    {edit : Element α → Element α} (h : edit e = { e with options := change e.options }) :
    (b.changeOptions i change).Becomes (b.dashboard.modifyElement i edit) b.widgetIds b.nextId := by
  have hsame : b.dashboard.elements.modify i (fun e => { e with options := change e.options }) =
      b.dashboard.elements.modify i edit := by
    rw [modify_eq_set_of_getElem? he, modify_eq_set_of_getElem? he, h]
  refine (syncPoller_retasked _ i).becomes ⟨?_, rfl, rfl⟩
  exact congrArg (fun elements => { b.dashboard with elements }) hsame

section

variable {b : Board α} (aligned : b.Aligned)

include aligned

theorem updateOptions_becomes (id : WidgetId) (update : Fields) :
    (b.updateOptions id update).1.Becomes
      ((b.indexOf? id).elim b.dashboard fun i =>
        b.dashboard.modifyElement i (·.updateOptions update))
      b.widgetIds b.nextId := by
  unfold updateOptions
  cases hi : b.indexOf? id with
  | none => exact .rfl
  | some i =>
    obtain ⟨w, hw, -⟩ := widget_of_indexOf? hi
    obtain ⟨e, he⟩ := aligned.exists_element hw
    have edited : e.updateOptions update = { e with options := e.options.merge update } := rfl
    exact changeOptions_becomes he (fun options => options.merge update) edited

theorem setTarget_becomes (id : WidgetId) (target : Option CheckTarget) :
    (b.setTarget id target).1.Becomes
      ((b.indexOf? id).elim b.dashboard fun i => b.dashboard.modifyElement i (·.bound target))
      b.widgetIds b.nextId := by
  unfold setTarget
  cases hi : b.indexOf? id with
  | none => exact .rfl
  | some i =>
    obtain ⟨w, hw, -⟩ := widget_of_indexOf? hi
    obtain ⟨e, he⟩ := aligned.exists_element hw
    simp only [he, Option.bind_some, Option.elim_some]
    cases hcheck : e.checkOptions? with
    | none =>
      have hbound : e.bound target = e := by
        unfold Element.bound
        simp only [hcheck]
      rw [modifyElement_eq_self he hbound]
      exact .rfl
    | some check =>
      refine changeOptions_becomes he (fun options => Element.boundOptions options check target) ?_
      unfold Element.bound
      simp only [hcheck]

theorem setSoundOverride_becomes (id : WidgetId) (state : CheckState) (url : String) :
    (b.setSoundOverride id state url).1.Becomes
      ((b.indexOf? id).elim b.dashboard fun i =>
        b.dashboard.modifyElement i (·.withSound state url))
      b.widgetIds b.nextId := by
  unfold setSoundOverride updateOptions element?
  cases hi : b.indexOf? id with
  | none => exact .rfl
  | some i =>
    obtain ⟨w, hw, -⟩ := widget_of_indexOf? hi
    obtain ⟨e, he⟩ := aligned.exists_element hw
    simp only [he, Option.bind_some, Option.elim_some]
    cases hcheck : e.checkOptions? with
    | none =>
      have hsound : e.withSound state url = e := by
        unfold Element.withSound
        simp only [hcheck]
      rw [modifyElement_eq_self he hsound]
      exact .rfl
    | some check =>
      refine changeOptions_becomes he
        (fun options => options.merge [(SoundSet.key state, .text url)]) ?_
      unfold Element.withSound Element.updateOptions
      simp only [hcheck]

theorem reorderElement_becomes (id : WidgetId) (destination : Nat) :
    (b.reorderElement id destination).1.Becomes
      ((b.indexOf? id).elim b.dashboard fun i => (b.dashboard.reorderElements i destination).1)
      ((b.indexOf? id).elim b.widgetIds fun i =>
        if destination < b.widgetIds.length then Dashboard.moveEntry b.widgetIds i destination
        else b.widgetIds)
      b.nextId := by
  unfold reorderElement
  cases hi : b.indexOf? id with
  | none => exact .rfl
  | some i =>
    have hlen : b.widgetIds.length = b.dashboard.elements.length :=
      (List.length_map _).trans aligned
    have hhas := aligned.has_of_indexOf? hi
    simp only [Dashboard.reorderElements, hhas, true_and, Option.elim_some, hlen]
    by_cases hd : destination < b.dashboard.elements.length
    · have hdest : b.dashboard.has destination = true := decide_eq_true hd
      simp only [hdest, if_true, if_pos hd]
      exact ⟨rfl, map_moveEntry _ _ _ _, rfl⟩
    · have hdest : ¬ b.dashboard.has destination = true := fun h => hd (of_decide_eq_true h)
      simp only [hdest, if_neg hd]
      exact .rfl

theorem duplicateElement_becomes (id : WidgetId) :
    (b.duplicateElement id).1.Becomes
      ((b.indexOf? id).elim b.dashboard fun i => (b.dashboard.duplicateElement i).1)
      ((b.indexOf? id).elim b.widgetIds fun _ => b.widgetIds ++ [⟨b.nextId⟩])
      (b.nextId + (b.indexOf? id).elim 0 fun _ => 1) := by
  unfold duplicateElement Dashboard.duplicateElement
  cases hi : b.indexOf? id with
  | none => exact .rfl
  | some i =>
    obtain ⟨w, hw, -⟩ := widget_of_indexOf? hi
    obtain ⟨e, he⟩ := aligned.exists_element hw
    simp only [he, Option.elim_some]
    refine (syncPoller_retasked _ _).becomes (Becomes.mountWidget ?_)
    exact ⟨rfl, rfl, rfl⟩

end

theorem setBackground_becomes (b : Board α) (url : String) :
    (b.setBackground url).1.Becomes { b.dashboard with background := url } b.widgetIds
      b.nextId := by
  unfold setBackground
  split
  · next h =>
    subst h
    exact .rfl
  · exact ⟨rfl, rfl, rfl⟩

theorem pointerDown_becomes (b : Board α) (target : PointerTarget) :
    (b.pointerDown target).1.Becomes b.dashboard b.widgetIds b.nextId := by
  unfold pointerDown
  split
  · exact .rfl
  · cases target with
    | canvas => exact ⟨rfl, rfl, rfl⟩
    | body id =>
      simp only
      split
      · exact ⟨rfl, rfl, rfl⟩
      · exact Becomes.rfl.select (some id)
    | resizeHandle id | rotateHandle id => exact ⟨rfl, rfl, rfl⟩

/-- A move of the pointer edits the element of the gesture's widget. -/
theorem pointerMove_becomes [Scalar α] {b : Board α} (aligned : b.Aligned) (event : PointerEvent α)
    (layout : Layout α) :
    (b.pointerMove event layout).1.Becomes
      ((BoardCommand.pointerMove event layout).onDashboard b.drag b.indexOf? b.dashboard)
      b.widgetIds b.nextId := by
  unfold pointerMove BoardCommand.onDashboard BoardCommand.edit?
  cases hactive : b.drag.active with
  | none => exact .rfl
  | some active =>
    obtain ⟨id, gesture⟩ := active
    simp only [Option.map_some]
    cases hi : b.indexOf? id with
    | none => exact ⟨rfl, rfl, rfl⟩
    | some i =>
      obtain ⟨w, hw, -⟩ := widget_of_indexOf? hi
      obtain ⟨e, he⟩ := aligned.exists_element hw
      have hmodify : ∀ edit : Element α → Element α, b.dashboard.modifyElement i edit =
          { b.dashboard with elements := b.dashboard.elements.set i (edit e) } := fun edit =>
        congrArg (fun elements => { b.dashboard with elements }) (modify_eq_set_of_getElem? he edit)
      simp only [he, Option.bind_some, Drag.pointerMove, hactive, Option.map_some, Option.elim_some,
        hmodify]
      exact ⟨rfl, rfl, rfl⟩

theorem setSlug_becomes (b : Board α) (slug : String) :
    (b.setSlug slug).Becomes { b.dashboard with slug } b.widgetIds b.nextId := by
  unfold setSlug
  split
  · next h =>
    subst h
    exact .rfl
  · obtain ⟨fleet, heq, -⟩ :=
      foldl_setSlug slug b.widgets { b with dashboard := { b.dashboard with slug } }
    have renamed : ({ b with dashboard := { b.dashboard with slug }, fleet } : Board α).Becomes
        { b.dashboard with slug } b.widgetIds b.nextId := ⟨rfl, rfl, rfl⟩
    exact Eq.mpr (congrArg (fun b' : Board α => b'.Becomes _ _ _) heq) renamed

theorem deleteElement_becomes (b : Board α) (id : WidgetId) :
    (b.deleteElement id).1.Becomes
      ((b.indexOf? id).elim b.dashboard fun i => (b.dashboard.deleteElement i).1)
      ((b.indexOf? id).elim b.widgetIds fun i => b.widgetIds.eraseIdx i) b.nextId := by
  cases hi : b.indexOf? id with
  | none =>
    unfold deleteElement
    simp only [hi]
    exact .rfl
  | some i =>
    rw [deleteElement_eq hi]
    exact ⟨rfl, (List.eraseIdx_map _ _ _).symm, rfl⟩

theorem retitleElement_becomes (b : Board α) (id : WidgetId) (title : String) :
    (b.retitleElement id title).1.Becomes
      ((b.indexOf? id).elim b.dashboard fun i => (b.dashboard.retitleElement i title).1)
      b.widgetIds b.nextId := by
  unfold retitleElement
  cases b.indexOf? id with
  | none => exact .rfl
  | some i => exact ⟨rfl, rfl, rfl⟩

theorem changeKind_becomes [Scalar α] (b : Board α) (id : WidgetId) (kind : ElementKind) :
    (b.changeKind id kind).1.Becomes
      ((b.indexOf? id).elim b.dashboard fun i => (b.dashboard.changeElementKind i kind).1)
      b.widgetIds b.nextId := by
  unfold changeKind
  cases b.indexOf? id with
  | none => exact .rfl
  | some i =>
    refine (syncPoller_retasked _ i).becomes ?_
    rw [cancelDragOf_filter]
    exact ⟨rfl, rfl, rfl⟩

/-- **What a command makes of document and numbers.** -/
theorem perform_becomes [Scalar α] {b : Board α} (aligned : b.Aligned) (c : BoardCommand α) :
    (b.perform c).1.Becomes (c.onDashboard b.drag b.indexOf? b.dashboard)
      (c.onIds b.indexOf? ⟨b.nextId⟩ b.widgetIds) (b.nextId + c.mounts b.indexOf?) := by
  cases c with
  | setTitle title =>
    show (b.setTitle title).1.Becomes _ _ _
    unfold setTitle
    split
    · next h =>
      subst h
      exact .rfl
    · exact ⟨rfl, rfl, rfl⟩
  | setBackground url => exact b.setBackground_becomes url
  | setSlug slug => exact b.setSlug_becomes slug
  | setGlobalMute muted => exact ⟨rfl, rfl, rfl⟩
  | select id => exact Becomes.rfl.select id
  | pointerDown target => exact b.pointerDown_becomes target
  | pointerMove event layout => exact pointerMove_becomes aligned event layout
  | pointerUp => exact ⟨rfl, rfl, rfl⟩
  | addElement =>
    refine Becomes.select ((syncPoller_retasked _ _).becomes (Becomes.mountWidget ?_)) _
    exact ⟨rfl, rfl, rfl⟩
  | deleteElement id => exact b.deleteElement_becomes id
  | duplicateElement id => exact duplicateElement_becomes aligned id
  | reorderElement id destination => exact reorderElement_becomes aligned id destination
  | retitleElement id title => exact b.retitleElement_becomes id title
  | changeKind id kind => exact b.changeKind_becomes id kind
  | updateOptions id update => exact updateOptions_becomes aligned id update
  | setTarget id target => exact setTarget_becomes aligned id target
  | setSoundOverride id state url => exact setSoundOverride_becomes aligned id state url
  | applyUpload target url =>
    cases target with
    | background => exact b.setBackground_becomes url
    | sound widget state => exact setSoundOverride_becomes aligned widget state url
  | unmount =>
    show b.unmount.Becomes _ _ _
    rw [unmount_eq]
    exact ⟨rfl, List.map_map, rfl⟩

/-- What holds of every element holds of every element after a command, if it holds of the default
element and no edit breaks it. -/
theorem forall_mem_perform [Scalar α] {b : Board α} (aligned : b.Aligned) {c : BoardCommand α}
    {P : Element α → Prop} (h : ∀ e ∈ b.dashboard.elements, P e) (default : P .default)
    (edited : ∀ id edit, c.edit? b.drag = some (id, edit) → ∀ e, b.element? id = some e → P e →
      P (edit e)) : ∀ e ∈ (b.perform c).1.dashboard.elements, P e := by
  rw [(perform_becomes aligned c).dashboard]
  refine BoardCommand.forall_mem_onDashboard h (fun _ _ hi => aligned.has_of_indexOf? hi) default ?_
  intro id edit hedit i hi e he
  refine edited id edit hedit e ?_
  unfold element?
  rw [hi, Option.bind_some, he]

/-- The element that a command edits is there after it. -/
theorem mem_perform_of_edit? [Scalar α] {b : Board α} (aligned : b.Aligned) {c : BoardCommand α}
    {id : WidgetId} {edit : Element α → Element α} (hedit : c.edit? b.drag = some (id, edit))
    {e : Element α} (he : b.element? id = some e) :
    edit e ∈ (b.perform c).1.dashboard.elements := by
  obtain ⟨i, hi, hei⟩ := Option.bind_eq_some_iff.mp he
  rw [(perform_becomes aligned c).dashboard,
    BoardCommand.onDashboard_of_edit hedit fun _ hi => aligned.has_of_indexOf? hi, hi]
  show edit e ∈ b.dashboard.elements.modify i edit
  rw [modify_eq_set_of_getElem? hei]
  exact List.mem_set (List.getElem?_eq_some_iff.mp hei).1 (edit e)

/-! ## Boards are registers -/

/-- The numbers and their elements, in order, and the next number. -/
def register (b : Board α) : Register α :=
  { rows := b.widgetIds.zip b.dashboard.elements, next := b.nextId }

theorem Becomes.register {b : Board α} {d : Dashboard α} {ids : List WidgetId} {next : Nat}
    (h : b.Becomes d ids next) : b.register = { rows := ids.zip d.elements, next } := by
  unfold Board.register
  rw [h.dashboard, h.widgetIds, h.nextId]

theorem Aligned.length_widgetIds {b : Board α} (aligned : b.Aligned) :
    b.widgetIds.length = b.dashboard.elements.length :=
  (List.length_map _).trans aligned

theorem keys_register {b : Board α} (aligned : b.Aligned) : b.register.keys = b.widgetIds :=
  List.map_fst_zip (Nat.le_of_eq aligned.length_widgetIds)

/-- The entry of a number stands at the number's place. -/
theorem rows_of_indexOf? {b : Board α} (aligned : b.Aligned) {id : WidgetId} {i : Nat}
    (hi : b.indexOf? id = some i) :
    ∃ e, b.dashboard.elements[i]? = some e ∧ b.register.rows[i]? = some (id, e) := by
  obtain ⟨w, hw, rfl⟩ := widget_of_indexOf? hi
  obtain ⟨e, he⟩ := aligned.exists_element hw
  refine ⟨e, he, List.getElem?_zip_eq_some.mpr ⟨?_, he⟩⟩
  unfold widgetIds
  rw [List.getElem?_map, hw]
  rfl

section

variable {b : Board α} (hb : b.InStep)

include hb

theorem InStep.register_valid : b.register.Valid where
  nodup := by
    rw [keys_register hb.aligned]
    exact hb.nodup
  fresh id hid := by
    rw [keys_register hb.aligned] at hid
    obtain ⟨w, hw, rfl⟩ := List.mem_map.mp hid
    exact hb.fresh w hw

/-- The element of a widget is the one under its number. -/
theorem InStep.find?_register (id : WidgetId) : b.register.find? id = b.element? id := by
  unfold element?
  cases hi : b.indexOf? id with
  | none =>
    have habsent := indexOf?_eq_none_iff.mp hi
    rw [← keys_register hb.aligned] at habsent
    cases hfind : b.register.find? id with
    | none => rfl
    | some e => exact absurd (Register.mem_keys_of_find? hb.register_valid hfind) habsent
  | some i =>
    obtain ⟨e, he, hrow⟩ := rows_of_indexOf? hb.aligned hi
    rw [Option.bind_some, he]
    exact (Register.find?_eq_some_iff hb.register_valid).mpr (List.mem_of_getElem? hrow)

/-- A number that no widget has is not in the register. -/
theorem InStep.not_mem_keys {id : WidgetId} (hi : b.indexOf? id = none) {p : WidgetId × Element α}
    (hp : p ∈ b.register.rows) : p.1 ≠ id := by
  rintro rfl
  refine indexOf?_eq_none_iff.mp hi ?_
  rw [← keys_register hb.aligned]
  exact List.mem_map_of_mem hp

/-- An edit at the place of a number is an edit under the number. -/
theorem InStep.register_update (id : WidgetId) (edit : Element α → Element α) :
    ({ rows := b.widgetIds.zip ((b.indexOf? id).elim b.dashboard fun i =>
          b.dashboard.modifyElement i edit).elements
       next := b.nextId } : Register α) = b.register.update id edit := by
  cases hi : b.indexOf? id with
  | none =>
    have hsame : (b.register.rows.map fun p => if p.1 = id then (p.1, edit p.2) else p) =
        b.register.rows :=
      (List.map_congr_left fun p hp => if_neg (hb.not_mem_keys hi hp)).trans (List.map_id _)
    exact congrArg (Register.mk · b.nextId) hsame.symm
  | some i =>
    obtain ⟨e, -, hrow⟩ := rows_of_indexOf? hb.aligned hi
    have hzip : b.widgetIds.zip (b.dashboard.elements.modify i edit) =
        b.register.rows.modify i fun p => (p.1, edit p.2) := zip_modify _ _ i edit
    refine congrArg (Register.mk · b.nextId) (hzip.trans ?_)
    exact modify_eq_map hb.register_valid.nodup hrow _

/-- Taking out at the place of a number is removing the number. -/
theorem InStep.rows_remove {id : WidgetId} {i : Nat} (hi : b.indexOf? id = some i) :
    (b.register.remove id).rows = b.register.rows.eraseIdx i := by
  obtain ⟨e, -, hrow⟩ := rows_of_indexOf? hb.aligned hi
  exact (eraseIdx_eq_filter hb.register_valid.nodup hrow).symm

section

variable [Scalar α]

omit [Scalar α] in
/-- A new entry at the end of both lists. -/
theorem InStep.register_append (e : Element α) :
    ({ rows := (b.widgetIds ++ [WidgetId.mk b.nextId]).zip (b.dashboard.elements ++ [e])
       next := b.nextId + 1 } : Register α) = b.register.append e := by
  have hzip : (b.widgetIds ++ [WidgetId.mk b.nextId]).zip (b.dashboard.elements ++ [e]) =
      b.widgetIds.zip b.dashboard.elements ++ [(WidgetId.mk b.nextId, e)] :=
    List.zip_append hb.aligned.length_widgetIds
  exact congrArg (Register.mk · (b.nextId + 1)) hzip

theorem InStep.register_deleteElement (id : WidgetId) :
    (b.perform (.deleteElement id)).1.register = b.register.remove id := by
  rw [(perform_becomes hb.aligned _).register]
  simp only [BoardCommand.onDashboard, BoardCommand.onIds, BoardCommand.mounts]
  cases hi : b.indexOf? id with
  | none =>
    have hsame : b.register.rows.filter (·.1 ≠ id) = b.register.rows :=
      List.filter_eq_self.mpr fun p hp => decide_eq_true (hb.not_mem_keys hi hp)
    exact congrArg (Register.mk · b.nextId) hsame.symm
  | some i =>
    obtain ⟨e, he, -⟩ := rows_of_indexOf? hb.aligned hi
    simp only [Option.elim_some, Dashboard.deleteElement, he, zip_eraseIdx]
    exact congrArg (Register.mk · b.nextId) (hb.rows_remove hi).symm

theorem InStep.register_duplicateElement (id : WidgetId) :
    (b.perform (.duplicateElement id)).1.register =
      b.register.apply b.drag (.duplicateElement id) := by
  rw [(perform_becomes hb.aligned _).register]
  simp only [BoardCommand.onDashboard, BoardCommand.onIds, BoardCommand.mounts, Register.apply,
    hb.find?_register, element?]
  cases hi : b.indexOf? id with
  | none => rfl
  | some i =>
    obtain ⟨e, he, -⟩ := rows_of_indexOf? hb.aligned hi
    simp only [Option.bind_some, Option.elim_some, Dashboard.duplicateElement, he]
    exact hb.register_append e

/-- Moving at the place of a number is moving the number. -/
theorem InStep.register_reorderElement (id : WidgetId) (destination : Nat) :
    (b.perform (.reorderElement id destination)).1.register = b.register.move id destination := by
  have aligned := hb.aligned
  rw [(perform_becomes aligned _).register]
  simp only [BoardCommand.onDashboard, BoardCommand.onIds, BoardCommand.mounts, Register.move,
    hb.find?_register, element?]
  cases hi : b.indexOf? id with
  | none => rfl
  | some i =>
    obtain ⟨e, he, hrow⟩ := rows_of_indexOf? aligned hi
    have hlen : b.register.rows.length = b.dashboard.elements.length := by
      unfold register
      rw [List.length_zip, aligned.length_widgetIds, Nat.min_self]
    have hmoved : Dashboard.moveEntry b.register.rows i destination =
        (b.register.remove id).rows.insertIdx destination (id, e) := by
      unfold Dashboard.moveEntry
      rw [hrow, hb.rows_remove hi]
    simp only [Option.bind_some, Option.elim_some, he, Dashboard.reorderElements,
      aligned.has_of_indexOf? hi, true_and, hlen, aligned.length_widgetIds]
    by_cases hd : destination < b.dashboard.elements.length
    · have hdest : b.dashboard.has destination = true := decide_eq_true hd
      simp only [hdest, if_true, if_pos hd, ← hmoved]
      exact congrArg (Register.mk · b.nextId) (zip_moveEntry aligned.length_widgetIds _ _)
    · have hdest : ¬ b.dashboard.has destination = true := fun h => hd (of_decide_eq_true h)
      simp only [hdest, if_neg hd]
      rfl

/-- **A command is an operation of the register.** -/
theorem InStep.register_perform (c : BoardCommand α) :
    (b.perform c).1.register = b.register.apply b.drag c := by
  have becomes := (perform_becomes hb.aligned c).register
  cases hedit : c.edit? b.drag with
  | some p =>
    obtain ⟨id, edit⟩ := p
    rw [becomes, Register.apply_eq_update hedit,
      BoardCommand.onDashboard_of_edit hedit fun _ hi => hb.aligned.has_of_indexOf? hi,
      ← hb.register_update id edit]
    cases c with
    | addElement | deleteElement _ | duplicateElement _ | reorderElement _ _ => cases hedit
    | _ => rfl
  | none =>
    cases c with
    | addElement => exact becomes.trans (hb.register_append .default)
    | deleteElement id => exact hb.register_deleteElement id
    | duplicateElement id => exact hb.register_duplicateElement id
    | reorderElement id destination => exact hb.register_reorderElement id destination
    | pointerMove event layout =>
      rw [becomes]
      simp only [BoardCommand.onDashboard, Register.apply, hedit]
      rfl
    | applyUpload target url =>
      cases target with
      | background => exact becomes
      | sound widget state => cases hedit
    | retitleElement _ _ | changeKind _ _ | updateOptions _ _ | setTarget _ _
    | setSoundOverride _ _ _ => cases hedit
    | _ => exact becomes

end

end

end Board

end StatusWall
