import StatusWall.Proofs.Board.Focus

/-!
# No operation reaches outside

The operations of a board go to a place of one of its two lists without asking whether the place is
there, and a move of the pointer counts on the gesture's widget. Here are the same operations with
the question asked: each is nothing at all (`none`) where a place is not there, or where the gesture
is on a widget that is gone. On a well-formed board the answer is never `none`
(`tryPerform_eq`), and what comes out is what the operation itself makes of the board.
-/

namespace StatusWall

open Json StatusWall.Geometry

/-! ## Lists that end somewhere -/

section Lists

variable {β : Type} {l : List β} {i : Nat}

/-- Takes the entry at a place out of a list, if it is there. -/
def removeAt? (l : List β) (i : Nat) : Option (List β × β) :=
  l[i]?.map fun a => (l.eraseIdx i, a)

/-- Puts an entry in at a place, if the list reaches that far. -/
def insertAt? (l : List β) (i : Nat) (a : β) : Option (List β) :=
  if i ≤ l.length then some (l.insertIdx i a) else none

/-- Takes an entry out and puts it in again at another place, if both places are there. -/
def moveEntry? (l : List β) (source destination : Nat) : Option (List β) := do
  let (rest, a) ← removeAt? l source
  insertAt? rest destination a

/-- A place that is there can be emptied. -/
theorem removeAt?_eq (h : i < l.length) : removeAt? l i = some (l.eraseIdx i, l[i]) := by
  unfold removeAt?
  rw [List.getElem?_eq_getElem h]
  rfl

/-- Between places that are there, the move that asks is the move that does not. -/
theorem moveEntry?_eq {source destination : Nat} (hs : source < l.length)
    (hd : destination < l.length) :
    moveEntry? l source destination = some (Dashboard.moveEntry l source destination) := by
  have hle : destination ≤ (l.eraseIdx source).length := by
    rw [List.length_eraseIdx_of_lt hs]
    omega
  unfold moveEntry? Dashboard.moveEntry
  rw [removeAt?_eq hs, List.getElem?_eq_getElem hs]
  exact if_pos hle

end Lists

namespace Board

variable {α : Type}

/-! ## The operations, asking -/

/-- The element of a widget. -/
def tryElement (b : Board α) (id : WidgetId) : Option (Option (Element α)) :=
  match b.indexOf? id with
  | none => some none
  | some i => b.dashboard.elements[i]?.map some

/-- The state of a widget. -/
def tryStatus (b : Board α) (id : WidgetId) : Option (Option WidgetStatus) :=
  match b.indexOf? id with
  | none => some none
  | some i => b.widgets[i]?.map (·.status)

/-- Brings the task of the widget at a place in line with the element there. -/
def trySyncPoller (b : Board α) (i : Nat) : Option (Board α) :=
  if i < b.dashboard.elements.length ∧ i < b.widgets.length then some (b.syncPoller i) else none

/-- Mounts a widget for each element and starts the tasks. -/
def tryNew (dashboard : Dashboard α) (fleet : Option Fleet) : Option (Board α) :=
  (List.range dashboard.elements.length).foldlM (fun b i => b.mountWidget.1.trySyncPoller i)
    { dashboard, fleet }

/-- The pointer moved. The widget of the gesture must be there. -/
def tryPointerMove [Scalar α] (b : Board α) (event : PointerEvent α) (layout : Layout α) :
    Option (Board α × Option WidgetId) :=
  match b.drag.active with
  | none => some (b, none)
  | some (id, gesture) => do
    let i ← b.indexOf? id
    let e ← b.dashboard.elements[i]?
    let e := e.place (gesture.apply e.placement layout event)
    some ({ b with dashboard := b.dashboard.modifyElement i fun _ => e }, some id)

/-- Appends the default element. Its place must be there when its task is started. -/
def tryAddElement [Scalar α] (b : Board α) : Option (Board α × WidgetId) := do
  let (dashboard, i) := b.dashboard.addElement
  let (b, id) := { b with dashboard }.mountWidget
  let b ← b.trySyncPoller i
  some (b.select (some id), id)

/-- Removes a widget. Its place must be one of both lists. -/
def tryDeleteElement (b : Board α) (id : WidgetId) : Option (Board α × Option (Element α)) :=
  match b.indexOf? id with
  | none => some (b, none)
  | some i => do
    let b := b.cancelDragOf id
    let b := if b.selected = some id then { b with selected := none } else b
    let (widgets, w) ← removeAt? b.widgets i
    let (dashboard, element) := b.dashboard.deleteElement i
    some ({ b with dashboard, widgets, fleet := b.fleet.map (·.release w.poller) }, element)

def tryDuplicateElement (b : Board α) (id : WidgetId) : Option (Board α × Option WidgetId) :=
  match b.indexOf? id with
  | none => some (b, none)
  | some i =>
    match b.dashboard.duplicateElement i with
    | (_, none) => some (b, none)
    | (dashboard, some copyIndex) => do
      let (b, copy) := { b with dashboard }.mountWidget
      let b ← b.trySyncPoller copyIndex
      some (b, some copy)

/-- Moves an element, and its widget after it. The widget's places must be there. -/
def tryReorderElement (b : Board α) (id : WidgetId) (destination : Nat) :
    Option (Board α × Bool) :=
  match b.indexOf? id with
  | none => some (b, false)
  | some source =>
    match b.dashboard.reorderElements source destination with
    | (_, false) => some (b, false)
    | (dashboard, true) => do
      let widgets ← moveEntry? b.widgets source destination
      some ({ b with dashboard, widgets }, true)

/-- Switches a widget to another kind. Its element must be there when the task is brought in line.
-/
def tryChangeKind [Scalar α] (b : Board α) (id : WidgetId) (kind : ElementKind) :
    Option (Board α × Bool) :=
  match b.indexOf? id with
  | none => some (b, false)
  | some i => do
    let b := b.cancelDragOf id
    let b ← { b with dashboard := (b.dashboard.changeElementKind i kind).1 }.trySyncPoller i
    some (b, true)

/-- Changes the options of the widget at a place, and its task accordingly. -/
def tryChangeOptions (b : Board α) (i : Nat) (change : Fields → Fields) : Option (Board α) := do
  let e ← b.dashboard.elements[i]?
  let e := { e with options := change e.options }
  { b with dashboard := b.dashboard.modifyElement i fun _ => e }.trySyncPoller i

def tryUpdateOptions (b : Board α) (id : WidgetId) (update : Fields) : Option (Board α × Bool) :=
  match b.indexOf? id with
  | none => some (b, false)
  | some i => do
    let b ← b.tryChangeOptions i (·.merge update)
    some (b, true)

/-- Binds a check. The element must be there to be asked whether it is one. -/
def trySetTarget (b : Board α) (id : WidgetId) (target : Option CheckTarget) :
    Option (Board α × Bool) :=
  match b.indexOf? id with
  | none => some (b, false)
  | some i => do
    let e ← b.dashboard.elements[i]?
    match e.checkOptions? with
    | none => some (b, false)
    | some check =>
      let b ← b.tryChangeOptions i fun options => Element.boundOptions options check target
      some (b, true)

def trySetSoundOverride (b : Board α) (id : WidgetId) (state : CheckState) (url : String) :
    Option (Board α × Bool) := do
  match (← b.tryElement id).bind Element.checkOptions? with
  | none => some (b, false)
  | some _ => b.tryUpdateOptions id [(SoundSet.key state, .text url)]

/-- Carries out a command, if every place it goes to is there. The commands that are not listed go
to no place. -/
def tryPerform [Scalar α] (b : Board α) : BoardCommand α → Option (Board α × BoardAnswer α)
  | .pointerMove event layout => (b.tryPointerMove event layout).map (answering .widget)
  | .addElement => b.tryAddElement.map (answering (.widget ∘ some))
  | .deleteElement id => (b.tryDeleteElement id).map (answering .element)
  | .duplicateElement id => (b.tryDuplicateElement id).map (answering .widget)
  | .reorderElement id destination => (b.tryReorderElement id destination).map (answering .done)
  | .changeKind id kind => (b.tryChangeKind id kind).map (answering .done)
  | .updateOptions id update => (b.tryUpdateOptions id update).map (answering .done)
  | .setTarget id target => (b.trySetTarget id target).map (answering .done)
  | .setSoundOverride id state url
  | .applyUpload (.sound id state) url => (b.trySetSoundOverride id state url).map (answering .done)
  | c => some (b.perform c)

/-! ## The answer is never `none` -/

theorem trySyncPoller_eq {b : Board α} {i : Nat} (he : i < b.dashboard.elements.length)
    (hw : i < b.widgets.length) : b.trySyncPoller i = some (b.syncPoller i) :=
  if_pos ⟨he, hw⟩

section

variable {b : Board α} (aligned : b.Aligned) {id : WidgetId} {i : Nat}

include aligned

/-- A number names a place of both lists. -/
theorem Aligned.inside (hi : b.indexOf? id = some i) :
    i < b.widgets.length ∧ i < b.dashboard.elements.length := by
  obtain ⟨w, hw, -⟩ := widget_of_indexOf? hi
  have hlt : i < b.widgets.length := (List.getElem?_eq_some_iff.mp hw).1
  exact ⟨hlt, aligned ▸ hlt⟩

/-- The place a number names is still there after an edit that keeps the lengths. -/
theorem Aligned.trySyncPoller_eq (hi : b.indexOf? id = some i) {b' : Board α}
    (hw : b'.widgets.length = b.widgets.length)
    (he : b'.dashboard.elements.length = b.dashboard.elements.length) :
    b'.trySyncPoller i = some (b'.syncPoller i) := by
  obtain ⟨hi, hi'⟩ := aligned.inside hi
  exact Board.trySyncPoller_eq (he ▸ hi') (hw ▸ hi)

theorem tryElement_eq (id : WidgetId) : b.tryElement id = some (b.element? id) := by
  unfold tryElement element?
  cases hi : b.indexOf? id with
  | none => rfl
  | some i =>
    obtain ⟨-, he⟩ := aligned.inside hi
    simp only [List.getElem?_eq_getElem he, Option.map_some, Option.bind_some]

omit aligned in
theorem tryStatus_eq (id : WidgetId) : b.tryStatus id = some (b.status? id) := by
  unfold tryStatus status? widget?
  cases hi : b.indexOf? id with
  | none => rfl
  | some i =>
    obtain ⟨w, hw, -⟩ := widget_of_indexOf? hi
    simp only [hw, Option.map_some, Option.bind_some]

theorem tryAddElement_eq [Scalar α] : b.tryAddElement = some b.addElement := by
  unfold tryAddElement addElement Dashboard.addElement mountWidget
  have hlen : b.widgets.length = b.dashboard.elements.length := aligned
  simp only
  rw [trySyncPoller_eq (by simp) (by simp [hlen])]
  rfl

omit aligned in
theorem tryDeleteElement_eq (id : WidgetId) :
    b.tryDeleteElement id = some (b.deleteElement id) := by
  cases hi : b.indexOf? id with
  | none =>
    unfold tryDeleteElement deleteElement
    rw [hi]
  | some i =>
    obtain ⟨w, hw, -⟩ := widget_of_indexOf? hi
    have hremoved : removeAt? b.widgets i = some (b.widgets.eraseIdx i, w) := by
      unfold removeAt?
      rw [hw]
      rfl
    have hselected := filter_ne_eq_ite id (fun x => x) b.selected
    rw [Option.map_id'] at hselected
    rw [deleteElement_eq hi, hselected, hw]
    unfold tryDeleteElement
    rw [hi]
    simp only [cancelDragOf_filter]
    by_cases h : b.selected = some id
    · simp only [if_pos h, hremoved]
      rfl
    · simp only [if_neg h, hremoved]
      rfl

theorem tryDuplicateElement_eq (id : WidgetId) :
    b.tryDuplicateElement id = some (b.duplicateElement id) := by
  unfold tryDuplicateElement duplicateElement Dashboard.duplicateElement
  have hlen : b.widgets.length = b.dashboard.elements.length := aligned
  cases hi : b.indexOf? id with
  | none => rfl
  | some i =>
    obtain ⟨-, he⟩ := aligned.inside hi
    simp only [List.getElem?_eq_getElem he, mountWidget]
    rw [trySyncPoller_eq (by simp) (by simp [hlen])]
    rfl

/-- Where the document accepts a move, the widgets can make it. -/
theorem tryReorderElement_eq (id : WidgetId) (destination : Nat) :
    b.tryReorderElement id destination = some (b.reorderElement id destination) := by
  unfold tryReorderElement reorderElement Dashboard.reorderElements
  cases hi : b.indexOf? id with
  | none => rfl
  | some i =>
    obtain ⟨hw, he⟩ := aligned.inside hi
    by_cases hhas : b.dashboard.has i ∧ b.dashboard.has destination
    · have hd : destination < b.widgets.length := aligned ▸ of_decide_eq_true hhas.2
      simp only [if_pos hhas, moveEntry?_eq hw hd]
      rfl
    · simp only [if_neg hhas]

theorem tryChangeKind_eq [Scalar α] (id : WidgetId) (kind : ElementKind) :
    b.tryChangeKind id kind = some (b.changeKind id kind) := by
  unfold tryChangeKind changeKind
  cases hi : b.indexOf? id with
  | none => rfl
  | some i =>
    have hlen : (b.dashboard.changeElementKind i kind).1.elements.length =
        b.dashboard.elements.length := by
      unfold Dashboard.changeElementKind
      split
      · exact List.length_modify _ _ _
      · rfl
    simp only [cancelDragOf_filter]
    rw [aligned.trySyncPoller_eq hi ?_ ?_]
    · rfl
    · rfl
    · exact hlen

/-- The options of a widget's element can be reached. -/
theorem tryChangeOptions_eq (hi : b.indexOf? id = some i) (change : Fields → Fields) :
    b.tryChangeOptions i change = some (b.changeOptions i change) := by
  obtain ⟨-, he⟩ := aligned.inside hi
  have helement := List.getElem?_eq_getElem he
  unfold tryChangeOptions changeOptions Dashboard.modifyElement
  simp only [helement, modify_eq_set_of_getElem? helement]
  rw [Option.bind_eq_bind, Option.bind_some, aligned.trySyncPoller_eq hi ?_ ?_]
  · rfl
  · exact List.length_set

theorem tryUpdateOptions_eq (id : WidgetId) (update : Fields) :
    b.tryUpdateOptions id update = some (b.updateOptions id update) := by
  unfold tryUpdateOptions updateOptions
  cases hi : b.indexOf? id with
  | none => rfl
  | some i =>
    simp only [tryChangeOptions_eq aligned hi]
    rfl

theorem trySetTarget_eq (id : WidgetId) (target : Option CheckTarget) :
    b.trySetTarget id target = some (b.setTarget id target) := by
  unfold trySetTarget setTarget
  cases hi : b.indexOf? id with
  | none => rfl
  | some i =>
    obtain ⟨-, he⟩ := aligned.inside hi
    simp only [List.getElem?_eq_getElem he, Option.bind_eq_bind, Option.bind_some]
    cases b.dashboard.elements[i].checkOptions? with
    | none => rfl
    | some check =>
      simp only [tryChangeOptions_eq aligned hi]
      rfl

theorem trySetSoundOverride_eq (id : WidgetId) (state : CheckState) (url : String) :
    b.trySetSoundOverride id state url = some (b.setSoundOverride id state url) := by
  unfold trySetSoundOverride setSoundOverride
  rw [tryElement_eq aligned, Option.bind_eq_bind, Option.bind_some]
  cases (b.element? id).bind Element.checkOptions? with
  | none => rfl
  | some _ => exact tryUpdateOptions_eq aligned id _

end

/-- A move of the pointer finds the gesture's widget, so that it never abandons the gesture. -/
theorem WellFormed.tryPointerMove_eq [Scalar α] {b : Board α} (hb : b.WellFormed)
    (event : PointerEvent α) (layout : Layout α) :
    b.tryPointerMove event layout = some (b.pointerMove event layout) := by
  unfold tryPointerMove pointerMove
  cases hactive : b.drag.active with
  | none => rfl
  | some active =>
    obtain ⟨id, gesture⟩ := active
    obtain ⟨hthere, -⟩ := hb.gesture id gesture hactive
    obtain ⟨i, hi⟩ : ∃ i, b.indexOf? id = some i := by
      by_contra habsent
      exact indexOf?_eq_none_iff.mp (Option.eq_none_iff_forall_ne_some.mpr fun i hi =>
        habsent ⟨i, hi⟩) hthere
    obtain ⟨-, he⟩ := Aligned.inside hb.aligned hi
    unfold Drag.pointerMove
    simp only [hi, hactive, List.getElem?_eq_getElem he, Option.map_some, Option.bind_some,
      Option.bind_eq_bind]

/-- **On a well-formed board every command finds what it goes to.** -/
theorem WellFormed.tryPerform_eq [Scalar α] {b : Board α} (hb : b.WellFormed)
    (c : BoardCommand α) : b.tryPerform c = some (b.perform c) := by
  have aligned : b.Aligned := hb.aligned
  cases c with
  | pointerMove event layout => exact congrArg (Option.map _) (hb.tryPointerMove_eq event layout)
  | addElement => exact congrArg (Option.map _) (tryAddElement_eq aligned)
  | deleteElement id => exact congrArg (Option.map _) (b.tryDeleteElement_eq id)
  | duplicateElement id => exact congrArg (Option.map _) (tryDuplicateElement_eq aligned id)
  | reorderElement id destination =>
    exact congrArg (Option.map _) (tryReorderElement_eq aligned id destination)
  | changeKind id kind => exact congrArg (Option.map _) (tryChangeKind_eq aligned id kind)
  | updateOptions id update => exact congrArg (Option.map _) (tryUpdateOptions_eq aligned id update)
  | setTarget id target => exact congrArg (Option.map _) (trySetTarget_eq aligned id target)
  | setSoundOverride id state url =>
    exact congrArg (Option.map _) (trySetSoundOverride_eq aligned id state url)
  | applyUpload target url =>
    cases target with
    | background => rfl
    | sound id state => exact congrArg (Option.map _) (trySetSoundOverride_eq aligned id state url)
  | setTitle _ | setBackground _ | setSlug _ | setGlobalMute _ | select _ | pointerDown _
  | pointerUp | retitleElement _ _ | unmount => rfl

/-- A new board mounts a widget for each element, at the place of the element. -/
theorem tryNew_eq (d : Dashboard α) (fleet : Option Fleet) :
    tryNew d fleet = some (Board.new d fleet) := by
  have mounted : ∀ k : Nat, k ≤ d.elements.length →
      ∃ b, (List.range k).foldlM (fun b i => b.mountWidget.1.trySyncPoller i)
          ({ dashboard := d, fleet } : Board α) = some b ∧
        (List.range k).foldl (fun b i => b.mountWidget.1.syncPoller i)
          ({ dashboard := d, fleet } : Board α) = b ∧
        b.dashboard = d ∧ b.widgetIds.length = k := by
    intro k
    induction k with
    | zero => exact fun _ => ⟨_, rfl, rfl, rfl, rfl⟩
    | succ k ih =>
      intro hk
      obtain ⟨b, htry, heq, hd, hlen⟩ := ih (Nat.le_of_succ_le hk)
      have sync := syncPoller_retasked b.mountWidget.1 k
      have hlen' : b.mountWidget.1.widgetIds.length = k + 1 := by
        unfold mountWidget widgetIds at *
        rw [List.length_map] at hlen ⊢
        rw [List.length_append, hlen]
        rfl
      have hwidget : k < b.mountWidget.1.widgets.length := by
        unfold widgetIds at hlen'
        rw [List.length_map] at hlen'
        omega
      have helement : k < b.mountWidget.1.dashboard.elements.length := by
        show k < b.dashboard.elements.length
        rw [hd]
        exact hk
      refine ⟨b.mountWidget.1.syncPoller k, ?_, ?_, sync.dashboard.trans hd, sync.ids ▸ hlen'⟩
      · rw [List.range_succ, List.foldlM_append, htry]
        simp only [Option.bind_eq_bind, Option.bind_some, List.foldlM_cons,
          trySyncPoller_eq helement hwidget]
        rfl
      · rw [List.range_succ, List.foldl_append, heq]
        rfl
  obtain ⟨b, htry, heq, -, -⟩ := mounted d.elements.length (Nat.le_refl _)
  exact htry.trans (congrArg some heq.symm)

end Board

/-! ## Whole runs -/

namespace Chronicle

variable [Scalar α]

/-- The board of a document, if every place is there that mounting goes to. -/
def tryStart (d : Dashboard α) (polling : Option PollConfig) : Option (Chronicle α) :=
  (Board.tryNew d (polling.map fun config => { config })).map fun board => { board }

/-- Carries a moment out, if every place is there that a command goes to. -/
def tryStep (c : Chronicle α) : Moment α → Option (Chronicle α)
  | .command command => (c.board.tryPerform command).map fun r => { c with board := r.1 }
  | m => some (c.step m)

/-- Carries moments out one after the other, as long as every place is there. -/
def tryRun (c : Chronicle α) (ms : List (Moment α)) : Option (Chronicle α) := ms.foldlM tryStep c

/-- Whatever happens to a well-formed board, no place is missing. -/
theorem tryStep_eq {c : Chronicle α} (hc : c.board.WellFormed) (m : Moment α) :
    c.tryStep m = some (c.step m) := by
  cases m with
  | command command =>
    unfold tryStep
    simp only [hc.tryPerform_eq command]
    rfl
  | turn _ _ _ | deliver _ | pass _ | letGo | stop _ | hangUp => rfl

/-- **No run ever gets stuck.** -/
theorem tryRun_eq {c : Chronicle α} (hc : c.Sound) (h : c.board.Focused) (ms : List (Moment α)) :
    c.tryRun ms = some (c.run ms) := by
  induction ms generalizing c with
  | nil => rfl
  | cons m ms ih =>
    have hstep := tryStep_eq (hc.inStep.wellFormed h) m
    unfold tryRun
    rw [List.foldlM_cons, hstep]
    exact ih (hc.step m) (h.refocus (step_refocus hc.inStep m))

/-- **Every board is well formed, and nothing on it reaches outside its lists**, whatever happened
to it. A run that would end where a place is not there, or where a gesture is on a widget that is
gone, goes through to its end. -/
theorem boards_are_well_formed (d : Dashboard α) (polling : Option PollConfig)
    (ms : List (Moment α)) (ss : List (Source × RunStep α)) :
    let b := ((start d polling).run ms).board
    let b' := (BoardRun.steps { board := (start d polling).board } ss).board
    (b.WellFormed ∧ b'.WellFormed) ∧
    ((tryStart d polling).bind fun c => c.tryRun ms) = some ((start d polling).run ms) ∧
    (∀ c, b.tryPerform c = some (b.perform c) ∧ b'.tryPerform c = some (b'.perform c)) ∧
    ∀ id, b.tryElement id = some (b.element? id) ∧ b'.tryElement id = some (b'.element? id) ∧
      b.tryStatus id = some (b.status? id) ∧ b'.tryStatus id = some (b'.status? id) := by
  intro b b'
  obtain ⟨ms', hcovers, -⟩ := covers_run d polling ss
  have hb : b.WellFormed := wellFormed_run d polling ms
  have hsame : b' = ((start d polling).run ms').board := hcovers.board.symm
  have hb' : b'.WellFormed := by
    rw [hsame]
    exact wellFormed_run d polling ms'
  refine ⟨⟨hb, hb'⟩, ?_, fun c => ⟨hb.tryPerform_eq c, hb'.tryPerform_eq c⟩, fun id => ?_⟩
  · unfold tryStart
    rw [Board.tryNew_eq]
    exact tryRun_eq (Sound.start d polling) (Board.new_focused d _) ms
  · exact ⟨Board.tryElement_eq hb.aligned id, Board.tryElement_eq hb'.aligned id,
      b.tryStatus_eq id, b'.tryStatus_eq id⟩

end Chronicle

end StatusWall
