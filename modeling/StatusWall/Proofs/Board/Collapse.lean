import StatusWall.Proofs.Board.Moves
import StatusWall.Proofs.Geometry.Range
import StatusWall.Proofs.Geometry.Series

/-!
# On a canvas one cannot divide by

A window that is made very small leaves a canvas without a width or a height, and what is counted in
percent of it means nothing. Moving and resizing notice this and leave the rectangle, but two things
happen all the same. A ticker is spread over the width of the canvas, since this needs no canvas. And a
gesture that turns does turn, since an angle is not counted in percent: it is computed from a center that
may lie anywhere, or nowhere.

So a drag that goes on in such a window leaves the document exactly if there is nothing to spread and
nothing to turn (`Gesture.LeavesAlone`, `Chronicle.collapsed_canvas_changes_nothing_iff`).
-/

namespace StatusWall

open StatusWall.Geometry

/-! ## Doubles one cannot divide by -/

namespace Double

/-- A length one cannot divide by: none at all, without an end, zero or less. -/
def Degenerate (x : Float) : Prop := x.isNaN = true ∨ x.isInf = true ∨ x ≤ 0.0

theorem isFinite_eq_false_iff {x : Float} :
    x.isFinite = false ↔ x.isNaN = true ∨ x.isInf = true := by
  show x.toModel.unpack.isFinite = false ↔
    x.toModel.unpack.isNaN = true ∨ x.toModel.unpack.isInf = true
  cases x.toModel.unpack with
  | notANumber => exact ⟨fun _ => .inl rfl, fun _ => rfl⟩
  | infinity s => exact ⟨fun _ => .inr rfl, fun _ => rfl⟩
  | zero s | finite s m e hm => exact ⟨nofun, nofun⟩

theorem degenerate_iff {x : Float} : Degenerate x ↔ ¬ (x.isFinite = true ∧ 0.0 < x) := by
  unfold Degenerate
  rw [← or_assoc, ← isFinite_eq_false_iff, not_and_or, Bool.not_eq_true]
  cases finite : x.isFinite with
  | false => exact ⟨fun _ => .inl rfl, fun _ => .inl rfl⟩
  | true =>
    obtain ⟨r, hr⟩ := isFinite_iff.mp finite
    have zero : value? 0.0 = some 0 := rfl
    rw [le_iff hr zero, lt_iff zero hr, not_lt]

end Double

theorem Geometry.Size.isUsable_eq_false_iff {s : Size Float} :
    s.isUsable = false ↔ Double.Degenerate s.width ∨ Double.Degenerate s.height := by
  rw [Double.degenerate_iff, Double.degenerate_iff, ← not_and_or, ← Bool.not_eq_true, Size.isUsable]
  simp only [Bool.and_eq_true, decide_eq_true_eq]
  exact not_congr ⟨fun ⟨⟨⟨fw, fh⟩, w⟩, h⟩ => ⟨⟨fw, w⟩, fh, h⟩, fun ⟨⟨fw, w⟩, fh, h⟩ => ⟨⟨⟨fw, fh⟩, w⟩, h⟩⟩

/-! ## One event -/

variable {α : Type} [Scalar α]

/-- The center of a widget in the window. -/
def Geometry.Placement.center (p : Placement α) (layout : Layout α) : Point α :=
  { x := layout.origin.x + (p.rect.pixelCenter layout.size).x
    y := layout.origin.y + (p.rect.pixelCenter layout.size).y }

/-- On a canvas one cannot divide by, the gesture finds nothing to do: no ticker to be spread, and no other
widget to be turned. -/
def Gesture.LeavesAlone (gesture : Gesture) (p : Placement α) (layout : Layout α)
    (event : PointerEvent α) : Prop :=
  match gesture with
  | .move | .resize => p.isTicker = true → p.rect.x = 0.0 ∧ p.rect.w = span
  | .rotate => p.isTicker = false → rotationTowards (p.center layout) event.client = p.rotation

theorem Geometry.Placement.widened_eq_self_iff {p : Placement α} :
    p.widened p.rect = p.rect ↔ (p.isTicker = true → p.rect.x = 0.0 ∧ p.rect.w = span) := by
  unfold widened
  cases p.isTicker with
  | false => exact ⟨fun _ => nofun, fun _ => rfl⟩
  | true =>
    obtain ⟨x, y, w, h⟩ := p.rect
    simp only [if_true, Rect.fullWidth, Rect.mk.injEq, true_and, and_true, forall_const]
    exact and_congr eq_comm eq_comm

/-- **What a gesture changes on a canvas one cannot divide by.** -/
theorem Gesture.apply_eq_self_iff {layout : Layout α} (unusable : layout.size.isUsable = false)
    (gesture : Gesture) (p : Placement α) (event : PointerEvent α) :
    gesture.apply p layout event = p ↔ gesture.LeavesAlone p layout event := by
  have rect_iff (r : Rect α) : { p with rect := r } = p ↔ r = p.rect :=
    ⟨fun h => congrArg (·.rect) h, fun h => h ▸ rfl⟩
  cases gesture with
  | move =>
    show { p with rect := moved p layout.size event.movement } = p ↔ _
    rw [rect_iff, moved_of_unusable unusable, Placement.widened_eq_self_iff]
    rfl
  | resize =>
    show { p with rect := resized p layout.size event.movement } = p ↔ _
    rw [rect_iff, resized_of_unusable unusable, Placement.widened_eq_self_iff]
    rfl
  | rotate =>
    have rotation_iff : rotate.apply p layout event = p ↔ turned p layout event.client = p.rotation :=
      ⟨fun h => congrArg (·.rotation) h, fun h => congrArg (fun rotation => { p with rotation }) h⟩
    rw [rotation_iff]
    unfold turned LeavesAlone
    cases p.isTicker with
    | true => exact ⟨fun _ => nofun, fun _ => rfl⟩
    | false => exact ⟨fun h _ => h, fun h => h rfl⟩

/-- An element stays as it is exactly if its placement does. -/
theorem Element.place_apply_eq_self_iff {e : Element α} {gesture : Gesture} {layout : Layout α}
    {event : PointerEvent α} :
    e.place (gesture.apply e.placement layout event) = e ↔
      gesture.apply e.placement layout event = e.placement := by
  have ticker := gesture.isTicker_apply e.placement layout event
  generalize gesture.apply e.placement layout event = p at ticker ⊢
  constructor
  · intro h
    obtain ⟨rect, rotation, isTicker⟩ := p
    obtain rfl : rect = e.rect := congrArg (·.rect) h
    obtain rfl : rotation = e.rotation := congrArg (·.rotation) h
    obtain rfl : isTicker = e.placement.isTicker := ticker
    rfl
  · rintro rfl
    rfl

omit [Scalar α] in
/-- Replacing an element changes the document exactly if it changes the element. -/
theorem Dashboard.modifyElement_eq_self_iff {d : Dashboard α} {i : Nat} {e e' : Element α}
    (he : d.elements[i]? = some e) : (d.modifyElement i fun _ => e') = d ↔ e' = e := by
  have elements : (d.modifyElement i fun _ => e').elements = d.elements.set i e' :=
    modify_eq_set_of_getElem? he _
  obtain ⟨hi, rfl⟩ := List.getElem?_eq_some_iff.mp he
  constructor
  · intro h
    rw [h] at elements
    rw [List.getElem_of_eq elements hi, List.getElem_set_self]
  · rintro rfl
    rw [List.set_getElem_self] at elements
    exact congrArg (fun elements => { d with elements }) elements

/-! ## Boards -/

namespace Board

/-- What the pointer does, event by event, each in the layout of its moment. -/
def dragged (b : Board α) (moves : List (PointerEvent α × Layout α)) : Board α :=
  moves.foldl (fun b m => (b.pointerMove m.1 m.2).1) b

/-- A gesture that runs finds nothing to do on a canvas one cannot divide by. -/
def LeftAlone (b : Board α) (event : PointerEvent α) (layout : Layout α) : Prop :=
  b.MovesRespect (fun gesture e layout event => gesture.LeavesAlone e.placement layout event) event
    layout

variable {b : Board α}

/-- A movement of the pointer puts the gesture's element in its place and does nothing else. -/
theorem WellFormed.pointerMove_eq (hb : b.WellFormed) {id : WidgetId} {gesture : Gesture}
    (active : b.drag.active = some (id, gesture)) :
    ∃ i e, b.element? id = some e ∧ b.dashboard.elements[i]? = some e ∧
      ∀ event layout, (b.pointerMove event layout).1 =
        { b with
          dashboard :=
            b.dashboard.modifyElement i fun _ => e.place (gesture.apply e.placement layout event) } := by
  obtain ⟨i, hi⟩ : ∃ i, b.indexOf? id = some i := by
    apply Option.ne_none_iff_exists'.mp
    intro absent
    exact indexOf?_eq_none_iff.mp absent (hb.gesture id gesture active).1
  obtain ⟨e, he, -⟩ := rows_of_indexOf? hb.aligned hi
  refine ⟨i, e, ?_, he, fun event layout => ?_⟩
  · unfold element?
    rw [hi]
    exact he
  · unfold pointerMove
    simp only [active, hi, he, Drag.pointerMove, Option.map_some, Option.bind_some]

/-- **A movement of the pointer leaves the document exactly if the gesture finds nothing to do.** Then it
leaves the whole board. -/
theorem WellFormed.pointerMove_leaves_iff (hb : b.WellFormed) {layout : Layout α}
    (unusable : layout.size.isUsable = false) (event : PointerEvent α) :
    ((b.pointerMove event layout).1.dashboard = b.dashboard ↔ b.LeftAlone event layout) ∧
      (b.LeftAlone event layout → (b.pointerMove event layout).1 = b) := by
  cases active : b.drag.active with
  | none =>
    have still : (b.pointerMove event layout).1 = b := by
      unfold pointerMove
      simp only [active]
    have idle : b.LeftAlone event layout := fun _ _ _ h => nomatch active.symm.trans h
    exact ⟨⟨fun _ => idle, fun _ => congrArg (·.dashboard) still⟩, fun _ => still⟩
  | some p =>
    obtain ⟨id, gesture⟩ := p
    obtain ⟨i, e, there, he, moved⟩ := hb.pointerMove_eq active
    have left : b.LeftAlone event layout ↔ gesture.LeavesAlone e.placement layout event := by
      constructor
      · exact fun h => h id gesture e active there
      · rintro h _ _ _ active' there'
        cases active.symm.trans active'
        cases there.symm.trans there'
        exact h
    have same := (Dashboard.modifyElement_eq_self_iff he).trans
      (Element.place_apply_eq_self_iff.trans (gesture.apply_eq_self_iff unusable e.placement event))
    rw [moved, left]
    exact ⟨same, fun h => congrArg (fun dashboard => { b with dashboard }) (same.mpr h)⟩

/-- **A drag leaves the document exactly if at no event the gesture finds anything to do.** -/
theorem WellFormed.dragged_leaves_iff (hb : b.WellFormed) {moves : List (PointerEvent α × Layout α)}
    (unusable : ∀ m ∈ moves, m.2.size.isUsable = false) :
    (∀ pre, pre <+: moves → (b.dragged pre).dashboard = b.dashboard) ↔
      ∀ m ∈ moves, b.LeftAlone m.1 m.2 := by
  induction moves with
  | nil =>
    refine ⟨fun _ => nofun, fun _ pre hpre => ?_⟩
    obtain rfl := List.prefix_nil.mp hpre
    rfl
  | cons m moves ih =>
    obtain ⟨first, rest⟩ := List.forall_mem_cons.mp unusable
    obtain ⟨leaves_iff, leaves⟩ := hb.pointerMove_leaves_iff first m.1
    -- Once the first event has left the board, the others find it as it was.
    have cons (h : b.LeftAlone m.1 m.2) (pre : List (PointerEvent α × Layout α)) :
        b.dragged (m :: pre) = b.dragged pre := congrArg (dragged · pre) (leaves h)
    rw [List.forall_mem_cons]
    constructor
    · intro always
      have h := leaves_iff.mp (always [m] (List.prefix_append [m] moves))
      refine ⟨h, (ih rest).mp fun pre hpre => ?_⟩
      rw [← cons h]
      exact always (m :: pre) ((List.prefix_cons_inj m).mpr hpre)
    · rintro ⟨h, others⟩ pre hpre
      cases pre with
      | nil => rfl
      | cons m' pre =>
        obtain ⟨rfl, shorter⟩ := List.cons_prefix_cons.mp hpre
        rw [cons h]
        exact (ih rest).mpr others pre shorter

end Board

namespace Chronicle

/-- **A canvas one cannot divide by leaves everything exactly if nothing is to be spread or turned.** Take a
layout with such a canvas; for doubles this means that the width or the height is undefined, infinite, zero
or negative. A gesture leaves a placement as it is if and only if it finds nothing to do there. And on any
board that can come about, a drag that goes on in such layouts leaves the document at every moment if and
only if, at each of its events, the gesture finds nothing to do with the element as it stood at first. -/
theorem collapsed_canvas_changes_nothing_iff (d : Dashboard α) (polling : Option PollConfig)
    (ms : List (Moment α)) :
    let b := ((start d polling).run ms).board
    (∀ (gesture : Gesture) (p : Placement α) (layout : Layout α) (event : PointerEvent α),
      layout.size.isUsable = false →
        (gesture.apply p layout event = p ↔ gesture.LeavesAlone p layout event)) ∧
    (∀ moves : List (PointerEvent α × Layout α), (∀ m ∈ moves, m.2.size.isUsable = false) →
      ((∀ pre, pre <+: moves → (b.dragged pre).dashboard = b.dashboard) ↔
        ∀ m ∈ moves, b.LeftAlone m.1 m.2)) ∧
    ∀ s : Size Float,
      s.isUsable = false ↔ Double.Degenerate s.width ∨ Double.Degenerate s.height := by
  intro b
  have hb : b.WellFormed := wellFormed_run d polling ms
  exact ⟨fun gesture p _ event unusable => gesture.apply_eq_self_iff unusable p event,
    fun _ unusable => hb.dragged_leaves_iff unusable, fun _ => Size.isUsable_eq_false_iff⟩

/-! ### A window without a width -/

/-- A label that was turned. -/
def sampleTurned {α : Type} [Scalar α] : Element α :=
  { kind := .staticText
    title := "Label"
    rect := { x := 10.0, y := 10.0, w := 20.0, h := 20.0 }
    options := []
    rotation := 0.5 }

/-- A layout of a certain width, in the corner of the window. -/
def sampleWindowOf {α : Type} [Scalar α] (width : α) : Layout α :=
  { origin := { x := 0.0, y := 0.0 }, size := { width, height := 500.0 } }

/-- The pointer arrives to the right of a label's center. -/
def sampleArrival {α : Type} [Scalar α] : PointerEvent α :=
  { client := { x := 10.0, y := 100.0 }, movement := { dx := 4.0, dy := 3.0 }, target := .canvas }

/-- A label is selected and its body is pressed. -/
def sampleGrasp : List (Moment Float) :=
  [.command (.select (some ⟨0⟩)), .command (.pointerDown (.body ⟨0⟩))]

/-- While a label is moved, the canvas loses its width: the document stays. -/
theorem moved_label_survives_collapse :
    let c := (start { elements := [sampleTurned] } none).run sampleGrasp
    let moves : List (PointerEvent Float × Layout Float) :=
      [(sampleArrival, sampleWindowOf 0.0), (sampleArrival, sampleWindowOf (-1.0))]
    c.board.drag.active = some (⟨0⟩, .move) ∧ (∀ m ∈ moves, m.2.size.isUsable = false) ∧
      ∀ pre, pre <+: moves → (c.board.dragged pre).dashboard = c.board.dashboard := by
  intro c moves
  have unusable : ∀ m ∈ moves, m.2.size.isUsable = false := by
    simp only [moves, List.forall_mem_cons]
    exact ⟨by decide, by decide, nofun⟩
  have drags := (collapsed_canvas_changes_nothing_iff { elements := [sampleTurned] } none
    sampleGrasp).2.1 moves unusable
  refine ⟨rfl, unusable, drags.mpr fun m hm id gesture e active there => ?_⟩
  cases active
  cases there
  exact nofun

/-- **A collapsed canvas spreads a ticker and turns a label.** The canvas has no width. A ticker that is
moved there is spread over it, and a label is turned to the pointer. -/
theorem collapsed_canvas_spreads_ticker_and_turns_label :
    let ticker : Placement Float :=
      { rect := { x := 20.0, y := 50.0, w := 30.0, h := 16.0 }, rotation := 0.0, isTicker := true }
    let label : Placement ℝ := sampleTurned.placement
    ((sampleWindowOf (0.0 : Float)).size.isUsable = false ∧
      Gesture.move.apply ticker (sampleWindowOf 0.0) sampleArrival ≠ ticker) ∧
    (sampleWindowOf (0 : ℝ)).size.isUsable = false ∧
      Gesture.rotate.apply label (sampleWindowOf 0) sampleArrival ≠ label := by
  intro ticker label
  have collapsed : (sampleWindowOf (0.0 : Float)).size.isUsable = false := by decide
  have collapsed' : (sampleWindowOf (0 : ℝ)).size.isUsable = false := by
    rw [← Bool.not_eq_true, Size.isUsable_iff]
    exact fun usable => lt_irrefl (0 : ℝ) usable.2.1
  refine ⟨⟨collapsed, fun still => ?_⟩, collapsed', fun still => ?_⟩
  · have spread : (20.0 : Float) = 0.0 :=
      (((Gesture.apply_eq_self_iff collapsed .move ticker sampleArrival).mp still) rfl).1
    exact absurd spread (by decide)
  · have center : label.center (sampleWindowOf 0) = { x := 0, y := 100 } := by
      norm_num [label, Element.placement, sampleTurned, Placement.center, sampleWindowOf, Rect.pixelCenter,
        Rect.pixelOrigin, Rect.pixelSize, span]
    have towards := ((Gesture.apply_eq_self_iff collapsed' .rotate label sampleArrival).mp still) rfl
    rw [center] at towards
    -- The pointer is level with the center, so the angle towards it is zero.
    have level : rotationTowards (⟨0, 100⟩ : Point ℝ) sampleArrival.client = 0 := by
      have right : (⟨10.0 - 0, 100.0 - 100⟩ : ℂ) = ((10 : ℝ) : ℂ) := by
        apply Complex.ext <;> norm_num
      show Complex.arg ⟨10.0 - 0, 100.0 - 100⟩ = 0
      rw [right]
      exact Complex.arg_ofReal_of_nonneg (by norm_num)
    have half : (0.5 : ℝ) = 0 := towards.symm.trans level
    norm_num at half

end Chronicle

end StatusWall
