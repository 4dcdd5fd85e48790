import StatusWall.Proofs.Board.Sessions

/-!
# What movements of the pointer decide

Some properties of an element are about its rectangle and its rotation alone, and hold of the default
element and of a ticker's place. Nothing but a gesture breaks such a property (`Geometrical`). If it
holds of all elements of a board, then it keeps doing so over a whole session exactly if each movement
of the pointer respects it (`Chronicle.run_all_iff`, `BoardRun.steps_all_iff`): no other command counts,
and nothing the tasks do.
-/

namespace StatusWall

open StatusWall.Geometry

variable {α : Type} [Scalar α]

/-- An edit leaves the geometry, unless it is a gesture, or gives the element a ticker's place. -/
theorem BoardCommand.geometry_of_edit? {c : BoardCommand α} {drag : Drag} {id : WidgetId}
    {edit : Element α → Element α} (h : c.edit? drag = some (id, edit))
    (hc : ∀ event layout, c ≠ .pointerMove event layout) (e : Element α) :
    (edit e).rotation = e.rotation ∧
      ((edit e).rect = e.rect ∨ (edit e).rect = Element.tickerRect) := by
  cases c with
  | retitleElement _ _ => cases h; exact ⟨rfl, .inl rfl⟩
  | changeKind _ kind =>
    cases h
    by_cases hticker : kind.isTicker = true
    · exact ⟨rfl, .inr (if_pos hticker)⟩
    · exact ⟨rfl, .inl (if_neg hticker)⟩
  | updateOptions _ _ => cases h; exact ⟨rfl, .inl rfl⟩
  | setTarget _ target => cases h; exact ⟨e.bound_rotation target, .inl (e.bound_rect target)⟩
  | setSoundOverride _ state url =>
    cases h
    exact ⟨e.withSound_rotation state url, .inl (e.withSound_rect state url)⟩
  | applyUpload target url =>
    cases target with
    | background => cases h
    | sound widget state =>
      cases h
      exact ⟨e.withSound_rotation state url, .inl (e.withSound_rect state url)⟩
  | pointerMove event layout => exact absurd rfl (hc event layout)
  | _ => cases h

/-- A property of elements that is about their geometry, and what a gesture must respect to keep it. -/
structure Geometrical (P : Element α → Prop)
    (respects : Gesture → Element α → Layout α → PointerEvent α → Prop) : Prop where
  default : P .default
  elsewhere : ∀ e e', P e → e'.rotation = e.rotation →
    (e'.rect = e.rect ∨ e'.rect = Element.tickerRect) → P e'
  place_iff : ∀ e, P e → ∀ gesture layout event,
    P (e.place (gesture.apply e.placement layout event)) ↔ respects gesture e layout event

namespace Board

/-- If a gesture runs, a movement of the pointer makes it do something that it respects. -/
def MovesRespect (respects : Gesture → Element α → Layout α → PointerEvent α → Prop) (b : Board α)
    (event : PointerEvent α) (layout : Layout α) : Prop :=
  ∀ id gesture e, b.drag.active = some (id, gesture) → b.element? id = some e →
    respects gesture e layout event

variable {b : Board α} {P : Element α → Prop}
  {respects : Gesture → Element α → Layout α → PointerEvent α → Prop}

/-- **Only movements of the pointer decide about a geometrical property.** -/
theorem governs_geometrical (geometrical : Geometrical P respects) :
    Governs (fun b c =>
      ∀ event layout, c = .pointerMove event layout → b.MovesRespect respects event layout) P := by
  intro b aligned h c
  rw [h.perform_iff aligned geometrical.default]
  constructor
  · rintro edited event layout rfl id gesture e hactive he
    have hedit : (BoardCommand.pointerMove event layout).edit? b.drag =
        some (id, fun e => e.place (gesture.apply e.placement layout event)) := by
      simp only [BoardCommand.edit?, hactive, Option.map_some]
    exact (geometrical.place_iff e (h.of_element? he) gesture layout event).mp
      (edited id _ e hedit he)
  · intro moves id edit e hedit he
    by_cases hc : ∃ event layout, c = .pointerMove event layout
    · obtain ⟨event, layout, rfl⟩ := hc
      obtain ⟨⟨id', gesture⟩, hactive, heq⟩ := Option.map_eq_some_iff.mp hedit
      cases heq
      exact (geometrical.place_iff e (h.of_element? he) gesture layout event).mpr
        (moves event layout rfl id gesture e hactive he)
    · have hc : ∀ event layout, c ≠ .pointerMove event layout := fun event layout heq =>
        hc ⟨event, layout, heq⟩
      obtain ⟨rotation, rect⟩ := BoardCommand.geometry_of_edit? hedit hc e
      exact geometrical.elsewhere e (edit e) (h.of_element? he) rotation rect

end Board

variable {P : Element α → Prop} {respects : Gesture → Element α → Layout α → PointerEvent α → Prop}

namespace Chronicle

variable {c : Chronicle α}

theorem step_all_iff (geometrical : Geometrical P respects) (hc : c.Sound) (h : c.board.All P)
    (m : Moment α) :
    (c.step m).board.All P ↔ ∀ event layout, m = .command (.pointerMove event layout) →
      c.board.MovesRespect respects event layout := by
  refine (governed_step_iff (Board.governs_geometrical geometrical) hc h m).trans ?_
  constructor
  · exact fun moves event layout hm => moves _ hm event layout rfl
  · rintro moves _ hm event layout rfl
    exact moves event layout hm

/-- **A session keeps a geometrical property exactly if its movements respect it.** -/
theorem run_all_iff (geometrical : Geometrical P respects) (hc : c.Sound) (h : c.board.All P)
    (ms : List (Moment α)) :
    (∀ pre, pre <+: ms → (c.run pre).board.All P) ↔
      ∀ pre event layout, pre ++ [.command (.pointerMove event layout)] <+: ms →
        (c.run pre).board.MovesRespect respects event layout := by
  refine (governed_run_iff (Board.governs_geometrical geometrical) hc h ms).trans ?_
  constructor
  · exact fun moves pre event layout hpre => moves pre _ hpre event layout rfl
  · rintro moves pre _ hpre event layout rfl
    exact moves pre event layout hpre

end Chronicle

/-- **A run keeps a geometrical property exactly if its movements respect it.** -/
theorem BoardRun.steps_all_iff {r : BoardRun α} (geometrical : Geometrical P respects) (hr : r.Sound)
    (h : r.board.All P) (ss : List (Source × RunStep α)) :
    (∀ pre, pre <+: ss → (r.steps pre).board.All P) ↔
      ∀ pre source event layout, pre ++ [(source, .command (.pointerMove event layout))] <+: ss →
        (r.steps pre).board.MovesRespect respects event layout := by
  refine (governed_steps_iff (Board.governs_geometrical geometrical) hr h ss).trans ?_
  constructor
  · exact fun moves pre source event layout hpre => moves pre source _ hpre event layout rfl
  · rintro moves pre source _ hpre event layout rfl
    exact moves pre source event layout hpre

end StatusWall
