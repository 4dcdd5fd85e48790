import StatusWall.Proofs.Geometry.Series

/-!
# Tickers go up and down

A ticker is a strip as wide as the canvas. What a document says about its place and its width is not
believed: the first move or resize spreads it over the whole width, and it stays so. After that it has one
degree of freedom for each of the two gestures (`TickerStep`): a move changes where it stands, a resize
how high it is, and turning does nothing at all.

Whatever is horizontal has no part in this. Two tickers that stand at one height and are as high stay so
under events that agree in what is vertical, whatever their places and widths, the pointer's way across
and the widths of the layouts (`Placement.LevelWith.after`). This holds for any numbers, so for doubles
too.
-/

namespace StatusWall

open StatusWall.Geometry

/-! ## What is horizontal has no part in it -/

section

variable {α : Type}

/-- Two widgets stand at one height and are as high. -/
structure Geometry.Placement.LevelWith (p q : Placement α) : Prop where
  y : p.rect.y = q.rect.y
  h : p.rect.h = q.rect.h

variable [Scalar α]

/-- Two events of one gesture that agree in what is vertical. -/
structure GestureStep.LevelWith (s t : GestureStep α) : Prop where
  gesture : s.gesture = t.gesture
  usable : s.layout.size.isUsable = t.layout.size.isUsable
  height : s.layout.size.height = t.layout.size.height
  movement : s.event.movement.dy = t.event.movement.dy

variable {p q : Placement α} {s t : GestureStep α}

theorem Geometry.Placement.isTicker_after (p : Placement α) (steps : List (GestureStep α)) :
    (p.after steps).isTicker = p.isTicker := by
  induction steps generalizing p with
  | nil => rfl
  | cons s steps ih => exact (ih _).trans (s.gesture.isTicker_apply ..)

namespace Geometry.Placement.LevelWith

theorem apply (h : p.LevelWith q) (hp : p.isTicker = true) (hq : q.isTicker = true)
    (same : s.LevelWith t) :
    (s.gesture.apply p s.layout s.event).LevelWith (t.gesture.apply q t.layout t.event) := by
  obtain ⟨gesture, layout, event⟩ := s
  obtain ⟨gesture', layout', event'⟩ := t
  obtain ⟨rfl, usable, height, movement⟩ := same
  simp only at usable height movement
  cases gesture with
  | rotate => exact ⟨h.y, h.h⟩
  | move =>
    simp only [Gesture.apply, Gesture.moved, moveRect, hp, hq, usable, if_true]
    cases layout'.size.isUsable with
    | false => exact ⟨h.y, h.h⟩
    | true =>
      refine ⟨?_, h.h⟩
      simp only [Rect.fullWidth, Rect.pixelOrigin, Rect.pixelSize, Delta.vertical, Delta.sanitized,
        h.y, h.h, height, movement, if_true]
      rfl
  | resize =>
    simp only [Gesture.apply, Gesture.resized, resizeRect, hp, hq, usable, if_true]
    cases layout'.size.isUsable with
    | false => exact ⟨h.y, h.h⟩
    | true =>
      refine ⟨h.y, ?_⟩
      simp only [Rect.fullWidth, Rect.pixelOrigin, Rect.pixelSize, Delta.vertical, Delta.sanitized,
        h.y, h.h, height, movement, if_true]
      rfl

/-- **Tickers stay level** under events that agree in what is vertical. -/
theorem after (h : p.LevelWith q) (hp : p.isTicker = true) (hq : q.isTicker = true)
    {ss ts : List (GestureStep α)} (same : List.Forall₂ GestureStep.LevelWith ss ts) :
    (p.after ss).LevelWith (q.after ts) := by
  induction same generalizing p q with
  | nil => exact h
  | cons head _ ih =>
    exact ih (h.apply hp hq head) ((Gesture.isTicker_apply ..).trans hp)
      ((Gesture.isTicker_apply ..).trans hq)

end Geometry.Placement.LevelWith

end

/-! ## One event -/

/-- What an event of a gesture makes of a ticker. -/
structure TickerStep {K : Type} [Field K] [LinearOrder K] (gesture : Gesture) (p p' : Placement K) :
    Prop where
  rotation : p'.rotation = p.rotation
  spread : gesture ≠ .rotate → p'.rect.x = 0 ∧ p'.rect.w = 100
  move : gesture = .move → p' = { p with rect := { p.rect with x := 0, w := 100, y := p'.rect.y } }
  resize : gesture = .resize → p' = { p with rect := { p.rect with x := 0, w := 100, h := p'.rect.h } }
  rotate : gesture = .rotate → p' = p
  inside : gesture = .move → p.rect.h ≤ 100 → 0 ≤ p'.rect.y ∧ p'.rect.y ≤ 100 - p'.rect.h

namespace Gesture

variable {K : Type} [Field K] [LinearOrder K] [IsStrictOrderedRing K] [Exact K] {p : Placement K}

theorem tickerStep_apply (ticker : p.isTicker = true) (gesture : Gesture) {layout : Layout K}
    (usable : layout.size.isUsable = true) (event : PointerEvent K) :
    TickerStep gesture p (gesture.apply p layout event) := by
  have spanned (r : Rect K) : p.spanned r = { r with x := 0, w := 100 } := by
    rw [Placement.spanned, ticker, if_pos rfl]
  cases gesture with
  | move =>
    have rect := (moved_eq usable p event.movement).trans (spanned _)
    have placed : move.apply p layout event = _ := congrArg (fun r => { p with rect := r }) rect
    rw [placed]
    exact
      { rotation := rfl
        spread := fun _ => ⟨rfl, rfl⟩
        move := fun _ => rfl
        resize := by rintro ⟨⟩
        rotate := by rintro ⟨⟩
        inside := fun _ small =>
          ⟨le_max_right _ _, max_le (min_le_right _ _) (sub_nonneg.mpr small)⟩ }
  | resize =>
    have rect := (resized_eq usable p event.movement).trans (spanned _)
    have placed : resize.apply p layout event = _ := congrArg (fun r => { p with rect := r }) rect
    rw [placed]
    exact
      { rotation := rfl
        spread := fun _ => ⟨rfl, rfl⟩
        move := by rintro ⟨⟩
        resize := fun _ => rfl
        rotate := by rintro ⟨⟩
        inside := by rintro ⟨⟩ }
  | rotate =>
    have turned : turned p layout event.client = p.rotation := if_pos ticker
    have placed : rotate.apply p layout event = p :=
      congrArg (fun rotation => { p with rotation }) turned
    rw [placed]
    exact
      { rotation := rfl
        spread := fun other => absurd rfl other
        move := by rintro ⟨⟩
        resize := by rintro ⟨⟩
        rotate := fun _ => rfl
        inside := by rintro ⟨⟩ }

/-! ## Series of events -/

variable {steps : List (GestureStep K)}

theorem tickerStep_after (ticker : p.isTicker = true) (pre : List (GestureStep K))
    {s : GestureStep K} (usable : s.layout.size.isUsable = true) :
    TickerStep s.gesture (p.after pre) (p.after (pre ++ [s])) := by
  have last : p.after (pre ++ [s]) = s.gesture.apply (p.after pre) s.layout s.event :=
    List.foldl_concat ..
  rw [last]
  exact tickerStep_apply ((p.isTicker_after pre).trans ticker) s.gesture usable s.event

/-- What a series of events leaves of a ticker, whatever came before the last event that moved or resized
it. -/
theorem spread_after (ticker : p.isTicker = true)
    (usable : ∀ s ∈ steps, s.layout.size.isUsable = true) :
    (p.after steps).rotation = p.rotation ∧
      ((∃ s ∈ steps, s.gesture ≠ .rotate) →
        (p.after steps).rect.x = 0 ∧ (p.after steps).rect.w = 100) := by
  induction steps using List.reverseRecOn with
  | nil => exact ⟨rfl, fun ⟨_, hs, _⟩ => nomatch hs⟩
  | append_singleton pre s ih =>
    obtain ⟨rotation, spread⟩ := ih fun t ht => usable t (List.mem_append_left _ ht)
    have step := tickerStep_after ticker pre (usable s List.mem_concat_self)
    refine ⟨step.rotation.trans rotation, fun ⟨t, ht, other⟩ => ?_⟩
    by_cases turns : s.gesture = .rotate
    · -- Turning leaves it as it was, and the other event came before.
      rw [step.rotate turns]
      refine spread ⟨t, ?_, other⟩
      rcases List.mem_append.mp ht with before | last
      · exact before
      · exact absurd (List.mem_singleton.mp last ▸ turns) other
    · exact step.spread turns

/-- **Tickers go up and down, and nothing else.** Take a ticker with any rectangle, and any series of
events of any gestures, in layouts one can divide by. No event changes the rotation. A move or a resize
spreads the ticker over the width of the canvas, and it stays so; apart from this, a move changes only
where it stands, a resize only how high it is, and turning nothing. After a move it lies between the upper
and the lower edge of the canvas, if it is not higher than the canvas. And its height and where it stands
depend on nothing that is horizontal. -/
theorem tickers_go_up_and_down {α : Type} [Scalar α] (ticker : p.isTicker = true)
    (usable : ∀ s ∈ steps, s.layout.size.isUsable = true) :
    (∀ pre s, pre ++ [s] <+: steps → TickerStep s.gesture (p.after pre) (p.after (pre ++ [s]))) ∧
    (p.after steps).rotation = p.rotation ∧
    ((∃ s ∈ steps, s.gesture ≠ .rotate) →
      (p.after steps).rect.x = 0 ∧ (p.after steps).rect.w = 100) ∧
    ∀ (p q : Placement α) (ss ts : List (GestureStep α)), p.isTicker = true → q.isTicker = true →
      p.LevelWith q → List.Forall₂ GestureStep.LevelWith ss ts → (p.after ss).LevelWith (q.after ts) := by
  obtain ⟨rotation, spread⟩ := spread_after ticker usable
  refine ⟨fun pre s hpre => ?_, rotation, spread, fun p q ss ts hp hq h same => h.after hp hq same⟩
  exact tickerStep_after ticker pre (usable s (hpre.subset List.mem_concat_self))

/-! ### A ticker that is stored too narrow -/

/-- A ticker whose document says that it begins at a place and has a width. -/
def sampleTicker {α : Type} [Scalar α] (x w : α) : Placement α :=
  { rect := { x, y := 50.0, w, h := 16.0 }, rotation := 1.0, isTicker := true }

/-- The pointer goes down, and somewhere across, in a layout of a certain width. -/
def sampleStep {α : Type} [Scalar α] (gesture : Gesture) (width dx : α) : GestureStep α :=
  { gesture
    layout := { origin := { x := 0.0, y := 0.0 }, size := { width, height := 500.0 } }
    event := { client := { x := dx, y := 0.0 }, movement := { dx, dy := 50.0 }, target := .canvas } }

/-- An event that turns changes nothing, and one that moves spreads the ticker and takes it down, in a
layout of another width. Among doubles, a ticker that begins elsewhere comes to the same height, though
the pointer goes another way across. -/
theorem narrow_ticker_is_spread :
    let p : Placement ℝ := sampleTicker 20.0 30.0
    let turn : GestureStep ℝ := sampleStep .rotate 800.0 300.0
    let shift : GestureStep ℝ := sampleStep .move 1000.0 300.0
    let shiftBy (dx : Float) := sampleStep .move 1000.0 dx
    (∀ s ∈ [turn, shift], s.layout.size.isUsable = true) ∧
      (p.after [turn, shift]).rotation = p.rotation ∧
      ((p.after [turn, shift]).rect.x = 0 ∧ (p.after [turn, shift]).rect.w = 100) ∧
      ((p.after [turn, shift]).rect.h = 16.0 ∧ (p.after [turn, shift]).rect.y ≤ 84.0) ∧
      ((sampleTicker (20.0 : Float) 30.0).after [shiftBy 300.0]).LevelWith
        ((sampleTicker (70.0 : Float) 10.0).after [shiftBy (-40.0)]) := by
  intro p turn shift shiftBy
  have usable : ∀ s ∈ [turn, shift], s.layout.size.isUsable = true := by
    simp only [List.forall_mem_cons]
    refine ⟨Size.isUsable_iff.mpr ⟨⟨rfl, rfl⟩, ?_⟩, Size.isUsable_iff.mpr ⟨⟨rfl, rfl⟩, ?_⟩, nofun⟩ <;>
      norm_num [turn, shift, sampleStep]
  obtain ⟨each, rotation, spread, level⟩ := tickers_go_up_and_down (α := Float) (p := p) rfl usable
  have turned : p.after [turn] = p := (each [] turn (List.prefix_append _ _)).rotate rfl
  have moved := each [turn] shift (List.prefix_refl _)
  rw [turned] at moved
  have low : p.rect.h = 16.0 := rfl
  have high : (p.after [turn, shift]).rect.h = 16.0 := by
    have kept : (p.after [turn, shift]).rect.h = p.rect.h := congrArg (·.rect.h) (moved.move rfl)
    exact kept.trans low
  have inside : (p.after [turn, shift]).rect.y ≤ 100 - (p.after [turn, shift]).rect.h :=
    (moved.inside rfl (by rw [low]; norm_num)).2
  rw [high] at inside
  refine ⟨usable, rotation, spread ⟨shift, List.mem_cons_of_mem _ List.mem_cons_self, nofun⟩,
    ⟨high, inside.trans_eq (by norm_num)⟩, ?_⟩
  exact level _ _ _ _ rfl rfl ⟨rfl, rfl⟩ (.cons ⟨rfl, by decide, rfl, rfl⟩ .nil)

end Gesture

end StatusWall
