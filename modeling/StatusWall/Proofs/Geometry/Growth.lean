import StatusWall.Proofs.Geometry.Exact

/-!
# How far a widget grows

Resizing is read in pixels here. The upper left corner stays, and along each axis by itself the new size
is the old one and the way of the pointer, as long as this is at least the least size and at most the
room between the corner and the edge of the canvas (`Resized`). Two bounds can contradict each other: with
less room than the least size, the size is the least one and goes over the edge.

Nothing is asked of the rectangle. Its corner may lie outside the canvas, on any side of it, and its size
may be anything (`Gesture.resize_within_bounds`). What happens along one axis depends on nothing that
belongs to the other one; this holds for any numbers, so for doubles too
(`Gesture.resized_w_congr`, `Gesture.resized_h_congr`).
-/

namespace StatusWall.Geometry

variable {K : Type} [Field K] [LinearOrder K]

/-- What a resize by a movement makes of a size, along one axis of a container of the given length.
Everything is in pixels; the corner is where the widget begins. -/
structure Resized [Exact K] (length corner size movement size' : K) : Prop where
  least : 40 ≤ size'
  ends : 40 ≤ length - corner → corner + size' ≤ length
  cramped : length - corner < 40 → size' = 40
  follows : isFinite movement = true → 40 ≤ size + movement → size + movement ≤ length - corner →
    size' = size + movement

variable [IsStrictOrderedRing K] [Exact K]

/-- The clamp in pixels keeps to the bounds. -/
theorem Resized.clamp (length corner size movement : K) :
    Resized length corner size movement
      (max (min (size + if isFinite movement then movement else 0.0) (length - corner)) 40) where
  least := le_max_right _ _
  ends room := by
    have capped := max_le (min_le_right (size + if isFinite movement then movement else 0.0)
      (length - corner)) room
    linarith
  cramped short := max_eq_right ((min_le_right _ _).trans short.le)
  follows finite above below := by
    rw [if_pos finite, min_eq_left below, max_eq_left above]

/-- Pixels of a length, counted in percent and in pixels again. -/
theorem pixels_toPercent {length : K} (positive : 0 < length) (pixels : K) :
    toPercent pixels length / span * length = pixels := by
  rw [toPercent_eq, span_eq]
  have := positive.ne'
  field_simp

end StatusWall.Geometry

namespace StatusWall.Gesture

open StatusWall.Geometry

/-! ## One axis at a time -/

section

variable {α : Type} [Scalar α] {p q : Placement α} {c d : Size α} {m n : Delta α}

/-- **What a resize makes of the width** depends on nothing that is vertical. -/
theorem resized_w_congr (hp : p.isTicker = false) (hq : q.isTicker = false) (hc : c.isUsable = true)
    (hd : d.isUsable = true) (place : p.rect.x = q.rect.x) (extent : p.rect.w = q.rect.w)
    (length : c.width = d.width) (step : m.dx = n.dx) : (resized p c m).w = (resized q d n).w := by
  simp only [resized, resizeRect, Rect.pixelOrigin, Rect.pixelSize, Delta.sanitized, hp, hq, hc, hd,
    place, extent, length, step, Bool.false_eq_true, if_false, if_true]

/-- **What a resize makes of the height** depends on nothing that is horizontal. -/
theorem resized_h_congr (hp : p.isTicker = false) (hq : q.isTicker = false) (hc : c.isUsable = true)
    (hd : d.isUsable = true) (place : p.rect.y = q.rect.y) (extent : p.rect.h = q.rect.h)
    (length : c.height = d.height) (step : m.dy = n.dy) : (resized p c m).h = (resized q d n).h := by
  simp only [resized, resizeRect, Rect.pixelOrigin, Rect.pixelSize, Delta.sanitized, hp, hq, hc, hd,
    place, extent, length, step, Bool.false_eq_true, if_false, if_true]

end

/-! ## In pixels -/

variable {K : Type} [Field K] [LinearOrder K] [IsStrictOrderedRing K] [Exact K]

/-- The size after a resize, in pixels. -/
theorem resized_pixelSize {container : Size K} (usable : container.isUsable = true) {p : Placement K}
    (free : p.isTicker = false) (movement : Delta K) :
    (resized p container movement).pixelSize container =
      { width := max (min ((p.rect.pixelSize container).width + movement.sanitized.dx)
          (container.width - (p.rect.pixelOrigin container).x)) 40
        height := max (min ((p.rect.pixelSize container).height + movement.sanitized.dy)
          (container.height - (p.rect.pixelOrigin container).y)) 40 } := by
  have across := pixels_toPercent (Size.isUsable.width_pos usable)
  have down := pixels_toPercent (Size.isUsable.height_pos usable)
  simp only [resized, resizeRect, free, usable, Bool.false_eq_true, if_false, if_true]
  rw [Rect.pixelSize, across, down, greater_eq_max, greater_eq_max, lesser_eq_min, lesser_eq_min,
    leastSize_eq]

/-- **A resize keeps to its bounds.** The upper left corner and the rotation stay. Along each axis the
size is never below the least one; it stays inside the canvas if the corner leaves room for the least
size, and is the least one if not; and between the two bounds it follows the pointer. Neither axis has
any part in what happens along the other. -/
theorem resize_within_bounds {α : Type} [Scalar α] {layout : Layout K}
    (usable : layout.size.isUsable = true) {p : Placement K} (free : p.isTicker = false)
    (event : PointerEvent K) :
    let p' := resize.apply p layout event
    let corner := p.rect.pixelOrigin layout.size
    let size := p.rect.pixelSize layout.size
    let size' := p'.rect.pixelSize layout.size
    (p'.rect.x = p.rect.x ∧ p'.rect.y = p.rect.y ∧ p'.rotation = p.rotation) ∧
    Resized layout.size.width corner.x size.width event.movement.dx size'.width ∧
    Resized layout.size.height corner.y size.height event.movement.dy size'.height ∧
    ∀ (p q : Placement α) (l m : Layout α) (e f : PointerEvent α),
      p.isTicker = false → q.isTicker = false → l.size.isUsable = true → m.size.isUsable = true →
      (p.rect.x = q.rect.x → p.rect.w = q.rect.w → l.size.width = m.size.width →
        e.movement.dx = f.movement.dx → (resize.apply p l e).rect.w = (resize.apply q m f).rect.w) ∧
      (p.rect.y = q.rect.y → p.rect.h = q.rect.h → l.size.height = m.size.height →
        e.movement.dy = f.movement.dy → (resize.apply p l e).rect.h = (resize.apply q m f).rect.h) := by
  intro p' corner size size'
  have sizes : size' = _ := resized_pixelSize usable free event.movement
  have anchored : p'.rect.x = p.rect.x ∧ p'.rect.y = p.rect.y := by
    have rect : p'.rect = _ := resized_eq usable p event.movement
    rw [rect, Placement.spanned, free]
    exact ⟨rfl, rfl⟩
  refine ⟨⟨anchored.1, anchored.2, rfl⟩, ?_, ?_, ?_⟩
  · rw [sizes]
    exact Resized.clamp ..
  · rw [sizes]
    exact Resized.clamp ..
  · intro p q l m e f hp hq hl hm
    exact ⟨resized_w_congr hp hq hl hm, resized_h_congr hp hq hl hm⟩

/-- A label that begins outside the canvas on the left, and ends close to its lower edge. -/
def sampleOutlier {α : Type} [Scalar α] : Placement α :=
  { rect := { x := -10.0, y := 95.0, w := 50.0, h := 4.0 }, rotation := 1.0, isTicker := false }

/-- In a layout of 800 by 600 pixels the label begins at -80 and 570. The width follows the pointer; for
the height there are 30 pixels, and it becomes 40. A label of doubles as wide and as far from the left
comes to the same width, wherever else it lies. -/
theorem outlier_is_resized_within_bounds :
    let layout : Layout ℝ :=
      { origin := { x := 0, y := 0 }, size := { width := 800.0, height := 600.0 } }
    let event : PointerEvent ℝ :=
      { client := { x := 0, y := 0 }, movement := { dx := 100.0, dy := 100.0 }, target := .canvas }
    let size' := (resize.apply sampleOutlier layout event).rect.pixelSize layout.size
    let label (y : Float) : Placement Float :=
      { rect := { x := 10.0, y, w := 20.0, h := 20.0 }, rotation := 0.0, isTicker := false }
    let small : Layout Float :=
      { origin := { x := 0.0, y := 0.0 }, size := { width := 320.0, height := 240.0 } }
    let pull (dy : Float) : PointerEvent Float :=
      { client := { x := 0.0, y := 0.0 }, movement := { dx := 8.0, dy }, target := .canvas }
    (layout.size.isUsable = true ∧ small.size.isUsable = true) ∧
      (size'.width = 500.0 ∧ size'.height = 40.0) ∧
      (resize.apply (label 10.0) small (pull 1.0)).rect.w =
        (resize.apply (label 90.0) small (pull 7.0)).rect.w := by
  intro layout event size' label small pull
  have usable : layout.size.isUsable = true :=
    Size.isUsable_iff.mpr ⟨⟨rfl, rfl⟩, by norm_num [layout], by norm_num [layout]⟩
  have usable' : small.size.isUsable = true := by decide
  obtain ⟨-, across, down, axes⟩ :=
    resize_within_bounds (α := Float) usable (p := sampleOutlier) rfl event
  have corner : sampleOutlier.rect.pixelOrigin layout.size = ⟨-80, 570⟩ := by
    norm_num [Rect.pixelOrigin, sampleOutlier, layout, span_eq]
  have size : sampleOutlier.rect.pixelSize layout.size = ⟨400, 24⟩ := by
    norm_num [Rect.pixelSize, sampleOutlier, layout, span_eq]
  rw [corner, size] at across down
  refine ⟨⟨usable, usable'⟩, ⟨?_, (down.cramped (by norm_num [layout])).trans (by norm_num)⟩,
    (axes (label 10.0) (label 90.0) small small (pull 1.0) (pull 7.0) rfl rfl usable' usable').1
      rfl rfl rfl rfl⟩
  rw [across.follows rfl (by norm_num [event]) (by norm_num [layout, event])]
  norm_num [event]

end StatusWall.Gesture
