import StatusWall.Proofs.Geometry.Exact
import StatusWall.Document.Element

/-!
# Staying on the canvas

A rectangle is in the canvas if on both axes it begins at zero or later and ends at one hundred
percent or earlier. Moving and turning keep it there on any canvas. Resizing does so exactly if the
upper left corner is at least the least size away from the right and the lower edge
(`Placement.HasRoom`): with less room the least size goes over the edge, however large the canvas
is (`Gesture.apply_inCanvas_iff`).
-/

namespace StatusWall.Geometry

/-- Between the upper left corner and the right and the lower edge of the canvas, the least size has
room. A ticker begins at the left edge, so only its lower edge counts. -/
def Placement.HasRoom {α : Type} [Scalar α] (p : Placement α) (container : Size α) : Prop :=
  (p.isTicker = false → leastSize ≤ container.width - (p.rect.pixelOrigin container).x) ∧
    leastSize ≤ container.height - (p.rect.pixelOrigin container).y

/-! ## One axis -/

variable {K : Type} [Field K] [LinearOrder K]

/-- Something of a certain extent lies on the canvas, in percent. -/
structure Within (place extent : K) : Prop where
  begins : 0 ≤ place
  reaches : 0 ≤ extent
  ends : place + extent ≤ 100

/-- The rectangle lies in the canvas. -/
structure Rect.InCanvas (r : Rect K) : Prop where
  horizontal : Within r.x r.w
  vertical : Within r.y r.h

variable [IsStrictOrderedRing K] {place extent : K}

theorem Within.full : Within (0 : K) 100 := ⟨le_refl 0, by norm_num, by norm_num⟩

theorem Within.slide (h : Within place extent) (step : K) :
    Within (slide place extent step) extent where
  begins := le_max_right _ _
  reaches := h.reaches
  ends := by
    have room : 0 ≤ 100 - extent := by linarith [h.begins, h.ends]
    have capped : Geometry.slide place extent step ≤ 100 - extent := max_le (min_le_right _ _) room
    linarith

/-- What grows ends on the canvas if the least extent does. -/
theorem Within.grow_iff (h : Within place extent) (step : K) {least : K} (positive : 0 ≤ least) :
    Within place (grow place extent step least) ↔ least ≤ 100 - place := by
  constructor
  · intro grown
    have floor : least ≤ grow place extent step least := le_max_right _ _
    linarith [grown.ends]
  · intro room
    have capped : grow place extent step least ≤ 100 - place := max_le (min_le_right _ _) room
    exact ⟨h.begins, positive.trans (le_max_right _ _), by linarith⟩

/-! ## Both axes -/

theorem Placement.spanned_inCanvas_iff (p : Placement K) (r : Rect K) :
    (p.spanned r).InCanvas ↔ (p.isTicker = false → Within r.x r.w) ∧ Within r.y r.h := by
  unfold spanned
  cases p.isTicker with
  | true => exact ⟨fun h => ⟨nofun, h.vertical⟩, fun h => ⟨.full, h.2⟩⟩
  | false => exact ⟨fun h => ⟨fun _ => h.horizontal, h.vertical⟩, fun h => ⟨h.1 rfl, h.2⟩⟩

theorem Rect.InCanvas.spanned {r : Rect K} (h : r.InCanvas) (p : Placement K) :
    (p.spanned r).InCanvas :=
  (p.spanned_inCanvas_iff r).mpr ⟨fun _ => h.horizontal, h.vertical⟩

variable [Exact K]

/-- The room that the place leaves, in pixels and in percent. -/
theorem toPercent_leastSize_le_iff {length : K} (positive : 0 < length) (place : K) :
    toPercent leastSize length ≤ 100 - place ↔ leastSize ≤ length - place / span * length := by
  rw [← toPercent_le_iff positive (a := leastSize), toPercent_sub, toPercent_length positive,
    toPercent_pixels positive]

theorem defaultRect_inCanvas : (Element.defaultRect : Rect K).InCanvas := by
  refine ⟨⟨?_, ?_, ?_⟩, ⟨?_, ?_, ?_⟩⟩ <;> norm_num [Element.defaultRect]

theorem tickerRect_inCanvas : (Element.tickerRect : Rect K).InCanvas := by
  refine ⟨⟨?_, ?_, ?_⟩, ⟨?_, ?_, ?_⟩⟩ <;> norm_num [Element.tickerRect, span_eq]

end StatusWall.Geometry

namespace StatusWall.Gesture

open StatusWall.Geometry

variable {K : Type} [Field K] [LinearOrder K] [IsStrictOrderedRing K] [Exact K]
  {p : Placement K}

theorem moved_inCanvas (h : p.rect.InCanvas) (container : Size K) (movement : Delta K) :
    (moved p container movement).InCanvas := by
  cases usable : container.isUsable with
  | true =>
    rw [moved_eq usable, Placement.spanned_inCanvas_iff]
    exact ⟨fun _ => h.horizontal.slide _, h.vertical.slide _⟩
  | false =>
    rw [moved_of_not_usable usable]
    exact h.spanned p

/-- **Resizing stays in the canvas exactly if there is room for the least size.** -/
theorem resized_inCanvas_iff (h : p.rect.InCanvas) (container : Size K) (movement : Delta K) :
    (resized p container movement).InCanvas ↔
      (container.isUsable = true → p.HasRoom container) := by
  cases usable : container.isUsable with
  | true =>
    have wide := Size.isUsable.width_pos usable
    have high := Size.isUsable.height_pos usable
    have least {length : K} (positive : 0 < length) : 0 ≤ toPercent leastSize length := by
      rw [← toPercent_zero length, toPercent_le_iff positive, leastSize_eq]
      norm_num
    rw [resized_eq usable, Placement.spanned_inCanvas_iff, h.vertical.grow_iff _ (least high),
      h.horizontal.grow_iff _ (least wide), toPercent_leastSize_le_iff wide,
      toPercent_leastSize_le_iff high]
    exact ⟨fun room _ => room, fun room => room rfl⟩
  | false =>
    rw [resized_of_not_usable usable]
    exact ⟨fun _ => nofun, fun _ => h.spanned p⟩

/-- **What a gesture does to a rectangle in the canvas.** -/
theorem apply_inCanvas_iff (h : p.rect.InCanvas) (gesture : Gesture) (layout : Layout K)
    (event : PointerEvent K) :
    (gesture.apply p layout event).rect.InCanvas ↔
      (gesture = .resize → layout.size.isUsable = true → p.HasRoom layout.size) := by
  cases gesture with
  | move => exact ⟨fun _ => nofun, fun _ => moved_inCanvas h _ _⟩
  | resize => exact (resized_inCanvas_iff h _ _).trans ⟨fun room _ => room, fun room => room rfl⟩
  | rotate => exact ⟨fun _ => nofun, fun _ => h⟩

end StatusWall.Gesture
