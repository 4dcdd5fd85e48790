import StatusWall.Proofs.Geometry.Exact
import StatusWall.Canvas.Fit

/-!
# The canvas is as large as can be

The canvas is fitted into the space that is left for it by one minimum: it is as wide as the space, or
as wide as its aspect ratio allows at the space's height. In exact arithmetic this is the widest
rectangle of the ratio that lies in the space, and it stands in the middle
(`ScreenRect.fitAspect_is_widest`). Nothing is asked of the space but that its sides are not negative: a
space of no width or no height gets a canvas that is a single point.

Rectangles lie in each other as sets of points (`ScreenRect.Inside`). For a rectangle that has a point
this is said of the four edges (`ScreenRect.inside_iff`), and one that has none is no rival, because its
width is negative.
-/

namespace StatusWall.ScreenRect

open StatusWall.Geometry

variable {K : Type} [Field K] [LinearOrder K] [Exact K] {r s : ScreenRect K}

/-- Each point of a rectangle is a point of another one. -/
def Inside (s r : ScreenRect K) : Prop := ∀ p, s.contains p = true → r.contains p = true

theorem contains_eq_true_iff {p : Point K} :
    r.contains p = true ↔ (r.min.x ≤ p.x ∧ p.x ≤ r.max.x) ∧ r.min.y ≤ p.y ∧ p.y ≤ r.max.y := by
  unfold contains
  simp only [Bool.and_eq_true, decide_eq_true_eq, and_assoc]

variable [IsStrictOrderedRing K]

/-- A rectangle that has its corners lies in another one if they do. -/
theorem inside_iff (wide : 0 ≤ s.width) (high : 0 ≤ s.height) :
    s.Inside r ↔
      (r.min.x ≤ s.min.x ∧ s.max.x ≤ r.max.x) ∧ r.min.y ≤ s.min.y ∧ s.max.y ≤ r.max.y := by
  have wide : s.min.x ≤ s.max.x := sub_nonneg.mp wide
  have high : s.min.y ≤ s.max.y := sub_nonneg.mp high
  constructor
  · intro inside
    obtain ⟨⟨left, -⟩, top, -⟩ := contains_eq_true_iff.mp <|
      inside s.min (contains_eq_true_iff.mpr ⟨⟨le_rfl, wide⟩, le_rfl, high⟩)
    obtain ⟨⟨-, right⟩, -, bottom⟩ := contains_eq_true_iff.mp <|
      inside s.max (contains_eq_true_iff.mpr ⟨⟨wide, le_rfl⟩, high, le_rfl⟩)
    exact ⟨⟨left, right⟩, top, bottom⟩
  · rintro ⟨⟨left, right⟩, top, bottom⟩ p hp
    obtain ⟨⟨hleft, hright⟩, htop, hbottom⟩ := contains_eq_true_iff.mp hp
    exact contains_eq_true_iff.mpr
      ⟨⟨left.trans hleft, hright.trans right⟩, top.trans htop, hbottom.trans bottom⟩

/-! ## About a center -/

theorem half_eq {F : Type} [Field F] [CharZero F] : (0.5 : F) = 1 / 2 := by norm_num

theorem two_eq {F : Type} [Field F] [CharZero F] : (2.0 : F) = 2 := by norm_num

section

variable (c : Point K) (size : Size K)

theorem width_ofCenter : (ofCenter c size).width = size.width := by
  show c.x + size.width * 0.5 - (c.x - size.width * 0.5) = size.width
  rw [half_eq]
  ring

theorem height_ofCenter : (ofCenter c size).height = size.height := by
  show c.y + size.height * 0.5 - (c.y - size.height * 0.5) = size.height
  rw [half_eq]
  ring

theorem center_ofCenter : (ofCenter c size).center = c := by
  unfold ofCenter center
  rw [half_eq, two_eq]
  congr 1 <;> ring

end

/-- A rectangle of no greater sides lies in the one that it shares its center with. -/
theorem inside_of_center {size : Size K} (wide : 0 ≤ size.width) (high : 0 ≤ size.height)
    (narrower : size.width ≤ r.width) (lower : size.height ≤ r.height) :
    (ofCenter r.center size).Inside r := by
  unfold width at narrower
  unfold height at lower
  rw [inside_iff (width_ofCenter r.center size ▸ wide) (height_ofCenter r.center size ▸ high)]
  unfold ofCenter center
  simp only [half_eq, two_eq]
  refine ⟨⟨?_, ?_⟩, ?_, ?_⟩ <;> linarith

/-! ## The widest -/

variable {aspect : K}

/-- A rectangle of a ratio that lies in a space is no wider than either side of the space allows. -/
theorem width_le_of_inside (ratio : 0 < aspect) (wide : 0 ≤ r.width) (high : 0 ≤ r.height)
    (inside : s.Inside r) (hs : s.width = aspect * s.height) :
    s.width ≤ r.width ∧ s.width ≤ r.height * aspect := by
  rcases lt_or_ge s.width 0 with empty | hwide
  · exact ⟨empty.le.trans wide, empty.le.trans (mul_nonneg high ratio.le)⟩
  · have hhigh : 0 ≤ s.height := nonneg_of_mul_nonneg_right (hs ▸ hwide) ratio
    obtain ⟨⟨left, right⟩, top, bottom⟩ := (inside_iff hwide hhigh).mp inside
    have lower : s.height ≤ r.height := sub_le_sub bottom top
    refine ⟨sub_le_sub right left, ?_⟩
    rw [hs, mul_comm]
    exact mul_le_mul_of_nonneg_right lower ratio.le

/-- **The canvas is the widest rectangle of its ratio in the space that is left for it.** Into a space
whose sides are not negative, for a positive ratio, a rectangle is fitted that has its center where the
space has it, whose sides are not negative and in the ratio, and that lies in the space. No rectangle of
the ratio that lies in the space is wider. -/
theorem fitAspect_is_widest (wide : 0 ≤ r.width) (high : 0 ≤ r.height) (ratio : 0 < aspect) :
    let canvas := r.fitAspect aspect
    canvas.center = r.center ∧ 0 ≤ canvas.width ∧ 0 ≤ canvas.height ∧ canvas.Inside r ∧
      canvas.width = aspect * canvas.height ∧
      ∀ s : ScreenRect K, s.Inside r → s.width = aspect * s.height → s.width ≤ canvas.width := by
  intro canvas
  let width := lesser r.width (r.height * aspect)
  have width_nonneg : 0 ≤ width := by
    simp only [width, lesser_eq_min]
    exact le_min wide (mul_nonneg high ratio.le)
  have narrower : width ≤ r.width ∧ width ≤ r.height * aspect := by
    simp only [width, lesser_eq_min]
    exact ⟨min_le_left _ _, min_le_right _ _⟩
  have height_nonneg : 0 ≤ width / aspect := div_nonneg width_nonneg ratio.le
  have hwidth : canvas.width = width := width_ofCenter _ _
  have hheight : canvas.height = width / aspect := height_ofCenter _ _
  refine ⟨center_ofCenter _ _, hwidth ▸ width_nonneg, hheight ▸ height_nonneg, ?_, ?_,
    fun s inside hs => ?_⟩
  · exact inside_of_center width_nonneg height_nonneg narrower.1 ((div_le_iff₀ ratio).mpr narrower.2)
  · rw [hwidth, hheight, mul_div_cancel₀ _ ratio.ne']
  · obtain ⟨hr, hrr⟩ := width_le_of_inside ratio wide high inside hs
    rw [hwidth]
    simp only [width, lesser_eq_min]
    exact le_min hr hrr

/-- In a space that is higher than wide the canvas takes up the whole width, a bit above and below is
left over, and no rectangle of the ratio is wider. -/
theorem high_space_is_filled_in_width :
    let space : ScreenRect ℝ := { min := ⟨100, 50⟩, max := ⟨1060, 850⟩ }
    let canvas := space.fitAspect (16 / 9)
    canvas = { min := ⟨100, 180⟩, max := ⟨1060, 720⟩ } ∧ canvas.Inside space ∧
      ∀ s : ScreenRect ℝ, s.Inside space → s.width = 16 / 9 * s.height → s.width ≤ 960 := by
  intro space canvas
  have hcanvas : canvas = { min := ⟨100, 180⟩, max := ⟨1060, 720⟩ } := by
    simp only [canvas, space, fitAspect, ofCenter, center, width, height, lesser_eq_min]
    norm_num
  have wide : 0 ≤ space.width := by norm_num [space, width]
  have high : 0 ≤ space.height := by norm_num [space, height]
  have ratio : (0 : ℝ) < 16 / 9 := by norm_num
  obtain ⟨-, -, -, inside, -, widest⟩ := fitAspect_is_widest wide high ratio
  refine ⟨hcanvas, inside, fun s hs hratio => (widest s hs hratio).trans ?_⟩
  show canvas.width ≤ 960
  rw [hcanvas]
  norm_num [width]

end StatusWall.ScreenRect
