import StatusWall.Document.Dashboard
import StatusWall.Proofs.Binary.Single

/-!
# The aspect ratio

A board's aspect ratio is the quotient of the two lengths of its background, if both are written as
positive finite numbers, and 16 to 9 otherwise. A canvas is fitted by dividing by it, so it has to be
positive and finite itself.

It is, unless the two lengths lie so far apart that their quotient leaves single precision: what is
checked is each of the lengths and not what they yield.
-/

namespace StatusWall.Dashboard

variable {α : Type}

theorem isUsable_defaultAspect : Single.IsUsable defaultAspect := by decide +kernel

/-- A length that is read is positive and finite. -/
theorem isUsable_of_length? {text : String} {x : Float32} (h : length? text = some x) :
    Single.IsUsable x := by
  obtain ⟨y, -, h⟩ := Option.bind_eq_some_iff.mp h
  split at h
  · next husable =>
    obtain rfl := Option.some.inj h
    exact husable
  · cases h

/-- **The aspect ratio is usable exactly if the lengths do not lie too far apart.** Whatever the two
texts are, it is positive and finite if and only if one of them is no length, or the exact quotient of
the two numbers that they are read as is within the range of single precision. -/
theorem isUsable_aspectRatio_iff (d : Dashboard α) :
    (0 < d.aspectRatio ∧ d.aspectRatio.isFinite = true) ↔
      ∀ w h, length? d.width = some w → length? d.height = some h → Single.QuotientInRange w h := by
  show Single.IsUsable d.aspectRatio ↔ _
  unfold aspectRatio
  cases hw : length? d.width with
  | none => exact iff_of_true isUsable_defaultAspect nofun
  | some w =>
    cases hh : length? d.height with
    | none => exact iff_of_true isUsable_defaultAspect fun _ _ _ => nofun
    | some h =>
      rw [Single.isUsable_div_iff (isUsable_of_length? hw) (isUsable_of_length? hh)]
      constructor
      · rintro hrange _ _ ⟨⟩ ⟨⟩
        exact hrange
      · exact fun near => near w h rfl rfl

/-- A picture of 1920 by 1080, however the two are written. -/
theorem picture_has_usable_aspect : Single.QuotientInRange 1920 1080 :=
  (isUsable_aspectRatio_iff ({ width := " 1920 ", height := "1.08e3" } : Dashboard Float)).mp
    (by decide +kernel) 1920 1080 (by decide +kernel) (by decide +kernel)

/-- A board as wide as the world is large, and as high as an atom is small, has an infinite aspect
ratio, and turned by a right angle it has none. -/
theorem lengths_far_apart_have_no_aspect :
    let wide : Dashboard Float := { width := "1e38", height := "1e-38" }
    let high : Dashboard Float := { width := "1e-38", height := "1e38" }
    wide.aspectRatio.isFinite = false ∧ ¬ 0 < high.aspectRatio := by
  decide +kernel

end StatusWall.Dashboard
