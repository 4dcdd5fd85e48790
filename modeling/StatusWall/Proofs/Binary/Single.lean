import StatusWall.Proofs.Binary.Arithmetic

/-!
# Division in single precision

A single-precision number stands for a number, finite or infinite, or for none (`value?`). A quotient
of two positive finite ones is the exact quotient, rounded. Rounding may leave nothing of it, or carry
it out of the range, so it is again positive and finite exactly if the exact quotient is neither too small
nor too large (`isUsable_div_iff`).
-/

namespace StatusWall.Single

open Float.Model Float.Model.UnpackedFloat Binary

/-- The number that a single-precision number stands for, if it stands for one. -/
noncomputable def value? (x : Float32) : Option EReal := number? x.toModel.unpack

theorem proper (x : Float32) : Proper .binary32 x.toModel.unpack := proper_unpack (by decide) _

theorem isFinite_iff {x : Float32} : x.isFinite = true ↔ ∃ r : ℝ, value? x = some (r : EReal) :=
  Binary.isFinite_iff

theorem lt_iff {a b : Float32} {u v : EReal} (hu : value? a = some u) (hv : value? b = some v) :
    a < b ↔ u < v :=
  decide_eq_true_iff.trans (Binary.lt_iff (proper a) (proper b) hu hv)

/-- **Dividing by a positive number.** -/
theorem value?_div {c : Float32} {r : ℝ} (hc : value? c = some (r : EReal)) (hr : 0 < r)
    (a : Float32) : value? (a / c) = (value? a).map (scale .binary32 r⁻¹) :=
  number?_div (by decide) (proper a) (proper c) hc hr

/-! ## Usable numbers -/

/-- Positive and finite. -/
def IsUsable (x : Float32) : Prop := 0 < x ∧ x.isFinite = true

instance (x : Float32) : Decidable (IsUsable x) := inferInstanceAs (Decidable (_ ∧ _))

theorem isUsable_iff {x : Float32} : IsUsable x ↔ ∃ r : ℝ, 0 < r ∧ value? x = some (r : EReal) := by
  have hzero : value? 0 = some 0 := rfl
  constructor
  · rintro ⟨hpos, hfinite⟩
    obtain ⟨r, hr⟩ := isFinite_iff.mp hfinite
    exact ⟨r, EReal.coe_pos.mp ((lt_iff hzero hr).mp hpos), hr⟩
  · rintro ⟨r, hpos, hr⟩
    exact ⟨(lt_iff hzero hr).mpr (EReal.coe_pos.mpr hpos), isFinite_iff.mpr ⟨r, hr⟩⟩

theorem isUsable_iff_of_value? {x : Float32} {u : EReal} (hu : value? x = some u) :
    IsUsable x ↔ 0 < u ∧ u < ⊤ := by
  rw [isUsable_iff, hu]
  constructor
  · rintro ⟨r, hpos, hr⟩
    obtain rfl := Option.some.inj hr
    exact ⟨EReal.coe_pos.mpr hpos, EReal.coe_lt_top r⟩
  · rintro ⟨hpos, hlt⟩
    have hreal : ((u.toReal : ℝ) : EReal) = u := EReal.coe_toReal hlt.ne (bot_lt_of_lt hpos).ne'
    exact ⟨u.toReal, EReal.coe_pos.mp (hreal.symm ▸ hpos), congrArg some hreal.symm⟩

/-- Two numbers that are positive and whose exact quotient is in range, that is, above 2 ^ -150 and below
2 ^ 128 - 2 ^ 103. -/
def QuotientInRange (a b : Float32) : Prop :=
  ∃ r s : ℝ, value? a = some (r : EReal) ∧ value? b = some (s : EReal) ∧ 0 < r ∧ 0 < s ∧
    InRange .binary32 (r / s)

/-- **A quotient of usable numbers is usable exactly if the exact quotient is in range.** -/
theorem isUsable_div_iff {a b : Float32} (ha : IsUsable a) (hb : IsUsable b) :
    IsUsable (a / b) ↔ QuotientInRange a b := by
  obtain ⟨r, hr, hvr⟩ := isUsable_iff.mp ha
  obtain ⟨s, hs, hvs⟩ := isUsable_iff.mp hb
  have hvalue : value? (a / b) = some (nearest .binary32 (r / s)) := by
    rw [value?_div hvs hs, hvr, Option.map_some, scale_coe, if_pos hr.le, div_eq_mul_inv]
  rw [isUsable_iff_of_value? hvalue, nearest_usable_iff (by decide) (div_pos hr hs)]
  constructor
  · exact fun hrange => ⟨r, s, hvr, hvs, hr, hs, hrange⟩
  · rintro ⟨r', s', hvr', hvs', -, -, hrange⟩
    rw [hvr, Option.some_inj, EReal.coe_eq_coe_iff] at hvr'
    rw [hvs, Option.some_inj, EReal.coe_eq_coe_iff] at hvs'
    rwa [hvr', hvs']

end StatusWall.Single
