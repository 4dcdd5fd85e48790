import Mathlib.Order.Compare
import StatusWall.Proofs.Binary.Packing

/-!
# Unpacked numbers in order

An unpacked number is finite exactly if the number that stands for it is, and two of them compare as
their numbers do (`compares`). Both zeros stand for zero, and what stands for none does not even
compare with itself.
-/

namespace StatusWall.Binary

open Float.Model Float.Model.UnpackedFloat

/-- What is finite stands for a real number. -/
theorem isFinite_iff {f : UnpackedFloat} :
    f.isFinite = true ↔ ∃ r : ℝ, number? f = some (r : EReal) := by
  cases f with
  | notANumber => exact ⟨nofun, fun ⟨_, h⟩ => nomatch h⟩
  | infinity s =>
    refine ⟨nofun, fun ⟨r, h⟩ => ?_⟩
    cases s with
    | positive => exact absurd (Option.some.inj h) (EReal.top_ne_coe r)
    | negative => exact absurd (Option.some.inj h) (EReal.bot_ne_coe r)
  | zero s => exact ⟨fun _ => ⟨0, rfl⟩, fun _ => rfl⟩
  | finite s m e hm =>
    refine ⟨fun _ => ?_, fun _ => rfl⟩
    cases s with
    | positive => exact ⟨_, rfl⟩
    | negative => exact ⟨-(m * 2 ^ e), rfl⟩

/-- What is no number stands for none. -/
theorem isNaN_iff {f : UnpackedFloat} : f.isNaN = true ↔ number? f = none := by
  cases f with
  | notANumber => exact ⟨fun _ => rfl, fun _ => rfl⟩
  | infinity s => exact ⟨nofun, nofun⟩
  | zero s => exact ⟨nofun, nofun⟩
  | finite s m e hm => exact ⟨nofun, nofun⟩

/-! ## Negation -/

/-- The opposite sign makes the opposite number. -/
theorem withSign_neg (s : Sign) (v : EReal) : withSign (-s) v = -withSign s v := by
  cases s with
  | positive => rfl
  | negative => exact (neg_neg v).symm

theorem Proper.neg {F : Format} {f : UnpackedFloat} (h : Proper F f) : Proper F f.neg := by
  cases h with
  | notANumber => exact .notANumber
  | infinity s => exact .infinity (-s)
  | zero s => exact .zero (-s)
  | finite s hm h he => exact .finite (-s) hm h he

/-- Negation is the opposite of what is stood for; of the zeros, too. -/
theorem number?_neg (f : UnpackedFloat) : number? f.neg = (number? f).map (-·) := by
  cases f with
  | notANumber => rfl
  | infinity s => exact congrArg some (withSign_neg s ⊤)
  | zero s => exact congrArg some neg_zero.symm
  | finite s m e hm => exact congrArg some (withSign_neg s _)

/-! ## Order -/

section Order

variable {F : Format} {m m' : ℕ} {e e' : ℤ}

/-- A greater exponent makes the greater number. -/
theorem Canonical.lt_of_lt (h : Canonical F m e) (h' : Canonical F m' e') (hlt : e < e') :
    (m : ℝ) * 2 ^ e < m' * 2 ^ e' := by
  have hfull : 2 ^ F.mantissaBitsWithoutImplicit ≤ m' :=
    h'.full.resolve_right (h.least_le.trans_lt hlt).ne'
  have hm : (m : ℝ) < 2 * 2 ^ F.mantissaBitsWithoutImplicit := by
    exact_mod_cast h.lt.trans_eq (two_pow_mantissaBits F)
  have hm' : (2 : ℝ) ^ F.mantissaBitsWithoutImplicit ≤ m' := by exact_mod_cast hfull
  have hpow : (2 : ℝ) ^ (e + 1) ≤ 2 ^ e' := zpow_le_zpow_right₀ one_le_two hlt
  rw [zpow_add_one₀ two_ne_zero] at hpow
  calc (m : ℝ) * 2 ^ e < 2 * 2 ^ F.mantissaBitsWithoutImplicit * 2 ^ e := by gcongr
    _ = 2 ^ F.mantissaBitsWithoutImplicit * (2 ^ e * 2) := by ring
    _ ≤ m' * 2 ^ e' := by gcongr

/-- Of two numbers with the same exponent, the mantissas decide. -/
theorem Canonical.compares (h : Canonical F m e) (h' : Canonical F m' e') :
    ((compare e e').then (compare m m')).Compares ((m * 2 ^ e : ℝ) : EReal)
      ((m' * 2 ^ e' : ℝ) : EReal) := by
  have hpos := two_zpow_pos e
  rcases lt_trichotomy e e' with hlt | rfl | hgt
  · rw [compare_lt_iff_lt.mpr hlt]
    exact EReal.coe_lt_coe_iff.mpr (h.lt_of_lt h' hlt)
  · rw [compare_eq_iff_eq.mpr rfl]
    rcases lt_trichotomy m m' with hlt | rfl | hgt
    · rw [compare_lt_iff_lt.mpr hlt]
      refine EReal.coe_lt_coe_iff.mpr ?_
      gcongr
    · rw [compare_eq_iff_eq.mpr rfl]
      rfl
    · rw [compare_gt_iff_gt.mpr hgt]
      refine EReal.coe_lt_coe_iff.mpr ?_
      gcongr
  · rw [compare_gt_iff_gt.mpr hgt]
    exact EReal.coe_lt_coe_iff.mpr (h'.lt_of_lt h hgt)

end Order

/-- Negation turns the order around. -/
theorem compares_neg {o : Ordering} {u v : EReal} (h : o.Compares u v) :
    o.swap.Compares (-u) (-v) := by
  cases o with
  | lt => exact EReal.neg_lt_neg_iff.mpr h
  | eq => exact congrArg (-·) h
  | gt => exact EReal.neg_lt_neg_iff.mpr h

/-- A positive mantissa makes a positive number, whatever the exponent. -/
theorem finite_pos {m : ℕ} (hm : 0 < m) (e : ℤ) : (0 : EReal) < ((m * 2 ^ e : ℝ) : EReal) := by
  have : (0 : ℝ) < m * 2 ^ e := by positivity
  exact_mod_cast this

/-- **Numbers of a format compare as what they stand for.** -/
theorem compares {F : Format} {f g : UnpackedFloat} (hf : Proper F f) (hg : Proper F g)
    {u v : EReal} (hu : number? f = some u) (hv : number? g = some v) :
    ∃ o, f.compare g = some o ∧ o.Compares u v := by
  cases hf with
  | notANumber => cases hu
  | infinity s =>
    cases hu
    cases hg with
    | notANumber => cases hv
    | infinity s' =>
      cases hv
      cases s <;> cases s'
      · exact ⟨.eq, rfl, rfl⟩
      · exact ⟨.lt, rfl, bot_lt_top⟩
      · exact ⟨.gt, rfl, bot_lt_top⟩
      · exact ⟨.eq, rfl, rfl⟩
    | zero s' =>
      cases hv
      cases s
      · exact ⟨.lt, rfl, EReal.bot_lt_zero⟩
      · exact ⟨.gt, rfl, EReal.zero_lt_top⟩
    | finite s' hm' h' he' =>
      cases hv
      cases s <;> cases s'
      · exact ⟨.lt, rfl, EReal.bot_lt_coe (-_)⟩
      · exact ⟨.lt, rfl, EReal.bot_lt_coe _⟩
      · exact ⟨.gt, rfl, EReal.coe_lt_top (-_)⟩
      · exact ⟨.gt, rfl, EReal.coe_lt_top _⟩
  | zero s =>
    cases hu
    cases hg with
    | notANumber => cases hv
    | infinity s' =>
      cases hv
      cases s'
      · exact ⟨.gt, rfl, EReal.bot_lt_zero⟩
      · exact ⟨.lt, rfl, EReal.zero_lt_top⟩
    | zero s' =>
      cases hv
      exact ⟨.eq, rfl, rfl⟩
    | finite s' hm' h' he' =>
      cases hv
      cases s'
      · exact ⟨.gt, rfl, EReal.neg_lt_zero.mpr (finite_pos hm' _)⟩
      · exact ⟨.lt, rfl, finite_pos hm' _⟩
  | finite s hm h he =>
    cases hu
    cases hg with
    | notANumber => cases hv
    | infinity s' =>
      cases hv
      cases s <;> cases s'
      · exact ⟨.gt, rfl, EReal.bot_lt_coe (-_)⟩
      · exact ⟨.lt, rfl, EReal.coe_lt_top (-_)⟩
      · exact ⟨.gt, rfl, EReal.bot_lt_coe _⟩
      · exact ⟨.lt, rfl, EReal.coe_lt_top _⟩
    | zero s' =>
      cases hv
      cases s
      · exact ⟨.lt, rfl, EReal.neg_lt_zero.mpr (finite_pos hm _)⟩
      · exact ⟨.gt, rfl, finite_pos hm _⟩
    | finite s' hm' h' he' =>
      cases hv
      cases s <;> cases s'
      · exact ⟨_, rfl, compares_neg (h.compares h')⟩
      · exact ⟨.lt, rfl, (EReal.neg_lt_zero.mpr (finite_pos hm _)).trans (finite_pos hm' _)⟩
      · exact ⟨.gt, rfl, (EReal.neg_lt_zero.mpr (finite_pos hm' _)).trans (finite_pos hm _)⟩
      · exact ⟨_, rfl, h.compares h'⟩

section

variable {F : Format} {f g : UnpackedFloat} {u v : EReal}

/-- The comparison `≤` of numbers of a format is that of what they stand for. -/
theorem le_iff (hf : Proper F f) (hg : Proper F g) (hu : number? f = some u)
    (hv : number? g = some v) : f.le g = true ↔ u ≤ v := by
  obtain ⟨o, ho, hcompares⟩ := compares hf hg hu hv
  rw [UnpackedFloat.le, ho]
  cases o with
  | lt => exact ⟨fun _ => hcompares.le, fun _ => rfl⟩
  | eq => exact ⟨fun _ => hcompares.le, fun _ => rfl⟩
  | gt => exact ⟨nofun, fun h => absurd h hcompares.not_ge⟩

/-- So is the comparison `<`. -/
theorem lt_iff (hf : Proper F f) (hg : Proper F g) (hu : number? f = some u)
    (hv : number? g = some v) : f.lt g = true ↔ u < v := by
  obtain ⟨o, ho, hcompares⟩ := compares hf hg hu hv
  rw [UnpackedFloat.lt, ho]
  cases o with
  | lt => exact ⟨fun _ => hcompares, fun _ => rfl⟩
  | eq => exact ⟨nofun, fun h => absurd h hcompares.not_lt⟩
  | gt => exact ⟨nofun, fun h => absurd h hcompares.not_gt⟩

end

end StatusWall.Binary
