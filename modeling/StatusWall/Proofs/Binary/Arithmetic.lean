import Mathlib.Tactic.FieldSimp
import StatusWall.Proofs.Binary.Order

/-!
# Arithmetic on unpacked numbers

Multiplying and dividing by a positive number is `scale`: exact, then rounded once, infinite if that
is too large. It is monotone, so of two numbers it never makes the lesser one infinite and leaves the
greater one finite.

Of sums and differences only this is said: a number and a finite number make a number again. It may
be infinite, and an infinite number is enough to lose the other operand's share, but nothing is
undefined.
-/

namespace StatusWall.Binary

open Float.Model Float.Model.UnpackedFloat

/-! ## Multiplying and dividing by a positive number -/

/-- What becomes of a number that is multiplied by a positive factor and rounded. -/
noncomputable def scale (F : Format) (r : ℝ) : EReal → EReal
  | ⊥ => ⊥
  | ⊤ => ⊤
  | (x : ℝ) => if 0 ≤ x then nearest F (x * r) else -nearest F (-x * r)

theorem scale_coe (F : Format) (r x : ℝ) :
    scale F r (x : EReal) = if 0 ≤ x then nearest F (x * r) else -nearest F (-x * r) := rfl

theorem scale_zero (F : Format) (r : ℝ) : scale F r 0 = 0 := by
  rw [← EReal.coe_zero, scale_coe, if_pos le_rfl, zero_mul, nearest_zero, EReal.coe_zero]

theorem scale_infinity (F : Format) (r : ℝ) (s : Sign) : scale F r (withSign s ⊤) = withSign s ⊤ := by
  cases s <;> rfl

theorem scale_finite (F : Format) (r : ℝ) (s : Sign) {x : ℝ} (hx : 0 < x) :
    scale F r (withSign s x) = withSign s (nearest F (x * r)) := by
  cases s with
  | positive => exact if_pos hx.le
  | negative =>
    show scale F r (-(x : EReal)) = -nearest F (x * r)
    rw [← EReal.coe_neg, scale_coe, if_neg (by linarith), neg_neg]

/-- **Scaling is monotone**, whatever is rounded away. -/
theorem scale_mono {F : Format} {r : ℝ} (hr : 0 < r) : Monotone (scale F r) := by
  intro u v h
  induction u with
  | bot => exact bot_le
  | top => rw [top_le_iff.mp h]
  | coe x =>
    induction v with
    | bot => exact absurd (le_bot_iff.mp h) (EReal.coe_ne_bot x)
    | top => exact le_top
    | coe y =>
      have hxy : x ≤ y := EReal.coe_le_coe_iff.mp h
      rw [scale_coe, scale_coe]
      split_ifs with hx hy hy
      · exact nearest_mono (by positivity) (by gcongr)
      · exact absurd (hx.trans hxy) hy
      · exact (EReal.neg_le_zero.mpr (nearest_nonneg _)).trans (nearest_nonneg _)
      · have : 0 ≤ -y * r := mul_nonneg (by linarith) hr.le
        exact EReal.neg_le_neg_iff.mpr (nearest_mono this (by gcongr))

/-- A number of the format that stands for a positive one. -/
theorem Proper.exists_of_pos {F : Format} {f : UnpackedFloat} (hf : Proper F f) {r : ℝ}
    (hc : number? f = some (r : EReal)) (hr : 0 < r) :
    ∃ m e, ∃ hm : 0 < m, Canonical F m e ∧ f = .finite .positive m e hm ∧ r = m * 2 ^ e := by
  cases hf with
  | notANumber => cases hc
  | infinity s =>
    cases s with
    | positive => exact absurd (Option.some.inj hc) (EReal.top_ne_coe r)
    | negative => exact absurd (Option.some.inj hc) (EReal.bot_ne_coe r)
  | zero s => exact absurd (EReal.coe_eq_zero.mp (Option.some.inj hc).symm) hr.ne'
  | @finite s m e hm h he =>
    have hvalue := Option.some.inj hc
    cases s with
    | positive => exact ⟨m, e, hm, h, rfl, (EReal.coe_eq_coe_iff.mp hvalue).symm⟩
    | negative =>
      have hneg : -(m * 2 ^ e : ℝ) = r := EReal.coe_eq_coe_iff.mp hvalue
      have : (0 : ℝ) < m * 2 ^ e := by positivity
      linarith

section Scale

variable {F : Format} {m m' : ℕ} {e e' : ℤ}

theorem minExponent_nonpos (F : Format) : F.minExponent ≤ 0 := by
  have := F.hm
  have := Nat.two_pow_pos (F.exponentBits - 1)
  rw [minExponent_eq, limit, mantissaBits_eq]
  omega

/-- The product of two mantissas has digits enough. -/
theorem Canonical.mul_exponent_le (h : Canonical F m e) (h' : Canonical F m' e') (hm : 0 < m)
    (hm' : 0 < m') : e + e' ≤ roundingExponent F (m * 2 ^ e * (m' * 2 ^ e')) := by
  by_cases hleast : e = F.minExponent ∧ e' = F.minExponent
  · have := minExponent_nonpos F
    exact le_trans (by omega) (minExponent_le_roundingExponent F _)
  · have hdigits : 2 ^ F.mantissaBitsWithoutImplicit ≤ m * m' := by
      rcases h.full with hfull | he
      · exact hfull.trans (Nat.le_mul_of_pos_right m hm')
      · exact (h'.full.resolve_right fun he' => hleast ⟨he, he'⟩).trans (Nat.le_mul_of_pos_left m' hm)
    have hdiv : (m : ℝ) * 2 ^ e * (m' * 2 ^ e') / 2 ^ (e + e') = (m * m' : ℕ) := by
      rw [zpow_add₀ two_ne_zero]
      push_cast
      field_simp
    have hlog := log_of_mantissa (Nat.mul_pos hm hm').ne' hdiv.ge (hdiv.trans_lt (lt_add_one _))
    have : F.mantissaBitsWithoutImplicit ≤ Nat.log 2 (m * m') :=
      Nat.le_log_of_pow_le one_lt_two hdigits
    refine le_trans ?_ (le_max_left _ _)
    rw [hlog, mantissaBits_eq]
    omega

/-- **Multiplying by a positive number.** -/
theorem number?_mul (wide : 1 < F.exponentBits) {f c : UnpackedFloat} (hf : Proper F f)
    (hc : Proper F c) {r : ℝ} (hvalue : number? c = some (r : EReal)) (hr : 0 < r) :
    number? (UnpackedFloat.unpack F (UnpackedFloat.pack F (f.mul F c))) =
      (number? f).map (scale F r) := by
  obtain ⟨m', e', hm', h', rfl, rfl⟩ := hc.exists_of_pos hvalue hr
  have hsign (s : Sign) : s * .positive = s := by cases s <;> rfl
  cases hf with
  | notANumber =>
    show number? (UnpackedFloat.unpack F (UnpackedFloat.pack F .notANumber)) = _
    rw [Proper.notANumber.unpack_pack]
    rfl
  | infinity s =>
    show number? (UnpackedFloat.unpack F (UnpackedFloat.pack F (.infinity (s * .positive)))) = _
    rw [(Proper.infinity _).unpack_pack, hsign]
    exact congrArg some (scale_infinity F _ s).symm
  | zero s =>
    show number? (UnpackedFloat.unpack F (UnpackedFloat.pack F (.zero (s * .positive)))) = _
    rw [(Proper.zero _).unpack_pack]
    exact congrArg some (scale_zero F _).symm
  | @finite s m e hm h he =>
    have hx : (0 : ℝ) < m * 2 ^ e * (m' * 2 ^ e') := by positivity
    have htells : Tells (.ofMantissaAndAccuracy (m * m') .exact)
        (m * 2 ^ e * (m' * 2 ^ e') / 2 ^ (e + e') : ℝ) := by
      show _ = ((m * m' : ℕ) : ℝ)
      rw [zpow_add₀ two_ne_zero]
      push_cast
      field_simp
    show number? (UnpackedFloat.unpack F (UnpackedFloat.pack F
      (roundWithAccuracy F (s * .positive) (m * m') (e + e') .exact))) =
        some (scale F _ (withSign s ((m * 2 ^ e : ℝ) : EReal)))
    rw [number?_rounded wide hx htells (h.mul_exponent_le h' hm hm'),
      scale_finite F _ s (by positivity), hsign]

/-- A quotient and its remainder tell of the exact quotient. -/
theorem tells_div (n : ℕ) {d : ℕ} (hd : 0 < d) :
    Tells (.ofMantissaAndAccuracy (n / d) (accuracyOfFraction (n % d) d)) ((n : ℝ) / d) := by
  have hpos : (0 : ℝ) < d := by exact_mod_cast hd
  have hlt : ((n % d : ℕ) : ℝ) < d := by exact_mod_cast Nat.mod_lt n hd
  have hsplit : (n : ℝ) / d = (n / d : ℕ) + (n % d : ℕ) / d := by
    rw [div_eq_iff hpos.ne', add_mul, div_mul_cancel₀ _ hpos.ne']
    exact_mod_cast (Nat.div_add_mod' n d).symm
  rw [hsplit]
  unfold accuracyOfFraction
  split
  · next hzero =>
    show _ = ((n / d : ℕ) : ℝ)
    rw [hzero, Nat.cast_zero, zero_div, add_zero]
  · next hzero =>
    have hfraction : (0 : ℝ) < (n % d : ℕ) / d := by
      have := Nat.pos_of_ne_zero hzero
      positivity
    have hfraction' : ((n % d : ℕ) : ℝ) / d < 1 := (div_lt_one hpos).mpr hlt
    rcases lt_trichotomy (2 * (n % d)) d with hless | heq | hmore
    · rw [compare_lt_iff_lt.mpr hless]
      have : ((n % d : ℕ) : ℝ) / d < 1 / 2 := by
        rw [div_lt_div_iff₀ hpos two_pos]
        exact_mod_cast (by omega : (n % d) * 2 < 1 * d)
      show ((n / d : ℕ) : ℝ) < _ ∧ _ < ((n / d : ℕ) : ℝ) + (n / d : ℕ) + 1
      exact ⟨by linarith, by linarith⟩
    · rw [compare_eq_iff_eq.mpr heq]
      have : ((n % d : ℕ) : ℝ) / d = 1 / 2 := by
        rw [div_eq_div_iff hpos.ne' two_ne_zero]
        exact_mod_cast (by omega : (n % d) * 2 = 1 * d)
      show _ = ((n / d : ℕ) : ℝ) + (n / d : ℕ) + 1
      linarith
    · rw [compare_gt_iff_gt.mpr hmore]
      have : 1 / 2 < ((n % d : ℕ) : ℝ) / d := by
        rw [div_lt_div_iff₀ two_pos hpos]
        exact_mod_cast (by omega : 1 * d < (n % d) * 2)
      show ((n / d : ℕ) : ℝ) + (n / d : ℕ) + 1 < _ ∧ _ < ((n / d : ℕ) : ℝ) + 1
      exact ⟨by linarith, by linarith⟩

/-- The exponent that a quotient is computed at leaves digits enough. -/
theorem div_exponent_le (hm : 0 < m) (hm' : 0 < m') :
    F.targetExponent (totalExponent m e - totalExponent m' e') ≤
      roundingExponent F (m * 2 ^ e / (m' * 2 ^ e')) := by
  have hx : (0 : ℝ) < m * 2 ^ e / (m' * 2 ^ e') := by positivity
  have hlower : (2 : ℝ) ^ (Nat.log 2 m + e - (Nat.log 2 m' + 1 + e') : ℤ) ≤
      m * 2 ^ e / (m' * 2 ^ e') := by
    rw [zpow_sub₀ two_ne_zero, zpow_add₀ two_ne_zero, zpow_add₀ two_ne_zero, zpow_natCast,
      ← Nat.cast_succ, zpow_natCast]
    have hnum : ((2 : ℝ) ^ Nat.log 2 m) ≤ m := by exact_mod_cast Nat.pow_log_le_self 2 hm.ne'
    have hden : (m' : ℝ) ≤ 2 ^ (Nat.log 2 m' + 1) := by
      exact_mod_cast (Nat.lt_pow_succ_log_self one_lt_two m').le
    gcongr
  have hlog := (Int.zpow_le_iff_le_log one_lt_two hx).mp (by exact_mod_cast hlower)
  rw [totalExponent_eq, totalExponent_eq]
  exact max_le_max (by omega) le_rfl

/-- **Dividing by a positive number.** -/
theorem number?_div (wide : 1 < F.exponentBits) {f c : UnpackedFloat} (hf : Proper F f)
    (hc : Proper F c) {r : ℝ} (hvalue : number? c = some (r : EReal)) (hr : 0 < r) :
    number? (UnpackedFloat.unpack F (UnpackedFloat.pack F (f.div F c))) =
      (number? f).map (scale F r⁻¹) := by
  obtain ⟨m', e', hm', -, rfl, rfl⟩ := hc.exists_of_pos hvalue hr
  have hsign (s : Sign) : s / .positive = s := by cases s <;> rfl
  cases hf with
  | notANumber =>
    show number? (UnpackedFloat.unpack F (UnpackedFloat.pack F .notANumber)) = _
    rw [Proper.notANumber.unpack_pack]
    rfl
  | infinity s =>
    show number? (UnpackedFloat.unpack F (UnpackedFloat.pack F (.infinity (s / .positive)))) = _
    rw [(Proper.infinity _).unpack_pack, hsign]
    exact congrArg some (scale_infinity F _ s).symm
  | zero s =>
    show number? (UnpackedFloat.unpack F (UnpackedFloat.pack F (.zero (s / .positive)))) = _
    rw [(Proper.zero _).unpack_pack]
    exact congrArg some (scale_zero F _).symm
  | @finite s m e hm h he =>
    have hx : (0 : ℝ) < m * 2 ^ e / (m' * 2 ^ e') := by positivity
    let target := min (e - e') (F.targetExponent (totalExponent m e - totalExponent m' e'))
    obtain ⟨n, hn⟩ := Int.le.dest (min_le_left (e - e')
      (F.targetExponent (totalExponent m e - totalExponent m' e')))
    have htells : Tells (.ofMantissaAndAccuracy (m <<< n / m') (accuracyOfFraction (m <<< n % m') m'))
        (m * 2 ^ e / (m' * 2 ^ e') / 2 ^ target : ℝ) := by
      have hquotient : (m * 2 ^ e / (m' * 2 ^ e') / 2 ^ target : ℝ) = (m <<< n : ℕ) / m' := by
        have he : e = target + n + e' := by omega
        rw [Nat.shiftLeft_eq, he, zpow_add₀ two_ne_zero, zpow_add₀ two_ne_zero, zpow_natCast]
        push_cast
        field_simp
      rw [hquotient]
      exact tells_div _ hm'
    have hexponent : target ≤ roundingExponent F (m * 2 ^ e / (m' * 2 ^ e')) :=
      (min_le_right _ _).trans (div_exponent_le hm hm')
    have hshift : (e - e' - target).toNat = n := by omega
    have hdiv : UnpackedFloat.div F (.finite s m e hm) (.finite .positive m' e' hm') =
        roundWithAccuracy F (s / .positive) (m <<< n / m') target
          (accuracyOfFraction (m <<< n % m') m') := by
      rw [← hshift]
      rfl
    rw [hdiv, number?_rounded wide hx htells hexponent, hsign]
    show _ = some (scale F _ (withSign s ((m * 2 ^ e : ℝ) : EReal)))
    rw [scale_finite F _ s (by positivity), ← div_eq_mul_inv]

end Scale

/-! ## Sums and differences -/

section Sum

variable {F : Format} {f g : UnpackedFloat}

theorem number?_packComponents (s : Sign) (exponent : BitVec F.exponentBits)
    (mantissa : BitVec F.mantissaBitsWithoutImplicit)
    (h : exponent = -1#F.exponentBits → mantissa = 0#F.mantissaBitsWithoutImplicit) :
    number? (UnpackedFloat.unpack F (packComponents F s exponent mantissa)) ≠ none := by
  rw [unpack_packComponents]
  split
  · next hall =>
    rw [if_pos (h hall)]
    exact Option.some_ne_none _
  · split <;> rw [number?_signed] <;> exact Option.some_ne_none _

/-- Only what is not a number is packed as such. -/
theorem number?_pack (hf : f ≠ .notANumber) :
    number? (UnpackedFloat.unpack F (UnpackedFloat.pack F f)) ≠ none := by
  cases f with
  | notANumber => exact absurd rfl hf
  | infinity s => exact number?_packComponents s _ _ fun _ => rfl
  | zero s => exact number?_packComponents s _ _ fun h => absurd h (zero_ne_neg_one F)
  | finite s m e hm =>
    unfold UnpackedFloat.pack
    extract_lets _ biased
    split
    · exact number?_packComponents s _ _ fun _ => rfl
    · next hsmall =>
      split
      · refine number?_packComponents s (BitVec.ofNat _ biased) _ fun hall => ?_
        have htoNat := (congrArg BitVec.toNat hall).trans (toNat_neg_one _)
        rw [BitVec.toNat_ofNat, Nat.mod_eq_of_lt (by omega)] at htoNat
        omega
      · exact number?_packComponents s _ _ fun h => absurd h (zero_ne_neg_one F)

theorem normalize_ne (mantissa : ℤ) (exponent : ℤ) (s : Sign) :
    UnpackedFloat.normalize F mantissa exponent s ≠ .notANumber := by
  have hround (s : Sign) (m : ℕ) (e : ℤ) (accuracy : Accuracy) :
      roundWithAccuracy F s m e accuracy ≠ .notANumber := by
    unfold roundWithAccuracy
    dsimp only
    split <;> exact nofun
  unfold UnpackedFloat.normalize
  split
  · exact hround _ _ _ _
  · exact nofun
  · exact hround _ _ _ _

theorem add_ne (hf : f ≠ .notANumber) (hg : g.isFinite = true) :
    f.add F g ≠ .notANumber := by
  cases g with
  | notANumber | infinity s => cases hg
  | zero s' =>
    cases f with
    | notANumber => exact absurd rfl hf
    | infinity s => exact nofun
    | zero s =>
      show (if s == s' then _ else _) ≠ _
      split <;> exact nofun
    | finite s m e hm => exact nofun
  | finite s' m' e' hm' =>
    cases f with
    | notANumber => exact absurd rfl hf
    | infinity s => exact nofun
    | zero s => exact nofun
    | finite s m e hm => exact normalize_ne _ _ _

theorem sub_ne (hf : f.isFinite = true) (hg : g ≠ .notANumber) :
    f.sub F g ≠ .notANumber := by
  cases f with
  | notANumber | infinity s => cases hf
  | zero s =>
    cases g with
    | notANumber => exact absurd rfl hg
    | infinity s' => exact nofun
    | zero s' =>
      show (if s == -s' then _ else _) ≠ _
      split <;> exact nofun
    | finite s' m' e' hm' => exact nofun
  | finite s m e hm =>
    cases g with
    | notANumber => exact absurd rfl hg
    | infinity s' => exact nofun
    | zero s' => exact nofun
    | finite s' m' e' hm' => exact normalize_ne _ _ _

end Sum

/-! ## Whole numbers -/

/-- A mantissa that is shifted up to where its digits are wanted tells of the same number. -/
theorem tells_shiftLeft (n k : ℕ) :
    Tells (.ofMantissaAndAccuracy (n <<< k) .exact) ((n : ℝ) / 2 ^ (-k : ℤ)) := by
  show _ = ((n <<< k : ℕ) : ℝ)
  rw [Nat.shiftLeft_eq, zpow_neg, div_inv_eq_mul, zpow_natCast]
  push_cast
  rfl

theorem number?_ofNat {F : Format} (wide : 1 < F.exponentBits) (n : ℕ) :
    number? (UnpackedFloat.unpack F (UnpackedFloat.pack F (UnpackedFloat.ofNat F n))) =
      some (nearest F n) := by
  rcases Nat.eq_zero_or_pos n with rfl | hn
  · rw [Nat.cast_zero, nearest_zero]
    exact congrArg number? (Proper.zero _).unpack_pack
  · have hnormalize : UnpackedFloat.ofNat F n = UnpackedFloat.round F .positive n 0 := by
      show UnpackedFloat.normalize F n 0 .positive = _
      unfold UnpackedFloat.normalize
      rw [compare_gt_iff_gt.mpr (by exact_mod_cast hn : (0 : ℤ) < n)]
      rfl
    rw [hnormalize]
    let target := F.targetExponent (totalExponent n 0)
    have hround : UnpackedFloat.round F .positive n 0 =
        roundWithAccuracy F .positive (n <<< (-target).toNat) (-((-target).toNat : ℤ)) .exact := by
      unfold UnpackedFloat.round decreaseExponent
      simp only [zero_sub]
      rfl
    have hexponent : -((-target).toNat : ℤ) ≤ roundingExponent F n := by
      have : roundingExponent F n = target := by
        rw [roundingExponent, Int.log_natCast, ← add_zero (Nat.log 2 n : ℤ), ← totalExponent_eq]
      omega
    rw [hround]
    exact number?_rounded wide (by exact_mod_cast hn) (tells_shiftLeft n _) hexponent .positive

end StatusWall.Binary
