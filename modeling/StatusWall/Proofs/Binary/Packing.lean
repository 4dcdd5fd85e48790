import Mathlib
import StatusWall.Proofs.Binary.Rounding

/-!
# Packed numbers and the numbers they stand for

The core library gives floating-point numbers a model: an operation unpacks its operands, computes
with mantissas and exponents, drops the digits that are too many, and packs the result. This module
says what that means in real numbers, for any binary format.

Dropped digits leave two bits behind, and these tell enough of them (`Tells`): the model's rounding is
`rounded` (`roundWithAccuracy_eq`). Packing and unpacking lose nothing of a number in canonical form
unless it is too large (`Canonical.unpack_pack`). So what is rounded and packed is `nearest`
(`number?_rounded`), which is all that the operations need.
-/

namespace StatusWall.Binary

open Float.Model Float.Model.UnpackedFloat

/-! ## Digits that are dropped -/

/-- What a mantissa with its two residual bits tells of a number: its whole part, and where it stands
relative to the middle. -/
def Tells (em : ExtendedMantissa) (y : ℝ) : Prop :=
  match em.roundBit, em.stickyBit with
  | false, false => y = em.mantissa
  | false, true => em.mantissa < y ∧ y + y < em.mantissa + em.mantissa + 1
  | true, false => y + y = em.mantissa + em.mantissa + 1
  | true, true => em.mantissa + em.mantissa + 1 < y + y ∧ y < em.mantissa + 1

namespace Tells

variable {em : ExtendedMantissa} {y : ℝ}

theorem mantissa_le (h : Tells em y) : em.mantissa ≤ y := by
  obtain ⟨m, r, s⟩ := em
  cases r <;> cases s <;> simp only [Tells] at h ⊢ <;> linarith

theorem lt_mantissa_add_one (h : Tells em y) : y < em.mantissa + 1 := by
  obtain ⟨m, r, s⟩ := em
  cases r <;> cases s <;> simp only [Tells] at h ⊢ <;> linarith

/-- The mantissa is the whole part. -/
theorem floor_eq (h : Tells em y) : ⌊y⌋₊ = em.mantissa :=
  (Nat.floor_eq_iff ((Nat.cast_nonneg _).trans h.mantissa_le)).mpr
    ⟨h.mantissa_le, h.lt_mantissa_add_one⟩

/-- The bits are what rounding needs. -/
theorem roundedMantissa_eq (h : Tells em y) : em.roundedMantissa = nearestEven y := by
  unfold nearestEven
  rw [h.floor_eq]
  obtain ⟨m, r, s⟩ := em
  cases r <;> cases s <;> simp only [Tells] at h
  · rw [if_pos (by linarith)]
    rfl
  · rw [if_pos (by linarith)]
    rfl
  · rw [if_neg (by linarith), if_pos (by linarith)]
    rfl
  · rw [if_neg (by linarith), if_neg (by linarith)]
    rfl

/-- Dropping the last digit. -/
theorem shiftRightOne (h : Tells em y) : Tells em.shiftRightOne (y / 2) := by
  obtain ⟨m, r, s⟩ := em
  have hdigit : (m : ℝ) = 2 * (m / 2 : ℕ) + (m % 2 : ℕ) := by
    exact_mod_cast (Nat.div_add_mod m 2).symm
  unfold ExtendedMantissa.shiftRightOne
  rcases Nat.mod_two_eq_zero_or_one m with hm | hm <;> rw [hm] at hdigit <;> push_cast at hdigit <;>
    cases r <;> cases s <;> simp only [Tells] at h <;> simp only [hm]
  · show y / 2 = _
    linarith
  · exact ⟨by linarith, by linarith⟩
  · exact ⟨by linarith, by linarith⟩
  · exact ⟨by linarith, by linarith⟩
  · show y / 2 + y / 2 = _ + _ + 1
    linarith
  · exact ⟨by linarith, by linarith⟩
  · exact ⟨by linarith, by linarith⟩
  · exact ⟨by linarith, by linarith⟩

/-- Dropping digits keeps what is told, of the number divided accordingly. -/
theorem shiftRight (h : Tells em y) (n : ℕ) : Tells (em >>> n) (y / 2 ^ n) := by
  induction n with
  | zero => rwa [pow_zero, div_one]
  | succ n ih =>
    rw [pow_succ, ← div_div]
    exact ih.shiftRightOne

end Tells

/-! ## Rounding to the format -/

/-- Zero, or a mantissa and an exponent, with a sign. -/
def signed (s : Sign) (m : ℕ) (e : ℤ) : UnpackedFloat :=
  if h : m = 0 then .zero s else .finite s m e (Nat.pos_of_ne_zero h)

/-- A mantissa of zero makes a zero, under its sign. -/
theorem signed_zero (s : Sign) (e : ℤ) : signed s 0 e = .zero s := dif_pos rfl

theorem signed_of_ne_zero (s : Sign) {m : ℕ} (hm : m ≠ 0) (e : ℤ) :
    signed s m e = .finite s m e (Nat.pos_of_ne_zero hm) := dif_neg hm

theorem mantissa_ofMantissaAndAccuracy (m : ℕ) (accuracy : Accuracy) :
    (ExtendedMantissa.ofMantissaAndAccuracy m accuracy).mantissa = m := by
  rcases accuracy with _ | (_ | _ | _) <;> rfl

theorem totalExponent_eq (m : ℕ) (e : ℤ) : totalExponent m e = Nat.log 2 m + e + 1 := by
  rw [totalExponent, Nat.log2_eq_log_two]
  ring

section Round

variable {F : Format} {m : ℕ} {e : ℤ} {accuracy : Accuracy} {x : ℝ}

/-- What has its digits already keeps them. -/
theorem Canonical.shiftToTargetExponent_eq (h : Canonical F m e) :
    shiftToTargetExponent F m e .exact = (⟨m, false, false⟩, e) := by
  have hshift : (F.targetExponent (totalExponent m e) - e).toNat = 0 := by
    have hlog := h.log_lt
    have hleast := h.least_le
    rw [totalExponent_eq, Format.targetExponent]
    omega
  unfold shiftToTargetExponent shiftToExponent
  simp only [hshift, Nat.cast_zero, add_zero]
  rfl

/-- A mantissa that took up one digit more gives one up. -/
theorem shiftToTargetExponent_carry (he : F.minExponent ≤ e) :
    shiftToTargetExponent F (2 ^ F.mantissaBits) e .exact =
      (⟨2 ^ F.mantissaBitsWithoutImplicit, false, false⟩, e + 1) := by
  have hshift : (F.targetExponent (totalExponent (2 ^ F.mantissaBits) e) - e).toNat = 1 := by
    rw [totalExponent_eq, Nat.log_pow one_lt_two, Format.targetExponent]
    omega
  have hhalf : 2 ^ F.mantissaBits / 2 = 2 ^ F.mantissaBitsWithoutImplicit := by
    rw [two_pow_mantissaBits, Nat.mul_div_cancel_left _ two_pos]
  have hlast : (2 ^ F.mantissaBits % 2 != 0) = false := by
    rw [two_pow_mantissaBits, Nat.mul_mod_right]
    rfl
  unfold shiftToTargetExponent shiftToExponent
  simp only [hshift]
  show ((⟨2 ^ F.mantissaBits / 2, 2 ^ F.mantissaBits % 2 != 0, false⟩ : ExtendedMantissa), e + 1) = _
  rw [hhalf, hlast]

/-- The exponent that is aimed at is the one the number is rounded at. -/
theorem targetExponent_of_tells (hx : 0 < x)
    (h : Tells (.ofMantissaAndAccuracy m accuracy) (x / 2 ^ e)) (he : e ≤ roundingExponent F x) :
    F.targetExponent (totalExponent m e) = roundingExponent F x := by
  have lower := h.mantissa_le
  have upper := h.lt_mantissa_add_one
  rw [mantissa_ofMantissaAndAccuracy] at lower upper
  rw [totalExponent_eq]
  rcases eq_or_ne m 0 with rfl | hm
  · -- Without a digit before the point the exponent is the least one already.
    rw [Nat.cast_zero, zero_add, div_lt_one (two_zpow_pos e)] at upper
    have hlog : Int.log 2 x < e := (Int.lt_zpow_iff_log_lt one_lt_two hx).mp (by exact_mod_cast upper)
    have hdigits := mantissaBits_eq F
    unfold roundingExponent Format.targetExponent at he ⊢
    rw [Nat.log_zero_right]
    omega
  · rw [roundingExponent, log_of_mantissa hm lower upper]

/-- **The format's rounding is rounding.** -/
theorem roundWithAccuracy_eq (hx : 0 < x)
    (h : Tells (.ofMantissaAndAccuracy m accuracy) (x / 2 ^ e)) (he : e ≤ roundingExponent F x)
    (s : Sign) :
    ∃ m' e', Canonical F m' e' ∧ (m' : ℝ) * 2 ^ e' = rounded F x ∧
      roundWithAccuracy F s m e accuracy = signed s m' e' := by
  obtain ⟨n, hn⟩ := Int.le.dest he
  let em := ExtendedMantissa.ofMantissaAndAccuracy m accuracy
  have hfirst : shiftToTargetExponent F m e accuracy = (em >>> n, roundingExponent F x) := by
    unfold shiftToTargetExponent shiftToExponent
    simp only [targetExponent_of_tells hx h he, ← hn, add_sub_cancel_left, Int.toNat_natCast]
    rfl
  have htells : Tells (em >>> n) (x / 2 ^ roundingExponent F x) := by
    rw [← hn, zpow_add₀ two_ne_zero, zpow_natCast, ← div_div]
    exact h.shiftRight n
  have hrounded : roundWithAccuracy F s m e accuracy =
      (let final := shiftToTargetExponent F (nearestEven (x / 2 ^ roundingExponent F x))
        (roundingExponent F x) .exact
       signed s final.1.mantissa final.2) := by
    unfold roundWithAccuracy
    rw [hfirst]
    simp only [htells.roundedMantissa_eq]
    rfl
  rcases nearestEven_cases (F := F) hx with hcanonical | hcarry
  · rw [hcanonical.shiftToTargetExponent_eq] at hrounded
    exact ⟨_, _, hcanonical, rfl, hrounded⟩
  · have hleast : F.minExponent ≤ roundingExponent F x := le_max_right _ _
    rw [hcarry, shiftToTargetExponent_carry hleast] at hrounded
    have hlt : 2 ^ F.mantissaBitsWithoutImplicit < 2 ^ F.mantissaBits :=
      Nat.pow_lt_pow_right one_lt_two (Nat.lt_add_of_pos_left one_pos)
    refine ⟨_, roundingExponent F x + 1, ⟨hlt, by omega, .inl le_rfl⟩, ?_, hrounded⟩
    rw [rounded, hcarry, two_pow_mantissaBits, zpow_add_one₀ two_ne_zero]
    push_cast
    ring

end Round

/-! ## Packing -/

section Pack

variable {F : Format}

/-- The bias is one less than half the exponents there are. -/
theorem exponentBias_eq (F : Format) : (F.exponentBias : ℤ) = limit F - 1 := by
  have := Nat.two_pow_pos (F.exponentBits - 1)
  rw [Format.exponentBias, limit]
  omega

theorem two_pow_exponentBits (F : Format) : 2 ^ F.exponentBits = 2 * limit F := by
  rw [limit, ← pow_succ', Nat.sub_add_cancel F.he]

/-- What the three parts of a number's bits stand for. -/
theorem unpack_eq (b : BitVec F.numBits) :
    UnpackedFloat.unpack F b =
      (let s := Sign.ofBitVec (unpackSign b)
       if unpackExponent b = -1#F.exponentBits then
         if unpackMantissa b = 0#F.mantissaBitsWithoutImplicit then .infinity s else .notANumber
       else if unpackExponent b = 0#F.exponentBits then
         signed s (unpackMantissa b).toNat F.minExponent
       else signed s (2 ^ F.mantissaBitsWithoutImplicit + (unpackMantissa b).toNat)
         ((unpackExponent b).toNat - (F.exponentBias + F.mantissaBitsWithoutImplicit))) := by
  have hfull (mantissa : BitVec F.mantissaBitsWithoutImplicit) :
      (1#1 ++ mantissa).toNat = 2 ^ F.mantissaBitsWithoutImplicit + mantissa.toNat := by
    rw [BitVec.toNat_append, ← Nat.shiftLeft_add_eq_or_of_lt mantissa.isLt, Nat.shiftLeft_eq]
    show 1 * _ + _ = _
    rw [one_mul]
  have hleast : (0 : ℤ) - (F.exponentBias + F.mantissaBitsWithoutImplicit) + 1 = F.minExponent := by
    rw [minExponent_eq, exponentBias_eq, mantissaBits_eq]
    push_cast
    ring
  unfold UnpackedFloat.unpack
  simp only [hfull]
  split
  · rfl
  · split
    · next hzero =>
      unfold signed
      simp only [← BitVec.toNat_inj, BitVec.toNat_ofNat, Nat.zero_mod, hzero, Nat.cast_zero, hleast]
    · unfold signed
      rw [dif_neg (by have := Nat.two_pow_pos F.mantissaBitsWithoutImplicit; omega)]

/-- The three parts of a pattern are found again where they were put. -/
theorem unpack_packComponents (s : Sign) (exponent : BitVec F.exponentBits)
    (mantissa : BitVec F.mantissaBitsWithoutImplicit) :
    UnpackedFloat.unpack F (packComponents F s exponent mantissa) =
      if exponent = -1#F.exponentBits then
        if mantissa = 0#F.mantissaBitsWithoutImplicit then .infinity s else .notANumber
      else if exponent = 0#F.exponentBits then signed s mantissa.toNat F.minExponent
      else signed s (2 ^ F.mantissaBitsWithoutImplicit + mantissa.toNat)
        (exponent.toNat - (F.exponentBias + F.mantissaBitsWithoutImplicit)) := by
  rw [unpack_eq]
  simp only [unpackSign_packComponents, unpackMantissa_packComponents,
    unpackExponent_packComponents, Sign.ofBitVec_toBitVec]

/-- What an unpacked number can be: not a number, infinite, zero, or a number in its canonical form
that is not too large. -/
inductive Proper (F : Format) : UnpackedFloat → Prop
  | notANumber : Proper F .notANumber
  | infinity (s : Sign) : Proper F (.infinity s)
  | zero (s : Sign) : Proper F (.zero s)
  | finite (s : Sign) {m : ℕ} {e : ℤ} (hm : 0 < m) (h : Canonical F m e)
      (he : e ≤ greatestExponent F) : Proper F (.finite s m e hm)

theorem proper_signed (s : Sign) {m : ℕ} {e : ℤ} (h : Canonical F m e)
    (he : e ≤ greatestExponent F) : Proper F (signed s m e) := by
  unfold signed
  split
  · exact .zero s
  · exact .finite s _ h he

theorem toNat_neg_one (n : ℕ) : (-1#n).toNat = 2 ^ n - 1 := by
  rw [BitVec.neg_one_eq_allOnes, BitVec.toNat_allOnes]

/-- Every pattern stands for a number of the format, or for none. -/
theorem proper_unpack (wide : 1 < F.exponentBits) (b : BitVec F.numBits) :
    Proper F (UnpackedFloat.unpack F b) := by
  have hmantissa := (unpackMantissa b).isLt
  have hdigits := two_pow_mantissaBits F
  rw [unpack_eq]
  extract_lets s
  split
  · split
    · exact .infinity s
    · exact .notANumber
  · next hall =>
    split
    · exact proper_signed s ⟨by omega, le_rfl, .inr rfl⟩ (minExponent_le_greatestExponent wide)
    · next hzero =>
      have hexponent := (unpackExponent b).isLt
      have hne : (unpackExponent b).toNat ≠ 2 ^ F.exponentBits - 1 := fun h =>
        hall (BitVec.eq_of_toNat_eq (h.trans (toNat_neg_one _).symm))
      have hne' : (unpackExponent b).toNat ≠ 0 := fun h => hzero (BitVec.eq_of_toNat_eq h)
      rw [two_pow_exponentBits] at hne hexponent
      refine proper_signed s ⟨by omega, ?_, .inl (Nat.le_add_right _ _)⟩ ?_
      · rw [minExponent_eq, exponentBias_eq, mantissaBits_eq]
        omega
      · rw [greatestExponent, exponentBias_eq, mantissaBits_eq]
        omega

theorem zero_ne_neg_one (F : Format) : 0#F.exponentBits ≠ -1#F.exponentBits := by
  intro heq
  have htoNat := (congrArg BitVec.toNat heq).trans (toNat_neg_one _)
  have := Nat.one_lt_two_pow F.he.ne'
  rw [BitVec.toNat_ofNat, Nat.zero_mod] at htoNat
  omega

theorem unpack_packedInfinity (s : Sign) :
    UnpackedFloat.unpack F (packedInfinity F s) = .infinity s :=
  (unpack_packComponents s _ _).trans (by rw [if_pos rfl]; exact if_pos rfl)

/-- A mantissa with all its digits and its exponent come back. -/
theorem unpack_packComponents_normal {m biased : ℕ} (h : 2 ^ F.mantissaBitsWithoutImplicit ≤ m)
    (h' : m < 2 ^ F.mantissaBits) (hpos : 0 < biased) (hbiased : biased + 1 < 2 ^ F.exponentBits)
    (s : Sign) :
    UnpackedFloat.unpack F (packComponents F s (BitVec.ofNat _ biased) (BitVec.ofNat _ m)) =
      signed s m (biased - (F.exponentBias + F.mantissaBitsWithoutImplicit)) := by
  have hexponent : (BitVec.ofNat F.exponentBits biased).toNat = biased := by
    rw [BitVec.toNat_ofNat, Nat.mod_eq_of_lt (by omega)]
  have hmantissa :
      2 ^ F.mantissaBitsWithoutImplicit + (BitVec.ofNat F.mantissaBitsWithoutImplicit m).toNat = m := by
    have hdigits := two_pow_mantissaBits F
    rw [BitVec.toNat_ofNat, Nat.mod_eq_sub_mod h, Nat.mod_eq_of_lt (by omega)]
    omega
  rw [unpack_packComponents, if_neg, if_neg, hexponent, hmantissa]
  · intro heq
    rw [heq, BitVec.toNat_ofNat, Nat.zero_mod] at hexponent
    omega
  · intro heq
    rw [heq, toNat_neg_one] at hexponent
    omega

/-- A mantissa without all its digits comes back. -/
theorem unpack_packComponents_subnormal {m : ℕ} (h : m < 2 ^ F.mantissaBitsWithoutImplicit) (s : Sign) :
    UnpackedFloat.unpack F (packComponents F s 0#_ (BitVec.ofNat _ m)) = signed s m F.minExponent := by
  rw [unpack_packComponents, if_neg (zero_ne_neg_one F), if_pos rfl, BitVec.toNat_ofNat,
    Nat.mod_eq_of_lt h]

/-- **A number that is packed is the same number**, unless it is too large: then it is infinite. -/
theorem Canonical.unpack_pack {m : ℕ} {e : ℤ} (h : Canonical F m e) (hm : m ≠ 0) (s : Sign) :
    UnpackedFloat.unpack F (UnpackedFloat.pack F (signed s m e)) =
      if e ≤ greatestExponent F then signed s m e else .infinity s := by
  have hleast := h.least_le
  rw [minExponent_eq, mantissaBits_eq] at hleast
  obtain ⟨biased, hbiased⟩ := Int.eq_ofNat_of_zero_le
    (show 0 ≤ e + F.exponentBias + F.mantissaBitsWithoutImplicit by rw [exponentBias_eq]; omega)
  have hpos : 0 < biased := by
    rw [exponentBias_eq] at hbiased
    omega
  have hsmall : e ≤ greatestExponent F ↔ ¬ 2 ^ F.exponentBits ≤ biased + 1 := by
    rw [exponentBias_eq] at hbiased
    rw [greatestExponent, two_pow_exponentBits, mantissaBits_eq]
    omega
  have hexponent : (biased : ℤ) - (F.exponentBias + F.mantissaBitsWithoutImplicit) = e := by omega
  rw [signed_of_ne_zero s hm]
  unfold UnpackedFloat.pack
  simp only [hbiased, Int.toNat_natCast]
  by_cases he : e ≤ greatestExponent F
  · rw [if_pos he, if_neg (hsmall.mp he), ← signed_of_ne_zero s hm]
    by_cases hfull : 2 ^ F.mantissaBitsWithoutImplicit ≤ m
    · have hlog : m.log2 + 1 = F.mantissaBits := by
        have hlt := h.lt
        rw [mantissaBits_eq, Nat.add_comm] at hlt ⊢
        exact congrArg (1 + ·) ((Nat.log2_eq_iff hm).mpr ⟨hfull, hlt⟩)
      rw [if_pos hlog,
        unpack_packComponents_normal hfull h.lt hpos (not_le.mp (hsmall.mp he)), hexponent]
    · obtain rfl : e = F.minExponent := h.full.resolve_left hfull
      have hlog : m.log2 + 1 ≠ F.mantissaBits := by
        have := (Nat.log2_lt hm).mpr (not_le.mp hfull)
        rw [mantissaBits_eq]
        omega
      rw [if_neg hlog, unpack_packComponents_subnormal (not_le.mp hfull)]
  · rw [if_neg he, if_pos (not_not.mp fun h => he (hsmall.mpr h)), unpack_packedInfinity]

theorem unpack_packedNaN : UnpackedFloat.unpack F (packedNaN F) = .notANumber := by
  have hlt : 2 ^ (F.mantissaBitsWithoutImplicit - 1) < 2 ^ F.mantissaBitsWithoutImplicit :=
    Nat.pow_lt_pow_right one_lt_two (Nat.sub_one_lt F.hm.ne')
  refine (unpack_packComponents _ _ _).trans ?_
  rw [if_pos rfl, if_neg]
  intro heq
  have htoNat := congrArg BitVec.toNat heq
  rw [BitVec.toNat_shiftLeft, BitVec.toNat_ofNat, BitVec.toNat_ofNat, Nat.zero_mod,
    Nat.mod_eq_of_lt (Nat.one_lt_two_pow F.hm.ne'), Nat.shiftLeft_eq, one_mul,
    Nat.mod_eq_of_lt hlt] at htoNat
  exact absurd htoNat (Nat.two_pow_pos _).ne'

/-- A number of the format is packed without loss. -/
theorem Proper.unpack_pack {f : UnpackedFloat} (h : Proper F f) :
    UnpackedFloat.unpack F (UnpackedFloat.pack F f) = f := by
  cases h with
  | notANumber => exact unpack_packedNaN
  | infinity s => exact unpack_packedInfinity s
  | zero s => exact (unpack_packComponents_subnormal (Nat.two_pow_pos _) s).trans (signed_zero s _)
  | finite s hm h he =>
    have := h.unpack_pack hm.ne' s
    rwa [if_pos he, signed_of_ne_zero s hm.ne'] at this

end Pack

/-! ## Values -/

/-- A number with a sign. -/
noncomputable def withSign (s : Sign) (v : EReal) : EReal :=
  match s with
  | .positive => v
  | .negative => -v

/-- The number that stands for an unpacked one, if it is one. -/
noncomputable def number? : UnpackedFloat → Option EReal
  | .notANumber => none
  | .infinity s => some (withSign s ⊤)
  | .zero _ => some 0
  | .finite s m e _ => some (withSign s (magnitude m e))

theorem number?_signed (s : Sign) (m : ℕ) (e : ℤ) :
    number? (signed s m e) = some (withSign s ((m * 2 ^ e : ℝ) : EReal)) := by
  rcases eq_or_ne m 0 with rfl | hm
  · rw [signed_zero, Nat.cast_zero, zero_mul, EReal.coe_zero]
    cases s with
    | positive => rfl
    | negative => exact congrArg some neg_zero.symm
  · rw [signed_of_ne_zero s hm]
    rfl

section Values

variable {F : Format} {m : ℕ} {e : ℤ}

/-- A number below the limit is in the format. -/
theorem Canonical.lt_iff (wide : 1 < F.exponentBits) (h : Canonical F m e) (hm : m ≠ 0) :
    (m : ℝ) * 2 ^ e < 2 ^ limit F ↔ e ≤ greatestExponent F := by
  have hbits : (2 : ℝ) ^ F.mantissaBits = 2 * 2 ^ F.mantissaBitsWithoutImplicit := by
    exact_mod_cast two_pow_mantissaBits F
  rw [two_pow_limit]
  constructor
  · contrapose!
    intro hgt
    have hleast := minExponent_le_greatestExponent wide
    have hfull : 2 ^ F.mantissaBitsWithoutImplicit ≤ m := h.full.resolve_right (by omega)
    have hpow : (2 : ℝ) ^ (greatestExponent F + 1) ≤ 2 ^ e := zpow_le_zpow_right₀ one_le_two hgt
    rw [zpow_add_one₀ two_ne_zero] at hpow
    calc (2 : ℝ) ^ F.mantissaBits * 2 ^ greatestExponent F
        = 2 ^ F.mantissaBitsWithoutImplicit * (2 ^ greatestExponent F * 2) := by
          rw [hbits]
          ring
      _ ≤ m * 2 ^ e := by
          gcongr
          exact_mod_cast hfull
  · intro he
    have hpow : (2 : ℝ) ^ e ≤ 2 ^ greatestExponent F := zpow_le_zpow_right₀ one_le_two he
    have hm' : (m : ℝ) < 2 ^ F.mantissaBits := by exact_mod_cast h.lt
    exact mul_lt_mul hm' hpow (two_zpow_pos e) (by positivity)

/-- **What becomes of a positive number that is rounded to the format and packed.** -/
theorem number?_rounded (wide : 1 < F.exponentBits) {accuracy : Accuracy} {x : ℝ} (hx : 0 < x)
    (h : Tells (.ofMantissaAndAccuracy m accuracy) (x / 2 ^ e)) (he : e ≤ roundingExponent F x)
    (s : Sign) :
    number? (UnpackedFloat.unpack F (UnpackedFloat.pack F (roundWithAccuracy F s m e accuracy))) =
      some (withSign s (nearest F x)) := by
  obtain ⟨m', e', hcanonical, hvalue, heq⟩ := roundWithAccuracy_eq hx h he s
  rw [heq]
  unfold nearest
  rw [← hvalue]
  rcases eq_or_ne m' 0 with rfl | hm
  · rw [signed_zero, (Proper.zero s).unpack_pack, Nat.cast_zero, zero_mul, if_pos (by positivity),
      EReal.coe_zero]
    cases s with
    | positive => rfl
    | negative => exact congrArg some neg_zero.symm
  · rw [hcanonical.unpack_pack hm, if_congr (hcanonical.lt_iff wide hm) rfl rfl]
    split
    · exact number?_signed s m' e'
    · rfl

end Values

end StatusWall.Binary
