import StatusWall.Proofs.Binary.Arithmetic

/-!
# Doubles

A double stands for a number, finite or infinite, or for none (`value?`). It is finite exactly if the
number is, and doubles compare as their numbers do (`le_iff`, `lt_iff`). Both zeros stand for zero, and
what stands for none does not even compare with itself (`le_self_iff`).

Doubles are multiplied and divided by a positive number as `Binary.scale` says, and a sum or difference
of a number and a finite number is a number again. The last section is about whole numbers within 64
bits: each of them is finite as a double.
-/

namespace StatusWall.Double

open Float.Model Float.Model.UnpackedFloat Binary

/-- The number that a double stands for, if it stands for one. -/
noncomputable def value? (x : Float) : Option EReal := number? x.toModel.unpack

/-- Doubles are packed as the format says. -/
theorem unpack_pack (f : UnpackedFloat) :
    (Float.Model.pack f).unpack =
      UnpackedFloat.unpack .binary64 (UnpackedFloat.pack .binary64 f) := rfl

theorem proper (x : Float) : Proper .binary64 x.toModel.unpack := proper_unpack (by decide) _

/-- A double is finite if it stands for a real number. -/
theorem isFinite_iff {x : Float} : x.isFinite = true ↔ ∃ r : ℝ, value? x = some (r : EReal) :=
  Binary.isFinite_iff

/-- What stands for no number is what is called so. -/
theorem isNaN_iff {x : Float} : x.isNaN = true ↔ value? x = none := Binary.isNaN_iff

theorem exists_value? {x : Float} (h : x.isNaN = false) : ∃ v, value? x = some v :=
  Option.ne_none_iff_exists'.mp fun heq => Bool.eq_false_iff.mp h (isNaN_iff.mpr heq)

/-! ## Negation -/

/-- Negation is exact. -/
theorem value?_neg (x : Float) : value? (-x) = (value? x).map (-·) :=
  (congrArg number? (proper x).neg.unpack_pack).trans (number?_neg _)

theorem isFinite_neg {x : Float} (h : x.isFinite = true) : (-x).isFinite = true := by
  obtain ⟨r, hr⟩ := isFinite_iff.mp h
  exact isFinite_iff.mpr ⟨-r, by rw [value?_neg, hr]; rfl⟩

/-! ## Order -/

section

variable {a b : Float} {u v : EReal} (hu : value? a = some u) (hv : value? b = some v)

include hu hv

/-- The comparison `≤` of doubles is that of their numbers. -/
theorem le_iff : a ≤ b ↔ u ≤ v :=
  decide_eq_true_iff.trans (Binary.le_iff (proper a) (proper b) hu hv)

theorem lt_iff : a < b ↔ u < v :=
  decide_eq_true_iff.trans (Binary.lt_iff (proper a) (proper b) hu hv)

end

/-- Only what is not a number does not compare with itself. -/
theorem le_self_iff {x : Float} : x ≤ x ↔ x.isNaN = false := by
  constructor
  · show decide (x.toModel.unpack.le x.toModel.unpack = true) = true → x.toModel.unpack.isNaN = false
    rw [decide_eq_true_iff]
    cases x.toModel.unpack with
    | notANumber => exact nofun
    | _ => exact fun _ => rfl
  · intro h
    obtain ⟨v, hv⟩ := exists_value? h
    exact (le_iff hv hv).mpr le_rfl

/-! ## Products and quotients -/

/-- **Multiplying by a positive number.** -/
theorem value?_mul {c : Float} {r : ℝ} (hc : value? c = some (r : EReal)) (hr : 0 < r) (a : Float) :
    value? (a * c) = (value? a).map (scale .binary64 r) :=
  number?_mul (by decide) (proper a) (proper c) hc hr

/-- **Dividing by a positive number.** -/
theorem value?_div {c : Float} {r : ℝ} (hc : value? c = some (r : EReal)) (hr : 0 < r) (a : Float) :
    value? (a / c) = (value? a).map (scale .binary64 r⁻¹) :=
  number?_div (by decide) (proper a) (proper c) hc hr

/-! ## Sums and differences -/

theorem unpack_ne {x : Float} (h : x.isNaN = false) : x.toModel.unpack ≠ .notANumber := by
  intro heq
  have : x.toModel.unpack.isNaN = false := h
  rw [heq] at this
  cases this

/-- **A number plus a finite number is a number.** -/
theorem isNaN_add {a b : Float} (ha : a.isNaN = false) (hb : b.isFinite = true) :
    (a + b).isNaN = false := by
  refine Bool.eq_false_iff.mpr fun h =>
    number?_pack (F := .binary64) (add_ne (F := .binary64) (unpack_ne ha) hb) ?_
  rw [← unpack_pack]
  exact isNaN_iff.mp h

/-- **A finite number minus a number is a number.** -/
theorem isNaN_sub {a b : Float} (ha : a.isFinite = true) (hb : b.isNaN = false) :
    (a - b).isNaN = false := by
  refine Bool.eq_false_iff.mpr fun h =>
    number?_pack (F := .binary64) (sub_ne (F := .binary64) ha (unpack_ne hb)) ?_
  rw [← unpack_pack]
  exact isNaN_iff.mp h

/-! ## Whole numbers -/

/-- Numbers within 64 bits stay so when they are rounded. -/
theorem nearest_eq_coe {x : ℝ} (hx : 0 ≤ x) (h : x ≤ 2 ^ 64) :
    ∃ y : ℝ, 0 ≤ y ∧ y ≤ 2 ^ 64 ∧ nearest .binary64 x = (y : EReal) := by
  have hcanonical : Canonical .binary64 (2 ^ 52) 12 := ⟨by decide, by decide, .inl le_rfl⟩
  have hpower : (2 : ℝ) ^ 64 = (2 ^ 52 : ℕ) * 2 ^ (12 : ℤ) := by norm_num
  have hle : rounded .binary64 x ≤ 2 ^ 64 := by
    rw [hpower, ← hcanonical.rounded_eq, ← hpower]
    exact rounded_mono hx h
  refine ⟨rounded .binary64 x, rounded_nonneg _ x, hle, if_pos (hle.trans_lt ?_)⟩
  exact pow_lt_pow_right₀ one_lt_two (by decide)

/-- **A whole number within 64 bits is finite as a double.** -/
theorem isFinite_ofScientific {n : ℕ} (h : n ≤ 2 ^ 64) :
    (Float.ofScientific n false 0).isFinite = true := by
  obtain ⟨y, hy, hle, hnearest⟩ := nearest_eq_coe n.cast_nonneg (by exact_mod_cast h)
  rw [isFinite_iff]
  unfold Float.ofScientific
  split
  · next hsmall =>
    have hn : n.toUInt64.toNat = n := Nat.mod_eq_of_lt (by omega)
    have hinteger : value? n.toUInt64.toFloat = some (nearest .binary64 n) := by
      conv_rhs => rw [← hn]
      exact number?_ofNat (by decide) n.toUInt64.toNat
    have hone : value? (Float.ofBits 0x3FF0000000000000) = some ((1 : ℝ) : EReal) := by
      show some ((((2 ^ 52 : ℕ) : ℝ) * 2 ^ (-52 : ℤ) : ℝ) : EReal) = _
      norm_num
    have hproduct := value?_mul hone one_pos n.toUInt64.toFloat
    rw [hinteger, hnearest, Option.map_some, scale_coe, if_pos hy, mul_one] at hproduct
    obtain ⟨z, -, -, hz⟩ := nearest_eq_coe hy hle
    exact ⟨z, hproduct.trans (congrArg some hz)⟩
  · next hlarge =>
    have hpos : 0 < n := by omega
    have hproduct : UnpackedFloat.ofScientific .binary64 n 0 =
        roundWithAccuracy .binary64 .positive (n <<< 53) (-53) .exact := by
      unfold UnpackedFloat.ofScientific
      have hexponent : ¬ (0 : ℤ) < -(2 ^ 11 + n.log2) := by omega
      rw [dif_neg hpos.ne', if_neg (by decide), if_neg hexponent, if_pos le_rfl]
      show roundWithAccuracy .binary64 .positive (n <<< 53 * 1) (-53) .exact = _
      rw [mul_one]
    have hexponent : (-53 : ℤ) ≤ roundingExponent .binary64 n := by
      rw [roundingExponent, Int.log_natCast]
      refine le_trans ?_ (le_max_left _ _)
      show (-53 : ℤ) ≤ Nat.log 2 n + 1 - (53 : ℕ)
      omega
    refine ⟨y, ?_⟩
    rw [← hnearest]
    show number? (Float.Model.pack (UnpackedFloat.ofScientific .binary64 n 0)).unpack = _
    have hpos : (0 : ℝ) < n := by exact_mod_cast hpos
    have htells : Tells (.ofMantissaAndAccuracy (n <<< 53) .exact) ((n : ℝ) / 2 ^ (-53 : ℤ)) :=
      tells_shiftLeft n 53
    rw [hproduct, unpack_pack, number?_rounded (by decide) hpos htells hexponent]
    rfl

end StatusWall.Double
