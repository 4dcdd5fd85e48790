import Mathlib.Algebra.Order.Archimedean.Real.Basic
import Mathlib.Algebra.Order.Field.Power
import Mathlib.Data.EReal.Operations
import Mathlib.Data.Int.Log
import Mathlib.Tactic.Linarith
import Mathlib.Tactic.NormNum
import Mathlib.Tactic.Positivity

/-!
# Rounding to a binary format

A positive number has an exponent (`roundingExponent`), and is rounded to the nearest multiple of that
power of two, of two equally near ones to the even one. The exponent leaves as many binary digits as
the format has, and is never below that of its smallest number. This is `rounded`. What is too large
for the format becomes infinite (`nearest`).

Two facts carry everything else: rounding is monotone, and it leaves the format's numbers alone. The
last section says from where on a number is too small not to become zero, and from where on it is too
large (`nearest_usable_iff`).
-/

namespace StatusWall.Binary

open Float.Model (Format)

/-! ## To whole numbers -/

/-- The whole number nearest to a number; of two equally near ones the even one. -/
noncomputable def nearestEven (y : ℝ) : ℕ :=
  if y < ⌊y⌋₊ + 1 / 2 then ⌊y⌋₊
  else if y = ⌊y⌋₊ + 1 / 2 then ⌊y⌋₊ + ⌊y⌋₊ % 2
  else ⌊y⌋₊ + 1

theorem floor_le_nearestEven (y : ℝ) : ⌊y⌋₊ ≤ nearestEven y := by
  unfold nearestEven
  split <;> [exact le_rfl; split <;> omega]

theorem nearestEven_le_floor_add_one (y : ℝ) : nearestEven y ≤ ⌊y⌋₊ + 1 := by
  unfold nearestEven
  split <;> [exact Nat.le_succ _; split <;> omega]

theorem nearestEven_natCast (n : ℕ) : nearestEven n = n := by
  unfold nearestEven
  rw [Nat.floor_natCast, if_pos (by linarith)]

theorem nearestEven_mono : Monotone nearestEven := by
  intro y z h
  rcases (Nat.floor_mono h).lt_or_eq with hlt | heq
  · exact ((nearestEven_le_floor_add_one y).trans hlt).trans (floor_le_nearestEven z)
  -- Both lie between the same two whole numbers.
  rcases lt_trichotomy z (⌊z⌋₊ + 1 / 2) with hz | hz | hz
  · have hy : y < ⌊y⌋₊ + 1 / 2 := by
      rw [heq]
      exact h.trans_lt hz
    unfold nearestEven
    rw [if_pos hy, if_pos hz, heq]
  · rcases h.eq_or_lt with rfl | h
    · exact le_rfl
    · have hy : y < ⌊y⌋₊ + 1 / 2 := by
        rw [heq]
        exact h.trans_eq hz
      rw [nearestEven, if_pos hy, heq]
      exact floor_le_nearestEven z
  · have up : nearestEven z = ⌊z⌋₊ + 1 := by
      rw [nearestEven, if_neg hz.not_gt, if_neg hz.ne']
    rw [up, ← heq]
    exact nearestEven_le_floor_add_one y

theorem nearestEven_le {y : ℝ} {n : ℕ} (h : y ≤ n) : nearestEven y ≤ n :=
  (nearestEven_mono h).trans (nearestEven_natCast n).le

theorem le_nearestEven {y : ℝ} {n : ℕ} (h : n ≤ y) : n ≤ nearestEven y :=
  (nearestEven_natCast n).ge.trans (nearestEven_mono h)

/-- In the middle between two whole numbers. -/
theorem nearestEven_add_half (n : ℕ) : nearestEven (n + 1 / 2) = n + n % 2 := by
  have hfloor : ⌊(n + 1 / 2 : ℝ)⌋₊ = n :=
    (Nat.floor_eq_iff (by positivity)).mpr ⟨by linarith, by linarith⟩
  unfold nearestEven
  rw [hfloor, if_neg (lt_irrefl _), if_pos rfl]

theorem nearestEven_le_of_lt {y : ℝ} {n : ℕ} (hy : 0 ≤ y) (h : y < n + 1 / 2) : nearestEven y ≤ n := by
  have hfloor : ⌊y⌋₊ ≤ n := Nat.lt_succ_iff.mp ((Nat.floor_lt hy).mpr (by push_cast; linarith))
  rcases hfloor.lt_or_eq with hlt | heq
  · exact (nearestEven_le_floor_add_one y).trans hlt
  · rw [nearestEven, heq, if_pos h]

theorem lt_nearestEven {y : ℝ} {n : ℕ} (h : n + 1 / 2 < y) : n < nearestEven y := by
  have hfloor : n ≤ ⌊y⌋₊ := Nat.le_floor (by linarith)
  rcases hfloor.lt_or_eq with hlt | heq
  · exact hlt.trans_le (floor_le_nearestEven y)
  · rw [nearestEven, ← heq, if_neg h.not_gt, if_neg h.ne']
    exact Nat.lt_succ_self n

/-! ## To the digits of the format -/

/-- What a mantissa and an exponent stand for. -/
noncomputable abbrev magnitude (m : ℕ) (e : ℤ) : ℝ := m * 2 ^ e

theorem two_zpow_pos (e : ℤ) : (0 : ℝ) < 2 ^ e := by positivity

/-- One digit of a mantissa is not stored. -/
theorem mantissaBits_eq (F : Format) : F.mantissaBits = 1 + F.mantissaBitsWithoutImplicit := rfl

theorem two_pow_mantissaBits (F : Format) :
    2 ^ F.mantissaBits = 2 * 2 ^ F.mantissaBitsWithoutImplicit := by
  rw [mantissaBits_eq, pow_add, pow_one]

/-- The power of two whose multiples a number is rounded to. -/
noncomputable def roundingExponent (F : Format) (x : ℝ) : ℤ := F.targetExponent (Int.log 2 x + 1)

/-- The nearest number that has the digits of the format, none of them too small. -/
noncomputable def rounded (F : Format) (x : ℝ) : ℝ :=
  nearestEven (x / 2 ^ roundingExponent F x) * 2 ^ roundingExponent F x

section Rounded

variable (F : Format)

theorem minExponent_le_roundingExponent (x : ℝ) : F.minExponent ≤ roundingExponent F x :=
  le_max_right _ _

theorem rounded_nonneg (x : ℝ) : 0 ≤ rounded F x := by
  unfold rounded
  positivity

theorem rounded_zero : rounded F 0 = 0 := by
  unfold rounded
  rw [zero_div, ← Nat.cast_zero, nearestEven_natCast, Nat.cast_zero, zero_mul]

/-- A number lies below the number of digits above its exponent. -/
theorem div_lt_of_exponent (x : ℝ) : x / 2 ^ roundingExponent F x < 2 ^ F.mantissaBits := by
  rw [div_lt_iff₀ (two_zpow_pos _), ← zpow_natCast, ← zpow_add₀ two_ne_zero]
  refine (Int.lt_zpow_succ_log_self (b := 2) one_lt_two x).trans_le ?_
  refine zpow_le_zpow_right₀ one_le_two ?_
  have : Int.log 2 x + 1 - F.mantissaBits ≤ roundingExponent F x := le_max_left _ _
  omega

theorem rounded_le (x : ℝ) : rounded F x ≤ 2 ^ F.mantissaBits * 2 ^ roundingExponent F x := by
  have : nearestEven (x / 2 ^ roundingExponent F x) ≤ 2 ^ F.mantissaBits :=
    nearestEven_le (by exact_mod_cast (div_lt_of_exponent F x).le)
  unfold rounded
  gcongr
  exact_mod_cast this

variable {F}

/-- Unless it is rounded at the least exponent, all digits are there. -/
theorem le_div_of_exponent {x : ℝ} (hx : 0 < x) (h : F.minExponent < roundingExponent F x) :
    2 ^ F.mantissaBitsWithoutImplicit ≤ x / 2 ^ roundingExponent F x := by
  have heq : roundingExponent F x = Int.log 2 x - F.mantissaBitsWithoutImplicit := by
    unfold roundingExponent Format.targetExponent at h ⊢
    rw [mantissaBits_eq] at h ⊢
    omega
  rw [le_div_iff₀ (two_zpow_pos _), ← zpow_natCast, ← zpow_add₀ two_ne_zero, heq]
  refine le_trans (zpow_le_zpow_right₀ one_le_two ?_)
    (Int.zpow_log_le_self (b := 2) one_lt_two hx)
  omega

theorem roundingExponent_mono {x y : ℝ} (hx : 0 < x) (h : x ≤ y) :
    roundingExponent F x ≤ roundingExponent F y :=
  max_le_max (sub_le_sub_right (add_le_add_left (Int.log_mono_right hx h) 1) _) le_rfl

/-- **Rounding is monotone.** -/
theorem rounded_mono {x y : ℝ} (hx : 0 ≤ x) (h : x ≤ y) : rounded F x ≤ rounded F y := by
  rcases hx.eq_or_lt with rfl | hx
  · rw [rounded_zero]
    exact rounded_nonneg F y
  rcases (roundingExponent_mono (F := F) hx h).eq_or_lt with heq | hlt
  · unfold rounded
    rw [heq]
    gcongr
    exact nearestEven_mono (by gcongr)
  · -- The power of two between the two exponents separates the numbers.
    have above : 2 ^ F.mantissaBitsWithoutImplicit * 2 ^ roundingExponent F y ≤ rounded F y := by
      have hy : F.minExponent < roundingExponent F y :=
        (minExponent_le_roundingExponent F x).trans_lt hlt
      have : 2 ^ F.mantissaBitsWithoutImplicit ≤ nearestEven (y / 2 ^ roundingExponent F y) :=
        le_nearestEven (by exact_mod_cast le_div_of_exponent (hx.trans_le h) hy)
      unfold rounded
      gcongr
      exact_mod_cast this
    refine (rounded_le F x).trans (le_trans ?_ above)
    have : (2 : ℝ) ^ (roundingExponent F x + 1) ≤ 2 ^ roundingExponent F y :=
      zpow_le_zpow_right₀ one_le_two hlt
    rw [zpow_add_one₀ two_ne_zero] at this
    calc (2 : ℝ) ^ F.mantissaBits * 2 ^ roundingExponent F x
        = 2 ^ F.mantissaBitsWithoutImplicit * (2 ^ roundingExponent F x * 2) := by
          rw [mantissaBits_eq, pow_add]
          ring
      _ ≤ 2 ^ F.mantissaBitsWithoutImplicit * 2 ^ roundingExponent F y := by gcongr

end Rounded

/-! ## Numbers of the format -/

/-- A mantissa and an exponent as the format has them: all digits there, unless the exponent is the
least one. -/
structure Canonical (F : Format) (m : ℕ) (e : ℤ) : Prop where
  lt : m < 2 ^ F.mantissaBits
  least_le : F.minExponent ≤ e
  full : 2 ^ F.mantissaBitsWithoutImplicit ≤ m ∨ e = F.minExponent

/-- The leading digit of a number that begins with a given mantissa. -/
theorem log_of_mantissa {m : ℕ} {e : ℤ} {x : ℝ} (hm : m ≠ 0) (h : m ≤ x / 2 ^ e)
    (h' : x / 2 ^ e < m + 1) : Int.log 2 x = Nat.log 2 m + e := by
  have hpos := two_zpow_pos e
  rw [le_div_iff₀ hpos] at h
  rw [div_lt_iff₀ hpos] at h'
  have hx : 0 < x := lt_of_lt_of_le (by positivity) h
  have lower : (2 : ℝ) ^ (Nat.log 2 m + e : ℤ) ≤ x := by
    rw [zpow_add₀ two_ne_zero, zpow_natCast]
    refine le_trans ?_ h
    gcongr
    exact_mod_cast Nat.pow_log_le_self 2 hm
  have upper : x < (2 : ℝ) ^ (Nat.log 2 m + e + 1 : ℤ) := by
    rw [add_right_comm, zpow_add₀ two_ne_zero, ← Nat.cast_succ, zpow_natCast]
    refine h'.trans_le ?_
    gcongr
    exact_mod_cast Nat.lt_pow_succ_log_self one_lt_two m
  have := (Int.zpow_le_iff_le_log one_lt_two hx).mp (by exact_mod_cast lower)
  have := (Int.lt_zpow_iff_log_lt one_lt_two hx).mp (by exact_mod_cast upper)
  omega

section Canonical

variable {F : Format} {m : ℕ} {e : ℤ}

theorem Canonical.log_lt (h : Canonical F m e) : Nat.log 2 m < F.mantissaBits := by
  rcases eq_or_ne m 0 with rfl | hm
  · rw [Nat.log_zero_right, mantissaBits_eq]
    omega
  · exact Nat.log_lt_of_lt_pow hm h.lt

/-- A number's own exponent is the one it is rounded at. -/
theorem Canonical.roundingExponent_eq (h : Canonical F m e) (hm : m ≠ 0) :
    roundingExponent F (m * 2 ^ e) = e := by
  have hdiv : (m : ℝ) * 2 ^ e / 2 ^ e = m := mul_div_cancel_right₀ _ (two_zpow_pos e).ne'
  have hlog := log_of_mantissa hm hdiv.ge (hdiv.trans_lt (lt_add_one _))
  have hlt := h.log_lt
  have hleast := h.least_le
  unfold roundingExponent Format.targetExponent
  rw [hlog]
  rcases h.full with hfull | hleast
  · have : F.mantissaBitsWithoutImplicit ≤ Nat.log 2 m := Nat.le_log_of_pow_le one_lt_two hfull
    rw [mantissaBits_eq] at hlt ⊢
    omega
  · omega

/-- **Rounding leaves the format's numbers alone.** -/
theorem Canonical.rounded_eq (h : Canonical F m e) : rounded F (m * 2 ^ e) = m * 2 ^ e := by
  rcases eq_or_ne m 0 with rfl | hm
  · rw [Nat.cast_zero, zero_mul, rounded_zero]
  · have hdiv : (m : ℝ) * 2 ^ e / 2 ^ e = m := mul_div_cancel_right₀ _ (two_zpow_pos e).ne'
    unfold rounded
    rw [h.roundingExponent_eq hm, hdiv, nearestEven_natCast]

/-- What a mantissa becomes when its digits are rounded: it may take up one digit more. -/
theorem nearestEven_cases {x : ℝ} (hx : 0 < x) :
    Canonical F (nearestEven (x / 2 ^ roundingExponent F x)) (roundingExponent F x) ∨
      nearestEven (x / 2 ^ roundingExponent F x) = 2 ^ F.mantissaBits := by
  have hle : nearestEven (x / 2 ^ roundingExponent F x) ≤ 2 ^ F.mantissaBits :=
    nearestEven_le (by exact_mod_cast (div_lt_of_exponent F x).le)
  rcases hle.lt_or_eq with hlt | heq
  · refine .inl ⟨hlt, minExponent_le_roundingExponent F x, ?_⟩
    rcases (minExponent_le_roundingExponent F x).lt_or_eq with hmore | hleast
    · exact .inl (le_nearestEven (by exact_mod_cast le_div_of_exponent hx hmore))
    · exact .inr hleast.symm
  · exact .inr heq

end Canonical

/-! ## Too large -/

/-- Two to this power, and what is greater, is too large for the format. -/
def limit (F : Format) : ℕ := 2 ^ (F.exponentBits - 1)

/-- The exponent of the largest numbers. -/
def greatestExponent (F : Format) : ℤ := limit F - F.mantissaBits

theorem two_pow_limit (F : Format) :
    (2 : ℝ) ^ limit F = 2 ^ F.mantissaBits * 2 ^ greatestExponent F := by
  rw [greatestExponent, ← zpow_natCast, ← zpow_natCast, ← zpow_add₀ two_ne_zero, add_sub_cancel]

theorem minExponent_eq (F : Format) : F.minExponent = 3 - limit F - F.mantissaBits := by
  rw [Format.minExponent, limit]
  push_cast
  rfl

/-- A format with two bits for the exponent has numbers with all digits. -/
theorem minExponent_le_greatestExponent {F : Format} (wide : 1 < F.exponentBits) :
    F.minExponent ≤ greatestExponent F := by
  have : 2 ^ 1 ≤ limit F := Nat.pow_le_pow_right two_pos (by omega)
  rw [minExponent_eq, greatestExponent]
  omega

/-- What a number that is not negative becomes in the format: if it is too large, infinite. -/
noncomputable def nearest (F : Format) (x : ℝ) : EReal :=
  if rounded F x < 2 ^ limit F then (rounded F x : ℝ) else ⊤

section Nearest

variable {F : Format}

theorem nearest_nonneg (x : ℝ) : 0 ≤ nearest F x := by
  unfold nearest
  split
  · exact_mod_cast rounded_nonneg F x
  · exact le_top

theorem nearest_zero : nearest F 0 = 0 := by
  unfold nearest
  rw [rounded_zero, if_pos (by positivity), EReal.coe_zero]

theorem nearest_mono {x y : ℝ} (hx : 0 ≤ x) (h : x ≤ y) : nearest F x ≤ nearest F y := by
  have hle := rounded_mono (F := F) hx h
  unfold nearest
  split_ifs with hsmall hsmall' hsmall'
  · exact_mod_cast hle
  · exact le_top
  · exact absurd (hle.trans_lt hsmall') hsmall
  · exact le_rfl

end Nearest

/-! ## From where on -/

section Thresholds

variable {F : Format} {x : ℝ}

/-- Half of the smallest number becomes zero; what is greater does not. -/
theorem rounded_pos_iff (hx : 0 < x) : 0 < rounded F x ↔ 2 ^ (F.minExponent - 1) < x := by
  have hhalf : (2 : ℝ) ^ (F.minExponent - 1) = ((0 : ℕ) + 1 / 2) * 2 ^ F.minExponent := by
    rw [zpow_sub_one₀ two_ne_zero]
    push_cast
    ring
  constructor
  · contrapose!
    intro hle
    have hlog : Int.log 2 x ≤ F.minExponent - 1 :=
      (Int.log_mono_right hx hle).trans (Int.log_zpow (R := ℝ) one_lt_two _).le
    have hexponent : roundingExponent F x = F.minExponent := by
      unfold roundingExponent Format.targetExponent
      omega
    have hzero : nearestEven (x / 2 ^ F.minExponent) ≤ 0 := by
      refine (nearestEven_mono ?_).trans (nearestEven_add_half 0).le
      rwa [div_le_iff₀ (two_zpow_pos _), ← hhalf]
    rw [rounded, hexponent, Nat.le_zero.mp hzero, Nat.cast_zero, zero_mul]
  · intro hlt
    have hpos : 0 < nearestEven (x / 2 ^ roundingExponent F x) := by
      rcases (minExponent_le_roundingExponent F x).eq_or_lt with heq | hmore
      · refine lt_nearestEven ?_
        rwa [← heq, lt_div_iff₀ (two_zpow_pos _), ← hhalf]
      · refine le_nearestEven (le_trans ?_ (le_div_of_exponent hx hmore))
        exact_mod_cast Nat.one_le_two_pow
    unfold rounded
    positivity

/-- The middle between the largest number and what comes next. -/
noncomputable def overflow (F : Format) : ℝ := (2 ^ F.mantissaBits - 1 / 2) * 2 ^ greatestExponent F

/-- The middle has an odd number below it. -/
theorem exists_overflow_eq (F : Format) :
    ∃ n : ℕ, 2 ^ F.mantissaBits = n + 1 ∧ n % 2 = 1 ∧ Nat.log 2 n = F.mantissaBitsWithoutImplicit ∧
      overflow F / 2 ^ greatestExponent F = n + 1 / 2 := by
  obtain ⟨n, hn⟩ := Nat.exists_eq_succ_of_ne_zero (Nat.two_pow_pos F.mantissaBits).ne'
  have hdouble := two_pow_mantissaBits F
  have hpos := Nat.two_pow_pos F.mantissaBitsWithoutImplicit
  refine ⟨n, hn, by omega, ?_, ?_⟩
  · refine Nat.log_eq_of_pow_le_of_lt_pow (by omega) ?_
    rw [pow_succ]
    omega
  · have : (2 : ℝ) ^ F.mantissaBits = n + 1 := by exact_mod_cast hn
    rw [overflow, mul_div_cancel_right₀ _ (two_zpow_pos _).ne', this]
    ring

theorem roundingExponent_overflow (wide : 1 < F.exponentBits) :
    roundingExponent F (overflow F) = greatestExponent F := by
  obtain ⟨n, -, hodd, hlog, hmiddle⟩ := exists_overflow_eq F
  have hleast := minExponent_le_greatestExponent wide
  have := log_of_mantissa (m := n) (by omega) (by rw [hmiddle]; linarith) (by rw [hmiddle]; linarith)
  have hdigits := mantissaBits_eq F
  unfold roundingExponent Format.targetExponent
  omega

/-- It is rounded up. -/
theorem rounded_overflow (wide : 1 < F.exponentBits) : rounded F (overflow F) = 2 ^ limit F := by
  obtain ⟨n, hn, hodd, -, hmiddle⟩ := exists_overflow_eq F
  rw [rounded, roundingExponent_overflow wide, hmiddle, nearestEven_add_half, hodd, ← hn, two_pow_limit]
  push_cast
  rfl

/-- What lies below it is not. -/
theorem rounded_lt_iff (wide : 1 < F.exponentBits) (hx : 0 < x) :
    rounded F x < 2 ^ limit F ↔ x < overflow F := by
  constructor
  · contrapose!
    intro hle
    have hpos : 0 ≤ overflow F := by
      obtain ⟨n, -, -, -, hmiddle⟩ := exists_overflow_eq F
      rw [div_eq_iff (two_zpow_pos _).ne'] at hmiddle
      rw [hmiddle]
      positivity
    exact (rounded_overflow wide).ge.trans (rounded_mono hpos hle)
  · intro hlt
    have htop := two_zpow_pos (greatestExponent F)
    rw [two_pow_limit]
    rcases (roundingExponent_mono hx hlt.le).lt_or_eq with hless | heq
    · rw [roundingExponent_overflow wide] at hless
      refine (rounded_le F x).trans_lt ?_
      gcongr
      exact one_lt_two
    · obtain ⟨n, hn, -, -, hmiddle⟩ := exists_overflow_eq F
      have hdigits : nearestEven (x / 2 ^ greatestExponent F) ≤ n := by
        refine nearestEven_le_of_lt (by positivity) ?_
        rw [← hmiddle]
        gcongr
      have hdigits' : (nearestEven (x / 2 ^ greatestExponent F) : ℝ) < 2 ^ F.mantissaBits := by
        exact_mod_cast hdigits.trans_lt (by omega)
      rw [rounded, heq, roundingExponent_overflow wide]
      gcongr

/-- A number that neither vanishes in the format nor leaves it: it is more than half of the smallest
number, and less than the middle between the largest one and what would come next. -/
def InRange (F : Format) (x : ℝ) : Prop := 2 ^ (F.minExponent - 1) < x ∧ x < overflow F

/-- **A number in range** stays positive and finite, and no other does. -/
theorem nearest_usable_iff (wide : 1 < F.exponentBits) (hx : 0 < x) :
    (0 < nearest F x ∧ nearest F x < ⊤) ↔ InRange F x := by
  rw [InRange, ← rounded_pos_iff hx, ← rounded_lt_iff wide hx]
  unfold nearest
  split
  · next hsmall =>
    rw [and_iff_left hsmall, and_iff_left (EReal.coe_lt_top _)]
    exact EReal.coe_pos
  · next hlarge => exact ⟨fun h => absurd h.2 (lt_irrefl _), fun h => absurd h.2 hlarge⟩

end Thresholds

end StatusWall.Binary
