import StatusWall.Json.Printer
import StatusWall.Json.Reader

/-!
# Strings and whole numbers, spelled and read

What the printer writes for a string is read as that string, whatever characters it has
(`scanString_stringText`): each of them is escaped so that reading the escape pushes the character. What
it writes for a whole number within its 64 bits is read as that number, if what follows does not go
on with it (`scanNumber_text`).
-/

namespace StatusWall.Json

/-- A whole number within its 64 bits. -/
def Number.IsWhole : Number → Prop
  | .natural n => n ≤ greatest
  | .negative n => 0 < n ∧ n ≤ lowest
  | .real _ => False

namespace Reader

open Decimal

/-! ## Strings -/

section Strings

theorem hexValue?_digitChar {k : Nat} (h : k < 16) : hexValue? (Nat.digitChar k) = some k := by
  have all : ∀ k < 16, hexValue? (Nat.digitChar k) = some k := by decide
  exact all k h

/-- The escape by number of a character below the blank. -/
theorem toDigits_padded {n : Nat} (h : n < 0x20) :
    List.replicate (4 - (Nat.toDigits 16 n).length) '0' ++ Nat.toDigits 16 n =
      ['0', '0', Nat.digitChar (n / 16), Nat.digitChar (n % 16)] := by
  have all : ∀ n < 0x20,
      List.replicate (4 - (Nat.toDigits 16 n).length) '0' ++ Nat.toDigits 16 n =
        ['0', '0', Nat.digitChar (n / 16), Nat.digitChar (n % 16)] := by decide
  exact all n h

theorem hexUnit_digitChar {n : Nat} (h : n < 0x20) :
    hexUnit (some '0') (some '0') (some (Nat.digitChar (n / 16))) (some (Nat.digitChar (n % 16))) =
      .ok n := by
  have zero : hexValue? '0' = some 0 := rfl
  have high : hexValue? (Nat.digitChar (n / 16)) = some (n / 16) := hexValue?_digitChar (by omega)
  have low : hexValue? (Nat.digitChar (n % 16)) = some (n % 16) := hexValue?_digitChar (by omega)
  simp only [hexUnit, Option.bind_some, zero, high, low]
  exact congrArg Except.ok (by omega)

variable {s : Spelled} (rest : List Char)

/-- An escape by letter pushes its character. -/
theorem scanString_letter {c d : Char} (h : escaped? c = some d) :
    scanString s ('\\' :: c :: rest) = scanString (s.push d) rest := by
  have hc : c ≠ 'u' := by
    rintro rfl
    cases h
  -- What is left are the cases of an escape by number.
  rw [scanString, h]
  all_goals
    intros
    contradiction

/-- A character that needs no escape pushes itself. -/
theorem scanString_plain {c : Char} (quote : c ≠ '"') (slash : c ≠ '\\') (low : ¬ c.toNat < 0x20) :
    scanString s (c :: rest) = scanString (s.push c) rest := by
  rw [scanString, if_neg low]
  all_goals
    intros
    contradiction

/-- **Reading an escape pushes the character.** -/
theorem scanString_escapeChar (hs : s.leading = none) (c : Char) :
    scanString s (escapeChar c ++ rest) = scanString (s.push c) rest := by
  have named {n : Nat} (h : c.toNat = n) : Char.ofNat n = c := h ▸ Char.ofNat_toNat c
  unfold escapeChar
  split
  · next h =>
    rcases h with rfl | rfl
    · exact scanString_letter rest rfl
    · exact scanString_letter rest rfl
  next hmark =>
  rw [not_or] at hmark
  split
  · next h => exact scanString_letter rest (congrArg some (named h))
  split
  · next h => exact scanString_letter rest (congrArg some (named h))
  split
  · next h => exact h ▸ scanString_letter rest rfl
  split
  · next h => exact h ▸ scanString_letter rest rfl
  split
  · next h => exact h ▸ scanString_letter rest rfl
  split
  · next low =>
    have unit : s.pushUnit c.toNat = s.push c := by
      have hleading : ¬ (0xD800 ≤ c.toNat ∧ c.toNat ≤ 0xDBFF) := by omega
      have htrailing : ¬ (0xDC00 ≤ c.toNat ∧ c.toNat ≤ 0xDFFF) := by omega
      simp only [Spelled.pushUnit, Spelled.push, hs, hleading, htrailing, if_false, Char.ofNat_toNat]
    rw [List.append_assoc ['\\', 'u'], toDigits_padded low]
    show scanString s ('\\' :: 'u' :: '0' :: '0' :: Nat.digitChar (c.toNat / 16) ::
      Nat.digitChar (c.toNat % 16) :: rest) = _
    rw [scanString, hexUnit_digitChar low, ← unit]
  · next low => exact scanString_plain rest hmark.1 hmark.2 low

/-- The characters of a string are pushed one after the other. -/
theorem scanString_flatMap_escapeChar (hs : s.leading = none) (cs : List Char) :
    scanString s (cs.flatMap escapeChar ++ rest) =
      scanString { s with done := cs.reverse ++ s.done } rest := by
  induction cs generalizing s with
  | nil => rfl
  | cons c cs ih =>
    have pushed : s.push c = { s with done := c :: s.done } := by
      simp only [Spelled.push, hs]
    rw [List.flatMap_cons, List.append_assoc, scanString_escapeChar _ hs, pushed,
      ih (s := { s with done := c :: s.done }) hs,
      List.reverse_cons, List.append_assoc]
    rfl

/-- **What is written for a string is read as the string.** -/
theorem scanString_stringText (text : String) :
    scanString {} (text.toList.flatMap escapeChar ++ '"' :: rest) = (.sound text, .ok rest) := by
  rw [scanString_flatMap_escapeChar _ rfl, scanString, List.append_nil]
  simp only [Spelled.finish, List.reverse_reverse, String.ofList_toList]
  rfl

end Strings

/-! ## Whole numbers -/

/-- A text that does not go on with the number before it: it ends, or a list or an object goes on. -/
def Delimited : List Char → Prop
  | [] => True
  | c :: _ => c = ',' ∨ c = '\n'

/-- The digits of a number are the digits that are taken. -/
theorem takeDigits_append {ds rest : List Char} (digits : ∀ d ∈ ds, d.isDigit = true)
    (delimited : Delimited rest) : takeDigits (ds ++ rest) = (ds, rest) := by
  have other : rest.takeWhile Char.isDigit = [] ∧ rest.dropWhile Char.isDigit = rest := by
    cases rest with
    | nil => exact ⟨rfl, rfl⟩
    | cons c rest => rcases delimited with rfl | rfl <;> exact ⟨rfl, rfl⟩
  unfold takeDigits
  rw [List.takeWhile_append_of_pos digits, List.dropWhile_append_of_pos digits, other.1, other.2,
    List.append_nil]

/-- Only zero is spelled with a zero first. -/
theorem toDigits_eq_cons (n : Nat) :
    ∃ d ds, Nat.toDigits 10 n = d :: ds ∧ (d = '0' → n = 0 ∧ ds = []) := by
  induction n using Nat.strongRecOn with
  | ind n ih =>
    rcases Nat.lt_or_ge n 10 with small | large
    · exact ⟨n.digitChar, [], Nat.toDigits_of_lt_base small,
        fun h => ⟨Nat.digitChar_eq_zero.mp h, rfl⟩⟩
    · obtain ⟨d, ds, heq, hzero⟩ := ih (n / 10) (by omega)
      refine ⟨d, ds ++ [(n % 10).digitChar], ?_, fun h => ?_⟩
      · rw [Nat.toDigits_of_base_le (by decide) large, heq]
        rfl
      · have := (hzero h).1
        omega

theorem digitsValue_toDigits (n : Nat) : digitsValue 0 (Nat.toDigits 10 n) = n := by
  have same : digitsValue 0 (Nat.toDigits 10 n) = Nat.ofDigitChars 10 (Nat.toDigits 10 n) 0 := by
    unfold digitsValue
    rw [Nat.ofDigitChars_eq_foldl]
    simp only [Nat.mul_comm]
  rw [same, Nat.ofDigitChars_ten_toDigits]

theorem scanParts_toDigits (n : Nat) {rest : List Char} (delimited : Delimited rest) :
    scanParts (Nat.toDigits 10 n ++ rest) = .ok (⟨Nat.toDigits 10 n, [], 0, true⟩, rest) := by
  obtain ⟨d, ds, heq, hzero⟩ := toDigits_eq_cons n
  have digits : ∀ c ∈ Nat.toDigits 10 n, c.isDigit = true :=
    fun c hc => Nat.isDigit_of_mem_toDigits (by decide) (by decide) hc
  unfold scanParts
  rw [takeDigits_append digits delimited, heq]
  split
  · next h => cases h
  · next h => cases h
  · next h =>
    obtain ⟨h, -⟩ := Prod.mk.inj h
    obtain ⟨rfl, h⟩ := List.cons.inj h
    rw [(hzero rfl).2] at h
    cases h
  · next h =>
    obtain ⟨-, rfl⟩ := Prod.mk.inj h
    rcases delimited with h | h <;> cases h
  · next h =>
    obtain ⟨rfl, rfl⟩ := Prod.mk.inj h
    cases rest with
    | nil => rfl
    | cons c rest => rcases delimited with rfl | rfl <;> rfl

theorem NumberParts.value_natural {n : Nat} (h : n ≤ Number.greatest) :
    NumberParts.value false ⟨Nat.toDigits 10 n, [], 0, true⟩ = .ok (.natural n) := by
  unfold value
  rw [digitsValue_toDigits]
  exact if_pos ⟨rfl, Bool.false_ne_true, h⟩

theorem NumberParts.value_negative {n : Nat} (h : 0 < n ∧ n ≤ Number.lowest) :
    NumberParts.value true ⟨Nat.toDigits 10 n, [], 0, true⟩ = .ok (.negative n) := by
  unfold value
  rw [digitsValue_toDigits]
  rw [if_neg (fun hnatural => hnatural.2.1 rfl)]
  exact if_pos ⟨rfl, rfl, h⟩

/-- **What is written for a whole number is read as the number.** -/
theorem scanNumber_text {n : Number} (whole : n.IsWhole) {rest : List Char}
    (delimited : Delimited rest) :
    scanNumber (n.text.toList ++ rest) = (.sound n, .ok rest) := by
  cases n with
  | natural n =>
    have text : (Number.natural n).text.toList = Nat.toDigits 10 n := Nat.toList_repr
    obtain ⟨d, ds, heq, -⟩ := toDigits_eq_cons n
    have unsigned : d ≠ '-' := by
      rintro rfl
      have digit : Char.isDigit '-' = true :=
        Nat.isDigit_of_mem_toDigits (by decide) (by decide) (heq ▸ List.mem_cons_self)
      exact absurd digit (by decide)
    have parts := scanParts_toDigits n delimited
    rw [text]
    rw [heq, List.cons_append] at parts ⊢
    unfold scanNumber
    split
    next negative cs hsign =>
    split at hsign
    · next h => exact absurd (List.cons.inj h).1 unsigned
    · obtain ⟨rfl, rfl⟩ := Prod.mk.inj hsign
      rw [parts, ← heq]
      simp only [NumberParts.value_natural whole]
      rfl
  | negative n =>
    have text : (Number.negative n).text.toList = '-' :: Nat.toDigits 10 n := by
      unfold Number.text
      rw [String.toList_append, Nat.toString_eq_repr, Nat.toList_repr]
      rfl
    rw [text, List.cons_append]
    simp only [scanNumber, scanParts_toDigits n delimited, NumberParts.value_negative whole]
    rfl
  | real _ => exact whole.elim

end Reader

end StatusWall.Json
