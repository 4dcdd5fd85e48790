import Mathlib.Data.List.TakeWhile
import StatusWall.Text.Lowercase

/-!
# Lowercase in context

Lowercase is taken character by character, with one exception: a capital sigma looks at what stands
around it, for a cased character before it and for none behind it (`endsWord`). So the lowercase of a
text is that of its parts, each between the others (`lowerBetween`, `lowerChars_append`), and a part keeps
the lowercase it has by itself exactly as far as its sigmas keep the ends of their words.

Some runs of characters settle that by themselves, whatever is put around them (`SettlesWordEnds`): every
sigma in them sees as much as it needs to. A run that does not can be put into a text whose lowercase
does not contain the run's own (`exists_not_infix`). Nothing but sigmas is at stake: a character that
grows to two, or has no lowercase, does so everywhere.
-/

namespace StatusWall.Text

/-! ## The end of a word -/

section

variable {xs : List Char}

theorem startsCased_of_ignorable (h : ∀ c ∈ xs, isCaseIgnorable c = true) : startsCased xs = false := by
  unfold startsCased
  rw [List.dropWhile_eq_nil_iff.mpr h]

/-- Characters that are looked through do not matter. -/
theorem startsCased_append_of_ignorable (h : ∀ c ∈ xs, isCaseIgnorable c = true) (ys : List Char) :
    startsCased (xs ++ ys) = startsCased ys := by
  unfold startsCased
  rw [List.dropWhile_append, List.dropWhile_eq_nil_iff.mpr h]
  rfl

/-- The others hide what is behind them. -/
theorem startsCased_append_of_counts (h : ∃ c ∈ xs, isCaseIgnorable c = false) (ys : List Char) :
    startsCased (xs ++ ys) = startsCased xs := by
  unfold startsCased
  rw [List.dropWhile_append]
  cases hrest : xs.dropWhile isCaseIgnorable with
  | nil =>
    obtain ⟨c, hc, counts⟩ := h
    rw [List.dropWhile_eq_nil_iff.mp hrest c hc] at counts
    cases counts
  | cons c cs => rfl

theorem startsCased_append_of_cased (h : startsCased xs = true) (ys : List Char) :
    startsCased (xs ++ ys) = true := by
  rw [startsCased_append_of_counts, h]
  by_contra hnone
  rw [startsCased_of_ignorable fun c hc => Bool.of_not_eq_false fun counts => hnone ⟨c, hc, counts⟩] at h
  cases h

end

/-- Whether a sigma between two runs of characters ends a word: it does if a cased character stands
before it and none behind it. The run before it is read backwards. -/
def endsWord (before after : List Char) : Bool := startsCased before && !startsCased after

theorem endsWord_append_left {before after : List Char} (h : endsWord before after = true)
    (farther : List Char) : endsWord (before ++ farther) after = true := by
  unfold endsWord at *
  rw [Bool.and_eq_true] at *
  exact h.imp_left fun cased => startsCased_append_of_cased cased farther

theorem endsWord_of_append_right {before after further : List Char}
    (h : endsWord before (after ++ further) = true) : endsWord before after = true := by
  unfold endsWord at *
  rw [Bool.and_eq_true, Bool.not_eq_true'] at *
  refine h.imp_right fun uncased => Bool.eq_false_iff.mpr fun cased => ?_
  rw [startsCased_append_of_cased cased] at uncased
  cases uncased

/-- What stands around two runs does not matter to a sigma between them: behind it is a cased character,
or there is something on both sides, or before it is something that carries no case. -/
def Settled (before after : List Char) : Prop :=
  startsCased after = true ∨
    (∃ c ∈ before, isCaseIgnorable c = false) ∧
      (startsCased before = false ∨ ∃ c ∈ after, isCaseIgnorable c = false)

instance (before after : List Char) : Decidable (Settled before after) :=
  inferInstanceAs (Decidable (_ ∨ _))

theorem Settled.endsWord_append {before after : List Char} (h : Settled before after)
    (farther further : List Char) :
    endsWord (before ++ farther) (after ++ further) = endsWord before after := by
  unfold endsWord
  rcases h with cased | ⟨counts, uncased | counts'⟩
  · rw [cased, startsCased_append_of_cased cased, Bool.not_true, Bool.and_false, Bool.and_false]
  · rw [startsCased_append_of_counts counts, uncased, Bool.false_and, Bool.false_and]
  · rw [startsCased_append_of_counts counts, startsCased_append_of_counts counts']

/-! ## Parts of a text -/

/-- The two small sigmas. -/
def smallSigma (final : Bool) : Char := if final then Char.ofNat 0x3C2 else Char.ofNat 0x3C3

/-- The lowercase of a character between two runs, of which the first one is read backwards. -/
def lowerAt (before : List Char) (c : Char) (after : List Char) : List Char :=
  if c.toNat = 0x3A3 then [smallSigma (endsWord before after)] else lowerChar c

/-- The lowercase of a run of characters between two others, of which the first one is read backwards. -/
def lowerBetween (before : List Char) : List Char → List Char → List Char
  | [], _ => []
  | c :: cs, after => lowerAt before c (cs ++ after) ++ lowerBetween (c :: before) cs after

theorem lowerBetween_cons (before : List Char) (c : Char) (cs after : List Char) :
    lowerBetween before (c :: cs) after =
      lowerAt before c (cs ++ after) ++ lowerBetween (c :: before) cs after := rfl

theorem lowerAfter_append (before xs ys : List Char) :
    lowerAfter before (xs ++ ys) = lowerBetween before xs ys ++ lowerAfter (xs.reverse ++ before) ys := by
  induction xs generalizing before with
  | nil => rfl
  | cons c cs ih =>
    show lowerAt before c (cs ++ ys) ++ lowerAfter (c :: before) (cs ++ ys) = _
    rw [ih, List.reverse_cons, List.append_assoc, ← List.append_assoc]
    rfl

theorem lowerChars_eq (xs : List Char) : lowerChars xs = lowerBetween [] xs [] := by
  have h := lowerAfter_append [] xs []
  rw [List.append_nil] at h
  exact h.trans (List.append_nil _)

theorem lowerBetween_append (before xs ys after : List Char) :
    lowerBetween before (xs ++ ys) after =
      lowerBetween before xs (ys ++ after) ++ lowerBetween (xs.reverse ++ before) ys after := by
  induction xs generalizing before with
  | nil => rfl
  | cons c cs ih =>
    show lowerAt before c (cs ++ ys ++ after) ++ lowerBetween (c :: before) (cs ++ ys) after = _
    rw [ih, List.reverse_cons, List.append_assoc, List.append_assoc, ← List.append_assoc]
    rfl

/-- The lowercase of a text is that of its parts, each in its place. -/
theorem lowerChars_append (before xs after : List Char) :
    lowerChars (before ++ xs ++ after) =
      lowerBetween [] before (xs ++ after) ++ lowerBetween before.reverse xs after ++
        lowerAfter (xs.reverse ++ before.reverse) after := by
  unfold lowerChars
  rw [List.append_assoc, lowerAfter_append, lowerAfter_append, List.append_nil, List.append_assoc]

/-! ## Runs in texts -/

/-- Each sigma of a run ends a word in a text exactly if it ends one in the run by itself. -/
def KeepsWordEnds (before xs after : List Char) : Prop :=
  ∀ u c v, xs = u ++ c :: v → c.toNat = 0x3A3 →
    endsWord (u.reverse ++ before.reverse) (v ++ after) = endsWord u.reverse v

/-- The run settles by itself where its words end, whatever stands around it. -/
def SettlesWordEnds (xs : List Char) : Prop :=
  ∀ u c v, xs = u ++ c :: v → c.toNat = 0x3A3 → Settled u.reverse v

/-- What holds wherever a run is split is a matter of finitely many places. -/
theorem forall_split_iff {xs : List Char} {P : List Char → Char → List Char → Prop} :
    (∀ u c v, xs = u ++ c :: v → P u c v) ↔
      ∀ i : Fin xs.length, P (xs.take i) xs[i] (xs.drop (i + 1)) := by
  constructor
  · intro h i
    refine h _ _ _ ?_
    rw [Fin.getElem_fin, ← List.drop_eq_getElem_cons i.isLt, List.take_append_drop]
  · rintro h u c v rfl
    simpa using h ⟨u.length, by simp⟩

instance (before xs after : List Char) : Decidable (KeepsWordEnds before xs after) :=
  decidable_of_iff' _ forall_split_iff

instance (xs : List Char) : Decidable (SettlesWordEnds xs) := decidable_of_iff' _ forall_split_iff

theorem SettlesWordEnds.keeps {xs : List Char} (h : SettlesWordEnds xs) (before after : List Char) :
    KeepsWordEnds before xs after :=
  fun u c v hxs hc => (h u c v hxs hc).endsWord_append before.reverse after

/-- **A run whose words end in a text as they end in the run** has its own lowercase there. -/
theorem KeepsWordEnds.lowerBetween_eq {before xs after : List Char}
    (h : KeepsWordEnds before xs after) : lowerBetween before.reverse xs after = lowerChars xs := by
  rw [lowerChars_eq]
  -- By induction on what is left of the run; what was read already stands before it on both sides.
  suffices ∀ u v, xs = u ++ v →
      lowerBetween (u.reverse ++ before.reverse) v after = lowerBetween u.reverse v [] from
    this [] xs rfl
  intro u v hxs
  induction v generalizing u with
  | nil => rfl
  | cons c v ih =>
    have here : lowerAt (u.reverse ++ before.reverse) c (v ++ after) =
        lowerAt u.reverse c (v ++ []) := by
      unfold lowerAt
      split
      · next hc => rw [h u c v hxs hc, List.append_nil]
      · rfl
    have rest := ih (u ++ [c]) (by rw [hxs, List.append_assoc]; rfl)
    rw [List.reverse_append] at rest
    exact congrArg₂ (· ++ ·) here rest

theorem KeepsWordEnds.infix {before xs after : List Char} (h : KeepsWordEnds before xs after) :
    lowerChars xs <:+: lowerChars (before ++ xs ++ after) := by
  rw [lowerChars_append, h.lowerBetween_eq]
  exact List.infix_append _ _ _

/-! ## A text that changes the lowercase of a run -/

section Count

variable {x : Char} {before before' after after' : List Char}

/-- A character that no place gets more often is not got more often. -/
theorem count_lowerBetween_le
    (h : ∀ u c v, (lowerAt (u ++ before) c (v ++ after)).count x ≤
      (lowerAt (u ++ before') c (v ++ after')).count x) (u xs v : List Char) :
    (lowerBetween (u ++ before) xs (v ++ after)).count x ≤
      (lowerBetween (u ++ before') xs (v ++ after')).count x := by
  induction xs generalizing u with
  | nil => exact le_rfl
  | cons c xs ih =>
    rw [lowerBetween_cons, lowerBetween_cons, List.count_append, List.count_append, ← List.append_assoc,
      ← List.append_assoc]
    exact Nat.add_le_add (h u c (xs ++ v)) (ih (c :: u))

/-- And if one place gets it less often, it is got less often. -/
theorem count_lowerBetween_lt
    (h : ∀ u c v, (lowerAt (u ++ before) c (v ++ after)).count x ≤
      (lowerAt (u ++ before') c (v ++ after')).count x) {u v : List Char} {c : Char}
    (hlt : (lowerAt (u.reverse ++ before) c (v ++ after)).count x <
      (lowerAt (u.reverse ++ before') c (v ++ after')).count x) :
    (lowerBetween before (u ++ c :: v) after).count x <
      (lowerBetween before' (u ++ c :: v) after').count x := by
  have hu : (lowerBetween before u (c :: v ++ after)).count x ≤
      (lowerBetween before' u (c :: v ++ after')).count x := count_lowerBetween_le h [] u (c :: v)
  have hv : (lowerBetween (c :: (u.reverse ++ before)) v after).count x ≤
      (lowerBetween (c :: (u.reverse ++ before')) v after').count x :=
    count_lowerBetween_le h (c :: u.reverse) v []
  rw [lowerBetween_append, lowerBetween_append, lowerBetween_cons, lowerBetween_cons]
  simp only [List.count_append]
  omega

end Count

section Turned

variable {before before' after after' : List Char} {final : Bool} {c : Char}

/-- Where a sigma takes a form only if it takes it elsewhere too, the form is no more frequent. -/
theorem count_smallSigma_le
    (h : endsWord before after = final → endsWord before' after' = final) :
    (lowerAt before c after).count (smallSigma final) ≤
      (lowerAt before' c after').count (smallSigma final) := by
  unfold lowerAt
  split
  · revert h
    cases final <;> cases endsWord before after <;> cases endsWord before' after' <;> decide
  · exact le_rfl

theorem count_smallSigma_lt (hc : c.toNat = 0x3A3) (h : endsWord before after ≠ final)
    (h' : endsWord before' after' = final) :
    (lowerAt before c after).count (smallSigma final) <
      (lowerAt before' c after').count (smallSigma final) := by
  unfold lowerAt
  rw [if_pos hc, if_pos hc]
  revert h h'
  cases final <;> cases endsWord before after <;> cases endsWord before' after' <;> decide

end Turned

/-- A text around a run that turns one of its sigmas away from a form, turns none of them to it and has
the form nowhere itself, does not contain the run in lowercase. -/
theorem not_infix_of_turned {before after u v : List Char} {c : Char} {final : Bool}
    (hbefore : smallSigma final ∉ lowerBetween [] before (u ++ c :: v ++ after))
    (hafter : smallSigma final ∉ lowerAfter ((u ++ c :: v).reverse ++ before.reverse) after)
    (turns : ∀ u v, endsWord (u ++ before.reverse) (v ++ after) = final → endsWord u v = final)
    (hc : c.toNat = 0x3A3) (here : endsWord u.reverse v = final)
    (there : endsWord (u.reverse ++ before.reverse) (v ++ after) ≠ final) :
    ¬ lowerChars (u ++ c :: v) <:+: lowerChars (before ++ (u ++ c :: v) ++ after) := by
  intro hinfix
  have hle := hinfix.sublist.count_le (smallSigma final)
  have hlt : (lowerBetween before.reverse (u ++ c :: v) after).count (smallSigma final) <
      (lowerBetween [] (u ++ c :: v) []).count (smallSigma final) := by
    refine count_lowerBetween_lt (fun u c v => count_smallSigma_le fun h => ?_)
      (count_smallSigma_lt hc there ?_)
    · rw [List.append_nil, List.append_nil]
      exact turns u v h
    · rw [List.append_nil, List.append_nil]
      exact here
  rw [lowerChars_append, List.count_append, List.count_append, List.count_eq_zero.mpr hbefore,
    List.count_eq_zero.mpr hafter, lowerChars_eq] at hle
  omega

theorem startsCased_letter : startsCased ['a'] = true := by decide +kernel

theorem smallSigma_notMem_letter (final : Bool) (before after : List Char) :
    smallSigma final ∉ lowerAt before 'a' after := by
  show smallSigma final ∉ ['a']
  cases final <;> decide

section Letter

variable {u v : List Char} {c : Char}

/-- A sigma with nothing before it that counts is plain, and final behind a letter. -/
theorem not_infix_behind_letter (hc : c.toNat = 0x3A3)
    (ignorable : ∀ d ∈ u.reverse, isCaseIgnorable d = true) (uncased : startsCased v = false) :
    ¬ lowerChars (u ++ c :: v) <:+: lowerChars (['a'] ++ (u ++ c :: v) ++ []) := by
  have alone : endsWord u.reverse v = false := by
    rw [endsWord, startsCased_of_ignorable ignorable, Bool.false_and]
  have behind : endsWord (u.reverse ++ ['a'].reverse) (v ++ []) ≠ false := by
    rw [endsWord, startsCased_append_of_ignorable ignorable, List.append_nil, uncased,
      List.reverse_singleton, startsCased_letter]
    decide
  refine not_infix_of_turned ?_ List.not_mem_nil (fun u v hends => ?_) hc alone behind
  · rw [lowerBetween_cons, lowerBetween, List.append_nil]
    exact smallSigma_notMem_letter false _ _
  · rw [List.append_nil] at hends
    refine Bool.eq_false_iff.mpr fun h => ?_
    rw [endsWord_append_left h] at hends
    cases hends

/-- A sigma behind something cased and with nothing behind it that counts is final, and plain before a
letter. -/
theorem not_infix_before_letter (hc : c.toNat = 0x3A3) (cased : startsCased u.reverse = true)
    (ignorable : ∀ d ∈ v, isCaseIgnorable d = true) :
    ¬ lowerChars (u ++ c :: v) <:+: lowerChars ([] ++ (u ++ c :: v) ++ ['a']) := by
  have alone : endsWord u.reverse v = true := by
    rw [endsWord, cased, startsCased_of_ignorable ignorable]
    rfl
  have before : endsWord (u.reverse ++ [].reverse) (v ++ ['a']) ≠ true := by
    rw [endsWord, startsCased_append_of_ignorable ignorable, startsCased_letter, Bool.not_true,
      Bool.and_false]
    decide
  refine not_infix_of_turned List.not_mem_nil ?_ (fun u v hends => ?_) hc alone before
  · show smallSigma true ∉ lowerAt _ 'a' [] ++ []
    rw [List.append_nil]
    exact smallSigma_notMem_letter true _ _
  · rw [List.reverse_nil, List.append_nil] at hends
    exact endsWord_of_append_right hends

end Letter

/-- **A run that leaves the end of a word open** has another lowercase in some text. -/
theorem exists_not_infix {xs : List Char} (h : ¬ SettlesWordEnds xs) :
    ∃ before after, ¬ lowerChars xs <:+: lowerChars (before ++ xs ++ after) := by
  simp only [SettlesWordEnds, not_forall] at h
  obtain ⟨u, c, v, rfl, hc, hopen⟩ := h
  obtain ⟨uncased, hopen⟩ := not_or.mp hopen
  rw [Bool.not_eq_true] at uncased
  by_cases ignorable : ∀ d ∈ u.reverse, isCaseIgnorable d = true
  · exact ⟨['a'], [], not_infix_behind_letter hc ignorable uncased⟩
  · have counts : ∃ d ∈ u.reverse, isCaseIgnorable d = false := by
      simpa only [not_forall, Bool.not_eq_true, exists_prop] using ignorable
    obtain ⟨cased, ignorable'⟩ := not_or.mp (not_and.mp hopen counts)
    rw [Bool.not_eq_false] at cased
    exact ⟨[], ['a'], not_infix_before_letter hc cased fun d hd =>
      Bool.of_not_eq_false fun counts => ignorable' ⟨d, hd, counts⟩⟩

end StatusWall.Text
