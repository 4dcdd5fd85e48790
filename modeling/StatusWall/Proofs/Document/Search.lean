import StatusWall.Document.Dashboard
import StatusWall.Proofs.Text.Lowercase

/-!
# Searching for titles

A list of boards is narrowed down to those whose title contains a filter, whatever the case: title and
filter are lowercased, each by itself, and the one is looked for in the other. What a title contains
verbatim is found that way as far as it has in the title the lowercase that it has by itself.

The main statement says how far that is. A title that contains the filter, with its words ending in the
title where they end in the filter, is found; and no title that contains the filter is missed exactly if
the filter settles where its words end (`Text.SettlesWordEnds`). A filter with a capital sigma at its end
need not: it is searched for as a whole word, and the title that it begins is not shown.
-/

namespace StatusWall

/-! ## Runs of characters -/

namespace Text

theorem occursIn_iff {needle cs : List Char} : occursIn needle cs = true ↔ needle <:+: cs := by
  induction cs with
  | nil => rw [occursIn, List.isEmpty_iff, List.infix_nil]
  | cons c cs ih => rw [occursIn, Bool.or_eq_true, List.isPrefixOf_iff_prefix, ih, List.infix_cons_iff]

/-- A blank text is one of which nothing is left without the blanks around it. -/
theorem trimChars_eq_nil_iff {s : String} : trimChars s.toList = [] ↔ isBlankText s = true := by
  unfold trimChars isBlankText
  rw [List.reverse_eq_nil_iff, List.dropWhile_eq_nil_iff, List.all_eq_true]
  constructor
  · intro h c hc
    rw [← List.takeWhile_append_dropWhile (p := isBlank) (l := s.toList), List.mem_append] at hc
    exact hc.elim List.mem_takeWhile_imp fun hc => h c (List.mem_reverse.mpr hc)
  · intro h c hc
    exact h c ((List.dropWhile_sublist _).subset (List.mem_reverse.mp hc))

end Text

/-! ## Titles -/

namespace Title

theorem contains_iff {title filter : String} :
    contains title filter = true ↔
      Text.lowerChars (Text.trimChars filter.toList) <:+: Text.lowerChars title.toList :=
  Text.occursIn_iff

theorem contains_of_isBlankText {filter : String} (h : Text.isBlankText filter = true) (title : String) :
    contains title filter = true := by
  rw [contains_iff, Text.trimChars_eq_nil_iff.mpr h]
  exact List.nil_infix

/-- A filter that stands in a title, with its words ending as in the filter. -/
theorem contains_of_keepsWordEnds {title filter : String} {before after : List Char}
    (h : title.toList = before ++ Text.trimChars filter.toList ++ after)
    (keeps : Text.KeepsWordEnds before (Text.trimChars filter.toList) after) :
    contains title filter = true := by
  rw [contains_iff, h]
  exact keeps.infix

/-- A filter is found in all titles in which it stands exactly if it settles where its words end. -/
theorem forall_contains_iff {filter : String} :
    (∀ title : String, Text.trimChars filter.toList <:+: title.toList → contains title filter = true) ↔
      Text.SettlesWordEnds (Text.trimChars filter.toList) := by
  constructor
  · intro found
    by_contra hopen
    obtain ⟨before, after, hmissed⟩ := Text.exists_not_infix hopen
    have := found (String.ofList (before ++ Text.trimChars filter.toList ++ after))
    rw [contains_iff, String.toList_ofList] at this
    exact hmissed (this (List.infix_append _ _ _))
  · rintro settles title ⟨before, after, h⟩
    exact contains_of_keepsWordEnds h.symm (settles.keeps before after)

end Title

/-! ## Lists of boards -/

namespace Dashboard

variable {α : Type}

/-- **What a title contains is found, up to the ends of words.** The answer is a part of the list, in its
order, and all of it if the filter is blank. It has every board in whose title the trimmed filter stands
with its words ending there as they do in the filter. And that it has every board whose title contains
the trimmed filter, whatever the list, says that the filter settles by itself where its words end. -/
theorem literal_matches_are_shown_iff (filter : String) :
    (∀ boards : List (Dashboard α),
      (filterByTitle boards filter).Sublist boards ∧
      (Text.isBlankText filter = true → filterByTitle boards filter = boards) ∧
      ∀ d ∈ boards, ∀ before after, d.title.toList = before ++ Text.trimChars filter.toList ++ after →
        Text.KeepsWordEnds before (Text.trimChars filter.toList) after →
          d ∈ filterByTitle boards filter) ∧
    ((∀ boards : List (Dashboard α), ∀ d ∈ boards,
      Text.trimChars filter.toList <:+: d.title.toList → d ∈ filterByTitle boards filter) ↔
      Text.SettlesWordEnds (Text.trimChars filter.toList)) := by
  refine ⟨fun boards => ⟨List.filter_sublist, fun blank => ?_, fun d hd before after h keeps => ?_⟩, ?_, ?_⟩
  · exact List.filter_eq_self.mpr fun d _ => Title.contains_of_isBlankText blank d.title
  · exact List.mem_filter.mpr ⟨hd, Title.contains_of_keepsWordEnds h keeps⟩
  · intro shown
    refine Title.forall_contains_iff.mp fun title h => ?_
    have hmem := shown [{ title }] { title } (List.mem_singleton_self _) h
    exact (List.mem_filter.mp hmem).2
  · intro settles boards d hd h
    exact List.mem_filter.mpr ⟨hd, Title.forall_contains_iff.mpr settles d.title h⟩

/-- A blank filter, a word that ends in the title too, and letters from the middle of a word. -/
theorem words_and_inner_letters_are_shown :
    let street : Dashboard Float := { title := "Η ΟΔΟΣ ΜΟΥ" }
    let heroine : Dashboard Float := { title := "ΚΑΣΣΑΝΔΡΑ" }
    filterByTitle [street, heroine] " \t" = [street, heroine] ∧
      street ∈ filterByTitle [street, heroine] "ΟΔΟΣ " ∧
      heroine ∈ filterByTitle [street, heroine] " ΑΣΣΑΝ" := by
  intro street heroine
  refine ⟨((literal_matches_are_shown_iff " \t").1 _).2.1 (by decide +kernel), ?_, ?_⟩
  · exact ((literal_matches_are_shown_iff "ΟΔΟΣ ").1 _).2.2 street List.mem_cons_self
      "Η ".toList " ΜΟΥ".toList (by decide +kernel) (by decide +kernel)
  · exact (literal_matches_are_shown_iff " ΑΣΣΑΝ").2.mpr (by decide +kernel) _ heroine
      (List.mem_cons_of_mem _ List.mem_cons_self) ⟨"Κ".toList, "ΔΡΑ".toList, by decide +kernel⟩

/-- The road is not found in the road's surface: the sigma that ends the one stands inside the other. -/
theorem word_is_missed_in_longer_word :
    Text.trimChars "ΟΔΟΣ".toList <:+: "ΟΔΟΣΤΡΩΜΑ".toList ∧
      filterByTitle [({ title := "ΟΔΟΣΤΡΩΜΑ" } : Dashboard Float)] "ΟΔΟΣ" = [] := by
  decide +kernel

end Dashboard

end StatusWall
