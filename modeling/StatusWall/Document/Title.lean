import StatusWall.Text.Blank
import StatusWall.Text.Lowercase

/-!
# Titles

From a board's title come two things: the slug it has in addresses, and whether a list of boards
narrowed down by a few letters still shows it.
-/

namespace StatusWall.Title

/-- Characters that a slug may hold. -/
def isSlugChar (c : Char) : Bool :=
  (decide ('a' ≤ c) && decide (c ≤ 'z')) || (decide ('0' ≤ c) && decide (c ≤ '9')) || c = '-'

/-- What a lowercase character becomes in a slug. -/
def slugChar? (c : Char) : Option Char :=
  if c = '_' then some '-'
  else if Text.isBlank c then some '-'
  else if isSlugChar c then some c
  else none

theorem isSlugChar_of_slugChar? {c d : Char} (h : slugChar? c = some d) : isSlugChar d = true := by
  unfold slugChar? at h
  split at h
  · obtain rfl := Option.some.inj h
    decide
  · split at h
    · obtain rfl := Option.some.inj h
      decide
    · split at h
      · next hc =>
        obtain rfl := Option.some.inj h
        exact hc
      · cases h

/-- The slug of a title: in lowercase, blanks and underscores turned into dashes, and of the rest
the ASCII letters, the digits and the dashes. -/
def slug (title : String) : String :=
  String.ofList ((Text.lowerChars (Text.trimChars title.toList)).filterMap slugChar?)

theorem isSlugChar_of_mem_slug {title : String} {c : Char} (h : c ∈ (slug title).toList) :
    isSlugChar c = true := by
  simp only [slug, String.toList_ofList, List.mem_filterMap] at h
  obtain ⟨_, _, hc⟩ := h
  exact isSlugChar_of_slugChar? hc

/-- Whether a title contains a filter, whatever the case. A blank filter is in every title. -/
def contains (title filter : String) : Bool :=
  Text.occursIn (Text.lowerChars (Text.trimChars filter.toList)) (Text.lowerChars title.toList)

end StatusWall.Title
