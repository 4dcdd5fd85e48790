import Mathlib
import StatusWall.Client.Basic
import StatusWall.Proofs.Web.Address

/-!
# Slugs

A slug names a board in addresses, and is derived from the board's title wherever it was not given. The
slugs are the texts that the derivation leaves alone, and these are the texts of small ASCII letters,
digits and dashes (`Title.slug_eq_self_iff`): whatever the title's script, all that its lowercase has
beyond them is left out or becomes a dash.

So a slug can be derived again, and from a title with other blanks around it, without giving the board
another name; and it stands in an address as it is, since none of its characters is one that addresses
treat in a way of their own.
-/

namespace StatusWall

/-! ## Blanks and lowercase -/

namespace Text

/-- Blanks around a text are taken away with those that it has itself. -/
theorem trimChars_append {before after : List Char} (hbefore : ∀ c ∈ before, isBlank c = true)
    (hafter : ∀ c ∈ after, isBlank c = true) (cs : List Char) :
    trimChars (before ++ cs ++ after) = trimChars cs := by
  have hreverse : ∀ c ∈ after.reverse, isBlank c = true :=
    fun c hc => hafter c (List.mem_reverse.mp hc)
  unfold trimChars
  rw [List.append_assoc, List.dropWhile_append_of_pos hbefore, List.dropWhile_append]
  split
  · next hblank =>
    rw [List.isEmpty_iff.mp hblank, List.dropWhile_eq_nil_iff.mpr hafter]
  · rw [List.reverse_append, List.dropWhile_append_of_pos hreverse]

/-- Without blanks at its ends a text keeps everything. -/
theorem trimChars_eq_self {cs : List Char} (h : ∀ c ∈ cs, isBlank c = false) : trimChars cs = cs := by
  have keep {xs : List Char} (hxs : ∀ c ∈ xs, isBlank c = false) : xs.dropWhile isBlank = xs := by
    cases xs with
    | nil => rfl
    | cons c xs => simp [hxs c List.mem_cons_self]
  unfold trimChars
  rw [keep h, keep fun c hc => h c (List.mem_reverse.mp hc), List.reverse_reverse]

/-- ASCII is lowercased letter by letter, wherever it stands. -/
theorem lowerAfter_of_ascii {cs : List Char} (h : ∀ c ∈ cs, c.toNat < 128) (before : List Char) :
    lowerAfter before cs = cs.map Char.toLower := by
  induction cs generalizing before with
  | nil => rfl
  | cons c cs ih =>
    have hc : c.toNat < 128 := h c List.mem_cons_self
    have sigma : c.toNat ≠ 0x3A3 := by omega
    have here : lowerChar c = [c.toLower] := if_pos hc
    rw [lowerAfter, ih (fun d hd => h d (List.mem_cons_of_mem _ hd)), if_neg sigma, here]
    rfl

end Text

/-! ## Slugs -/

namespace Title

theorem toNat_of_isSlugChar {c : Char} (h : isSlugChar c = true) : c.toNat < 128 := by
  simp only [isSlugChar, Bool.or_eq_true, Bool.and_eq_true, decide_eq_true_iff] at h
  rcases h with (⟨-, letter⟩ | ⟨-, digit⟩) | rfl
  · change c.toNat ≤ 122 at letter
    omega
  · change c.toNat ≤ 57 at digit
    omega
  · decide

/-- What holds of the slug characters is a matter of a few characters. -/
theorem of_isSlugChar {P : Char → Prop}
    (h : ∀ n : Fin 128, isSlugChar (Char.ofNat n) = true → P (Char.ofNat n)) {c : Char}
    (hc : isSlugChar c = true) : P c := by
  have hP := h ⟨c.toNat, toNat_of_isSlugChar hc⟩
  simp only [Char.ofNat_toNat] at hP
  exact hP hc

theorem slugChar?_of_isSlugChar {c : Char} (h : isSlugChar c = true) :
    c.toLower = c ∧ Text.isBlank c = false ∧ slugChar? c = some c :=
  of_isSlugChar (P := fun c => c.toLower = c ∧ Text.isBlank c = false ∧ slugChar? c = some c)
    (by decide) h

theorem plain_of_isSlugChar {c : Char} (h : isSlugChar c = true) : Web.Url.Plain c where
  path := of_isSlugChar (P := fun c => Web.staysInPath c = true) (by decide) h
  query := of_isSlugChar (P := fun c => Web.staysInQuery c = true) (by decide) h
  slash := of_isSlugChar (P := fun c => Web.Url.isSlash c = false) (by decide) h
  colon := of_isSlugChar (P := fun c => c ≠ ':') (by decide) h
  dot := of_isSlugChar (P := fun c => c.toLower ≠ '.') (by decide) h
  percent := of_isSlugChar (P := fun c => c.toLower ≠ '%') (by decide) h

/-- **The texts that are slugs already.** -/
theorem slug_eq_self_iff {t : String} : slug t = t ↔ ∀ c ∈ t.toList, isSlugChar c = true := by
  constructor
  · intro h c hc
    rw [← h] at hc
    exact isSlugChar_of_mem_slug hc
  · intro h
    have lower : Text.lowerChars t.toList = t.toList := by
      rw [Text.lowerChars, Text.lowerAfter_of_ascii fun c hc => toNat_of_isSlugChar (h c hc),
        List.map_congr_left fun c hc => (slugChar?_of_isSlugChar (h c hc)).1, List.map_id']
    have kept : t.toList.filterMap slugChar? = t.toList := by
      rw [List.filterMap_congr fun c hc => (slugChar?_of_isSlugChar (h c hc)).2.2, List.filterMap_some]
    rw [slug, Text.trimChars_eq_self fun c hc => (slugChar?_of_isSlugChar (h c hc)).2.1, lower, kept,
      String.ofList_toList]

/-- A slug is its own slug. -/
theorem slug_slug (title : String) : slug (slug title) = slug title :=
  slug_eq_self_iff.mpr fun _ hc => isSlugChar_of_mem_slug hc

/-- Blanks around a title do not matter to its slug. -/
theorem slug_append {before after : String} (hbefore : Text.isBlankText before = true)
    (hafter : Text.isBlankText after = true) (title : String) :
    slug (before ++ title ++ after) = slug title := by
  unfold slug
  rw [String.toList_append, String.toList_append,
    Text.trimChars_append (List.all_eq_true.mp hbefore) (List.all_eq_true.mp hafter)]

end Title

/-! ## Exchanges -/

namespace Web.Exchange

variable {β γ : Type}

/-- Some responses lead to a result. -/
inductive Yields : Exchange β → β → Prop where
  | done (b : β) : Yields (.done b) b
  | ask {request : Request} {next : Option Response → Exchange β} {b : β}
      (response : Option Response) (h : Yields (next response) b) : Yields (.ask request next) b

theorem yields_bind {e : Exchange β} {next : β → Exchange γ} {b : γ} :
    (e.bind next).Yields b ↔ ∃ a, e.Yields a ∧ (next a).Yields b := by
  constructor
  · intro h
    induction e with
    | done a => exact ⟨a, .done a, h⟩
    | ask request answer ih =>
      obtain _ | ⟨response, h⟩ := h
      obtain ⟨a, ha, hb⟩ := ih response h
      exact ⟨a, .ask response ha, hb⟩
  · rintro ⟨a, ha, hb⟩
    induction ha with
    | done a => exact hb
    | ask response _ ih => exact .ask response (ih hb)

/-- A response that names no other address is an answer. -/
theorem yields_send (request : Request) {r : Response} (h : r.location = none) :
    (send request).Yields (.ok r) := by
  rw [send, follow]
  refine .ask (some r) ?_
  simp only [h, Option.filter_none]
  cases request.redirected? r.status with
  | none => exact .done _
  | some again => exact .done _

end Web.Exchange

namespace Client

open Json Web

/-- A task answers what is read from the response to its request, if that says that it was carried out. -/
theorem yields_perform_iff {β : Type} {c : Client} {task : ClientTask} {method : Method}
    {path : String} {query : List (String × String)} {body : Option Body}
    {read : Response → Except Fault β} {b : β} :
    (c.perform task method path query body read).Yields (.ok b) ↔
      ∃ r, (c.request method path query body).Yields (.ok r) ∧ r.isSuccess = true ∧
        read r = .ok b := by
  refine Exchange.yields_bind.trans ⟨?_, ?_⟩
  · rintro ⟨sent, hsent, h⟩
    cases sent with
    | error cause => cases h
    | ok r =>
      by_cases success : r.isSuccess = true
      · simp only [success, Bool.not_true, Bool.false_eq_true, if_false] at h
        cases hread : read r with
        | error fault =>
          rw [hread] at h
          cases h
        | ok a =>
          rw [hread] at h
          cases h
          exact ⟨r, hsent, success, hread⟩
      · simp only [success, Bool.not_false, if_true] at h
        cases h
  · rintro ⟨r, hsent, success, hread⟩
    refine ⟨.ok r, hsent, ?_⟩
    simp only [success, hread, Bool.not_true, Bool.false_eq_true, if_false]
    exact .done _

/-- The listed boards are those that were sent, each with the slug of its title if it came without. -/
theorem yields_listDashboards_iff {c : Client} {tag : Option String}
    {boards : List (Dashboard Float)} :
    (c.listDashboards tag).Yields (.ok boards) ↔
      ∃ (r : Response) (sent : List (Dashboard Float)),
        (c.request .get "dashboard" (tag.map fun t => ("tag", t)).toList none).Yields (.ok r) ∧
        r.isSuccess = true ∧ decode (fun origin => Doc.asList origin Dashboard.read) r = .ok sent ∧
        boards = sent.map fun d => withSlug d (Title.slug d.title) := by
  refine yields_perform_iff.trans ⟨?_, ?_⟩
  · rintro ⟨r, hrequest, success, hread⟩
    cases hsent : decode (fun origin => Doc.asList origin Dashboard.read) r with
    | error fault =>
      rw [hsent] at hread
      cases hread
    | ok sent =>
      rw [hsent] at hread
      exact ⟨r, sent, hrequest, success, hsent, (Except.ok.inj hread).symm⟩
  · rintro ⟨r, sent, hrequest, success, hsent, rfl⟩
    refine ⟨r, hrequest, success, ?_⟩
    rw [hsent]
    rfl

/-- The path of a board is a plain name, and what stands behind its slash. -/
theorem address_dashboardPath (c : Client) (slug : String) :
    c.address (dashboardPath slug) =
      String.ofList (c.base.toList ++ '/' :: ("dashboard".toList ++ '/' :: slug.toList)) := by
  have head : (dashboardPath slug).toList = "dashboard".toList ++ '/' :: slug.toList := by
    simp [dashboardPath]
  unfold address
  rw [head]
  simp [String.append_assoc]

end Client

/-! ## Slugs as they are used -/

namespace Title

open Web

/-- A text that is the slug of itself, and stands in addresses as it is. -/
structure Stable (s : String) : Prop where
  characters : ∀ c ∈ s.toList, ('a' ≤ c ∧ c ≤ 'z') ∨ ('0' ≤ c ∧ c ≤ '9') ∨ c = '-'
  again : slug s = s
  path (directory : List Char) :
    Url.pathOf (directory ++ '/' :: s.toList) = Url.pathOf (directory ++ ['/']) ++ s
  address (c : Client) :
    (Url.parse? (c.address (Client.dashboardPath s))).map Url.text =
      (Url.parse? (c.address (Client.dashboardPath ""))).map fun url => url.text ++ s

theorem stable_slug (title : String) : Stable (slug title) where
  characters c hc := by
    have h := isSlugChar_of_mem_slug hc
    simpa [isSlugChar, or_assoc] using h
  again := slug_slug title
  path directory := by
    have plain : ∀ c ∈ (slug title).toList, Url.Plain c :=
      fun c hc => plain_of_isSlugChar (isSlugChar_of_mem_slug hc)
    rw [Url.pathOf_append directory plain, String.ofList_toList]
  address c := by
    have plain : ∀ c ∈ (slug title).toList, Url.Plain c :=
      fun c hc => plain_of_isSlugChar (isSlugChar_of_mem_slug hc)
    have name : ∀ c ∈ "dashboard".toList, Url.Plain c :=
      fun c hc => plain_of_isSlugChar (List.all_eq_true.mp (by decide) c hc)
    rw [Client.address_dashboardPath, Client.address_dashboardPath,
      Url.text_parse?_append c.base.toList (by decide) name plain, String.ofList_toList]
    rfl

/-- **Slugs are stable path segments.** The slug of a title consists of small ASCII letters, digits and
dashes, is its own slug, does not depend on blanks around the title, and stands in every address as it
is. It is what a new board gets, and a listed one that came without; listing a board again does not give
it another. The slugs are all texts of those characters and no others. -/
theorem slugs_are_stable_segments (title : String) :
    Stable (slug title) ∧
    (∀ before after, Text.isBlankText before = true → Text.isBlankText after = true →
      slug (before ++ title ++ after) = slug title) ∧
    (∀ t, slug t = t ↔ ∀ c ∈ t.toList, isSlugChar c = true) ∧
    (Dashboard.new title : Dashboard Float).slug = slug title ∧
    ∀ (c : Client) tag boards, (c.listDashboards tag).Yields (.ok boards) → ∀ d ∈ boards,
      (∃ sent : Dashboard Float, d = { sent with slug := d.slug } ∧
        (sent.slug = "" → d.slug = (Dashboard.new d.title : Dashboard Float).slug ∧ Stable d.slug) ∧
        (sent.slug ≠ "" → d.slug = sent.slug)) ∧
      Client.withSlug d (slug d.title) = d := by
  refine ⟨stable_slug title, fun before after hbefore hafter => slug_append hbefore hafter title,
    fun t => slug_eq_self_iff, rfl, ?_⟩
  intro c tag boards h d hd
  obtain ⟨-, sent, -, -, -, rfl⟩ := Client.yields_listDashboards_iff.mp h
  obtain ⟨d, -, rfl⟩ := List.mem_map.mp hd
  by_cases hslug : d.slug.isEmpty = true
  · have listed : Client.withSlug d (slug d.title) = { d with slug := slug d.title } := if_pos hslug
    rw [listed]
    refine ⟨⟨d, rfl, fun _ => ⟨rfl, stable_slug d.title⟩, fun hne => ?_⟩, ite_self _⟩
    exact absurd (String.isEmpty_iff.mp hslug) hne
  · have listed : Client.withSlug d (slug d.title) = d := if_neg hslug
    rw [listed]
    refine ⟨⟨d, rfl, fun hnone => ?_, fun _ => rfl⟩, listed⟩
    exact absurd (String.isEmpty_iff.mpr hnone) hslug

/-- Beside the slug of a title with blanks in it, a board that is listed as `Ops_1` and came without a
slug. -/
theorem spaced_title_has_one_slug :
    Stable (slug "Core Network!") ∧ slug "Core Network!" = "core-network" ∧
      slug ("\t" ++ "Core Network!" ++ " \n") = slug "Core Network!" ∧
      Client.withSlug { title := "Ops_1", slug := "ops-1" } (slug "Ops_1") =
        { title := "Ops_1", slug := "ops-1" } := by
  obtain ⟨stable, blanks, -, -, listed⟩ := slugs_are_stable_segments "Core Network!"
  have address : Url.parse? (Client.address { base := "http://h" } "dashboard") =
      some { secure := false, credentials := "", host := "h", port := none, path := "/dashboard" } := by
    decide +kernel
  let text := "[\x7b\"title\":\"Ops_1\"\x7d]"
  let response : Response := { status := 200, body := text.toUTF8 }
  have requested :
      (Client.request { base := "http://h" } .get "dashboard" [] none).Yields (.ok response) := by
    rw [Client.request, address]
    exact Exchange.yields_send _ rfl
  have decoded : Client.decode (fun origin => Json.Doc.asList origin Dashboard.read) response =
      .ok [{ title := "Ops_1" }] := by
    have content : String.fromUTF8? response.content = some text := by decide +kernel
    have read : Json.readText (fun origin => Json.Doc.asList origin Dashboard.read) text =
        .ok [{ title := "Ops_1" }] := by cbv
    rw [Client.decode, content]
    exact read
  have named : slug "Ops_1" = "ops-1" := by decide +kernel
  have answered : (Client.listDashboards { base := "http://h" } none).Yields
      (.ok [{ title := "Ops_1", slug := "ops-1" }]) := by
    refine Client.yields_listDashboards_iff.mpr
      ⟨response, [{ title := "Ops_1" }], requested, rfl, decoded, ?_⟩
    rw [List.map_singleton, named]
    rfl
  exact ⟨stable, by decide +kernel, blanks "\t" " \n" (by decide) (by decide),
    (listed _ _ _ answered _ (List.mem_singleton.mpr rfl)).2⟩

end Title

end StatusWall
