import Mathlib.Data.List.TakeWhile
import StatusWall.Web.Url

/-!
# Plain segments at the end of addresses

An address is read in many steps: blanks are dropped, the scheme and the server are split off, the path
is cut into segments, dots are resolved, and what may not stand there is encoded. Characters that none of
these steps looks for are plain (`Url.Plain`). A text of plain characters can be put behind the slash of
a directory and is found there again as it is, whichever part of the address that directory is in
(`Url.text_parse?_append`); in a path it is a segment of its own (`Url.pathOf_append`).
-/

namespace StatusWall.Web

/-! ## Cutting texts -/

/-- Where dropping ends, the rest stays. -/
theorem dropWhile_append_cons {β : Type} {p : β → Bool} {x : β} (hx : p x = false) (xs ys : List β) :
    (xs ++ x :: ys).dropWhile p = xs.dropWhile p ++ x :: ys := by
  induction xs with
  | nil => simp [hx]
  | cons a xs ih => cases ha : p a <;> simp [ha, ih]

namespace Url

section Cut

variable {stop : Char → Bool}

/-- A text has no character of a kind, or a first one. -/
theorem none_or_first (stop : Char → Bool) (xs : List Char) :
    (∀ c ∈ xs, stop c = false) ∨
      ∃ front d back, xs = front ++ d :: back ∧ (∀ c ∈ front, stop c = false) ∧ stop d = true := by
  induction xs with
  | nil => exact .inl nofun
  | cons a xs ih =>
    cases ha : stop a with
    | true => exact .inr ⟨[], a, xs, rfl, nofun, ha⟩
    | false =>
      rcases ih with hnone | ⟨front, d, back, rfl, hfront, hd⟩
      · exact .inl (List.forall_mem_cons.mpr ⟨ha, hnone⟩)
      · exact .inr ⟨a :: front, d, back, rfl, List.forall_mem_cons.mpr ⟨ha, hfront⟩, hd⟩

theorem cutAt_of_none {xs : List Char} (h : ∀ c ∈ xs, stop c = false) : cutAt stop xs = (xs, []) := by
  have pass : ∀ c ∈ xs, (!stop c) = true := fun c hc => by rw [h c hc]; rfl
  unfold cutAt
  rw [List.takeWhile_eq_self_iff.mpr pass, List.dropWhile_eq_nil_iff.mpr pass]

theorem cutAt_first {front : List Char} {d : Char} (h : ∀ c ∈ front, stop c = false)
    (hd : stop d = true) (back : List Char) : cutAt stop (front ++ d :: back) = (front, d :: back) := by
  have pass : ∀ c ∈ front, (!stop c) = true := fun c hc => by rw [h c hc]; rfl
  unfold cutAt
  rw [List.takeWhile_append_of_pos pass, List.dropWhile_append_of_pos pass]
  simp [hd]

/-- Behind a character of the kind nothing matters. -/
theorem cutAt_append_cons {x : Char} (hx : stop x = true) (xs ys : List Char) :
    cutAt stop (xs ++ x :: ys) = ((cutAt stop xs).1, (cutAt stop xs).2 ++ x :: ys) := by
  rcases none_or_first stop xs with hnone | ⟨front, d, back, rfl, hfront, hd⟩
  · rw [cutAt_first hnone hx, cutAt_of_none hnone, List.nil_append]
  · rw [List.append_assoc, List.cons_append, cutAt_first hfront hd, cutAt_first hfront hd,
      List.cons_append]

end Cut

/-! ## Plain characters -/

/-- Blanks and controls, which do not count around an address. -/
def isMargin (c : Char) : Bool := c.toNat ≤ 0x20

/-- A character that no step of reading an address looks for, behind the server's name. -/
structure Plain (c : Char) : Prop where
  path : staysInPath c = true
  query : staysInQuery c = true
  slash : isSlash c = false
  colon : c ≠ ':'
  dot : c.toLower ≠ '.'
  percent : c.toLower ≠ '%'

namespace Plain

variable {c : Char} (h : Plain c)

include h

theorem fragment : staysInFragment c = true := by
  have path := h.path
  unfold staysInPath at path
  exact (Bool.and_eq_true_iff.mp path).1

theorem mark : decide (c = '?') = false ∧ decide (c = '#') = false := by
  have path := h.path
  unfold staysInPath at path
  simp_all

theorem visible : isMargin c = false := by
  have fragment := h.fragment
  unfold staysInFragment isGraphic at fragment
  simp only [Bool.and_eq_true, decide_eq_true_iff] at fragment
  exact decide_eq_false (by omega)

end Plain

section Segments

variable {s : List Char}

/-- A text of characters that may stay is spelled as it is. -/
theorem encodeUnless_eq_self {stays : Char → Bool} (h : ∀ c ∈ s, stays c = true) :
    encodeUnless stays s = s := by
  unfold encodeUnless
  induction s with
  | nil => rfl
  | cons c s ih =>
    rw [List.flatMap_cons, ih fun d hd => h d (List.mem_cons_of_mem _ hd), h c List.mem_cons_self]
    rfl

theorem encodeUnless_append (stays : Char → Bool) (xs ys : List Char) :
    encodeUnless stays (xs ++ ys) = encodeUnless stays xs ++ encodeUnless stays ys :=
  List.flatMap_append

/-! ## Paths -/

/-- A segment without dots, written or encoded, is not resolved. -/
theorem not_dots (h : ∀ c ∈ s, Plain c) : isHere s = false ∧ isAbove s = false := by
  have dot : '.' ∉ s.map Char.toLower := by
    intro hmem
    obtain ⟨c, hc, heq⟩ := List.mem_map.mp hmem
    exact (h c hc).dot heq
  have percent : '%' ∉ s.map Char.toLower := by
    intro hmem
    obtain ⟨c, hc, heq⟩ := List.mem_map.mp hmem
    exact (h c hc).percent heq
  have other : ∀ t : String, '.' ∈ t.toList ∨ '%' ∈ t.toList →
      String.ofList (s.map Char.toLower) ≠ t := by
    rintro t ht rfl
    rw [String.toList_ofList] at ht
    exact ht.elim dot percent
  unfold isHere isAbove
  simp [other]

theorem resolveDots_cons (done : List (List Char)) (segment : List Char) {rest : List (List Char)}
    (h : rest ≠ []) :
    resolveDots done (segment :: rest) =
      resolveDots (if isAbove segment then done.tail else if isHere segment then done
        else segment :: done) rest := by
  cases rest with
  | nil => exact absurd rfl h
  | cons _ _ =>
    rw [resolveDots]
    · split_ifs <;> rfl
    · exact nofun

/-- What is resolved before the last segment does not depend on it. -/
theorem exists_resolveDots (done segments : List (List Char)) :
    ∃ kept, ∀ s : List Char, (∀ c ∈ s, Plain c) →
      resolveDots done (segments ++ [s]) = kept ++ [s] := by
  induction segments generalizing done with
  | nil =>
    refine ⟨done.reverse, fun s h => ?_⟩
    obtain ⟨here, above⟩ := not_dots h
    simp [resolveDots, here, above]
  | cons segment segments ih =>
    obtain ⟨kept, hkept⟩ := ih (if isAbove segment then done.tail else if isHere segment then done
      else segment :: done)
    refine ⟨kept, fun s h => ?_⟩
    rw [List.cons_append, resolveDots_cons done segment (by simp), hkept s h]

/-- A path without its first slash. -/
def unrooted : List Char → List Char
  | c :: rest => if isSlash c then rest else c :: rest
  | [] => []

theorem pathOf_eq (cs : List Char) :
    pathOf cs = String.ofList ('/' :: List.intercalate ['/']
      (resolveDots [] ((segments (unrooted cs)).map (encodeUnless staysInPath)))) := by
  cases cs <;> rfl

theorem segments_append (xs : List Char) (h : ∀ c ∈ s, isSlash c = false) :
    segments (xs ++ '/' :: s) = segments xs ++ [s] := by
  unfold segments
  rw [List.splitOnP_append_cons _ _ rfl, List.splitOnP_eq_singleton h]

/-- What is cut off before the last slash does not depend on what follows it. -/
theorem exists_segments (directory : List Char) :
    ∃ before, ∀ s : List Char, (∀ c ∈ s, isSlash c = false) →
      segments (unrooted (directory ++ '/' :: s)) = before ++ [s] := by
  cases directory with
  | nil => exact ⟨[], fun s h => List.splitOnP_eq_singleton h⟩
  | cons c directory =>
    by_cases hc : isSlash c
    · refine ⟨segments directory, fun s h => ?_⟩
      simp only [unrooted, List.cons_append, hc, if_true]
      exact segments_append directory h
    · refine ⟨segments (c :: directory), fun s h => ?_⟩
      simp only [unrooted, List.cons_append, hc]
      exact segments_append (c :: directory) h

theorem intercalate_concat (sep : List Char) (xs : List (List Char)) (s : List Char) :
    sep.intercalate (xs ++ [s]) = sep.intercalate (xs ++ [[]]) ++ s := by
  induction xs with
  | nil => simp
  | cons x xs ih =>
    cases xs with
    | nil => simp
    | cons y xs =>
      simp only [List.cons_append, List.intercalate_cons_cons] at ih ⊢
      rw [ih, List.append_assoc, List.append_assoc, List.append_assoc]

/-- **A plain segment at the end of a path** is there as it is. -/
theorem pathOf_append (directory : List Char) (h : ∀ c ∈ s, Plain c) :
    pathOf (directory ++ '/' :: s) = pathOf (directory ++ ['/']) ++ String.ofList s := by
  obtain ⟨before, hbefore⟩ := exists_segments directory
  obtain ⟨kept, hkept⟩ := exists_resolveDots [] (before.map (encodeUnless staysInPath))
  have spelled (s : List Char) (h : ∀ c ∈ s, Plain c) :
      pathOf (directory ++ '/' :: s) = String.ofList ('/' :: ['/'].intercalate (kept ++ [s])) := by
    rw [pathOf_eq, hbefore s fun c hc => (h c hc).slash, List.map_append, List.map_singleton,
      encodeUnless_eq_self fun c hc => (h c hc).path, hkept s h]
  rw [spelled s h, spelled [] (by simp), intercalate_concat, ← List.cons_append, String.ofList_append]

end Segments

/-! ## Behind the server -/

/-- The signs that end a path. -/
def endsPath (c : Char) : Bool := c = '?' || c = '#'

/-- The sign that ends a query. -/
def endsQuery (c : Char) : Bool := c = '#'

/-- The signs that end the name of a server. -/
def endsServer (c : Char) : Bool := isSlash c || c = '?' || c = '#'

/-- The part of an address behind the server. -/
structure Tail where
  path : String
  query : Option String
  fragment : Option String

/-- The part of an address behind the server, as a text. -/
def Tail.text (t : Tail) : String :=
  t.path ++ (match t.query with | some q => "?" ++ q | none => "") ++
    (match t.fragment with | some f => "#" ++ f | none => "")

/-- The tail that a text spells. -/
def tailOf (cs : List Char) : Tail :=
  let (path, rest) := cutAt endsPath cs
  let (query, rest) :=
    match rest with
    | '?' :: rest =>
      let (q, rest) := cutAt endsQuery rest
      (some (String.ofList (encodeUnless staysInQuery q)), rest)
    | rest => (none, rest)
  let fragment :=
    match rest with
    | '#' :: f => some (String.ofList (encodeUnless staysInFragment f))
    | _ => none
  { path := pathOf path, query, fragment }

/-- The server that a text spells, if there is one; what is asked of it comes later. -/
def serverOf? (secure : Bool) (authority : List Char) : Option (Tail → Url) := do
  let (credentials, server) := splitCredentials authority
  let (hostText, portText) := splitPort server
  let host ← hostOf? hostText
  let port ← portOf? secure portText
  return fun t =>
    { secure, credentials := String.ofList credentials, host, port, path := t.path, query := t.query,
      fragment := t.fragment }

/-- Whether the connection is encrypted, and what stands behind the scheme's colon. -/
def schemeOf? (cs : List Char) : Option (Bool × List Char) := do
  let (scheme, rest) ← takeScheme? cs
  if scheme ≠ "http" ∧ scheme ≠ "https" then none
  return (decide (scheme = "https"), rest)

/-- Reading an address, cut into reading its scheme, its server and its tail. -/
theorem parse?_eq (text : String) :
    parse? text = (schemeOf? (cleaned text.toList)).bind fun (secure, rest) =>
      let (authority, tail) := cutAt endsServer (rest.dropWhile isSlash)
      (serverOf? secure authority).map fun url => url (tailOf tail) := by
  unfold parse? schemeOf? serverOf?
  cases h : takeScheme? (cleaned text.toList) with
  | none => rfl
  | some p =>
    obtain ⟨scheme, rest⟩ := p
    simp only [Option.bind_eq_bind, Option.bind_some]
    split
    · rfl
    · have server : (fun c => isSlash c || decide (c = '?') || decide (c = '#')) = endsServer := rfl
      simp only [Option.bind_some, Option.pure_def, server]
      cases hostOf? _ with
      | none => rfl
      | some host =>
        cases portOf? _ _ with
        | none => rfl
        | some port => rfl

section Shapes

variable {path query : List Char} (hpath : ∀ c ∈ path, endsPath c = false)

include hpath

theorem tailOf_path : tailOf path = ⟨pathOf path, none, none⟩ := by
  have cut : cutAt endsPath path = (path, []) := cutAt_of_none hpath
  unfold tailOf
  rw [cut]

theorem tailOf_fragment (fragment : List Char) :
    tailOf (path ++ '#' :: fragment) =
      ⟨pathOf path, none, some (String.ofList (encodeUnless staysInFragment fragment))⟩ := by
  have cut : cutAt endsPath (path ++ '#' :: fragment) = (path, '#' :: fragment) :=
    cutAt_first hpath rfl fragment
  unfold tailOf
  rw [cut]
  rfl

theorem tailOf_query (hquery : ∀ c ∈ query, endsQuery c = false) :
    tailOf (path ++ '?' :: query) =
      ⟨pathOf path, some (String.ofList (encodeUnless staysInQuery query)), none⟩ := by
  have cut : cutAt endsPath (path ++ '?' :: query) = (path, '?' :: query) :=
    cutAt_first hpath rfl query
  have cut' : cutAt endsQuery query = (query, []) := cutAt_of_none hquery
  unfold tailOf
  rw [cut]
  simp only [cut']

theorem tailOf_query_fragment (hquery : ∀ c ∈ query, endsQuery c = false) (fragment : List Char) :
    tailOf (path ++ '?' :: (query ++ '#' :: fragment)) =
      ⟨pathOf path, some (String.ofList (encodeUnless staysInQuery query)),
        some (String.ofList (encodeUnless staysInFragment fragment))⟩ := by
  have cut : cutAt endsPath (path ++ '?' :: (query ++ '#' :: fragment)) =
      (path, '?' :: (query ++ '#' :: fragment)) := cutAt_first hpath rfl _
  have cut' : cutAt endsQuery (query ++ '#' :: fragment) = (query, '#' :: fragment) :=
    cutAt_first hquery rfl fragment
  unfold tailOf
  rw [cut]
  simp only [cut']

end Shapes

section Ending

variable {s : List Char} (h : ∀ c ∈ s, Plain c)

include h

/-- Behind a slash plain characters are spelled as they are, in whichever part of an address. -/
theorem encodeUnless_ending (stays : Char → Bool) (hs : ∀ c, Plain c → stays c = true)
    (xs : List Char) :
    String.ofList (encodeUnless stays (xs ++ '/' :: s)) =
      String.ofList (encodeUnless stays (xs ++ ['/'])) ++ String.ofList s := by
  rw [← String.ofList_append, List.append_cons, encodeUnless_append,
    encodeUnless_eq_self fun c hc => hs c (h c hc)]

theorem text_tailOf_append (cs : List Char) :
    (tailOf (cs ++ '/' :: s)).text = (tailOf (cs ++ ['/'])).text ++ String.ofList s := by
  have marks {xs : List Char} {stop : Char → Bool} (hxs : ∀ c ∈ xs, stop c = false)
      (slash : stop '/' = false) (hstop : ∀ c, Plain c → stop c = false) :
      (∀ c ∈ xs ++ '/' :: s, stop c = false) ∧ ∀ c ∈ xs ++ ['/'], stop c = false := by
    simp only [List.forall_mem_append, List.forall_mem_cons]
    exact ⟨⟨hxs, slash, fun c hc => hstop c (h c hc)⟩, hxs, slash, nofun⟩
  have pathMarks (c : Char) (hc : Plain c) : endsPath c = false := by
    simp [endsPath, hc.mark]
  have queryMarks (c : Char) (hc : Plain c) : endsQuery c = false := hc.mark.2
  have fragments := encodeUnless_ending h staysInFragment fun _ hc => hc.fragment
  rcases none_or_first endsPath cs with hnone | ⟨path, d, rest, rfl, hpath, hd⟩
  · -- Neither query nor fragment: the segment ends the path.
    obtain ⟨long, short⟩ := marks hnone rfl pathMarks
    rw [tailOf_path long, tailOf_path short, pathOf_append cs h]
    simp [Tail.text]
  · rw [List.append_assoc, List.append_assoc, List.cons_append, List.cons_append]
    obtain rfl | rfl : d = '?' ∨ d = '#' := by simpa [endsPath] using hd
    · rcases none_or_first endsQuery rest with hnone | ⟨query, d, fragment, rfl, hquery, hd⟩
      · obtain ⟨long, short⟩ := marks hnone rfl queryMarks
        have queries := encodeUnless_ending h staysInQuery fun _ hc => hc.query
        rw [tailOf_query hpath long, tailOf_query hpath short, queries]
        simp [Tail.text, String.append_assoc]
      · obtain rfl : d = '#' := by simpa [endsQuery] using hd
        rw [List.append_assoc, List.append_assoc, List.cons_append, List.cons_append,
          tailOf_query_fragment hpath hquery, tailOf_query_fragment hpath hquery, fragments]
        simp [Tail.text, String.append_assoc]
    · rw [tailOf_fragment hpath, tailOf_fragment hpath, fragments]
      simp [Tail.text, String.append_assoc]

end Ending

/-! ## The server and what is in front of it -/

/-- The text of an address ends in the text of its tail. -/
theorem exists_text {secure : Bool} {authority : List Char} {url : Tail → Url}
    (h : serverOf? secure authority = some url) : ∃ server, ∀ t, (url t).text = server ++ t.text := by
  unfold serverOf? at h
  cases hhost : hostOf? (splitPort (splitCredentials authority).2).1 with
  | none => simp [hhost] at h
  | some host =>
    cases hport : portOf? secure (splitPort (splitCredentials authority).2).2 with
    | none => simp [hhost, hport] at h
    | some port =>
      simp only [hhost, hport, Option.bind_eq_bind, Option.bind_some, Option.pure_def,
        Option.some.injEq] at h
      subst h
      refine ⟨text ⟨secure, String.ofList (splitCredentials authority).1, host, port, "", none, none⟩,
        fun t => ?_⟩
      obtain ⟨path, query, fragment⟩ := t
      cases query <;> cases fragment <;>
        simp [text, target, scheme, server, Tail.text, String.append_assoc]

theorem takeScheme?_append {ys : List Char} (h : ∀ c ∈ ys, c ≠ ':') (xs : List Char) :
    takeScheme? (xs ++ ys) = (takeScheme? xs).map fun p => (p.1, p.2 ++ ys) := by
  have hys : ∀ c ∈ ys, decide (c = ':') = false := fun c hc => decide_eq_false (h c hc)
  unfold takeScheme?
  rcases none_or_first (fun c => decide (c = ':')) xs with hnone | ⟨front, d, back, rfl, hfront, hd⟩
  · rw [cutAt_of_none hnone, cutAt_of_none (List.forall_mem_append.mpr ⟨hnone, hys⟩)]
    simp
  · rw [List.append_assoc, List.cons_append, cutAt_first hfront hd, cutAt_first hfront hd]
    cases front with
    | nil => rfl
    | cons c front =>
      simp only
      split <;> rfl

theorem schemeOf?_append {ys : List Char} (h : ∀ c ∈ ys, c ≠ ':') (xs : List Char) :
    schemeOf? (xs ++ ys) = (schemeOf? xs).map fun p => (p.1, p.2 ++ ys) := by
  unfold schemeOf?
  rw [takeScheme?_append h]
  cases takeScheme? xs with
  | none => rfl
  | some p =>
    simp only [Option.map_some, Option.bind_eq_bind, Option.bind_some]
    split <;> rfl

/-- The characters that count inside an address. -/
def isKept (c : Char) : Bool := !(c = '\t' || c = '\n' || c = '\r')

theorem cleaned_eq (cs : List Char) :
    cleaned cs = (((cs.dropWhile isMargin).reverse.dropWhile isMargin).reverse).filter isKept := rfl

theorem isKept_of_visible {c : Char} (h : isMargin c = false) : isKept c = true := by
  have visible : ¬ c.toNat ≤ 0x20 := of_decide_eq_false h
  have htab : c ≠ '\t' := by rintro rfl; exact visible (by decide)
  have hline : c ≠ '\n' := by rintro rfl; exact visible (by decide)
  have hreturn : c ≠ '\r' := by rintro rfl; exact visible (by decide)
  simp [isKept, htab, hline, hreturn]

/-- What is visible at the end of an address is kept. -/
theorem exists_cleaned (base : List Char) :
    ∃ front, ∀ ys : List Char, ys ≠ [] → (∀ c ∈ ys, isMargin c = false) →
      cleaned (base ++ ys) = front ++ ys := by
  refine ⟨(base.dropWhile isMargin).filter isKept, fun ys hne h => ?_⟩
  have hfront : (base ++ ys).dropWhile isMargin = base.dropWhile isMargin ++ ys := by
    cases ys with
    | nil => exact absurd rfl hne
    | cons c ys => exact dropWhile_append_cons (h c List.mem_cons_self) base ys
  have hback (xs : List Char) : ((xs ++ ys).reverse.dropWhile isMargin).reverse = xs ++ ys := by
    obtain ⟨zs, c, rfl⟩ := (List.eq_nil_or_concat ys).resolve_left hne
    rw [List.concat_eq_append] at h ⊢
    have hc := h c (by simp)
    rw [← List.append_assoc, List.reverse_append, List.reverse_singleton, List.singleton_append,
      List.dropWhile_cons_of_neg (by rw [hc]; exact Bool.false_ne_true)]
    simp
  have hkept : ys.filter isKept = ys :=
    List.filter_eq_self.mpr fun c hc => isKept_of_visible (h c hc)
  rw [cleaned_eq, hfront, hback, List.filter_append, hkept]

/-- Where the server's name ends depends on nothing behind the directory's slash. -/
theorem exists_authority (rest : List Char) {name : List Char} (hne : name ≠ [])
    (h : ∀ c ∈ name, Plain c) :
    ∃ authority tail, ∀ s, cutAt endsServer ((rest ++ '/' :: (name ++ '/' :: s)).dropWhile isSlash) =
      (authority, tail ++ '/' :: s) := by
  cases name with
  | nil => exact absurd rfl hne
  | cons c name =>
    let server := (rest ++ ['/']).dropWhile isSlash ++ c :: name
    refine ⟨(cutAt endsServer server).1, (cutAt endsServer server).2, fun s => ?_⟩
    have drop : (rest ++ '/' :: (c :: name ++ '/' :: s)).dropWhile isSlash = server ++ '/' :: s := by
      have hc := (h c List.mem_cons_self).slash
      rw [List.append_cons, List.cons_append, dropWhile_append_cons hc]
      simp [server]
    rw [drop]
    exact cutAt_append_cons rfl server s

/-! ## Whole addresses -/

/-- **A plain segment at the end of an address** is there as it is. -/
theorem text_parse?_append (base : List Char) {name s : List Char} (hne : name ≠ [])
    (hname : ∀ c ∈ name, Plain c) (h : ∀ c ∈ s, Plain c) :
    (parse? (String.ofList (base ++ '/' :: (name ++ '/' :: s)))).map text =
      (parse? (String.ofList (base ++ '/' :: (name ++ ['/'])))).map fun url =>
        url.text ++ String.ofList s := by
  obtain ⟨front, hfront⟩ := exists_cleaned base
  have scheme {s : List Char} (h : ∀ c ∈ s, Plain c) :
      schemeOf? (cleaned (base ++ '/' :: (name ++ '/' :: s))) =
        (schemeOf? front).map fun p => (p.1, p.2 ++ '/' :: (name ++ '/' :: s)) := by
    have ending {P : Char → Prop} (slash : P '/') (plain : ∀ c, Plain c → P c) :
        ∀ c ∈ '/' :: (name ++ '/' :: s), P c := by
      simp only [List.forall_mem_cons, List.forall_mem_append]
      exact ⟨slash, fun c hc => plain c (hname c hc), slash, fun c hc => plain c (h c hc)⟩
    rw [hfront _ (List.cons_ne_nil _ _) (ending (by decide) fun c hc => hc.visible),
      schemeOf?_append (ending (by decide) fun c hc => hc.colon)]
  rw [parse?_eq, parse?_eq, String.toList_ofList, String.toList_ofList, scheme h,
    scheme (List.forall_mem_nil _)]
  cases schemeOf? front with
  | none => rfl
  | some p =>
    obtain ⟨secure, rest⟩ := p
    obtain ⟨authority, tail, hcut⟩ := exists_authority rest hne hname
    simp only [Option.map_some, Option.bind_some, hcut]
    cases hserver : serverOf? secure authority with
    | none => rfl
    | some url =>
      obtain ⟨server, htext⟩ := exists_text hserver
      simp only [Option.map_some, htext, text_tailOf_append h, String.append_assoc]

end Url

end StatusWall.Web
