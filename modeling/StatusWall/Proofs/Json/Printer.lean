import StatusWall.Proofs.Json.Doc
import StatusWall.Proofs.Json.Spelling

/-!
# What was written is read

The reader finds in the indented spelling of a value the value that was written, for all values whose
numbers are whole (`Reader.reads_pretty`), however deep they are. So a shape that is read from such
a text is read from the value itself (`readText_pretty`).

Doubles are left out: that the fewest digits of a double are read as the double is a matter of
rounding, and nothing about it is said here.

The first half are the rules by which the reader goes through a container: from the document of an
item and the documents of the others to that of the whole. They hold for any blanks between the tokens.
The fuel of the reader is twice the length of the text, since every step into a container or on to its
next part consumes a mark.
-/

namespace StatusWall.Json

/-! ## Values without doubles -/

mutual

/-- Every number of the value is whole. -/
def Value.IsWhole : Value → Prop
  | .number n => n.IsWhole
  | .array items => itemsWhole items
  | .object fields => fieldsWhole fields
  | _ => True

/-- Each number of the items is a whole one. -/
def itemsWhole : List Value → Prop
  | [] => True
  | v :: rest => v.IsWhole ∧ itemsWhole rest

/-- Each number of the fields' values is a whole one. -/
def fieldsWhole : List (String × Value) → Prop
  | [] => True
  | (_, v) :: rest => v.IsWhole ∧ fieldsWhole rest

end

namespace Reader

/-! ## The rules of the reader -/

section Rules

/-- Nothing but blanks. -/
def Blank (cs : List Char) : Prop := ∀ c ∈ cs, isSpace c = true

/-- A text that begins with a value, and not with a blank or the end of a list. -/
def Begins : List Char → Prop
  | [] => False
  | c :: _ => isSpace c = false ∧ c ≠ ']'

variable {fuel : Nat} {blanks cs next rest : List Char} {d : Doc} {ds : List Doc}

/-- Blanks are skipped, all of them. -/
theorem skipSpace_append (blank : Blank blanks) (cs : List Char) :
    skipSpace (blanks ++ cs) = skipSpace cs :=
  List.dropWhile_append_of_pos blank

/-- Where a value begins there is nothing to skip. -/
theorem skipSpace_of_begins (begins : Begins cs) : skipSpace cs = cs := by
  cases cs with
  | nil => exact begins.elim
  | cons c cs => exact List.dropWhile_cons_of_neg (Bool.eq_false_iff.mp begins.1)

/-- Behind blanks, a value is found where it begins. -/
theorem skipSpace_append_of_begins (blank : Blank blanks) (begins : Begins cs) :
    skipSpace (blanks ++ cs) = cs := by
  rw [skipSpace_append blank, skipSpace_of_begins begins]

/-- Blanks before a value make no difference to it. -/
theorem readValue_skip (blank : Blank blanks) (fuel : Nat) (cs : List Char) :
    readValue fuel (blanks ++ cs) = readValue fuel cs := by
  cases fuel with
  | zero => rfl
  | succ fuel =>
    unfold readValue
    rw [skipSpace_append blank]

theorem blank_singleton : Blank [' '] := by
  intro c hc
  rw [List.mem_singleton.mp hc]
  rfl

/-- A word is read to its end, whatever follows. -/
theorem scanWord_append (word : List Char) (d : Doc) (rest : List Char) :
    scanWord word d (word ++ rest) = (d, .ok rest) := by
  induction word with
  | nil => unfold scanWord; rfl
  | cons c word ih =>
    rw [List.cons_append, scanWord]
    exact (if_pos rfl).trans ih

/-- A string begins with its mark. -/
theorem readValue_text {text : Lexeme String} {after : Except Fault (List Char)}
    (scanned : scanString {} cs = (text, after)) :
    readValue (fuel + 1) ('"' :: cs) = (.text text, after) := by
  have mark : skipSpace ('"' :: cs) = '"' :: cs := rfl
  unfold readValue
  simp only [mark, scanned]

/-- A list is its items. -/
theorem readValue_array (blank : Blank blanks) (begins : Begins next)
    (items : readItems fuel next = (ds, .ok rest)) :
    readValue (fuel + 1) ('[' :: (blanks ++ next)) = (.array ds (.ok ()), .ok rest) := by
  have inside : skipSpace (blanks ++ next) = next := skipSpace_append_of_begins blank begins
  have bracket : skipSpace ('[' :: (blanks ++ next)) = '[' :: (blanks ++ next) := rfl
  unfold readValue
  simp only [bracket, inside]
  split
  · exact begins.elim
  · exact absurd rfl begins.2
  · rw [items]
    rfl

/-- An object is its fields. -/
theorem readValue_object (blank : Blank blanks) {fs : List (Lexeme String × Doc)}
    (fields : readFields fuel next = (fs, .ok rest)) :
    readValue (fuel + 1) ('\x7b' :: (blanks ++ '"' :: next)) = (.object fs (.ok ()), .ok rest) := by
  have inside : skipSpace (blanks ++ '"' :: next) = '"' :: next := skipSpace_append blank _
  have brace : skipSpace ('\x7b' :: (blanks ++ '"' :: next)) = '\x7b' :: (blanks ++ '"' :: next) := rfl
  unfold readValue
  simp only [brace, inside, fields]
  rfl

/-- The last item stands before the bracket. -/
theorem readItems_last (value : readValue fuel cs = (d, .ok (blanks ++ ']' :: rest)))
    (blank : Blank blanks) : readItems (fuel + 1) cs = ([d], .ok rest) := by
  have bracket : skipSpace (blanks ++ ']' :: rest) = ']' :: rest := skipSpace_append blank _
  unfold readItems
  simp only [value, bracket]

/-- After any other item comes a comma, and then the next one. -/
theorem readItems_cons (value : readValue fuel cs = (d, .ok (',' :: (blanks ++ next))))
    (blank : Blank blanks) (begins : Begins next)
    (items : readItems fuel next = (ds, .ok rest)) :
    readItems (fuel + 1) cs = (d :: ds, .ok rest) := by
  have comma : skipSpace (',' :: (blanks ++ next)) = ',' :: (blanks ++ next) := rfl
  have inside : skipSpace (blanks ++ next) = next := skipSpace_append_of_begins blank begins
  unfold readItems
  simp only [value, comma, inside]
  split
  · exact begins.elim
  · exact absurd rfl begins.2
  · rw [items]

variable {key : Lexeme String} {after : List Char}

/-- The last field stands before the brace. -/
theorem readFields_last (name : scanString {} cs = (key, .ok (':' :: after)))
    (value : readValue fuel after = (d, .ok (blanks ++ '\x7d' :: rest))) (blank : Blank blanks) :
    readFields (fuel + 1) cs = ([(key, d)], .ok rest) := by
  have colon : skipSpace (':' :: after) = ':' :: after := rfl
  have brace : skipSpace (blanks ++ '\x7d' :: rest) = '\x7d' :: rest := skipSpace_append blank _
  unfold readFields
  simp only [name, colon, value, brace]

/-- After any other field comes a comma, and then the next one. -/
theorem readFields_cons {fs : List (Lexeme String × Doc)}
    (name : scanString {} cs = (key, .ok (':' :: after)))
    (value : readValue fuel after = (d, .ok (',' :: (blanks ++ '"' :: next)))) (blank : Blank blanks)
    (fields : readFields fuel next = (fs, .ok rest)) :
    readFields (fuel + 1) cs = ((key, d) :: fs, .ok rest) := by
  have colon : skipSpace (':' :: after) = ':' :: after := rfl
  have comma : skipSpace (',' :: (blanks ++ '"' :: next)) = ',' :: (blanks ++ '"' :: next) := rfl
  have inside : skipSpace (blanks ++ '"' :: next) = '"' :: next := skipSpace_append blank _
  unfold readFields
  simp only [name, colon, value, comma, inside, fields]

/-- No number begins with a blank. -/
theorem isSpace_eq_false_of_numeral {c : Char} (numeral : c = '-' ∨ c.isDigit = true) :
    isSpace c = false := by
  rcases numeral with rfl | digit
  · rfl
  · refine Bool.eq_false_iff.mpr fun space => ?_
    simp only [isSpace, Bool.or_eq_true, decide_eq_true_eq] at space
    rcases space with ((rfl | rfl) | rfl) | rfl <;> exact absurd digit (by decide)

/-- A number begins with its sign or a digit. -/
theorem readValue_number {c : Char} (numeral : c = '-' ∨ c.isDigit = true) {n : Lexeme Number}
    (number : scanNumber (c :: cs) = (n, .ok rest)) :
    readValue (fuel + 1) (c :: cs) = (.number n, .ok rest) := by
  have visible : skipSpace (c :: cs) = c :: cs :=
    List.dropWhile_cons_of_neg (Bool.eq_false_iff.mp (isSpace_eq_false_of_numeral numeral))
  unfold readValue
  rw [visible]
  split
  case h_1 h => cases h
  case h_2 h | h_3 h | h_4 h | h_5 h | h_6 h | h_7 h =>
    exact absurd ((List.cons.inj h).1 ▸ numeral) (by decide)
  case h_8 h =>
    obtain ⟨rfl, rfl⟩ := List.cons.inj h
    rw [if_pos numeral, number]

end Rules

/-! ## The spelling, mark by mark -/

/-- What stands between two lines: the break, and the blanks at the head of the next line. -/
def margin (depth : Nat) : List Char := '\n' :: List.replicate (2 * depth) ' '

theorem blank_margin (depth : Nat) : Blank (margin depth) := by
  intro c hc
  rcases List.mem_cons.mp hc with rfl | hc
  · rfl
  · rw [List.eq_of_mem_replicate hc]
    rfl

theorem toList_pushn (n : Nat) : ("".pushn ' ' n).toList = List.replicate n ' ' := by
  rw [String.pushn_eq_repeat_push]
  induction n with
  | zero => rfl
  | succ n ih =>
    rw [Nat.repeat, String.toList_push, ih, List.replicate_succ']

/-- Parts with the same head, one after the other: the head belongs to what is between them. -/
theorem intercalate_map_append {β : Type} (sep head : List β) {parts : List (List β)}
    (h : parts ≠ []) :
    sep.intercalate (parts.map (head ++ ·)) = head ++ (sep ++ head).intercalate parts := by
  induction parts with
  | nil => exact absurd rfl h
  | cons p parts ih =>
    cases parts with
    | nil => simp only [List.map_cons, List.map_nil, List.intercalate_singleton]
    | cons q parts =>
      rw [List.map_cons, List.map_cons, List.intercalate_cons_cons, List.intercalate_cons_cons,
        ← List.map_cons (f := (head ++ ·)), ih (List.cons_ne_nil q parts)]
      simp only [List.append_assoc]

/-- The parts stand on lines of their own, with commas between them and the brackets around. -/
theorem toList_indented (opening closing : String) (depth : Nat) {parts : List String}
    (h : parts ≠ []) :
    (indented opening closing depth parts).toList =
      opening.toList ++ (margin (depth + 1) ++
        (List.intercalate (',' :: margin (depth + 1)) (parts.map String.toList) ++
          (margin depth ++ closing.toList))) := by
  have hempty : parts.isEmpty = false := List.isEmpty_eq_false_iff.mpr h
  have lines : (parts.map ("".pushn ' ' (2 * (depth + 1)) ++ ·)).map String.toList =
      (parts.map String.toList).map (List.replicate (2 * (depth + 1)) ' ' ++ ·) := by
    rw [List.map_map, List.map_map]
    refine List.map_congr_left fun p _ => ?_
    rw [Function.comp_apply, String.toList_append, toList_pushn]
    rfl
  have hparts : parts.map String.toList ≠ [] := fun hnil => h (List.map_eq_nil_iff.mp hnil)
  unfold indented
  rw [hempty, if_neg Bool.false_ne_true]
  simp only [String.toList_append, String.toList_intercalate, lines, toList_pushn]
  rw [intercalate_map_append _ _ hparts]
  simp only [margin, List.append_assoc, List.cons_append]
  rfl

theorem toList_stringText (s : String) :
    (stringText s).toList = '"' :: (s.toList.flatMap escapeChar ++ ['"']) :=
  String.toList_ofList

/-- The lines of a list, as far as its items go. -/
def itemLines (depth : Nat) (items : List Value) : List Char :=
  List.intercalate (',' :: margin depth) ((prettyItems depth items).map String.toList)

/-- The lines of an object, as far as its fields go. -/
def fieldLines (depth : Nat) (fields : List (String × Value)) : List Char :=
  List.intercalate (',' :: margin depth) ((prettyFields depth fields).map String.toList)

theorem toList_pretty_null (depth : Nat) : (Value.null.pretty depth).toList = ['n', 'u', 'l', 'l'] := by
  show "null".toList = _
  rfl

theorem toList_pretty_true (depth : Nat) :
    ((Value.bool true).pretty depth).toList = ['t', 'r', 'u', 'e'] := by
  show "true".toList = _
  rfl

theorem toList_pretty_false (depth : Nat) :
    ((Value.bool false).pretty depth).toList = ['f', 'a', 'l', 's', 'e'] := by
  show "false".toList = _
  rfl

theorem toList_pretty_array_nil (depth : Nat) :
    ((Value.array []).pretty depth).toList = ['[', ']'] :=
  String.toList_append

theorem toList_pretty_object_nil (depth : Nat) :
    ((Value.object []).pretty depth).toList = ['\x7b', '\x7d'] :=
  String.toList_append

/-- A list that is not empty is its lines between brackets. -/
theorem toList_pretty_array (depth : Nat) (v : Value) (vs : List Value) :
    ((Value.array (v :: vs)).pretty depth).toList =
      '[' :: (margin (depth + 1) ++ (itemLines (depth + 1) (v :: vs) ++ (margin depth ++ [']']))) :=
  toList_indented "[" "]" depth (List.cons_ne_nil _ _)

/-- An object that is not empty is its lines between braces. -/
theorem toList_pretty_object (depth : Nat) (k : String) (v : Value) (fs : List (String × Value)) :
    ((Value.object ((k, v) :: fs)).pretty depth).toList =
      '\x7b' :: (margin (depth + 1) ++
        (fieldLines (depth + 1) ((k, v) :: fs) ++ (margin depth ++ ['\x7d']))) :=
  toList_indented "\x7b" "\x7d" depth (List.cons_ne_nil _ _)

theorem itemLines_singleton (depth : Nat) (v : Value) :
    itemLines depth [v] = (v.pretty depth).toList := by
  unfold itemLines prettyItems
  rw [prettyItems, List.map_cons, List.map_nil, List.intercalate_singleton]

/-- Between two items stand a comma and a new line. -/
theorem itemLines_cons_cons (depth : Nat) (v w : Value) (vs : List Value) :
    itemLines depth (v :: w :: vs) =
      (v.pretty depth).toList ++ ',' :: (margin depth ++ itemLines depth (w :: vs)) := by
  unfold itemLines prettyItems
  rw [List.map_cons, prettyItems, List.map_cons, List.intercalate_cons_cons, List.append_assoc]
  rfl

/-- A field behind the mark that its key begins with. -/
def fieldLine (depth : Nat) (k : String) (v : Value) : List Char :=
  k.toList.flatMap escapeChar ++ '"' :: ':' :: ' ' :: (v.pretty depth).toList

/-- A field is the string of its key, a colon, a blank and the value. -/
theorem toList_field (depth : Nat) (k : String) (v : Value) :
    (stringText k ++ ": " ++ v.pretty depth).toList = '"' :: fieldLine depth k v := by
  rw [String.toList_append, String.toList_append, toList_stringText]
  simp only [fieldLine, List.cons_append, List.append_assoc]
  rfl

theorem fieldLines_singleton (depth : Nat) (k : String) (v : Value) :
    fieldLines depth [(k, v)] = '"' :: fieldLine depth k v := by
  unfold fieldLines prettyFields
  rw [prettyFields, List.map_cons, List.map_nil, List.intercalate_singleton, toList_field]

/-- Between two fields stand a comma and a new line. -/
theorem fieldLines_cons_cons (depth : Nat) (k : String) (v : Value) (f : String × Value)
    (fs : List (String × Value)) :
    fieldLines depth ((k, v) :: f :: fs) =
      '"' :: (fieldLine depth k v ++ ',' :: (margin depth ++ fieldLines depth (f :: fs))) := by
  unfold fieldLines prettyFields
  rw [List.map_cons, toList_field, prettyFields, List.map_cons, List.intercalate_cons_cons,
    List.append_assoc]
  rfl

/-! ## Reading it back -/

/-- A whole number is written with a sign or a digit first. -/
theorem text_eq_cons {n : Number} (whole : n.IsWhole) :
    ∃ c cs, n.text.toList = c :: cs ∧ (c = '-' ∨ c.isDigit = true) := by
  cases n with
  | natural n =>
    have text : (Number.natural n).text.toList = Nat.toDigits 10 n := Nat.toList_repr
    obtain ⟨d, ds, heq, -⟩ := toDigits_eq_cons n
    have digit : d.isDigit = true :=
      Nat.isDigit_of_mem_toDigits (by decide) (by decide) (heq ▸ List.mem_cons_self)
    exact ⟨d, ds, text.trans heq, .inr digit⟩
  | negative n => exact ⟨'-', (toString n).toList, String.toList_append, .inl rfl⟩
  | real _ => exact whole.elim

theorem Begins.append {cs : List Char} (h : Begins cs) (rest : List Char) : Begins (cs ++ rest) := by
  cases cs with
  | nil => exact h.elim
  | cons c cs => exact h

/-- A value is written with a mark of its own first. -/
theorem begins_pretty {v : Value} (whole : v.IsWhole) (depth : Nat) :
    Begins (v.pretty depth).toList := by
  cases v with
  | null =>
    rw [toList_pretty_null]
    exact ⟨rfl, by decide⟩
  | bool b =>
    cases b with
    | true =>
      rw [toList_pretty_true]
      exact ⟨rfl, by decide⟩
    | false =>
      rw [toList_pretty_false]
      exact ⟨rfl, by decide⟩
  | number n =>
    obtain ⟨c, cs, heq, numeral⟩ := text_eq_cons whole
    show Begins n.text.toList
    rw [heq]
    exact ⟨isSpace_eq_false_of_numeral numeral, by rintro rfl; exact absurd numeral (by decide)⟩
  | text s =>
    show Begins (stringText s).toList
    rw [toList_stringText]
    exact ⟨rfl, by decide⟩
  | array items =>
    cases items with
    | nil =>
      rw [toList_pretty_array_nil]
      exact ⟨rfl, by decide⟩
    | cons v vs =>
      rw [toList_pretty_array]
      exact ⟨rfl, by decide⟩
  | object fields =>
    cases fields with
    | nil =>
      rw [toList_pretty_object_nil]
      exact ⟨rfl, by decide⟩
    | cons f fs =>
      rw [toList_pretty_object]
      exact ⟨rfl, by decide⟩

theorem begins_itemLines {v : Value} {vs : List Value} (whole : v.IsWhole) (depth : Nat) :
    Begins (itemLines depth (v :: vs)) := by
  cases vs with
  | nil =>
    rw [itemLines_singleton]
    exact begins_pretty whole depth
  | cons w vs =>
    rw [itemLines_cons_cons]
    exact (begins_pretty whole depth).append _

/-- With fuel enough, the text is read as the document, whatever delimits it. -/
def Reads (cs : List Char) (d : Doc) : Prop :=
  ∀ fuel rest, 2 * cs.length ≤ fuel → Delimited rest → readValue (fuel + 1) (cs ++ rest) = (d, .ok rest)

/-- With fuel enough, the lines before a bracket are read as the items. -/
def ReadsItems (cs : List Char) (ds : List Doc) : Prop :=
  ∀ fuel depth rest, 2 * cs.length ≤ fuel →
    readItems (fuel + 2) (cs ++ (margin depth ++ ']' :: rest)) = (ds, .ok rest)

/-- With fuel enough, the lines before a brace are read as the fields; the mark that the first key
begins with is read already. -/
def ReadsFields (cs : List Char) (fs : List (Lexeme String × Doc)) : Prop :=
  ∀ fuel depth rest, 2 * cs.length ≤ fuel →
    readFields (fuel + 2) (cs ++ (margin depth ++ '\x7d' :: rest)) = (fs, .ok rest)

section Steps

variable {cs next : List Char} {d : Doc} {ds : List Doc} {fs : List (Lexeme String × Doc)}
  (depth : Nat)

/-- A list is read back if its items are. -/
theorem Reads.array (begins : Begins cs) (items : ReadsItems cs ds) :
    Reads ('[' :: (margin (depth + 1) ++ (cs ++ (margin depth ++ [']'])))) (.array ds (.ok ())) := by
  intro fuel rest hfuel _
  simp only [List.length_cons, List.length_append] at hfuel
  obtain ⟨fuel, rfl⟩ : ∃ k, fuel = k + 2 := ⟨fuel - 2, by omega⟩
  have inside := items fuel depth rest (by omega)
  have array := readValue_array (blank_margin (depth + 1)) (begins.append _) inside
  simp only [List.cons_append, List.append_assoc, List.nil_append]
  exact array

/-- An object is read back if its fields are. -/
theorem Reads.object (fields : ReadsFields cs fs) :
    Reads ('\x7b' :: (margin (depth + 1) ++ ('"' :: cs ++ (margin depth ++ ['\x7d']))))
      (.object fs (.ok ())) := by
  intro fuel rest hfuel _
  simp only [List.length_cons, List.length_append] at hfuel
  obtain ⟨fuel, rfl⟩ : ∃ k, fuel = k + 2 := ⟨fuel - 2, by omega⟩
  have inside := fields fuel depth rest (by omega)
  have object := readValue_object (blank_margin (depth + 1)) inside
  simp only [List.cons_append, List.append_assoc, List.nil_append]
  exact object

theorem ReadsItems.singleton (value : Reads cs d) : ReadsItems cs [d] := by
  intro fuel depth rest hfuel
  exact readItems_last (value fuel _ hfuel (.inr rfl)) (blank_margin depth)

/-- An item is read up to the comma, and the rest behind it. -/
theorem ReadsItems.cons (value : Reads cs d) (begins : Begins next) (items : ReadsItems next ds) :
    ReadsItems (cs ++ ',' :: (margin depth ++ next)) (d :: ds) := by
  intro fuel outer rest hfuel
  simp only [List.length_cons, List.length_append] at hfuel
  obtain ⟨fuel, rfl⟩ : ∃ k, fuel = k + 1 := ⟨fuel - 1, by omega⟩
  have first := value (fuel + 1) (',' :: (margin depth ++ (next ++ (margin outer ++ ']' :: rest))))
    (by omega) (.inl rfl)
  have others := items fuel outer rest (by omega)
  simp only [List.cons_append, List.append_assoc]
  exact readItems_cons first (blank_margin depth) (begins.append _) others

/-- Behind the colon of a field stands a blank. -/
theorem Reads.behindColon (value : Reads cs d) (fuel : Nat) (rest : List Char)
    (hfuel : 2 * cs.length ≤ fuel) (delimited : Delimited rest) :
    readValue (fuel + 1) (' ' :: (cs ++ rest)) = (d, .ok rest) :=
  (readValue_skip blank_singleton (fuel + 1) (cs ++ rest)).trans (value fuel rest hfuel delimited)

theorem ReadsFields.singleton (k : String) (value : Reads cs d) :
    ReadsFields (k.toList.flatMap escapeChar ++ '"' :: ':' :: ' ' :: cs) [(.sound k, d)] := by
  intro fuel depth rest hfuel
  simp only [List.length_cons, List.length_append] at hfuel
  have last := value.behindColon fuel (margin depth ++ '\x7d' :: rest) (by omega) (.inr rfl)
  simp only [List.cons_append, List.append_assoc]
  exact readFields_last (scanString_stringText _ k) last (blank_margin depth)

/-- A field is read up to the comma, and the rest behind it. -/
theorem ReadsFields.cons (k : String) (value : Reads cs d) (fields : ReadsFields next fs) :
    ReadsFields
      (k.toList.flatMap escapeChar ++
        '"' :: ':' :: ' ' :: (cs ++ ',' :: (margin depth ++ '"' :: next)))
      ((.sound k, d) :: fs) := by
  intro fuel outer rest hfuel
  simp only [List.length_cons, List.length_append] at hfuel
  obtain ⟨fuel, rfl⟩ : ∃ k, fuel = k + 1 := ⟨fuel - 1, by omega⟩
  have first := value.behindColon (fuel + 1)
    (',' :: (margin depth ++ '"' :: (next ++ (margin outer ++ '\x7d' :: rest)))) (by omega) (.inl rfl)
  have others := fields fuel outer rest (by omega)
  simp only [List.cons_append, List.append_assoc]
  exact readFields_cons (scanString_stringText _ k) first (blank_margin depth) others

end Steps

theorem Reads.number {n : Number} (whole : n.IsWhole) : Reads n.text.toList (.number (.sound n)) := by
  intro fuel rest _ delimited
  have number := scanNumber_text whole delimited
  obtain ⟨c, cs, heq, numeral⟩ := text_eq_cons whole
  rw [heq] at number ⊢
  exact readValue_number numeral number

/-- A string is read back, whatever its characters. -/
theorem Reads.text (s : String) : Reads (stringText s).toList (.text (.sound s)) := by
  intro fuel rest _ _
  rw [toList_stringText, List.cons_append, List.append_assoc]
  exact readValue_text (scanString_stringText rest s)

mutual

/-- **What was written is read.** -/
theorem reads_pretty : ∀ {v : Value}, v.IsWhole → ∀ depth : Nat,
    Reads (v.pretty depth).toList (Doc.ofValue v)
  | .null, _, depth => by
    rw [toList_pretty_null]
    exact fun _ rest _ _ => scanWord_append ['u', 'l', 'l'] .null rest
  | .bool true, _, depth => by
    rw [toList_pretty_true]
    exact fun _ rest _ _ => scanWord_append ['r', 'u', 'e'] (.bool true) rest
  | .bool false, _, depth => by
    rw [toList_pretty_false]
    exact fun _ rest _ _ => scanWord_append ['a', 'l', 's', 'e'] (.bool false) rest
  | .number _, whole, _ => Reads.number whole
  | .text s, _, _ => Reads.text s
  | .array [], _, depth => by
    rw [toList_pretty_array_nil]
    exact fun _ _ _ _ => rfl
  | .array (v :: vs), whole, depth => by
    rw [toList_pretty_array]
    have items := reads_itemLines whole (List.cons_ne_nil v vs) (depth + 1)
    exact .array depth (begins_itemLines whole.1 (depth + 1)) items
  | .object [], _, depth => by
    rw [toList_pretty_object_nil]
    exact fun _ _ _ _ => rfl
  | .object ((k, v) :: fs), whole, depth => by
    obtain ⟨next, heq, fields⟩ := reads_fieldLines whole (List.cons_ne_nil (k, v) fs) (depth + 1)
    rw [toList_pretty_object, heq]
    exact .object depth fields

theorem reads_itemLines : ∀ {items : List Value}, itemsWhole items → items ≠ [] → ∀ depth : Nat,
    ReadsItems (itemLines depth items) (Doc.ofItems items)
  | [], _, h, _ => absurd rfl h
  | [v], whole, _, depth => by
    rw [itemLines_singleton]
    exact .singleton (reads_pretty whole.1 depth)
  | v :: w :: vs, whole, _, depth => by
    rw [itemLines_cons_cons]
    have others := reads_itemLines whole.2 (List.cons_ne_nil w vs) depth
    exact .cons depth (reads_pretty whole.1 depth) (begins_itemLines whole.2.1 depth) others

theorem reads_fieldLines : ∀ {fields : List (String × Value)}, fieldsWhole fields → fields ≠ [] →
    ∀ depth : Nat, ∃ next, fieldLines depth fields = '"' :: next ∧
      ReadsFields next (Doc.ofFields fields)
  | [], _, h, _ => absurd rfl h
  | [(k, v)], whole, _, depth =>
    ⟨_, fieldLines_singleton depth k v, .singleton k (reads_pretty whole.1 depth)⟩
  | (k, v) :: f :: fs, whole, _, depth => by
    obtain ⟨next, heq, others⟩ := reads_fieldLines whole.2 (List.cons_ne_nil f fs) depth
    refine ⟨_, (fieldLines_cons_cons depth k v f fs).trans ?_,
      .cons depth k (reads_pretty whole.1 depth) others⟩
    rw [heq]
    simp only [fieldLine, List.cons_append, List.append_assoc]

end

end Reader

/-- **A shape is read from a text that was written as from the value.** -/
theorem readText_pretty {α : Type} (read : Origin → Doc → Except Fault α) {v : Value}
    (whole : v.IsWhole) : readText read (v.pretty 0) = read (.text nestingLimit) (Doc.ofValue v) := by
  have value := Reader.reads_pretty whole 0 (2 * (v.pretty 0).toList.length + 1) [] (by omega) trivial
  rw [List.append_nil] at value
  unfold readText
  dsimp only
  rw [value]
  exact bind_pure _

end StatusWall.Json
