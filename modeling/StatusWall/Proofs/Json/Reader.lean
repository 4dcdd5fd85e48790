import StatusWall.Json.Reader
import StatusWall.Proofs.Json.Doc

/-!
# Numbers in texts

Whatever the text, each number of the document it spells is one that JSON has
(`inRange_readValue`): the strict reading refuses the others.
-/

namespace StatusWall

/-- A literal whose nearest double is infinite has no value. -/
theorem Decimal.Literal.isFinite_of_toFloat? {l : Decimal.Literal} {x : Float}
    (h : l.toFloat? = some x) : x.isFinite = true := by
  unfold toFloat? at h
  extract_lets magnitude at h
  split at h
  · next hfinite =>
    obtain rfl := Option.some.inj h
    split
    · exact Double.isFinite_neg hfinite
    · exact hfinite
  · cases h

namespace Json

namespace Reader

open Doc

/-- A numeral has a value in one of three ways: a natural number below 2 ^ 64, a negative whole
number from -2 ^ 63 on, or a finite double. -/
theorem NumberParts.inRange_of_value {negative : Bool} {p : NumberParts} {n : Number}
    (h : p.value negative = .ok n) : n.InRange := by
  unfold value at h
  extract_lets whole literal at h
  split at h
  · next hnatural => exact Except.ok.inj h ▸ hnatural.2.2
  · split at h
    · next hnegative => exact Except.ok.inj h ▸ hnegative.2.2.2
    · split at h
      · next x hx => exact Except.ok.inj h ▸ Decimal.Literal.isFinite_of_toFloat? hx
      · cases h

/-- A numeral that has no value makes the number a broken lexeme, of which nothing is asked. -/
theorem inRange_scanNumber (cs : List Char) : (Doc.number (scanNumber cs).1).InRange := by
  intro n hn
  unfold scanNumber at hn
  split at hn
  split at hn
  · exact NumberParts.inRange_of_value hn
  · cases hn

/-- A misspelled word leaves a stop in the place of the document. -/
theorem inRange_scanWord {d : Doc} (hd : d.InRange) (word cs : List Char) :
    (scanWord word d cs).1.InRange := by
  induction word generalizing cs with
  | nil =>
    unfold scanWord
    exact hd
  | cons w word ih =>
    cases cs with
    | nil =>
      unfold scanWord
      trivial
    | cons c cs =>
      unfold scanWord
      by_cases hc : w = c
      · simp only [hc, ↓reduceIte]
        exact ih cs
      · simp only [hc, ↓reduceIte]
        trivial

section

variable {fuel : Nat} (value : ∀ cs, (readValue fuel cs).1.InRange)

/-- One level of nesting; what is inside was read with less fuel. -/
theorem inRange_readValue_succ (items : ∀ cs, ItemsInRange (readItems fuel cs).1)
    (fields : ∀ cs, FieldsInRange (readFields fuel cs).1) (cs : List Char) :
    (readValue (fuel + 1) cs).1.InRange := by
  unfold readValue
  split
  · trivial
  · exact inRange_scanWord (show Doc.null.InRange from trivial) _ _
  · exact inRange_scanWord (show (Doc.bool true).InRange from trivial) _ _
  · exact inRange_scanWord (show (Doc.bool false).InRange from trivial) _ _
  · trivial
  · split
    · trivial
    · trivial
    · exact items _
  · split
    · trivial
    · trivial
    · exact fields _
    · trivial
  · split
    · exact inRange_scanNumber _
    · trivial

include value

/-- One item, and the items after it. Of a list that breaks off the items up to there are kept. -/
theorem inRange_readItems_succ (items : ∀ cs, ItemsInRange (readItems fuel cs).1) (cs : List Char) :
    ItemsInRange (readItems (fuel + 1) cs).1 := by
  unfold readItems
  dsimp only
  split
  · exact ⟨value _, trivial⟩
  · split
    · exact ⟨value _, trivial⟩
    · exact ⟨value _, trivial⟩
    · split
      · exact ⟨value _, trivial, trivial⟩
      · exact ⟨value _, trivial, trivial⟩
      · exact ⟨value _, items _⟩
    · exact ⟨value _, trivial⟩

/-- One field, and the fields after it; a key is no number. -/
theorem inRange_readFields_succ (fields : ∀ cs, FieldsInRange (readFields fuel cs).1)
    (cs : List Char) : FieldsInRange (readFields (fuel + 1) cs).1 := by
  unfold readFields
  generalize scanString {} cs = scanned
  obtain ⟨key, rest⟩ := scanned
  dsimp only
  split
  · exact ⟨trivial, trivial⟩
  · split
    · exact ⟨trivial, trivial⟩
    · split
      · exact ⟨value _, trivial⟩
      · split
        · exact ⟨value _, trivial⟩
        · exact ⟨value _, trivial⟩
        · split
          · exact ⟨value _, trivial, trivial⟩
          · exact ⟨value _, fields _⟩
          · exact ⟨value _, trivial, trivial⟩
        · exact ⟨value _, trivial⟩
    · exact ⟨trivial, trivial⟩

end

/-- **Each number that a text spells is one that JSON has.** -/
theorem inRange_readValue (fuel : Nat) (cs : List Char) : (readValue fuel cs).1.InRange := by
  have all (fuel : Nat) : (∀ cs, (readValue fuel cs).1.InRange) ∧
      (∀ cs, ItemsInRange (readItems fuel cs).1) ∧ ∀ cs, FieldsInRange (readFields fuel cs).1 := by
    induction fuel with
    | zero =>
      unfold readValue readItems readFields
      exact ⟨fun _ => trivial, fun _ => trivial, fun _ => trivial⟩
    | succ fuel ih =>
      obtain ⟨value, items, fields⟩ := ih
      exact ⟨inRange_readValue_succ items fields, inRange_readItems_succ value items,
        inRange_readFields_succ value fields⟩
  exact (all fuel).1 cs

end Reader

/-- What a text is read as was read from a document whose numbers are in range. -/
theorem inRange_of_readText {α : Type} {read : Origin → Doc → Except Fault α} {text : String} {a : α}
    (h : readText read text = .ok a) :
    ∃ d : Doc, d.InRange ∧ read (.text nestingLimit) d = .ok a := by
  have hdoc := Reader.inRange_readValue (2 * text.toList.length + 2) text.toList
  simp only [readText] at h
  generalize Reader.readValue (2 * text.toList.length + 2) text.toList = doc at h hdoc
  obtain ⟨d, rest⟩ := doc
  obtain ⟨b, hread, h⟩ := bind_eq_ok.mp h
  have hb : b = a := by
    split at h
    · cases h
    · split at h
      · exact Except.ok.inj h
      · cases h
  exact ⟨d, hdoc, hb ▸ hread⟩

end Json

end StatusWall
