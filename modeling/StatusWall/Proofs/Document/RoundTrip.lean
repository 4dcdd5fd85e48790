import Mathlib.Data.Multiset.AddSub
import StatusWall.Proofs.Document.Finite
import StatusWall.Proofs.Document.Overlay
import StatusWall.Proofs.Json.Reader

/-!
# Boards written and read back

What is written is read back: an element by `Element.read_toJson`, a board by `Dashboard.read_toJson`.
A board's fields are written in order, the sounds that are given between the others
(`Dashboard.toJson_eq`), so they are met in order too: the sounds among them are put aside, and looked
for by their keys once everything was met.

A board can be written if its numbers are finite and its options are in order. Each board that was read
is such a board, whether it came from a value or from a text, so reading, writing and reading again
yields the same board (`Dashboard.documents_round_trip`). What is compared are values. That the spelling
of a value spells that value is not part of this.
-/

namespace StatusWall

open Json StatusWall.Geometry

theorem Json.Value.ofFloat_of_finite {x : Float} (h : x.isFinite = true) :
    Value.ofFloat x = .number (.real x) := if_pos h

namespace Element

theorem readRect_rectToJson {r : Rect Float} (h : r.Finite) :
    readRect .value (.ofValue (rectToJson r)) = .ok r := by
  unfold rectToJson
  rw [Value.ofFloat_of_finite h.x, Value.ofFloat_of_finite h.y, Value.ofFloat_of_finite h.w,
    Value.ofFloat_of_finite h.h]
  rfl

theorem readOptions_object {options : Fields} (h : (Value.object options).Canonical) :
    readOptions .value (.ofValue (.object options)) = .ok options := by
  show ((Doc.toPairs .value (Doc.ofFields options) >>= fun pairs => pure (Fields.ofList pairs)).map
    some).map (·.getD []) = .ok options
  rw [Doc.toPairs_ofFields h.2]
  exact congrArg Except.ok h.1.ofList_eq

theorem read_wireName (k : ElementKind) :
    ElementKind.read .value (.ofValue (.text k.wireName)) = .ok k := by
  unfold ElementKind.read
  simp only [Doc.ofValue, Doc.asVariant, Lexeme.sound, Except.bind, ElementKind.ofWireName?_wireName]

/-- **An element that is written is read back.** -/
theorem read_toJson {e : Element Float} (h : e.Writable) : read .value (.ofValue e.toJson) = .ok e := by
  have options := Doc.fill_none "options" (readOptions_object h.options)
  have rect := Doc.fill_none "rect" (readRect_rectToJson h.rect)
  have kind := Doc.fill_none "type" (read_wireName e.kind)
  have fold : Doc.foldFields (Places.meet .value) {} (Doc.ofFields
      [("options", .object e.options), ("rect", rectToJson e.rect),
       ("rotation", .number (.real e.rotation)), ("title", .text e.title),
       ("type", .text e.kind.wireName)]) =
      .ok { kind := some e.kind, title := some e.title, rect := some e.rect
            options := some e.options, rotation := some e.rotation } := by
    rw [Doc.foldFields_cons (congrArg (· >>= _) options), Doc.foldFields_cons (congrArg (· >>= _) rect),
      Doc.foldFields_cons rfl, Doc.foldFields_cons rfl, Doc.foldFields_cons (congrArg (· >>= _) kind)]
    rfl
  unfold toJson
  rw [Value.ofFloat_of_finite h.rotation]
  exact congrArg (· >>= Places.element) fold

end Element

/-! ## Sounds -/

namespace SoundSet

/-- The fields of some of the states. -/
def fieldsOf (sounds : SoundSet) (states : List CheckState) : Fields :=
  states.filterMap fun s => (sounds.entry s).map fun url => (key s, Value.text url)

variable {sounds : SoundSet}

theorem fieldsOf_append (states more : List CheckState) :
    sounds.fieldsOf (states ++ more) = sounds.fieldsOf states ++ sounds.fieldsOf more :=
  List.filterMap_append

theorem keys_fieldsOf (states : List CheckState) :
    ((sounds.fieldsOf states).map Prod.fst).Sublist (states.map key) := by
  unfold fieldsOf
  induction states with
  | nil => exact .refl _
  | cons s states ih =>
    rw [List.filterMap_cons]
    cases sounds.entry s with
    | none => exact .cons _ ih
    | some url => exact .cons_cons _ ih

/-- The field of a state fills the state's place, if it is given. -/
theorem ofFields_fieldsOf_cons {s : CheckState} (states : List CheckState) {places : Places}
    (h : places s = none) : ofFields (sounds.fieldsOf (s :: states)) places =
      ofFields (sounds.fieldsOf states) fun t =>
        if t = s then (sounds.entry s).map some else places t := by
  unfold fieldsOf
  rw [List.filterMap_cons]
  cases sounds.entry s with
  | none =>
    refine congrArg (ofFields _) (funext fun t => ?_)
    split
    · next heq => exact heq ▸ h
    · rfl
  | some url =>
    have hmeet : meet places s (.ofValue (.text url)) =
        .ok fun t => if t = s then some (some url) else places t := by
      unfold meet
      rw [h]
      rfl
    rw [Option.map_some, ofFields, stateOfKey?_eq_some_iff.mpr rfl]
    exact congrArg (· >>= ofFields _) hmeet

/-- **The sounds of a set are found under the keys they are written under.** -/
theorem ofFields_fieldsOf {states : List CheckState} (h : states.Nodup) {places : Places}
    (hplaces : ∀ s ∈ states, places s = none) : ofFields (sounds.fieldsOf states) places =
      .ok (ofPlaces fun s => if s ∈ states then (sounds.entry s).map some else places s) := by
  induction states generalizing places with
  | nil => rfl
  | cons s states ih =>
    obtain ⟨hs, hstates⟩ := List.nodup_cons.mp h
    obtain ⟨hempty, hrest⟩ := List.forall_mem_cons.mp hplaces
    have hne (t : CheckState) (ht : t ∈ states) : t ≠ s := ne_of_mem_of_not_mem ht hs
    rw [ofFields_fieldsOf_cons states hempty,
      ih hstates fun t ht => (if_neg (hne t ht)).trans (hrest t ht)]
    refine congrArg (fun places => Except.ok (ofPlaces places)) (funext fun t => ?_)
    by_cases ht : t = s
    · rw [ht, if_neg hs, if_pos rfl, if_pos List.mem_cons_self]
    · simp only [List.mem_cons, ht, false_or, if_false]

theorem ofPlaces_entries (sounds : SoundSet) :
    ofPlaces (fun s => (sounds.entry s).map some) = sounds := by
  have filled (entry : Option String) : (entry.map some).getD none = entry := by cases entry <;> rfl
  unfold ofPlaces
  simp only [filled]
  rfl

end SoundSet

/-! ## Boards -/

namespace Dashboard

/-- The fields of a board in order: the sounds that are given stand between the others. -/
def ordered (d : Dashboard Float) : Fields :=
  [("background", .text d.background)] ++ (d.sounds.fieldsOf [.critical, .down] ++
    ([("elements", .array (d.elements.map Element.toJson)), ("globalMute", .bool d.globalMute),
      ("height", .text d.height)] ++ (d.sounds.fieldsOf [.ok] ++
    ([("slug", .text d.slug), ("tags", .array (d.tags.map .text)), ("title", .text d.title)] ++
    (d.sounds.fieldsOf [.unknown, .up, .warning] ++ [("width", .text d.width)])))))

theorem sorted_ordered (d : Dashboard Float) : Fields.Sorted d.ordered := by
  have keys : (d.ordered.map Prod.fst).Sublist
      ["background", "criticalSound", "downSound", "elements", "globalMute", "height", "okSound",
       "slug", "tags", "title", "unknownSound", "upSound", "warningSound", "width"] := by
    unfold ordered
    simp only [List.map_append]
    exact .append (.refl _) (.append (SoundSet.keys_fieldsOf _) (.append (.refl _)
      (.append (SoundSet.keys_fieldsOf _) (.append (.refl _)
        (.append (SoundSet.keys_fieldsOf _) (.refl _))))))
  exact List.pairwise_map.mp (List.Pairwise.sublist keys (by decide))

/-- The fields of a board are written in order. -/
theorem toJson_eq (d : Dashboard Float) : d.toJson = .object d.ordered := by
  have states : d.sounds.fields.Perm (d.sounds.fieldsOf [.critical, .down] ++
      (d.sounds.fieldsOf [.ok] ++ d.sounds.fieldsOf [.unknown, .up, .warning])) := by
    rw [← SoundSet.fieldsOf_append, ← SoundSet.fieldsOf_append]
    exact List.Perm.filterMap _ (by decide)
  have perm {a b c w x y z : Fields} : (a ++ (x ++ (b ++ (y ++ (c ++ (z ++ w)))))).Perm
      (a ++ (b ++ (c ++ w)) ++ (x ++ (y ++ z))) := by
    refine Multiset.coe_eq_coe.mp ?_
    simp only [← Multiset.coe_add]
    ac_rfl
  have base : Fields.Sorted
      [("background", .text d.background), ("elements", .array (d.elements.map Element.toJson)),
       ("globalMute", .bool d.globalMute), ("height", .text d.height), ("slug", .text d.slug),
       ("tags", .array (d.tags.map .text)), ("title", .text d.title), ("width", .text d.width)] := by
    refine (List.pairwise_map (f := Prod.fst) (R := (· < ·))).mp ?_
    show ["background", "elements", "globalMute", "height", "slug", "tags", "title", "width"].Pairwise
      (· < ·)
    decide
  exact congrArg Value.object
    (base.merge_eq d.sorted_ordered (perm.trans (states.symm.append_left _)))

section Fields

variable {p : Places}

theorem meet_elements (h : p.elements = none) {elements : List (Element Float)}
    (hwritable : ∀ e ∈ elements, e.Writable) :
    p.meet .value "elements" (.ofValue (.array (elements.map Element.toJson))) =
      .ok { p with elements := some elements } := by
  have fill := Doc.fill_asList "elements" Element.read fun e he => Element.read_toJson (hwritable e he)
  rw [← h] at fill
  exact congrArg (· >>= fun filled => pure { p with elements := filled }) fill

theorem meet_tags (h : p.tags = none) (tags : List String) :
    p.meet .value "tags" (.ofValue (.array (tags.map .text))) = .ok { p with tags := some tags } := by
  have item (tag : String) (_ : tag ∈ tags) : Doc.asText (.ofValue (.text tag)) = .ok tag := rfl
  have fill := Doc.fill_asList "tags" (fun _ => Doc.asText) item
  rw [← h] at fill
  exact congrArg (· >>= fun filled => pure { p with tags := filled }) fill

theorem meet_sound (s : CheckState) (v : Value) (h : v.Canonical) :
    p.meet .value (SoundSet.key s) (.ofValue v) =
      .ok { p with others := (SoundSet.key s, v) :: p.others } := by
  have read := congrArg (fun r : Except Fault Value => r >>= fun v =>
    pure { p with others := (SoundSet.key s, v) :: p.others }) (Doc.toValue_ofValue h)
  cases s <;> exact read

end Fields

/-- The sounds that are met are kept for later, last one first. -/
theorem foldFields_fieldsOf (sounds : SoundSet) (states : List CheckState) (p : Places)
    (rest : Fields) :
    Doc.foldFields (Places.meet .value) p (Doc.ofFields (sounds.fieldsOf states ++ rest)) =
      Doc.foldFields (Places.meet .value)
        { p with others := (sounds.fieldsOf states).reverse ++ p.others } (Doc.ofFields rest) := by
  unfold SoundSet.fieldsOf
  induction states generalizing p with
  | nil => rfl
  | cons s states ih =>
    rw [List.filterMap_cons]
    cases sounds.entry s with
    | none => exact ih p
    | some url =>
      rw [Option.map_some, List.cons_append, Doc.foldFields_cons (meet_sound s (.text url) trivial), ih,
        List.reverse_cons, List.append_assoc]
      rfl

/-- The fields that are met in a board that was written. -/
def places (d : Dashboard Float) : Places :=
  { title := some d.title, slug := some d.slug, background := some d.background
    width := some d.width, height := some d.height, tags := some d.tags
    elements := some d.elements, globalMute := some d.globalMute
    others := (d.sounds.fieldsOf [.critical, .down, .ok, .unknown, .up, .warning]).reverse }

theorem foldFields_ordered {d : Dashboard Float} (h : d.Writable) :
    Doc.foldFields (Places.meet .value) {} (Doc.ofFields d.ordered) = .ok d.places := by
  have states : d.places.others =
      (d.sounds.fieldsOf ([.critical, .down] ++ ([.ok] ++ [.unknown, .up, .warning]))).reverse := rfl
  have others : (d.sounds.fieldsOf [.unknown, .up, .warning]).reverse ++
      ((d.sounds.fieldsOf [.ok]).reverse ++ ((d.sounds.fieldsOf [.critical, .down]).reverse ++ [])) =
        d.places.others := by
    rw [states, SoundSet.fieldsOf_append, SoundSet.fieldsOf_append, List.reverse_append,
      List.reverse_append, List.append_nil, List.append_assoc]
  unfold ordered
  refine (Doc.foldFields_cons rfl _).trans ?_
  refine (foldFields_fieldsOf _ _ _ _).trans ?_
  refine (Doc.foldFields_cons (meet_elements rfl h) _).trans ?_
  refine (Doc.foldFields_cons rfl _).trans ?_
  refine (Doc.foldFields_cons rfl _).trans ?_
  refine (foldFields_fieldsOf _ _ _ _).trans ?_
  refine (Doc.foldFields_cons rfl _).trans ?_
  refine (Doc.foldFields_cons (meet_tags rfl d.tags) _).trans ?_
  refine (Doc.foldFields_cons rfl _).trans ?_
  refine (foldFields_fieldsOf _ _ _ _).trans ?_
  refine (Doc.foldFields_cons rfl _).trans ?_
  exact congrArg (fun others => Except.ok { d.places with others }) others

theorem board_places (d : Dashboard Float) : d.places.board = .ok d := by
  let states : List CheckState := [.critical, .down, .ok, .unknown, .up, .warning]
  have all (s : CheckState) : s ∈ states := by cases s <;> decide
  have sounds : SoundSet.ofFields d.places.others.reverse (fun _ => none) = .ok d.sounds := by
    unfold places
    rw [List.reverse_reverse, SoundSet.ofFields_fieldsOf (by decide) fun _ _ => rfl]
    refine congrArg Except.ok (.trans ?_ d.sounds.ofPlaces_entries)
    exact congrArg SoundSet.ofPlaces (funext fun s => if_pos (all s))
  exact congrArg (· >>= fun sounds => pure { d with sounds }) sounds

/-- A board that is written is read back. -/
theorem read_toJson {d : Dashboard Float} (h : d.Writable) : readDoc read d.toJson = .ok d := by
  rw [toJson_eq]
  exact (congrArg (· >>= Places.board) (foldFields_ordered h)).trans d.board_places

/-! ## Round trips -/

/-- What is written of the board is accepted and reads as the board, and writing that yields the same
document again. -/
def Restored (d : Dashboard Float) : Prop :=
  readDoc read d.toJson = .ok d ∧ (readDoc read d.toJson).map toJson = .ok d.toJson

theorem Writable.restored {d : Dashboard Float} (h : d.Writable) : d.Restored :=
  ⟨read_toJson h, congrArg (Except.map toJson) (read_toJson h)⟩

/-- **Boards survive being written.** That holds of each board that can be written, and so of each one
that was read from a value or from a text. -/
theorem documents_round_trip :
    (∀ d : Dashboard Float, d.Writable → d.Restored) ∧
    (∀ (v : Value) (d : Dashboard Float), v.InRange → readDoc read v = .ok d → d.Restored) ∧
    ∀ (text : String) (d : Dashboard Float), readText read text = .ok d → d.Restored := by
  refine ⟨fun d h => h.restored, fun v d hv h => ?_, fun text d h => ?_⟩
  · exact (writable_of_read (Doc.inRange_ofValue hv) h).restored
  · obtain ⟨doc, hdoc, hread⟩ := inRange_of_readText h
    exact (writable_of_read hdoc hread).restored

/-- A wall with a check, a blank sound, and options inside options. -/
def wall : Dashboard Float :=
  { title := "Wall"
    background := "/map.png"
    width := "1920"
    tags := ["noc", ""]
    elements := [
      { kind := .checkCard
        title := "Web"
        rect := { x := 10.0, y := 20.0, w := 30.0, h := 12.0 }
        options := [("levels", .object [("high", .array [.null, .number (.real 0.5)])]),
          ("muteAlerts", .bool true)]
        rotation := 0.5 }]
    sounds := { critical := some "/siren.mp3", up := some " " } }

/-- A board as it was written in former times: a width that is a number, and a list for an element. -/
def formerWall : Value :=
  .object [("width", .number (.natural 1920)), ("elements", .array [.array [.text "clock"]])]

/-- A text with a board. -/
def wallText : String :=
  "\x7b\"elements\": [\x7b\"type\": \"clock\"\x7d], \"okSound\": null\x7d"

/-- One board of each kind. -/
theorem documents_round_trip_walls :
    (wall.Writable ∧ wall.Restored) ∧
    (formerWall.InRange ∧ ∃ d, readDoc read formerWall = .ok d ∧ d.Restored) ∧
    ∃ d, readText read wallText = .ok d ∧ d.Restored := by
  obtain ⟨written, former, texts⟩ := documents_round_trip
  have writable : wall.Writable := by
    intro e he
    obtain rfl := List.mem_singleton.mp he
    exact
      { rect := ⟨by decide, by decide, by decide, by decide⟩
        rotation := by decide
        options := ⟨List.pairwise_pair.mpr (by decide),
          ⟨List.pairwise_singleton _ _, ⟨trivial, trivial, trivial⟩, trivial⟩, trivial, trivial⟩ }
  have width : 1920 ≤ Number.greatest := by decide
  have inRange : formerWall.InRange := ⟨width, ⟨⟨trivial, trivial⟩, trivial⟩, trivial⟩
  have accepted : (readText read wallText).toBool = true := by decide +kernel
  refine ⟨⟨writable, written wall writable⟩, ⟨inRange, _, rfl, former formerWall _ inRange rfl⟩, ?_⟩
  cases h : readText read wallText with
  | error fault =>
    rw [h] at accepted
    cases accepted
  | ok d => exact ⟨d, rfl, texts wallText d h⟩

end Dashboard

end StatusWall
