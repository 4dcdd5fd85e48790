import StatusWall.Document.Dashboard
import StatusWall.Proofs.Json.Doc

/-!
# Documents that can be written

A double that is not finite has no spelling in a document. A board is `Writable` if the numbers of its
elements are finite and their options are in order, and every board that was read is
(`Dashboard.writable_of_read`): the numbers of a document are finite, and so are the ones that stand
in for those it leaves out.
-/

namespace StatusWall

open Json StatusWall.Geometry

section

variable {α : Type} [Scalar α]

/-- The four numbers of a rectangle are finite. -/
structure Geometry.Rect.Finite (r : Rect α) : Prop where
  x : isFinite r.x = true
  y : isFinite r.y = true
  w : isFinite r.w = true
  h : isFinite r.h = true

/-- The numbers of an element are finite. -/
structure Element.Finite (e : Element α) : Prop where
  rect : e.rect.Finite
  rotation : isFinite e.rotation = true

end

/-- The element can be written: it has finite numbers, and its options are in order. -/
structure Element.Writable (e : Element Float) : Prop extends e.Finite where
  options : (Value.object e.options).Canonical

/-- Each element of the board can be written. -/
def Dashboard.Writable (d : Dashboard Float) : Prop := ∀ e ∈ d.elements, e.Writable

namespace Element

open Doc

/-! ## Rectangles -/

/-- The numbers met so far are finite. -/
structure RectPlaces.Finite (p : RectPlaces) : Prop where
  x : Holds (·.isFinite = true) p.x
  y : Holds (·.isFinite = true) p.y
  w : Holds (·.isFinite = true) p.w
  h : Holds (·.isFinite = true) p.h

theorem RectPlaces.Finite.meet {p p' : RectPlaces} (hp : p.Finite) {k : String} {d : Doc}
    (hd : d.InRange) (h : p.meet k d = .ok p') : p'.Finite := by
  have filled {place filled : Option Float} (h : fill k place d.asFloat = .ok filled) :
      Holds (·.isFinite = true) filled := holds_of_fill (fun _ => hd.isFinite_of_asFloat) h
  unfold RectPlaces.meet at h
  split at h
  · obtain ⟨x, hx, h⟩ := bind_eq_ok.mp h
    exact Except.ok.inj h ▸ { hp with x := filled hx }
  · split at h
    · obtain ⟨y, hy, h⟩ := bind_eq_ok.mp h
      exact Except.ok.inj h ▸ { hp with y := filled hy }
    · split at h
      · obtain ⟨w, hw, h⟩ := bind_eq_ok.mp h
        exact Except.ok.inj h ▸ { hp with w := filled hw }
      · split at h
        · obtain ⟨h', hh, h⟩ := bind_eq_ok.mp h
          exact Except.ok.inj h ▸ { hp with h := filled hh }
        · obtain ⟨_, -, h⟩ := bind_eq_ok.mp h
          exact Except.ok.inj h ▸ hp

theorem finite_of_nextNumber {count : Nat} {items rest : List Doc} {fin : Except Fault Unit} {x : Float}
    (hitems : ItemsInRange items) (h : nextNumber count items fin = .ok (x, rest)) :
    x.isFinite = true ∧ ItemsInRange rest := by
  obtain ⟨⟨x?, rest⟩, hnext, h⟩ := bind_eq_ok.mp h
  obtain ⟨hx, hrest⟩ := holds_of_nextItem (fun _ _ hd => hd.isFinite_of_asFloat) hitems hnext
  cases x? with
  | none => cases h
  | some x =>
    cases h
    exact ⟨hx, hrest⟩

theorem finite_of_readRect {origin : Origin} {d : Doc} (hd : d.InRange) {r : Rect Float}
    (h : readRect origin d = .ok r) : r.Finite := by
  cases d with
  | object fields fin =>
    obtain ⟨_, -, h⟩ := bind_eq_ok.mp h
    obtain ⟨p, hp, h⟩ := bind_eq_ok.mp h
    obtain ⟨_, -, h⟩ := bind_eq_ok.mp h
    obtain ⟨x, hx, h⟩ := bind_eq_ok.mp h
    obtain ⟨y, hy, h⟩ := bind_eq_ok.mp h
    obtain ⟨w, hw, h⟩ := bind_eq_ok.mp h
    obtain ⟨h', hh, h⟩ := bind_eq_ok.mp h
    have empty : RectPlaces.Finite {} := ⟨trivial, trivial, trivial, trivial⟩
    have finite : p.Finite :=
      foldFields_induction (fun _ _ _ _ hd hp h => hp.meet hd h) hd empty hp
    exact Except.ok.inj h ▸ ⟨holds_of_require finite.x hx, holds_of_require finite.y hy,
      holds_of_require finite.w hw, holds_of_require finite.h hh⟩
  | array items fin =>
    obtain ⟨_, -, h⟩ := bind_eq_ok.mp h
    obtain ⟨⟨x, rest⟩, hx, h⟩ := bind_eq_ok.mp h
    obtain ⟨⟨y, rest⟩, hy, h⟩ := bind_eq_ok.mp h
    obtain ⟨⟨w, rest⟩, hw, h⟩ := bind_eq_ok.mp h
    obtain ⟨⟨h', rest⟩, hh, h⟩ := bind_eq_ok.mp h
    obtain ⟨_, -, h⟩ := bind_eq_ok.mp h
    obtain ⟨hx, hrest⟩ := finite_of_nextNumber hd hx
    obtain ⟨hy, hrest⟩ := finite_of_nextNumber hrest hy
    obtain ⟨hw, hrest⟩ := finite_of_nextNumber hrest hw
    obtain ⟨hh, hrest⟩ := finite_of_nextNumber hrest hh
    exact Except.ok.inj h ▸ ⟨hx, hy, hw, hh⟩
  | _ => cases h

/-! ## Elements -/

/-- What was met so far of an element can be written. -/
structure Places.Writable (p : Places) : Prop where
  rect : Holds Rect.Finite p.rect
  options : Holds (fun options => (Value.object options).Canonical) p.options
  rotation : Holds (·.isFinite = true) p.rotation

theorem canonical_of_readOptions {origin : Origin} {d : Doc} {options : Fields}
    (h : readOptions origin d = .ok options) : (Value.object options).Canonical := by
  obtain ⟨options?, hread, rfl⟩ := map_eq_ok.mp h
  have read (options : Fields) (h : d.asFields origin = .ok options) :
      (Value.object options).Canonical := by
    cases d with
    | object fields fin =>
      obtain ⟨_, -, h⟩ := bind_eq_ok.mp h
      obtain ⟨pairs, hpairs, h⟩ := bind_eq_ok.mp h
      obtain ⟨_, -, h⟩ := bind_eq_ok.mp h
      exact Except.ok.inj h ▸ Fields.canonical_ofList (canonicalFields_of_toPairs hpairs)
    | _ => cases h
  exact (holds_of_optional read hread).getD ⟨List.Pairwise.nil, trivial⟩

theorem Places.Writable.meet {inner : Origin} {p p' : Places} (hp : p.Writable) {k : String} {d : Doc}
    (hd : d.InRange) (h : p.meet inner k d = .ok p') : p'.Writable := by
  unfold Places.meet at h
  split at h
  · obtain ⟨_, -, h⟩ := bind_eq_ok.mp h
    exact Except.ok.inj h ▸ { hp with }
  · split at h
    · obtain ⟨_, -, h⟩ := bind_eq_ok.mp h
      exact Except.ok.inj h ▸ { hp with }
    · split at h
      · obtain ⟨rect, hrect, h⟩ := bind_eq_ok.mp h
        exact Except.ok.inj h ▸ { hp with rect := holds_of_fill (fun _ => finite_of_readRect hd) hrect }
      · split at h
        · obtain ⟨options, hoptions, h⟩ := bind_eq_ok.mp h
          exact Except.ok.inj h ▸
            { hp with options := holds_of_fill (fun _ => canonical_of_readOptions) hoptions }
        · split at h
          · obtain ⟨rotation, hrotation, h⟩ := bind_eq_ok.mp h
            exact Except.ok.inj h ▸
              { hp with rotation := holds_of_fill (fun _ => hd.isFinite_of_asFloat) hrotation }
          · obtain ⟨_, -, h⟩ := bind_eq_ok.mp h
            exact Except.ok.inj h ▸ hp

/-- What stands in for the fields that are left out can be written too. -/
theorem Places.Writable.element {p : Places} (hp : p.Writable) {e : Element Float}
    (h : p.element = .ok e) : e.Writable := by
  obtain ⟨kind, -, h⟩ := bind_eq_ok.mp h
  have default : (defaultRect : Rect Float).Finite := ⟨by decide, by decide, by decide, by decide⟩
  exact Except.ok.inj h ▸
    { rect := hp.rect.getD default
      rotation := hp.rotation.getD (by decide)
      options := hp.options.getD ⟨List.Pairwise.nil, trivial⟩ }

theorem writable_of_read {origin : Origin} {d : Doc} (hd : d.InRange) {e : Element Float}
    (h : read origin d = .ok e) : e.Writable := by
  cases d with
  | object fields fin =>
    obtain ⟨_, -, h⟩ := bind_eq_ok.mp h
    obtain ⟨p, hp, h⟩ := bind_eq_ok.mp h
    obtain ⟨_, -, h⟩ := bind_eq_ok.mp h
    have empty : Places.Writable {} := ⟨trivial, trivial, trivial⟩
    have writable : p.Writable :=
      foldFields_induction (fun _ _ _ _ hd hp h => hp.meet hd h) hd empty hp
    exact writable.element h
  | array items fin =>
    obtain ⟨_, -, h⟩ := bind_eq_ok.mp h
    obtain ⟨⟨kind, rest⟩, hkind, h⟩ := bind_eq_ok.mp h
    cases kind with
    | none => cases h
    | some kind =>
      obtain ⟨⟨title, rest⟩, htitle, h⟩ := bind_eq_ok.mp h
      obtain ⟨⟨rect, rest⟩, hrect, h⟩ := bind_eq_ok.mp h
      obtain ⟨⟨options, rest⟩, hoptions, h⟩ := bind_eq_ok.mp h
      obtain ⟨⟨rotation, rest⟩, hrotation, h⟩ := bind_eq_ok.mp h
      obtain ⟨_, -, h⟩ := bind_eq_ok.mp h
      have any {α : Type} {read : Doc → Except Fault α} (d : Doc) (a : α) (_ : d.InRange)
          (_ : read d = .ok a) : True := trivial
      obtain ⟨-, hrest⟩ := holds_of_nextItem any hd hkind
      obtain ⟨-, hrest⟩ := holds_of_nextItem any hrest htitle
      obtain ⟨hrect, hrest⟩ := holds_of_nextItem (fun _ _ hd => finite_of_readRect hd) hrest hrect
      obtain ⟨hoptions, hrest⟩ :=
        holds_of_nextItem (fun _ _ _ => canonical_of_readOptions) hrest hoptions
      obtain ⟨hrotation, -⟩ :=
        holds_of_nextItem (fun _ _ hd => hd.isFinite_of_asFloat) hrest hrotation
      exact Places.Writable.element ⟨hrect, hoptions, hrotation⟩ h
  | _ => cases h

end Element

/-! ## Boards -/

namespace Dashboard

open Doc

/-- The elements met so far can be written. -/
def Places.Writable (p : Places) : Prop := Holds (fun elements => ∀ e ∈ elements, e.Writable) p.elements

theorem Places.Writable.meet {inner : Origin} {p p' : Places} (hp : p.Writable) {k : String} {d : Doc}
    (hd : d.InRange) (h : p.meet inner k d = .ok p') : p'.Writable := by
  unfold Places.meet at h
  iterate 6
    split at h
    · obtain ⟨_, -, h⟩ := bind_eq_ok.mp h
      exact Except.ok.inj h ▸ hp
  split at h
  · obtain ⟨elements, helements, h⟩ := bind_eq_ok.mp h
    refine Except.ok.inj h ▸ holds_of_fill (fun elements h => ?_) helements
    obtain ⟨elements?, hread, rfl⟩ := map_eq_ok.mp h
    have read (elements : List (Element Float)) (h : d.asList inner Element.read = .ok elements) :
        ∀ e ∈ elements, e.Writable :=
      forall_of_asList (fun _ _ _ hd => Element.writable_of_read hd) hd h
    exact (holds_of_optional read hread).getD (List.forall_mem_nil _)
  · split at h
    · obtain ⟨_, -, h⟩ := bind_eq_ok.mp h
      exact Except.ok.inj h ▸ hp
    · obtain ⟨_, -, h⟩ := bind_eq_ok.mp h
      exact Except.ok.inj h ▸ hp

/-- **A board that was read can be written.** -/
theorem writable_of_read {origin : Origin} {doc : Doc} (hdoc : doc.InRange) {d : Dashboard Float}
    (h : read origin doc = .ok d) : d.Writable := by
  cases doc with
  | object fields fin =>
    obtain ⟨_, -, h⟩ := bind_eq_ok.mp h
    obtain ⟨p, hp, h⟩ := bind_eq_ok.mp h
    obtain ⟨_, -, h⟩ := bind_eq_ok.mp h
    obtain ⟨sounds, -, h⟩ := bind_eq_ok.mp h
    have empty : Places.Writable {} := trivial
    have writable : p.Writable :=
      foldFields_induction (fun _ _ _ _ hd hp h => hp.meet hd h) hdoc empty hp
    exact Except.ok.inj h ▸ writable.getD (List.forall_mem_nil _)
  | _ => cases h

end Dashboard

end StatusWall
