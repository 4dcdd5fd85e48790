import StatusWall.Decimal.Layout

/-!
# JSON values

A JSON value as the program keeps it. Integers stay integers as long as they fit the unsigned or
the signed 64-bit range; every other number is a double. An object is a list of fields in ascending
key order without repetitions: `Fields.put` keeps it so, and `Value.Canonical` says so of a
whole tree.
-/

namespace StatusWall.Json

/-- A JSON number. -/
inductive Number where
  /-- An integer from zero up to the unsigned 64-bit limit. -/
  | natural (n : Nat)
  /-- An integer below zero down to the signed 64-bit limit: minus the given number. -/
  | negative (n : Nat)
  | real (x : Float)
  deriving Inhabited

/-- A JSON value. -/
inductive Value where
  | null
  | bool (b : Bool)
  | number (n : Number)
  | text (s : String)
  | array (items : List Value)
  | object (fields : List (String × Value))
  deriving Inhabited

/-- The fields of an object. -/
abbrev Fields := List (String × Value)

namespace Fields

/-- The value under a key. -/
def get? (fields : Fields) (key : String) : Option Value :=
  match fields with
  | [] => none
  | (k, v) :: rest => if k = key then some v else get? rest key

/-- Stores a value under a key: in place of the key's old value, else where the key sorts. -/
def put (fields : Fields) (key : String) (value : Value) : Fields :=
  match fields with
  | [] => [(key, value)]
  | (k, v) :: rest =>
    if k = key then (key, value) :: rest
    else if key < k then (key, value) :: (k, v) :: rest
    else (k, v) :: put rest key value

/-- Forgets a key. -/
def without (fields : Fields) (key : String) : Fields := fields.filter fun f => f.1 ≠ key

/-- Stores the fields of `update` one after the other. -/
def merge (fields update : Fields) : Fields :=
  update.foldl (fun fs f => put fs f.1 f.2) fields

/-- Fields from pairs in any order; of a repeated key the last value stays. -/
def ofList (pairs : List (String × Value)) : Fields := merge [] pairs

/-- The keys are in ascending order, none twice. -/
def Sorted (fields : Fields) : Prop := fields.Pairwise fun a b => a.1 < b.1

theorem get?_put (fields : Fields) (key : String) (value : Value) (k : String) :
    (fields.put key value).get? k = if key = k then some value else fields.get? k := by
  induction fields with
  | nil => simp [put, get?]
  | cons f rest ih =>
    obtain ⟨k', v'⟩ := f
    unfold put
    split
    · next h =>
      subst h
      by_cases hk : k' = k <;> simp [get?, hk]
    · next h =>
      split
      · by_cases hk : key = k <;> simp [get?, hk]
      · simp only [get?, ih]
        by_cases hk' : k' = k
        · have hne : key ≠ k := fun e => h (hk'.trans e.symm)
          rw [if_pos hk', if_neg hne, if_pos hk']
        · simp [hk']

theorem get?_without (fields : Fields) (key k : String) :
    (fields.without key).get? k = if key = k then none else fields.get? k := by
  induction fields with
  | nil => simp [without, get?]
  | cons f rest ih =>
    obtain ⟨k', v'⟩ := f
    by_cases h : k' = key
    · have hrest : without ((k', v') :: rest) key = without rest key := by simp [without, h]
      rw [hrest, ih]
      by_cases hk : key = k
      · simp [hk]
      · simp [get?, h, hk]
    · have hrest : without ((k', v') :: rest) key = (k', v') :: without rest key := by
        simp [without, h]
      rw [hrest]
      simp only [get?, ih]
      by_cases hk' : k' = k
      · have hne : key ≠ k := fun e => h (hk'.trans e.symm)
        rw [if_pos hk', if_neg hne, if_pos hk']
      · simp [hk']

end Fields

/-! ## Canonical values -/

mutual

/-- Every object of the tree has its keys in ascending order. -/
def Value.Canonical : Value → Prop
  | .array items => canonicalItems items
  | .object fields => Fields.Sorted fields ∧ canonicalFields fields
  | _ => True

def canonicalItems : List Value → Prop
  | [] => True
  | v :: rest => v.Canonical ∧ canonicalItems rest

def canonicalFields : List (String × Value) → Prop
  | [] => True
  | (_, v) :: rest => v.Canonical ∧ canonicalFields rest

end

/-! ## Numbers -/

/-- The greatest integer that stays an integer. -/
def Number.greatest : Nat := Nat.pow 2 64 - 1

/-- How far below zero an integer stays an integer. -/
def Number.lowest : Nat := Nat.pow 2 63

/-- The double nearest to an integer. -/
def floatOfNat (n : Nat) : Float := Float.ofScientific n false 0

/-- A number as a double. -/
def Number.toFloat : Number → Float
  | .natural n => floatOfNat n
  | .negative n => -floatOfNat n
  | .real x => x

/-- JSON spells a double with the fewest digits that read back, positionally as long as its leading
digit stands between the fifth place behind the point and the sixteenth before it. Whole numbers
keep a `.0`, positive exponents their sign. -/
def numberLayout : Decimal.Layout :=
  { leastPlace := -4, greatestPlace := 16, keepsPoint := true, signsExponent := true }

/-- The spelling of a finite double. -/
def floatText? (x : Float) : Option String :=
  (Decimal.Binary.ofFloat? x).map fun b => numberLayout.write (b.shortest .toEven)

/-- The spelling of a finite single-precision number. -/
def float32Text? (x : Float32) : Option String :=
  (Decimal.Binary.ofFloat32? x).map fun b => numberLayout.write (b.shortest .away)

/-- The spelling of a number; a double that is not finite has none and counts as null. -/
def Number.text : Number → String
  | .natural n => toString n
  | .negative n => "-" ++ toString n
  | .real x => (floatText? x).getD "null"

/-- A double as a JSON value: null unless it is finite. -/
def Value.ofFloat (x : Float) : Value := if x.isFinite then .number (.real x) else .null

end StatusWall.Json
