import StatusWall.Json.Fault

/-!
# Documents as they are met

A shape (a board, a settings file) is read from front to back, and the first thing that does not
fit decides the answer, whether that is a value of the wrong kind or a brace that is missing. So the
reader of a text does not stop at its first fault. It hands over a tree, `Doc`, that ends at the
fault; whoever walks the tree meets misfits and the fault in the order of the text.

Two ways of walking exist. A value that is wanted is read strictly: its numbers must be in range,
its escapes must pair up, and containers must not nest too deeply. A value under a key nobody asked
for is only passed over, and of those rules none applies. A leaf therefore keeps both verdicts.

A value that was never text is a `Doc` too (`Doc.ofValue`): nothing in it can fail.
-/

namespace StatusWall.Json

/-- A leaf of a text under both readings: the strict one, which yields its content, and the loose
one, which only finds its end. -/
structure Lexeme (α : Type) where
  strict : Except Fault α
  loose : Except Fault Unit

/-- A leaf that is sound under both readings. -/
def Lexeme.sound {α : Type} (a : α) : Lexeme α := ⟨.ok a, .ok ()⟩

/-- A document in the order it is met. -/
inductive Doc where
  /-- Reading cannot go on from here. -/
  | stop (fault : Fault)
  | null
  | bool (b : Bool)
  | number (n : Lexeme Number)
  | text (s : Lexeme String)
  /-- The items, and what was met in place of the closing bracket, if it is missing. -/
  | array (items : List Doc) (fin : Except Fault Unit)
  | object (fields : List (Lexeme String × Doc)) (fin : Except Fault Unit)
  deriving Inhabited

/-- Where a document comes from, and how many containers may still be opened. -/
inductive Origin where
  /-- From a text; so many containers may still be opened. -/
  | text (room : Nat)
  /-- From a value. -/
  | value

/-- A text may nest so many containers where its content is read. -/
def nestingLimit : Nat := 127

/-- Enters a container. -/
def Origin.enter : Origin → Except Fault Origin
  | .text 0 => .error .malformed
  | .text (room + 1) => .ok (.text room)
  | .value => .ok .value

namespace Doc

mutual

/-- A value, met as a document. -/
def ofValue : Value → Doc
  | .null => .null
  | .bool b => .bool b
  | .number n => .number (.sound n)
  | .text s => .text (.sound s)
  | .array items => .array (ofItems items) (.ok ())
  | .object fields => .object (ofFields fields) (.ok ())

def ofItems : List Value → List Doc
  | [] => []
  | v :: rest => ofValue v :: ofItems rest

def ofFields : List (String × Value) → List (Lexeme String × Doc)
  | [] => []
  | (k, v) :: rest => (.sound k, ofValue v) :: ofFields rest

end

mutual

/-- Passes over a value nobody asked for. -/
def skip : Doc → Except Fault Unit
  | .stop fault => .error fault
  | .null => .ok ()
  | .bool _ => .ok ()
  | .number n => n.loose
  | .text s => s.loose
  | .array items fin => do skipItems items; fin
  | .object fields fin => do skipFields fields; fin

def skipItems : List Doc → Except Fault Unit
  | [] => .ok ()
  | d :: rest => do skip d; skipItems rest

def skipFields : List (Lexeme String × Doc) → Except Fault Unit
  | [] => .ok ()
  | (key, d) :: rest => do key.loose; skip d; skipFields rest

end

mutual

/-- Reads a value of any kind. Of a repeated key the last value stays. -/
def toValue (origin : Origin) : Doc → Except Fault Value
  | .stop fault => .error fault
  | .null => .ok .null
  | .bool b => .ok (.bool b)
  | .number n => n.strict.map .number
  | .text s => s.strict.map .text
  | .array items fin => do
    let origin ← origin.enter
    let items ← toValues origin items
    fin
    return .array items
  | .object fields fin => do
    let origin ← origin.enter
    let pairs ← toPairs origin fields
    fin
    return .object (Fields.ofList pairs)

def toValues (origin : Origin) : List Doc → Except Fault (List Value)
  | [] => .ok []
  | d :: rest => do
    let v ← toValue origin d
    let vs ← toValues origin rest
    return v :: vs

def toPairs (origin : Origin) : List (Lexeme String × Doc) → Except Fault (List (String × Value))
  | [] => .ok []
  | (key, d) :: rest => do
    let k ← key.strict
    let v ← toValue origin d
    let vs ← toPairs origin rest
    return (k, v) :: vs

end

/-! ## Leaves of a wanted kind -/

/-- The fault of a document that is not of the wanted kind. A leaf is read before it is refused,
so its own faults come first. -/
def unfit (d : Doc) (wanted : String) : Fault :=
  let kind := fun found => Fault.misfit (.wrongKind found wanted)
  match d with
  | .stop fault => fault
  | .null => kind .null
  | .bool b => kind (.bool b)
  | .number n =>
    match n.strict with
    | .ok n => kind (.number n)
    | .error fault => fault
  | .text s =>
    match s.strict with
    | .ok s => kind (.text s)
    | .error fault => fault
  | .array _ _ => kind .sequence
  | .object _ _ => kind .map

/-- A text. -/
def asText : Doc → Except Fault String
  | .text s => s.strict
  | d => .error (d.unfit "a string")

/-- A truth value. -/
def asBool : Doc → Except Fault Bool
  | .bool b => .ok b
  | d => .error (d.unfit "a boolean")

/-- A double; integers are rounded to one. -/
def asFloat : Doc → Except Fault Float
  | .number n => n.strict.map Number.toFloat
  | d => .error (d.unfit "f64")

/-- A natural number up to a limit, called `wanted` in messages. -/
def asNatural (limit : Nat) (wanted : String) : Doc → Except Fault Nat
  | .number n =>
    n.strict.bind fun
      | .natural n =>
        if n ≤ limit then .ok n
        else .error (.misfit (.outOfRange (.number (.natural n)) wanted))
      | .negative n => .error (.misfit (.outOfRange (.number (.negative n)) wanted))
      | .real x => .error (.misfit (.wrongKind (.number (.real x)) wanted))
  | d => .error (d.unfit wanted)

/-- A signed 64-bit integer. -/
def asInteger : Doc → Except Fault Int
  | .number n =>
    n.strict.bind fun
      | .natural n =>
        if n < Number.lowest then .ok n
        else .error (.misfit (.outOfRange (.number (.natural n)) "i64"))
      | .negative n => .ok (-n)
      | .real x => .error (.misfit (.wrongKind (.number (.real x)) "i64"))
  | d => .error (d.unfit "i64")

/-- Null in place of a value stands for its absence. -/
def optional {α : Type} (read : Doc → Except Fault α) : Doc → Except Fault (Option α)
  | .null => .ok none
  | d => (read d).map some

/-! ## Containers of a wanted kind -/

/-- Reads a list, item by item. -/
def readItems {α : Type} (read : Doc → Except Fault α) : List Doc → Except Fault (List α)
  | [] => .ok []
  | d :: rest => do
    let a ← read d
    let as ← readItems read rest
    return a :: as

/-- A list of values of one shape. -/
def asList {α : Type} (origin : Origin) (read : Origin → Doc → Except Fault α) :
    Doc → Except Fault (List α)
  | .array items fin => do
    let origin ← origin.enter
    let as ← readItems (read origin) items
    fin
    return as
  | d => .error (d.unfit "a sequence")

/-- A map from keys to values of any kind. -/
def asFields (origin : Origin) : Doc → Except Fault Fields
  | .object fields fin => do
    let origin ← origin.enter
    let pairs ← toPairs origin fields
    fin
    return Fields.ofList pairs
  | d => .error (d.unfit "a map")

/-- Feeds the fields of an object to `step`, one after the other. -/
def foldFields {σ : Type} (step : σ → String → Doc → Except Fault σ) :
    σ → List (Lexeme String × Doc) → Except Fault σ
  | s, [] => .ok s
  | s, (key, d) :: rest => do
    let k ← key.strict
    let s ← step s k d
    foldFields step s rest

/-- Fills the place of a field. A field may be given once. -/
def fill {α : Type} (name : String) (place : Option α) (read : Except Fault α) :
    Except Fault (Option α) :=
  match place with
  | some _ => .error (.misfit (.repeated name))
  | none => read.map some

/-- The content of a field that has no default. -/
def require {α : Type} (name : String) : Option α → Except Fault α
  | some a => .ok a
  | none => .error (.misfit (.missing name))

/-- The next field of a record given as a list: what was met in place of the closing bracket comes
first once the items have run out. -/
def nextItem {α : Type} (read : Doc → Except Fault α) (items : List Doc) (fin : Except Fault Unit) :
    Except Fault (Option α × List Doc) :=
  match items with
  | [] => do fin; return (none, [])
  | d :: rest => do
    let a ← read d
    return (some a, rest)

/-- The end of a record given as a list of `count` fields. Items left over are refused. -/
def endItems (origin : Origin) (count : Nat) (rest : List Doc) (fin : Except Fault Unit) :
    Except Fault Unit :=
  match rest, origin with
  | [], _ => fin
  | _ :: _, .text _ => .error .malformed
  | _ :: _, .value =>
    .error (.misfit (.wrongLength (count + rest.length) "fewer elements in array"))

/-- The name of a variant without content: the name itself, or an object with the name as its only
key and null under it. -/
def asVariant (origin : Origin) (choose : String → Except Fault α) : Doc → Except Fault α
  | .text s => s.strict.bind choose
  | .object fields fin =>
    let content (d : Doc) : Except Fault Unit :=
      match d with
      | .null => .ok ()
      | d => .error (d.unfit "unit")
    match origin with
    | .text _ => do
      let _ ← origin.enter
      match fields with
      | [] => do fin; .error .malformed
      | (key, d) :: rest => do
        let a ← key.strict.bind choose
        content d
        if rest.isEmpty then fin else .error .malformed
        return a
    | .value =>
      match fields with
      | [(key, d)] => do
        let a ← key.strict.bind choose
        content d
        return a
      | _ => .error (.misfit (.outOfRange .map "map with a single key"))
  | .stop fault => .error fault
  | d =>
    match origin with
    | .text _ => .error .malformed
    | .value => .error (d.unfit "string or map")

end Doc

end StatusWall.Json
