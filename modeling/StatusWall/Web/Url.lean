import StatusWall.Web.Percent

/-!
# Addresses

The address of something on a web server, and how a text is read as one. Reading is generous: blanks
around the text are dropped, backslashes count as slashes, dots in the path are resolved, and what
may not stand in an address is percent-encoded. Only addresses of web servers can be read; a text
without a scheme has no address, because there is nothing to complete it with.
-/

namespace StatusWall.Web

/-- The address of something on a web server. -/
structure Url where
  /-- Through an encrypted connection. -/
  secure : Bool
  /-- Name and password in front of the host, with the sign that ends them. -/
  credentials : String
  host : String
  /-- The port, unless it is the scheme's own. -/
  port : Option Nat
  /-- The path, with its leading slash. -/
  path : String
  query : Option String := none
  fragment : Option String := none
  deriving DecidableEq, Repr

namespace Url

/-- The scheme's name. -/
def scheme (u : Url) : String := if u.secure then "https" else "http"

/-- The server: its host, and its port if it is not the scheme's own. -/
def server (u : Url) : String :=
  u.host ++ (match u.port with | some p => ":" ++ toString p | none => "")

/-- What a server is asked for: the path and the query. -/
def target (u : Url) : String :=
  u.path ++ (match u.query with | some q => "?" ++ q | none => "")

/-- The address as a text. -/
def text (u : Url) : String :=
  u.scheme ++ "://" ++ u.credentials ++ u.server ++ u.target ++
    (match u.fragment with | some f => "#" ++ f | none => "")

/-- Adds a name and its value to the query. -/
def addQuery (u : Url) (name value : String) : Url :=
  let entry := formEncode name ++ "=" ++ formEncode value
  { u with
    query :=
      match u.query with
      | none => some entry
      | some q => some (if q.isEmpty then entry else q ++ "&" ++ entry) }

/-! ## Pieces of a text -/

/-- Blanks and controls around a text, and tabs and line ends inside it, do not count. -/
def cleaned (cs : List Char) : List Char :=
  let isMargin (c : Char) : Bool := c.toNat ≤ 0x20
  let cs := ((cs.dropWhile isMargin).reverse.dropWhile isMargin).reverse
  cs.filter fun c => !(c = '\t' || c = '\n' || c = '\r')

/-- What stands in front of the first character of a kind, and the rest from there on. -/
def cutAt (stop : Char → Bool) (cs : List Char) : List Char × List Char :=
  (cs.takeWhile fun c => !stop c, cs.dropWhile fun c => !stop c)

/-- Splits a scheme off, without its colon. -/
def takeScheme? (cs : List Char) : Option (String × List Char) :=
  let (name, rest) := cutAt (· = ':') cs
  match name, rest with
  | first :: others, _ :: rest =>
    let isPart (c : Char) : Bool := c.isAlphanum || c = '+' || c = '-' || c = '.'
    if first.isAlpha && others.all isPart then
      some (String.ofList (name.map Char.toLower), rest)
    else none
  | _, _ => none

/-- A slash of either direction. -/
def isSlash (c : Char) : Bool := c = '/' || c = '\\'

/-- The segments of a path. -/
def segments (cs : List Char) : List (List Char) := cs.splitOnP isSlash

/-- A segment that stands for the directory it is in. -/
def isHere (segment : List Char) : Bool :=
  let s := String.ofList (segment.map Char.toLower)
  s = "." || s = "%2e"

/-- A segment that stands for the directory above. -/
def isAbove (segment : List Char) : Bool :=
  let s := String.ofList (segment.map Char.toLower)
  s = ".." || s = ".%2e" || s = "%2e." || s = "%2e%2e"

/-- Resolves the dots among segments; `done` holds what stays, last one first. -/
def resolveDots (done : List (List Char)) : List (List Char) → List (List Char)
  | [] => done.reverse
  | [s] =>
    if isAbove s then ([] :: done.tail).reverse
    else if isHere s then ([] :: done).reverse
    else (s :: done).reverse
  | s :: rest =>
    if isAbove s then resolveDots done.tail rest
    else if isHere s then resolveDots done rest
    else resolveDots (s :: done) rest

/-- The path that a text spells. -/
def pathOf (cs : List Char) : String :=
  let cs := match cs with
    | c :: rest => if isSlash c then rest else c :: rest
    | [] => []
  let parts := resolveDots [] ((segments cs).map (encodeUnless staysInPath))
  String.ofList ('/' :: List.intercalate ['/'] parts)

/-! ## Hosts -/

/-- Characters that no host has. -/
def isForbiddenInHost (c : Char) : Bool :=
  c.toNat ≤ 0x20 || c.toNat = 0x7F || "#/:<>?@[\\]^|%".toList.contains c

/-- A number of an address by numbers: to base sixteen, eight or ten. -/
def hostNumber? (cs : List Char) : Option Nat :=
  let read (base : Nat) (ds : List Char) : Option Nat :=
    ds.foldlM (fun n c => do
      let d ← hexDigitValue? c
      if d < base then some (n * base + d) else none) 0
  match cs with
  | [] => none
  | '0' :: 'x' :: ds => read 16 ds
  | '0' :: d :: ds => read 8 (d :: ds)
  | ds => read 10 ds

/-- A host that ends in a number is an address by numbers. -/
def endsInNumber (labels : List (List Char)) : Bool :=
  match labels.getLast? with
  | some last => (!last.isEmpty && last.all Char.isDigit) || (last.take 2 = ['0', 'x'] && (hostNumber? last).isSome)
  | none => false

/-- An address by numbers: one to four numbers, the last of which fills the rest. -/
def numericHost? (labels : List (List Char)) : Option String := do
  let numbers ← labels.mapM hostNumber?
  let last ← numbers.getLast?
  let leading := numbers.dropLast
  if numbers.length ≤ 4 ∧ leading.all (· ≤ 255) ∧ last < Nat.pow 256 (4 - leading.length) then
    let n := (leading.zipIdx.foldl (fun n x => n + x.1 * Nat.pow 256 (3 - x.2)) last)
    return ".".intercalate
      ([n / Nat.pow 256 3 % 256, n / Nat.pow 256 2 % 256, n / 256 % 256, n % 256].map toString)
  else none

/-- The host that a text spells. -/
def hostOf? (cs : List Char) : Option String :=
  match cs with
  | [] => none
  | '[' :: _ =>
    let inner := (cs.drop 1).dropLast
    if cs.getLast? = some ']' ∧ inner.all fun c => (hexDigitValue? c).isSome ∨ c = ':' ∨ c = '.' then
      some (String.ofList (cs.map Char.toLower))
    else none
  | _ =>
    let cs := (percentDecode cs).map Char.toLower
    let labels := cs.splitOnP (· = '.')
    let labels := if labels.getLast? = some [] then labels.dropLast else labels
    if cs.isEmpty || cs.any isForbiddenInHost then none
    else if endsInNumber labels then numericHost? labels
    else some (String.ofList cs)

/-- The port that a text spells, if it is not the scheme's own. The outer `none` means that it is no
port. -/
def portOf? (secure : Bool) (cs : List Char) : Option (Option Nat) :=
  if cs.isEmpty then some none
  else if cs.all Char.isDigit then
    let n := cs.foldl (fun n c => min (n * 10 + (c.toNat - '0'.toNat)) 65536) 0
    if 65535 < n then none
    else if n = (if secure then 443 else 80) then some none
    else some (some n)
  else none

/-- Splits the port off a host. -/
def splitPort (cs : List Char) : List Char × List Char :=
  match cs with
  | '[' :: _ =>
    let (host, rest) := cutAt (· = ']') cs
    (host ++ rest.take 1, (rest.drop 1).drop 1)
  | _ =>
    let (host, rest) := cutAt (· = ':') cs
    (host, rest.drop 1)

/-- Splits the credentials off, which end in the last at sign. -/
def splitCredentials (cs : List Char) : List Char × List Char :=
  let host := (cs.reverse.takeWhile (· ≠ '@')).reverse
  (cs.take (cs.length - host.length), host)

/-! ## Reading -/

/-- Reads an address. -/
def parse? (text : String) : Option Url := do
  let (scheme, rest) ← takeScheme? (cleaned text.toList)
  if scheme ≠ "http" ∧ scheme ≠ "https" then none
  let secure := decide (scheme = "https")
  let (authority, rest) := cutAt (fun c => isSlash c || c = '?' || c = '#') (rest.dropWhile isSlash)
  let (credentials, server) := splitCredentials authority
  let (hostText, portText) := splitPort server
  let host ← hostOf? hostText
  let port ← portOf? secure portText
  let (path, rest) := cutAt (fun c => c = '?' || c = '#') rest
  let (query, rest) :=
    match rest with
    | '?' :: rest =>
      let (q, rest) := cutAt (· = '#') rest
      (some (String.ofList (encodeUnless staysInQuery q)), rest)
    | rest => (none, rest)
  let fragment :=
    match rest with
    | '#' :: f => some (String.ofList (encodeUnless staysInFragment f))
    | _ => none
  return { secure, credentials := String.ofList credentials, host, port, path := pathOf path,
           query, fragment }

/-! ## References -/

/-- Characters that may stand in a reference to another address. -/
def isReferenceChar (c : Char) : Bool :=
  isGraphic c && !("\"<>\\^|\x7b\x7d".toList.contains c || c.toNat = graveAccent)

/-- Whether a text can be a reference at all. -/
def isReference (s : String) : Bool := s.toList.all isReferenceChar

/-- The address that a reference in an answer from `u` points to. -/
def resolve? (u : Url) (reference : String) : Option Url :=
  let cs := reference.toList
  if (takeScheme? cs).isSome then parse? reference
  else
    let server := u.scheme ++ "://" ++ u.credentials ++ u.server
    match cs with
    | [] => some { u with fragment := none }
    | '/' :: '/' :: _ => parse? (u.scheme ++ ":" ++ reference)
    | '/' :: _ => parse? (server ++ reference)
    | '?' :: _ => parse? (server ++ u.path ++ reference)
    | '#' :: _ => parse? (server ++ u.target ++ reference)
    | _ =>
      let directory := (u.path.toList.reverse.dropWhile (· ≠ '/')).reverse
      parse? (server ++ String.ofList directory ++ reference)

end Url

end StatusWall.Web
