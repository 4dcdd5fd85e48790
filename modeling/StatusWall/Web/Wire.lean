import StatusWall.Web.Message

/-!
# Requests and responses as bytes

What a connection carries: a request as it is sent, and a response as it is received when the server
closes the connection behind it. A body ends where its head says: after a given number of bytes,
after the last chunk, or at the end of the connection. A response that is cut short is none.
-/

namespace StatusWall.Web

/-! ## Requests -/

/-- The content of a body and its type. The boundary separates the parts of a form. -/
def Body.encode (boundary : String) : Body → String × ByteArray
  | .document v => ("application/json", v.compact.toUTF8)
  | .form part => ("multipart/form-data; boundary=" ++ boundary, part.form boundary)

/-- The bytes of a request. -/
def Request.bytes (boundary : String) (r : Request) : ByteArray :=
  let (entity, content) :=
    match r.body with
    | none => ([], ByteArray.empty)
    | some body =>
      let (type, content) := body.encode boundary
      (["Content-Type: " ++ type, "Content-Length: " ++ toString content.size], content)
  let head :=
    [r.method.name ++ " " ++ r.url.target ++ " HTTP/1.1", "Host: " ++ r.url.server,
     "User-Agent: " ++ agent, "Accept: */*", "Connection: close"] ++ entity
  (String.join (head.map (· ++ "\r\n")) ++ "\r\n").toUTF8 ++ content

/-! ## Responses -/

/-- A response in the making: its head, line by line, and the bytes behind it. -/
structure Received where
  status : Nat
  headers : List (String × String)
  rest : List UInt8

/-- Splits a line off that ends with a carriage return and a line feed; `line` holds the bytes so
far, last one first. -/
def takeLine? (line : List UInt8) : List UInt8 → Option (List UInt8 × List UInt8)
  | 13 :: 10 :: rest => some (line.reverse, rest)
  | b :: rest => takeLine? (b :: line) rest
  | [] => none

/-- The bytes of a line as characters. -/
def lineText (line : List UInt8) : List Char := line.map fun b => Char.ofNat b.toNat

/-- The lines in front of the first empty one, and what follows it. -/
def takeHead? : Nat → List UInt8 → Option (List (List Char) × List UInt8)
  | 0, _ => none
  | left + 1, bytes => do
    let (line, rest) ← takeLine? [] bytes
    if line.isEmpty then return ([], rest)
    let (lines, rest) ← takeHead? left rest
    return (lineText line :: lines, rest)

/-- Drops the blanks around a text. -/
def stripped (cs : List Char) : String :=
  let isMargin (c : Char) : Bool := c = ' ' || c = '\t'
  String.ofList ((cs.dropWhile isMargin).reverse.dropWhile isMargin).reverse

/-- A line of the head: a name in small letters, and its value. -/
def headerOf (line : List Char) : String × String :=
  (String.ofList ((line.takeWhile (· ≠ ':')).map Char.toLower),
   stripped ((line.dropWhile (· ≠ ':')).drop 1))

/-- The status that the first line of a response tells. -/
def statusOf? (line : List Char) : Option Nat :=
  (String.ofList (((line.dropWhile (· ≠ ' ')).drop 1).takeWhile (· ≠ ' '))).toNat?

/-- Reads the head of a response. -/
def Received.ofBytes? (bytes : List UInt8) : Option Received := do
  match ← takeHead? (bytes.length + 1) bytes with
  | (first :: lines, rest) =>
    return { status := ← statusOf? first, headers := lines.map headerOf, rest }
  | ([], _) => none

namespace Received

/-- The value of a header. -/
def header? (r : Received) (name : String) : Option String :=
  (r.headers.find? fun h => h.1 = name).map (·.2)

/-- Joins the chunks of a body. In front of each stands its length to base sixteen; an empty one is
the last. -/
def joinChunks? : Nat → List UInt8 → Option (List UInt8)
  | 0, _ => none
  | left + 1, bytes => do
    let (line, rest) ← takeLine? [] bytes
    let digits := (lineText line).takeWhile Char.isAlphanum
    let size ← digits.foldlM (fun n c => (hexDigitValue? c).map (16 * n + ·)) 0
    if size = 0 then return []
    if rest.length < size + 2 then none
    return rest.take size ++ (← joinChunks? left (rest.drop (size + 2)))

/-- The body. -/
def body? (r : Received) : Option (List UInt8) :=
  if (r.header? "transfer-encoding").map String.toLower = some "chunked" then
    joinChunks? (r.rest.length + 1) r.rest
  else match (r.header? "content-length").bind String.toNat? with
    | some size => if r.rest.length < size then none else some (r.rest.take size)
    | none => some r.rest

end Received

/-- Reads a response. -/
def Response.ofBytes? (bytes : ByteArray) : Option Response := do
  let r ← Received.ofBytes? bytes.toList
  let body ← r.body?
  return { status := r.status, location := r.header? "location", body := ⟨body.toArray⟩ }

end StatusWall.Web
