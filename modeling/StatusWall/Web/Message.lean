import StatusWall.Json.Printer
import StatusWall.Web.Url

/-!
# Requests and responses

What is sent to a web server and what comes back. A body is a document or a form with one file; the
form's parts are separated by a boundary that the sender picks, so its bytes depend on the boundary.
-/

namespace StatusWall.Web

/-- What is to be done with what stands at an address. -/
inductive Method where
  | get
  | post
  | delete
  deriving DecidableEq, Repr

/-- The method's name in a request. -/
def Method.name : Method → String
  | .get => "GET"
  | .post => "POST"
  | .delete => "DELETE"

/-- A file as part of a form. -/
structure FilePart where
  name : String
  content : ByteArray

/-- One character of a file's name in a form. -/
def escapeFileName (c : Char) : List Char :=
  if c = '\\' ∨ c = '"' ∨ c = '\r' ∨ c = '\n' then ['\\', c] else [c]

/-- The bytes of a form that holds one file under the name `file`. -/
def FilePart.form (part : FilePart) (boundary : String) : ByteArray :=
  let head := "--" ++ boundary ++ "\r\nContent-Disposition: form-data; name=\"file\"; filename=\"" ++
    String.ofList (part.name.toList.flatMap escapeFileName) ++ "\"\r\n\r\n"
  head.toUTF8 ++ part.content ++ ("\r\n--" ++ boundary ++ "--\r\n").toUTF8

/-- What a request carries. -/
inductive Body where
  | document (v : Json.Value)
  | form (part : FilePart)

/-- A request. -/
structure Request where
  method : Method
  url : Url
  body : Option Body := none

/-- The name under which requests are made. -/
def agent : String := "wallboard/0.1.0"

/-- A response. -/
structure Response where
  status : Nat
  location : Option String := none
  body : ByteArray := .empty

/-- The words for a status. -/
def reason? : Nat → Option String
  | 100 => "Continue"
  | 101 => "Switching Protocols"
  | 102 => "Processing"
  | 103 => "Early Hints"
  | 200 => "OK"
  | 201 => "Created"
  | 202 => "Accepted"
  | 203 => "Non Authoritative Information"
  | 204 => "No Content"
  | 205 => "Reset Content"
  | 206 => "Partial Content"
  | 207 => "Multi-Status"
  | 208 => "Already Reported"
  | 226 => "IM Used"
  | 300 => "Multiple Choices"
  | 301 => "Moved Permanently"
  | 302 => "Found"
  | 303 => "See Other"
  | 304 => "Not Modified"
  | 305 => "Use Proxy"
  | 307 => "Temporary Redirect"
  | 308 => "Permanent Redirect"
  | 400 => "Bad Request"
  | 401 => "Unauthorized"
  | 402 => "Payment Required"
  | 403 => "Forbidden"
  | 404 => "Not Found"
  | 405 => "Method Not Allowed"
  | 406 => "Not Acceptable"
  | 407 => "Proxy Authentication Required"
  | 408 => "Request Timeout"
  | 409 => "Conflict"
  | 410 => "Gone"
  | 411 => "Length Required"
  | 412 => "Precondition Failed"
  | 413 => "Payload Too Large"
  | 414 => "URI Too Long"
  | 415 => "Unsupported Media Type"
  | 416 => "Range Not Satisfiable"
  | 417 => "Expectation Failed"
  | 418 => "I'm a teapot"
  | 421 => "Misdirected Request"
  | 422 => "Unprocessable Entity"
  | 423 => "Locked"
  | 424 => "Failed Dependency"
  | 425 => "Too Early"
  | 426 => "Upgrade Required"
  | 428 => "Precondition Required"
  | 429 => "Too Many Requests"
  | 431 => "Request Header Fields Too Large"
  | 451 => "Unavailable For Legal Reasons"
  | 500 => "Internal Server Error"
  | 501 => "Not Implemented"
  | 502 => "Bad Gateway"
  | 503 => "Service Unavailable"
  | 504 => "Gateway Timeout"
  | 505 => "HTTP Version Not Supported"
  | 506 => "Variant Also Negotiates"
  | 507 => "Insufficient Storage"
  | 508 => "Loop Detected"
  | 510 => "Not Extended"
  | 511 => "Network Authentication Required"
  | _ => none

namespace Response

/-- The status and its words. -/
def statusText (r : Response) : String :=
  toString r.status ++ " " ++ (reason? r.status).getD "<unknown status code>"

/-- The request was carried out. -/
def isSuccess (r : Response) : Bool := 200 ≤ r.status && r.status < 300

/-- The content. Two statuses come without any, whatever follows the head. -/
def content (r : Response) : ByteArray :=
  if r.status = 204 ∨ r.status = 304 then .empty else r.body

/-- The content as a text; bytes that are no text are replaced. -/
def text (r : Response) : String :=
  match String.fromUTF8? r.content with
  | some s => s
  | none => String.ofList (r.content.toList.map fun b =>
      if b.toNat < 0x80 then Char.ofNat b.toNat else Char.ofNat 0xFFFD)

end Response

end StatusWall.Web
