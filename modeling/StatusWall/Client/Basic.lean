import StatusWall.Client.Error
import StatusWall.Document.Dashboard
import StatusWall.Json.Reader
import StatusWall.Polling.Source

/-!
# The dashboard server

What the server can be asked for: lists of dashboards, single ones, changes to them, uploads, and
the two questions of a poll. Each is an exchange; none of them does anything but ask and read the
answer.
-/

namespace StatusWall

open Json Web

/-- A server, by its address without slashes at the end. -/
structure Client where
  base : String
  deriving DecidableEq, Repr

namespace Client

/-- The server at an address. -/
def new (address : String) : Client :=
  { base := String.ofList (address.toList.reverse.dropWhile (· = '/')).reverse }

/-- The address of something on the server, as a text. -/
def address (c : Client) (path : String) : String :=
  c.base ++ "/" ++ String.ofList (path.toList.dropWhile (· = '/'))

/-- Asks for something on the server. -/
def request (c : Client) (method : Method) (path : String) (query : List (String × String))
    (body : Option Body) : Exchange (Except SendError Response) :=
  match Url.parse? (c.address path) with
  | none => pure (.error .unaddressed)
  | some url => .send { method, url := query.foldl (fun u q => u.addQuery q.1 q.2) url, body }

/-- Reads the content of a response as a document of a shape. -/
def decode {β : Type} (read : Origin → Doc → Except Fault β) (r : Response) : Except Fault β :=
  match String.fromUTF8? r.content with
  | some text => readText read text
  | none => .error .malformed

/-- Reads a record with one text in it: an object, or a list of the one field. -/
def readSingle (name : String) (origin : Origin) : Doc → Except Fault String
  | .object fields fin => do
    let _ ← origin.enter
    let step (place : Option String) (k : String) (d : Doc) : Except Fault (Option String) := do
      if k = name then Doc.fill k place d.asText else d.skip; return place
    let place ← Doc.foldFields step none fields
    fin
    Doc.require name place
  | .array items fin => do
    let _ ← origin.enter
    let (text, rest) ← Doc.nextItem Doc.asText items fin
    Doc.endItems origin 1 rest fin
    Doc.require name text
  | d => .error (d.unfit "a record")

/-! ## Tasks -/

/-- Carries out a task: asks, and reads the answer of a request that was carried out. -/
def perform {β : Type} (c : Client) (task : ClientTask) (method : Method) (path : String)
    (query : List (String × String)) (body : Option Body)
    (read : Response → Except Fault β) : Exchange (Except ClientError β) := do
  match ← c.request method path query body with
  | .error cause => return .error ⟨task, .unsent cause⟩
  | .ok r =>
    if !r.isSuccess then return .error ⟨task, .refused r⟩
    match read r with
    | .ok b => return .ok b
    | .error _ => return .error ⟨task, .undecodable⟩

/-- A dashboard with a slug: its own, or else the one given. -/
def withSlug (d : Dashboard Float) (slug : String) : Dashboard Float :=
  if d.slug.isEmpty then { d with slug } else d

/-- Every dashboard, or those that carry a tag. One without a slug gets that of its title. -/
def listDashboards (c : Client) (tag : Option String) :
    Exchange (Except ClientError (List (Dashboard Float))) :=
  let read (r : Response) : Except Fault (List (Dashboard Float)) :=
    (decode (fun origin => Doc.asList origin Dashboard.read) r).map fun ds =>
      ds.map fun d => withSlug d (Title.slug d.title)
  c.perform .list .get "dashboard" (tag.map fun t => ("tag", t)).toList none read

/-- The path of a dashboard. -/
def dashboardPath (slug : String) : String := "dashboard/" ++ slug

/-- One dashboard. -/
def getDashboard (c : Client) (slug : String) : Exchange (Except ClientError (Dashboard Float)) :=
  c.perform (.fetch slug) .get (dashboardPath slug) [] none fun r =>
    (decode Dashboard.read r).map fun d => withSlug d slug

/-- Overwrites a dashboard; answers the slug it is stored under. -/
def saveDashboard (c : Client) (slug : String) (d : Dashboard Float) :
    Exchange (Except ClientError String) :=
  c.perform (.save slug) .post (dashboardPath slug) [] (some (.document d.toJson))
    (decode (readSingle "slug"))

/-- Stores a new dashboard; answers its slug. -/
def createDashboard (c : Client) (d : Dashboard Float) : Exchange (Except ClientError String) :=
  c.perform .create .post "dashboard" [] (some (.document d.toJson)) (decode (readSingle "slug"))

/-- Deletes a dashboard. -/
def deleteDashboard (c : Client) (slug : String) : Exchange (Except ClientError Unit) :=
  c.perform (.delete slug) .delete (dashboardPath slug) [] none fun _ => .ok ()

/-- The name of the file at a path: what stands behind the last slash that something stands
behind. -/
def fileName (path : String) : String :=
  let cs := path.toList.reverse.dropWhile (· = '/')
  let name := (cs.takeWhile (· ≠ '/')).reverse
  if name.isEmpty ∨ name = ['.', '.'] then "upload" else String.ofList name

/-- Uploads the content of a file, if it could be read; answers the address it is served from. -/
def uploadFile (c : Client) (path : String) (content : Option ByteArray) :
    Exchange (Except ClientError String) :=
  match content with
  | none => pure (.error ⟨.upload path, .unreadable⟩)
  | some content =>
    c.perform (.upload path) .post "upload" [] (some (.form { name := fileName path, content }))
      (decode (readSingle "url"))

/-! ## Questions of a poll -/

/-- The failure of a question whose answer cannot be read. -/
def undecodable : FetchError := .decode "error decoding response body"

/-- The answer to a question, read as a document of a shape. -/
def answer {β : Type} (read : Origin → Doc → Except Fault β) (r : Response) : Except FetchError β :=
  match decode read r with
  | .ok b => .ok b
  | .error _ => .error undecodable

/-- The state of an object. -/
def objectState (c : Client) (target : CheckTarget) : Exchange (Except FetchError ObjectState) := do
  let path := "icinga/" ++ target.objectType.name ++ "/state"
  match ← c.request .get path [("filter", target.filter)] none with
  | .error cause => return .error (.request cause.message)
  | .ok r =>
    if r.status = 404 then return .error (.notFound target.objectType target.filter)
    if r.isSuccess then return answer ObjectState.read r
    return .error (.status r.status r.text)

/-- What a dashboard says about alerts right now. -/
def alertConfig (c : Client) (slug : String) : Exchange (Except FetchError AlertConfig) := do
  match ← c.request .get (dashboardPath slug) [] none with
  | .error cause => return .error (.request cause.message)
  | .ok r =>
    if r.isSuccess then return (answer Dashboard.read r).map Dashboard.alertConfig
    return .error (.status r.status r.text)

end Client

end StatusWall
