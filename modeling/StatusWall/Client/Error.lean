import StatusWall.Text.Blank
import StatusWall.Web.Exchange

/-!
# Why the server did not do what it was asked

A task that failed says what it was and what went wrong, and `ClientError.chain` words both, the
outermost first. What lies below, the network or the decoder, has words of its own.
-/

namespace StatusWall

/-- Something that the server is asked for. -/
inductive ClientTask where
  | list
  | fetch (slug : String)
  | save (slug : String)
  | create
  | delete (slug : String)
  | upload (path : String)
  deriving DecidableEq, Repr

/-- What went wrong with a task. -/
inductive ClientFault where
  /-- The file to upload cannot be read. -/
  | unreadable
  | unsent (cause : Web.SendError)
  | refused (response : Web.Response)
  /-- The answer is not what was asked for. -/
  | undecodable

/-- A task that failed. -/
structure ClientError where
  task : ClientTask
  fault : ClientFault

namespace ClientTask

/-- The words for a task whose request has no response. -/
def unsentWords : ClientTask → String
  | .list => "Failed to request dashboard list"
  | .fetch slug => "Failed to request dashboard '" ++ slug ++ "'"
  | .save slug => "Failed to save dashboard '" ++ slug ++ "'"
  | .create => "Failed to create dashboard"
  | .delete slug => "Failed to delete dashboard '" ++ slug ++ "'"
  | .upload path => "Failed to upload " ++ path

/-- The words for a task whose response is no good. -/
def rejectedWords : ClientTask → String
  | .list => "Failed to load dashboard list"
  | .fetch slug => "Failed to load dashboard '" ++ slug ++ "'"
  | .save _ => "Dashboard save rejected"
  | .create => "Dashboard creation rejected"
  | .delete slug => "Server refused to delete '" ++ slug ++ "'"
  | .upload _ => "Upload rejected"

end ClientTask

/-- What a server said when it refused. -/
def refusalText (r : Web.Response) : String := Text.trim r.text

/-- The words for a failure, the outermost first. -/
def ClientError.chain (e : ClientError) : List String :=
  match e.fault, e.task with
  | .unreadable, .upload path => ["Failed to read " ++ path]
  | .unreadable, task => [task.unsentWords]
  | .unsent _, task => [task.unsentWords]
  | .refused r, .delete slug =>
    [(ClientTask.delete slug).rejectedWords ++ " (" ++ r.statusText ++ "): " ++ refusalText r]
  | .refused r, task =>
    [task.rejectedWords, "Server answered " ++ r.statusText ++ ": " ++ refusalText r]
  | .undecodable, task => [task.rejectedWords, "Failed to decode response body"]

/-- The outermost words. -/
def ClientError.message (e : ClientError) : String := e.chain.headD ""

end StatusWall
