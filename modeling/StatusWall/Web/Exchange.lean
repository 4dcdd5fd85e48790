import StatusWall.Web.Message

/-!
# Exchanges with a server

A program that talks to a server is a tree: it is done, or it asks for something and goes on with
whatever is answered. What carries the requests, a connection or a script, is no part of the tree.

`Exchange.send` follows redirections. A redirected submission becomes a plain request, unless the
server asks for the same request again; a form cannot be sent again, so its redirection is the
answer.
-/

namespace StatusWall.Web

/-- A program that talks to a server. -/
inductive Exchange (β : Type) where
  | done (b : β)
  /-- Sends a request and goes on with the response; without one, nobody answered. -/
  | ask (request : Request) (next : Option Response → Exchange β)

namespace Exchange

variable {β γ : Type}

/-- Goes on with another program when the first one is done. -/
def bind (e : Exchange β) (next : β → Exchange γ) : Exchange γ :=
  match e with
  | .done b => next b
  | .ask request answer => .ask request fun response => (answer response).bind next

instance : Monad Exchange where
  pure := .done
  bind := bind

/-- Runs a program: every request is given to a carrier, which may do what its monad can do. -/
def run {m : Type → Type} [Monad m] (carry : Request → m (Option Response)) : Exchange β → m β
  | .done b => pure b
  | .ask request next => do (next (← carry request)).run carry

end Exchange

/-- Why a request has no response. -/
inductive SendError where
  /-- There is no address to send it to. -/
  | unaddressed
  | unanswered (url : Url)
  /-- Redirected too often. -/
  | circling (url : Url)

/-- The words for a request without a response. -/
def SendError.message : SendError → String
  | .unaddressed => "builder error"
  | .unanswered url => "error sending request for url (" ++ url.text ++ ")"
  | .circling url => "error following redirect for url (" ++ url.text ++ ")"

/-- How many redirections are followed. -/
def redirectLimit : Nat := 10

/-- Whether a request can be sent a second time. -/
def Request.isRepeatable (r : Request) : Bool :=
  match r.body with
  | some (.form _) => false
  | _ => true

/-- The request that a redirection asks for, but for its address. -/
def Request.redirected? (r : Request) (status : Nat) : Option Request :=
  match status with
  | 301 | 302 => if r.method = .post then some { r with method := .get, body := none } else some r
  | 303 => some { r with method := .get, body := none }
  | 307 | 308 => if r.isRepeatable then some r else none
  | _ => none

namespace Exchange

/-- Sends a request and follows at most `left` redirections. -/
def follow (left : Nat) (r : Request) : Exchange (Except SendError Response) :=
  .ask r fun
    | none => .done (.error (.unanswered r.url))
    | some response =>
      match r.redirected? response.status, response.location.filter Url.isReference with
      | some r', some reference =>
        match left with
        | 0 => .done (.error (.circling r.url))
        | left + 1 =>
          match r.url.resolve? reference with
          | none => .done (.error .unaddressed)
          | some url => follow left { r' with url }
      | _, _ => .done (.ok response)

/-- Sends a request and follows redirections. -/
def send (r : Request) : Exchange (Except SendError Response) := follow redirectLimit r

end Exchange

end StatusWall.Web
