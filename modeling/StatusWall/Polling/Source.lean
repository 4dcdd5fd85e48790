import StatusWall.Alert.Machine

/-!
# Where states come from

A poll asks two questions: in which state is the object, and what does the board say about alerts
right now. A source answers both. An answer takes time, and it can be a failure; what it is may
depend on when it was asked for, and on nothing else.

Times are natural numbers of milliseconds.
-/

namespace StatusWall

open Json

/-- The state of an object as its check reported it. -/
structure ObjectState where
  resultCode : Int
  acknowledged : Bool := false
  deriving DecidableEq, Repr

namespace ObjectState

/-- The fields of a state, as far as they were met. -/
structure Places where
  resultCode : Option Int := none
  acknowledged : Option Bool := none

/-- Reads a state: an object, or a list of its two fields. -/
def read (origin : Origin) : Doc → Except Fault ObjectState
  | .object fields fin => do
    let _ ← origin.enter
    let step (p : Places) (k : String) (d : Doc) : Except Fault Places := do
      if k = "MaxState" then return { p with resultCode := ← Doc.fill k p.resultCode d.asInteger }
      else if k = "Acknowledged" then
        return { p with acknowledged := ← Doc.fill k p.acknowledged d.asBool }
      else d.skip; return p
    let p ← Doc.foldFields step {} fields
    fin
    return { resultCode := ← Doc.require "MaxState" p.resultCode
             acknowledged := p.acknowledged.getD false }
  | .array items fin => do
    let _ ← origin.enter
    match ← Doc.nextItem Doc.asInteger items fin with
    | (none, _) => .error (.misfit (.wrongLength 0 "struct ObjectState with 2 elements"))
    | (some resultCode, rest) =>
      let (acknowledged, rest) ← Doc.nextItem Doc.asBool rest fin
      Doc.endItems origin 2 rest fin
      return { resultCode, acknowledged := acknowledged.getD false }
  | d => .error (d.unfit "struct ObjectState")

end ObjectState

/-- Why a question was not answered. -/
inductive FetchError where
  | request (reason : String)
  | status (code : Nat) (body : String)
  | decode (reason : String)
  | notFound (objectType : ObjectType) (filter : String)
  | timeout (secs : Nat)
  deriving DecidableEq, Repr

/-- The words for a failed question. -/
def FetchError.message : FetchError → String
  | .request reason => "request failed: " ++ reason
  | .status code body => "server answered " ++ toString code ++ ": " ++ body
  | .decode reason => "unreadable response: " ++ reason
  | .notFound objectType filter =>
    "no " ++ objectType.name ++ " matches filter '" ++ filter ++ "'"
  | .timeout secs => "no answer within " ++ toString secs ++ " seconds"

/-- An answer and how long it takes. -/
structure Answer (β : Type) where
  delay : Nat
  outcome : Except FetchError β

/-- Answers the two questions of a poll, given the time they are asked. -/
structure Source where
  objectState : Nat → CheckTarget → Answer ObjectState
  alertConfig : Nat → String → Answer AlertConfig

end StatusWall
