import StatusWall.Board.Command

/-!
# Boards over time

A run is a board between the user, the clock and its own tasks. Commands change the board, waiting
lets the tasks work, and what the tasks report is delivered to the board when somebody gets round to
it: at once, late, or a second time. Nothing but a delivery brings a report to the board, so between
a report and its delivery the board can become another one (`Board.applyEvent`).
-/

namespace StatusWall

open StatusWall.Geometry

/-- A board, and what its tasks reported. -/
structure BoardRun (α : Type) where
  board : Board α
  /-- Every report so far. -/
  reported : List PollEvent := []
  /-- How many of them left the queue. -/
  delivered : Nat := 0

/-- Something that happens in a run. -/
inductive RunStep (α : Type) where
  | command (c : BoardCommand α)
  | wait (ms : Nat)
  | shutdown
  /-- Delivers the first report of the queue. -/
  | deliver
  /-- Delivers the whole queue. -/
  | deliverAll
  /-- Delivers a report again, by its number among all of them. -/
  | redeliver (index : Nat)

/-- What a step came to. -/
inductive RunAnswer (α : Type) where
  | board (answer : BoardAnswer α)
  /-- What the board said to each delivery: the message of a failure, or nothing. -/
  | delivered (messages : List (Option String))
  | nothing

namespace BoardRun

variable {α : Type}

/-- The reports that wait. -/
def queue (r : BoardRun α) : List PollEvent := r.reported.drop r.delivered

/-- Takes in what happened while time passed. -/
def progress (r : BoardRun α) (board : Board α) (os : List Occurrence) : BoardRun α :=
  { r with board, reported := r.reported ++ (Occurrence.reports os).map (·.2) }

/-- The board after a list of deliveries, and what it said to each. -/
def takeIn (b : Board α) : List PollEvent → Board α × List (Option String)
  | [] => (b, [])
  | e :: rest =>
    let (b, message) := b.applyEvent e
    let (b, messages) := takeIn b rest
    (b, message :: messages)

/-- Delivers reports. -/
def handOver (r : BoardRun α) (events : List PollEvent) (delivered : Nat) :
    BoardRun α × RunAnswer α :=
  let (board, messages) := takeIn r.board events
  ({ r with board, delivered }, .delivered messages)

/-- Takes a step; answers what it came to and what happened meanwhile. -/
def step [Scalar α] (source : Source) (r : BoardRun α) :
    RunStep α → BoardRun α × RunAnswer α × List Occurrence
  | .command c =>
    let (board, answer) := r.board.perform c
    ({ r with board }, .board answer, [])
  | .wait ms =>
    let (board, os) := r.board.advance source ms
    (r.progress board os, .nothing, os)
  | .shutdown =>
    let (board, os) := r.board.shutdown source
    (r.progress board os, .nothing, os)
  | .deliver =>
    match r.queue with
    | [] => (r, .nothing, [])
    | e :: _ =>
      let (r, answer) := r.handOver [e] (r.delivered + 1)
      (r, answer, [])
  | .deliverAll =>
    let (r, answer) := r.handOver r.queue r.reported.length
    (r, answer, [])
  | .redeliver index =>
    match r.reported[index]? with
    | none => (r, .nothing, [])
    | some e =>
      let (r, answer) := r.handOver [e] r.delivered
      (r, answer, [])

end BoardRun

end StatusWall
