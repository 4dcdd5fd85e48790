import StatusWall.Cli.Record
import StatusWall.Client.Basic

/-!
# Watching a board without a window

A watch polls the checks of a dashboard round by round. In a round every task asks for its object's
state, those that got one ask for the board's word on alerts, and then the tasks conclude in their
order: alerts are played, and what was reported reaches the board. `Watch.round` is one round;
`Watch.rounds` goes on until somebody interrupts.
-/

namespace StatusWall.Cli

open Web

/-- A watch. -/
structure Watch where
  client : Client
  /-- The slug that the dashboard was asked for under. -/
  slug : String
  board : Board Float

/-- What a poll found. -/
abbrev Found := Except FetchError (ObjectState × AlertConfig)

namespace Watch

/-- Begins to watch a dashboard; answers the records too. -/
def start (client : Client) (slug : String) (config : PollConfig) (d : Dashboard Float) :
    Watch × List LogRecord :=
  let board := Board.new d (some { config })
  ({ client, slug, board },
   Record.mounted config board ++
     if board.pollingCount = 0 then [Record.nothingToPoll slug] else [])

/-- The tasks that run. -/
def tasks (w : Watch) : List PollTask :=
  match w.board.fleet with
  | some f => f.tasks.filter fun t => !t.cancelled
  | none => []

/-- Asks for the board's word on alerts if the state is known. -/
def askConfig (client : Client) (slug : String) (state : Except FetchError ObjectState) :
    Exchange Found := do
  match state with
  | .error e => return .error e
  | .ok found => return (← client.alertConfig slug).map fun config => (found, config)

/-- The records of a report that reaches the board, and the board after it. -/
def takeIn (w : Watch) (e : PollEvent) : Watch × List LogRecord :=
  let changed :=
    match e.outcome with
    | .state state acknowledged =>
      if ((w.board.status? e.widget).map (·.state)) = some state then []
      else
        let title := ((w.board.element? e.widget).map (·.title)).getD ""
        [Record.stateChanged e.widget title state acknowledged]
    | .failed _ => []
  let (board, message) := w.board.applyEvent e
  ({ w with board }, changed ++ (message.map (Record.notUpdating w.slug)).toList)

/-- What a task records about a poll that ended. -/
def pollRecords (t : PollTask) (found : Found) (acts : List PollAct) : List LogRecord :=
  match found with
  | .error e => [Record.pollFailed t.widget t.target e.message]
  | .ok (state, _) =>
    let alert := acts.findSome? fun
      | .play s => some s
      | _ => none
    Record.oddCode t.target.objectType state.resultCode ++
      Record.observed t.target (CheckState.resolve t.target.objectType state.resultCode) alert

/-- A task concludes its poll. -/
def conclude (w : Watch) (t : PollTask) (found : Found) : Watch × List LogRecord :=
  let (machine, acts) := t.conclude found
  let board := w.board.withFleet (·.modifyTask t.id fun t => { t with machine })
  let reports := acts.filterMap fun
    | .report e => some e
    | _ => none
  reports.foldl (fun (w, records) e =>
    let (w, more) := w.takeIn e
    (w, records ++ more)) ({ w with board }, pollRecords t found acts)

/-- One round of polls. -/
def round (w : Watch) : Exchange (Watch × List LogRecord) := do
  let tasks := w.tasks
  let states ← tasks.mapM fun t => w.client.objectState t.target
  let found ← (tasks.zip states).mapM fun (t, state) => askConfig w.client t.slug state
  return (tasks.zip found).foldl (fun (w, records) (t, found) =>
    let (w, more) := w.conclude t found
    (w, records ++ more)) (w, [])

/-- The end of a watch. -/
def stop (w : Watch) : List LogRecord := Record.interrupted :: Record.shutDown w.board

/-- At most so many rounds, until the records make somebody interrupt. The first round is always
played. -/
def rounds (w : Watch) (interrupts : List LogRecord → Bool) (records : List LogRecord) :
    Nat → Exchange (List LogRecord)
  | 0 => pure (records ++ w.stop)
  | left + 1 => do
    let (w, more) ← w.round
    let records := records ++ more
    if interrupts records then return records ++ w.stop
    w.rounds interrupts records left

end Watch

end StatusWall.Cli
