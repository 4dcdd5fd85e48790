import StatusWall.Alert.Machine
import StatusWall.Board.Basic
import StatusWall.Log
import StatusWall.Text.Quoted

/-!
# What the program records

The records of the parts that speak while a command is carried out: the server's client, the board,
the tasks that poll, the alerts, and the command itself.
-/

namespace StatusWall.Cli

/-- A part of the program, as records name it. -/
def part (name : String) : String := if name.isEmpty then "wallboard" else "wallboard::" ++ name

/-- A truth value in a record. -/
def flagText (b : Bool) : String := if b then "true" else "false"

namespace Record

/-! ## The server -/

/-- A dashboard is about to be fetched. -/
def fetching (address : String) : LogRecord :=
  { level := .debug, source := part "client", message := "Fetching dashboard"
    fields := [("url", address)] }

/-- Dashboards were listed. -/
def listed (count : Nat) (tag : Option String) : LogRecord :=
  { level := .debug, source := part "client", message := "Listed dashboards"
    fields := [("count", toString count), ("tag", Text.quotedOption tag)] }

/-- A dashboard was created. -/
def created (slug title : String) : LogRecord :=
  { level := .info, source := part "client", message := "Created dashboard"
    fields := [("slug", slug), ("title", title)] }

/-- A dashboard was deleted. -/
def deleted (slug : String) : LogRecord :=
  { level := .info, source := part "client", message := "Deleted dashboard"
    fields := [("slug", slug)] }

/-- A file was uploaded. -/
def uploaded (path address : String) : LogRecord :=
  { level := .info, source := part "client", message := "Uploaded file"
    fields := [("path", path), ("url", address)] }

/-! ## The board -/

/-- The options of a check are ill-typed. -/
def malformed (m : Json.Misfit) : LogRecord :=
  { level := .warn, source := part "dashboard"
    message := "Malformed check options, treating as unconfigured"
    fields := [("error", m.message)] }

/-- A task was started. -/
def starting (config : PollConfig) (widget : WidgetId) (poller : PollerHandle) : LogRecord :=
  { level := .info, source := part "poller", message := "Starting poller"
    fields := [("widget", widget.name), ("poller", poller.id.name), ("check", poller.target.text),
      ("interval", toString (config.interval / 1000) ++ "s")] }

/-- What mounting one widget records. -/
def mountedWidget (config : PollConfig) (w : Widget) (e : Element Float) : List LogRecord :=
  let misfit := if e.kind.pollsCheck then CheckOptions.misfit? e.options else none
  (misfit.map malformed).toList ++ (w.poller.map (starting config w.id)).toList

/-- What mounting a board records. -/
def mounted (config : PollConfig) (b : Board Float) : List LogRecord :=
  b.entries.flatMap (fun x => mountedWidget config x.1 x.2) ++
    [{ level := .info, source := part "board", message := "Board mounted"
       fields := [("slug", b.dashboard.slug), ("widgets", toString b.widgets.length),
         ("polling", toString b.pollingCount)] }]

/-- A task is cancelled. -/
def cancelling (w : Widget) (target : CheckTarget) : LogRecord :=
  { level := .debug, source := part "poller", message := "Cancelling poller"
    fields := [("widget", w.id.name), ("check", target.text)] }

/-- A task has ended. -/
def stopped (w : Widget) (target : CheckTarget) : LogRecord :=
  { cancelling w target with message := "Poller stopped" }

/-- What shutting a board down records: each task is cancelled and ends, one after the other. -/
def shutDown (b : Board Float) : List LogRecord :=
  let tasks := b.widgets.filterMap fun w => w.poller.map fun p => (w, p.target)
  tasks.flatMap (fun t => [cancelling t.1 t.2, stopped t.1 t.2]) ++
    [{ level := .info, source := part "board", message := "Board shut down"
       fields := [("slug", b.dashboard.slug), ("stopped", toString tasks.length)] }]

/-- What unmounting a board records. -/
def unmounted (b : Board Float) : List LogRecord :=
  let tasks := b.widgets.filterMap fun w => w.poller.map fun p => (w, p.target)
  tasks.map (fun t => cancelling t.1 t.2) ++
    if tasks.isEmpty then []
    else
      [{ level := .info, source := part "board", message := "Board unmounted"
         fields := [("slug", b.dashboard.slug), ("cancelled", toString tasks.length)] }]

/-! ## Polls and alerts -/

/-- A result code that nobody defined. -/
def oddCode (type : ObjectType) (code : Int) : List LogRecord :=
  let record (message : String) : LogRecord :=
    { level := .debug, source := part "check_state", message, fields := [("code", toString code)] }
  match type with
  | .service =>
    if 0 ≤ code ∧ code ≤ 3 then []
    else [record "Unexpected service result code, treating as unknown"]
  | .host =>
    if 0 ≤ code ∧ code ≤ 1 then [] else [record "Unexpected host result code, treating as down"]

/-- The volume of an alert in a record. -/
def volumeText (s : AlertSound) : String := toString s.volume ++ ".0"

/-- What the alert machine records about an observation. -/
def observed (target : CheckTarget) (state : CheckState) : Option AlertSound → List LogRecord
  | none =>
    [{ level := .debug, source := part "alert", message := "Severity already alerted"
       fields := [("check", target.text), ("state", state.name)] }]
  | some s =>
    [{ level := .info, source := part "alert", message := "Alert fired"
       fields := [("check", target.text), ("state", s.state.name), ("volume", volumeText s),
         ("url", Text.quotedOption s.url)] },
     { level := .info, source := part "sound", message := "Alert sound"
       fields := [("state", s.state.name), ("url", Text.quotedOption s.url),
         ("volume", volumeText s)] }]

/-- A poll failed. -/
def pollFailed (widget : WidgetId) (target : CheckTarget) (message : String) : LogRecord :=
  { level := .warn, source := part "poller", message := "State poll failed"
    fields := [("widget", widget.name), ("check", target.text), ("error", message)] }

/-! ## Commands -/

/-- A check is in another state than before. -/
def stateChanged (widget : WidgetId) (title : String) (state : CheckState) (acknowledged : Bool) :
    LogRecord :=
  { level := if state.isHealthy then .info else .warn
    source := part "", message := "Check state changed"
    fields := [("widget", widget.name), ("title", title), ("state", state.name),
      ("acknowledged", flagText acknowledged)] }

/-- A check could not be polled. -/
def notUpdating (slug message : String) : LogRecord :=
  { level := .warn, source := part "", message := "This dashboard isn't updating"
    fields := [("slug", slug), ("message", message)] }

/-- A dashboard has nothing to poll. -/
def nothingToPoll (slug : String) : LogRecord :=
  { level := .warn, source := part ""
    message := "Dashboard has no configured check widgets, nothing to poll"
    fields := [("slug", slug)] }

/-- The user wants to stop. -/
def interrupted : LogRecord :=
  { level := .info, source := part "", message := "Interrupted, stopping pollers" }

/-- A dashboard is opened in a window. -/
def opening (slug title mode : String) : LogRecord :=
  { level := .info, source := part "gui::app", message := "Opening dashboard"
    fields := [("slug", slug), ("title", title), ("mode", mode)] }

end Record

end StatusWall.Cli
