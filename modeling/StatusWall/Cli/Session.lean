import StatusWall.Cli.Arguments
import StatusWall.Cli.Watch
import StatusWall.Settings.File

/-!
# Carrying out a command

From a command line that was understood to what the program prints, records and leaves behind. The
settings are loaded first; what they ask for in the log counts from then on, unless the environment
asks for something else. A command then talks to the server, and `Report` says what came of it. A
watch does not end by itself, so it is handed back (`Progress.watching`).
-/

namespace StatusWall.Cli

open Web

/-- What the program leaves behind when it ends. -/
structure Report where
  code : Nat := 0
  /-- What it printed, line by line. -/
  output : List String := []
  records : List LogRecord := []
  /-- What it complained of. -/
  complaint : List String := []

/-- The report about a failure. -/
def Report.failure (records : List LogRecord) (message : String) : Report :=
  { code := 1, records, complaint := ["Error: " ++ message] }

/-- The report about a command line that asked for no command. -/
def Ending.report : Ending → Report
  | .help topic => { output := helpPage topic }
  | .version => { output := [versionLine] }
  | .refused reason => { code := 2, complaint := reason.lines }

/-- The records of a level or below. -/
def atLevel (level : LogLevel) (records : List LogRecord) : List LogRecord :=
  records.filter (·.isWritten level)

/-- The directory of everybody's settings: the one that the environment names by a full path, or else
the usual one in the home directory, or else where the program is run. -/
def configHome (named home : Option String) : String :=
  match named.filter (·.startsWith "/"), home.filter (!·.isEmpty) with
  | some directory, _ => directory
  | none, some directory => directory ++ "/.config"
  | none, none => "."

/-- The path of the settings file when the command line names none. -/
def defaultPath (configHome : String) : String := configHome ++ "/wallboard/config.json"

/-- The path of the settings file. -/
def Invocation.settingsPath (i : Invocation) (configHome : String) : String :=
  i.config.getD (defaultPath configHome)

/-- A program with its settings loaded. -/
structure Session where
  command : Command
  settings : Settings
  level : LogLevel
  /-- The text of a settings file that was created. -/
  written : Option String
  /-- What was recorded while loading. -/
  records : List LogRecord

namespace Session

/-- The report about settings that could not be loaded or created. -/
def settingsFailure (environmentLevel : Option String) (path : String)
    (fault : Settings.FileFault) : Report :=
  .failure (atLevel (LogLevel.ofText (environmentLevel.getD "info")) (fault.records path))
    (fault.message path)

/-- Loads the settings. The server named on the command line replaces that of the settings. -/
def load (i : Invocation) (environmentLevel : Option String) (path : String)
    (place : Settings.Place) : Except Report Session :=
  match Settings.load path place with
  | .error fault => .error (settingsFailure environmentLevel path fault)
  | .ok loaded =>
    let settings := { loaded.settings with serverUrl := i.server.getD loaded.settings.serverUrl }
    .ok { command := i.command
          settings
          level := LogLevel.ofText (environmentLevel.getD settings.logLevel)
          written := loaded.written
          records := atLevel (LogLevel.ofText (environmentLevel.getD "info")) loaded.records }

/-- The server. -/
def client (s : Session) : Client := .new s.settings.serverUrl

/-- The records so far and further ones of the session's level. -/
def recorded (s : Session) (records : List LogRecord) : List LogRecord :=
  s.records ++ atLevel s.level records

/-- How the session's tasks poll. The bounds of the settings keep the interval positive. -/
def pollConfig (s : Session) : PollConfig where
  interval := max (s.settings.pollIntervalSecs * 1000) 1
  timeout := s.settings.fetchTimeoutSecs * 1000
  interval_pos := by omega

/-- The file that the command uploads. -/
def uploadPath? (s : Session) : Option String :=
  match s.command with
  | .upload file => some file
  | _ => none

/-- How a window is opened. -/
inductive Mode where
  | edit
  | view
  deriving DecidableEq, Repr

/-- The mode's name in records. -/
def Mode.name : Mode → String
  | .edit => "Edit"
  | .view => "View"

/-- How far a command came. -/
inductive Progress where
  | ended (report : Report)
  /-- A watch was begun; so much was recorded. -/
  | watching (watch : Watch) (records : List LogRecord)

/-- The end of a command: what it printed and recorded, or why it failed. -/
def close {β : Type} (s : Session) (before : List LogRecord) (result : Except ClientError β)
    (after : β → List String × List LogRecord) : Progress :=
  match result with
  | .error e => .ended (.failure (s.recorded before) e.message)
  | .ok b =>
    let (output, records) := after b
    .ended { output, records := s.recorded (before ++ records) }

/-- The lines that list dashboards whose titles contain a filter. -/
def listLines (boards : List (Dashboard Float)) (filter : String) : List String :=
  match Dashboard.filterByTitle boards filter with
  | [] => ["No dashboards found"]
  | found => found.map fun d => d.slug ++ "\t" ++ d.title

/-- Opens a dashboard in a window. There is no display to open one on. -/
def openWindow (s : Session) (mode : Mode) (slug : String) (d : Dashboard Float)
    (before : List LogRecord) : Report :=
  let board := Board.new d (some { config := s.pollConfig })
  let records := before ++ Record.opening slug d.title mode.name :: Record.mounted s.pollConfig board ++
    Record.unmounted board
  .failure (s.recorded records) "Failed to launch board window"

/-- Fetches a dashboard and goes on with it. -/
def withDashboard (s : Session) (slug : String)
    (next : List LogRecord → Dashboard Float → Progress) : Exchange Progress := do
  let before := [Record.fetching (s.client.address (Client.dashboardPath slug))]
  match ← s.client.getDashboard slug with
  | .error e => return .ended (.failure (s.recorded before) e.message)
  | .ok d => return next before d

/-- Carries out the command. The content is that of the file to upload, if it can be read. -/
def run (s : Session) (content : Option ByteArray) : Exchange Progress :=
  match s.command with
  | .list filter tag => do
    return s.close [] (← s.client.listDashboards tag) fun boards =>
      (listLines boards (filter.getD ""), [Record.listed boards.length tag])
  | .edit slug => s.withDashboard slug fun before d => .ended (s.openWindow .edit slug d before)
  | .view slug => s.withDashboard slug fun before d => .ended (s.openWindow .view slug d before)
  | .watch slug =>
    s.withDashboard slug fun before d =>
      let (watch, records) := Watch.start s.client slug s.pollConfig d
      .watching watch (before ++ records)
  | .create title => do
    return s.close [] (← s.client.createDashboard (.new title)) fun slug =>
      ([slug], [Record.created slug title])
  | .delete slug => do
    return s.close [] (← s.client.deleteDashboard slug) fun _ => ([], [Record.deleted slug])
  | .upload file => do
    return s.close [] (← s.client.uploadFile file content) fun address =>
      ([address], [Record.uploaded file address])

/-- The report of a watch that was interrupted. -/
def watched (s : Session) (records : List LogRecord) : Report := { records := s.recorded records }

/-- Carries out the command to its end. A watch takes at most so many rounds, and is interrupted as
soon as what is written makes somebody do so. -/
def runThrough (s : Session) (content : Option ByteArray) (limit : Nat)
    (interrupts : List LogRecord → Bool) : Exchange Report := do
  match ← s.run content with
  | .ended report => return report
  | .watching watch records =>
    return s.watched (← watch.rounds (fun rs => interrupts (s.recorded rs)) records limit)

end Session

end StatusWall.Cli
