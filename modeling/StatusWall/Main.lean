import Std.Async.DNS
import Std.Async.Signal
import Std.Async.TCP
import Std.Async.Timer
import StatusWall.Cli.Session
import StatusWall.Web.Wire

/-!
# The program

Everything that touches the world: the settings file, the file to upload, connections to the server,
the clock, an interrupt, and what is printed. What is done with them is decided by
`StatusWall.Cli.Session`.
-/

namespace StatusWall.Main

open Std.Async
open Web Cli

/-! ## Files -/

/-- The code of the fault that a directory was read as a file. The other fault of this type is that
something on the way to the file is no directory. -/
def directoryCode : UInt32 := 21

/-- What stands at a path. What cannot be read counts as a directory: it is there. -/
def placeAt (path : String) : IO Settings.Place := do
  try
    return .file (← IO.FS.readBinFile path)
  catch
    | .noFileOrDirectory _ _ _ => return .missing
    | .inappropriateType _ code _ => return if code = directoryCode then .directory else .blocked
    | _ => return .directory

/-- Stores a settings file, and says why it cannot. -/
def store (path text : String) : IO (Option Settings.FileFault) := do
  let directory := Settings.parent path
  try
    if !directory.isEmpty then IO.FS.createDirAll directory
  catch _ => return some .noDirectory
  try
    IO.FS.writeFile path text
    return none
  catch _ => return some .unwritable

/-- The content of a file, if it can be read. -/
def contentAt? (path : String) : IO (Option ByteArray) := do
  try return some (← IO.FS.readBinFile path)
  catch _ => return none

/-! ## Connections -/

/-- A text that no form contains. -/
def boundary : IO String := do
  let digits ← (List.range 32).mapM fun _ => return hexDigit (← IO.rand 0 15)
  return String.ofList digits

/-- Receives until the server closes the connection. -/
partial def receive (socket : TCP.Socket.Client) (got : ByteArray) : Async ByteArray := do
  match ← socket.recv? 65536 with
  | some bytes => if bytes.isEmpty then return got else receive socket (got ++ bytes)
  | none => return got

/-- Sends a request to one address of its server. -/
def converse (r : Request) (port : UInt16) (address : Std.Net.IPAddr) : Async (Option Response) := do
  let socket ← TCP.Socket.Client.mk
  socket.connect (match address with
    | .v4 a => .v4 ⟨a, port⟩
    | .v6 a => .v6 ⟨a, port⟩)
  socket.send (r.bytes (← boundary))
  return Response.ofBytes? (← receive socket .empty)

/-- Tries addresses one after the other until one answers. -/
def converseWithAny (r : Request) (port : UInt16) :
    List Std.Net.IPAddr → Async (Option Response)
  | [] => return none
  | address :: others => do
    let response ← try converse r port address catch _ => pure none
    if response.isSome then return response
    converseWithAny r port others

/-- Carries a request to its server and waits so many milliseconds for the response. Encrypted
connections are not to be had. -/
def carry (limit : Nat) (r : Request) : IO (Option Response) := do
  if r.url.secure then return none
  let port := r.url.port.getD 80
  let host := String.ofList (r.url.host.toList.filter fun c => c ≠ '[' ∧ c ≠ ']')
  let asking : Async (Option Response) := do
    converseWithAny r port.toUInt16 (← DNS.getAddrInfo host (toString port)).toList
  let waiting : Async (Option Response) := do
    sleep (.ofNat limit)
    return none
  try (Async.race asking waiting).block
  catch _ => return none

/-! ## Printing -/

/-- Prints records. -/
def printRecords (records : List LogRecord) : IO Unit := records.forM fun r => IO.println r.line

/-- Prints a report whose records are printed up to some point, and answers the exit code. -/
def conclude (report : Report) (printed : Nat) : IO UInt32 := do
  printRecords (report.records.drop printed)
  report.output.forM fun line => IO.println line
  report.complaint.forM fun line => IO.eprintln line
  return report.code.toUInt32

/-! ## Watching -/

/-- Waits so many tenths of a second; answers whether somebody interrupted. -/
def nap (interrupt : AsyncTask Int) : Nat → IO Bool
  | 0 => IO.hasFinished interrupt
  | left + 1 => do
    if ← IO.hasFinished interrupt then return true
    IO.sleep 100
    nap interrupt left

/-- Watches round by round until somebody interrupts. -/
partial def watchOn (session : Session) (interrupt : AsyncTask Int) (watch : Watch) : IO Unit := do
  let (watch, records) ← watch.round.run (carry session.pollConfig.timeout)
  printRecords (atLevel session.level records)
  if ← nap interrupt (session.pollConfig.interval / 100) then
    printRecords (atLevel session.level watch.stop)
  else watchOn session interrupt watch

/-! ## The command line -/

/-- Carries out a command with its settings loaded. -/
def perform (session : Session) : IO UInt32 := do
  printRecords session.records
  let content ← match session.uploadPath? with
    | some path => contentAt? path
    | none => pure none
  match ← (session.run content).run (carry session.pollConfig.timeout) with
  | .ended report => conclude report session.records.length
  | .watching watch records =>
    printRecords (atLevel session.level records)
    let interrupt ← (← Signal.Waiter.mk .sigint false).wait
    watchOn session interrupt watch
    return 0

/-- Carries out what a command line asks for. -/
def carryOut (invocation : Invocation) : IO UInt32 := do
  let level ← IO.getEnv "LOG_LEVEL"
  let path := invocation.settingsPath
    (configHome (← IO.getEnv "XDG_CONFIG_HOME") (← IO.getEnv "HOME"))
  match Session.load invocation level path (← placeAt path) with
  | .error report => conclude report 0
  | .ok session =>
    let fault ← match session.written with
      | some text => store path text
      | none => pure none
    match fault with
    | some fault => conclude (Session.settingsFailure level path fault) 0
    | none => perform session

end StatusWall.Main

def main (args : List String) : IO UInt32 := do
  match StatusWall.Cli.read args with
  | .error ending => StatusWall.Main.conclude ending.report 0
  | .ok invocation => StatusWall.Main.carryOut invocation
