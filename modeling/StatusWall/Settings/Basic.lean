import StatusWall.Json.Reader
import StatusWall.Json.Printer
import StatusWall.Log
import StatusWall.Text.Blank

/-!
# Settings

What the settings file holds, how it is read, and the bounds its values are brought into. A value
outside its bounds is no fault: it is replaced, and a record says so. After that a poll's time limit
never exceeds the interval between polls.
-/

namespace StatusWall

open Json

/-- The settings. -/
structure Settings where
  serverUrl : String := "http://localhost:8585"
  logLevel : String := "info"
  pollIntervalSecs : Nat := 30
  fetchTimeoutSecs : Nat := 10
  windowWidth : Nat := 1280
  windowHeight : Nat := 800
  deriving DecidableEq, Repr

namespace Settings

/-- The least time between two polls, in seconds. -/
def minInterval : Nat := 5

/-- The greatest time between two polls, in seconds. -/
def maxInterval : Nat := 3600

/-- The least width and height of the window. -/
def minWindow : Nat := 200

/-- The greatest width and height of the window. -/
def maxWindow : Nat := 8192

/-- The interval within its bounds. -/
def boundedInterval (secs : Nat) : Nat :=
  if secs < minInterval then minInterval else if maxInterval < secs then maxInterval else secs

/-- The time limit of a poll within its bounds, given the interval. -/
def boundedTimeout (secs interval : Nat) : Nat :=
  if secs = 0 then 1 else if interval < secs then interval else secs

/-- A side of the window within its bounds. One that is too small falls back to the default. -/
def boundedWindow (pixels fallback : Nat) : Nat :=
  if pixels < minWindow then fallback else if maxWindow < pixels then maxWindow else pixels

/-- The settings with every value within its bounds. -/
def bounded (s : Settings) : Settings :=
  let interval := boundedInterval s.pollIntervalSecs
  { serverUrl :=
      if Text.isBlankText s.serverUrl then ({} : Settings).serverUrl else s.serverUrl
    logLevel := s.logLevel
    pollIntervalSecs := interval
    fetchTimeoutSecs := boundedTimeout s.fetchTimeoutSecs interval
    windowWidth := boundedWindow s.windowWidth ({} : Settings).windowWidth
    windowHeight := boundedWindow s.windowHeight ({} : Settings).windowHeight }

theorem boundedInterval_bounds (secs : Nat) :
    minInterval ≤ boundedInterval secs ∧ boundedInterval secs ≤ maxInterval := by
  unfold boundedInterval minInterval maxInterval
  split
  · omega
  · split <;> omega

theorem boundedTimeout_bounds (secs : Nat) {interval : Nat} (h : 0 < interval) :
    0 < boundedTimeout secs interval ∧ boundedTimeout secs interval ≤ interval := by
  unfold boundedTimeout
  split
  · omega
  · split <;> omega

/-- A poll that may take as long as it is allowed to still ends before the next one is due. -/
theorem fetchTimeoutSecs_bounded_le (s : Settings) :
    s.bounded.fetchTimeoutSecs ≤ s.bounded.pollIntervalSecs :=
  (boundedTimeout_bounds s.fetchTimeoutSecs
    (Nat.lt_of_lt_of_le (by decide) (boundedInterval_bounds s.pollIntervalSecs).1)).2

/-! ## Records -/

/-- The part of the program that speaks here. -/
def source : String := "wallboard::config::settings"

/-- The records about an interval out of bounds. -/
def intervalRecords (secs : Nat) : List LogRecord :=
  let name := "poll_interval_secs"
  if secs < minInterval then
    [{ level := .warn, source, message := name ++ " below minimum, clamping"
       fields := [(name, toString secs), ("min", toString minInterval)] }]
  else if maxInterval < secs then
    [{ level := .warn, source, message := name ++ " exceeds maximum, clamping"
       fields := [(name, toString secs), ("max", toString maxInterval)] }]
  else []

/-- The records about a time limit out of bounds. -/
def timeoutRecords (secs interval : Nat) : List LogRecord :=
  let name := "fetch_timeout_secs"
  if secs = 0 then
    [{ level := .warn, source, message := name ++ " is zero, clamping", fields := [("using", "1")] }]
  else if interval < secs then
    [{ level := .warn, source, message := name ++ " exceeds poll interval, clamping"
       fields := [(name, toString secs), ("max", toString interval)] }]
  else []

/-- The records about a side of the window out of bounds. -/
def windowRecords (name : String) (pixels fallback : Nat) : List LogRecord :=
  if pixels < minWindow then
    [{ level := .warn, source, message := name ++ " below minimum, using default"
       fields := [(name, toString pixels), ("min", toString minWindow),
         ("using", toString fallback)] }]
  else if maxWindow < pixels then
    [{ level := .warn, source, message := name ++ " exceeds maximum, clamping"
       fields := [(name, toString pixels), ("max", toString maxWindow)] }]
  else []

/-- The records about every value out of bounds. -/
def boundRecords (s : Settings) : List LogRecord :=
  let defaults : Settings := {}
  (if Text.isBlankText s.serverUrl then
    [{ level := .warn, source, message := "server_url is empty, using default"
       fields := [("using", Text.quoted defaults.serverUrl)] }]
   else []) ++
    intervalRecords s.pollIntervalSecs ++
    timeoutRecords s.fetchTimeoutSecs (boundedInterval s.pollIntervalSecs) ++
    windowRecords "window_width" s.windowWidth defaults.windowWidth ++
    windowRecords "window_height" s.windowHeight defaults.windowHeight

/-! ## In documents -/

/-- The fields of the settings, as far as they were met. -/
structure Places where
  serverUrl : Option String := none
  logLevel : Option String := none
  pollIntervalSecs : Option Nat := none
  fetchTimeoutSecs : Option Nat := none
  windowWidth : Option Nat := none
  windowHeight : Option Nat := none

/-- The settings that the fields make up; each has a default. -/
def ofPlaces (p : Places) : Settings :=
  let defaults : Settings := {}
  { serverUrl := p.serverUrl.getD defaults.serverUrl
    logLevel := p.logLevel.getD defaults.logLevel
    pollIntervalSecs := p.pollIntervalSecs.getD defaults.pollIntervalSecs
    fetchTimeoutSecs := p.fetchTimeoutSecs.getD defaults.fetchTimeoutSecs
    windowWidth := p.windowWidth.getD defaults.windowWidth
    windowHeight := p.windowHeight.getD defaults.windowHeight }

/-- A number of seconds. -/
def readSeconds : Doc → Except Fault Nat := Doc.asNatural (Nat.pow 2 64 - 1) "u64"

/-- A number of pixels. -/
def readPixels : Doc → Except Fault Nat := Doc.asNatural (Nat.pow 2 16 - 1) "u16"

/-- Meets a field. -/
def meet (p : Places) (k : String) (d : Doc) : Except Fault Places := do
  if k = "server_url" then return { p with serverUrl := ← Doc.fill k p.serverUrl d.asText }
  else if k = "log_level" then return { p with logLevel := ← Doc.fill k p.logLevel d.asText }
  else if k = "poll_interval_secs" then
    return { p with pollIntervalSecs := ← Doc.fill k p.pollIntervalSecs (readSeconds d) }
  else if k = "fetch_timeout_secs" then
    return { p with fetchTimeoutSecs := ← Doc.fill k p.fetchTimeoutSecs (readSeconds d) }
  else if k = "window_width" then
    return { p with windowWidth := ← Doc.fill k p.windowWidth (readPixels d) }
  else if k = "window_height" then
    return { p with windowHeight := ← Doc.fill k p.windowHeight (readPixels d) }
  else d.skip; return p

/-- Reads settings: an object, or a list of the fields. -/
def read (origin : Origin) : Doc → Except Fault Settings
  | .object fields fin => do
    let _ ← origin.enter
    let p ← Doc.foldFields meet {} fields
    fin
    return ofPlaces p
  | .array items fin => do
    let _ ← origin.enter
    let (serverUrl, rest) ← Doc.nextItem Doc.asText items fin
    let (logLevel, rest) ← Doc.nextItem Doc.asText rest fin
    let (pollIntervalSecs, rest) ← Doc.nextItem readSeconds rest fin
    let (fetchTimeoutSecs, rest) ← Doc.nextItem readSeconds rest fin
    let (windowWidth, rest) ← Doc.nextItem readPixels rest fin
    let (windowHeight, rest) ← Doc.nextItem readPixels rest fin
    Doc.endItems origin 6 rest fin
    return ofPlaces
      { serverUrl, logLevel, pollIntervalSecs, fetchTimeoutSecs, windowWidth, windowHeight }
  | d => .error (d.unfit "struct Settings")

/-- The settings as a document, in the order the file has them. -/
def toJson (s : Settings) : Value :=
  .object
    [("server_url", .text s.serverUrl), ("log_level", .text s.logLevel),
     ("poll_interval_secs", .number (.natural s.pollIntervalSecs)),
     ("fetch_timeout_secs", .number (.natural s.fetchTimeoutSecs)),
     ("window_width", .number (.natural s.windowWidth)),
     ("window_height", .number (.natural s.windowHeight))]

/-- The text of the settings file. -/
def fileText (s : Settings) : String := s.toJson.pretty 0

end Settings

end StatusWall
