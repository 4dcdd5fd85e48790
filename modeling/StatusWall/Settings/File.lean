import StatusWall.Settings.Basic

/-!
# The settings file

Loading and saving, as functions of what stands at the file's path. A missing file is created with
the defaults. Neither function touches a file system: they say what is to be written, and whoever
calls them writes it.
-/

namespace StatusWall.Settings

open Json

/-- What stands at a path. -/
inductive Place where
  | missing
  | file (content : ByteArray)
  | directory
  /-- Nothing can be there: the directory above it is a plain file. -/
  | blocked

/-- Why settings could not be loaded or saved. -/
inductive FileFault where
  | unreadable
  | unparsable (fault : Fault)
  | noDirectory
  | unwritable

/-- The words for a failure, without the path. -/
def FileFault.words : FileFault → String
  | .unreadable => "Failed to read config from"
  | .unparsable _ => "Failed to parse JSON from"
  | .noDirectory => "Failed to create config directory"
  | .unwritable => "Failed to write config to"

/-- The directory above a path. -/
def parent (path : String) : String :=
  let isSlash (c : Char) : Bool := c = '/'
  let name := (path.toList.reverse.dropWhile isSlash).dropWhile fun c => !isSlash c
  String.ofList (name.dropWhile isSlash).reverse

/-- The words for a failure with a file. -/
def FileFault.message (path : String) : FileFault → String
  | .noDirectory => FileFault.noDirectory.words ++ " " ++ Text.quoted (parent path)
  | fault => fault.words ++ " " ++ Text.quoted path

/-- Whether a path can be a file's: an empty one cannot, nor can one that ends with a slash. -/
def namesFile (path : String) : Bool := !path.isEmpty && path.toList.getLast? != some '/'

/-- The text that saving writes to a path, if it can. -/
def save (s : Settings) (path : String) : Place → Except FileFault String
  | .blocked => .error .noDirectory
  | .directory => .error .unwritable
  | _ => if namesFile path then .ok s.fileText else .error .unwritable

/-- What loading comes to. -/
structure Loaded where
  settings : Settings
  /-- The text of a file that was created. -/
  written : Option String
  records : List LogRecord

/-- The record of a file that is not there. -/
def missingRecord (path : String) : LogRecord :=
  { level := .info, source, message := "Config file not found, creating default config"
    fields := [("path", path)] }

/-- What is recorded before loading fails: a file was to be created where none was. -/
def FileFault.records (path : String) : FileFault → List LogRecord
  | .noDirectory | .unwritable => [missingRecord path]
  | .unreadable | .unparsable _ => []

/-- The record of a file that was saved. -/
def savedRecord (path : String) : LogRecord :=
  { level := .info, source, message := "Saved config", fields := [("path", path)] }

/-- Reads the content of a settings file and brings the values into their bounds. -/
def ofText (text : String) : Except Fault Settings := (readText read text).map bounded

/-- Loads the settings from what stands at `path`. -/
def load (path : String) : Place → Except FileFault Loaded
  | .file content =>
    match String.fromUTF8? content with
    | none => .error .unreadable
    | some text =>
      match readText read text with
      | .error fault => .error (.unparsable fault)
      | .ok s =>
        .ok { settings := s.bounded
              written := none
              records := s.boundRecords ++
                [{ level := .info, source, message := "Loaded config"
                   fields := [("path", path), ("server", s.bounded.serverUrl)] }] }
  | .directory => .error .unreadable
  | place => do
    let settings : Settings := {}
    let text ← settings.save path place
    return { settings
             written := some text
             records := [missingRecord path, savedRecord path] }

end StatusWall.Settings
