/-!
# What the command line may hold

A command, at most one argument for it, and options, each with a value. Two options belong to the
program and may stand in front of the command or behind it; one belongs to a command alone. The
tables here are all there is: reading a command line and printing the help both go by them.
-/

namespace StatusWall.Cli

/-- The program's name. -/
def programName : String := "wallboard"

/-- What the program is. -/
def programAbout : String := "Monitoring wallboard editor and viewer"

/-- The program's version. -/
def programVersion : String := "0.1.0"

/-- An option with a value. -/
structure OptionSpec where
  name : String
  help : String
  /-- The value is a path, which is not empty. -/
  isPath : Bool := false
  deriving DecidableEq, Repr

/-- The option as it is written, with a placeholder for its value. -/
def OptionSpec.title (o : OptionSpec) : String :=
  "--" ++ o.name ++ " <" ++ o.name.toUpper ++ ">"

/-- The argument of a command. -/
structure ArgumentSpec where
  name : String
  required : Bool := true
  /-- The argument is a path, which is not empty. -/
  isPath : Bool := false
  deriving DecidableEq, Repr

/-- The argument's placeholder. -/
def ArgumentSpec.title (a : ArgumentSpec) : String :=
  if a.required then "<" ++ a.name ++ ">" else "[" ++ a.name ++ "]"

/-- The settings file to use. -/
def configOption : OptionSpec :=
  { name := "config", help := "Config file to use instead of the default location", isPath := true }

/-- The server to use. -/
def serverOption : OptionSpec :=
  { name := "server", help := "Dashboard server base URL, overrides the config file" }

/-- The tag that listed dashboards carry. -/
def tagOption : OptionSpec := { name := "tag", help := "Only dashboards carrying this tag" }

/-- The name of a command. -/
inductive Verb where
  | list
  | edit
  | view
  | watch
  | create
  | delete
  | upload
  deriving DecidableEq, Repr

namespace Verb

/-- Every command, in the order the help has them. -/
def all : List Verb := [.list, .edit, .view, .watch, .create, .delete, .upload]

/-- The command as it is written. -/
def name : Verb → String
  | .list => "list"
  | .edit => "edit"
  | .view => "view"
  | .watch => "watch"
  | .create => "create"
  | .delete => "delete"
  | .upload => "upload"

/-- What the command does. -/
def about : Verb → String
  | .list => "List dashboards, optionally only titles containing FILTER"
  | .edit => "Open a dashboard in the editor"
  | .view => "Open a dashboard read-only"
  | .watch => "Poll a dashboard's checks and play alerts without a window"
  | .create => "Create an empty dashboard and print its slug"
  | .delete => "Delete a dashboard"
  | .upload => "Upload a file (usually an alert sound) and print its URL"

/-- The command's argument. -/
def argument : Verb → ArgumentSpec
  | .list => { name := "FILTER", required := false }
  | .create => { name := "TITLE" }
  | .upload => { name := "FILE", isPath := true }
  | _ => { name := "SLUG" }

/-- The options that may stand behind the command, in the order the help has them. -/
def options : Verb → List OptionSpec
  | .list => [configOption, tagOption, serverOption]
  | _ => [configOption, serverOption]

/-- The name of the command that prints the help. It is no command of the program's own. -/
def helpName : String := "help"

/-- The command with a given name. -/
def ofName? (name : String) : Option Verb := all.find? fun v => v.name = name

end Verb

/-- The options that may stand in front of the command. -/
def programOptions : List OptionSpec := [configOption, serverOption]

end StatusWall.Cli
