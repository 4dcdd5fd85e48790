import StatusWall.Cli.Grammar

/-!
# The help

One page for the program and one for each command: what it is for, how it is written, and a table
for each kind of part. The entries of a table are aligned at the widest one.
-/

namespace StatusWall.Cli

/-- What a page of the help is about. -/
inductive Topic where
  | program
  | verb (v : Verb)
  /-- The command that prints the help. -/
  | help
  deriving DecidableEq, Repr

/-- A table of entries and what they mean. -/
def helpTable (heading : String) (entries : List (String × String)) : List String :=
  let width := (entries.map fun e => e.1.length).foldl max 0
  "" :: heading :: entries.map fun e =>
    "  " ++ e.1 ++ "".pushn ' ' (width - e.1.length + 2) ++ e.2

/-- The entry of an option. -/
def optionEntry (o : OptionSpec) : String × String := ("    " ++ o.title, o.help)

/-- The entry of the option that prints the help. -/
def helpEntry : String × String := ("-h, --help", "Print help")

/-- The entry of the option that prints the version. -/
def versionEntry : String × String := ("-V, --version", "Print version")

/-- What the command that prints the help does. -/
def helpAbout : String := "Print this message or the help of the given subcommand(s)"

/-- The table of the commands. -/
def commandTable : List String :=
  helpTable "Commands:"
    ((Verb.all.map fun v => (v.name, v.about)) ++ [(Verb.helpName, helpAbout)])

/-- A page of the help. -/
def helpPage : Topic → List String
  | .program =>
    [programAbout, "", "Usage: " ++ programName ++ " [OPTIONS] <COMMAND>"] ++ commandTable ++
      helpTable "Options:" (programOptions.map optionEntry ++ [helpEntry, versionEntry])
  | .verb v =>
    [v.about, "", "Usage: " ++ programName ++ " " ++ v.name ++ " [OPTIONS] " ++ v.argument.title] ++
      helpTable "Arguments:" [(v.argument.title, "")] ++
      helpTable "Options:" (v.options.map optionEntry ++ [helpEntry])
  | .help =>
    [helpAbout, "", "Usage: " ++ programName ++ " " ++ Verb.helpName ++ " [COMMAND]..."] ++
      helpTable "Arguments:" [("[COMMAND]...", "Print help for the subcommand(s)")]

/-- The line that tells the version. -/
def versionLine : String := programName ++ " " ++ programVersion

end StatusWall.Cli
