import StatusWall.Cli.Help

/-!
# Reading a command line

The words of a command line are read from left to right, and the first one that cannot stand where
it stands decides what is complained about. Asking for the help or the version ends the reading too.
What is missing is found at the end.

An option that waits for its value takes the next word unless that word looks like an option. Behind
two dashes nothing looks like an option any more.

What was read is not taken in at once, but when the next option or argument is understood, or at the
end of its part of the command line (`Reading.pending`). So a word that cannot be understood at all
is complained about before a value that is no good, and what stands behind the command before what
stands in front of it.
-/

namespace StatusWall.Cli

/-- What the program is asked to do. -/
inductive Command where
  | list (filter tag : Option String)
  | edit (slug : String)
  | view (slug : String)
  | watch (slug : String)
  | create (title : String)
  | delete (slug : String)
  | upload (file : String)
  deriving DecidableEq, Repr

/-- A command line that was understood. -/
structure Invocation where
  config : Option String
  server : Option String
  command : Command
  deriving DecidableEq, Repr

/-- Why a command line was not understood. -/
inductive Refusal where
  /-- There is nothing on it. -/
  | bare
  | unexpectedArgument (word : String)
  | unneededValue (value option : String)
  /-- An option or an argument, by its title, has no value. -/
  | missingValue (title : String)
  | repeatedOption (option : OptionSpec)
  | unknownCommand (word : String)
  | missingCommand
  | missingArgument (argument : ArgumentSpec)
  deriving DecidableEq, Repr

/-- The words for a command line that was not understood. A bare one is answered with the help. -/
def Refusal.lines : Refusal → List String
  | .bare => helpPage .program
  | r => explain r ++ ["", "For more information, try '--help'."]
where
  /-- What is wrong. -/
  explain : Refusal → List String
    | .bare => []
    | .unexpectedArgument word => ["error: unexpected argument '" ++ word ++ "' found"]
    | .unneededValue value option =>
      ["error: unexpected value '" ++ value ++ "' for '" ++ option ++
        "' found; no more were accepted"]
    | .missingValue title =>
      ["error: a value is required for '" ++ title ++ "' but none was supplied"]
    | .repeatedOption option =>
      ["error: the argument '" ++ option.title ++ "' cannot be used multiple times"]
    | .unknownCommand word => ["error: unrecognized subcommand '" ++ word ++ "'"]
    | .missingCommand =>
      ["error: '" ++ programName ++ "' requires a subcommand but one was not provided",
       "  [subcommands: " ++ ", ".intercalate (Verb.all.map Verb.name ++ [Verb.helpName]) ++ "]"]
    | .missingArgument argument =>
      ["error: the following required arguments were not provided:", "  " ++ argument.title]

/-- Why the reading ended without a command to carry out. -/
inductive Ending where
  | help (topic : Topic)
  | version
  | refused (reason : Refusal)
  deriving DecidableEq, Repr

/-- What a word looks like. -/
inductive Token where
  /-- Two dashes: nothing behind them is an option. -/
  | escape
  | long (name : String) (value : Option String)
  | short (letter : Char)
  | word (s : String)
  deriving DecidableEq, Repr

/-- What a word looks like by its dashes. -/
def Token.of (s : String) : Token :=
  match s.toList with
  | ['-', '-'] => .escape
  | '-' :: '-' :: cs =>
    let name := String.ofList (cs.takeWhile (· ≠ '='))
    match cs.dropWhile (· ≠ '=') with
    | _ :: value => .long name (some (String.ofList value))
    | [] => .long name none
  | '-' :: c :: _ => .short c
  | _ => .word s

/-- Options and their values. -/
abbrev Given := List (String × String)

/-- Complains. -/
def refuse {β : Type} (reason : Refusal) : Except Ending β := .error (.refused reason)

/-- Something that was read and is not taken in yet. -/
inductive Pending where
  /-- An option, and its value if it has one already. -/
  | option (o : OptionSpec) (value : Option String)
  | argument (a : ArgumentSpec) (value : String)
  deriving DecidableEq, Repr

/-- Whether the next word is the value. -/
def Pending.isOpen : Pending → Bool
  | .option _ none => true
  | _ => false

/-- Takes in what was read: an option once, and no path that is empty. -/
def Pending.taken (given : Given) : Pending → Except Ending Given
  | .option o none => refuse (.missingValue o.title)
  | .option o (some value) =>
    if given.any fun g => g.1 = o.name then refuse (.repeatedOption o)
    else if o.isPath ∧ value = "" then refuse (.missingValue o.title)
    else .ok (given ++ [(o.name, value)])
  | .argument a value =>
    if a.isPath ∧ value = "" then refuse (.missingValue a.title) else .ok given

/-- Takes in what waits, if something does. -/
def Given.settled (given : Given) : Option Pending → Except Ending Given
  | some p => p.taken given
  | none => .ok given

/-- A command line that is read up to some word. -/
structure Reading where
  verb : Option Verb := none
  /-- The help is asked for by its own command, and about this. -/
  helping : Option Topic := none
  /-- The options in front of the command, and what waits there. -/
  outer : Given := []
  outerPending : Option Pending := none
  /-- The options on this side of the command, and what waits. -/
  given : Given := []
  pending : Option Pending := none
  argument : Option String := none
  /-- Two dashes were met. -/
  escaped : Bool := false

namespace Reading

/-- What the reading is about at this point. -/
def topic (r : Reading) : Topic :=
  match r.verb with
  | some v => .verb v
  | none => .program

/-- The options that may stand at this point. -/
def known (r : Reading) : List OptionSpec :=
  match r.verb with
  | some v => v.options
  | none => programOptions

/-- Takes in what waits. -/
def settle (r : Reading) : Except Ending Reading := do
  return { r with given := ← r.given.settled r.pending, pending := none }

/-- The command is met: what waits in front of it goes on waiting. -/
def enter (r : Reading) (v : Verb) : Reading :=
  { r with verb := some v, outer := r.given, outerPending := r.pending, given := [], pending := none }

/-- Asks for a page of the help or the version. -/
def showing (r : Reading) (flag : String) (value : Option String) (ending : Ending) :
    Except Ending Reading := do
  if let some v := value then refuse (.unneededValue v flag)
  let _ ← r.settle
  .error ending

/-- A word that looks like an option by name. A value that is attached is taken in at once. -/
def readLong (r : Reading) (name : String) (value : Option String) : Except Ending Reading :=
  if name = "help" then r.showing "--help" value (.help r.topic)
  else if name = "version" ∧ r.verb.isNone then r.showing "--version" value .version
  else match r.known.find? fun o => o.name = name with
    | none => refuse (.unexpectedArgument ("--" ++ name))
    | some o => do
      let r := { ← r.settle with pending := some (.option o value) }
      if value.isSome then r.settle else return r

/-- A word that looks like an option by letter. -/
def readShort (r : Reading) (letter : Char) : Except Ending Reading :=
  if letter = 'h' then r.showing "-h" none (.help r.topic)
  else if letter = 'V' ∧ r.verb.isNone then r.showing "-V" none .version
  else refuse (.unexpectedArgument (String.ofList ['-', letter]))

/-- A word that is no option and no value of one. -/
def readArgument (r : Reading) (word : String) : Except Ending Reading :=
  match r.verb, r.argument with
  | none, _ =>
    if r.escaped && ((Verb.ofName? word).isSome || word = Verb.helpName) then
      refuse (.unexpectedArgument word)
    else refuse (.unknownCommand word)
  | some _, some _ => refuse (.unexpectedArgument word)
  | some v, none => do
    return { ← r.settle with argument := some word, pending := some (.argument v.argument word) }

/-- A word behind the command that prints the help. -/
def readTopic (r : Reading) (topic : Topic) (word : String) : Except Ending Reading :=
  match topic, Verb.ofName? word with
  | .program, some v => .ok { r with helping := some (.verb v) }
  | .program, none =>
    if word = Verb.helpName then .ok { r with helping := some .help }
    else refuse (.unknownCommand word)
  | _, _ => refuse (.unknownCommand word)

/-- A word in front of two dashes. -/
def readPlain (r : Reading) (s : String) : Except Ending Reading :=
  match Token.of s with
  | .escape => .ok { r with escaped := true }
  | .long name value => r.readLong name value
  | .short letter => r.readShort letter
  | .word w =>
    match r.pending with
    | some (.option o none) => .ok { r with pending := some (.option o (some w)) }
    | _ => r.readArgument w

/-- Reads the next word. The name of a command begins it where no value is waited for. -/
def step (r : Reading) (s : String) : Except Ending Reading :=
  match r.helping with
  | some topic => r.readTopic topic s
  | none =>
    if r.escaped then r.readArgument s
    else if r.verb.isNone ∧ ¬ r.pending.any Pending.isOpen then
      match Verb.ofName? s with
      | some v => .ok (r.enter v)
      | none =>
        if s = Verb.helpName then .ok { r with helping := some .program } else r.readPlain s
    else r.readPlain s

/-- The command, with its argument. -/
def command (r : Reading) (v : Verb) : Except Ending Command := do
  let required : Except Ending String :=
    match r.argument with
    | some a => .ok a
    | none => refuse (.missingArgument v.argument)
  match v with
  | .list => return .list r.argument ((r.given.find? fun g => g.1 = tagOption.name).map (·.2))
  | .edit => return .edit (← required)
  | .view => return .view (← required)
  | .watch => return .watch (← required)
  | .create => return .create (← required)
  | .delete => return .delete (← required)
  | .upload => return .upload (← required)

/-- The end of the command line. Of an option in front of the command and behind it the latter
counts. -/
def finish (r : Reading) : Except Ending Invocation := do
  if let some topic := r.helping then .error (.help topic)
  let r ← r.settle
  match r.verb with
  | none => refuse (if r.given.isEmpty then .bare else .missingCommand)
  | some v =>
    let command ← r.command v
    let outer ← r.outer.settled r.outerPending
    let value? (o : OptionSpec) := ((r.given ++ outer).find? fun g => g.1 = o.name).map (·.2)
    return { config := value? configOption, server := value? serverOption, command }

end Reading

/-- Reads a command line. -/
def read (words : List String) : Except Ending Invocation := do
  (← words.foldlM Reading.step {}).finish

end StatusWall.Cli
