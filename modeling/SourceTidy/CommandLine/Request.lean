import SourceTidy.CommandLine.Commands
import SourceTidy.CommandLine.Reader
import SourceTidy.Fault

/-!
# Requests

A request is what the command line of the program asks for. When values are known from a
configuration, the command line of the command is read again over them.
-/

namespace SourceTidy

inductive RequestStop where
  | exit (e : Exit)
  | fault (f : Fault)
  deriving DecidableEq, Repr

namespace Request

def offersLevels (c : Command) : Bool := c != .dumpConfig

/-- The grammar of a command that stands alone. A program other than this one brings its own
description, or none. -/
def grammar (currentYear : Int) (verboseNamed : Bool) (guest : Option String) (c : Command) :
    Except RequestStop Grammar :=
  if offersLevels c && !verboseNamed then .error (.fault .levelNotRegistered)
  else .ok (match guest with
    | some program => { Commands.grammar currentYear program c with description := none }
    | none => Commands.grammar currentYear programName c)

/-- The target under which values can hold words that are left over. No argument has it. -/
def leftTarget : String := "_unrecognized_args"

def withoutLeft (values : Values) : Values := values.filter (·.1 != leftTarget)

/-- Reads the line of a command over values. Words that these hold as left over are taken out of them, and
refused like those of the line. -/
def readOver (g : Grammar) (preset : Values) (line : List String) : Except RequestStop Values :=
  match preset.lookup leftTarget with
  | none => (g.read Grammar.noCommand preset line).mapError .exit
  | some held => do
    let (values, left) ←
      (g.readSome Grammar.noCommand (withoutLeft preset) line).mapError .exit
    let left := left.map Scalar.text ++ (← held.items.mapError .fault)
    if left.isEmpty then return values
    let words ← (DataPattern.alternatives 0 left).mapError .fault
    throw (.exit (g.refusal ("unrecognized arguments: " ++ " ".intercalate words)))

def readCommand (currentYear : Int) (verboseNamed : Bool) (guest : Option String) (c : Command)
    (preset : Values) (line : List String) : Except RequestStop Values := do
  let g ← grammar currentYear verboseNamed guest c
  readOver g preset line

def commandReader (currentYear : Int) : Grammar.CommandReader := fun name line =>
  match Command.ofName? name with
  | some c =>
    (Commands.grammar currentYear (programName ++ " " ++ name) c).readSome Grammar.noCommand [] line
  | none => .ok ([], [])

/-- Reads the command line of the program. There has to be a command. -/
def readProgram (currentYear : Int) (verboseNamed : Bool) (line : List String) :
    Except RequestStop (Command × Values) := do
  if !verboseNamed then throw (.fault .levelNotRegistered)
  let values ← (Commands.program.read (commandReader currentYear) [] line).mapError .exit
  match values.value "command" with
  | .text name =>
    match Command.ofName? name with
    | some c => return (c, values)
    | none => throw (.fault (.value (.unexpectedCommand (.text name))))
  | _ => throw (.exit (Commands.program.refusal "command not specified"))

def withLevel (values : Values) : Values :=
  match values.value "loglevel" with
  | .none => values.put "loglevel" (.int Level.warning.number)
  | _ => values

/-- Reads the command line of the program. With known values, the words of the system are then read again
over them, without the first one that names the command. -/
def read (currentYear : Int) (verboseNamed : Bool) (line systemLine : List String)
    (known : Option Values) : Except RequestStop (Command × Values) := do
  let (c, values) ← readProgram currentYear verboseNamed line
  match known with
  | none => return (c, withLevel values)
  | some known =>
    let g ← grammar currentYear verboseNamed none c
    if !systemLine.contains c.name then throw (.fault (.value .missingArgument))
    let line := systemLine.erase c.name
    let values ← readOver g known line
    return (c, withLevel (values.put "command" (.text c.name)))

end Request

end SourceTidy
