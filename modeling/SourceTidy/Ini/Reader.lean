import SourceTidy.Ini.Basic
import SourceTidy.Text.Lines

/-!
# Reading settings files

A settings file is read line by line. A line that is indented deeper than the option before it
continues its value, and so do empty lines unless nothing follows them.
-/

namespace SourceTidy.Ini

/-- A value while a file is read: the lines of a value of this file, or a value of an earlier
one. -/
inductive Value where
  | lines (ls : List Text)
  | kept (s : String)
  deriving DecidableEq, Repr

structure Reading where
  source : String
  defaults : List (String × Value)
  sections : List (String × List (String × Value))
  current : Option String := none
  option : String := ""
  /-- The indentation of the last line that was not a continuation. -/
  indent : Nat := 0
  seenSections : List String := []
  seenOptions : List (String × String) := []
  bad : List (Nat × String) := []

namespace Reading

def currentOptions (r : Reading) (name : String) : List (String × Value) :=
  if name == defaultName then r.defaults else (r.sections.lookup name).getD []

def setOption (r : Reading) (name option : String) (v : Value) : Reading :=
  if name == defaultName then { r with defaults := putPair option v r.defaults }
  else { r with sections := putPair name (putPair option v (r.currentOptions name)) r.sections }

def addLine (r : Reading) (name : String) (line : Text) : Reading :=
  match (r.currentOptions name).lookup r.option with
  | some (.lines ls) => r.setOption name r.option (.lines (ls ++ [line]))
  | _ => r

end Reading

def isComment (line : Text) : Bool := line.head? == some '#' || line.head? == some ';'

/-- What stands between an opening bracket and the last closing one. -/
def header? (line : Text) : Option Text :=
  match line with
  | '[' :: s =>
    let rest := s.reverse.dropWhile (· != ']')
    match rest.tail.reverse with
    | [] => none
    | name => some name
  | _ => none

/-- The name and the value of an option: what stands before and after the first equals sign or
colon, without the white space there. -/
def option? (line : Text) : Option (Text × Text) :=
  let isDelimiter := fun c : Char => c == '=' || c == ':'
  let name := line.takeWhile fun c => !isDelimiter c
  match line.drop name.length with
  | [] => none
  | _ :: value => some (Text.trimEnd name, Text.trim value)

def readHeader (r : Reading) (number : Nat) (name : String) : Except IniFault Reading :=
  if name == defaultName then .ok { r with current := some name, option := "" }
  else if (r.sections.lookup name).isSome then
    if r.seenSections.contains name then .error (.duplicateSection r.source number name)
    else .ok { r with current := some name, option := "", seenSections := name :: r.seenSections }
  else
    .ok { r with
      sections := r.sections ++ [(name, [])], current := some name, option := ""
      seenSections := name :: r.seenSections }

def readHead (r : Reading) (number : Nat) (whole line : Text) : Except IniFault Reading :=
  match header? line with
  | some name => readHeader r number (Text.str name)
  | none =>
    match r.current with
    | none => .error (.missingHeader r.source number (Text.str whole))
    | some current =>
      let isBad := { r with bad := r.bad ++ [(number, Text.str whole)] }
      match option? line with
      | none => .ok isBad
      | some (name, value) =>
        let r := if name.isEmpty then isBad else r
        let name := optionName (Text.str name)
        if r.seenOptions.contains (current, name) then
          .error (.duplicateOption r.source number current name)
        else
          .ok { r.setOption current name (.lines [value]) with
            option := name, seenOptions := (current, name) :: r.seenOptions }

def readLine (r : Reading) (number : Nat) (whole : Text) : Except IniFault Reading :=
  let line := Text.trim whole
  if isComment line then .ok r
  else if line.isEmpty then
    match r.current with
    | some current => .ok (if r.option.isEmpty then r else r.addLine current [])
    | none => .ok r
  else
    let indent := (whole.takeWhile Text.isSpace).length
    match r.current with
    | some current =>
      if !r.option.isEmpty && r.indent < indent then .ok (r.addLine current line)
      else readHead { r with indent } number whole line
    | none => readHead { r with indent } number whole line

def readLines (r : Reading) (number : Nat) : List Text → Except IniFault Reading
  | [] => .ok r
  | line :: lines => do readLines (← readLine r number line) (number + 1) lines

/-- The value that has been read: its lines without white space at the end. -/
def Value.joined : Value → String
  | .lines ls => Text.str (Text.trimEnd (List.intercalate ['\n'] ls))
  | .kept s => s

def joinOptions (options : List (String × Value)) : IniSection :=
  options.map fun o => (o.1, o.2.joined)

def finish (r : Reading) : Except IniFault Ini :=
  if r.bad.isEmpty then
    .ok { defaults := joinOptions r.defaults
          sections := r.sections.map fun s => (s.1, joinOptions s.2) }
  else .error (.unreadable r.source r.bad)

def start (ini : Ini) (source : String) : Reading where
  source := source
  defaults := ini.defaults.map fun o => (o.1, .kept o.2)
  sections := ini.sections.map fun s => (s.1, s.2.map fun o => (o.1, .kept o.2))

def read (ini : Ini) (source : String) (text : Text) : Except IniFault Ini := do
  finish (← readLines (ini.start source) 1 (Text.lfLines text))

end SourceTidy.Ini
