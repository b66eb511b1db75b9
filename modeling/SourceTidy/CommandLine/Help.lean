import SourceTidy.CommandLine.Grammar
import SourceTidy.Text.Paragraph

/-!
# Usage and help

The usage of a command lists its arguments in lines of limited width. The help adds a description
and a text for every argument, under headings.
-/

namespace SourceTidy

def helpWidth : Nat := 78

/-- The texts of the help start at this column at the latest. -/
def helpColumnLimit : Nat := 24

def spaces (n : Nat) : String := String.ofList (List.replicate n ' ')

namespace Argument

def valueLabel (a : Argument) : String :=
  a.label.getD <|
    if !a.choices.isEmpty then "\x7b" ++ ",".intercalate a.choices ++ "\x7d"
    else if a.isOption then a.target.toUpper else a.target

def valueUsage (a : Argument) : String :=
  match a.arity with
  | .none => ""
  | .optional => " [" ++ a.valueLabel ++ "]"
  | _ => " " ++ a.valueLabel

/-- The parts of the usage that belong to an argument. A line can be broken between them. -/
def usageParts (a : Argument) : List String :=
  match a.names with
  | name :: _ => ["[" ++ name ++ a.valueUsage ++ "]"]
  | [] =>
    match a.arity with
    | .many => [a.valueLabel, "[" ++ a.valueLabel ++ " ...]"]
    | .command => [a.valueLabel, "..."]
    | _ => [a.valueLabel]

def invocation (a : Argument) : String :=
  if a.isOption then ", ".intercalate (a.names.map (· ++ a.valueUsage)) else a.valueLabel

def invocations (a : Argument) : List String := a.invocation :: a.commands.map (·.1)

end Argument

namespace Grammar

def usageLead : String := "usage: "

/-- Sets parts in lines. `used` is the length of the current line less one. -/
def packParts (indent used : Nat) (line : List String) : List String → List String
  | [] => if line.isEmpty then [] else [" ".intercalate line]
  | part :: parts =>
    if helpWidth < used + 1 + part.length && !line.isEmpty then
      " ".intercalate line ::
        packParts indent (indent - 1 + part.length + 1) [part] parts
    else packParts indent (used + part.length + 1) (line ++ [part]) parts

/-- The usage of a command. If it does not fit on a line, the argument without a name gets a new one. -/
def usage (g : Grammar) : String :=
  let options := g.options.flatMap (·.usageParts)
  let others := (g.nameless.map (·.usageParts)).getD []
  let line := " ".intercalate (g.program :: options ++ others)
  if usageLead.length + line.length ≤ helpWidth then usageLead ++ line ++ "\n"
  else
    let indent := usageLead.length + g.program.length + 1
    let lines := packParts indent (usageLead.length - 1) [] (g.program :: options) ++
      packParts indent (indent - 1) [] others
    usageLead ++ ("\n" ++ spaces indent).intercalate lines ++ "\n"

def paragraph (s : String) : String :=
  "\n".intercalate ((Text.paragraphLines helpWidth s.toList).map Text.str)

def helpColumn (g : Grammar) : Nat :=
  let lengths := g.arguments.flatMap fun a => a.invocations.map (·.length + 2)
  min (lengths.foldl max 0 + 2) helpColumnLimit

def helpLines (column indent : Nat) (given text : String) : List String :=
  let lines := (Text.paragraphLines (helpWidth - column) text.toList).map Text.str
  let width := column - indent - 2
  match lines with
  | [] => [spaces indent ++ given]
  | first :: rest =>
    let below := rest.map (spaces column ++ ·)
    if given.length ≤ width then
      (spaces indent ++ Text.padRight width given ++ "  " ++ first) :: below
    else (spaces indent ++ given) :: (spaces column ++ first) :: below

def argumentLines (column : Nat) (a : Argument) : List String :=
  helpLines column 2 a.invocation a.help ++
    a.commands.flatMap fun (name, text) => helpLines column 4 name text

/-- The headings for arguments without names, for options and then the others in their order. -/
def headings (g : Grammar) : List String :=
  (["positional arguments", "options"] ++ g.arguments.map (·.heading)).eraseDups

def helpSection (g : Grammar) (heading : String) : Option String :=
  match g.arguments.filter (·.heading == heading) with
  | [] => none
  | arguments =>
    some ("\n".intercalate ((heading ++ ":") :: arguments.flatMap (argumentLines g.helpColumn)))

def help (g : Grammar) : String :=
  g.usage ++ "\n" ++
    "\n\n".intercalate ((g.description.map paragraph).toList ++
      g.headings.filterMap g.helpSection ++ (g.closing.map paragraph).toList) ++ "\n"

def refusal (g : Grammar) (message : String) : Exit where
  code := 2
  errors := g.usage ++ g.program ++ ": error: " ++ message ++ "\n"

end Grammar

end SourceTidy
