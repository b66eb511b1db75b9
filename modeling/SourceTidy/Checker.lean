import SourceTidy.Check.Basic
import SourceTidy.Formatting
import SourceTidy.Source
import SourceTidy.Tally
import SourceTidy.Text.Diff

/-!
# The checker

The checker applies the chosen checks to files and counts how often each of them fails. One check is
of the permission bits, and one compares a source with what a formatting program makes of it.
-/

namespace SourceTidy

structure Checker where
  failFast : Setting := .flag false
  patterns : Patterns := Patterns.usual
  tabs : Setting := .flag true
  lineEndings : Setting := .flag true
  trailing : Setting := .flag true
  encodable : Setting := .flag true
  finalEol : Setting := .flag true
  includes : Setting := .flag true
  notice : Setting := .flag true
  mode : Setting := .flag true
  formatter : Setting := .flag false
  /-- The greatest length of a line. Zero is no limit. -/
  lineLimit : Setting := .int 0
  eol : Setting := .eol .native
  encoding : Setting := .text "ascii"
  /-- Settings that are kept without being used. -/
  others : Options := []
  deriving DecidableEq, Repr

namespace Checker

def optionNames : List String :=
  ["failfast", "check_tabs", "check_eol", "check_trailing", "check_encoding", "check_eol_at_eof",
    "check_relative_include", "check_copyright", "check_mode", "clang_format", "maxlinelen", "eol",
    "encoding"]

def title : String := "CheckTool"

/-- The checker with the given options. It takes options of any name at first. -/
def ofOptions (options : Options) (patterns : Patterns) : Except Fault Checker := do
  if options.any (·.1 == Options.ownName) then throw (.kind (.ownOption title))
  let flag := fun name => Setting.flag (options.get name (.flag true)).isOn
  let lineLimit ← (options.get "maxlinelen" (.int 0)).toInt
  let eol ← (options.get "eol" (.eol .native)).toEol
  match options.find? fun p => !optionNames.contains p.1 with
  | some (name, _) => throw (.kind (.leftOption name))
  | none => return {
      failFast := options.get "failfast" (.flag false)
      patterns
      tabs := flag "check_tabs"
      lineEndings := flag "check_eol"
      trailing := flag "check_trailing"
      encodable := flag "check_encoding"
      finalEol := flag "check_eol_at_eof"
      includes := flag "check_relative_include"
      notice := flag "check_copyright"
      mode := flag "check_mode"
      formatter := options.get "clang_format" (.flag false)
      lineLimit := .int lineLimit
      eol := .eol eol
      encoding := options.get "encoding" (.text "ascii") }

def withSetting (c : Checker) (name : String) (v : Setting) : Checker :=
  match name with
  | "failfast" => { c with failFast := v }
  | "check_tabs" => { c with tabs := v }
  | "check_eol" => { c with lineEndings := v }
  | "check_trailing" => { c with trailing := v }
  | "check_encoding" => { c with encodable := v }
  | "check_eol_at_eof" => { c with finalEol := v }
  | "check_relative_include" => { c with includes := v }
  | "check_copyright" => { c with notice := v }
  | "check_mode" => { c with mode := v }
  | "clang_format" => { c with formatter := v }
  | "maxlinelen" => { c with lineLimit := v }
  | "eol" => { c with eol := v }
  | "encoding" => { c with encoding := v }
  | name => { c with others := (name, v) :: c.others }

def setting (c : Checker) (name : String) : Except Fault Setting :=
  match name with
  | "failfast" => .ok c.failFast
  | "check_tabs" => .ok c.tabs
  | "check_eol" => .ok c.lineEndings
  | "check_trailing" => .ok c.trailing
  | "check_encoding" => .ok c.encodable
  | "check_eol_at_eof" => .ok c.finalEol
  | "check_relative_include" => .ok c.includes
  | "check_copyright" => .ok c.notice
  | "check_mode" => .ok c.mode
  | "clang_format" => .ok c.formatter
  | "maxlinelen" => .ok c.lineLimit
  | "eol" => .ok c.eol
  | "encoding" => .ok c.encoding
  | name => c.others.find title name

def toOptions (c : Checker) : Except Fault Options := do
  let lineLimit ← c.lineLimit.toInt
  let eol ← c.eol.givenName
  return [
    ("failfast", .flag c.failFast.isOn),
    ("check_tabs", .flag c.tabs.isOn),
    ("check_eol", .flag c.lineEndings.isOn),
    ("check_trailing", .flag c.trailing.isOn),
    ("check_encoding", .flag c.encodable.isOn),
    ("check_eol_at_eof", .flag c.finalEol.isOn),
    ("check_relative_include", .flag c.includes.isOn),
    ("check_copyright", .flag c.notice.isOn),
    ("check_mode", .flag c.mode.isOn),
    ("clang_format", c.formatter),
    ("maxlinelen", .int lineLimit),
    ("eol", .text eol),
    ("encoding", c.encoding)]

/-- The line ending that is asked for. Only line endings can be checked. -/
def checkedEol (c : Checker) : Except Fault Eol := do
  let _ ← c.eol.characters
  match c.eol with
  | .eol e => return e
  | v => throw (.value (.unexpectedEol v))

def lineEndingsCheck (c : Checker) : Except Fault Check := return .lineEndings (← c.checkedEol)

def trailingCheck (c : Checker) : Except Fault Check :=
  return .trailing (Text.encodeString (← c.eol.characters))

def lineLengthCheck (c : Checker) : Check := .lineLength c.eol c.lineLimit

def checklist (c : Checker) : Except Fault (List (String × Check)) := do
  let choose := fun (chosen : Setting) name (check : Except Fault Check) =>
    if chosen.isOn then check.map fun k => [(name, k)] else .ok []
  return List.flatten [
    ← choose c.tabs "tabs" (.ok .tabs),
    ← choose c.lineEndings "invalid EOL" c.lineEndingsCheck,
    ← choose c.trailing "trailing spaces" c.trailingCheck,
    ← choose c.encodable ("not " ++ c.encoding.plain) (.ok (.encoding c.encoding)),
    ← choose c.finalEol "no eol at eof" (.ok .finalEol),
    ← choose c.includes "relative include" (.ok .includes),
    ← choose c.notice "no copyright" (.ok .notice),
    ← choose c.lineLimit "line tool long" (.ok c.lineLengthCheck)]

/-- Whether a check of the content of a file fails. Its report is written to the log. -/
def fails (file : Option String) (data : Bytes) (check : Check) : Session Bool := do
  match ← Session.lift (check.examine data) with
  | .pass => return false
  | .fail none => return true
  | .fail (some r) =>
    Session.report
      (file.getD "None" ++ ":" ++ toString r.line ++ ": " ++ r.shown ++ " -- " ++ r.what)
    return true

def modeFails (src : Source) : Session Bool := return Source.isExecutable (← src.mode)

def formatDiff (src : Source) (data output : Bytes) : Except Fault String := do
  let old ← (Text.decodeUtf8 data).mapError Fault.undecodable
  let new ← (Text.decodeUtf8 output).mapError Fault.undecodable
  let diff := Text.unifiedDiff src.name ("reformatted " ++ src.name) (Text.wideLines old)
    (Text.wideLines new)
  return "clang format diff for " ++ src.path ++ "\n\n" ++ Text.str diff

def misformatted (c : Checker) (src : Source) (data : Bytes) (run : Formatting.Run) : Session Bool := do
  if run.code != 0 then
    Session.log .error (c.formatter.shown ++ " called on " ++ Text.quote src.path ++
      " exited with return code " ++ toString run.code)
    return true
  else if run.output == data then return false
  else
    if (← get).threshold ≤ Level.debug.number then
      Session.log .info (← Session.lift (formatDiff src data run.output))
    return true

def formatFails (c : Checker) (src : Source) (data : Bytes) : Session Bool := do
  c.misformatted src data (← Formatting.format c.formatter src.path data)

def tests (c : Checker) (checks : List (String × Check)) (src : Source) (data : Bytes) :
    List (String × Session Bool) :=
  (checks.map fun (name, check) => (name, fails (some src.path) data check)) ++
    (if c.mode.isOn then [("mode (executable bit)", modeFails src)] else []) ++
    (if c.formatter.isOn && Formatting.isCode src.name then
      [("clang-format", c.formatFails src data)]
    else [])

/-- The names of the tests that fail, or of the first of them. -/
def failing (first : Bool) (path : String) : List (String × Session Bool) → Session (List String)
  | [] => return []
  | (name, test) :: rest => do
    if ← test then
      Session.log .info (path ++ ": " ++ name)
      if first then return [name]
      return name :: (← failing first path rest)
    else failing first path rest

def checkSource (c : Checker) (checks : List (String × Check)) (src : Source) (data : Bytes) :
    Session (List String) := do
  Session.log .debug ("checking " ++ Text.quote src.path)
  failing c.failFast.isOn src.path (c.tests checks src data)

def checkFile (c : Checker) (path : Setting) : Session Tally := do
  let checks ← Session.lift c.checklist
  let path ← Session.lift path.toFile
  let data ← Session.readFile path
  return Tally.addAll [] (← c.checkSource checks (Source.ofPath path) data)

def scan (c : Checker) (path : Setting) : Session Tally := do
  let checks ← Session.lift c.checklist
  let sel ← Session.lift (Selection.ofPatterns .binary c.patterns)
  SourceWalk.fold sel path [] fun src tally => do
    match ← src.content sel .binary with
    | none => return .yield tally
    | some data =>
      let tally := Tally.addAll tally (← c.checkSource checks src data)
      return if c.failFast.isOn && !tally.isEmpty then .done tally else .yield tally

end Checker

end SourceTidy
