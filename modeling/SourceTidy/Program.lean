import SourceTidy.CommandLine.Request
import SourceTidy.Config

/-!
# The program

The program reads its command line and maybe a configuration. It then checks, fixes or updates the
selected files of some source trees, or prints the usual configuration.
-/

namespace SourceTidy

inductive Ending where
  /-- The answer of a check: whether something is not in order. -/
  | answered (b : Bool)
  | returned (code : Nat)
  /-- The end while a command line was read. -/
  | exited (code : Nat)
  deriving DecidableEq, Repr

structure Outcome where
  ending : Ending
  output : String
  errors : String
  world : World

namespace Program

structure Call where
  /-- The words with which it is called. Without any, those of the system are used. -/
  line : List String
  systemLine : List String

def failureCode : Nat := 1

def interruptCode : Nat := 130

/-- What stands in the log for the stack of calls at a fault. -/
def stackMark : String := "<traceback>"

inductive Task where
  | check (c : Checker) (paths : List Setting)
  | fix (f : Fixer) (paths : List Setting)
  | update (u : Updater) (paths : List Setting)
  | dumpConfig

def setLevel (v : Setting) : Session Unit := do
  match v with
  | .int n => modify fun w => { w with threshold := n.toNat }
  | .text name =>
    match Level.threshold? true name with
    | some n => modify fun w => { w with threshold := n }
    | none => throw (.value (.unknownLevel name))
  | v => throw (.kind (.notLevel v.shown))

def commaList (v : Setting) : Session Setting :=
  match v with
  | .text s => return .texts (((Text.splitAt ',' s.toList)).map Text.str)
  | v => throw (.noProperty v.kind "split")

def readConfig (path : Setting) : Session Ini := do
  match path with
  | .text path => Session.lift (Config.ofFile path (← Session.readFile path))
  | v => throw (.kind (.notProgram v.kind))

def choosePatterns (values : Values) (p : Patterns) : Session Patterns := do
  let p ← match values.value "path_patterns" with
    | .none => pure p
    | v => do pure { p with names := ← commaList v }
  match values.value "skip_path_patterns" with
  | .none => return p
  | v =>
    if v.isOn then return { p with skippedNames := ← commaList v }
    else return { p with skippedNames := .texts [] }

def shownPatterns (v : Setting) : String :=
  match v with
  | .list items => ", ".intercalate (items.map Scalar.shown)
  | v => v.shown

def logPatterns (p : Patterns) : Session Unit := do
  Session.log .debug ("PATH_PATTERNS: " ++ shownPatterns p.names)
  Session.log .debug ("SKIP_PATH_PATTERNS: " ++ shownPatterns p.skippedNames)
  Session.log .debug ("SKIP_DATA_PATTERNS: " ++ shownPatterns p.skippedData)

/-- The formatting program that is asked for, if one is. Its version goes to the log. -/
def chooseFormatter (v : Setting) : Session Setting := do
  match v with
  | .none | .flag false | .text "False" => return .flag false
  | v =>
    let program := if v == .flag true then .text Formatting.usualProgram else v
    let run ← Formatting.version program
    run.check
    Session.log .debug
      (Text.str (← Session.lift ((Text.decodeUtf8 run.output).mapError .undecodable)))
    return program

def paths (values : Values) : List Setting :=
  match values.value "paths" with
  | .list items => items.map .scalar
  | _ => []

def pick (values : Values) (targets : List (String × String)) : List (String × Setting) :=
  targets.map fun (option, target) => (option, values.value target)

def summary (t : Tally) : String :=
  "\n".intercalate (t.map fun (name, n) => Text.padLeft 7 (toString n) ++ ": " ++ name)

def checker (values : Values) (formatter : Setting) (p : Patterns) : Except Fault Checker :=
  let options := ["check_tabs", "check_eol", "check_trailing", "check_encoding", "check_eol_at_eof",
    "check_relative_include", "check_copyright", "check_mode", "maxlinelen", "failfast"]
  Checker.ofOptions (("clang_format", formatter) :: pick values (options.map fun o => (o, o))) p

def fixer (values : Values) (formatter : Setting) (p : Patterns) : Except Fault Fixer :=
  let options := [("tabsize", "tabsize"), ("fix_trailing", "fix_trailing"), ("fix_eof", "fix_eof"),
    ("fix_mode", "fix_mode"), ("eol", "eol"), ("backup_ext", "backup")]
  Fixer.ofOptions (("clang_format", formatter) :: pick values options) p

def updater (currentYear : Int) (values : Values) (p : Patterns) : Except Fault Updater :=
  let options := [("copyright_template_path", "copyright_template_path"), ("update", "update"),
    ("year", "year"), ("backup_ext", "backup")]
  Updater.ofOptions currentYear (pick values options) p

def equip (command : Command) (values : Values) (p : Patterns) : Session Task := do
  let p ← choosePatterns values p
  logPatterns p
  let formatter ← chooseFormatter (values.value "clang_format")
  match command with
  | .check => return .check (← Session.lift (checker values formatter p)) (paths values)
  | .fix => return .fix (← Session.lift (fixer values formatter p)) (paths values)
  | .updateCopyright =>
    return .update (← Session.lift (updater (← get).year values p)) (paths values)
  | .dumpConfig => return .dumpConfig

/-- The values and patterns of a configuration. The words of the system are read again over the values. -/
def configure (call : Call) (command : Command) (path : Setting) :
    Session (Exit ⊕ (Command × Values × Patterns)) := do
  let ini ← readConfig path
  let p ← Session.lift (Config.patterns ini)
  let known ← Session.lift (Config.commandOptions true ini (.text command.name))
  match Request.read (← get).year true call.systemLine call.systemLine (some known) with
  | .error (.exit e) => return .inl e
  | .error (.fault f) => throw f
  | .ok (command, values) =>
    setLevel (values.value "loglevel")
    return .inr (command, values, p)

def prepare (call : Call) (command : Command) (values : Values) : Session (Exit ⊕ Task) := do
  setLevel (values.value "loglevel")
  match values.value "config" with
  | .none => return .inr (← equip command values Patterns.usual)
  | path =>
    match ← configure call command path with
    | .inl e => return .inl e
    | .inr (command, values, p) => return .inr (← equip command values p)

def verdict (t : Tally) : LogRecord :=
  if t.isEmpty then ⟨.info, "check completed successfully"⟩
  else ⟨.warning, "check failed\n" ++ summary t⟩

def total (c : Checker) (paths : List Setting) : Session Tally :=
  paths.foldlM (fun tally path => return Tally.merge tally (← c.scan path)) []

def checkPaths (c : Checker) (paths : List Setting) : Session Ending := do
  let tally ← total c paths
  Session.log (verdict tally).level (verdict tally).message
  return .answered (!tally.isEmpty)

def fixPaths (f : Fixer) (paths : List Setting) : Session Unit := paths.forM fun path => f.scan path

/-- The updater keeps its template from one tree to the next. -/
def updatePaths (u : Updater) : List Setting → Session Unit
  | [] => return ()
  | path :: rest => do
    let (r, u) ← u.scan path
    Session.lift r
    updatePaths u rest

def usualConfig : Session String := do
  return Text.str (← Session.lift (Config.addUsual (← get).year {})).write

def perform : Task → Session (Ending × String)
  | .check c paths => return (← checkPaths c paths, "")
  | .fix f paths => do
    fixPaths f paths
    return (.returned 0, "")
  | .update u paths => do
    updatePaths u paths
    return (.returned 0, "")
  | .dumpConfig => return (.returned 0, (← usualConfig) ++ "\n")

def obey (call : Call) (command : Command) (values : Values) : Session (Exit ⊕ (Ending × String)) := do
  match ← prepare call command values with
  | .inl e => return .inl e
  | .inr task => return .inr (← perform task)

def reportFault (f : Fault) : Session Ending := do
  match f with
  | .interrupted =>
    Session.log .warning "Keyboard interrupt received: exit the program"
    return .returned interruptCode
  | f =>
    Session.log .critical
      ("unexpected exception caught: " ++ Text.quote f.category ++ " " ++ f.message)
    Session.log .debug ("stacktrace:\n" ++ stackMark)
    return .returned failureCode

def obeyOrReport (call : Call) (command : Command) (values : Values) :
    Session (Exit ⊕ (Ending × String)) := do
  match ← Session.attempt (obey call command values) with
  | .ok result => return result
  | .error f => return .inr (← reportFault f, "")

def printedLog (log : List LogRecord) : String :=
  String.join (log.map fun r => r.level.name ++ ": " ++ r.message ++ "\n")

def started (w : World) : World :=
  { w with threshold := Level.info.number, verboseNamed := true, log := [], calls := [] }

def request (call : Call) (year : Int) : Except RequestStop (Command × Values) :=
  let line := if call.line.isEmpty then call.systemLine else call.line
  Request.read year true line call.systemLine none

/-- The log goes to the output, before what else is printed. -/
def execute (call : Call) (w : World) : Outcome :=
  let w := started w
  match request call w.year with
  | .error (.exit e) => ⟨.exited e.code, e.output, e.errors, w⟩
  | .error (.fault f) => ⟨.returned failureCode, "", f.message ++ "\n", w⟩
  | .ok (command, values) =>
    match Session.run (obeyOrReport call command values) w with
    | (.ok (.inl e), w) => ⟨.exited e.code, printedLog w.log ++ e.output, e.errors, w⟩
    | (.ok (.inr (ending, text)), w) => ⟨ending, printedLog w.log ++ text, "", w⟩
    | (.error f, w) => ⟨.returned failureCode, printedLog w.log, f.message ++ "\n", w⟩

end Program

end SourceTidy
