import SourceTidy.Fix.Basic
import SourceTidy.Formatting
import SourceTidy.Source

/-!
# The fixer

The fixer removes blanks at the ends of lines, replaces tabs by spaces, ends files with a line feed,
writes the wanted line endings, formats sources of C and C++ and makes files not executable. It can
keep the old files.
-/

namespace SourceTidy

structure Fixer where
  /-- The number of spaces for a tab. With zero, tabs stay. -/
  tabSize : Setting := .int 4
  trailing : Setting := .flag true
  finalEol : Setting := .flag true
  mode : Setting := .flag true
  formatter : Setting := .flag false
  eol : Setting := .eol .native
  /-- What is added to the name of the old file, if that is kept. -/
  backup : Setting := .none
  patterns : Patterns := Patterns.usual
  others : Options := []
  deriving DecidableEq, Repr

def Session.keepOld (backup : Setting) (path : String) : Session Unit := do
  if backup.isOn then
    match backup with
    | .text ext => Session.moveFile path (path ++ ext)
    | v => throw (.kind (.notText v.kind))

namespace Fixer

def optionNames : List String :=
  ["tabsize", "fix_trailing", "fix_eof", "fix_mode", "clang_format", "eol", "backup_ext"]

def title : String := "FixTool"

def ofOptions (options : Options) (patterns : Patterns) : Except Fault Fixer := do
  options.check title optionNames
  let tabSize ← (options.get "tabsize" (.int 4)).toInt
  let eol ← (options.get "eol" (.eol .native)).toEol
  return {
    tabSize := .int tabSize
    trailing := options.get "fix_trailing" (.flag true)
    finalEol := options.get "fix_eof" (.flag true)
    mode := options.get "fix_mode" (.flag true)
    formatter := options.get "clang_format" (.flag false)
    eol := .eol eol
    backup := options.get "backup_ext" .none
    patterns }

def withSetting (f : Fixer) (name : String) (v : Setting) : Fixer :=
  match name with
  | "tabsize" => { f with tabSize := v }
  | "fix_trailing" => { f with trailing := v }
  | "fix_eof" => { f with finalEol := v }
  | "fix_mode" => { f with mode := v }
  | "clang_format" => { f with formatter := v }
  | "eol" => { f with eol := v }
  | "backup_ext" => { f with backup := v }
  | name => { f with others := (name, v) :: f.others }

def setting (f : Fixer) (name : String) : Except Fault Setting :=
  match name with
  | "tabsize" => .ok f.tabSize
  | "fix_trailing" => .ok f.trailing
  | "fix_eof" => .ok f.finalEol
  | "fix_mode" => .ok f.mode
  | "clang_format" => .ok f.formatter
  | "eol" => .ok f.eol
  | "backup_ext" => .ok f.backup
  | name => f.others.find title name

def toOptions (f : Fixer) : Except Fault Options := do
  let tabSize ← f.tabSize.toInt
  let eol ← f.eol.toEol
  return [
    ("tabsize", .int tabSize),
    ("eol", .text eol.name),
    ("fix_trailing", .flag f.trailing.isOn),
    ("fix_eof", .flag f.finalEol.isOn),
    ("fix_mode", .flag f.mode.isOn),
    ("clang_format", f.formatter),
    ("backup", .flag (f.backup != .none))]

/-- Numbers of repetitions are below this, and not below its negative. -/
def countLimit : Int := Int.pow 2 63

/-- No memory holds so many spaces. -/
def spaceLimit : Int := Int.pow 2 35

/-- The number of spaces for a tab. It is zero for a negative setting. -/
def spaces (v : Setting) : Except Fault Nat :=
  match v with
  | .int n =>
    if n < -countLimit || countLimit ≤ n then .error .countTooLarge
    else if spaceLimit ≤ n then .error .outOfMemory
    else .ok n.toNat
  | .flag b => .ok b.toNat
  | v => .error (.kind (.notCount v.kind))

def lineFixes (f : Fixer) : Except Fault (List LineFix) := do
  let trim := if f.trailing.isOn then [LineFix.trim] else []
  let tabs ← if f.tabSize.isOn then (spaces f.tabSize).map fun n => [LineFix.tabs n] else .ok []
  return trim ++ tabs

def fixText (f : Fixer) (fixes : List LineFix) (s : Text) : Text :=
  LineFix.applyToLines fixes (if f.finalEol.isOn then Fix.endWithEol s else s)

def formatText (f : Fixer) (src : Source) (s : Text) : Session Text := do
  let run ← Formatting.format f.formatter src.path (Text.encode s)
  run.check
  Session.lift ((Text.decodeUtf8 run.output).mapError .undecodable)

/-- A terminator that is none is noticed only when the file has been emptied. -/
def writeText (f : Fixer) (path : String) (s : Text) : Session Unit := do
  let terminator ← Session.lift f.eol.characters
  match Eol.ofTerminator? terminator with
  | some e => Session.writeFile path (Text.encode (Text.writeNewlines e.terminator.toList s))
  | none =>
    Session.writeFile path []
    throw (.value (.illegalNewline terminator))

/-- Makes a source not executable: the three bits are flipped if some of them is set. -/
def fixMode (src : Source) : Session Unit := do
  let mode ← src.mode
  if Source.isExecutable mode then
    Session.change src.path (·.setMode src.path (mode ^^^ executableBits))

def fixSource (f : Fixer) (fixes : List LineFix) (src : Source) (s : Text) : Session Unit := do
  Session.log .debug ("fixing " ++ Text.quote src.path)
  let s := f.fixText fixes s
  let s ← if f.formatter.isOn && Formatting.isCode src.name then f.formatText src s else pure s
  f.writeText src.path s
  if f.mode.isOn then fixMode src

/-- Fixes the file at a path. It is read as bytes, for which there is no fix, so this always fails, but
not before the old file was moved away. -/
def fixFile (f : Fixer) (path into : Setting) : Session Unit := do
  let _ ← Session.lift f.lineFixes
  let file ← Session.lift path.toFile
  let _ ← Session.readFile file
  if into == .none then Session.keepOld f.backup file
  Session.log .debug ("fixing " ++ (if into == .none then path else into).shown)
  throw (.kind (if f.finalEol.isOn then .textToBytes else .linesOfBytes))

def scan (f : Fixer) (path : Setting) : Session Unit := do
  let fixes ← Session.lift f.lineFixes
  let sel ← Session.lift (Selection.ofPatterns .text f.patterns)
  SourceWalk.fold sel path () fun src _ => do
    match ← src.content sel .text with
    | none => return .yield ()
    | some s =>
      Session.keepOld f.backup src.path
      f.fixSource fixes src s
      return .yield ()

end Fixer

end SourceTidy
