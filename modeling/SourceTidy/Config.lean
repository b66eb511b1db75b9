import SourceTidy.Checker
import SourceTidy.Ini.Reader
import SourceTidy.Text.Case
import SourceTidy.Updater

/-!
# Configurations

A configuration file holds the patterns that select files, the level of the log and the options of
the tools, each in a section of its own.
-/

namespace SourceTidy.Config

def patternSections : List String := ["path_patterns", "skip_path_patterns", "skip_data_patterns"]

def patternSection (name : String) (patterns : Setting) : Except Fault (List (String × Options)) := do
  let items ← patterns.members (.notList patterns.kind)
  if items.isEmpty then return []
  return [(name, items.mapIdx fun i item => ("pattern_" ++ Text.padNat 2 (i + 1), .scalar item))]

def ofPatterns (p : Patterns) : Except Fault (List (String × Options)) := do
  let names ← patternSection "path_patterns" p.names
  let skippedNames ← patternSection "skip_path_patterns" p.skippedNames
  let skippedData ← patternSection "skip_data_patterns" p.skippedData
  return names ++ skippedNames ++ skippedData

def written (options : Options) : List (String × String) :=
  options.map fun (name, v) => (name, v.plain)

/-- Adds the usual settings to a configuration. It must not have a section for the log yet. -/
def addUsual (currentYear : Int) (ini : Ini) : Except Fault Ini := do
  let ini ← (ini.addSection "logging").mapError Fault.ini
  let ini ← (ini.set "logging" "loglevel" "WARNING").mapError Fault.ini
  let patterns ← ofPatterns Patterns.usual
  let check ← Checker.toOptions {}
  let fix ← Fixer.toOptions {}
  let updater ← Updater.ofOptions currentYear [] Patterns.usual
  let sections := patterns ++
    [("check", check), ("fix", fix), ("update-copyright", updater.toOptions)]
  (ini.load (sections.map fun (name, options) => (name, written options))).mapError .ini

/-- The lines of a text that are complete. A carriage return at the end may be half a terminator. -/
def completeLines (s : Text) : List Text :=
  let s := if s.getLast? == some '\r' then s.dropLast else s
  (Text.lfLines (Text.unifyNewlines s)).filter (·.getLast? == some '\n')

/-- Reads a configuration file. When its bytes end within a character, that is noticed only after
the lines before. -/
def ofFile (name : String) (data : Bytes) : Except Fault Ini :=
  match Text.decodeFrom 0 data with
  | .ok s => (Ini.read {} name (Text.unifyNewlines s)).mapError .ini
  | .error ⟨first, size, .unexpectedEnd⟩ => do
    let s ← (Text.decodeUtf8 (data.take first)).mapError Fault.undecodable
    let _ ← (Ini.readLines (Ini.start {} name) 1 (completeLines s)).mapError Fault.ini
    throw (.undecodable ⟨"utf-8", data.drop first, 0, size, .unexpectedEnd⟩)
  | .error ⟨first, size, problem⟩ =>
    .error (.undecodable ⟨"utf-8", data, first, first + size, problem⟩)

def sectionValues (ini : Ini) (name : String) : Except Fault (List String) :=
  if ini.hasSection name then (ini.values name).mapError .ini else .ok []

/-- The patterns of a configuration. A list without a section is empty. -/
def patterns (ini : Ini) : Except Fault Patterns := do
  let names ← sectionValues ini "path_patterns"
  let skippedNames ← sectionValues ini "skip_path_patterns"
  let skippedData ← sectionValues ini "skip_data_patterns"
  return {
    names := .texts names
    skippedNames := .texts skippedNames
    skippedData := .texts skippedData }

def value (ini : Ini) (sectionName name : String) : Except Fault String :=
  (ini.get sectionName name).mapError .ini

def boolWords : List (String × Bool) :=
  [("1", true), ("yes", true), ("true", true), ("on", true), ("0", false), ("no", false),
    ("false", false), ("off", false)]

def ofBoolWord (s : String) : Except Fault Bool :=
  match boolWords.lookup (Text.str (Text.toLower s.toList)) with
  | some b => .ok b
  | none => .error (.value (.notBoolean s))

def flag (ini : Ini) (sectionName name : String) : Except Fault Setting := do
  return .flag (← ofBoolWord (← value ini sectionName name))

def number (ini : Ini) (sectionName name : String) : Except Fault Setting := do
  return .int (← (Setting.text (← value ini sectionName name)).toInt)

def text (ini : Ini) (sectionName name : String) : Except Fault Setting := do
  return .text (← value ini sectionName name)

def eol (ini : Ini) (sectionName name : String) : Except Fault Setting := do
  let name := Text.str (Text.toUpper (← value ini sectionName name).toList)
  match Eol.ofName? name with
  | some e => return .eol e
  | none => throw (.noEolName name)

def flagOrText (ini : Ini) (sectionName name : String) : Except Fault Setting := do
  let s ← value ini sectionName name
  return match ofBoolWord s with
    | .ok b => .flag b
    | .error _ => .text s

def present (ini : Ini) (sectionName : String)
    (readers : List (String × (Ini → String → String → Except Fault Setting))) : Except Fault Options :=
  (readers.filter fun r => ini.hasOption sectionName r.1).mapM fun (name, read) =>
    return (name, ← read ini sectionName name)

def level (verboseNamed : Bool) (ini : Ini) : Except Fault (Option Nat) := do
  if ini.hasSection "logging" && ini.hasOption "logging" "loglevel" then
    let name ← value ini "logging" "loglevel"
    match Level.threshold? verboseNamed name with
    | some n => return some n
    | none => throw (.value (.notLevel name))
  else return none

def backup (ini : Ini) (sectionName : String) : Except Fault Options := do
  if ini.hasOption sectionName "backup" then
    match ← flag ini sectionName "backup" with
    | .flag true => return [("backup_ext", .text ".bak")]
    | _ => return []
  else return []

def levelOption (verboseNamed : Bool) (ini : Ini) : Except Fault Options := do
  return match ← level verboseNamed ini with
    | some n => [("loglevel", .int n)]
    | none => []

def checkOptions (verboseNamed : Bool) (ini : Ini) : Except Fault Options := do
  if !ini.hasSection "check" then return []
  let options ← present ini "check" [
    ("failfast", flag), ("check_tabs", flag), ("check_eol", flag), ("check_trailing", flag),
    ("check_encoding", flag), ("check_eol_at_eof", flag), ("check_relative_include", flag),
    ("check_copyright", flag), ("check_mode", flag), ("clang_format", flagOrText),
    ("maxlinelen", number), ("eol", eol), ("encoding", text)]
  return options ++ (← levelOption verboseNamed ini)

/-- The options of the fixer. Whether files end with a line feed is not among them. -/
def fixOptions (verboseNamed : Bool) (ini : Ini) : Except Fault Options := do
  if !ini.hasSection "fix" then return []
  let options ← present ini "fix" [
    ("tabsize", number), ("eol", eol), ("fix_trailing", flag), ("fix_mode", flag),
    ("clang_format", text)]
  let backup ← backup ini "fix"
  return options ++ backup ++ (← levelOption verboseNamed ini)

def updateOptions (verboseNamed : Bool) (ini : Ini) : Except Fault Options := do
  if !ini.hasSection "update-copyright" then return []
  let options ← present ini "update-copyright" [
    ("copyright_template_path", text), ("update", flag), ("year", number)]
  let backup ← backup ini "update-copyright"
  return options ++ backup ++ (← levelOption verboseNamed ini)

def commandOptions (verboseNamed : Bool) (ini : Ini) (command : Setting) : Except Fault Options :=
  match command with
  | .text "check" => checkOptions verboseNamed ini
  | .text "fix" => fixOptions verboseNamed ini
  | .text "update-copyright" => updateOptions verboseNamed ini
  | v => .error (.value (.unexpectedCommand v))

end SourceTidy.Config
