import SourceTidy.Fixer
import SourceTidy.Notice.Update
import SourceTidy.Template.Basic

/-!
# The updater of copyright notices

The updater brings the years of copyright notices up to date, and puts a notice made from a template
at the start of the files that have none.
-/

namespace SourceTidy

structure Updater where
  templatePath : Setting := .none
  update : Setting := .flag true
  year : Setting
  backup : Setting := .none
  patterns : Patterns := Patterns.usual
  /-- The digits of the year that notices get. -/
  yearText : String
  /-- The notice for files that have none. -/
  template : Option (List CodePoint) := some []
  others : Options := []
  deriving DecidableEq, Repr

namespace Updater

def optionNames : List String := ["copyright_template_path", "update", "year", "backup_ext"]

def yearDigits (v : Setting) : Except Fault String :=
  match v with
  | .int _ | .flag _ | .real _ => v.toInt.map toString
  | v => .error (.kind (.notYear v.kind))

def title : String := "CopyrightTool"

/-- The year is the current one unless another one is given. -/
def ofOptions (currentYear : Int) (options : Options) (patterns : Patterns) : Except Fault Updater := do
  options.check title optionNames
  let year := match options.get "year" .none with
    | .none => .int currentYear
    | v => v
  let yearText ← yearDigits year
  return {
    templatePath := options.get "copyright_template_path" .none
    update := options.get "update" (.flag true)
    year
    backup := options.get "backup_ext" .none
    patterns
    yearText }

/-- Changes a setting by its name. The year that notices get stays. -/
def withSetting (u : Updater) (name : String) (v : Setting) : Updater :=
  match name with
  | "copyright_template_path" => { u with templatePath := v }
  | "update" => { u with update := v }
  | "year" => { u with year := v }
  | "backup_ext" => { u with backup := v }
  | name => { u with others := (name, v) :: u.others }

def setting (u : Updater) (name : String) : Except Fault Setting :=
  match name with
  | "copyright_template_path" => .ok u.templatePath
  | "update" => .ok u.update
  | "year" => .ok u.year
  | "backup_ext" => .ok u.backup
  | name => u.others.find title name

def toOptions (u : Updater) : Options :=
  (if u.templatePath.isOn then [("copyright_template_path", u.templatePath)] else []) ++
    [("update", .flag u.update.isOn)] ++
    (if u.year.isOn then [("year", u.year)] else []) ++
    [("backup", .flag (u.backup != .none))]

def notice (u : Updater) : Session (Option (List CodePoint)) := do
  if u.templatePath.isOn then
    let data ← Session.readFile (← Session.lift u.templatePath.toFile)
    let s ← Session.lift ((ReadMode.decode .text data).mapError .undecodable)
    return some (← Session.lift ((Template.fill [("year", u.year)] s).mapError .template))
  else return none

def loadTemplate (u : Updater) : Session Updater := return { u with template := ← u.notice }

/-- An updater that has read its template anew if it has one. -/
def prepare (u : Updater) : Session Updater :=
  if u.templatePath.isOn then u.loadTemplate else return u

def updateYears (u : Updater) (s : Text) : Text := Notice.update u.yearText.toList s

def updateText (u : Updater) (s : Text) : List CodePoint :=
  let s := if u.update.isOn then u.updateYears s else s
  match u.template with
  | some notice =>
    if Notice.foundInText s then CodePoint.ofText s else notice ++ CodePoint.ofText s
  | none => CodePoint.ofText s

/-- A notice that cannot be written is noticed only when the file has been emptied. -/
def updateSource (u : Updater) (src : Source) (s : Text) : Session Unit := do
  Session.log .debug ("updating " ++ Text.quote src.path)
  match CodePoint.toText (u.updateText s) with
  | .ok s => Session.writeFile src.path (Text.encode s)
  | .error problem =>
    Session.writeFile src.path []
    throw (.unencodable problem)

/-- Updates the file at a path. It is read as bytes, in which no notice can be looked for, so this always
fails, but not before the old file was moved away, or the new one emptied if nothing is looked for. -/
def updateFile (u : Updater) (path into : Setting) : Session Unit := do
  let file ← Session.lift path.toFile
  let _ ← Session.readFile file
  if into == .none then Session.keepOld u.backup file
  let target := if into == .none then path else into
  Session.log .debug ("updating " ++ target.shown)
  if u.update.isOn || u.template.isSome then throw (.kind .textPatternOnBytes)
  Session.writeFile (← Session.lift target.toFile) []
  throw (.kind .bytesToTextFile)

def updateTree (u : Updater) (path : Setting) : Session Unit := do
  let sel ← Session.lift (Selection.ofPatterns .text u.patterns)
  SourceWalk.fold sel path () fun src _ => do
    match ← src.content sel .text with
    | none => return .yield ()
    | some s =>
      Session.keepOld u.backup src.path
      u.updateSource src s
      return .yield ()

/-- The outcome of an operation with an updater that has read its template, and that updater. -/
def afterPreparing (u : Updater) (op : Updater → Session Unit) : Session (Except Fault Unit × Updater) := do
  match ← Session.attempt u.prepare with
  | .error f => return (.error f, u)
  | .ok u => return (← Session.attempt (op u), u)

def scan (u : Updater) (path : Setting) : Session (Except Fault Unit × Updater) := do
  if !u.templatePath.isOn && !u.update.isOn then
    Session.log .info "nothing to do: update=False and no template to add"
  u.afterPreparing (·.updateTree path)

def updateOne (u : Updater) (path into : Setting) : Session (Except Fault Unit × Updater) :=
  u.afterPreparing (·.updateFile path into)

end Updater

end SourceTidy
