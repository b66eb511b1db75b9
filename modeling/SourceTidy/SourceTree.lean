import SourceTidy.Source

/-!
# Source trees

A source tree is a path together with the patterns that select its files and the mode in which they
are read.
-/

namespace SourceTidy

structure SourceTree where
  path : Setting
  mode : Setting
  patterns : Patterns
  selection : Selection
  others : Options := []

namespace SourceTree

def openMode (v : Setting) : Except Fault ReadMode :=
  match v with
  | .mode m => .ok m
  | .text s =>
    match ReadMode.ofLetters? s with
    | some m => .ok m
    | none => .error (.value (.notReadMode v))
  | _ => .error (.value (.notReadMode v))

def make (path mode : Setting) (patterns : Patterns) : Except Fault SourceTree := do
  let m ← openMode mode
  let selection ← Selection.ofPatterns m patterns
  return { path, mode := .mode m, patterns, selection }

def optionNames : List String :=
  ["path", "mode", "path_patterns", "skip_path_patterns", "skip_data_patterns"]

def title : String := "SrcTree"

def ofOptions (options : Options) : Except Fault SourceTree := do
  options.check title optionNames
  make (options.get "path" (.text ".")) (options.get "mode" (.mode .text)) {
    names := options.get "path_patterns" Patterns.usual.names
    skippedNames := options.get "skip_path_patterns" Patterns.usual.skippedNames
    skippedData := options.get "skip_data_patterns" Patterns.usual.skippedData }

def patternMode (t : SourceTree) : ReadMode :=
  if t.mode == .mode .binary then .binary else .text

/-- Changes the patterns of the wanted names. Patterns that cannot be used are kept, but the old
selection stays. -/
def setNames (t : SourceTree) (v : Setting) : Except Fault Unit × SourceTree :=
  let t := { t with patterns.names := v }
  match Selection.globs v with
  | .ok names => (.ok (), { t with selection.names := names })
  | .error f => (.error f, t)

def setSkippedNames (t : SourceTree) (v : Setting) : Except Fault Unit × SourceTree :=
  let t := { t with patterns.skippedNames := v }
  match Selection.globs v with
  | .ok skippedNames => (.ok (), { t with selection.skippedNames := skippedNames })
  | .error f => (.error f, t)

def setSkippedData (t : SourceTree) (v : Setting) : Except Fault Unit × SourceTree :=
  let t := { t with patterns.skippedData := v }
  match DataPattern.ofSetting t.patternMode v with
  | .ok skippedData => (.ok (), { t with selection.skippedData := skippedData })
  | .error f => (.error f, t)

def withSetting (t : SourceTree) (name : String) (v : Setting) : Except Fault Unit × SourceTree :=
  match name with
  | "path" => (.ok (), { t with path := v })
  | "mode" => (.ok (), { t with mode := v })
  | "path_patterns" => t.setNames v
  | "skip_path_patterns" => t.setSkippedNames v
  | "skip_data_patterns" => t.setSkippedData v
  | name => (.ok (), { t with others := (name, v) :: t.others })

def setting (t : SourceTree) (name : String) : Except Fault Setting :=
  match name with
  | "path" => .ok t.path
  | "mode" => .ok t.mode
  | "path_patterns" => .ok t.patterns.names
  | "skip_path_patterns" => .ok t.patterns.skippedNames
  | "skip_data_patterns" => .ok t.patterns.skippedData
  | name => t.others.find title name

/-- The mode in which files are read. A setting of another kind is noticed when one is read. -/
def readMode (t : SourceTree) : Except Fault ReadMode :=
  match t.mode with
  | .mode m => .ok m
  | .eol e => .error (.value (.invalidOpenMode e.terminator))
  | v => .error (.noProperty v.kind "value")

inductive Content where
  | text (s : Text)
  | bytes (data : Bytes)
  deriving DecidableEq, Repr

def Content.of : (m : ReadMode) → m.Data → Content
  | .text, s => .text s
  | .binary, data => .bytes data

/-- Whether the skipped content is found in a text, or in its bytes where files are read as such. -/
def skipsData (t : SourceTree) (s : Text) : Except Fault Bool :=
  if t.mode == .mode .binary then t.selection.skippedData.foundIn .binary (Text.encode s)
  else t.selection.skippedData.foundIn .text s

def files (t : SourceTree) : Session (List (Source × Content)) :=
  SourceWalk.fold t.selection t.path [] fun src found => do
    let m ← Session.lift t.readMode
    match ← src.content t.selection m with
    | some data => return .yield (found ++ [(src, Content.of m data)])
    | none => return .yield found

end SourceTree

end SourceTidy
