import SourceTidy.Pattern.Glob
import SourceTidy.Pattern.Regex.Reader
import SourceTidy.Pattern.Regex.Search
import SourceTidy.Setting.Convert
import SourceTidy.Text.Lines

/-!
# Selections

Names are wanted or skipped by glob patterns, and files are skipped by a regular expression that is
searched in what was read of them.
-/

namespace SourceTidy

structure Patterns where
  /-- Globs of the wanted names. Without any, every name is wanted. -/
  names : Setting
  /-- Globs of the names that are skipped, together with all below them. -/
  skippedNames : Setting
  skippedData : Setting
  deriving DecidableEq, Repr

namespace Patterns

def usualNames : List String :=
  ["*.[ch]", "*.[ch]pp", "*.[ch]xx", "*.txt", "*.cmake", "*.sh", "*.bash", "*.bat", "*.xsd",
    "*.xml"]

def usualSkippedNames : List String := [".*"]

def usual : Patterns where
  names := .texts usualNames
  skippedNames := .texts usualSkippedNames
  skippedData := .texts []

end Patterns

abbrev ReadMode.Data : ReadMode → Type
  | .text => Text
  | .binary => Bytes

/-- Reads the content of a file. Text is decoded and has line feeds only. -/
def ReadMode.decode : (m : ReadMode) → Bytes → Except Undecodable m.Data
  | .text, data => (Text.decodeUtf8 data).map Text.unifyNewlines
  | .binary, data => .ok data

/-- A regular expression for what is read of files in some mode. Without one, nothing is found. -/
structure DataPattern where
  mode : ReadMode
  regex : Option Regex

namespace DataPattern

def alternatives (index : Nat) : List Scalar → Except Fault (List String)
  | [] => .ok []
  | .text s :: rest => do return s :: (← alternatives (index + 1) rest)
  | v :: _ => .error (.kind (.notJoinableItem index v.kind))

/-- The pattern of regular expressions, which are read as the alternatives of one. -/
def ofSetting (mode : ReadMode) (patterns : Setting) : Except Fault DataPattern := do
  let items ← alternatives 0 (← patterns.members .notJoinable)
  if items.isEmpty then return ⟨mode, none⟩
  let joined := ("|".intercalate items).toList
  if mode == .binary then
    let _ ← (Text.encodeAscii joined).mapError .unencodable
  let regex ← (Regex.ofText (mode == .text) joined).mapError .regex
  return ⟨mode, some regex⟩

/-- The characters of bytes are those of their numbers. -/
def search (p : DataPattern) (s : Text) : Bool :=
  match p.regex with
  | some r => r.foundIn s
  | none => false

def foundIn (p : DataPattern) : (m : ReadMode) → m.Data → Except Fault Bool
  | .text, s => if p.mode == .text then .ok (p.search s) else .error (.kind .bytesPatternOnText)
  | .binary, data =>
    if p.mode == .binary then .ok (p.search (Text.decodeLatin1 data))
    else .error (.kind .textPatternOnBytes)

end DataPattern

structure Selection where
  names : List Glob
  skippedNames : List Glob
  skippedData : DataPattern

namespace Selection

def glob (pattern : Scalar) : Except Fault Glob :=
  match pattern with
  | .text s => .ok (Glob.ofString s)
  | v => .error (.kind (.noPattern v.kind))

def globs (patterns : Setting) : Except Fault (List Glob) := do
  (← patterns.members (.notList patterns.kind)).mapM glob

def ofPatterns (mode : ReadMode) (p : Patterns) : Except Fault Selection := do
  let names ← globs p.names
  let skippedNames ← globs p.skippedNames
  let skippedData ← DataPattern.ofSetting mode p.skippedData
  return { names, skippedNames, skippedData }

def wants (s : Selection) (name : String) : Bool :=
  s.names.isEmpty || s.names.any (·.accepts name.toList)

def skips (s : Selection) (name : String) : Bool :=
  s.skippedNames.any (·.accepts name.toList)

end Selection

end SourceTidy
