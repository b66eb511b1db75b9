import SourceTidy.Pattern.Glob
import SourceTidy.Session

/-!
# Formatting

Sources of C and C++ are formatted by a program, which learns the language and the style from the
path.
-/

namespace SourceTidy.Formatting

def usualProgram : String := "clang-format"

def codeNames : List String := ["*.[ch]", "*.[ch]pp", "*.[ch]xx"]

def isCode (name : String) : Bool :=
  codeNames.any fun p => (Glob.ofString p).accepts name.toList

def programName (program : Setting) : Session String :=
  match program with
  | .text name => return name
  | v => throw (.kind (.notProgram v.kind))

structure Run where
  command : List String
  code : Int
  output : Bytes
  deriving DecidableEq, Repr

def Run.check (r : Run) : Session Unit := do
  if r.code != 0 then throw (.formatterFailed r.command r.code)

def format (program : Setting) (path : String) (data : Bytes) : Session Run := do
  let command := [← programName program, "-assume-filename=" ++ path, "-style=file"]
  let formatter ← Session.call command (some data)
  let (code, output) ← Session.reply (formatter.format command data)
  return { command, code, output }

def version (program : Setting) : Session Run := do
  let command := [← programName program, "--version"]
  let formatter ← Session.call command none
  let (code, output) ← Session.reply formatter.version
  return { command, code, output }

end SourceTidy.Formatting
