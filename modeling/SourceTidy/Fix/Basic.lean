import SourceTidy.Text.Lines
import SourceTidy.Text.Space

/-!
# Fixes

Fixes of the text of a file. Some of them are applied to each line on its own.
-/

namespace SourceTidy

inductive LineFix where
  | trim
  | tabs (size : Nat)
  deriving DecidableEq, Repr

namespace Fix

def trimLines : Text → Text
  | [] => []
  | c :: s =>
    let t := trimLines s
    if Text.isBlank c && (t.isEmpty || t.head? == some '\n') then t else c :: t

def expandTabs (size : Nat) (s : Text) : Text :=
  s.flatMap fun c => if c == '\t' then List.replicate size ' ' else [c]

def endWithEol (s : Text) : Text := Text.trimEnd s ++ ['\n']

end Fix

namespace LineFix

def apply : LineFix → Text → Text
  | trim => Fix.trimLines
  | tabs size => Fix.expandTabs size

def applyAll (fixes : List LineFix) (s : Text) : Text := fixes.foldl (fun s f => f.apply s) s

/-- A text and what each of several fixes makes of what the one before left. -/
def stages (fixes : List LineFix) (s : Text) : List Text :=
  match fixes with
  | [] => [s]
  | f :: rest => s :: stages rest (f.apply s)

def applyToLines (fixes : List LineFix) (s : Text) : Text :=
  (Text.lfLines s).flatMap (applyAll fixes)

end LineFix

end SourceTidy
