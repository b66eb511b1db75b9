import SourceTidy.Eol
import SourceTidy.Number.Decimal
import SourceTidy.Text.Integer

/-!
# Settings

The value of an option as a caller, a command line or a settings file gives it. It can be of a kind
that its option does not expect.
-/

namespace SourceTidy

inductive Scalar where
  | none
  | flag (b : Bool)
  | int (n : Int)
  | real (x : Binary64)
  | text (s : String)
  | eol (e : Eol)
  | mode (m : ReadMode)
  deriving DecidableEq, Repr

/-- A value given to an option: a single one, several of them, or several with names. -/
inductive Setting where
  | scalar (v : Scalar)
  | list (members : List Scalar)
  | record (fields : List (String × Scalar))
  deriving DecidableEq, Repr

namespace Scalar

def kind : Scalar → String
  | none => "NoneType"
  | flag _ => "bool"
  | int _ => "int"
  | real _ => "float"
  | text _ => "str"
  | eol _ => "Eol"
  | mode _ => "Mode"

def shown : Scalar → String
  | none => "None"
  | flag b => if b then "True" else "False"
  | int n => toString n
  | real x => x.shown
  | text s => Text.quote s
  | eol e => e.shown
  | mode m => m.shown

def plain : Scalar → String
  | text s => s
  | eol e => "Eol." ++ e.name
  | mode m => "Mode." ++ m.name
  | v => v.shown

/-- Whether a value says yes: it is neither absent nor zero nor empty. -/
def isOn : Scalar → Bool
  | none => false
  | flag b => b
  | int n => n != 0
  | real x => !x.isZero
  | text s => !s.isEmpty
  | eol _ => true
  | mode _ => true

end Scalar

namespace Setting

@[match_pattern]
abbrev none : Setting := scalar .none

@[match_pattern]
abbrev flag (b : Bool) : Setting := scalar (.flag b)

@[match_pattern]
abbrev int (n : Int) : Setting := scalar (.int n)

@[match_pattern]
abbrev real (x : Binary64) : Setting := scalar (.real x)

@[match_pattern]
abbrev text (s : String) : Setting := scalar (.text s)

@[match_pattern]
abbrev eol (e : Eol) : Setting := scalar (.eol e)

@[match_pattern]
abbrev mode (m : ReadMode) : Setting := scalar (.mode m)

def texts (members : List String) : Setting := list (members.map .text)

def kind : Setting → String
  | scalar v => v.kind
  | list _ => "list"
  | record _ => "dict"

def shown : Setting → String
  | scalar v => v.shown
  | list members => "[" ++ ", ".intercalate (members.map Scalar.shown) ++ "]"
  | record fields =>
    "\x7b" ++ ", ".intercalate (fields.map fun p => Text.quote p.1 ++ ": " ++ p.2.shown) ++ "\x7d"

def plain : Setting → String
  | scalar v => v.plain
  | s => s.shown

def isOn : Setting → Bool
  | scalar v => v.isOn
  | list members => !members.isEmpty
  | record fields => !fields.isEmpty

end Setting

end SourceTidy
