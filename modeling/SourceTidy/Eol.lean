import SourceTidy.Text.Quoted

/-!
# Line endings and reading modes

Files end their lines with a line feed, the native way, or with a carriage return and a line feed.
They are read as text or as bytes.
-/

namespace SourceTidy

inductive Eol where
  /-- A line feed. -/
  | native
  /-- A carriage return and a line feed. -/
  | win
  deriving DecidableEq, Repr

namespace Eol

def terminator : Eol → String
  | native => "\n"
  | win => "\r\n"

def name : Eol → String
  | native => "NATIVE"
  | win => "WIN"

/-- The names by which a line ending can be asked for. The native one is that of Unix. -/
def byName : List (String × Eol) := [("NATIVE", native), ("UNIX", native), ("WIN", win)]

def ofName? (name : String) : Option Eol := byName.lookup name

def ofTerminator? (s : String) : Option Eol :=
  if s == "\n" then some native else if s == "\r\n" then some win else none

def shown (e : Eol) : String := "<Eol." ++ e.name ++ ": " ++ Text.quote e.terminator ++ ">"

end Eol

inductive ReadMode where
  | text
  | binary
  deriving DecidableEq, Repr

namespace ReadMode

def letters : ReadMode → String
  | text => "r"
  | binary => "rb"

def name : ReadMode → String
  | text => "TEXT"
  | binary => "BINARY"

def ofLetters? (s : String) : Option ReadMode :=
  if s == "r" then some text else if s == "rb" then some binary else none

def shown (m : ReadMode) : String := "<Mode." ++ m.name ++ ": " ++ Text.quote m.letters ++ ">"

end ReadMode

end SourceTidy
