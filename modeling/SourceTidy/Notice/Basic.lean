import SourceTidy.Text.Basic
import SourceTidy.Text.Digit
import SourceTidy.Text.Space

/-!
# Copyright notices

A copyright notice is the word, maybe followed by the letter in brackets, blanks, and a year of four
digits.
-/

namespace SourceTidy.Notice

def takeBlanks? : Text → Option Text
  | c :: s => if Text.isBlank c then some (s.dropWhile Text.isBlank) else none
  | [] => none

def takeChar? (test : Char → Bool) : Text → Option Text
  | c :: s => if test c then some s else none
  | [] => none

def isInitial (c : Char) : Bool := c == 'c' || c == 'C'

def takeWord? (s : Text) : Option Text := do
  Text.after? "opyright".toList (← takeChar? isInitial s)

def takeLetter? (s : Text) : Option Text := do
  let s ← takeBlanks? s
  let s ← takeChar? (· == '(') s
  let s ← takeChar? isInitial s
  takeChar? (· == ')') s

def takeMark? (s : Text) : Option Text := do
  let s ← takeWord? s
  return (takeLetter? s).getD s

def takeYear? (isDigit : Char → Bool) (s : Text) : Option (Text × Text) :=
  if (s.take 4).length == 4 && (s.take 4).all isDigit then some (s.take 4, s.drop 4) else none

def startsNotice (isDigit : Char → Bool) (s : Text) : Bool :=
  match (takeMark? s).bind takeBlanks? with
  | some s => (takeYear? isDigit s).isSome
  | none => false

def foundIn (isDigit : Char → Bool) : Text → Bool
  | [] => false
  | c :: s => startsNotice isDigit (c :: s) || foundIn isDigit s

/-- Whether there is a notice in a text, with a year in digits of any script. -/
def foundInText (s : Text) : Bool := foundIn Text.isDecimal s

/-- Whether there is a notice among bytes, with a year in ASCII digits. -/
def foundInBytes (data : Bytes) : Bool :=
  foundIn Char.isDigit (data.map fun b => Char.ofNat b.toNat)

end SourceTidy.Notice
