import SourceTidy.Text.Basic

/-!
# Punycode

A text in Punycode has its ASCII characters first and, after the last hyphen, digits that say which
other characters to insert and where.
-/

namespace SourceTidy.Text

inductive PunycodeFault where
  | notDigit (c : Char)
  | incomplete
  | noCharacter (code : Nat)
  deriving DecidableEq, Repr

namespace PunycodeFault

def message : PunycodeFault → String
  | notDigit c => "Invalid extended code point '" ++ c.toString ++ "'"
  | incomplete => "incomplete punicode string"
  | noCharacter code => "Invalid character U+" ++ String.ofList (Nat.toDigits 16 code)

end PunycodeFault

namespace Punycode

def digit? (c : Char) : Option Nat :=
  let c := c.toUpper
  if 'A' ≤ c && c ≤ 'Z' then some (c.toNat - 0x41)
  else if c.isDigit then some (c.toNat - 22)
  else none

def threshold (place bias : Nat) : Nat := min 26 (max 1 (36 * (place + 1) - bias))

def readNumber (bias : Nat) (place weight value : Nat) : Text → Except PunycodeFault (Nat × Text)
  | [] => .error .incomplete
  | c :: s =>
    match digit? c with
    | none => .error (.notDigit c.toUpper)
    | some d =>
      let t := threshold place bias
      let value := value + d * weight
      if d < t then .ok (value, s)
      else readNumber bias (place + 1) (weight * (36 - t)) value s

def scale (delta steps : Nat) : Nat :=
  if h : 455 < delta then scale (delta / 35) (steps + 36)
  else steps + 36 * delta / (delta + 38)
termination_by delta
decreasing_by omega

def adapt (delta : Nat) (isFirst : Bool) (size : Nat) : Nat :=
  let delta := if isFirst then delta / 700 else delta / 2
  scale (delta + delta / size) 0

/-- Reads the insertions into a text with the given number of characters, the next one at `place` or
later. -/
def readInsertions (isFirst : Bool) (size code place bias : Nat) :
    Nat → Text → Except PunycodeFault Unit
  | 0, _ => .ok ()
  | _ + 1, [] => .ok ()
  | fuel + 1, s => do
    let (delta, rest) ← readNumber bias 0 1 0 s
    let place := place + delta
    let code := code + place / (size + 1)
    if 0x10ffff < code then throw (.noCharacter code)
    readInsertions false (size + 1) code (place % (size + 1) + 1) (adapt delta isFirst (size + 1))
      fuel rest

def check (s : Text) : Except PunycodeFault Unit :=
  let digits := (s.reverse.takeWhile (· != '-')).reverse
  let size := s.length - digits.length - 1
  readInsertions true size 0x80 0 72 digits.length digits

end Punycode

end SourceTidy.Text
