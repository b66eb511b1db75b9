import SourceTidy.Text.Digit
import SourceTidy.Text.Space

/-!
# Integers in texts

An integer is written with an optional sign and decimal digits of any script; single underscores
may stand between digits, and white space around the whole is ignored. The number of digits is
limited.
-/

namespace SourceTidy

inductive IntegerFault where
  | invalid
  | tooLong (digits : Nat)
  deriving DecidableEq, Repr

namespace Text

def digitLimit : Nat := 4300

def tooManyDigits (digits : Nat) : String :=
  "Exceeds the limit (" ++ toString digitLimit ++
    " digits) for integer string conversion: value has " ++ toString digits ++
    " digits; use sys.set_int_max_str_digits() to increase the limit"

/-- Whether a character is white space that may stand around an integer. The separators among the
ASCII control characters may not. -/
def isIntegerSpace (c : Char) : Bool :=
  if c.toNat < 0x80 then c == ' ' || (0x09 ≤ c.toNat && c.toNat ≤ 0x0d) else isSpace c

/-- Whether underscores stand only between digits, one at a time. The flag says whether one may
stand first. -/
def separatedWell (mayStart : Bool) : Text → Bool
  | [] => mayStart
  | c :: s => if c == '_' then mayStart && separatedWell false s else separatedWell true s

def digitsValue (digits : Text) : Nat :=
  digits.foldl (fun n c => n * 10 + (digitValue? c).getD 0) 0

/-- The value of a number without a sign; white space may follow it. -/
def readNatural (s : Text) : Except IntegerFault Nat :=
  let isPart := fun c => isDecimal c || c == '_'
  let number := s.takeWhile isPart
  let digits := number.filter (· != '_')
  if !separatedWell false number then .error .invalid
  else if digitLimit < digits.length then .error (.tooLong digits.length)
  else if ((s.dropWhile isPart).dropWhile isIntegerSpace).isEmpty then .ok (digitsValue digits)
  else .error .invalid

def readInteger (s : Text) : Except IntegerFault Int :=
  match s.dropWhile isIntegerSpace with
  | '-' :: s => (readNatural s).map fun n => -(n : Int)
  | '+' :: s => (readNatural s).map fun n => (n : Int)
  | s => (readNatural s).map fun n => (n : Int)

def integer? (s : Text) : Option Int := (readInteger s).toOption

end Text

end SourceTidy
