import SourceTidy.Text.Basic

/-!
# Tables of ranges

Long tables of numbers are written as texts, in base 16, where the letters from `g` to `v` stand for
the last digit of a number. A range is given by its distance from the range before and the distance
between its ends.
-/

namespace SourceTidy.Text

def numbersFrom (high : Nat) : Text → List Nat
  | [] => []
  | c :: s =>
    if 'g' ≤ c then (16 * high + (c.toNat - 'g'.toNat)) :: numbersFrom 0 s
    else
      let digit := if c.isDigit then c.toNat - '0'.toNat else c.toNat - 'a'.toNat + 10
      numbersFrom (16 * high + digit) s

def numbers (lines : List String) : List Nat := numbersFrom 0 (lines.flatMap String.toList)

/-- The closed ranges that numbers give from a start on. -/
def rangesFrom (start : Nat) : List Nat → List (Nat × Nat)
  | gap :: width :: rest =>
    (start + gap, start + gap + width) :: rangesFrom (start + gap + width + 1) rest
  | _ => []

def ranges (line : String) : List (Nat × Nat) := rangesFrom 0 (numbers [line])

def rangeTable (lines : List String) : Array (Nat × Nat) := (rangesFrom 0 (numbers lines)).toArray

end SourceTidy.Text
