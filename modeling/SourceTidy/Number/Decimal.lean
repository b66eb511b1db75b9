import SourceTidy.Number.Binary64
import SourceTidy.Text.Basic

/-!
# Decimal digits of numbers

The significant digits of a number, with the place of the point among them. They are rounded from
the exact value, or as few as it takes to tell the number from all others.
-/

namespace SourceTidy

/-- Significant digits, without zeros at the end, and the place of the point: how many of them stand
before it. -/
structure Digits where
  digits : Text
  point : Int
  deriving DecidableEq, Repr

namespace Digits

def zero : Digits := ⟨['0'], 1⟩

def strip (digits : Text) : Text := Text.dropEndWhile (· == '0') digits

def ofScaled (n : Nat) (places : Int) : Digits :=
  if n == 0 then ⟨[], -places⟩
  else
    let digits := Nat.toDigits 10 n
    ⟨strip digits, digits.length - places⟩

def exponentOf (num den : Nat) : Int :=
  if den ≤ num then ((Nat.toDigits 10 (num / den)).length : Int) - 1
  else -((Nat.toDigits 10 ((den - 1) / num)).length : Int)

/-- Further places of a number in binary floating point are all zero. -/
def placesLimit : Nat := 1100

def toPlaces (num den places : Nat) : Digits :=
  let kept := min places placesLimit
  let n := roundDiv (num * Nat.pow 10 kept) den
  if n == 0 then ⟨[], -places⟩ else ofScaled n kept

def toSignificant (num den count : Nat) : Digits :=
  if num == 0 then zero
  else
    let places := (min count placesLimit : Nat) - 1 - exponentOf num den
    let (a, b) := Binary64.power 10 places
    ofScaled (roundDiv (num * a) (den * b)) places

/-- Whether `n / 10 ^ places` is read as the number with the given mantissa and exponent: it lies between
the middles to its neighbours, or on one of them if the mantissa is even. -/
def readsAs (mantissa : Nat) (exponent : Int) (n : Nat) (places : Int) : Bool :=
  let regular := mantissa != Binary64.mantissaLimit / 2 || exponent == Binary64.leastExponent
  let low := if regular then 4 * mantissa - 2 else 4 * mantissa - 1
  let high := 4 * mantissa + 2
  let (a, b) := Binary64.power 2 (exponent - 2)
  let (c, d) := Binary64.power 10 places
  let value := n * b * d
  let low := low * a * c
  let high := high * a * c
  if mantissa % 2 == 0 then low ≤ value && value ≤ high else low < value && value < high

/-- The nearer of the two neighbours with the given number of digits that are read as a number, if
there is one. -/
def neighbour? (mantissa : Nat) (exponent : Int) (count : Nat) : Option Digits :=
  let (num, den) := Binary64.ratio mantissa exponent
  let places := (count : Int) - 1 - exponentOf num den
  let (a, b) := Binary64.power 10 places
  let below := num * a / (den * b)
  let nearest := roundDiv (num * a) (den * b)
  let other := if nearest == below then below + 1 else below
  if readsAs mantissa exponent nearest places then some (ofScaled nearest places)
  else if readsAs mantissa exponent other places then some (ofScaled other places)
  else none

/-- The most digits that it takes to tell a number from all others. -/
def mostDigits : Nat := 17

def shortest (mantissa : Nat) (exponent : Int) : Digits :=
  if mantissa == 0 then zero
  else ((List.range mostDigits).findSome? fun n => neighbour? mantissa exponent (n + 1)).getD zero

def digitAt (d : Digits) (i : Int) : Char :=
  if i < 0 then '0' else d.digits.getD i.toNat '0'

def slice (d : Digits) (start stop : Int) : Text :=
  (List.range (stop - start).toNat).map fun (i : Nat) => d.digitAt (start + i)

def whole (d : Digits) : Text := d.slice (if d.point ≤ 0 then d.point - 1 else 0) d.point

def fraction (d : Digits) (stop : Int) : Text := d.slice d.point stop

def scientific (d : Digits) : Digits × Int := (⟨d.digits, 1⟩, d.point - 1)

def exponentText (mark : Char) (e : Int) : Text :=
  mark :: (if e < 0 then '-' else '+') :: (Text.padNat 2 e.natAbs).toList

end Digits

namespace Binary64

def showsExponent (point : Int) : Bool := point ≤ -4 || 16 < point

/-- An absolute value in the fewest digits: what stands before the point, and the rest. -/
def plainParts (mantissa : Nat) (exponent : Int) : Text × Text :=
  let d := Digits.shortest mantissa exponent
  if showsExponent d.point then
    let (d, e) := d.scientific
    let rest := d.fraction d.digits.length
    (d.whole, (if rest.isEmpty then [] else '.' :: rest) ++ Digits.exponentText 'e' e)
  else (d.whole, '.' :: d.fraction (max d.digits.length (d.point + 1)))

def shown : Binary64 → String
  | finite negative mantissa exponent =>
    let (whole, rest) := plainParts mantissa exponent
    (if negative then "-" else "") ++ String.ofList (whole ++ rest)
  | infinite negative => if negative then "-inf" else "inf"
  | nan => "nan"

end Binary64

end SourceTidy
