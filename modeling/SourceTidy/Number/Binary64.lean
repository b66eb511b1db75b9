/-!
# Numbers in binary floating point

Numbers are kept in binary floating point with 53 significant bits. A finite one is an exact
fraction, and every result is the number nearest to the exact one, where a half goes to the even
neighbour.
-/

namespace SourceTidy

/-- A quotient rounded to the nearest integer, a half to the even one. -/
def roundDiv (a b : Nat) : Nat :=
  let q := a / b
  let r := a % b
  if b < 2 * r || (b == 2 * r && q % 2 == 1) then q + 1 else q

/-- A number in binary floating point. A finite one is `mantissa * 2 ^ exponent`, and zero has a
sign. -/
inductive Binary64 where
  | finite (negative : Bool) (mantissa : Nat) (exponent : Int)
  | infinite (negative : Bool)
  | nan
  deriving DecidableEq, Repr

namespace Binary64

def mantissaLimit : Nat := Nat.pow 2 53

def leastExponent : Int := -1074

def greatestExponent : Int := 971

def zero (negative : Bool) : Binary64 := finite negative 0 leastExponent

def power (base : Nat) (exponent : Int) : Nat × Nat :=
  if 0 ≤ exponent then (base.pow exponent.toNat, 1) else (1, base.pow (-exponent).toNat)

/-- The greatest exponent of a power of two that is not above a fraction. -/
def log2 (num den : Nat) : Int :=
  let k : Int := (num.log2 : Int) - den.log2
  let (a, b) := power 2 k
  if den * a ≤ num * b then k else k - 1

def ofRatio (negative : Bool) (num den : Nat) : Binary64 :=
  if num == 0 then zero negative
  else
    let exponent := max (log2 num den - 52) leastExponent
    let (a, b) := power 2 exponent
    let mantissa := roundDiv (num * b) (den * a)
    let (mantissa, exponent) :=
      if mantissa == mantissaLimit then (mantissaLimit / 2, exponent + 1) else (mantissa, exponent)
    if greatestExponent < exponent then infinite negative else finite negative mantissa exponent

def ofInt? (n : Int) : Option Binary64 :=
  match ofRatio (n < 0) n.natAbs 1 with
  | infinite _ => none
  | x => some x

/-- Beyond this decimal exponent in either direction numbers are zero or infinite. -/
def decimalLimit : Int := 400

def ofDecimal (negative : Bool) (digits : Nat) (exponent : Int) : Binary64 :=
  let size : Int := (Nat.toDigits 10 digits).length
  if digits == 0 || exponent + size < -decimalLimit then zero negative
  else if decimalLimit < exponent + size then infinite negative
  else
    let (a, b) := power 10 exponent
    ofRatio negative (digits * a) b

def ratio (mantissa : Nat) (exponent : Int) : Nat × Nat :=
  let (a, b) := power 2 exponent
  (mantissa * a, b)

def isZero : Binary64 → Bool
  | finite _ mantissa _ => mantissa == 0
  | _ => false

def timesHundred : Binary64 → Binary64
  | finite negative mantissa exponent =>
    let (num, den) := ratio mantissa exponent
    ofRatio negative (num * 100) den
  | x => x

def truncate? : Binary64 → Option Int
  | finite negative mantissa exponent =>
    let (num, den) := ratio mantissa exponent
    let n : Int := (num / den : Nat)
    some (if negative then -n else n)
  | _ => none

def isBelow (n : Nat) : Binary64 → Bool
  | finite negative mantissa exponent =>
    let (num, den) := ratio mantissa exponent
    if negative then num != 0 || n != 0 else num < n * den
  | infinite negative => negative
  | nan => false

end Binary64

end SourceTidy
