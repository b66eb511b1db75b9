import SourceTidy.Text.Basic

/-!
# Encodings with units of several bytes

UTF-16 and UTF-32 write characters in units of two and four bytes, in either order of the bytes. A
mark at the start can tell the order. UTF-7 writes units of two bytes in base 64 between two signs.
-/

namespace SourceTidy.Text

inductive ByteOrder where
  | littleFirst
  | bigFirst
  deriving DecidableEq, Repr

def isHighSurrogate (n : Nat) : Bool := 0xd800 ≤ n && n < 0xdc00

def isLowSurrogate (n : Nat) : Bool := 0xdc00 ≤ n && n < 0xe000

def pairedUnits : List Nat → Bool
  | [] => true
  | u :: units =>
    if isHighSurrogate u then
      match units with
      | v :: units => isLowSurrogate v && pairedUnits units
      | [] => false
    else !isLowSurrogate u && pairedUnits units

def unitValue (order : ByteOrder) (bytes : List UInt8) : Nat :=
  let bytes := if order == .bigFirst then bytes else bytes.reverse
  bytes.foldl (fun n b => n * 256 + b.toNat) 0

def unitsOfTwo? (order : ByteOrder) : Bytes → Option (List Nat)
  | [] => some []
  | a :: b :: s => (unitsOfTwo? order s).map (unitValue order [a, b] :: ·)
  | _ => none

def unitsOfFour? (order : ByteOrder) : Bytes → Option (List Nat)
  | [] => some []
  | a :: b :: c :: d :: s => (unitsOfFour? order s).map (unitValue order [a, b, c, d] :: ·)
  | _ => none

def isUtf16In (order : ByteOrder) (data : Bytes) : Bool :=
  match unitsOfTwo? order data with
  | some units => pairedUnits units
  | none => false

/-- Whether bytes are UTF-16. If no order is given, a mark tells it. -/
def isUtf16 (order : Option ByteOrder) (data : Bytes) : Bool :=
  match order, data with
  | some order, data => isUtf16In order data
  | none, 0xff :: 0xfe :: s => isUtf16In .littleFirst s
  | none, 0xfe :: 0xff :: s => isUtf16In .bigFirst s
  | none, data => isUtf16In .littleFirst data

def isUtf32In (order : ByteOrder) (data : Bytes) : Bool :=
  match unitsOfFour? order data with
  | some units => units.all Nat.isValidChar
  | none => false

def isUtf32 (order : Option ByteOrder) (data : Bytes) : Bool :=
  match order, data with
  | some order, data => isUtf32In order data
  | none, 0xff :: 0xfe :: 0x00 :: 0x00 :: s => isUtf32In .littleFirst s
  | none, 0x00 :: 0x00 :: 0xfe :: 0xff :: s => isUtf32In .bigFirst s
  | none, data => isUtf32In .littleFirst data

def base64Digit? (b : UInt8) : Option Nat :=
  let n := b.toNat
  if 0x41 ≤ n && n ≤ 0x5a then some (n - 0x41)
  else if 0x61 ≤ n && n ≤ 0x7a then some (n - 0x61 + 26)
  else if 0x30 ≤ n && n ≤ 0x39 then some (n - 0x30 + 52)
  else if n == 0x2b then some 62
  else if n == 0x2f then some 63
  else none

inductive Utf7State where
  | direct
  | opened
  /-- Within base 64, with the bits that do not make a unit yet, and whether the last unit is the
  first half of a pair. -/
  | coded (bits : Nat) (value : Nat) (half : Bool)
  deriving DecidableEq, Repr

namespace Utf7State

def addDigit (bits value : Nat) (half : Bool) (digit : Nat) : Utf7State :=
  let value := value * 64 + digit
  let bits := bits + 6
  if bits < 16 then coded bits value half
  else
    let unit := value / Nat.pow 2 (bits - 16)
    coded (bits - 16) (value % Nat.pow 2 (bits - 16)) (isHighSurrogate unit)

def afterDirect (b : UInt8) : Option Utf7State :=
  if b == 0x2b then some opened else if b < 0x80 then some direct else none

def step (s : Utf7State) (b : UInt8) : Option Utf7State :=
  match s, base64Digit? b with
  | direct, _ => afterDirect b
  | opened, some digit => some (addDigit 0 0 false digit)
  | opened, none => if b == 0x2d then some direct else none
  | coded bits value half, some digit => some (addDigit bits value half digit)
  | coded bits value _, none =>
    if 6 ≤ bits || value != 0 then none
    else if b == 0x2d then some direct
    else afterDirect b

def isEnd : Utf7State → Bool
  | direct | opened => true
  | coded bits value half => !half && bits < 6 && value == 0

end Utf7State

def isUtf7 (data : Bytes) : Bool :=
  match data.foldlM Utf7State.step .direct with
  | some s => s.isEnd
  | none => false

end SourceTidy.Text
