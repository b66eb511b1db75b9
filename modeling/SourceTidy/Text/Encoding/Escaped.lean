import SourceTidy.Text.CharName

/-!
# Encodings with escapes

In these encodings a byte stands for the character with its number, and a backslash starts an escape
for other characters.
-/

namespace SourceTidy.Text

def isHexByte (b : UInt8) : Bool :=
  let c := Char.ofNat b.toNat
  c.isDigit || ('a' ≤ c && c ≤ 'f') || ('A' ≤ c && c ≤ 'F')

def hexBytesValue (digits : Bytes) : Nat :=
  digits.foldl (fun n b =>
    let c := Char.ofNat b.toNat
    n * 16 + (if c.isDigit then c.toNat - 0x30 else c.toLower.toNat - 0x57)) 0

def startsWithCode (count : Nat) (s : Bytes) : Bool :=
  let digits := s.take count
  digits.length == count && digits.all isHexByte && hexBytesValue digits < 0x110000

def afterNamed? : Bytes → Option Bytes
  | 0x7b :: s =>
    let name := s.takeWhile (· != 0x7d)
    match s.dropWhile (· != 0x7d) with
    | _ :: rest => (codeNamed? (name.map fun b => Char.ofNat b.toNat)).map fun _ => rest
    | [] => none
  | _ => none

/-- What follows an escape, whose letter is given. Other letters than these stand for themselves or
for a character of their own. -/
def afterEscape? (plainOnly : Bool) (letter : UInt8) (s : Bytes) : Option Bytes :=
  let code := fun count => if startsWithCode count s then some (s.drop count) else none
  match Char.ofNat letter.toNat with
  | 'u' => code 4
  | 'U' => code 8
  | 'x' => if plainOnly then some s else code 2
  | 'N' => if plainOnly then some s else afterNamed? s
  | _ => some s

/-- Whether all escapes are complete. If only those of code points are known, a backslash at the end
stands for itself. -/
def escapesComplete (plainOnly : Bool) : Nat → Bytes → Bool
  | 0, _ => true
  | _ + 1, [] => true
  | fuel + 1, 0x5c :: s =>
    match s with
    | [] => plainOnly
    | letter :: s =>
      match afterEscape? plainOnly letter s with
      | some s => escapesComplete plainOnly fuel s
      | none => false
  | fuel + 1, _ :: s => escapesComplete plainOnly fuel s

def isEscaped (plainOnly : Bool) (data : Bytes) : Bool :=
  escapesComplete plainOnly data.length data

end SourceTidy.Text
