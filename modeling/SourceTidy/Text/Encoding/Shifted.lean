import SourceTidy.Text.Encoding.EastAsian

/-!
# Encodings that shift between sets of characters

Escape sequences say which set of characters the bytes after them belong to.
-/

namespace SourceTidy.Text

inductive ShiftSet where
  | single (members : List (Nat × Nat))
  /-- Characters of two bytes, which are given with the eighth bit set. -/
  | double (rows : List ByteRow)
  deriving DecidableEq, Repr

/-- The mark of a set in escape sequences: whether it is marked as one with two bytes, and its last
byte. -/
abbrev ShiftMark := Bool × UInt8

structure Shifted where
  sets : List (ShiftMark × ShiftSet)
  /-- Whether control bytes shift to a second set. -/
  controls : Bool := false
  /-- Whether single characters of a third set can be written. -/
  thirdSet : Bool := false
  /-- Whether an announcement may stand before an escape sequence. -/
  announced : Bool := true
  deriving DecidableEq, Repr

structure ShiftState where
  first : ShiftMark
  second : ShiftMark
  third : ShiftMark
  shifted : Bool := false
  /-- Whether an unknown escape sequence is being passed. -/
  passing : Bool := false
  deriving DecidableEq, Repr

namespace Shifted

def asciiMark : ShiftMark := (false, 0x42)

def start : ShiftState := { first := asciiMark, second := asciiMark, third := asciiMark }

def escape : UInt8 := 0x1b

def endsEscape (b : UInt8) : Bool := 0x40 ≤ b && b ≤ 0x5a

def choosesSet (b : UInt8) : Bool := b ∈ [0x24, 0x26, 0x28, 0x29, 0x2e]

def choose? (e : Shifted) (s : ShiftState) (place : Nat) (mark : ShiftMark) : Option ShiftState :=
  if !endsEscape mark.2 then none
  else if mark != asciiMark && (e.sets.lookup mark).isNone then none
  else match place with
    | 0 => some { s with first := mark }
    | 1 => some { s with second := mark }
    | _ => some { s with third := mark }

def readChoice? (e : Shifted) (s : ShiftState) : Bytes → Option (ShiftState × Bytes)
  | 0x24 :: 0x28 :: b :: rest => (e.choose? s 0 (true, b)).map fun s => (s, rest)
  | 0x24 :: 0x29 :: b :: rest => (e.choose? s 1 (true, b)).map fun s => (s, rest)
  | 0x24 :: b :: rest => (e.choose? s 0 (true, b)).map fun s => (s, rest)
  | 0x28 :: b :: rest => (e.choose? s 0 (false, b)).map fun s => (s, rest)
  | 0x29 :: b :: rest => (e.choose? s 1 (false, b)).map fun s => (s, rest)
  | 0x2e :: b :: rest =>
    if e.thirdSet then (e.choose? s 2 (false, b)).map fun s => (s, rest) else none
  | 0x26 :: 0x40 :: 0x1b :: 0x24 :: 0x42 :: rest =>
    if e.announced then (e.choose? s 0 (true, 0x42)).map fun s => (s, rest) else none
  | _ => none

/-- The bytes for characters of the Greek set as a third set. -/
def greekThird : List (Nat × Nat) :=
  [(0x00, 0x23), (0x26, 0x29), (0x2b, 0x2d), (0x2f, 0x51), (0x53, 0x7e), (0x80, 0xff)]

def inThird (mark : ShiftMark) (b : UInt8) : Bool :=
  if mark == (false, 0x46) then inSomeRange greekThird b.toNat else b < 0x80

def acceptsFrom (e : Shifted) : Nat → ShiftState → Bytes → Bool
  | 0, _, _ => true
  | _ + 1, _, [] => true
  | fuel + 1, s, b :: rest =>
    if s.passing then acceptsFrom e fuel { s with passing := !endsEscape b } rest
    else if b == escape then
      match rest with
      | [] => false
      | c :: rest' =>
        if choosesSet c then
          match e.readChoice? s rest with
          | some (s, rest) => acceptsFrom e fuel s rest
          | none => false
        else if e.thirdSet && c == 0x4e then
          match rest' with
          | [] => false
          | d :: rest => inThird s.third d && acceptsFrom e fuel s rest
        else acceptsFrom e fuel { s with passing := true } rest
    else if e.controls && b == 0x0f then acceptsFrom e fuel { s with shifted := false } rest
    else if e.controls && b == 0x0e then acceptsFrom e fuel { s with shifted := true } rest
    else if b < 0x20 then acceptsFrom e fuel s rest
    else if 0x80 ≤ b then false
    else
      let mark := if s.shifted then s.second else s.first
      match e.sets.lookup mark with
      | none => acceptsFrom e fuel s rest
      | some (.single members) => inSomeRange members b.toNat && acceptsFrom e fuel s rest
      | some (.double rows) =>
        match rest with
        | [] => false
        | c :: rest =>
          c < 0x80 && ByteRow.contain rows (b.toNat + 0x80) (c.toNat + 0x80) &&
            acceptsFrom e fuel s rest

def accepts (e : Shifted) (data : Bytes) : Bool := e.acceptsFrom data.length start data

def jisX0208 : ShiftSet := .double (eucJpPairs.filter fun r => 0xa1 ≤ r.first)

def jisX0212 : ShiftSet := .double eucJpTriples

/-- The Korean set has the filler too. -/
def ksX1001 : ShiftSet := .double (⟨0xa4, 0xa4, [(0xd4, 0xd4)]⟩ :: eucKrPairs)

def romanLetters : ShiftSet := .single [(0x20, 0x7f)]

def katakana : ShiftSet := .single [(0x21, 0x5f)]

def jisX0213First (year2004 : Bool) : ShiftSet :=
  .double ((if year2004 then eucJis2004Pairs else eucJisX0213Pairs).filter fun r => 0xa1 ≤ r.first)

def jisX0213Second : ShiftSet := .double jisX0213Plane2

/-- The sets of ISO-2022-JP and, for some of its variants, the supplementary set. -/
def japaneseSets (supplement : Bool) : List (ShiftMark × ShiftSet) :=
  [((true, 0x42), jisX0208), ((true, 0x40), jisX0208), ((false, 0x4a), romanLetters)] ++
    if supplement then [((true, 0x44), jisX0212)] else []

def iso2022Jp : Shifted where
  sets := japaneseSets false

def iso2022Jp1 : Shifted where
  sets := japaneseSets true

def iso2022Jp2 : Shifted where
  sets := japaneseSets true ++
    [((true, 0x43), ksX1001), ((true, 0x41), .double gb2312Pairs), ((false, 0x41), .single []),
      ((false, 0x46), .single [])]
  thirdSet := true

def iso2022Jp2004 : Shifted where
  sets := [((true, 0x42), jisX0208), ((true, 0x51), jisX0213First true),
    ((true, 0x50), jisX0213Second)]

def iso2022Jp3 : Shifted where
  sets := [((true, 0x42), jisX0208), ((true, 0x4f), jisX0213First false),
    ((true, 0x50), jisX0213Second)]

def iso2022JpExt : Shifted where
  sets := japaneseSets true ++ [((false, 0x49), katakana)]

def iso2022Kr : Shifted where
  sets := [((true, 0x43), ksX1001)]
  controls := true
  announced := false

end Shifted

/-- A place in the encoding that shifts to Chinese by signs in braces. -/
inductive HzState where
  | ascii
  | chinese
  | tilde (chinese : Bool)
  | lead (b : UInt8)
  deriving DecidableEq, Repr

namespace HzState

def step (s : HzState) (b : UInt8) : Option HzState :=
  match s with
  | ascii => if b == 0x7e then some (tilde false) else if b < 0x80 then some ascii else none
  | chinese => if b == 0x7e then some (tilde true) else if b < 0x80 then some (lead b) else none
  | tilde false =>
    if b == 0x7e then some ascii else if b == 0x7b then some chinese else none
  | tilde true => if b == 0x7d then some ascii else none
  | lead a =>
    if b < 0x80 && ByteRow.contain gb2312Pairs (a.toNat + 0x80) (b.toNat + 0x80) then some chinese
    else none

def isEnd : HzState → Bool
  | ascii | chinese => true
  | _ => false

end HzState

def isHz (data : Bytes) : Bool :=
  match data.foldlM HzState.step .ascii with
  | some s => s.isEnd
  | none => false

end SourceTidy.Text
