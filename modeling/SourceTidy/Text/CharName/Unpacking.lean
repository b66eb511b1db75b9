import SourceTidy.Text.Basic

/-!
# Unpacking

Packed text is a fraction in a number system with 89 digits. It is unpacked by binary choices, each
of which keeps the part of a range in which the fraction lies. How large the parts are depends on
how choices went before in several contexts. What they say is weighed, and the weights are learned
on the way.
-/

namespace SourceTidy.Text.Unpacking

/-- The digits that are still to be read, and the place of the fraction in the range reached. -/
structure Fraction where
  digits : Text
  value : Nat := 0
  range : Nat := 1

/-- The digits are the characters from the exclamation mark on, without five of them. -/
def digit (c : Char) : Nat :=
  c.toNat - 0x21 - (['"', '-', '\\', '\x7b', '\x7d'].filter (· < c)).length

def Fraction.refine (f : Fraction) : Fraction where
  digits := f.digits.drop 2
  value := (f.digits.take 2).foldl (fun n c => n * 89 + digit c) f.value
  range := f.range * 7921

/-- Makes a choice whose chance to be positive is given in parts of 65536. -/
def Fraction.choose (chance : Nat) (f : Fraction) : Bool × Fraction :=
  let split := f.range / 65536 * chance
  let positive := f.value < split
  let f := if positive then { f with range := split }
    else { f with value := f.value - split, range := f.range - split }
  (positive, if f.range < 16777216 then f.refine else f)

def logs : Array Nat :=
  (List.range' 1 4095).foldl (fun t k => t.push (t.getD k 0 + 131072 / (2 * k + 1))) #[0, 0]

/-- The logarithms of odds in parts of 256, by chances in parts of 4096. -/
def logOdds : Array Int :=
  (Array.range 4096).map fun p =>
    ((logs.getD (max p 1) 0 : Int) - logs.getD (4096 - max p 1) 0) / 256

/-- The chances in parts of 65536, by logarithms of odds. -/
def chances : Array Nat :=
  ((List.range 2048).foldl (fun (t, e) _ => (t.push (281474976710656 / (4294967296 + e)), e - e / 256))
    (#[], 4294967296)).1

def chance (odds : Int) : Nat :=
  let p := chances.getD (min odds.natAbs 2047) 0
  if 0 ≤ odds then p else 65536 - p

/-- Where it is kept how a choice went in a context. -/
def placeOf (slots : Array Nat) (key node : Nat) : Nat :=
  (((key * 1024 + node).toUInt64 * 2654435761) >>> 20).toNat % slots.size

/-- What contexts say about a choice, by its last outcomes and by all of them. -/
def oddsIn (slots : Array Nat) (node : Nat) : List Nat → List Int
  | [] => [256]
  | key :: keys =>
    let slot := slots.getD (placeOf slots key node) 0
    logOdds.getD (slot / 268435456) 0 :: logOdds.getD (slot / 4096 % 4096) 0 :: oddsIn slots node keys

/-- A slot holds the chances by the last outcomes and by all, in parts of 65536, and their number. -/
def learn (positive : Bool) (slot : Nat) : Nat :=
  let last := slot / 16777216
  let all := slot / 256 % 65536
  let count := slot % 256
  let (last, all) :=
    if positive then (last + (65535 - last) / 2, all + (65535 - all) * 2 / (2 * count + 3))
    else (last - last / 2, all - all * 2 / (2 * count + 3))
  (last * 65536 + all) * 256 + min (count + 1) 255

def learnIn (positive : Bool) (node : Nat) : List Nat → Array Nat → Array Nat
  | [], slots => slots
  | key :: keys, slots =>
    let place := placeOf slots key node
    learnIn positive node keys (slots.set! place (learn positive (slots.getD place 0)))

def weigh (weights : Array Int) : Nat → List Int → Int
  | _, [] => 0
  | i, x :: xs => weights.getD i 0 * x + weigh weights (i + 1) xs

def reweigh (error : Int) : Nat → List Int → Array Int → Array Int
  | _, [], weights => weights
  | i, x :: xs, weights =>
    reweigh error (i + 1) xs (weights.set! i (weights.getD i 0 + x * error / 65536))

structure Learned where
  fraction : Fraction
  slots : Array Nat
  byMatch : Array Int := Array.replicate 272 10000
  bySymbol : Array Int := Array.replicate 1088 10000

/-- The contexts of a symbol, and where the weights for it start. -/
structure Contexts where
  keys : List Nat
  byMatch : Nat
  bySymbol : Nat

def choose (c : Contexts) (node : Nat) (s : Learned) : Bool × Learned :=
  let odds := oddsIn s.slots node c.keys
  let a := weigh s.byMatch c.byMatch odds / 65536
  let b := weigh s.bySymbol c.bySymbol odds / 65536
  let (positive, fraction) := s.fraction.choose (max 32 (min 65504 (chance ((a + b) / 2))))
  let goal : Int := if positive then 65536 else 0
  (positive, {
    fraction
    slots := learnIn positive node c.keys s.slots
    byMatch := reweigh (goal - chance a) c.byMatch odds s.byMatch
    bySymbol := reweigh (goal - chance b) c.bySymbol odds s.bySymbol })

/-- Makes choices up to a negative one. -/
def chooseOnes (c : Contexts) : Nat → Nat → Learned → Nat × Learned
  | 0, node, s => (node, s)
  | fuel + 1, node, s =>
    let (positive, s) := choose c node s
    if positive then chooseOnes c fuel (2 * node + 1) s else (2 * node, s)

def chooseMore (c : Contexts) : Nat → Nat → Learned → Nat × Learned
  | 0, node, s => (node, s)
  | n + 1, node, s =>
    let (positive, s) := choose c node s
    chooseMore c n (2 * node + positive.toNat) s

/-- The number of the next symbol: eight for each positive choice before a negative one, and what three
more choices say. -/
def readSymbol (c : Contexts) (s : Learned) : Nat × Learned :=
  let (node, s) := chooseOnes c 7 1 s
  let (low, s) := chooseMore c 3 node s
  ((Nat.log2 (node + 2) - 2) * 8 + low % 8, s)

structure History where
  all : Array Nat := #[]
  /-- Where three symbols were met last. -/
  seen : Array Nat
  /-- The last four symbols. -/
  recent : Nat := 0
  /-- Where the last symbols were met before, and how many of them. -/
  earlier : Nat := 0
  length : Nat := 0
  /-- The symbols of an entry in reverse, and those of the entries before from the same place on. -/
  entry : List Nat := []
  last : List Nat := []
  above : List Nat := []
  further : List Nat := []

def History.add (starts : Bool) (n : Nat) (h : History) : History :=
  let recent := (h.recent * 64 + n) % 16777216
  let place := h.seen.getD (recent % 262144) 0
  let (earlier, length) :=
    if 0 < h.earlier && h.all.getD h.earlier 0 == n then (h.earlier + 1, h.length + 1)
    else (place, min place 1)
  let all := h.all.push n
  let h := { h with all, recent, earlier, length, seen := h.seen.set! (recent % 262144) all.size }
  if starts then
    let last := h.entry.reverse
    { h with entry := [n], last, above := last.tail, further := h.last.tail }
  else { h with entry := n :: h.entry, above := h.above.tail, further := h.further.tail }

end Unpacking

/-- The symbols of unpacked names, the most frequent ones first. -/
def nameSymbols : List Char := "AEbT IONRLSHDMUCPGWcBFK-+Y0Vd12e34Xf5Z67Q~J8g9ahijlkm".toList

def extendWord (word : Nat) (c : Char) : Nat := word * 64 + nameSymbols.idxOf c + 1

/-- The words of a name as numbers, the last one first. -/
def wordNumbers (name : Text) : List Nat :=
  name.foldl (fun words c =>
    if c == ' ' then 0 :: words else extendWord (words.headD 0) c :: words.tail) [0]

/-- A place among names. A small letter says how many words are taken off the name before, and a plus
sign at the end puts back all of them but the first. Before that, a tilde and hexadecimal digits give the
number of code points without a name, counted in a circle. -/
structure NameScan where
  word : Nat := 0
  words : List Nat := []
  removed : List Nat := []
  inGap : Bool := true
  gap : Nat := 0
  code : Nat := 0
  names : List (List Nat × Nat) := []

namespace NameScan

open Unpacking

def close (s : NameScan) : NameScan :=
  if s.inGap then { s with word := 0 }
  else
    let words := if s.word == 0 then s.words else s.word :: s.words
    { s with word := 0, words, code := s.code + 1, names := (words, s.code) :: s.names }

def step (c : Char) (s : NameScan) : NameScan :=
  if c == '~' then { s.close with inGap := true, gap := 0 }
  else if c.isLower then
    let s := s.close
    let n := c.toNat - 'a'.toNat
    { s with
      words := s.words.drop n
      removed := s.words.take n
      inGap := false
      gap := 0
      code := (s.code + s.gap) % 0x110000 }
  else if c == ' ' then { s with words := s.word :: s.words, word := 0 }
  else if c == '+' then { s with words := s.removed.dropLast ++ s.word :: s.words, word := 0 }
  else
    let digit := if c.isDigit then c.toNat - '0'.toNat else c.toNat - 'A'.toNat + 10
    { s with word := extendWord s.word c, gap := if s.inGap then s.gap * 16 + digit else 0 }

def contexts (s : NameScan) (h : History) : Contexts :=
  let matched := min h.length 15
  let expected := if h.earlier == 0 then 0 else h.all.getD h.earlier 0 + 1
  let first := fun l : List Nat => (l.head?.map (· + 1)).getD 0
  let symbol := h.recent % 64
  let values := [symbol, h.recent % 4096, h.recent, s.word, s.words.headD 0 * 1048573 + s.word,
    s.removed.getLastD 0 * 1048573 + s.word, (first h.above * 64 + first h.further) * 64 + symbol,
    expected * 64 + matched]
  { keys := values.zipIdx.map fun (v, i) => (v % 4294967291) * 16 + i
    byMatch := matched * 17
    bySymbol := symbol * 17 }

def run (symbols : Array Char) : Nat → NameScan → History → Learned → NameScan
  | 0, s, _, _ => s.close
  | n + 1, s, h, l =>
    let (symbol, l) := readSymbol (s.contexts h) l
    let c := symbols.getD symbol ' '
    run symbols n (s.step c) (h.add (c == '~' || c.isLower) symbol) l

end NameScan

open Unpacking in
def unpackNames (packed : String) (count slots : Nat) : List (List Nat × Nat) :=
  let fraction : Fraction := { digits := packed.toList.filter (· != '\n') }
  let learned : Learned := {
    fraction := fraction.refine.refine.refine
    slots := Array.replicate slots (2147516416 * 256) }
  (NameScan.run nameSymbols.toArray count {} { seen := Array.replicate 262144 0 } learned).names

end SourceTidy.Text
