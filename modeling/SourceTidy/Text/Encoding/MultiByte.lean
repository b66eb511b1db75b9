import SourceTidy.Text.Ranges

/-!
# Encodings with characters of several bytes

In these encodings the first byte of a character tells how many bytes it has.
-/

namespace SourceTidy.Text

def inSomeRange (ranges : List (Nat × Nat)) (n : Nat) : Bool :=
  ranges.any fun r => r.1 ≤ n && n ≤ r.2

/-- The bytes that can follow a byte between `first` and `last`. -/
structure ByteRow where
  first : Nat
  last : Nat
  followers : List (Nat × Nat)
  deriving DecidableEq, Repr

/-- The rows that numbers give from a byte on: each starts with the distance from the row before and the
distance between its ends. -/
def rowsFrom (start : Nat) : List (List Nat) → List ByteRow
  | (gap :: width :: followers) :: rest =>
    ⟨start + gap, start + gap + width, rangesFrom 0 followers⟩ ::
      rowsFrom (start + gap + width + 1) rest
  | _ => []

def byteRows (lines : List String) : List ByteRow :=
  rowsFrom 0 (lines.flatMap fun line => (splitAt ' ' line.toList).map (numbersFrom 0))

namespace ByteRow

def contain (rows : List ByteRow) (a b : Nat) : Bool :=
  rows.any fun r => r.first ≤ a && a ≤ r.last && inSomeRange r.followers b

end ByteRow

structure MultiByte where
  singles : List (Nat × Nat) := [(0x00, 0x7f)]
  pairs : List ByteRow
  /-- The characters of three bytes, without the first one. -/
  triples : List ByteRow := []
  /-- The characters of four bytes, by their numbers. -/
  quads : List (Nat × Nat) := []
  /-- Whether syllables can be spelled by their letters. -/
  spelled : Bool := false
  deriving DecidableEq, Repr

namespace MultiByte

def tripleStart : Nat := 0x8f

/-- The number of a character of four bytes, where the second and the fourth are digits. -/
def quad? (a b c d : Nat) : Option Nat :=
  if 0x81 ≤ a && a ≤ 0xfe && 0x30 ≤ b && b ≤ 0x39 && 0x81 ≤ c && c ≤ 0xfe && 0x30 ≤ d && d ≤ 0x39
  then some ((((a - 0x81) * 10 + (b - 0x30)) * 126 + (c - 0x81)) * 10 + (d - 0x30))
  else none

def hasQuad (m : MultiByte) (a b c d : Nat) : Bool :=
  match quad? a b c d with
  | some n => inSomeRange m.quads n
  | none => false

def letterStart : Nat := 0xa4

/-- The sign that starts a syllable spelled by its letters. It also stands for a missing last
letter. -/
def filler : Nat := 0xd4

def firstLetters : List (Nat × Nat) :=
  [(0xa1, 0xa2), (0xa4, 0xa4), (0xa7, 0xa9), (0xb1, 0xb3), (0xb5, 0xbe)]

def middleLetters : List (Nat × Nat) := [(0xbf, 0xd3)]

def lastLetters : List (Nat × Nat) :=
  [(0xa1, 0xa7), (0xa9, 0xb2), (0xb4, 0xb8), (0xba, 0xbe), (filler, filler)]

def isSpelled (b₁ c₁ b₂ c₂ b₃ c₃ : Nat) : Bool :=
  b₁ == letterStart && inSomeRange firstLetters c₁ && b₂ == letterStart &&
    inSomeRange middleLetters c₂ && b₃ == letterStart && inSomeRange lastLetters c₃

def accepts (m : MultiByte) : Bytes → Bool
  | [] => true
  | a :: s =>
    if inSomeRange m.singles a.toNat then accepts m s
    else match s with
      | [] => false
      | b :: s =>
        if ByteRow.contain m.pairs a.toNat b.toNat then accepts m s
        else match s with
          | [] => false
          | c :: s =>
            if a.toNat == tripleStart && ByteRow.contain m.triples b.toNat c.toNat then accepts m s
            else match s with
              | [] => false
              | d :: s =>
                if m.hasQuad a.toNat b.toNat c.toNat d.toNat then accepts m s
                else if m.spelled && a.toNat == letterStart && b.toNat == filler then
                  match s with
                  | e :: f :: g :: h :: s =>
                    isSpelled c.toNat d.toNat e.toNat f.toNat g.toNat h.toNat && accepts m s
                  | _ => false
                else false

end MultiByte

end SourceTidy.Text
