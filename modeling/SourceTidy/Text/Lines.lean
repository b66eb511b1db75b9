import SourceTidy.Text.Basic

/-!
# Lines

Lines of a file end with a line feed, a carriage return, or the two in this order. A text in memory
has line feeds only, and every other terminator is turned into one when it is read.
-/

namespace SourceTidy

namespace Text

def lf : UInt8 := 0x0a

def cr : UInt8 := 0x0d

def consLine {α : Type} (a : α) : List (List α) → List (List α)
  | [] => [[a]]
  | line :: lines => (a :: line) :: lines

/-- The lines of a byte sequence without their terminators. A terminator at the very end opens no
further line. -/
def byteLines : Bytes → List Bytes
  | [] => []
  | [b] => if b == lf || b == cr then [[]] else [[b]]
  | b :: c :: s =>
    if b == cr && c == lf then [] :: byteLines s
    else if b == lf || b == cr then [] :: byteLines (c :: s)
    else consLine b (byteLines (c :: s))

def unifyNewlines : Text → Text
  | [] => []
  | '\r' :: '\n' :: s => '\n' :: unifyNewlines s
  | c :: s => (if c == '\r' then '\n' else c) :: unifyNewlines s

/-- The lines of a text cut after each line feed, which they keep. -/
def lfLines : Text → List Text
  | [] => []
  | c :: s => if c == '\n' then ['\n'] :: lfLines s else consLine c (lfLines s)

/-- Whether a character ends a line in the widest sense: also vertical tabs, form feeds, the information
separators, the next-line control and the line and paragraph separators. -/
def isLineBreak (c : Char) : Bool :=
  (0x0a ≤ c.toNat && c.toNat ≤ 0x0d) || (0x1c ≤ c.toNat && c.toNat ≤ 0x1e) ||
    c.toNat == 0x85 || c.toNat == 0x2028 || c.toNat == 0x2029

def wideLines : Text → List Text
  | [] => []
  | '\r' :: '\n' :: s => ['\r', '\n'] :: wideLines s
  | c :: s => if isLineBreak c then [c] :: wideLines s else consLine c (wideLines s)

def writeNewlines (terminator : Text) (s : Text) : Text :=
  s.flatMap fun c => if c == '\n' then terminator else [c]

end Text

end SourceTidy
