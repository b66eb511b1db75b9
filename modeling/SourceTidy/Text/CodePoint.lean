import SourceTidy.Text.Quoted

/-!
# Code points

A code point is the number of a character or a surrogate. Code points with a surrogate among them
cannot be written to a file.
-/

namespace SourceTidy

inductive CodePoint where
  | char (c : Char)
  | surrogate (n : Fin 0x800)
  deriving DecidableEq, Repr

namespace CodePoint

def firstSurrogate : Nat := 0xd800

def code : CodePoint → Nat
  | char c => c.toNat
  | surrogate n => firstSurrogate + n.val

def ofNat? (n : Nat) : Option CodePoint :=
  if n.isValidChar then some (char (Char.ofNat n))
  else if h : n - firstSurrogate < 0x800 then some (surrogate ⟨n - firstSurrogate, h⟩)
  else none

def isSurrogate : CodePoint → Bool
  | char _ => false
  | surrogate _ => true

/-- The character of a code point; a surrogate has none, and the replacement character stands for
it. -/
def toChar : CodePoint → Char
  | char c => c
  | surrogate _ => Char.ofNat 0xfffd

def ofText (s : Text) : List CodePoint := s.map char

def toText (s : List CodePoint) : Except Text.Unencodable Text :=
  let first := s.findIdx isSurrogate
  if first < s.length then
    .error {
      encoding := .utf8
      code := (s.getD first (char ' ')).code
      first
      last := first + ((s.drop first).takeWhile isSurrogate).length }
  else .ok (s.map toChar)

end CodePoint

end SourceTidy
