import SourceTidy.Text.Basic

/-!
# White space

Three notions are used: blanks, which may trail on a line; white space in a text, which covers the
separators of every script; and white space among bytes, which is ASCII.
-/

namespace SourceTidy.Text

def isBlank (c : Char) : Bool := c == ' ' || c == '\t'

def isBlankByte (b : UInt8) : Bool := b == 0x20 || b == 0x09

def spaceRanges : Array (Nat × Nat) := #[
  (0x9, 0xd), (0x1c, 0x20), (0x85, 0x85), (0xa0, 0xa0), (0x1680, 0x1680), (0x2000, 0x200a),
  (0x2028, 0x2029), (0x202f, 0x202f), (0x205f, 0x205f), (0x3000, 0x3000)]

def isSpace (c : Char) : Bool := inRanges spaceRanges c.toNat

def isSpaceByte (b : UInt8) : Bool := b == 0x20 || (0x09 ≤ b && b ≤ 0x0d)

def trimEnd (s : Text) : Text := dropEndWhile isSpace s

def trim (s : Text) : Text := dropBothWhile isSpace s

end SourceTidy.Text
