import SourceTidy.Text.Basic

/-!
# UTF-8

Texts are written to files in UTF-8. Reading either yields the text or says which bytes cannot be
read and why.
-/

namespace SourceTidy

inductive EncodingProblem where
  | invalidStart
  | invalidContinuation
  | unexpectedEnd
  | notAscii
  deriving DecidableEq, Repr

/-- The first bytes that cannot be read: from `first` up to, but without, `last`. -/
structure Undecodable where
  encoding : String
  bytes : Bytes
  first : Nat
  last : Nat
  problem : EncodingProblem
  deriving DecidableEq, Repr

namespace Text

def encodeChar (c : Char) : Bytes :=
  let n := c.toNat
  if n < 0x80 then [n.toUInt8]
  else if n < 0x800 then [(0xc0 + n / 0x40).toUInt8, (0x80 + n % 0x40).toUInt8]
  else if n < 0x10000 then
    [(0xe0 + n / 0x1000).toUInt8, (0x80 + n / 0x40 % 0x40).toUInt8, (0x80 + n % 0x40).toUInt8]
  else
    [(0xf0 + n / 0x40000).toUInt8, (0x80 + n / 0x1000 % 0x40).toUInt8,
      (0x80 + n / 0x40 % 0x40).toUInt8, (0x80 + n % 0x40).toUInt8]

def encode (s : Text) : Bytes := s.flatMap encodeChar

def encodeString (s : String) : Bytes := encode s.toList

def isContinuation (b : UInt8) : Bool := 0x80 ≤ b && b ≤ 0xbf

/-- Whether a byte may be the second of three: no shorter encoding would do, and the character is no
surrogate. -/
def isSecondOfThree (lead b : UInt8) : Bool :=
  isContinuation b && (if b < 0xa0 then lead != 0xe0 else lead != 0xed)

/-- Whether a byte may be the second of four: no shorter encoding would do, and the character exists. -/
def isSecondOfFour (lead b : UInt8) : Bool :=
  isContinuation b && (if b < 0x90 then lead != 0xf0 else lead != 0xf4)

def low (b : UInt8) : Nat := b.toNat % 0x40

structure DecodeStop where
  first : Nat
  size : Nat
  problem : EncodingProblem
  deriving DecidableEq, Repr

def decodeFrom (pos : Nat) : Bytes → Except DecodeStop Text
  | [] => .ok []
  | a :: s =>
    if a < 0x80 then
      (Char.ofNat a.toNat :: ·) <$> decodeFrom (pos + 1) s
    else if a < 0xc2 then .error ⟨pos, 1, .invalidStart⟩
    else if a < 0xe0 then
      match s with
      | [] => .error ⟨pos, 1, .unexpectedEnd⟩
      | b :: s =>
        if isContinuation b then
          (Char.ofNat ((a.toNat - 0xc0) * 0x40 + low b) :: ·) <$> decodeFrom (pos + 2) s
        else .error ⟨pos, 1, .invalidContinuation⟩
    else if a < 0xf0 then
      match s with
      | [] => .error ⟨pos, 1, .unexpectedEnd⟩
      | b :: s =>
        if isSecondOfThree a b then
          match s with
          | [] => .error ⟨pos, 2, .unexpectedEnd⟩
          | c :: s =>
            if isContinuation c then
              (Char.ofNat ((a.toNat - 0xe0) * 0x1000 + low b * 0x40 + low c) :: ·) <$>
                decodeFrom (pos + 3) s
            else .error ⟨pos, 2, .invalidContinuation⟩
        else .error ⟨pos, 1, .invalidContinuation⟩
    else if a < 0xf5 then
      match s with
      | [] => .error ⟨pos, 1, .unexpectedEnd⟩
      | b :: s =>
        if isSecondOfFour a b then
          match s with
          | [] => .error ⟨pos, 2, .unexpectedEnd⟩
          | c :: s =>
            if isContinuation c then
              match s with
              | [] => .error ⟨pos, 3, .unexpectedEnd⟩
              | d :: s =>
                if isContinuation d then
                  (Char.ofNat ((a.toNat - 0xf0) * 0x40000 + low b * 0x1000 + low c * 0x40 + low d)
                    :: ·) <$> decodeFrom (pos + 4) s
                else .error ⟨pos, 3, .invalidContinuation⟩
            else .error ⟨pos, 2, .invalidContinuation⟩
        else .error ⟨pos, 1, .invalidContinuation⟩
    else .error ⟨pos, 1, .invalidStart⟩

def decodeUtf8 (data : Bytes) : Except Undecodable Text :=
  match decodeFrom 0 data with
  | .ok s => .ok s
  | .error stop => .error ⟨"utf-8", data, stop.first, stop.first + stop.size, stop.problem⟩

/-- Reads ASCII that starts at the given offset; the offset of the first other byte if there is
one. -/
def decodeAsciiFrom (pos : Nat) : Bytes → Except Nat Text
  | [] => .ok []
  | b :: s =>
    if b < 0x80 then (Char.ofNat b.toNat :: ·) <$> decodeAsciiFrom (pos + 1) s else .error pos

def decodeAscii (data : Bytes) : Except Undecodable Text :=
  match decodeAsciiFrom 0 data with
  | .ok s => .ok s
  | .error pos => .error ⟨"ascii", data, pos, pos + 1, .notAscii⟩

def decodeLatin1 (data : Bytes) : Text := data.map fun b => Char.ofNat b.toNat

end Text

namespace EncodingProblem

def message : EncodingProblem → String
  | invalidStart => "invalid start byte"
  | invalidContinuation => "invalid continuation byte"
  | unexpectedEnd => "unexpected end of data"
  | notAscii => "ordinal not in range(128)"

end EncodingProblem

namespace Undecodable

def hexByte (b : UInt8) : String :=
  String.ofList [Nat.digitChar (b.toNat / 16), Nat.digitChar (b.toNat % 16)]

def message (u : Undecodable) : String :=
  let place :=
    if u.last == u.first + 1 then
      "byte 0x" ++ hexByte (u.bytes.getD u.first 0) ++ " in position " ++ toString u.first
    else "bytes in position " ++ toString u.first ++ "-" ++ toString (u.last - 1)
  "'" ++ u.encoding ++ "' codec can't decode " ++ place ++ ": " ++ u.problem.message

end Undecodable

end SourceTidy
