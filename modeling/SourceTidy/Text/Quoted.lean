import SourceTidy.Text.Printable
import SourceTidy.Text.Utf8

/-!
# Quoted texts and bytes

The quote is an apostrophe, unless the content has an apostrophe and no double quote. The quote
itself, the backslash and everything that is not printable are escaped.
-/

namespace SourceTidy.Text

def hexNat (width n : Nat) : Text :=
  let digits := Nat.toDigits 16 n
  List.replicate (width - digits.length) '0' ++ digits

def quoteFor (hasApostrophe hasDouble : Bool) : Char :=
  if hasApostrophe && !hasDouble then '"' else '\''

def namedEscape? (quote c : Char) : Option Text :=
  if c == quote || c == '\\' then some ['\\', c]
  else if c == '\n' then some ['\\', 'n']
  else if c == '\r' then some ['\\', 'r']
  else if c == '\t' then some ['\\', 't']
  else none

def escapeChar (quote c : Char) : Text :=
  match namedEscape? quote c with
  | some e => e
  | none =>
    if isPrintable c then [c]
    else if c.toNat < 0x100 then '\\' :: 'x' :: hexNat 2 c.toNat
    else if c.toNat < 0x10000 then '\\' :: 'u' :: hexNat 4 c.toNat
    else '\\' :: 'U' :: hexNat 8 c.toNat

def quoteText (s : Text) : Text :=
  let quote := quoteFor (s.contains '\'') (s.contains '"')
  quote :: s.flatMap (escapeChar quote) ++ [quote]

def quote (s : String) : String := String.ofList (quoteText s.toList)

def escapeByte (quote : Char) (b : UInt8) : Text :=
  let c := Char.ofNat b.toNat
  match namedEscape? quote c with
  | some e => e
  | none =>
    if 0x20 ≤ b && b < 0x7f then [c] else '\\' :: 'x' :: hexNat 2 b.toNat

def quoteBytes (data : Bytes) : String :=
  let quote := quoteFor (data.contains 0x27) (data.contains 0x22)
  String.ofList ('b' :: quote :: data.flatMap (escapeByte quote) ++ [quote])

def quoteList (items : List String) : String :=
  "[" ++ ", ".intercalate (items.map quote) ++ "]"

def escapeCode (n : Nat) : String :=
  String.ofList (
    if n < 0x100 then '\\' :: 'x' :: hexNat 2 n
    else if n < 0x10000 then '\\' :: 'u' :: hexNat 4 n
    else '\\' :: 'U' :: hexNat 8 n)

inductive TargetEncoding where
  | ascii
  | utf8
  deriving DecidableEq, Repr

/-- Where a text cannot be written in an encoding: the first of its characters that cannot, from
`first` up to, but without, `last`. -/
structure Unencodable where
  encoding : TargetEncoding
  code : Nat
  first : Nat
  last : Nat
  deriving DecidableEq, Repr

def encodeAscii (s : Text) : Except Unencodable Bytes :=
  let first := s.findIdx fun c => 0x80 ≤ c.toNat
  if first < s.length then
    .error {
      encoding := .ascii
      code := (s.getD first ' ').toNat
      first
      last := first + ((s.drop first).takeWhile fun c => 0x80 ≤ c.toNat).length }
  else .ok (s.map fun c => c.toNat.toUInt8)

/-- The report on characters that cannot be written: one is shown, more are given by their place. -/
def Unencodable.message (u : Unencodable) : String :=
  let (name, reason) := match u.encoding with
    | .ascii => ("ascii", "ordinal not in range(128)")
    | .utf8 => ("utf-8", "surrogates not allowed")
  let place :=
    if u.last == u.first + 1 then
      "character '" ++ escapeCode u.code ++ "' in position " ++ toString u.first
    else "characters in position " ++ toString u.first ++ "-" ++ toString (u.last - 1)
  "'" ++ name ++ "' codec can't encode " ++ place ++ ": " ++ reason

end SourceTidy.Text
