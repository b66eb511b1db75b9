import SourceTidy.Text.Encoding.Escaped
import SourceTidy.Text.Encoding.Punycode
import SourceTidy.Text.Encoding.Shifted
import SourceTidy.Text.Encoding.Wide
import SourceTidy.Text.Utf8

/-!
# Encodings

File contents can be tested against an encoding.
-/

namespace SourceTidy

inductive Encoding where
  | ascii
  | utf8
  | utf8Marked
  | utf7
  | utf16 (order : Option Text.ByteOrder)
  | utf32 (order : Option Text.ByteOrder)
  /-- A character for every byte outside the given ranges. -/
  | singleByte (unused : List (Nat × Nat))
  | multiByte (table : Text.MultiByte)
  | shifted (table : Text.Shifted)
  | hz
  /-- Latin text with escapes, or only those of code points. -/
  | escaped (plainOnly : Bool)
  | punycode
  | domainName
  | undefined
  | notText
  deriving DecidableEq, Repr

inductive EncodingFault where
  | undefined
  | punycode (f : Text.PunycodeFault)
  deriving DecidableEq, Repr

namespace EncodingFault

def message : EncodingFault → String
  | undefined => "undefined encoding"
  | punycode f => f.message

end EncodingFault

namespace Encoding

def isAscii (data : Bytes) : Bool := data.all (· < 0x80)

def isUtf8 (data : Bytes) : Bool := (Text.decodeUtf8 data).toBool

def accepts (data : Bytes) : Encoding → Except EncodingFault Bool
  | ascii | domainName => .ok (isAscii data)
  | utf8 => .ok (isUtf8 data)
  | utf8Marked => .ok (isUtf8 ((Text.after? [0xef, 0xbb, 0xbf] data).getD data))
  | utf7 => .ok (Text.isUtf7 data)
  | utf16 order => .ok (Text.isUtf16 order data)
  | utf32 order => .ok (Text.isUtf32 order data)
  | singleByte unused => .ok (data.all fun b => !Text.inSomeRange unused b.toNat)
  | multiByte table => .ok (table.accepts data)
  | shifted table => .ok (table.accepts data)
  | hz => .ok (Text.isHz data)
  | escaped plainOnly => .ok (Text.isEscaped plainOnly data)
  | punycode =>
    if isAscii data then
      match Text.Punycode.check (Text.decodeLatin1 data) with
      | .ok _ => .ok true
      | .error f => .error (.punycode f)
    else .ok false
  | undefined => .error .undefined
  | notText => .ok false

end Encoding

end SourceTidy
