import SourceTidy.Notice.Basic
import SourceTidy.Setting.Convert
import SourceTidy.Text.Encoding
import SourceTidy.Text.Lines

/-!
# Checks

A check finds the content of a file in order or not. Some point at the line that is not in order.
-/

namespace SourceTidy

inductive Check where
  | tabs
  | lineEndings (eol : Eol)
  | trailing (terminator : Bytes)
  | encoding (name : Setting)
  /-- Nothing but white space follows the last line feed, and there is one. -/
  | finalEol
  | includes
  | notice
  | lineLength (eol limit : Setting)
  deriving DecidableEq, Repr

structure Report where
  line : Nat
  shown : String
  what : String
  deriving DecidableEq, Repr

inductive Verdict where
  | pass
  | fail (report : Option Report)
  deriving DecidableEq, Repr

namespace Check

/-- The beginning of a content up to the end of the first place that a test finds, which gets the byte
before the place and the content from there on, and gives the number of bytes. -/
def throughFirst (test : Option UInt8 → Bytes → Option Nat) (before : Option UInt8) :
    Bytes → Option Bytes
  | [] => none
  | b :: s =>
    match test before (b :: s) with
    | some n => some ((b :: s).take n)
    | none => (throughFirst test (some b) s).map (b :: ·)

def tabAt (_ : Option UInt8) (s : Bytes) : Option Nat :=
  if s.head? == some 0x09 then some 1 else none

def otherEolAt : Eol → Option UInt8 → Bytes → Option Nat
  | .native, _, s => if [Text.cr, Text.lf].isPrefixOf s then some 2 else none
  | .win, before, s =>
    if s.head? == some Text.lf && before != some Text.cr then some 1 else none

def trailingAt (terminator : Bytes) (_ : Option UInt8) : Bytes → Option Nat
  | b :: s =>
    if Text.isBlankByte b && terminator.isPrefixOf s then some (terminator.length + 1) else none
  | [] => none

def firstOccurrence (what : String) (test : Option UInt8 → Bytes → Option Nat) (data : Bytes) :
    Except Fault Verdict :=
  match throughFirst test none data with
  | none => .ok .pass
  | some start => do
    let lines := Text.byteLines start
    let line ← (Text.decodeUtf8 (lines.getLastD [])).mapError Fault.undecodable
    return .fail (some {
      line := lines.length
      shown := Text.str (Text.quoteText line)
      what := what ++ " (first occurrence)" })

/-- Whether bytes cannot be decoded. No bytes need no encoding. -/
def isUndecodable (name : Setting) (line : Bytes) : Except Fault Bool :=
  match name with
  | .text name =>
    if name.toList.contains '\x00' then .error .nullInEncoding
    else if line.isEmpty then .ok false
    else match Encoding.ofName? name with
      | none => .error (.unknownEncoding name)
      | some .notText => .error (.notTextEncoding name)
      | some e => ((e.accepts line).map (!·)).mapError (.encoding name)
  | v => .error (.kind (.notEncodingName v.kind))

def firstUndecodable (name : Setting) (number : Nat) : List Bytes → Except Fault Verdict
  | [] => .ok .pass
  | line :: lines => do
    if ← isUndecodable name line then
      return .fail (some {
        line := number, shown := Text.quoteBytes line, what := "unable to decode" })
    else firstUndecodable name (number + 1) lines

/-- The lines whose lengths are limited. Without a line ending, any terminator ends a line. -/
def linesFor (eol : Setting) (data : Bytes) : Except Fault (List Bytes) :=
  match eol with
  | .none => .ok (Text.byteLines data)
  | v => do
    let terminator ← v.characters
    return Text.splitOn (Text.encodeString terminator) data

def firstTooLong (limit : Setting) (number : Nat) : List Bytes → Except Fault Verdict
  | [] => .ok .pass
  | line :: lines => do
    if ← limit.isBelow line.length then
      let s ← (Text.decodeUtf8 line).mapError Fault.undecodable
      return .fail (some {
        line := number
        shown := Text.str (Text.quoteText s)
        what := "line too long (" ++ toString line.length ++ " characters)" })
    else firstTooLong limit (number + 1) lines

def endsWithEol (data : Bytes) : Bool :=
  data.contains Text.lf && (data.reverse.takeWhile (· != Text.lf)).all Text.isSpaceByte

def includesAbove (line : Bytes) : Bool :=
  match Text.after? (Text.encodeString "#include") (line.dropWhile Text.isBlankByte) with
  | some (b :: s) => Text.isBlankByte b && (Text.encodeString "\"..").isPrefixOf s
  | _ => false

def verdict (inOrder : Bool) : Verdict := if inOrder then .pass else .fail none

def examine (data : Bytes) : Check → Except Fault Verdict
  | tabs => firstOccurrence "tab character" tabAt data
  | lineEndings eol => firstOccurrence "invalid EOL" (otherEolAt eol) data
  | trailing terminator => firstOccurrence "trailing spaces" (trailingAt terminator) data
  | encoding name => firstUndecodable name 1 (Text.byteLines data)
  | finalEol => .ok (verdict (endsWithEol data))
  | includes => .ok (verdict (!(Text.splitAt Text.lf data).any includesAbove))
  | notice => .ok (verdict (Notice.foundInBytes data))
  | lineLength eol limit => do firstTooLong limit 1 (← linesFor eol data)

end Check

end SourceTidy
