import SourceTidy.Pattern.Regex.Reading
import SourceTidy.Text.CharName

/-!
# Escapes in regular expressions

A backslash with a letter stands for a character, a class of characters or a place in the text. With
a number it stands for what a group has matched or for the character with that octal number.
-/

namespace SourceTidy.Regex

def isHex (c : Char) : Bool := c.isDigit || ('a' ≤ c && c ≤ 'f') || ('A' ≤ c && c ≤ 'F')

def isOctal (c : Char) : Bool := '0' ≤ c && c ≤ '7'

def digitsIn (base : Nat) (s : Text) : Nat :=
  s.foldl (fun n c =>
    n * base + (if c.isDigit then c.toNat - 0x30 else c.toLower.toNat - 0x57)) 0

def letterEscape? (c : Char) : Option Nat :=
  if c == 'a' then some 7
  else if c == 'b' then some 8
  else if c == 'f' then some 12
  else if c == 'n' then some 10
  else if c == 'r' then some 13
  else if c == 't' then some 9
  else if c == 'v' then some 11
  else if c == '\\' then some 0x5c
  else none

def classEscape? (c : Char) : Option (CharClass × Bool) :=
  if c == 'd' then some (.digit, false)
  else if c == 'D' then some (.digit, true)
  else if c == 's' then some (.space, false)
  else if c == 'S' then some (.space, true)
  else if c == 'w' then some (.word, false)
  else if c == 'W' then some (.word, true)
  else none

def hexEscape (letter : Char) (count : Nat) : Read Nat := do
  let digits ← takeWhile isHex count
  let escape := '\\' :: letter :: digits
  if digits.length != count then refuse (.incompleteEscape escape) escape.length
  else
    let n := digitsIn 16 digits
    if 0x110000 ≤ n then refuse (.badEscape escape) escape.length else return n

/-- The escapes by number or name that are the same in a set and outside; none if the letter is
not one of theirs. -/
def codeEscape? (c : Char) : Read (Option Nat) := do
  let isText := (← reading).isText
  if c == 'x' then some <$> hexEscape c 2
  else if c == 'u' && isText then some <$> hexEscape c 4
  else if c == 'U' && isText then some <$> hexEscape c 8
  else if c == 'N' && isText then
    if ← takeIf '\x7b' then
      let name ← takeName '\x7d' "character name"
      match Text.charNamed? name with
      | some c => return some c.toNat
      | none => refuse (.undefinedName name) (name.length + 4)
    else refuse .missingBrace 0
  else return none

/-- A character that an escape stands for itself, unless it is an ASCII letter or digit. -/
def plainEscape (c : Char) : Read Nat := do
  if c.isAlphanum then refuse (.badEscape ['\\', c]) 2 else return c.toNat

def checkOctal (digits : Text) : Read Nat := do
  let n := digitsIn 8 digits
  if 0o377 < n then refuse (.octalTooLarge ('\\' :: digits)) (digits.length + 1)
  else return n

def readSetEscape (c : Char) : Read SetMember := do
  match letterEscape? c, classEscape? c with
  | some n, _ => return .code n
  | none, some (kind, negated) => return .named kind negated (← asciiOnly)
  | none, none =>
    match ← codeEscape? c with
    | some n => return .code n
    | none =>
      if isOctal c then
        let digits ← takeWhile isOctal 2
        return .code (← checkOctal (c :: digits))
      else return .code (← plainEscape c)

def oneCode (n : Nat) : Read Regex := return .code (← caseRule) n

def isClosed (number : Nat) : Read Bool := do
  return ((← reading).groups.getD number none).isSome

def checkBehind (number : Nat) : Read Unit := do
  match (← reading).behindLimit with
  | none => return
  | some limit =>
    if !(← isClosed number) then refuse .openGroup 0
    if limit ≤ number then refuse .groupInLookBehind 0

def referTo (number offset : Nat) : Read Regex := do
  if !(← isClosed number) then refuse .openGroup offset
  checkBehind number
  return .again (← caseRule) number

def ask (number position : Nat) : Read Unit :=
  change (fun r => { r with asked := r.asked ++ [(number, position)] }) fun _ =>
    ⟨id, fun h => ⟨h, rfl⟩, rfl, fun _ h => h, fun h => absurd (List.append_eq_nil_iff.mp h).2 nofun⟩

def referByDigits (digits : Text) : Read Regex := do
  let number := digitsIn 10 digits
  if number < (← reading).groups.length then
    ask number ((← place) - (digits.length + 1))
    referTo number (digits.length + 1)
  else refuse (.invalidGroup number) digits.length

def readNumberEscape (c : Char) : Read Regex := do
  let second ← takeWhile Char.isDigit 1
  match second with
  | [d] =>
    if isOctal c && isOctal d then
      match ← takeWhile isOctal 1 with
      | [e] => oneCode (← checkOctal [c, d, e])
      | _ => referByDigits [c, d]
    else referByDigits [c, d]
  | _ => referByDigits [c]

def readEscape (c : Char) : Read Regex := do
  let ascii ← asciiOnly
  if c == 'A' then return .anchor (.start false)
  else if c == 'b' then return .anchor (.wordEdge false ascii)
  else if c == 'B' then return .anchor (.wordEdge true ascii)
  else if c == 'Z' then return .anchor .textEnd
  else match classEscape? c, letterEscape? c with
    | some (kind, negated), _ => return .set (← caseRule) false [.named kind negated ascii]
    | none, some n => oneCode n
    | none, none =>
      match ← codeEscape? c with
      | some n => oneCode n
      | none =>
        if c == '0' then oneCode (digitsIn 8 (← takeWhile isOctal 2))
        else if c.isDigit then readNumberEscape c
        else oneCode (← plainEscape c)

end SourceTidy.Regex
