import SourceTidy.Text.Case
import SourceTidy.Text.Digit
import SourceTidy.Text.Space
import SourceTidy.Text.Word

/-!
# Regular expressions

An expression is a tree in which every part carries the switches in force where it was written, so
that its meaning does not depend on its place.
-/

namespace SourceTidy

inductive CaseRule where
  | exact
  /-- ASCII letters also to their counterpart. -/
  | ascii
  /-- ASCII letters also to their counterpart, where a set is asked about either of them. -/
  | eitherAscii
  /-- Letters also to their counterparts. -/
  | any
  deriving DecidableEq, Repr

inductive CharClass where
  | digit
  | space
  | word
  deriving DecidableEq, Repr

/-- A member of a set of characters. Code points may be surrogates, which no text has. -/
inductive SetMember where
  | code (n : Nat)
  | range (first last : Nat)
  /-- A class, or its complement, within ASCII or among all characters. -/
  | named (kind : CharClass) (negated asciiOnly : Bool)
  deriving DecidableEq, Repr

inductive Anchor where
  | start (anyLine : Bool)
  /-- The end of the text, possibly before a last line feed, or the end of any line. -/
  | stop (anyLine : Bool)
  | textEnd
  | wordEdge (negated asciiOnly : Bool)
  deriving DecidableEq, Repr

inductive Choice where
  | most
  | fewest
  /-- As often as possible, and never less often later. -/
  | mostKept
  deriving DecidableEq, Repr

inductive Regex where
  | empty
  | code (rule : CaseRule) (n : Nat)
  | anyChar (lineFeed : Bool)
  | set (rule : CaseRule) (negated : Bool) (members : List SetMember)
  | anchor (a : Anchor)
  | seq (first second : Regex)
  | alt (first second : Regex)
  | loop (least : Nat) (most : Option Nat) (choice : Choice) (body : Regex)
  | group (number : Option Nat) (body : Regex)
  /-- A group with switches of its own. -/
  | switched (body : Regex)
  /-- A group that is matched in its first way only. -/
  | atomic (body : Regex)
  | ahead (negated : Bool) (body : Regex)
  /-- A condition on the characters before, of which there are between `least` and `most`. -/
  | behind (negated : Bool) (least most : Nat) (body : Regex)
  | again (rule : CaseRule) (number : Nat)
  | ifGroup (number : Nat) (yes no : Regex)
  deriving DecidableEq, Repr

namespace Choice

def title : Choice → String
  | most => "MAX_REPEAT"
  | fewest => "MIN_REPEAT"
  | mostKept => "POSSESSIVE_REPEAT"

end Choice

namespace CharClass

def contains (asciiOnly : Bool) (c : Char) : CharClass → Bool
  | digit => if asciiOnly then c.isDigit else Text.isDecimal c
  | space =>
    Text.isSpace c && (!asciiOnly || (c.toNat < 0x80 && c.toNat ∉ [0x1c, 0x1d, 0x1e, 0x1f]))
  | word => if asciiOnly then Text.isAsciiWord c else Text.isWord c

end CharClass

namespace CaseRule

/-- The character that stands for all its equals but its siblings. -/
def fold : CaseRule → Char → Char
  | exact, c => c
  | ascii, c | eitherAscii, c => c.toLower
  | any, c => Text.lowerChar c

def hasEquals (rule : CaseRule) (n : Nat) : Bool :=
  match rule with
  | exact => false
  | ascii | eitherAscii => (Char.ofNat n).isAlpha
  | any => Text.hasCase (Char.ofNat n)

def hasEqualsIn (rule : CaseRule) (first last : Nat) : Bool :=
  match rule with
  | exact => false
  | ascii | eitherAscii => (first ≤ 0x5a && 0x41 ≤ last) || (first ≤ 0x7a && 0x61 ≤ last)
  | any => Text.caseInRange first last

def siblings (rule : CaseRule) (c : Char) : List Char :=
  match rule with
  | any => Text.caseSiblings c
  | _ => []

def sources (rule : CaseRule) (c : Char) : List Nat :=
  match rule with
  | exact => [c.toNat]
  | ascii | eitherAscii => if c.toLower == c then [c.toNat, c.toUpper.toNat] else []
  | any => Text.withLower c

def same (rule : CaseRule) (n : Nat) (c : Char) : Bool :=
  if rule.hasEquals n then
    let folded := rule.fold (Char.ofNat n)
    rule.fold c == folded || (rule.siblings folded).contains (rule.fold c)
  else c.toNat == n

end CaseRule

namespace SetMember

/-- Code points from this one on are beyond the plane in which sets know all counterparts. -/
def planeEnd : Nat := 0x10000

def contains (c : Char) : SetMember → Bool
  | code n => c.toNat == n
  | range first last => first ≤ c.toNat && c.toNat ≤ last
  | named kind negated asciiOnly => kind.contains asciiOnly c != negated

def within (asciiOnly : Bool) : SetMember → SetMember
  | named kind negated _ => named kind negated asciiOnly
  | m => m

/-- Whether counterparts matter for a member. Beyond the plane they are taken to matter. -/
def hasEquals (rule : CaseRule) : SetMember → Bool
  | code n => planeEnd ≤ n || rule.hasEquals n
  | range first last => planeEnd ≤ last || rule.hasEqualsIn first last
  | named .. => false

/-- Whether a folded character is equal to a member. Beyond the plane, a single member is compared
as it stands, and a range also with the upper case of the character. -/
def containsFolded (rule : CaseRule) (c : Char) : SetMember → Bool
  | code n =>
    if planeEnd ≤ n then c.toNat == n
    else
      let folded := rule.fold (Char.ofNat n)
      (folded == c && n.isValidChar) || (rule.siblings folded).contains c
  | range first last =>
    let reached := fun n => decide (first ≤ n ∧ n ≤ last)
    ((c :: rule.siblings c).any fun k =>
        (rule.sources k).any fun n => decide (n < planeEnd) && reached n) ||
      (decide (planeEnd ≤ last) && (reached c.toNat || reached (Text.upperChar c).toNat))
  | named kind negated asciiOnly => kind.contains asciiOnly c != negated

end SetMember

namespace Regex

def accepts (rule : CaseRule) (negated : Bool) (members : List SetMember) (c : Char) : Bool :=
  let holds := fun c => members.any (SetMember.contains c) != negated
  match rule, members.eraseDups with
  | .exact, _ => holds c
  | rule, [.code n] => rule.same n c != negated
  | .eitherAscii, _ => holds c.toLower || holds c.toUpper
  | rule, _ =>
    if members.any (SetMember.hasEquals rule) then
      members.any (SetMember.containsFolded rule (rule.fold c)) != negated
    else holds c

def widthLimit : Nat := Nat.pow 2 64

/-- The least and the most number of characters that an expression can match, given those of the
numbered groups, as far as they are counted. -/
def width (groups : List (Option (Nat × Nat))) : Regex → Nat × Nat
  | empty => (0, 0)
  | code .. | anyChar .. | set .. => (1, 1)
  | anchor .. | ahead .. | behind .. => (0, 0)
  | seq a b =>
    let (l, h) := width groups a
    let (l', h') := width groups b
    (min (l + l') widthLimit, min (h + h') widthLimit)
  | alt a b =>
    let (l, h) := width groups a
    let (l', h') := width groups b
    (min l l', max h h')
  | loop least most _ body =>
    let (l, h) := width groups body
    let high := match most with
      | some m => h * m
      | none => if h == 0 then 0 else widthLimit
    (min (l * least) widthLimit, min high widthLimit)
  | group _ body | switched body | atomic body => width groups body
  | again _ number => (groups.getD number none).getD (0, widthLimit)
  | ifGroup _ yes no =>
    let (l, h) := width groups yes
    let (l', h') := width groups no
    (min l l', max h h')

/-- A bare condition on a place cannot be repeated. -/
def isAnchor : Regex → Bool
  | anchor _ => true
  | _ => false

/-- A repetition cannot be repeated as it stands. -/
def isLoop : Regex → Bool
  | loop .. => true
  | _ => false

def ofList : List Regex → Regex
  | [] => empty
  | [r] => r
  | r :: rs => seq r (ofList rs)

def parts : Regex → List Regex
  | empty => []
  | seq r s => r :: parts s
  | r => [r]

/-- The expressions that stand for a part of a sequence: for a group without a number or switches,
those in it. -/
def unpacked : Regex → List Regex
  | group none body => body.parts
  | r => [r]

/-- Whether an expression takes one character or none and has no parts. -/
def isPlain : Regex → Bool
  | code .. | anyChar .. | set .. | anchor .. | again .. => true
  | _ => false

/-- The rule and the members of a set that stands for an alternative of one character. -/
def singleSet? : List Regex → Option (CaseRule × List SetMember)
  | [code rule n] => some (rule, [.code n])
  | [set rule false members] => some (rule, members)
  | _ => none

def unionSet? : List (List Regex) → Option (CaseRule × List SetMember)
  | [] => none
  | [r] => singleSet? r
  | r :: rs => do
    let (rule, members) ← singleSet? r
    let (rule', more) ← unionSet? rs
    if rule == rule' then some (rule, members ++ more) else none

def alternatives : List (List Regex) → Regex
  | [] => empty
  | [r] => ofList r
  | r :: rs => alt (ofList r) (alternatives rs)

/-- Alternatives, of which the first is given apart. Plain expressions with which all of them start
are taken out, and single characters are put into one set. -/
def branch : List Regex → List (List Regex) → List Regex
  | r :: rs, others =>
    if r.isPlain && others.all (·.head? == some r) then r :: branch rs (others.map List.tail)
    else [chosen ((r :: rs) :: others)]
  | [], others => [chosen ([] :: others)]
where
  chosen (all : List (List Regex)) : Regex :=
    match unionSet? all with
    | some (rule, members) => set rule false members
    | none => alternatives all

def ofAlternatives (first : List Regex) : List (List Regex) → Regex
  | [] => ofList first
  | others => ofList (branch first others)

end Regex

end SourceTidy
