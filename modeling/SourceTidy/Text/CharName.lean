import SourceTidy.Text.CharName.Packed
import SourceTidy.Text.CharName.Unpacking

/-!
# Names of characters

Some families of characters are named by rules: Hangul syllables after their letters, and ideographs
after their code points. The other names are packed.
-/

namespace SourceTidy.Text

def unpackedNames : Thunk (List (List Nat × Nat)) := .mk fun _ => unpackNames packedNames 308810 4194304

def capitalHex (n : Nat) : Text := (Nat.toDigits 16 n).map Char.toUpper

def capitalHexDigit? (c : Char) : Option Nat :=
  if c.isDigit then some (c.toNat - '0'.toNat)
  else if 'A' ≤ c && c ≤ 'F' then some (c.toNat - 'A'.toNat + 10)
  else none

def capitalHexValue? (s : Text) : Option Nat :=
  s.foldlM (fun n c => (capitalHexDigit? c).map (n * 16 + ·)) 0

def unifiedIdeographs : List (Nat × Nat) :=
  [(0x3400, 0x4dbf), (0x4e00, 0x9fff), (0x20000, 0x2a6df), (0x2a700, 0x2b738), (0x2b740, 0x2b81d),
    (0x2b820, 0x2cea1), (0x2ceb0, 0x2ebe0), (0x30000, 0x3134a)]

/-- The unified ideograph with a given name, which has four or five digits. -/
def unifiedIdeograph? (name : Text) : Option Nat := do
  let digits ← after? "CJK UNIFIED IDEOGRAPH-".toList name
  let n ← capitalHexValue? digits
  if (digits.length == 4 || digits.length == 5) &&
      unifiedIdeographs.any fun r => r.1 ≤ n && n ≤ r.2 then
    some n
  else none

/-- The characters that are named after their code points, by what comes before these. -/
def numberedNames : List (String × Nat × Nat) :=
  [("CJK COMPATIBILITY IDEOGRAPH-", 0xf900, 0xfa6d),
    ("CJK COMPATIBILITY IDEOGRAPH-", 0xfa70, 0xfad9),
    ("CJK COMPATIBILITY IDEOGRAPH-", 0x2f800, 0x2fa1d),
    ("KHITAN SMALL SCRIPT CHARACTER-", 0x18b00, 0x18cd5), ("NUSHU CHARACTER-", 0x1b170, 0x1b2fb)]

def numbered? (name : Text) : Option Nat :=
  numberedNames.findSome? fun (start, first, last) => do
    let digits ← after? start.toList name
    let n ← capitalHexValue? digits
    if first ≤ n && n ≤ last && capitalHex n == digits then some n else none

def leadingLetters : List String :=
  ["G", "GG", "N", "D", "DD", "R", "M", "B", "BB", "S", "SS", "", "J", "JJ", "C", "K", "T", "P",
    "H"]

def vowelLetters : List String :=
  ["A", "AE", "YA", "YAE", "EO", "E", "YEO", "YE", "O", "WA", "WAE", "OE", "YO", "U", "WEO", "WE",
    "WI", "YU", "EU", "YI", "I"]

def trailingLetters : List String :=
  ["", "G", "GG", "GS", "N", "NJ", "NH", "D", "L", "LG", "LM", "LB", "LS", "LT", "LP", "LH", "M",
    "B", "BS", "S", "SS", "NG", "J", "C", "K", "T", "P", "H"]

/-- The longest of some letters with which a text starts: its number and the rest of the text. -/
def longestLetter? (letters : List String) (s : Text) : Option (Nat × Text) :=
  let found := letters.zipIdx.filterMap fun (letter, i) =>
    (after? letter.toList s).map fun rest => (i, rest)
  found.foldl (fun best next =>
    match best with
    | none => some next
    | some b => if next.2.length < b.2.length then some next else some b) none

def hangulSyllable? (name : Text) : Option Nat := do
  let s ← after? "HANGUL SYLLABLE ".toList name
  let (lead, s) ← longestLetter? leadingLetters s
  let (vowel, s) ← longestLetter? vowelLetters s
  let (trail, s) ← longestLetter? trailingLetters s
  if s.isEmpty then some (0xac00 + (lead * 21 + vowel) * 28 + trail) else none

def selectorCount : Nat := 256

def selector? (name : Text) : Option Nat := do
  let digits ← after? "VS".toList name
  let n ← (List.range (selectorCount + 1)).find? fun n => 0 < n && Nat.toDigits 10 n == digits
  some (if n ≤ 16 then 0xfe00 + (n - 1) else 0xe0100 + (n - 17))

/-- The code point of the character with a given name. Small letters count as capital ones, save in
the names that are made by the rules for ideographs and syllables. -/
def codeNamed? (name : Text) : Option Nat :=
  let capital := name.map Char.toUpper
  hangulSyllable? name <|> unifiedIdeograph? name <|> numbered? capital <|> selector? capital <|>
    unpackedNames.get.lookup (wordNumbers capital)

def charNamed? (name : Text) : Option Char := (codeNamed? name).map Char.ofNat

end SourceTidy.Text
