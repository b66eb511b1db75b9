import SourceTidy.Text.Basic

/-!
# Glob patterns

A star stands for any characters, a question mark for one character, a set in brackets for one
character in it or, after an exclamation mark, not in it. `Glob.accepts` decides whether a name as a
whole matches, and `Glob.Matches` says what that means.
-/

namespace SourceTidy

inductive GlobPart where
  | star
  | one
  | set (negated : Bool) (ranges : List (Char × Char))
  | char (c : Char)
  deriving DecidableEq, Repr

abbrev Glob := List GlobPart

namespace Glob

def inSome (ranges : List (Char × Char)) (c : Char) : Bool :=
  ranges.any fun r => r.1.toNat ≤ c.toNat && c.toNat ≤ r.2.toNat

def takes : GlobPart → Char → Bool
  | .star, _ | .one, _ => true
  | .set negated ranges, c => inSome ranges c != negated
  | .char a, c => c == a

/-- For every place of a name, whether the character after it passes a test and the answer for the
place after that is yes. -/
def passing (test : Char → Bool) : Text → List Bool → List Bool
  | c :: s, _ :: answers => (test c && answers.headD false) :: passing test s answers
  | _, _ => [false]

/-- For every place, whether the answer for it or for a later one is yes. -/
def orLater : List Bool → List Bool
  | [] => []
  | answer :: answers =>
    let later := orLater answers
    (answer || later.headD false) :: later

/-- For every place of a name from its start to its end, whether what is left of the name there
matches a pattern. -/
def answers : Glob → Text → List Bool
  | [], s => s.map (fun _ => false) ++ [true]
  | .star :: p, s => orLater (answers p s)
  | part :: p, s => passing (takes part) s (answers p s)

def accepts (p : Glob) (s : Text) : Bool := (answers p s).headD false

/-- What it means that a name matches a pattern. -/
inductive Matches : Glob → Text → Prop where
  | nil : Matches [] []
  | star {p : Glob} (s t : Text) : Matches p t → Matches (.star :: p) (s ++ t)
  | one {p : Glob} {t : Text} (c : Char) : Matches p t → Matches (.one :: p) (c :: t)
  | member {p : Glob} {t : Text} {ranges : List (Char × Char)} (c : Char) :
      inSome ranges c = true → Matches p t → Matches (.set false ranges :: p) (c :: t)
  | nonMember {p : Glob} {t : Text} {ranges : List (Char × Char)} (c : Char) :
      inSome ranges c = false → Matches p t → Matches (.set true ranges :: p) (c :: t)
  | char {p : Glob} {t : Text} (c : Char) : Matches p t → Matches (.char c :: p) (c :: t)

/-- The characters of a set and the pattern after it, for a pattern that follows an opening bracket. A
closing bracket that comes first, also after an exclamation mark, is a member. -/
def setBody? (p : Text) : Option (Text × Text) :=
  let (bang, p) := match p with
    | '!' :: p => (['!'], p)
    | p => ([], p)
  let (close, p) := match p with
    | ']' :: p => ([']'], p)
    | p => ([], p)
  match p.dropWhile (· != ']') with
  | [] => none
  | _ :: rest => some (bang ++ close ++ p.takeWhile (· != ']'), rest)

/-- Cuts the members of a set at the hyphens that make ranges, those with at least `skip` members before
them. The members passed so far are given in reverse. -/
def cutRanges (skip : Nat) (passed : Text) : Text → List Text
  | [] => [passed.reverse]
  | c :: s =>
    match skip with
    | skip + 1 => cutRanges skip (c :: passed) s
    | 0 => if c == '-' then passed.reverse :: cutRanges 2 [] s else cutRanges 0 (c :: passed) s

/-- An empty last piece stands for a hyphen that ends the set. -/
def closeRanges : List Text → List Text
  | [piece, []] => [piece ++ ['-']]
  | [] => []
  | piece :: pieces => piece :: closeRanges pieces

/-- Joins two neighbouring pieces of which the range between them is empty, from the right. -/
def dropEmptyRanges : List Text → List Text
  | [] => []
  | piece :: pieces =>
    match dropEmptyRanges pieces with
    | [] => [piece]
    | next :: more =>
      match piece.getLast?, next.head? with
      | some a, some b =>
        if b.toNat < a.toNat then (piece.dropLast ++ next.tail) :: more else piece :: next :: more
      | _, _ => piece :: next :: more

/-- The ranges of the pieces of a set: single members, and a range from the last member of each
piece to the first of the next one. After an empty piece the hyphen itself is a member. -/
def pieceRanges : List Text → List (Char × Char)
  | [] => []
  | [piece] => piece.map fun c => (c, c)
  | piece :: next :: more =>
    (piece.dropLast.map fun c => (c, c)) ++
      match piece.getLast?, next.head? with
      | some a, some b => (a, b) :: (pieceRanges (next :: more)).drop 1
      | _, _ => ('-', '-') :: pieceRanges (next :: more)

def splitNegation : List Text → Bool × List Text
  | ('!' :: piece) :: pieces => (true, piece :: pieces)
  | pieces => (false, pieces)

def setOf (body : Text) : GlobPart :=
  let skip := if body.head? == some '!' then 2 else 1
  let pieces := dropEmptyRanges (closeRanges (cutRanges skip [] body))
  let (negated, pieces) := splitNegation pieces
  .set negated (pieceRanges pieces)

def readParts : Nat → Text → Glob
  | 0, _ => []
  | _ + 1, [] => []
  | fuel + 1, c :: p =>
    if c == '*' then .star :: readParts fuel p
    else if c == '?' then .one :: readParts fuel p
    else if c == '[' then
      match setBody? p with
      | some (body, rest) => setOf body :: readParts fuel rest
      | none => .char '[' :: readParts fuel p
    else .char c :: readParts fuel p

/-- Reads a pattern. Every text is a pattern. -/
def ofText (p : Text) : Glob := readParts p.length p

def ofString (p : String) : Glob := ofText p.toList

end Glob

end SourceTidy
