import SourceTidy.Text.Basic

/-!
# Paragraphs

Help texts are set in lines of limited width. A line is broken at white space, after a hyphen within
a word, or anywhere in a word that is wider than a line.
-/

namespace SourceTidy.Text

def isGap (c : Char) : Bool := c == ' ' || (0x09 ≤ c.toNat && c.toNat ≤ 0x0d)

/-- A text with one space for each run of white space, and none at the ends. -/
def collapse (s : Text) : Text :=
  let words := splitAt ' ' (s.map fun c => if isGap c then ' ' else c)
  List.intercalate [' '] (words.filter (!·.isEmpty))

def isLetterLike (c : Char) : Bool := c.isAlpha || c == '_'

def isWordLike (c : Char) : Bool := c.isAlphanum || c == '_'

def endsWord (c : Char) : Bool := isWordLike c || "!\"'&.,?".toList.contains c

/-- Whether a line may be broken after a hyphen, given the reversed text before it and the text
after it: there are letters on both sides, and not only one before. -/
def isBreakingHyphen (before after : Text) : Bool :=
  (match before with
    | a :: b :: rest =>
      isLetterLike a &&
        (isLetterLike b || (b == '-' && (rest.head?.map isLetterLike).getD false))
    | _ => false) &&
  match after with
  | a :: b :: rest =>
    isLetterLike a &&
      (isLetterLike b || (b == '-' && (rest.head?.map isLetterLike).getD false))
  | _ => false

/-- The number of hyphens of a dash that joins two words, given the reversed text before it. -/
def dashSize (before after : Text) : Nat :=
  let size := (after.takeWhile (· == '-')).length
  if 2 ≤ size && (before.head?.map endsWord).getD false &&
    ((after.drop size).head?.map isWordLike).getD false then size else 0

def takePiece (before : Text) : Text → Text
  | [] => []
  | c :: s =>
    if isGap c || dashSize before (c :: s) != 0 then []
    else if c == '-' && isBreakingHyphen before s then [c]
    else c :: takePiece (c :: before) s

def pieces (before : Text) : Nat → Text → List Text
  | 0, _ => []
  | _ + 1, [] => []
  | fuel + 1, c :: s =>
    let piece :=
      if isGap c then (c :: s).takeWhile isGap
      else if dashSize before (c :: s) != 0 then (c :: s).take (dashSize before (c :: s))
      else c :: takePiece (c :: before) s
    piece :: pieces (piece.reverse ++ before) fuel ((c :: s).drop piece.length)

def fitPieces (room : Nat) : List Text → List Text × List Text
  | [] => ([], [])
  | piece :: rest =>
    if piece.length ≤ room then
      let (line, left) := fitPieces (room - piece.length) rest
      (piece :: line, left)
    else ([], piece :: rest)

/-- Where to cut a word that is wider than a line: after its last hyphen that fits and has something else
before it, or where the room ends. -/
def cutPoint (room : Nat) (word : Text) : Nat :=
  let hyphen := room - 1 - ((word.take room).reverse.takeWhile (· != '-')).length
  if (word.take room).contains '-' && 0 < hyphen && (word.take hyphen).any (· != '-') then
    hyphen + 1
  else room

def dropGap : List Text → List Text
  | piece :: rest => if piece.all isGap then rest else piece :: rest
  | [] => []

def setLines (width : Nat) (isFirst : Bool) : Nat → List Text → List Text
  | 0, _ => []
  | _ + 1, [] => []
  | fuel + 1, all =>
    let all := if isFirst then all else dropGap all
    let (line, left) := fitPieces width all
    let used := (line.map List.length).sum
    let (line, left) := match left with
      | word :: rest =>
        if width < word.length then
          let cut := cutPoint (width - used) word
          (line ++ [word.take cut], word.drop cut :: rest)
        else (line, left)
      | [] => (line, left)
    let line := (dropGap line.reverse).reverse
    if line.isEmpty then setLines width isFirst fuel left
    else line.flatten :: setLines width false fuel left

def paragraphLines (width : Nat) (s : Text) : List Text :=
  let s := collapse s
  let all := pieces [] s.length s
  setLines width true (s.length + 1) all

def summary (s : Text) : Text := (splitOn ['\n', '\n'] s).headD []

end SourceTidy.Text
