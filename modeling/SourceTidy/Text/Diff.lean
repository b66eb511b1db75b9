import SourceTidy.Text.Lines

/-!
# Differences between texts

The difference of two texts as a list of hunks, with three lines of context. Lines that both texts
share are found by taking the longest common block and then the blocks on either side of it. Lines
that make up more than a hundredth of a long second text do not start one.
-/

namespace SourceTidy.Text

/-- Lines that two texts share: where they start in each text, and how many they are. -/
structure Block where
  first : Nat
  second : Nat
  size : Nat
  deriving DecidableEq, Repr

/-- The lines of a text that are equal to a given line, by number, unless they make up more than a
hundredth of a long text. -/
def equalPlaces (lines : List (Text × Nat)) (line : Text) : List Nat :=
  let places := lines.filterMap fun (l, i) => if l == line then some i else none
  if 200 ≤ lines.length && lines.length / 100 + 1 < places.length then [] else places

def placesWithin (start size : Nat) (places : List Nat) : List Nat :=
  (places.filter fun p => start ≤ p && p < start + size).map (· - start)

/-- For the places of a line of the first text in the second one, the lengths of the common blocks that
end there, each with the place after it; `earlier` is that of the line before. -/
def blockRow (earlier : List (Nat × Nat)) (places : List Nat) : List (Nat × Nat) :=
  places.map fun p => (p + 1, (earlier.lookup p).getD 0 + 1)

/-- The better of a block and the longest block of a row, which ends before line `i`; of two equal
ones the earlier. -/
def bestOfRow (i : Nat) (best : Block) (row : List (Nat × Nat)) : Block :=
  row.foldl (fun best (j, n) => if best.size < n then ⟨i - n, j - n, n⟩ else best) best

def longestFrom (i : Nat) (earlier : List (Nat × Nat)) (best : Block) : List (List Nat) → Block
  | [] => best
  | places :: more =>
    let row := blockRow earlier places
    longestFrom (i + 1) row (bestOfRow (i + 1) best row) more

def sharedStart : List Text → List Text → Nat
  | a :: s, b :: t => if a == b then sharedStart s t + 1 else 0
  | _, _ => 0

/-- The longest common block of two texts, made longer by equal lines on either side, given the places of
the first one's lines in the second one. -/
def longestBlock (places : List (List Nat)) (first second : List Text) : Block :=
  let best := longestFrom 0 [] ⟨0, 0, 0⟩ places
  let back := sharedStart (first.take best.first).reverse (second.take best.second).reverse
  let ahead := sharedStart (first.drop (best.first + best.size))
    (second.drop (best.second + best.size))
  ⟨best.first - back, best.second - back, back + best.size + ahead⟩

/-- The common blocks of two texts that start at the given line numbers, in order. -/
def commonBlocks : Nat → Nat → Nat → List (List Nat) → List Text → List Text → List Block
  | 0, _, _, _, _, _ => []
  | fuel + 1, i, j, places, first, second =>
    let best := longestBlock places first second
    let firstEnd := best.first + best.size
    let secondEnd := best.second + best.size
    if best.size == 0 then []
    else
      commonBlocks fuel i j ((places.take best.first).map (placesWithin 0 best.second))
          (first.take best.first) (second.take best.second) ++
        ⟨i + best.first, j + best.second, best.size⟩ :: commonBlocks fuel (i + firstEnd) (j + secondEnd)
            ((places.drop firstEnd).map (placesWithin secondEnd (second.length - secondEnd)))
            (first.drop firstEnd) (second.drop secondEnd)

def joinBlocks : List Block → List Block
  | [] => []
  | block :: blocks =>
    match joinBlocks blocks with
    | [] => [block]
    | next :: more =>
      if block.first + block.size == next.first && block.second + block.size == next.second then
        ⟨block.first, block.second, block.size + next.size⟩ :: more
      else block :: next :: more

structure Stretch where
  same : Bool
  first : Nat
  firstEnd : Nat
  second : Nat
  secondEnd : Nat
  deriving DecidableEq, Repr

def stretches (i j firstSize secondSize : Nat) : List Block → List Stretch
  | [] =>
    if i < firstSize || j < secondSize then [⟨false, i, firstSize, j, secondSize⟩] else []
  | block :: blocks =>
    let gap :=
      if i < block.first || j < block.second then [⟨false, i, block.first, j, block.second⟩] else []
    gap ++ ⟨true, block.first, block.first + block.size, block.second, block.second + block.size⟩ ::
      stretches (block.first + block.size) (block.second + block.size) firstSize secondSize blocks

def contextSize : Nat := 3

def cutStart (s : Stretch) : Stretch :=
  if s.same then
    { s with
      first := max s.first (s.firstEnd - contextSize)
      second := max s.second (s.secondEnd - contextSize) }
  else s

def cutEnd (s : Stretch) : Stretch :=
  if s.same then
    { s with
      firstEnd := min s.firstEnd (s.first + contextSize)
      secondEnd := min s.secondEnd (s.second + contextSize) }
  else s

def cutLast : List Stretch → List Stretch
  | [] => []
  | [s] => [cutEnd s]
  | s :: rest => s :: cutLast rest

def cutFirst : List Stretch → List Stretch
  | [] => []
  | s :: rest => cutStart s :: rest

/-- Hunks: the stretches are parted at equal ones that are longer than the context of two hunks. -/
def hunks (group : List Stretch) : List Stretch → List (List Stretch)
  | [] =>
    match group with
    | [] => []
    | [s] => if s.same then [] else [[s]]
    | group => [group]
  | s :: rest =>
    if s.same && 2 * contextSize < s.firstEnd - s.first then
      (group ++ [cutEnd s]) :: hunks [cutStart s] rest
    else hunks (group ++ [s]) rest

def lineRange (first last : Nat) : String :=
  let size := last - first
  if size == 1 then toString (first + 1)
  else toString (if size == 0 then first else first + 1) ++ "," ++ toString size

def hunkText (first second : List Text) (group : List Stretch) : Text :=
  let lines := fun (mark : Char) (all : List Text) (i j : Nat) =>
    ((all.drop i).take (j - i)).flatMap fun line => mark :: line
  let start := group.head?.getD ⟨true, 0, 0, 0, 0⟩
  let stop := group.getLast?.getD start
  let head := "@@ -" ++ lineRange start.first stop.firstEnd ++ " +" ++
    lineRange start.second stop.secondEnd ++ " @@\n"
  head.toList ++ group.flatMap fun s =>
    if s.same then lines ' ' first s.first s.firstEnd
    else lines '-' first s.first s.firstEnd ++ lines '+' second s.second s.secondEnd

def unifiedDiff (firstName secondName : String) (first second : List Text) : Text :=
  let places := first.map (equalPlaces second.zipIdx)
  let blocks := joinBlocks
    (commonBlocks (first.length + second.length + 1) 0 0 places first second)
  let groups := hunks [] (cutLast (cutFirst (stretches 0 0 first.length second.length blocks)))
  if groups.isEmpty then []
  else
    ("--- " ++ firstName ++ "\n+++ " ++ secondName ++ "\n").toList ++
      groups.flatMap (hunkText first second)

end SourceTidy.Text
