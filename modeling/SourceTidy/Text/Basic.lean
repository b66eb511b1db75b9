/-!
# Text and bytes

Texts are lists of characters and file contents are lists of bytes. Here are the operations that do
not depend on what the elements are.
-/

namespace SourceTidy

abbrev Text := List Char

abbrev Bytes := List UInt8

namespace Text

def inRanges (ranges : Array (Nat × Nat)) (n : Nat) : Bool :=
  ranges.any fun r => r.1 ≤ n && n ≤ r.2

variable {α : Type}

/-- The pieces between the occurrences of a separating element; there is always at least one. -/
def splitAt [BEq α] (sep : α) : List α → List (List α)
  | [] => [[]]
  | a :: s =>
    if a == sep then [] :: splitAt sep s
    else match splitAt sep s with
      | [] => [[a]]
      | piece :: pieces => (a :: piece) :: pieces

def after? [BEq α] : List α → List α → Option (List α)
  | [], s => some s
  | _ :: _, [] => none
  | a :: p, b :: s => if a == b then after? p s else none

/-- The pieces between the occurrences of a separator that is not empty, found from the left. The counter
holds the elements of an occurrence still to pass. -/
def splitOnFrom [BEq α] (sep : List α) : Nat → List α → List (List α)
  | _, [] => [[]]
  | skip + 1, _ :: s => splitOnFrom sep skip s
  | 0, a :: s =>
    if (after? sep (a :: s)).isSome then [] :: splitOnFrom sep (sep.length - 1) s
    else match splitOnFrom sep 0 s with
      | [] => [[a]]
      | piece :: pieces => (a :: piece) :: pieces

def splitOn [BEq α] (sep : List α) (s : List α) : List (List α) := splitOnFrom sep 0 s

/-- The occurrences of `old`, found from the left, replaced by `new`. An empty `old` occurs before each
element and at the end. -/
def replaceAll [BEq α] (old new s : List α) : List α :=
  if old.isEmpty then s.foldr (fun a rest => new ++ a :: rest) new
  else List.intercalate new (splitOn old s)

def dropEndWhile (p : α → Bool) : List α → List α
  | [] => []
  | a :: s =>
    match dropEndWhile p s with
    | [] => if p a then [] else [a]
    | t => a :: t

def dropBothWhile (p : α → Bool) (s : List α) : List α := dropEndWhile p (s.dropWhile p)

def str (s : Text) : String := String.ofList s

def padNat (width n : Nat) : String :=
  let digits := toString n
  String.ofList (List.replicate (width - digits.length) '0') ++ digits

def padLeft (width : Nat) (s : String) : String :=
  String.ofList (List.replicate (width - s.length) ' ') ++ s

def padRight (width : Nat) (s : String) : String :=
  s ++ String.ofList (List.replicate (width - s.length) ' ')

end Text

end SourceTidy
