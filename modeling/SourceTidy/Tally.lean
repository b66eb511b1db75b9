/-!
# Tallies

How often each of several things was found, in the order in which they were found first.
-/

namespace SourceTidy

abbrev Tally := List (String × Nat)

namespace Tally

def count (t : Tally) (key : String) : Nat := (t.lookup key).getD 0

def add (key : String) (n : Nat) : Tally → Tally
  | [] => [(key, n)]
  | (k, m) :: t => if k == key then (k, m + n) :: t else (k, m) :: add key n t

def addAll (t : Tally) (keys : List String) : Tally := keys.foldl (fun t k => add k 1 t) t

def merge (t u : Tally) : Tally := u.foldl (fun t p => add p.1 p.2 t) t

end Tally

end SourceTidy
