import SourceTidy.Text.Utf8

/-!
# File trees

A file tree is a finite map from locations to files, directories and symbolic links. The operations
on it are described by what they do to `FileTree.get?`.
-/

namespace SourceTidy

/-- A place in a file tree: the names that lead to it from the root, the last one first. -/
abbrev Location := List String

/-- What stands at a location. The mode is that of the permission bits. -/
inductive Entry where
  | file (data : Bytes) (mode : Nat)
  | dir (mode : Nat)
  | link (target : String)
  deriving DecidableEq, Repr

def newDirMode : Nat := 0o755

def newFileMode : Nat := 0o644

def executableBits : Nat := 0o111

namespace Entry

def fullMode : Entry → Nat
  | file _ mode => 0o100000 + mode
  | dir mode => 0o40000 + mode
  | link _ => 0o120777

def size? : Entry → Option Nat
  | file data _ => some data.length
  | _ => none

end Entry

/-- The permission bits of a file after it was written: it no longer runs with the rights of its
owner, nor with those of its group if that may run it. -/
def writtenMode (mode : Nat) : Nat :=
  let mode := if mode &&& 0o4000 != 0 then mode - 0o4000 else mode
  if mode &&& 0o2010 == 0o2010 then mode - 0o2000 else mode

/-- A turn in the reading of a directory. -/
inductive Turn where
  /-- A name that was there when the reading began. -/
  | there (name : String)
  /-- A name that is given only if it has been put there since then. -/
  | late (name : String)
  deriving DecidableEq, Repr

def Turn.there? : Turn → Option String
  | there name => some name
  | late _ => none

/-- How directories are read, given their locations and the names in them. The order is free, and so is
which of the names that are put there during the reading are given, and when. -/
structure Lister where
  turns : Location → List String → List Turn
  /-- A name that is there at the beginning has its turn, once. -/
  perm : ∀ loc names, ((turns loc names).filterMap Turn.there?).Perm names

/-- Directories are read at once, in increasing order of names. -/
def Lister.sorted : Lister where
  turns _ names := names.map .there
  perm _ names := by simp [List.filterMap_map, Function.comp_def, Turn.there?]

/-- A file tree. The root is a directory that is always there. -/
structure FileTree where
  entries : List (Location × Entry) := []
  lister : Lister := .sorted
  /-- The places at which files were made or to which they were moved, the last one first. -/
  arrivals : List Location := []

namespace FileTree

def get? (t : FileTree) : Location → Option Entry
  | [] => some (.dir newDirMode)
  | loc => t.entries.lookup loc

def putEntry (loc : Location) (e : Entry) : List (Location × Entry) → List (Location × Entry)
  | [] => [(loc, e)]
  | (l, d) :: rest => if l == loc then (loc, e) :: rest else (l, d) :: putEntry loc e rest

def put (t : FileTree) (loc : Location) (e : Entry) : FileTree :=
  { t with entries := putEntry loc e t.entries }

def erase (t : FileTree) (loc : Location) : FileTree :=
  { t with entries := t.entries.filter fun p => p.1 != loc }

/-- Puts directories at a location and above it where there is nothing. -/
def makeDirs (t : FileTree) : Location → FileTree
  | [] => t
  | name :: parent =>
    let t := t.makeDirs parent
    match t.get? (name :: parent) with
    | some _ => t
    | none => t.put (name :: parent) (.dir newDirMode)

def eraseBelow (t : FileTree) (loc : Location) : FileTree :=
  { t with entries := t.entries.filter fun p => !loc.isSuffixOf p.1 }

def isDirAt (t : FileTree) (loc : Location) : Bool :=
  match t.get? loc with
  | some (.dir _) => true
  | _ => false

/-- Puts something at a location where a name is new. -/
def add (t : FileTree) (loc : Location) (e : Entry) : FileTree :=
  { t.put loc e with arrivals := loc :: t.arrivals }

/-- Whether a name has been put at a location since there was the given number of arrivals. -/
def arrivedSince (t : FileTree) (count : Nat) (loc : Location) : Bool :=
  (t.arrivals.take (t.arrivals.length - count)).contains loc

/-- The names in a directory, in increasing order. -/
def namesAt (t : FileTree) (loc : Location) : List String :=
  (t.entries.filterMap fun p =>
    match p.1 with
    | name :: parent => if parent == loc then some name else none
    | [] => none).mergeSort fun a b => decide (a ≤ b)

def turnsAt (t : FileTree) (loc : Location) : List Turn := t.lister.turns loc (t.namesAt loc)

end FileTree

end SourceTidy
