import SourceTidy.Selection
import SourceTidy.Session

/-!
# Sources

A source is a file that a walk through a source tree meets. The walk visits the names in a directory
in the order in which the directory is read, and passes the sources with wanted names to a visitor.
Names that the visitor adds to a directory may be visited too.
-/

namespace SourceTidy

structure Source where
  name : String
  path : String
  /-- The permission bits, where they became known when the source was met: those of a link are
  looked up then. -/
  knownMode : Option Nat := none
  deriving DecidableEq, Repr

namespace Source

def ofPath (path : String) : Source where
  name := Path.baseName path
  path := path

def mode (s : Source) : Session Nat := do
  match s.knownMode with
  | some m => return m
  | none =>
    match ← Session.query s.path (·.entry s.path) with
    | .file _ m | .dir m => return m
    | .link _ => throw (.path .notFound s.path)

def isExecutable (mode : Nat) : Bool := mode &&& executableBits != 0

/-- Whether a number, read as permission bits, makes a file executable. Higher bits do not matter.
-/
def hasExecutableBit (n : Int) : Bool := isExecutable (n % 0o1000).toNat

def shown (s : Source) : String := "<SimpleDirEntry " ++ Text.quote s.name ++ ">"

/-- Reads a source if it is wanted. One that cannot be decoded is not; the log says so. -/
def content (sel : Selection) (m : ReadMode) (s : Source) : Session (Option m.Data) := do
  let data ← Session.readFile s.path
  match m.decode data with
  | .error u =>
    Session.log .warning ("unable to read " ++ Text.quote s.path ++ ": " ++ u.message)
    return none
  | .ok data =>
    if ← Session.lift (sel.skippedData.foundIn m data) then
      Session.log .debug ("skipping " ++ Text.quote s.path)
      return none
    else return some data

end Source

inductive NameKind where
  | dir
  | file
  | link
  deriving DecidableEq, Repr

/-- What a directory tells of a name that it gives. -/
inductive Given where
  | known (kind : NameKind)
  /-- A name that counts if something has been put at the location since there was the given number of
  arrivals. -/
  | awaited (loc : Location) (count : Nat)
  deriving DecidableEq, Repr

namespace SourceWalk

def kindOf : Option Entry → NameKind
  | some (.dir _) => .dir
  | some (.link _) => .link
  | _ => .file

/-- What is given at a turn in the reading of a directory. -/
def givenAt (t : FileTree) (loc : Location) : Turn → String × Given
  | .there name => (name, .known (kindOf (t.get? (name :: loc))))
  | .late name => (name, .awaited (name :: loc) t.arrivals.length)

/-- The names that a directory gives. -/
def listing (path : String) : Session (List (String × Given)) :=
  Session.query path fun t => do
    let loc ← Path.locate t .follow path
    if !t.isDirAt loc then .error .notDirectory
    else .ok ((t.turnsAt loc).map (givenAt t loc))

/-- What stands under a name when its turn has come, if it counts. -/
def kindNow? (t : FileTree) : Given → Option NameKind
  | .known kind => some kind
  | .awaited loc count =>
    if t.arrivedSince count loc && (t.get? loc).isSome then some (kindOf (t.get? loc)) else none

/-- Whether a name is that of a directory, and the permission bits of what a link leads to. Of the
troubles with a link, only that it leads nowhere is passed over. -/
def look (path : String) : NameKind → Session (Bool × Option Nat)
  | .dir => return (true, none)
  | .file => return (false, none)
  | .link => do
    match (← get).tree.entry path with
    | .ok (.dir m) => return (true, some m)
    | .ok (.file _ m) => return (false, some m)
    | .ok (.link _) | .error .notFound => return (false, none)
    | .error problem => throw (.path problem path)

variable {σ : Type}

/-- A visitor of sources. It carries a state along and can end the walk. -/
abbrev Visitor (σ : Type) := Source → σ → Session (ForInStep σ)

def offer (sel : Selection) (visit : Visitor σ) (src : Source) (s : σ) : Session (ForInStep σ) := do
  if sel.wants src.name then visit src s
  else
    Session.log .debug ("skipping " ++ Text.quote src.path)
    return .yield s

/-- Visits what stands under a name of a directory, where `enter` visits a directory below it. -/
def visitName (sel : Selection) (visit : Visitor σ) (enter : String → σ → Session (ForInStep σ))
    (dir name : String) (kind : NameKind) (s : σ) : Session (ForInStep σ) := do
  let path := Path.join dir name
  if sel.skips name then
    Session.log .debug ("skipping " ++ Text.quote path)
    return .yield s
  else
    let (isDir, knownMode) ← look path kind
    if isDir then enter path s else offer sel visit { name, path, knownMode } s

/-- Visits the names that a directory gives. -/
def visitNames (sel : Selection) (visit : Visitor σ) (enter : String → σ → Session (ForInStep σ))
    (dir : String) : List (String × Given) → σ → Session (ForInStep σ)
  | [], s => return .yield s
  | (name, given) :: rest, s => do
    match kindNow? (← get).tree given with
    | none => visitNames sel visit enter dir rest s
    | some kind =>
      match ← visitName sel visit enter dir name kind s with
      | .done s => return .done s
      | .yield s => visitNames sel visit enter dir rest s

/-- Visits a path, with a number of directories left to enter below it. A file is visited alone. -/
def visitPath (sel : Selection) (visit : Visitor σ) : Nat → String → σ → Session (ForInStep σ)
  | 0, path, _ => throw (.path .nameTooLong path)
  | depth + 1, path, s => do
    if (← get).tree.isFile path then
      let src := Source.ofPath path
      if sel.skips src.name then
        Session.log .debug ("skipping " ++ Text.quote path)
        return .yield s
      else offer sel visit src s
    else
      Session.log .debug ("scanning " ++ Text.quote path)
      visitNames sel visit (visitPath sel visit depth) path (← listing path) s

/-- The path at which a walk starts. A number in its place is taken for a directory until that is
entered. -/
def start (path : Setting) : Session String := do
  match path.toPath with
  | .error (.fileNumber (.notOpen _)) =>
    Session.log .debug ("scanning " ++ path.shown)
    throw (.fileNumber (.notOpen none))
  | r => Session.lift r

/-- Visits the sources at and below a path. The limit for the length of paths is one for the number of
directories on the way too. -/
def fold (sel : Selection) (path : Setting) (init : σ) (visit : Visitor σ) : Session σ := do
  match ← visitPath sel visit (Path.pathLimit + 1) (← start path) init with
  | .done s | .yield s => return s

end SourceWalk

end SourceTidy
