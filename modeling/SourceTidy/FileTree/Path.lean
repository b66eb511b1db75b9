import SourceTidy.FileTree.Basic

/-!
# Paths

A path leads through a file tree by names between slashes, `.` for the directory reached and `..`
for the one above. At most forty symbolic links are followed on the way.
-/

namespace SourceTidy

inductive PathProblem where
  | notFound
  | notDirectory
  | isDirectory
  | tooManyLinks
  | nameTooLong
  | occupied
  /-- A path with a NUL, which no name can have. -/
  | nullInPath
  deriving DecidableEq, Repr

namespace PathProblem

/-- The number by which the system reports the problem. A path with a NUL does not get as far. -/
def code? : PathProblem → Option Nat
  | notFound => some 2
  | occupied => some 17
  | notDirectory => some 20
  | isDirectory => some 21
  | nameTooLong => some 36
  | tooManyLinks => some 40
  | nullInPath => none

def description : PathProblem → String
  | notFound => "No such file or directory"
  | notDirectory => "Not a directory"
  | isDirectory => "Is a directory"
  | nameTooLong => "File name too long"
  | tooManyLinks => "Too many levels of symbolic links"
  | occupied => "File exists"
  | nullInPath => "embedded null byte"

end PathProblem

namespace Path

def baseName (path : String) : String :=
  String.ofList (path.toList.reverse.takeWhile (· != '/')).reverse

def join (dir name : String) : String :=
  if dir.isEmpty || dir.toList.getLast? == some '/' then dir ++ name else dir ++ "/" ++ name

def isAbsolute (path : String) : Bool := path.toList.head? == some '/'

/-- The steps of a path. A slash at the end makes a last step with an empty name, which like `.`
stays where it is. -/
def steps (path : String) : List String :=
  let parts := Text.splitAt '/' path.toList
  let names := (parts.filter (!·.isEmpty)).map String.ofList
  if path.toList.getLast? == some '/' then names ++ [""] else names

inductive LastStep where
  | follow
  /-- Stop at a link. -/
  | keep
  /-- Follow a link, and accept that nothing stands there yet. -/
  | create
  deriving DecidableEq, Repr

def linkLimit : Nat := 40

def nameLimit : Nat := 255

def pathLimit : Nat := 4096

/-- Goes on from a location by the given steps, with a number of links left to follow. -/
def walk (t : FileTree) (last : LastStep) (links : Nat) (loc : Location) :
    List String → Except PathProblem Location
  | [] => .ok loc
  | name :: rest =>
    if !t.isDirAt loc then .error .notDirectory
    else if name == "" || name == "." then walk t last links loc rest
    else if name == ".." then walk t last links loc.tail rest
    else if nameLimit < name.utf8ByteSize then .error .nameTooLong
    else if last == .create && rest == [""] then .error .isDirectory
    else match t.get? (name :: loc) with
      | none =>
        if last == .create && rest.isEmpty then .ok (name :: loc) else .error .notFound
      | some (.link target) =>
        if last == .keep && rest.isEmpty then .ok (name :: loc)
        else match links with
          | 0 => .error .tooManyLinks
          | links + 1 =>
            if isAbsolute target then .error .notFound
            else walk t last links loc (steps target ++ rest)
      | some _ => walk t last links (name :: loc) rest
termination_by names => (links, names.length)

def locate (t : FileTree) (last : LastStep) (path : String) : Except PathProblem Location :=
  if path.toList.contains '\x00' then .error .nullInPath
  else if path.isEmpty || isAbsolute path then .error .notFound
  else if pathLimit ≤ path.utf8ByteSize then .error .nameTooLong
  else walk t last linkLimit [] (steps path)

end Path

namespace FileTree

def entry (t : FileTree) (path : String) : Except PathProblem Entry := do
  let loc ← Path.locate t .follow path
  match t.get? loc with
  | some e => .ok e
  | none => .error .notFound

def isDir (t : FileTree) (path : String) : Bool :=
  match t.entry path with
  | .ok (.dir _) => true
  | _ => false

def isFile (t : FileTree) (path : String) : Bool :=
  match t.entry path with
  | .ok (.file ..) => true
  | _ => false

def pathExists (t : FileTree) (path : String) : Bool :=
  match t.entry path with
  | .ok _ => true
  | .error _ => false

def linkTarget? (t : FileTree) (path : String) : Option String :=
  match Path.locate t .keep path with
  | .ok loc =>
    match t.get? loc with
    | some (.link target) => some target
    | _ => none
  | .error _ => none

def read (t : FileTree) (path : String) : Except PathProblem Bytes := do
  match ← t.entry path with
  | .file data _ => .ok data
  | _ => .error .isDirectory

def names (t : FileTree) (path : String) : Except PathProblem (List String) := do
  let loc ← Path.locate t .follow path
  if t.isDirAt loc then .ok (t.namesAt loc) else .error .notDirectory

/-- Writes a file. A file that is there keeps its usual permission bits, and a new one gets the mode
of new files. -/
def write (t : FileTree) (path : String) (data : Bytes) : Except PathProblem FileTree := do
  let loc ← Path.locate t .create path
  match t.get? loc with
  | some (.dir _) => .error .isDirectory
  | some (.file _ mode) => .ok (t.put loc (.file data (writtenMode mode)))
  | _ => .ok (t.add loc (.file data newFileMode))

def setMode (t : FileTree) (path : String) (mode : Nat) : Except PathProblem FileTree := do
  let loc ← Path.locate t .follow path
  match t.get? loc with
  | some (.file data _) => .ok (t.put loc (.file data mode))
  | some (.dir _) => .ok (t.put loc (.dir mode))
  | _ => .error .notFound

/-- Where a path would put a new name: the directory and the name, if the path ends with one. -/
def newName? (t : FileTree) (path : String) : Option Location :=
  match (Path.steps path).reverse with
  | [] => none
  | name :: dir =>
    if name == "" || name == "." || name == ".." || Path.nameLimit < name.utf8ByteSize ||
        Path.isAbsolute path || Path.pathLimit ≤ path.utf8ByteSize then none
    else match Path.walk t .follow Path.linkLimit [] dir.reverse with
      | .ok loc => if t.isDirAt loc then some (name :: loc) else none
      | .error _ => none

def linkProblem (t : FileTree) (path : String) : PathProblem :=
  if path.isEmpty || Path.isAbsolute path then .notFound
  else if Path.pathLimit ≤ path.utf8ByteSize then .nameTooLong
  else match ((Path.steps path).filter (!·.isEmpty)).reverse with
    | [] => .occupied
    | name :: dir =>
      match Path.walk t .follow Path.linkLimit [] dir.reverse with
      | .error problem => problem
      | .ok loc =>
        if !t.isDirAt loc then .notDirectory
        else if name == "." || name == ".." then .occupied
        else if Path.nameLimit < name.utf8ByteSize then .nameTooLong
        else if (t.get? (name :: loc)).isSome then .occupied
        else .notFound

/-- Gives a file or link a new path, over a file or link that is there, if it is a path for a file. -/
def rename? (t : FileTree) (source target : String) : Option FileTree := do
  let loc ← (Path.locate t .keep source).toOption
  let moved ← t.get? loc
  let new ← t.newName? target
  if t.isDirAt new then none
  else if new == loc then some t
  else some ((t.erase loc).add new moved)

end FileTree

end SourceTidy
