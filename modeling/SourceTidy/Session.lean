import SourceTidy.Fault
import SourceTidy.Log

/-!
# Sessions

Operations run in a session: they read and change a file tree, call formatters and write a log. What
was done before a fault stays done.
-/

namespace SourceTidy

structure World where
  tree : FileTree := {}
  formatters : String → Option Formatter := fun _ => none
  /-- Log records below this weight are not kept. -/
  threshold : Nat := 0
  /-- Whether the level for reports on single lines is registered. -/
  verboseNamed : Bool := true
  year : Int
  log : List LogRecord := []
  calls : List FormatterCall := []

/-- An operation: its result or a fault, and the world it leaves. -/
abbrev Session := ExceptT Fault (StateM World)

namespace Session

def run {α : Type} (s : Session α) (w : World) : Except Fault α × World := ExceptT.run s w

def lift {α : Type} (r : Except Fault α) : Session α :=
  match r with
  | .ok a => pure a
  | .error f => throw f

/-- Runs an operation and gives its outcome. What it did stays done. -/
def attempt {α : Type} (s : Session α) : Session (Except Fault α) := fun w =>
  let (r, w) := s.run w
  (.ok r, w)

def log (level : Level) (message : String) : Session Unit :=
  modify fun w =>
    if w.threshold ≤ level.number then { w with log := w.log ++ [⟨level, message⟩] } else w

def report (message : String) : Session Unit := do
  if (← get).verboseNamed then log .verbose message else throw (.kind .noLevel)

def query {α : Type} (path : String) (f : FileTree → Except PathProblem α) : Session α := do
  match f (← get).tree with
  | .ok a => return a
  | .error problem => throw (.path problem path)

def change (path : String) (f : FileTree → Except PathProblem FileTree) : Session Unit := do
  let tree ← query path f
  modify fun w => { w with tree }

def readFile (path : String) : Session Bytes := query path (·.read path)

def writeFile (path : String) (data : Bytes) : Session Unit := change path (·.write path data)

def call (command : List String) (input : Option Bytes) : Session Formatter := do
  modify fun w => { w with calls := w.calls ++ [⟨command, input⟩] }
  let name := command.headD ""
  match (← get).formatters name with
  | some f => return f
  | none => throw (.path .notFound name)

def reply (r : FormatterReply) : Session (Int × Bytes) :=
  match r with
  | .done code output => return (code, output)
  | .interrupted => throw .interrupted

/-- The path that a file moved to a path gets. One moved to a directory goes into it, where nothing may
have its name. -/
def moveTarget (source target : String) : Session String := do
  let tree := (← get).tree
  if tree.isDir target then
    let inside := Path.join target (Path.baseName source)
    if tree.pathExists inside then throw (.destinationExists inside) else return inside
  else return target

def moveFault (tree : FileTree) (source target : String) : Fault :=
  match tree.linkTarget? source with
  | some link => .linking (tree.linkProblem target) link target
  | none =>
    match tree.write target [] with
    | .error .isDirectory =>
      if tree.pathExists target then .path .isDirectory target else .noDirectory target
    | .error problem => .path problem target
    | .ok _ => .path .notFound target

def moveFile (source target : String) : Session Unit := do
  let target ← moveTarget source target
  if target.toList.contains '\x00' then throw (.path .nullInPath target)
  else
    let tree := (← get).tree
    match tree.rename? source target with
    | some tree => modify fun w => { w with tree }
    | none => throw (moveFault tree source target)

end Session

end SourceTidy
