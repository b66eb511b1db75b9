import SourceTidy.Program
import Std.Time.Zoned

/-!
# The executable

The program is run on the files below the current directory, and those that it changed are written
back. Files are taken for not executable, and there is no formatting program.
-/

namespace SourceTidy.Executable

/-- Adds what stands in a directory to a file tree. Links are left out. -/
partial def load (loc : Location) (t : FileTree) (entries : Array IO.FS.DirEntry) :
    IO FileTree :=
  entries.foldlM (fun t e => do
    let here := e.fileName :: loc
    match (← e.path.symlinkMetadata).type with
    | .dir => load here (t.put here (.dir newDirMode)) (← e.path.readDir)
    | .file => return t.put here (.file (← IO.FS.readBinFile e.path).data.toList newFileMode)
    | _ => return t) t

def hasFile (t : FileTree) (loc : Location) : Bool :=
  match t.get? loc with
  | some (.file ..) => true
  | _ => false

def pathOf (loc : Location) : String := "/".intercalate loc.reverse

/-- Writes the files of a tree that another tree lacks or has with other content, and removes those
that it lost. -/
def store (before after : FileTree) : IO Unit := do
  for (loc, e) in before.entries do
    match e with
    | .file .. => if !hasFile after loc then IO.FS.removeFile (pathOf loc)
    | _ => pure ()
  for (loc, e) in after.entries do
    match e with
    | .file data _ =>
      if before.get? loc != some e then IO.FS.writeBinFile (pathOf loc) ⟨data.toArray⟩
    | _ => pure ()

def exitCode : Ending → UInt32
  | .answered b => if b then 1 else 0
  | .returned code | .exited code => code.toUInt32

end SourceTidy.Executable

open SourceTidy in
def main (line : List String) : IO UInt32 := do
  let tree ← Executable.load [] {} (← (← IO.currentDir).readDir)
  let year := (← Std.Time.PlainDate.now).year.toInt
  let o := Program.execute { line := [], systemLine := line } { tree, year }
  Executable.store tree o.world.tree
  IO.print o.output
  IO.eprint o.errors
  return Executable.exitCode o.ending
