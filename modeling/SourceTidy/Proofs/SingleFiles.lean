import SourceTidy.Proofs.MovedFiles
import SourceTidy.Proofs.ReachedFiles
import SourceTidy.Proofs.Rewriters
import SourceTidy.Proofs.TemplatedScans

/-!
# Calls for a single file

A fixer or an updater that is called for a single file always fails, because it reads the file as
bytes. This file says when the path still leads to the file as it was.
-/

namespace SourceTidy

open Session SourceTidy.Path FileTree

namespace FileTree

/-- The path that a file gets which is moved to a path. In a directory it keeps its name, which nothing
may have there. -/
def moveTarget? (t : FileTree) (source target : String) : Option String :=
  if t.isDir target then
    if t.pathExists (join target (baseName source)) then none
    else some (join target (baseName source))
  else some target

/-- The location that a file gets which is moved to a path, if it can be moved there. -/
def movedTo? (t : FileTree) (source target : String) : Option Location := do
  let target ← t.moveTarget? source target
  if target.toList.contains '\x00' then none
  else do
    let new ← t.newName? target
    if t.isDirAt new then none else some new

def moved (t : FileTree) (loc new : Location) (e : Entry) : FileTree :=
  if new = loc then t else (t.erase loc).add new e

variable {t : FileTree} {path source target : String} {loc new : Location} {e : Entry}

lemma newName?_ne_nil (h : t.newName? path = some new) : new ≠ [] := by
  unfold newName? at h
  split at h
  · cases h
  · split_ifs at h
    split at h
    · split_ifs at h
      cases h
      exact List.cons_ne_nil _ _
    · cases h

lemma movedTo?_eq_some (h : t.movedTo? source target = some new) : new ≠ [] ∧ t.isDirAt new = false := by
  unfold movedTo? at h
  obtain ⟨target', -, h⟩ := Option.bind_eq_some_iff.mp h
  split_ifs at h
  obtain ⟨new', hnew, h⟩ := Option.bind_eq_some_iff.mp h
  split_ifs at h with hdir
  cases h
  exact ⟨newName?_ne_nil hnew, by simpa using hdir⟩

lemma get?_moved (hloc : loc ≠ []) (hnew : new ≠ []) (hne : new ≠ loc) (l : Location) :
    (t.moved loc new e).get? l = if l = new then some e else if l = loc then none else t.get? l := by
  rw [moved, if_neg hne, get?_add _ hnew, get?_erase _ hloc]

end FileTree

namespace Session

variable {w : World} {path : String} {loc new : Location} {e : Entry} {backup : Setting}

lemma run_moveTarget (w : World) (source target : String) :
    (moveTarget source target).run w = ((w.tree.moveTarget? source target).elim
      (.error (.destinationExists (join target (baseName source)))) .ok, w) := by
  rw [moveTarget, run_bind_ok (run_get w), moveTarget?]
  dsimp only
  split_ifs <;> rfl

lemma rename?_eq (hloc : locate w.tree .keep path = .ok loc) (he : w.tree.get? loc = some e)
    (target : String) : w.tree.rename? path target = (w.tree.newName? target).bind fun new =>
      if w.tree.isDirAt new then none else some (w.tree.moved loc new e) := by
  unfold rename? moved
  rw [hloc]
  change (w.tree.get? loc >>= fun moved => _) = _
  rw [he]
  cases w.tree.newName? target with
  | none => rfl
  | some new =>
    simp only [Option.bind_eq_bind, Option.bind_some, beq_iff_eq]
    split_ifs <;> rfl

lemma run_moveFile_cases (hloc : locate w.tree .keep path = .ok loc)
    (he : w.tree.get? loc = some e) (target : String) :
    (w.tree.movedTo? path target = none ∧ ∃ g, (moveFile path target).run w = (.error g, w)) ∨
      ∃ new, w.tree.movedTo? path target = some new ∧
        (moveFile path target).run w = (.ok (), { w with tree := w.tree.moved loc new e }) := by
  unfold movedTo? moveFile
  rw [run_bind, run_moveTarget]
  cases w.tree.moveTarget? path target with
  | none => exact .inl ⟨rfl, _, rfl⟩
  | some target =>
    simp only [Option.elim_some, Option.bind_eq_bind, Option.bind_some]
    split
    · exact .inl ⟨rfl, _, rfl⟩
    rw [run_bind_ok (run_get w), rename?_eq hloc he]
    cases w.tree.newName? target with
    | none => exact .inl ⟨rfl, _, rfl⟩
    | some new =>
      simp only [Option.bind_some]
      split
      · exact .inl ⟨rfl, _, rfl⟩
      · exact .inr ⟨new, rfl, rfl⟩

lemma run_writeFile_cases (w : World) (path : String) (data : Bytes) :
    (∃ t, w.tree.write path data = .ok t ∧ (writeFile path data).run w = (.ok (), { w with tree := t })) ∨
      ∃ p g, w.tree.write path data = .error p ∧ (writeFile path data).run w = (.error g, w) := by
  cases hwrite : w.tree.write path data with
  | ok t => exact .inl ⟨t, rfl, run_change_ok hwrite⟩
  | error p =>
    have hquery : (query path (·.write path data)).run w = (.error (.path p path), w) := by
      rw [run_query, hwrite]
      rfl
    exact .inr ⟨p, _, rfl, run_bind_error hquery _⟩

/-- The file at a path, if it is to be kept, is moved to a location. -/
def MovesTo (t : FileTree) (backup : Setting) (path : String) (new : Location) : Prop :=
  ∃ ext, backup = .text ext ∧ ext ≠ "" ∧ t.movedTo? path (path ++ ext) = some new

lemma MovesTo.place {t : FileTree} (h : MovesTo t backup path new) : new ≠ [] ∧ t.isDirAt new = false := by
  obtain ⟨ext, -, -, hto⟩ := h
  exact movedTo?_eq_some hto

lemma MovesTo.unique {t : FileTree} {new' : Location} (h : MovesTo t backup path new)
    (h' : MovesTo t backup path new') : new' = new := by
  obtain ⟨ext, rfl, -, hto⟩ := h
  obtain ⟨ext', hext, -, hto'⟩ := h'
  cases hext
  exact Option.some.inj (hto'.symm.trans hto)

lemma movesTo_of_fits {t : FileTree} {name ext : String} {dir : Location} (hp : t.Plain)
    (h : LeadsTo t path name dir) (he : t.get? (name :: dir) = some e) (hext : '/' ∉ ext.toList)
    (hne : ext ≠ "") (hnot : t.isDirAt ((name ++ ext) :: dir) = false)
    (hfits : Fits ext path (name :: dir)) : MovesTo t (.text ext) path ((name ++ ext) :: dir) := by
  have hname := hp.isName he
  have hnull := (h.append hext hfits).noNull
  have hnew := (h.newName?_append hname (hp.inDir he) hext).mpr ⟨rfl, hfits.isName.short, hfits.short⟩
  refine ⟨ext, rfl, hne, ?_⟩
  rw [movedTo?, moveTarget?, h.isDir_append hp hname hext hnot]
  simp only [Bool.false_eq_true, if_false, Option.bind_eq_bind, Option.bind_some, hnew, hnot]
  rw [if_neg (by simpa using hnull)]

/-- The file at a path is to be kept, and cannot be moved. -/
def KeepFails (t : FileTree) (backup : Setting) (path : String) : Prop :=
  backup.isOn = true ∧ ∀ new, ¬MovesTo t backup path new

lemma MovesTo.isOn {t : FileTree} (h : MovesTo t backup path new) : backup.isOn = true := by
  obtain ⟨ext, rfl, hne, -⟩ := h
  simp [Setting.isOn, Scalar.isOn, hne]

lemma run_keepOld_ways (hloc : locate w.tree .keep path = .ok loc) (he : w.tree.get? loc = some e)
    (backup : Setting) :
    (backup.isOn = false ∧ (keepOld backup path).run w = (.ok (), w)) ∨
    (KeepFails w.tree backup path ∧ ∃ g, (keepOld backup path).run w = (.error g, w)) ∨
    ∃ new, MovesTo w.tree backup path new ∧
      (keepOld backup path).run w = (.ok (), { w with tree := w.tree.moved loc new e }) := by
  cases hon : backup.isOn with
  | false => exact .inl ⟨rfl, Fixer.run_keepOld hon path⟩
  | true =>
    refine .inr ?_
    by_cases htext : ∃ ext, backup = .text ext
    · obtain ⟨ext, rfl⟩ := htext
      have hne : ext ≠ "" := by
        rintro rfl
        cases hon
      have hkeep : keepOld (.text ext) path = moveFile path (path ++ ext) := by
        unfold keepOld
        rw [if_pos hon]
      rw [hkeep]
      rcases run_moveFile_cases hloc he (path ++ ext) with ⟨hnone, herror⟩ | ⟨new, hnew, hrun⟩
      · refine .inl ⟨⟨hon, ?_⟩, herror⟩
        rintro new ⟨ext', hext, -, hto⟩
        cases hext
        cases hnone.symm.trans hto
      · exact .inr ⟨new, ⟨ext, rfl, hne, hnew⟩, hrun⟩
    · refine .inl ⟨⟨hon, fun new ⟨ext, hext, _⟩ => htext ⟨ext, hext⟩⟩, ?_⟩
      unfold keepOld
      rw [if_pos hon]
      cases backup with
      | scalar v =>
        cases v with
        | text ext => exact absurd ⟨ext, rfl⟩ htext
        | _ => exact ⟨_, rfl⟩
      | list members => exact ⟨_, rfl⟩
      | record fields => exact ⟨_, rfl⟩

end Session

open Session (MovesTo KeepFails)

variable {w : World} {path : String} {loc : Location} {data : Bytes} {mode : Nat}

section

variable (hloc : locate w.tree .keep path = .ok loc)
  (hfile : w.tree.get? loc = some (.file data mode))

include hloc hfile

lemma FileTree.entry_of_keep : w.tree.entry path = .ok (.file data mode) :=
  entry_of_locate (locate_of_keep hloc hfile .follow) hfile

lemma FileTree.write_of_keep (bytes : Bytes) :
    w.tree.write path bytes = .ok (w.tree.put loc (.file bytes (writtenMode mode))) := by
  have hdir : w.tree.isDirAt loc = false := eq_false_of_ne_true (not_isDirAt_of_file hfile)
  rw [write_of_locate (locate_of_keep hloc hfile .create) hdir, putFile, hfile]
  rfl

lemma Session.run_readFile_of_keep : (readFile path).run w = (.ok data, w) := by
  rw [readFile, run_query, read_of_locate (locate_of_keep hloc hfile .follow) hfile]
  rfl

/-- A call that keeps the old file and always fails afterwards. It fails before anything is done, or
goes on with the file in its place, or with the file moved away. -/
lemma Session.run_keepOld_then {rest : Session Unit} (backup : Setting)
    (hrest : ∀ v, ∃ g v', rest.run v = (.error g, v')) :
    ∃ g w', (keepOld backup path >>= fun _ => rest).run w = (.error g, w') ∧
      ((KeepFails w.tree backup path ∧ w' = w) ∨
        (¬KeepFails w.tree backup path ∧ (∀ new, MovesTo w.tree backup path new → new = loc) ∧
          rest.run w = (.error g, w')) ∨
        ∃ new, MovesTo w.tree backup path new ∧ new ≠ loc ∧
          rest.run { w with tree := w.tree.moved loc new (.file data mode) } = (.error g, w')) := by
  rcases run_keepOld_ways hloc hfile backup with
    ⟨hoff, hrun⟩ | ⟨hfails, g, hrun⟩ | ⟨new, hto, hrun⟩
  · obtain ⟨g, v, hv⟩ := hrest w
    refine ⟨g, v, (run_bind_ok hrun _).trans hv, .inr (.inl ⟨?_, ?_, hv⟩)⟩
    · rintro ⟨hon, -⟩
      cases hoff.symm.trans hon
    · intro new hto
      cases hoff.symm.trans hto.isOn
  · exact ⟨g, w, run_bind_error hrun _, .inl ⟨hfails, rfl⟩⟩
  · obtain ⟨g, v, hv⟩ := hrest { w with tree := w.tree.moved loc new (.file data mode) }
    refine ⟨g, v, (run_bind_ok hrun _).trans hv, .inr ?_⟩
    by_cases hne : new = loc
    · rw [moved, if_pos hne] at hv
      exact .inl ⟨fun hfails => hfails.2 new hto, fun new' hto' => (hto.unique hto').trans hne, hv⟩
    · exact .inr ⟨new, hto, hne, hv⟩

/-- The path leads to the same place as before when its file has been moved away, and when another file
has been written in its place. -/
lemma FileTree.get?_of_entry_moved {new : Location} {t' : FileTree} {e : Entry}
    (hdir : w.tree.isDirAt new = false) (hnew : t'.get? new = some (.file data mode))
    (hplace : ∀ e, t'.get? loc = some e → ∃ data mode, e = .file data mode)
    (hsame : ∀ l, l ≠ loc → l ≠ new → t'.get? l = w.tree.get? l) (h : t'.entry path = .ok e) :
    t'.get? loc = some e := by
  unfold entry at h
  cases hr : locate t' .follow path with
  | error p =>
    rw [hr] at h
    cases h
  | ok r =>
    rw [hr, ok_bind, eq_of_locate_moved hloc hfile hplace hdir hnew hsame hr] at h
    cases hget : t'.get? loc with
    | none =>
      rw [hget] at h
      cases h
    | some e' =>
      rw [hget] at h
      cases h
      rfl

section

variable {new : Location} (hto : new ≠ [] ∧ w.tree.isDirAt new = false) (hne : new ≠ loc)

include hto hne

lemma FileTree.entry_moved (e : Entry) : (w.tree.moved loc new (.file data mode)).entry path ≠ .ok e := by
  intro h
  have hget := get?_moved (t := w.tree) (e := .file data mode) (ne_nil_of_file hfile) hto.1 hne
  have hgone : (w.tree.moved loc new (.file data mode)).get? loc = none := by
    rw [hget, if_neg hne.symm, if_pos rfl]
  have hat := get?_of_entry_moved hloc hfile hto.2 ((hget new).trans (if_pos rfl))
    (fun e he => by cases hgone.symm.trans he) (fun l hl hl' => by rw [hget, if_neg hl', if_neg hl]) h
  cases hgone.symm.trans hat

lemma FileTree.entry_write_moved {t' : FileTree} {data' : Bytes}
    (h : (w.tree.moved loc new (.file data mode)).write path data' = .ok t') :
    t'.get? new = some (.file data mode) ∧ ∀ e, t'.entry path = .ok e → e = .file data' newFileMode := by
  have hnil : loc ≠ [] := ne_nil_of_file hfile
  have hget := get?_moved (t := w.tree) (e := .file data mode) hnil hto.1 hne
  have hgone : (w.tree.moved loc new (.file data mode)).get? loc = none := by
    rw [hget, if_neg hne.symm, if_pos rfl]
  obtain rfl : t' = (w.tree.moved loc new (.file data mode)).add loc (.file data' newFileMode) := by
    unfold write at h
    cases hr : locate (w.tree.moved loc new (.file data mode)) .create path with
    | error p =>
      rw [hr] at h
      cases h
    | ok r =>
      have hat : r = loc := eq_of_locate_moved hloc hfile (fun e he => by cases hgone.symm.trans he)
        hto.2 ((hget new).trans (if_pos rfl))
        (fun l hl hl' => by rw [hget, if_neg hl', if_neg hl]) hr
      rw [hr, ok_bind, hat, hgone] at h
      cases h
      rfl
  have hself : ((w.tree.moved loc new (.file data mode)).add loc (.file data' newFileMode)).get? loc =
      some (.file data' newFileMode) := by rw [get?_add _ hnil, if_pos rfl]
  have hnew : ((w.tree.moved loc new (.file data mode)).add loc (.file data' newFileMode)).get? new =
      some (.file data mode) := by
    rw [get?_add _ hnil, if_neg hne, hget, if_pos rfl]
  refine ⟨hnew, fun e he => ?_⟩
  have hat := get?_of_entry_moved hloc hfile hto.2 hnew
    (fun e he => ⟨data', newFileMode, by
      exact Option.some.inj (he.symm.trans hself)⟩)
    (fun l hl hl' => by rw [get?_add _ hnil, if_neg hl, hget, if_neg hl', if_neg hl]) he
  exact Option.some.inj (hat.symm.trans hself)

end

/-- A fixer that is called for a file fails. The file is where it was, or has been moved away. -/
lemma Fixer.run_fixFile (f : Fixer) : ∃ g w', (f.fixFile (.text path) .none).run w = (.error g, w') ∧
    (w'.tree = w.tree ∧
        (∀ fixes new, f.lineFixes = .ok fixes → MovesTo w.tree f.backup path new → new = loc) ∨
      ∃ fixes new, f.lineFixes = .ok fixes ∧ MovesTo w.tree f.backup path new ∧ new ≠ loc ∧
        w'.tree = w.tree.moved loc new (.file data mode)) := by
  unfold fixFile
  cases hfixes : f.lineFixes with
  | error g =>
    exact ⟨g, w, run_bind_error (run_lift _ w) _, .inl ⟨rfl, fun fixes new h => (by cases h)⟩⟩
  | ok fixes =>
    let k : KindFault := if f.finalEol.isOn then .textToBytes else .linesOfBytes
    let rest : Session Unit := log .debug ("fixing " ++ (Setting.text path).shown) >>= fun _ =>
      throw (.kind k)
    have hrest : ∀ v, rest.run v =
        (.error (.kind k), v.logged .debug ("fixing " ++ (Setting.text path).shown)) :=
      fun v => rfl
    have hpath : (lift (Setting.text path).toFile).run w = (.ok path, w) := run_lift _ w
    obtain ⟨g, w', hrun, hcase⟩ := run_keepOld_then hloc hfile f.backup (fun v => ⟨_, _, hrest v⟩)
    rw [run_bind_ok (run_lift _ w), run_bind_ok hpath,
      run_bind_ok (run_readFile_of_keep hloc hfile)]
    refine ⟨g, w', hrun, ?_⟩
    rcases hcase with ⟨hfails, rfl⟩ | ⟨-, hstay, hw'⟩ | ⟨new, hto, hne, hw'⟩
    · exact .inl ⟨rfl, fun _ new _ hto => absurd hto (hfails.2 new)⟩
    · cases (hrest w).symm.trans hw'
      exact .inl ⟨World.logged_tree _ _ _, fun _ new _ => hstay new⟩
    · cases (hrest _).symm.trans hw'
      exact .inr ⟨fixes, new, rfl, hto, hne, World.logged_tree _ _ _⟩

/-- What an updater does with a file after it has kept the old one. It looks for a notice in the bytes, if
there is one to look for, and empties the file otherwise. -/
def Updater.failOn (u : Updater) (path : String) : Session Unit := do
  log .debug ("updating " ++ (Setting.text path).shown)
  if u.update.isOn || u.template.isSome then throw (.kind .textPatternOnBytes)
  else do
    writeFile path []
    throw (.kind .bytesToTextFile)

omit hloc hfile in
lemma Updater.run_failOn (u : Updater) (path : String) (v : World) :
    ∃ g v', (u.failOn path).run v = (.error g, v') ∧
      ((v'.tree = v.tree ∧
          ((u.update.isOn || u.template.isSome) = true ∨ ∃ p, v.tree.write path [] = .error p)) ∨
        (u.update.isOn || u.template.isSome) = false ∧ v.tree.write path [] = .ok v'.tree) := by
  unfold failOn
  rw [run_bind_ok (run_log _ _ _)]
  have htree := World.logged_tree v .debug ("updating " ++ (Setting.text path).shown)
  split_ifs with harmed
  · exact ⟨_, _, rfl, .inl ⟨htree, .inl harmed⟩⟩
  · have hbare := eq_false_of_ne_true harmed
    rcases run_writeFile_cases (v.logged .debug ("updating " ++ (Setting.text path).shown))
      path [] with ⟨t, hwrite, hok⟩ | ⟨p, g, hwrite, herror⟩
    · rw [htree] at hwrite
      exact ⟨_, _, run_bind_ok hok _, .inr ⟨hbare, hwrite⟩⟩
    · rw [htree] at hwrite
      exact ⟨_, _, run_bind_error herror _, .inl ⟨htree, .inr ⟨p, hwrite⟩⟩⟩

lemma Updater.run_updateFile_eq (u : Updater) : (u.updateFile (.text path) .none).run w =
    (keepOld u.backup path >>= fun _ => u.failOn path).run w := by
  have hpath : (lift (Setting.text path).toFile).run w = (.ok path, w) := run_lift _ w
  have hread := run_readFile_of_keep hloc hfile
  unfold updateFile failOn
  rw [run_bind_ok hpath, run_bind_ok hread]
  cases u.update.isOn || u.template.isSome <;> rfl

/-- An updater whose template has been read fails when it is called for a file. The file is where it was,
or it has been emptied there, or it has been moved away. -/
lemma Updater.run_updateFile (u : Updater) :
    ∃ g w', (u.updateFile (.text path) .none).run w = (.error g, w') ∧
    ((w'.tree = w.tree ∧ (∀ new, MovesTo w.tree u.backup path new → new = loc) ∧
        ((u.update.isOn || u.template.isSome) = true ∨ KeepFails w.tree u.backup path)) ∨
      (w'.tree = w.tree.put loc (.file [] (writtenMode mode)) ∧
        (u.update.isOn || u.template.isSome) = false ∧ ¬KeepFails w.tree u.backup path) ∨
      ∃ new, MovesTo w.tree u.backup path new ∧ new ≠ loc ∧
        (w'.tree = w.tree.moved loc new (.file data mode) ∨
          (w.tree.moved loc new (.file data mode)).write path [] = .ok w'.tree)) := by
  obtain ⟨g, w', hrun, hcase⟩ := run_keepOld_then hloc hfile u.backup
    (fun v => (u.run_failOn path v).imp fun g => Exists.imp fun v' => And.left)
  rw [run_updateFile_eq hloc hfile]
  refine ⟨g, w', hrun, ?_⟩
  rcases hcase with ⟨hfails, rfl⟩ | ⟨hkeep, hstay, hw'⟩ | ⟨new, hto, hne, hw'⟩
  · exact .inl ⟨rfl, fun new hto => absurd hto (hfails.2 new), .inr hfails⟩
  · obtain ⟨g', v', hv', hcase⟩ := u.run_failOn path w
    cases hv'.symm.trans hw'
    have hwrite := write_of_keep hloc hfile []
    rcases hcase with ⟨htree, harmed | ⟨p, hp⟩⟩ | ⟨hbare, hok⟩
    · exact .inl ⟨htree, hstay, .inl harmed⟩
    · cases hwrite.symm.trans hp
    · exact .inr (.inl ⟨Except.ok.inj (hok.symm.trans hwrite), hbare, hkeep⟩)
  · obtain ⟨g', v', hv', hcase⟩ := u.run_failOn path { w with tree := w.tree.moved loc new (.file data mode) }
    cases hv'.symm.trans hw'
    refine .inr (.inr ⟨new, hto, hne, ?_⟩)
    rcases hcase with ⟨htree, -⟩ | ⟨-, hok⟩
    · exact .inl htree
    · exact .inr hok

end

lemma Updater.run_updateOne_cases (u : Updater) (path : String) (w : World) :
    (∃ g, u.preparedIn w.tree = .error g ∧ (u.updateOne (.text path) .none).run w = (.ok (.error g, u), w)) ∨
      ∃ u', u.preparedIn w.tree = .ok u' ∧ ∀ r w', (u'.updateFile (.text path) .none).run w = (r, w') →
        (u.updateOne (.text path) .none).run w = (.ok (r, u'), w') := by
  have hprepare : (attempt u.prepare).run w = (.ok (u.preparedIn w.tree), w) := by
    rw [run_attempt, run_prepare]
  rw [updateOne, afterPreparing, run_bind_ok hprepare]
  cases u.preparedIn w.tree with
  | error g => exact .inl ⟨g, rfl, rfl⟩
  | ok u' =>
    refine .inr ⟨u', rfl, fun r w' hrun => ?_⟩
    dsimp only
    rw [run_bind_ok (run_attempt _ _), hrun]
    rfl

/-- A fixer does nothing to the file at a path: it does not know its fixes, or it does not move the file
away. -/
def Fixer.Spares (f : Fixer) (t : FileTree) (path : String) (loc : Location) : Prop :=
  ∀ fixes new, f.lineFixes = .ok fixes → MovesTo t f.backup path new → new = loc

/-- An updater does nothing to the file at a path: its template cannot be read, or it does not move the
file away, and has a notice to look for or fails before it opens the file. -/
def Updater.Spares (u : Updater) (t : FileTree) (path : String) (loc : Location) : Prop :=
  ∀ u', u.preparedIn t = .ok u' → (∀ new, MovesTo t u'.backup path new → new = loc) ∧
    ((u'.update.isOn || u'.template.isSome) = true ∨ KeepFails t u'.backup path)

section

variable (hloc : locate w.tree .keep path = .ok loc)
  (hfile : w.tree.get? loc = some (.file data mode))

include hloc hfile

lemma Fixer.fixFile_kept_iff (f : Fixer) :
    ∃ g w', (f.fixFile (.text path) .none).run w = (.error g, w') ∧
    (w'.tree.entry path = .ok (.file data mode) ↔ f.Spares w.tree path loc) ∧
    (f.Spares w.tree path loc ∨
      ∃ new, MovesTo w.tree f.backup path new ∧ w'.tree.get? new = some (.file data mode)) := by
  obtain ⟨g, w', hrun, ⟨htree, hspares⟩ | ⟨fixes, new, hfixes, hto, hne, htree⟩⟩ := f.run_fixFile hloc hfile
  · refine ⟨g, w', hrun, ?_, .inl hspares⟩
    rw [htree]
    exact ⟨fun _ => hspares, fun _ => entry_of_keep hloc hfile⟩
  · have hplace := hto.place
    refine ⟨g, w', hrun, ⟨fun hkept => ?_, fun hspares => absurd (hspares fixes new hfixes hto) hne⟩,
      .inr ⟨new, hto, ?_⟩⟩
    · rw [htree] at hkept
      exact absurd hkept (entry_moved hloc hfile hplace hne _)
    · rw [htree, get?_moved (ne_nil_of_file hfile) hplace.1 hne, if_pos rfl]

lemma Updater.updateOne_kept_iff (u : Updater) :
    ∃ g u' w', (u.updateOne (.text path) .none).run w = (.ok (.error g, u'), w') ∧
      (u.Spares w.tree path loc → w'.tree.entry path = .ok (.file data mode)) ∧
      (w'.tree.entry path = .ok (.file data mode) → data = [] ∨ u.Spares w.tree path loc) ∧
      (u.Spares w.tree path loc ∨ w'.tree.entry path = .ok (.file [] (writtenMode mode)) ∨
        ∃ new, MovesTo w.tree u.backup path new ∧ w'.tree.get? new = some (.file data mode)) := by
  have hkept := entry_of_keep hloc hfile
  rcases u.run_updateOne_cases path w with ⟨g, hbad, hrun⟩ | ⟨u', hready, hrun⟩
  · have hspares : u.Spares w.tree path loc := fun u' h => by cases hbad.symm.trans h
    exact ⟨g, u, w, hrun, fun _ => hkept, fun _ => .inr hspares, .inl hspares⟩
  have hbackup : u'.backup = u.backup := by
    rcases preparedIn_eq_ok hready with ⟨-, rfl⟩ | ⟨-, cps, -, rfl⟩ <;> rfl
  have hspares : u.Spares w.tree path loc ↔ (∀ new, MovesTo w.tree u'.backup path new → new = loc) ∧
      ((u'.update.isOn || u'.template.isSome) = true ∨ KeepFails w.tree u'.backup path) :=
    ⟨fun h => h u' hready, fun h u'' hu'' => by cases hready.symm.trans hu''; exact h⟩
  obtain ⟨g, w', hone, hcase⟩ := u'.run_updateFile hloc hfile
  refine ⟨g, u', w', hrun _ _ hone, ?_⟩
  rw [hspares]
  rcases hcase with ⟨htree, hsame⟩ | ⟨htree, hbare, hkeep⟩ | ⟨new, hto, hne, hmoved⟩
  · rw [htree]
    exact ⟨fun _ => hkept, fun _ => .inr hsame, .inl hsame⟩
  · have hentry : w'.tree.entry path = .ok (.file [] (writtenMode mode)) := by
      have hput := get?_put w.tree (ne_nil_of_file hfile) (.file [] (writtenMode mode))
      rw [htree]
      exact entry_of_locate (locate_replaced hloc hfile ((hput loc).trans (if_pos rfl))
        (fun l hl => (hput l).trans (if_neg hl)) .follow) ((hput loc).trans (if_pos rfl))
    refine ⟨?_, ?_, .inr (.inl hentry)⟩
    · rintro ⟨-, harmed | hfails⟩
      · cases hbare.symm.trans harmed
      · exact absurd hfails hkeep
    · intro h
      exact .inl (Entry.file.inj (Except.ok.inj (hentry.symm.trans h))).1.symm
  · have hplace := hto.place
    have hnew : w'.tree.get? new = some (.file data mode) := by
      rcases hmoved with htree | hwrite
      · rw [htree, get?_moved (ne_nil_of_file hfile) hplace.1 hne, if_pos rfl]
      · exact (entry_write_moved hloc hfile hplace hne hwrite).1
    refine ⟨fun h => absurd (h.1 new hto) hne, fun h => .inl ?_, .inr (.inr ⟨new, hbackup ▸ hto, hnew⟩)⟩
    rcases hmoved with htree | hwrite
    · rw [htree] at h
      exact absurd h (entry_moved hloc hfile hplace hne _)
    · cases (entry_write_moved hloc hfile hplace hne hwrite).2 _ h
      rfl

end

/-- A fixer and an updater always fail when they are called for a single file. The path leads to the file
as it was exactly if the file has not been moved away or emptied before. One that has been moved away has
its bytes and its permission bits at its new place. -/
theorem single_file_kept_iff (hloc : Path.locate w.tree .keep path = .ok loc)
    (hfile : w.tree.get? loc = some (.file data mode)) :
    (∀ f : Fixer, ∃ g w', (f.fixFile (.text path) .none).run w = (.error g, w') ∧
      (w'.tree.entry path = .ok (.file data mode) ↔ f.Spares w.tree path loc) ∧
      (f.Spares w.tree path loc ∨
        ∃ new, MovesTo w.tree f.backup path new ∧ w'.tree.get? new = some (.file data mode))) ∧
    ∀ u : Updater, ∃ g u' w', (u.updateOne (.text path) .none).run w = (.ok (.error g, u'), w') ∧
      (u.Spares w.tree path loc → w'.tree.entry path = .ok (.file data mode)) ∧
      (w'.tree.entry path = .ok (.file data mode) → data = [] ∨ u.Spares w.tree path loc) ∧
      (u.Spares w.tree path loc ∨ w'.tree.entry path = .ok (.file [] (writtenMode mode)) ∨
        ∃ new, MovesTo w.tree u.backup path new ∧ w'.tree.get? new = some (.file data mode)) :=
  ⟨fun f => f.fixFile_kept_iff hloc hfile, fun u => u.updateOne_kept_iff hloc hfile⟩

/-- A file in a directory behind a link is not touched if no old file is to be kept. -/
theorem linked_file_kept :
    let w : World := {
      tree := { entries := [(["d"], .dir 0o755), (["l"], .link "d"), (["a.c", "d"], .file [0x78, 0x0a] 0o640)] }
      year := 2024 }
    let u : Updater := { year := .int 2024, yearText := "2024" }
    (∃ g w', (({} : Fixer).fixFile (.text "l/a.c") .none).run w = (.error g, w') ∧
      w'.tree.entry "l/a.c" = .ok (.file [0x78, 0x0a] 0o640)) ∧
    ∃ g u' w', (u.updateOne (.text "l/a.c") .none).run w = (.ok (.error g, u'), w') ∧
      w'.tree.entry "l/a.c" = .ok (.file [0x78, 0x0a] 0o640) := by
  intro w u
  have hlink : w.tree.get? ["l"] = some (.link "d") := rfl
  have hreach : Path.Reaches w.tree ["a.c", "d"] Path.linkLimit [] ["l", "a.c"] :=
    .link (by constructor <;> decide) hlink (by decide) (by decide)
      (.enter (by constructor <;> decide) rfl (by simp)
        (.enter (by constructor <;> decide) rfl (by simp) (.done _)))
  have hloc : Path.locate w.tree .keep "l/a.c" = .ok ["a.c", "d"] :=
    Path.locate_eq_ok_iff.mpr ⟨by decide, by decide, by decide, by decide, hreach.walk_eq rfl .keep⟩
  obtain ⟨hf, hu⟩ := single_file_kept_iff hloc rfl
  obtain ⟨g, w₁, hrun₁, hiff, -⟩ := hf {}
  obtain ⟨g', u', w₂, hrun₂, hkept, -⟩ := hu u
  refine ⟨⟨g, w₁, hrun₁, hiff.mpr ?_⟩, g', u', w₂, hrun₂, hkept ?_⟩
  · rintro fixes new - ⟨ext, hext, -⟩
    cases hext
  · rintro u hready
    cases hready
    refine ⟨?_, .inl rfl⟩
    rintro new ⟨ext, hext, -⟩
    cases hext

/-- A fixer that is to keep the old file takes it away, and an updater that has nothing to look for empties
it. -/
theorem single_file_lost :
    let w : World := { tree := { entries := [(["a.c"], .file [0x78, 0x0a] 0o644)] }, year := 2024 }
    let f : Fixer := { backup := .text ".bak" }
    let u : Updater := { year := .int 2024, yearText := "2024", update := .flag false, template := none }
    (∃ g w', (f.fixFile (.text "a.c") .none).run w = (.error g, w') ∧
      w'.tree.entry "a.c" ≠ .ok (.file [0x78, 0x0a] 0o644)) ∧
    ∃ g u' w', (u.updateOne (.text "a.c") .none).run w = (.ok (.error g, u'), w') ∧
      w'.tree.entry "a.c" = .ok (.file [] 0o644) := by
  intro w f u
  have hp : w.tree.Plain := by decide
  have hfollow : Path.locate w.tree .follow "a.c" = .ok ["a.c"] := Path.locate_name hp rfl
  obtain ⟨name, dir, hname, hleads⟩ := Path.leadsTo_of_file hp hfollow rfl
  cases hname
  have hloc : Path.locate w.tree .keep "a.c" = .ok ["a.c"] := hleads.locate hp .keep rfl
  have hto : MovesTo w.tree (.text ".bak") "a.c" ["a.c.bak"] :=
    Session.movesTo_of_fits hp hleads rfl (by decide) (by decide) rfl ⟨by decide, by decide⟩
  obtain ⟨g, w₁, hrun₁, hiff, -⟩ := f.fixFile_kept_iff hloc rfl
  obtain ⟨g', u', w₂, hrun₂, -, -, hcase⟩ := u.updateOne_kept_iff hloc rfl
  refine ⟨⟨g, w₁, hrun₁, ?_⟩, g', u', w₂, hrun₂, ?_⟩
  · rw [Ne, hiff]
    intro hspares
    have hsame := hspares [.trim, .tabs 4] ["a.c.bak"] rfl hto
    revert hsame
    decide
  · rcases hcase with hspares | hempty | ⟨new, ⟨ext, hext, -⟩, -⟩
    · obtain ⟨-, harmed | ⟨hon, -⟩⟩ := hspares u rfl
      · cases harmed
      · cases hon
    · exact hempty
    · cases hext

end SourceTidy
