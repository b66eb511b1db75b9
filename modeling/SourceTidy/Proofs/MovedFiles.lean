import SourceTidy.Fixer
import SourceTidy.Proofs.SameDirs
import SourceTidy.Proofs.SessionRun

/-!
# Files that are moved away

A file that is to be kept is moved to another name in its directory. Either this fails and nothing has
changed, or the file stands under the new name as it was and its old place is empty.
-/

namespace SourceTidy

def keptAt (e : String) : Location → Location
  | [] => []
  | name :: dir => (name ++ e) :: dir

lemma keptAt_injective {e : String} {loc loc' : Location} (h : keptAt e loc = keptAt e loc') :
    loc = loc' := by
  cases loc with
  | nil => cases loc' with
    | nil => rfl
    | cons name' dir' => cases h
  | cons name dir => cases loc' with
    | nil => cases h
    | cons name' dir' =>
      obtain ⟨hname, rfl⟩ := List.cons.inj h
      have hlist := congrArg String.toList hname
      rw [String.toList_append, String.toList_append] at hlist
      rw [String.toList_inj.mp (List.append_cancel_right hlist)]

lemma keptAt_ne {e : String} (he : e ≠ "") {loc : Location} (hloc : loc ≠ []) : keptAt e loc ≠ loc := by
  cases loc with
  | nil => exact absurd rfl hloc
  | cons name dir =>
    intro h
    have hlist := congrArg String.toList (List.cons.inj h).1
    rw [String.toList_append] at hlist
    exact he (String.toList_eq_nil_iff.mp (List.append_right_eq_self.mp hlist))

namespace Path

variable {t : FileTree} {path name e : String} {dir : Location}

lemma isDir_iff : t.isDir path = true ↔ ∃ loc, locate t .follow path = .ok loc ∧ t.isDirAt loc = true := by
  unfold FileTree.isDir FileTree.entry FileTree.isDirAt
  cases hl : locate t .follow path with
  | error problem => simp [bind, Except.bind]
  | ok loc =>
    cases he : t.get? loc with
    | none => simp [bind, Except.bind, he]
    | some e => cases e <;> simp [bind, Except.bind, he]

/-- The name and the path under which a file is to be kept can be used. -/
structure Fits (e path : String) (loc : Location) : Prop where
  isName : IsName ((keptAt e loc).headD "")
  short : (path ++ e).utf8ByteSize < pathLimit

namespace LeadsTo

lemma isAbsolute_append (h : LeadsTo t path name dir) (e : String) : isAbsolute (path ++ e) = false := by
  have hne : path.toList ≠ [] := fun hnil => h.nonempty (String.toList_eq_nil_iff.mp hnil)
  rw [isAbsolute, String.toList_append, List.head?_append_of_ne_nil _ hne]
  exact h.relative

lemma newName?_append (h : LeadsTo t path name dir) (hname : IsName name) (hdir : t.isDirAt dir = true)
    (he : '/' ∉ e.toList) {new : Location} : t.newName? (path ++ e) = some new ↔
      new = (name ++ e) :: dir ∧ (name ++ e).utf8ByteSize ≤ nameLimit ∧
        (path ++ e).utf8ByteSize < pathLimit := by
  obtain ⟨init, hwalk, hsteps⟩ := h.steps
  obtain ⟨hempty, hhere, habove⟩ := hname.append_ne e
  unfold FileTree.newName?
  rw [hsteps e he, List.reverse_append, List.reverse_singleton, List.singleton_append]
  dsimp only
  rw [List.reverse_reverse, hwalk, h.isAbsolute_append e]
  dsimp only
  rw [if_pos hdir]
  split
  · next hcond =>
    have hlong : nameLimit < (name ++ e).utf8ByteSize ∨ pathLimit ≤ (path ++ e).utf8ByteSize := by
      simpa [hempty, hhere, habove] using hcond
    refine iff_of_false (fun hnew => by cases hnew) ?_
    rintro ⟨-, hsize, hshort⟩
    omega
  · next hcond =>
    simp only [Bool.or_eq_true, decide_eq_true_eq, not_or, Nat.not_lt, Nat.not_le] at hcond
    rw [Option.some.injEq, eq_comm]
    exact (and_iff_left ⟨hcond.1.1.2, hcond.2⟩).symm

lemma isDir_append (h : LeadsTo t path name dir) (hp : t.Plain) (hname : IsName name)
    (he : '/' ∉ e.toList) (hnot : t.isDirAt ((name ++ e) :: dir) = false) : t.isDir (path ++ e) = false := by
  rw [Bool.eq_false_iff, Ne, isDir_iff]
  rintro ⟨loc, hl, hdir⟩
  rw [h.eq_of_locate_append hp hname he hl, hnot] at hdir
  cases hdir

lemma rename?_append (h : LeadsTo t path name dir) (hp : t.Plain) {entry : Entry}
    (hentry : t.get? (name :: dir) = some entry) (he : '/' ∉ e.toList) (hne : e ≠ "")
    (hnot : t.isDirAt ((name ++ e) :: dir) = false) : t.rename? path (path ++ e) =
      (t.newName? (path ++ e)).map fun new => (t.erase (name :: dir)).add new entry := by
  have hloc : Path.locate t .keep path = .ok (name :: dir) := h.locate hp .keep (by rw [hentry]; rfl)
  unfold FileTree.rename?
  rw [hloc]
  change (t.get? (name :: dir) >>= fun moved => t.newName? (path ++ e) >>= fun new => _) = _
  rw [hentry, Option.bind_eq_bind, Option.bind_some]
  cases hnew : t.newName? (path ++ e) with
  | none => rfl
  | some new =>
    obtain ⟨rfl, -⟩ := (h.newName?_append (hp.isName hentry) (hp.inDir hentry) he).mp hnew
    have hother : ¬((name ++ e) :: dir == name :: dir) = true := by
      rw [beq_iff_eq]
      exact keptAt_ne hne (List.cons_ne_nil name dir)
    rw [Option.bind_eq_bind, Option.bind_some, if_neg (Bool.eq_false_iff.mp hnot), if_neg hother]
    rfl

lemma append (h : LeadsTo t path name dir) (he : '/' ∉ e.toList) (hfits : Fits e path (name :: dir)) :
    LeadsTo t (path ++ e) (name ++ e) dir where
  noNull := by
    have hnull : '\x00' ∉ name.toList ++ e.toList := by
      rw [← String.toList_append]
      exact hfits.isName.noNull
    rw [String.toList_append, List.mem_append, not_or]
    exact ⟨h.noNull, fun hmem => hnull (List.mem_append_right _ hmem)⟩
  nonempty hempty := by
    have hlist := congrArg String.toList hempty
    rw [String.toList_append] at hlist
    exact h.nonempty (String.toList_eq_nil_iff.mp (List.append_eq_nil_iff.mp hlist).1)
  relative := h.isAbsolute_append e
  short := hfits.short
  steps := by
    obtain ⟨init, hwalk, hsteps⟩ := h.steps
    refine ⟨init, hwalk, fun e' he' => ?_⟩
    have hboth : '/' ∉ (e ++ e').toList := by
      rw [String.toList_append, List.mem_append, not_or]
      exact ⟨he, he'⟩
    rw [String.append_assoc, String.append_assoc]
    exact hsteps (e ++ e') hboth

end LeadsTo

end Path

namespace Session

variable {path name e : String} {dir : Location} {w : World} {entry : Entry}

section

variable (hp : w.tree.Plain) (h : Path.LeadsTo w.tree path name dir)
  (hentry : w.tree.get? (name :: dir) = some entry) (he : '/' ∉ e.toList) (hne : e ≠ "")
  (hnot : w.tree.isDirAt (keptAt e (name :: dir)) = false)

include hp h hentry he hne hnot

lemma run_keepOld_eq : (keepOld (.text e) path).run w =
    if (path ++ e).toList.contains '\x00' then (.error (.path .nullInPath (path ++ e)), w)
    else (w.tree.newName? (path ++ e)).elim (.error (moveFault w.tree path (path ++ e)), w)
      fun new => (.ok (), { w with tree := (w.tree.erase (name :: dir)).add new entry }) := by
  have hon : (Setting.text e).isOn = true := by simp [Setting.isOn, Scalar.isOn, hne]
  have htarget : (moveTarget path (path ++ e)).run w = (.ok (path ++ e), w) := by
    rw [moveTarget, run_bind_ok (run_get w)]
    dsimp only
    rw [h.isDir_append hp (hp.isName hentry) he hnot]
    rfl
  rw [keepOld, if_pos hon]
  change (moveFile path (path ++ e)).run w = _
  rw [moveFile, run_bind_ok htarget]
  split
  · rfl
  · rw [run_bind_ok (run_get w)]
    dsimp only
    rw [h.rename?_append hp hentry he hne hnot]
    cases w.tree.newName? (path ++ e) <;> rfl

/-- Keeping a file: the file stands under the new name, or this cannot be used and nothing has
changed. -/
lemma run_keepOld_cases :
    (¬Path.Fits e path (name :: dir) ∧ ∃ g, (keepOld (.text e) path).run w = (.error g, w)) ∨
      Path.Fits e path (name :: dir) ∧ (keepOld (.text e) path).run w = (.ok (),
        { w with tree := (w.tree.erase (name :: dir)).add (keptAt e (name :: dir)) entry }) := by
  have hname := hp.isName hentry
  rw [run_keepOld_eq hp h hentry he hne hnot]
  split
  · next hnull =>
    refine .inl ⟨fun hfits => hfits.isName.noNull ?_, _, rfl⟩
    rw [List.contains_iff_mem, String.toList_append, List.mem_append] at hnull
    change '\x00' ∈ (name ++ e).toList
    rw [String.toList_append]
    exact List.mem_append_right _ (hnull.resolve_left h.noNull)
  · next hnull =>
    cases hnew : w.tree.newName? (path ++ e) with
    | none =>
      refine .inl ⟨fun hfits => ?_, _, rfl⟩
      have hsome := (h.newName?_append hname (hp.inDir hentry) he).mpr
        ⟨rfl, hfits.isName.short, hfits.short⟩
      rw [hnew] at hsome
      cases hsome
    | some new =>
      obtain ⟨rfl, hsize, hshort⟩ := (h.newName?_append hname (hp.inDir hentry) he).mp hnew
      refine .inr ⟨⟨?_, hshort⟩, rfl⟩
      obtain ⟨hempty, hhere, habove⟩ := hname.append_ne e
      refine ⟨hempty, hhere, habove, ?_, ?_, hsize⟩
      · change '/' ∉ (name ++ e).toList
        rw [String.toList_append, List.mem_append, not_or]
        exact ⟨hname.noSlash, he⟩
      · have hnull' : '\x00' ∉ path.toList ++ e.toList := by
          rw [← String.toList_append]
          simpa using hnull
        change '\x00' ∉ (name ++ e).toList
        rw [String.toList_append, List.mem_append, not_or]
        exact ⟨hname.noNull, fun hmem => hnull' (List.mem_append_right _ hmem)⟩

end

end Session

end SourceTidy
