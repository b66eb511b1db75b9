import SourceTidy.Proofs.PlainPath

/-!
# Paths to files through links

A path that ends with the name of a file leads to this file, in whatever way it is walked. If the
file is moved to another place, the path leads to no entry any more.
-/

namespace SourceTidy.Path

/-- A step from a directory to a name in it. -/
structure NameStep (t : FileTree) (dir : Location) (name : String) : Prop where
  isDir : t.isDirAt dir = true
  nonempty : name ≠ ""
  notHere : name ≠ "."
  notAbove : name ≠ ".."
  short : ¬nameLimit < name.utf8ByteSize

section

variable {t : FileTree} {last : LastStep} {links : Nat} {dir : Location} {name target : String}
  {rest : List String}

lemma walk_of_not_isDirAt (h : t.isDirAt dir = false) (name : String) (rest : List String) :
    walk t last links dir (name :: rest) = .error .notDirectory := by
  rw [walk, h]
  rfl

lemma walk_here (hdir : t.isDirAt dir = true) (hname : name = "" ∨ name = ".") :
    walk t last links dir (name :: rest) = walk t last links dir rest := by
  rw [walk, hdir, if_neg (by decide), if_pos (by simpa using hname)]

lemma walk_above (hdir : t.isDirAt dir = true) :
    walk t last links dir (".." :: rest) = walk t last links dir.tail rest := by
  rw [walk, hdir, if_neg (by decide), if_neg (by decide), if_pos (by decide)]

lemma NameStep.walk_entry {e : Entry} (h : NameStep t dir name) (hrest : rest ≠ [""])
    (he : t.get? (name :: dir) = some e) (hnot : ∀ target, e ≠ .link target) :
    walk t last links dir (name :: rest) = walk t last links (name :: dir) rest := by
  rw [walk, h.isDir, if_neg (by decide), if_neg (by simp [h.nonempty, h.notHere]),
    if_neg (by simpa using h.notAbove), if_neg h.short, if_neg (by simp [hrest]), he]
  cases e with
  | file data mode => rfl
  | dir mode => rfl
  | link target => exact absurd rfl (hnot target)

lemma NameStep.walk_link (h : NameStep t dir name) (hrest : last = .create → rest ≠ [""])
    (hlink : t.get? (name :: dir) = some (.link target)) (hmore : last = .keep → rest ≠ [])
    (hrel : isAbsolute target = false) :
    walk t last (links + 1) dir (name :: rest) = walk t last links dir (steps target ++ rest) := by
  rw [walk, h.isDir, if_neg (by decide), if_neg (by simp [h.nonempty, h.notHere]),
    if_neg (by simpa using h.notAbove), if_neg h.short, if_neg (by simpa using hrest), hlink]
  dsimp only
  rw [if_neg (by simpa using hmore), hrel]
  rfl

lemma NameStep.walk_missing (h : NameStep t dir name) (hnone : t.get? (name :: dir) = none) :
    walk t last links dir [name] = if last = .create then .ok (name :: dir) else .error .notFound := by
  rw [walk, h.isDir, if_neg (by decide), if_neg (by simp [h.nonempty, h.notHere]),
    if_neg (by simpa using h.notAbove), if_neg h.short, if_neg (by simp), hnone]
  simp

end

/-- Steps that lead from a directory to a location. Links are followed, but not at the last step. -/
inductive Reaches (t : FileTree) (loc : Location) : Nat → Location → List String → Prop where
  | done (links : Nat) : Reaches t loc links loc []
  | here {links : Nat} {dir : Location} {name : String} {rest : List String}
    (hdir : t.isDirAt dir = true) (hname : name = "" ∨ name = ".") (hrest : Reaches t loc links dir rest) :
    Reaches t loc links dir (name :: rest)
  | above {links : Nat} {dir : Location} {rest : List String} (hdir : t.isDirAt dir = true)
    (hrest : Reaches t loc links dir.tail rest) : Reaches t loc links dir (".." :: rest)
  | enter {links : Nat} {dir : Location} {name : String} {rest : List String} {e : Entry}
    (hstep : NameStep t dir name) (he : t.get? (name :: dir) = some e) (hnot : ∀ target, e ≠ .link target)
    (hrest : Reaches t loc links (name :: dir) rest) : Reaches t loc links dir (name :: rest)
  | link {links : Nat} {dir : Location} {name target : String} {rest : List String}
    (hstep : NameStep t dir name) (hlink : t.get? (name :: dir) = some (.link target))
    (hmore : rest ≠ []) (hrel : isAbsolute target = false)
    (hrest : Reaches t loc links dir (steps target ++ rest)) : Reaches t loc (links + 1) dir (name :: rest)

variable {t t' : FileTree} {loc new dir : Location} {links : Nat} {names : List String} {data : Bytes}
  {mode : Nat}

lemma reaches_of_walk (hfile : t.get? loc = some (.file data mode))
    (h : walk t .keep links dir names = .ok loc) : Reaches t loc links dir names := by
  fun_induction walk t .keep links dir names with
  | case1 links dir =>
    cases h
    exact .done links
  | case3 links dir name rest hdir hname ih => exact .here (by simpa using hdir) (by simpa using hname) (ih h)
  | case4 links dir name rest hdir _ hname ih =>
    rw [beq_iff_eq] at hname
    subst hname
    exact .above (by simpa using hdir) (ih h)
  | case7 links dir name rest _ _ _ _ _ hnone =>
    cases h
    cases hnone.symm.trans hfile
  | case9 links dir name rest _ _ _ _ _ target hlink =>
    cases h
    cases hlink.symm.trans hfile
  | case12 dir name rest hdir hname hname' hshort _ target hlink hmore links hrel ih =>
    simp only [Bool.not_eq_true', Bool.not_eq_false, Bool.or_eq_true, beq_iff_eq, not_or] at hdir hname hname'
    exact .link ⟨hdir, hname.1, hname.2, hname', hshort⟩ hlink (by simpa using hmore) (by simpa using hrel)
      (ih h)
  | case13 links dir name rest hdir hname hname' hshort _ e hnot he ih =>
    simp only [Bool.not_eq_true', Bool.not_eq_false, Bool.or_eq_true, beq_iff_eq, not_or] at hdir hname hname'
    exact .enter ⟨hdir, hname.1, hname.2, hname', hshort⟩ he hnot (ih h)
  | _ => cases h

namespace Reaches

lemma eq_of_not_isDirAt (h : Reaches t loc links dir names) (hnot : t.isDirAt dir = false) :
    names = [] ∧ dir = loc := by
  cases h with
  | done => exact ⟨rfl, rfl⟩
  | here hdir _ _ => cases hnot.symm.trans hdir
  | above hdir _ => cases hnot.symm.trans hdir
  | enter hstep _ _ _ => cases hnot.symm.trans hstep.isDir
  | link hstep _ _ _ _ => cases hnot.symm.trans hstep.isDir

section

variable (hloc : t.isDirAt loc = false)

include hloc

lemma getLast?_ne (h : Reaches t loc links dir names) : names.getLast? ≠ some "" := by
  have hcons : ∀ {name : String} {rest : List String}, rest.getLast? ≠ some "" →
      (rest = [] → name ≠ "") → (name :: rest).getLast? ≠ some "" := by
    intro name rest hlast hname
    cases rest with
    | nil => simpa using hname rfl
    | cons next rest => simpa using hlast
  induction h with
  | done => simp
  | here hdir _ hrest ih =>
    refine hcons ih fun hnil => ?_
    subst hnil
    cases hrest
    cases hloc.symm.trans hdir
  | above _ _ ih => exact hcons ih fun _ => by decide
  | enter hstep _ _ _ ih => exact hcons ih fun _ => hstep.nonempty
  | link hstep _ hmore _ _ ih =>
    rw [List.getLast?_append_of_ne_nil _ hmore] at ih
    exact hcons ih fun _ => hstep.nonempty

lemma ne_slash (h : Reaches t loc links dir names) : names ≠ [""] := by
  rintro rfl
  exact h.getLast?_ne hloc rfl

lemma ne_slash_of_append {first : List String} (h : Reaches t loc links dir (first ++ names)) :
    names ≠ [""] := by
  rintro rfl
  exact h.getLast?_ne hloc (by simp)

/-- However the last step is taken, the steps lead to the location. -/
lemma walk_eq (h : Reaches t loc links dir names) (last : LastStep) :
    walk t last links dir names = .ok loc := by
  induction h with
  | done => rw [walk]
  | here hdir hname _ ih => rw [walk_here hdir hname, ih]
  | above hdir _ ih => rw [walk_above hdir, ih]
  | enter hstep he hnot hrest ih => rw [hstep.walk_entry (hrest.ne_slash hloc) he hnot, ih]
  | @link links dir name target rest hstep hlink hmore hrel hrest ih =>
    rw [hstep.walk_link (fun _ => hrest.ne_slash_of_append hloc) hlink (fun _ => hmore) hrel, ih]

end

lemma isDirAt_of_same (hloc : t.isDirAt loc = false) (hnew : t.isDirAt new = false)
    (hsame : ∀ l, l ≠ loc → l ≠ new → t'.get? l = t.get? l) (hdir : t.isDirAt dir = true) :
    t'.isDirAt dir = true := by
  rw [FileTree.isDirAt, hsame dir]
  · exact hdir
  · rintro rfl
    cases hloc.symm.trans hdir
  · rintro rfl
    cases hnew.symm.trans hdir

lemma replaced {data' : Bytes} {mode' : Nat} (h : Reaches t loc links dir names)
    (hfile : t.get? loc = some (.file data mode)) (hfile' : t'.get? loc = some (.file data' mode'))
    (hsame : ∀ l, l ≠ loc → t'.get? l = t.get? l) : Reaches t' loc links dir names := by
  have hloc : t.isDirAt loc = false := Bool.eq_false_iff.mpr (FileTree.not_isDirAt_of_file hfile)
  have hdirs : ∀ {l}, t.isDirAt l = true → t'.isDirAt l = true :=
    isDirAt_of_same hloc hloc fun l hl _ => hsame l hl
  induction h with
  | done links => exact .done links
  | here hdir hname _ ih => exact .here (hdirs hdir) hname ih
  | above hdir _ ih => exact .above (hdirs hdir) ih
  | @enter links dir name rest e hstep he hnot _ ih =>
    have hstep' : NameStep t' dir name := { hstep with isDir := hdirs hstep.isDir }
    by_cases hl : name :: dir = loc
    · exact .enter hstep' ((congrArg _ hl).trans hfile') (by simp) ih
    · exact .enter hstep' ((hsame _ hl).trans he) hnot ih
  | link hstep hlink hmore hrel _ ih =>
    refine .link { hstep with isDir := hdirs hstep.isDir } ((hsame _ ?_).trans hlink) hmore hrel ih
    rintro rfl
    cases hlink.symm.trans hfile

/-- When a file has been moved to a place where no directory was, the steps lead to the old place or
nowhere. -/
lemma eq_of_walk (h : Reaches t loc links dir names) (hfile : t.get? loc = some (.file data mode))
    (hloc' : ∀ e, t'.get? loc = some e → ∃ data mode, e = .file data mode)
    (hnew : t.isDirAt new = false) (hnew' : t'.get? new = some (.file data mode))
    (hsame : ∀ l, l ≠ loc → l ≠ new → t'.get? l = t.get? l) {last : LastStep} {r : Location}
    (hwalk : walk t' last links dir names = .ok r) : r = loc := by
  have hloc : t.isDirAt loc = false := Bool.eq_false_iff.mpr (FileTree.not_isDirAt_of_file hfile)
  have hdirs : ∀ {l}, t.isDirAt l = true → t'.isDirAt l = true := isDirAt_of_same hloc hnew hsame
  have hsteps : ∀ {l name}, NameStep t l name → NameStep t' l name :=
    fun hstep => { hstep with isDir := hdirs hstep.isDir }
  induction h with
  | done =>
    rw [walk] at hwalk
    exact (Except.ok.inj hwalk).symm
  | here hdir hname _ ih =>
    rw [walk_here (hdirs hdir) hname] at hwalk
    exact ih hwalk
  | above hdir _ ih =>
    rw [walk_above (hdirs hdir)] at hwalk
    exact ih hwalk
  | @enter links dir name rest e hstep he hnot hrest ih =>
    by_cases hl : name :: dir = loc
    · obtain ⟨rfl, -⟩ := hrest.eq_of_not_isDirAt (by rw [hl]; exact hloc)
      rw [← hl]
      cases hget : t'.get? (name :: dir) with
      | none =>
        rw [(hsteps hstep).walk_missing hget] at hwalk
        split at hwalk
        · exact (Except.ok.inj hwalk).symm
        · cases hwalk
      | some e' =>
        obtain ⟨data', mode', rfl⟩ := hloc' e' (hl ▸ hget)
        rw [(hsteps hstep).walk_entry (by simp) hget (by simp), walk] at hwalk
        exact (Except.ok.inj hwalk).symm
    · have hother : name :: dir ≠ new := fun heq =>
        hl (hrest.eq_of_not_isDirAt (by rw [heq]; exact hnew)).2
      rw [(hsteps hstep).walk_entry (hrest.ne_slash hloc) ((hsame _ hl hother).trans he) hnot] at hwalk
      exact ih hwalk
  | @link links dir name target rest hstep hlink hmore hrel hrest ih =>
    have hl : name :: dir ≠ loc := by
      rintro rfl
      cases hlink.symm.trans hfile
    have hslash := hrest.ne_slash_of_append hloc
    by_cases hother : name :: dir = new
    · rw [← hother] at hnew'
      have hnot : t'.isDirAt (name :: dir) = false :=
        Bool.eq_false_iff.mpr (FileTree.not_isDirAt_of_file hnew')
      obtain ⟨next, rest, rfl⟩ := List.exists_cons_of_ne_nil hmore
      rw [(hsteps hstep).walk_entry hslash hnew' (by simp), walk_of_not_isDirAt hnot] at hwalk
      cases hwalk
    · rw [(hsteps hstep).walk_link (fun _ => hslash) ((hsame _ hl hother).trans hlink) (fun _ => hmore)
        hrel] at hwalk
      exact ih hwalk

end Reaches

section

variable {path : String} (hloc : locate t .keep path = .ok loc) (hfile : t.get? loc = some (.file data mode))

include hloc hfile

lemma locate_replaced {data' : Bytes} {mode' : Nat} (hfile' : t'.get? loc = some (.file data' mode'))
    (hsame : ∀ l, l ≠ loc → t'.get? l = t.get? l) (last : LastStep) : locate t' last path = .ok loc := by
  obtain ⟨hnull, hne, habs, hshort, hwalk⟩ := locate_eq_ok_iff.mp hloc
  have hnot : t'.isDirAt loc = false := Bool.eq_false_iff.mpr (FileTree.not_isDirAt_of_file hfile')
  exact locate_eq_ok_iff.mpr ⟨hnull, hne, habs, hshort,
    ((reaches_of_walk hfile hwalk).replaced hfile hfile' hsame).walk_eq hnot last⟩

lemma locate_of_keep (last : LastStep) : locate t last path = .ok loc :=
  locate_replaced hloc hfile hfile (fun _ _ => rfl) last

lemma eq_of_locate_moved (hloc' : ∀ e, t'.get? loc = some e → ∃ data mode, e = .file data mode)
    (hnew : t.isDirAt new = false) (hnew' : t'.get? new = some (.file data mode))
    (hsame : ∀ l, l ≠ loc → l ≠ new → t'.get? l = t.get? l) {last : LastStep} {r : Location}
    (h : locate t' last path = .ok r) : r = loc := by
  have hwalk := (locate_eq_ok_iff.mp hloc).2.2.2.2
  exact (reaches_of_walk hfile hwalk).eq_of_walk hfile hloc' hnew hnew' hsame (locate_eq_ok_iff.mp h).2.2.2.2

end

end SourceTidy.Path
