import SourceTidy.Proofs.PlainPath

/-!
# Trees with the same directories

Files come and go without a change to the directories. As long as these stay, a path to a directory
leads to it, and a path to a file leads to whatever stands in the same place.
-/

namespace SourceTidy

namespace FileTree

variable {t t' t'' : FileTree} {name : String} {loc : Location}

lemma lookup_erase (loc loc' : Location) (entries : List (Location × Entry)) :
    (entries.filter fun p => p.1 != loc).lookup loc' =
      if loc' = loc then none else entries.lookup loc' := by
  induction entries with
  | nil => exact (ite_self none).symm
  | cons p entries ih =>
    obtain ⟨l, e⟩ := p
    rw [List.filter_cons, lookup_cons_if]
    by_cases hl : l = loc
    · rw [if_neg (by simp [hl]), ih, hl]
      split <;> simp_all
    · rw [if_pos (by simpa using hl), lookup_cons_if, ih]
      by_cases h : loc' = l
      · rw [if_pos h, if_pos h, if_neg (h.trans_ne hl)]
      · rw [if_neg h, if_neg h]

lemma get?_erase (t : FileTree) (hloc : loc ≠ []) (loc' : Location) :
    (t.erase loc).get? loc' = if loc' = loc then none else t.get? loc' := by
  cases loc' with
  | nil => rw [if_neg (Ne.symm hloc)]; rfl
  | cons name loc' => exact lookup_erase loc _ t.entries

lemma Plain.erase (hp : t.Plain) (hloc : t.isDirAt loc = false) : (t.erase loc).Plain := by
  have hne : loc ≠ [] := by
    rintro rfl
    cases hloc
  have hsub : ∀ {l e}, (t.erase loc).get? l = some e → t.get? l = some e := by
    intro l e h
    rw [get?_erase t hne] at h
    split at h
    · cases h
    · exact h
  refine ⟨hp.nodup.sublist (List.filter_sublist.map _), fun l target h => hp.noLinks l target (hsub h),
    fun h => hp.isName (hsub h), fun {name l e} h => ?_⟩
  obtain ⟨mode, hmode⟩ := isDirAt_iff.mp (hp.inDir (hsub h))
  have hl : l ≠ loc := by
    rintro rfl
    rw [isDirAt_iff.mpr ⟨mode, hmode⟩] at hloc
    cases hloc
  rw [isDirAt_iff, get?_erase t hne, if_neg hl]
  exact ⟨mode, hmode⟩

lemma nodup_put (hp : t.Plain) (hloc : loc ≠ []) (e : Entry) :
    ((t.put loc e).entries.map Prod.fst).Nodup := by
  by_cases hmem : loc ∈ t.entries.map Prod.fst
  · rw [locations_put hmem]
    exact hp.nodup
  · have hput : ∀ entries : List (Location × Entry), loc ∉ entries.map Prod.fst →
        (putEntry loc e entries).map Prod.fst = entries.map Prod.fst ++ [loc] := by
      intro entries hnot
      induction entries with
      | nil => rfl
      | cons p entries ih =>
        obtain ⟨l, d⟩ := p
        rw [List.map_cons, List.mem_cons, not_or] at hnot
        rw [putEntry, if_neg (by simpa using Ne.symm hnot.1), List.map_cons, ih hnot.2]
        rfl
    change ((putEntry loc e t.entries).map Prod.fst).Nodup
    rw [hput t.entries hmem]
    refine List.nodup_append.mpr ⟨hp.nodup, List.pairwise_singleton _ _, fun l hl l' hl' => ?_⟩
    rw [List.mem_singleton.mp hl']
    rintro rfl
    exact hmem hl

/-- A place for a file: it is named in a directory, and no directory itself. -/
structure Place (t : FileTree) (name : String) (dir : Location) : Prop where
  isName : Path.IsName name
  inDir : t.isDirAt dir = true
  notDir : t.isDirAt (name :: dir) = false

lemma Plain.place (hp : t.Plain) {dir : Location} {data : Bytes} {mode : Nat}
    (h : t.get? (name :: dir) = some (.file data mode)) : t.Place name dir :=
  ⟨hp.isName h, hp.inDir h, Bool.eq_false_iff.mpr (not_isDirAt_of_file h)⟩

lemma Plain.put (hp : t.Plain) {dir : Location} (h : t.Place name dir) (data : Bytes) (mode : Nat) :
    (t.put (name :: dir) (.file data mode)).Plain := by
  have hne : name :: dir ≠ [] := List.cons_ne_nil _ _
  have hdirs : ∀ {l}, t.isDirAt l = true →
      (t.put (name :: dir) (.file data mode)).isDirAt l = true := by
    intro l hl
    obtain ⟨m, hm⟩ := isDirAt_iff.mp hl
    have hother : l ≠ name :: dir := by
      rintro rfl
      rw [h.notDir] at hl
      cases hl
    rw [isDirAt_iff, get?_put t hne, if_neg hother]
    exact ⟨m, hm⟩
  refine ⟨nodup_put hp hne _, fun l target hl => ?_, fun {n l e} hl => ?_, fun {n l e} hl => ?_⟩
  · rw [get?_put t hne] at hl
    split at hl
    · cases hl
    · exact hp.noLinks l target hl
  · rw [get?_put t hne] at hl
    split at hl
    · next heq =>
      cases heq
      exact h.isName
    · exact hp.isName hl
  · rw [get?_put t hne] at hl
    split at hl
    · next heq =>
      cases heq
      exact hdirs h.inDir
    · exact hdirs (hp.inDir hl)

lemma Plain.add (hp : t.Plain) {dir : Location} (h : t.Place name dir) (data : Bytes) (mode : Nat) :
    (t.add (name :: dir) (.file data mode)).Plain := by
  obtain ⟨hnodup, hlinks, hnames, hdirs⟩ := hp.put h data mode
  exact ⟨hnodup, hlinks, hnames, hdirs⟩

/-- Puts a file at a location. The name is new there unless it is that of a file. -/
def putFile (t : FileTree) (loc : Location) (data : Bytes) (mode : Nat) : FileTree :=
  match t.get? loc with
  | some (.file ..) => t.put loc (.file data mode)
  | _ => t.add loc (.file data mode)

lemma putFile_cases (t : FileTree) (loc : Location) : (∀ data mode, t.putFile loc data mode =
    t.put loc (.file data mode)) ∨ ∀ data mode, t.putFile loc data mode = t.add loc (.file data mode) := by
  unfold putFile
  split
  · exact .inl fun _ _ => rfl
  · exact .inr fun _ _ => rfl

lemma get?_putFile (t : FileTree) (hloc : loc ≠ []) (data : Bytes) (mode : Nat) (loc' : Location) :
    (t.putFile loc data mode).get? loc' = if loc' = loc then some (.file data mode) else t.get? loc' := by
  rcases t.putFile_cases loc with h | h
  · rw [h, get?_put t hloc]
  · rw [h, get?_add t hloc]

@[simp] lemma get?_putFile_self (t : FileTree) (hloc : loc ≠ []) (data : Bytes) (mode : Nat) :
    (t.putFile loc data mode).get? loc = some (.file data mode) := by
  rw [get?_putFile t hloc, if_pos rfl]

lemma putFile_put (t : FileTree) (loc : Location) (data data' : Bytes) (mode mode' : Nat) :
    (t.putFile loc data mode).put loc (.file data' mode') = t.putFile loc data' mode' := by
  rcases t.putFile_cases loc with h | h
  · rw [h, h, put_put]
  · have hput := congrArg entries (t.put_put loc (.file data mode) (.file data' mode'))
    rw [h, h, put, add, add, put]
    exact congrArg (fun entries => ({ t with entries, arrivals := loc :: t.arrivals } : FileTree)) hput

/-- Two plain trees with the same directories, which are read in the same way. Only files have come to
the second since it was the first. -/
structure SameDirs (t t' : FileTree) : Prop where
  plain : t'.Plain
  lister : t'.lister = t.lister
  arrived : ∃ new, t'.arrivals = new ++ t.arrivals ∧ ∀ loc ∈ new, t.isDirAt loc = false
  dirs : ∀ loc mode, t'.get? loc = some (.dir mode) ↔ t.get? loc = some (.dir mode)

namespace SameDirs

protected lemma refl (hp : t.Plain) : t.SameDirs t :=
  ⟨hp, rfl, ⟨[], rfl, fun _ h => absurd h List.not_mem_nil⟩, fun _ _ => Iff.rfl⟩

lemma isDirAt_eq (h : t.SameDirs t') (loc : Location) : t'.isDirAt loc = t.isDirAt loc := by
  rw [Bool.eq_iff_iff, isDirAt_iff, isDirAt_iff]
  simp only [h.dirs]

protected lemma trans (h : t.SameDirs t') (h' : t'.SameDirs t'') : t.SameDirs t'' := by
  obtain ⟨new, harrivals, hnew⟩ := h.arrived
  obtain ⟨new', harrivals', hnew'⟩ := h'.arrived
  refine ⟨h'.plain, h'.lister.trans h.lister, ⟨new' ++ new, ?_, ?_⟩,
    fun loc mode => (h'.dirs loc mode).trans (h.dirs loc mode)⟩
  · rw [harrivals', harrivals, List.append_assoc]
  · exact List.forall_mem_append.mpr ⟨fun loc hloc => h.isDirAt_eq loc ▸ hnew' loc hloc, hnew⟩

lemma get?_eq_of_isDirAt (h : t.SameDirs t') (hdir : t.isDirAt loc = true) : t'.get? loc = t.get? loc := by
  obtain ⟨mode, hmode⟩ := isDirAt_iff.mp hdir
  rw [hmode, h.dirs, hmode]

lemma place (h : t.SameDirs t') {dir : Location} (hplace : t.Place name dir) : t'.Place name dir :=
  ⟨hplace.isName, by rw [h.isDirAt_eq, hplace.inDir], by rw [h.isDirAt_eq, hplace.notDir]⟩

lemma erase (h : t.SameDirs t') (hloc : t.isDirAt loc = false) : t.SameDirs (t'.erase loc) := by
  have hne : loc ≠ [] := by
    rintro rfl
    cases hloc
  refine ⟨h.plain.erase (by rw [h.isDirAt_eq, hloc]), h.lister, h.arrived, fun l mode => ?_⟩
  rw [get?_erase _ hne]
  split
  · next heq =>
    refine iff_of_false (fun hnone => by cases hnone) fun hdir => ?_
    rw [← heq, isDirAt_iff.mpr ⟨mode, hdir⟩] at hloc
    cases hloc
  · exact h.dirs l mode

lemma put (h : t.SameDirs t') {dir : Location} (hplace : t.Place name dir) (data : Bytes) (mode : Nat) :
    t.SameDirs (t'.put (name :: dir) (.file data mode)) := by
  refine ⟨h.plain.put (h.place hplace) data mode, h.lister, h.arrived, fun l m => ?_⟩
  rw [get?_put _ (List.cons_ne_nil _ _)]
  split
  · next heq =>
    refine iff_of_false (fun hfile => by cases hfile) fun hdir => ?_
    have hnot := hplace.notDir
    rw [← heq, isDirAt_iff.mpr ⟨m, hdir⟩] at hnot
    cases hnot
  · exact h.dirs l m

lemma add (h : t.SameDirs t') {dir : Location} (hplace : t.Place name dir) (data : Bytes) (mode : Nat) :
    t.SameDirs (t'.add (name :: dir) (.file data mode)) := by
  obtain ⟨new, harrivals, hnew⟩ := h.arrived
  refine ⟨h.plain.add (h.place hplace) data mode, h.lister, ⟨(name :: dir) :: new, ?_, ?_⟩,
    (h.put hplace data mode).dirs⟩
  · rw [FileTree.add, harrivals]
    rfl
  · exact List.forall_mem_cons.mpr ⟨hplace.notDir, hnew⟩

lemma putFile (h : t.SameDirs t') {dir : Location} (hplace : t.Place name dir) (data : Bytes)
    (mode : Nat) : t.SameDirs (t'.putFile (name :: dir) data mode) := by
  rcases t'.putFile_cases (name :: dir) with heq | heq
  · rw [heq]
    exact h.put hplace data mode
  · rw [heq]
    exact h.add hplace data mode

end SameDirs

end FileTree

namespace Path

variable {t t' : FileTree} {links : Nat} {loc dir found : Location} {names : List String} {path : String}

lemma isDirAt_of_walk (hl : ∀ loc target, t.get? loc ≠ some (.link target))
    (h : walk t .follow links loc names = .ok found) (hdir : t.isDirAt found = true) :
    t.isDirAt loc = true := by
  cases names with
  | nil =>
    rw [walk_nil] at h
    cases h
    exact hdir
  | cons name rest =>
    rw [walk_follow_cons hl] at h
    split at h
    · cases h
    · next hnot => exact eq_true_of_ne_false hnot

lemma walk_sameDirs (hp : t.Plain) (hd : t.SameDirs t')
    (h : walk t .follow links loc names = .ok found) (hdir : t.isDirAt found = true) :
    walk t' .follow links loc names = .ok found := by
  induction names generalizing loc with
  | nil =>
    rw [walk_nil] at h ⊢
    exact h
  | cons name rest ih =>
    rw [walk_follow_cons hp.noLinks] at h
    rw [walk_follow_cons hd.plain.noLinks, hd.isDirAt_eq]
    split_ifs at h with hnot hhere habove hlong hsome
    · rw [if_neg hnot, if_pos hhere]
      exact ih h
    · rw [if_neg hnot, if_neg hhere, if_pos habove]
      exact ih h
    · have hnext := isDirAt_of_walk hp.noLinks h hdir
      rw [if_neg hnot, if_neg hhere, if_neg habove, if_neg hlong, hd.get?_eq_of_isDirAt hnext, if_pos hsome]
      exact ih h

lemma locate_sameDirs (hp : t.Plain) (hd : t.SameDirs t') (h : locate t .follow path = .ok loc)
    (hdir : t.isDirAt loc = true) : locate t' .follow path = .ok loc := by
  obtain ⟨hnull, hne, habs, hshort, hwalk⟩ := locate_eq_ok_iff.mp h
  exact locate_eq_ok_iff.mpr ⟨hnull, hne, habs, hshort, walk_sameDirs hp hd hwalk hdir⟩

lemma exists_last_part (s : Text) : ∃ d b, s = d ++ b ∧ '/' ∉ b ∧ (d = [] ∨ ∃ d', d = d' ++ ['/']) := by
  induction s with
  | nil => exact ⟨[], [], rfl, List.not_mem_nil, .inl rfl⟩
  | cons c s ih =>
    obtain ⟨d, b, rfl, hb, rfl | ⟨d', rfl⟩⟩ := ih
    · by_cases hc : c = '/'
      · exact ⟨['/'], b, by rw [hc]; rfl, hb, .inr ⟨[], rfl⟩⟩
      · refine ⟨[], c :: b, rfl, ?_, .inl rfl⟩
        rw [List.mem_cons, not_or]
        exact ⟨Ne.symm hc, hb⟩
    · exact ⟨c :: (d' ++ ['/']), b, rfl, hb, .inr ⟨c :: d', rfl⟩⟩

lemma namesIn_of_notMem {s : Text} (hne : s ≠ []) (h : '/' ∉ s) : namesIn s = [String.ofList s] := by
  rw [namesIn, splitAt_of_notMem h]
  simp [hne]

lemma exists_steps_append (hne : path ≠ "") (hlast : path.toList.getLast? ≠ some '/') :
    ∃ init name, ∀ e : String, '/' ∉ e.toList → steps (path ++ e) = init ++ [name ++ e] := by
  obtain ⟨d, b, hpath, hb, hd⟩ := exists_last_part path.toList
  have hbne : b ≠ [] := by
    rintro rfl
    rw [List.append_nil] at hpath
    rcases hd with rfl | ⟨d', rfl⟩
    · exact hne (String.toList_eq_nil_iff.mp hpath)
    · rw [hpath] at hlast
      simp at hlast
  obtain ⟨init, hinit⟩ : ∃ init, ∀ x : Text, x ≠ [] → '/' ∉ x →
      namesIn (d ++ x) = init ++ [String.ofList x] := by
    rcases hd with rfl | ⟨d', rfl⟩
    · exact ⟨[], fun x hx hslash => namesIn_of_notMem hx hslash⟩
    · refine ⟨namesIn d', fun x hx hslash => ?_⟩
      rw [List.append_assoc, List.singleton_append, namesIn_append_slash, namesIn_of_notMem hx hslash]
  refine ⟨init, String.ofList b, fun e he => ?_⟩
  have hslash : '/' ∉ b ++ e.toList := by
    rw [List.mem_append, not_or]
    exact ⟨hb, he⟩
  have hxne : b ++ e.toList ≠ [] := fun h => hbne (List.append_eq_nil_iff.mp h).1
  have hnames : (path ++ e).toList = d ++ (b ++ e.toList) := by
    rw [String.toList_append, hpath, List.append_assoc]
  have hend : (d ++ (b ++ e.toList)).getLast? ≠ some '/' := by
    rw [List.getLast?_append_of_ne_nil _ hxne]
    exact fun h => hslash (List.mem_of_getLast? h)
  rw [steps_eq, hnames, if_neg hend, List.append_nil, hinit _ hxne hslash, String.ofList_append,
    String.ofList_toList]

lemma walk_file (hp : t.Plain) {name : String} {data : Bytes} {mode : Nat}
    (h : walk t .follow links loc (names ++ [name]) = .ok found)
    (hloc : (t.get? loc).isSome = true) (hf : t.get? found = some (.file data mode)) :
    ∃ dir, walk t .follow links loc names = .ok dir ∧ found = name :: dir := by
  rw [walk_append hp.noLinks _ _ _ _ (.inl rfl)] at h
  obtain ⟨dir, hdir, h⟩ : ∃ dir, walk t .follow links loc names = .ok dir ∧
      walk t .follow links dir [name] = .ok found := by
    cases hw : walk t .follow links loc names with
    | error problem =>
      rw [hw] at h
      cases h
    | ok dir =>
      rw [hw] at h
      exact ⟨dir, rfl, h⟩
  refine ⟨dir, hdir, ?_⟩
  have hnot := FileTree.not_isDirAt_of_file hf
  rw [walk_follow_cons hp.noLinks] at h
  split_ifs at h with hisDir hhere habove hlong hsome
  · rw [walk_nil] at h
    cases h
    exact absurd (eq_true_of_ne_false hisDir) hnot
  · rw [walk_nil] at h
    cases h
    have hup : t.isDirAt dir.tail = true := by
      cases dir with
      | nil => rfl
      | cons n dir =>
        obtain ⟨e, he⟩ := Option.isSome_iff_exists.mp (walk_isSome hp hdir hloc)
        exact hp.inDir he
    exact absurd hup hnot
  · rw [walk_nil] at h
    exact (Except.ok.inj h).symm

lemma IsName.append_ne {name : String} (h : IsName name) (e : String) :
    name ++ e ≠ "" ∧ name ++ e ≠ "." ∧ name ++ e ≠ ".." := by
  have hne := h.toList_ne_nil
  have hdot : name.toList ≠ ['.'] := fun hl => h.notHere (String.toList_inj.mp hl)
  have hdots : name.toList ≠ ['.', '.'] := fun hl => h.notAbove (String.toList_inj.mp hl)
  refine ⟨fun heq => ?_, fun heq => ?_, fun heq => ?_⟩
  all_goals
    have hlist := congrArg String.toList heq
    rw [String.toList_append] at hlist
  · exact hne (List.append_eq_nil_iff.mp hlist).1
  · rcases List.append_eq_cons_iff.mp hlist with ⟨hnil, -⟩ | ⟨x, hx, hnil⟩
    · exact hne hnil
    · rw [(List.append_eq_nil_iff.mp hnil.symm).1] at hx
      exact hdot hx
  · rcases List.append_eq_cons_iff.mp hlist with ⟨hnil, -⟩ | ⟨x, hx, hrest⟩
    · exact hne hnil
    · rcases List.append_eq_cons_iff.mp hrest.symm with ⟨hnil, -⟩ | ⟨y, hy, hnil⟩
      · rw [hnil] at hx
        exact hdot hx
      · rw [(List.append_eq_nil_iff.mp hnil.symm).1] at hy
        rw [hy] at hx
        exact hdots hx

/-- A path leads to a place in a directory, and with something put after it to another name there. -/
structure LeadsTo (t : FileTree) (path name : String) (dir : Location) : Prop where
  noNull : '\x00' ∉ path.toList
  nonempty : path ≠ ""
  relative : isAbsolute path = false
  short : path.utf8ByteSize < pathLimit
  steps : ∃ init, walk t .follow linkLimit [] init = .ok dir ∧
    ∀ e : String, '/' ∉ e.toList → steps (path ++ e) = init ++ [name ++ e]

lemma leadsTo_of_file (hp : t.Plain) {data : Bytes} {mode : Nat}
    (h : locate t .follow path = .ok loc) (hf : t.get? loc = some (.file data mode)) :
    ∃ name dir, loc = name :: dir ∧ LeadsTo t path name dir := by
  obtain ⟨hnull, hne, habs, hshort, hwalk⟩ := locate_eq_ok_iff.mp h
  have hlast : path.toList.getLast? ≠ some '/' := by
    intro hslash
    rw [steps_eq, if_pos hslash] at hwalk
    obtain ⟨dir, -, rfl⟩ := walk_file hp hwalk rfl hf
    exact (hp.isName hf).nonempty rfl
  obtain ⟨init, name, hsteps⟩ := exists_steps_append hne hlast
  have hpath := hsteps "" (by simp)
  rw [String.append_empty, String.append_empty] at hpath
  rw [hpath] at hwalk
  obtain ⟨dir, hdir, rfl⟩ := walk_file hp hwalk rfl hf
  exact ⟨name, dir, rfl, hnull, hne, habs, hshort, init, hdir, hsteps⟩

namespace LeadsTo

variable {name : String}

lemma sameDirs (h : LeadsTo t path name dir) (hp : t.Plain) (hd : t.SameDirs t')
    (hdir : t.isDirAt dir = true) : LeadsTo t' path name dir := by
  obtain ⟨init, hwalk, hsteps⟩ := h.steps
  exact { h with steps := ⟨init, walk_sameDirs hp hd hwalk hdir, hsteps⟩ }

lemma steps_eq (h : LeadsTo t path name dir) :
    ∃ init, walk t .follow linkLimit [] init = .ok dir ∧ Path.steps path = init ++ [name] := by
  obtain ⟨init, hwalk, hsteps⟩ := h.steps
  have hpath := hsteps "" (by simp)
  rw [String.append_empty, String.append_empty] at hpath
  exact ⟨init, hwalk, hpath⟩

/-- Where such a path leads at all, it leads to the place. -/
lemma eq_of_locate_append (h : LeadsTo t path name dir) (hp : t.Plain) (hname : IsName name) {e : String}
    (he : '/' ∉ e.toList) (hloc : Path.locate t .follow (path ++ e) = .ok loc) :
    loc = (name ++ e) :: dir := by
  obtain ⟨init, hwalk, hsteps⟩ := h.steps
  obtain ⟨hempty, hhere, habove⟩ := hname.append_ne e
  obtain ⟨-, -, -, -, hw⟩ := locate_eq_ok_iff.mp hloc
  rw [hsteps e he, walk_append hp.noLinks _ _ _ _ (.inl rfl), hwalk] at hw
  change walk t .follow linkLimit dir [name ++ e] = _ at hw
  rw [walk_follow_cons hp.noLinks] at hw
  split_ifs at hw with hdir hor
  · exact absurd hor (not_or.mpr ⟨hempty, hhere⟩)
  · rw [walk_nil] at hw
    exact (Except.ok.inj hw).symm

lemma eq_of_locate (h : LeadsTo t path name dir) (hp : t.Plain) (hname : IsName name)
    (hloc : Path.locate t .follow path = .ok loc) : loc = name :: dir := by
  have heq := @eq_of_locate_append t loc dir path name h hp hname "" (by simp)
  rw [String.append_empty, String.append_empty] at heq
  exact heq hloc

lemma locate (h : LeadsTo t path name dir) (hp : t.Plain) (last : LastStep)
    (hsome : (t.get? (name :: dir)).isSome = true) : Path.locate t last path = .ok (name :: dir) := by
  obtain ⟨e, he⟩ := Option.isSome_iff_exists.mp hsome
  have hname := hp.isName he
  obtain ⟨init, hwalk, hsteps⟩ := h.steps_eq
  refine locate_eq_ok_iff.mpr ⟨h.noNull, h.nonempty, h.relative, h.short, ?_⟩
  rw [hsteps, walk_append hp.noLinks _ _ _ _ (.inr ⟨by simp, by simp [hname.nonempty]⟩), hwalk]
  exact walk_name hp.noLinks (hp.inDir he) hname hsome

lemma locate_create (h : LeadsTo t path name dir) (hp : t.Plain) (hplace : t.Place name dir) :
    Path.locate t .create path = .ok (name :: dir) := by
  cases hsome : (t.get? (name :: dir)).isSome with
  | true => exact h.locate hp .create hsome
  | false =>
    have hname := hplace.isName
    obtain ⟨init, hwalk, hsteps⟩ := h.steps_eq
    refine locate_eq_ok_iff.mpr ⟨h.noNull, h.nonempty, h.relative, h.short, ?_⟩
    rw [hsteps, walk_append hp.noLinks _ _ _ _ (.inr ⟨by simp, by simp [hname.nonempty]⟩), hwalk]
    change walk t .create linkLimit dir [name] = _
    rw [walk_cons hp.noLinks, if_neg (by simp [hplace.inDir]),
      if_neg (by simp [hname.nonempty, hname.notHere]), if_neg hname.notAbove,
      if_neg (Nat.not_lt.mpr hname.short), if_neg (by simp), if_neg (by simp [hsome]),
      if_pos ⟨rfl, rfl⟩]

end LeadsTo

end Path

end SourceTidy
