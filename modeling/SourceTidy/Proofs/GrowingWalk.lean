import SourceTidy.Proofs.FoundFiles
import SourceTidy.Proofs.SameDirs

/-!
# Walks through growing trees

A visitor may add files to the directory of its source while this is still being read. The walk comes
to the sources of the first tree in their order, and in between to files that were added where the
directory gives their names late.
-/

namespace SourceTidy.SourceWalk

open Session SourceTidy.Path FileTree

variable {σ : Type} {t t' t'' : FileTree} {sel : Selection} {visit : Visitor σ} {path dir name : String}
  {loc : Location} {w : World}

/-- Nothing has changed at a location and below it. -/
def Unseen (t : FileTree) (loc : Location) (t' : FileTree) : Prop :=
  ∀ below, t'.get? (below ++ loc) = t.get? (below ++ loc)

/-- Nothing has changed but in a directory. -/
def ChangedIn (loc : Location) (t t' : FileTree) : Prop :=
  ∀ l, (∀ name, l ≠ name :: loc) → t'.get? l = t.get? l

/-- Nothing has changed but below a location. -/
def ChangedBelow (loc : Location) (t t' : FileTree) : Prop :=
  ∀ l, (∀ name l', l = name :: l' → ¬loc <:+ l') → t'.get? l = t.get? l

lemma ChangedIn.below (h : ChangedIn loc t t') : ChangedBelow loc t t' :=
  fun l hl => h l fun name heq => hl name loc heq List.suffix_rfl

lemma ChangedBelow.parent (h : ChangedBelow (name :: loc) t t') : ChangedBelow loc t t' :=
  fun l hl => h l fun n l' heq hsuffix => hl n l' heq ((List.suffix_cons name loc).trans hsuffix)

protected lemma ChangedBelow.refl (loc : Location) (t : FileTree) : ChangedBelow loc t t := fun _ _ => rfl

protected lemma ChangedBelow.trans (h : ChangedBelow loc t t') (h' : ChangedBelow loc t' t'') :
    ChangedBelow loc t t'' :=
  fun l hl => (h' l hl).trans (h l hl)

lemma Unseen.of_changedIn (h : Unseen t (name :: loc) t') (hd : t.SameDirs t'')
    (hdir : t.isDirAt (name :: loc) = true) (hin : ChangedIn loc t' t'') : Unseen t (name :: loc) t'' := by
  intro below
  cases below with
  | nil => exact hd.get?_eq_of_isDirAt hdir
  | cons n below =>
    rw [hin _ fun n' heq => ?_, h]
    have hlength := congrArg List.length heq
    rw [List.length_append, List.length_cons, List.length_cons, List.length_cons] at hlength
    omega

lemma eq_of_suffix_cons {name' : String} {l : Location} (h : name :: loc <:+ l)
    (h' : name' :: loc <:+ l) : name = name' := by
  rcases List.suffix_or_suffix_of_suffix h h' with hs | hs
  · exact (List.cons.inj (hs.eq_of_length rfl)).1
  · exact (List.cons.inj (hs.eq_of_length rfl)).1.symm

lemma Unseen.of_changedBelow {name' : String} (h : Unseen t (name :: loc) t') (hne : name' ≠ name)
    (hbelow : ChangedBelow (name' :: loc) t' t'') : Unseen t (name :: loc) t'' := by
  intro below
  rw [hbelow _ fun n l heq hsuffix => ?_, h]
  have hl : name' :: loc <:+ below ++ name :: loc := heq ▸ hsuffix.trans (List.suffix_cons n l)
  exact hne (eq_of_suffix_cons hl (List.suffix_append _ _))

lemma namesAt_congr (hp : t.Plain) (hp' : t'.Plain)
    (h : ∀ name, t'.get? (name :: loc) = t.get? (name :: loc)) : t'.namesAt loc = t.namesAt loc := by
  refine List.Perm.eq_of_pairwise (fun a b _ _ hab hba => absurd hab (String.lt_asymm hba))
    (hp'.sorted_namesAt loc) (hp.sorted_namesAt loc) ?_
  rw [List.perm_ext_iff_of_nodup (hp'.nodup_namesAt loc) (hp.nodup_namesAt loc)]
  intro name
  rw [mem_namesAt, mem_namesAt, h]

/-- What is given at a turn in a directory that is read when something has changed elsewhere. -/
def givenThen (t : FileTree) (loc : Location) (count : Nat) : Turn → String × Given
  | .there name => (name, .known (kindOf (t.get? (name :: loc))))
  | .late name => (name, .awaited (name :: loc) count)

lemma readingAt_of_unseen (hp : t.Plain) (hd : t.SameDirs t') (hloc : locate t .follow path = .ok loc)
    (hdir : t.isDirAt loc = true) (h : Unseen t loc t') :
    readingAt t' path = .ok ((t.turnsAt loc).map (givenThen t loc t'.arrivals.length)) := by
  have hsame : ∀ name, t'.get? (name :: loc) = t.get? (name :: loc) := fun name => h [name]
  rw [readingAt_of_locate (locate_sameDirs hp hd hloc hdir) (by rw [hd.isDirAt_eq, hdir]), turnsAt,
    namesAt_congr hp hd.plain hsame, hd.lister]
  refine congrArg Except.ok (List.map_congr_left fun turn _ => ?_)
  cases turn with
  | there name => rw [givenAt, givenThen, hsame]
  | late name => rfl

lemma arrivedSince_of_le {count count' : Nat} (hle : count' ≤ count) (h : t.arrivedSince count loc = true) :
    t.arrivedSince count' loc = true := by
  unfold arrivedSince at h ⊢
  rw [List.contains_iff_mem] at h ⊢
  exact List.take_subset_take_left _ (by omega) h

lemma arrivedSince_iff {new : List Location} (h : t'.arrivals = new ++ t.arrivals) :
    t'.arrivedSince t.arrivals.length loc = true ↔ loc ∈ new := by
  simp [arrivedSince, h]

/-- Only files arrive. -/
lemma kindNow?_late (hd : t.SameDirs t') {count : Nat} (hle : t.arrivals.length ≤ count) {kind : NameKind}
    (h : kindNow? t' (.awaited loc count) = some kind) : kind = .file ∧
      (t'.get? loc).isSome = true ∧ t'.arrivedSince t.arrivals.length loc = true := by
  rw [kindNow?] at h
  split at h
  · next hcond =>
    cases h
    rw [Bool.and_eq_true] at hcond
    have harrived := arrivedSince_of_le hle hcond.1
    refine ⟨?_, hcond.2, harrived⟩
    obtain ⟨new, heq, hnew⟩ := hd.arrived
    have hnot : t'.isDirAt loc = false := by
      rw [hd.isDirAt_eq, hnew loc ((arrivedSince_iff heq).mp harrived)]
    obtain ⟨e, he⟩ := Option.isSome_iff_exists.mp hcond.2
    rw [he]
    cases e with
    | file data mode => rfl
    | dir mode =>
      rw [isDirAt_iff.mpr ⟨mode, he⟩] at hnot
      cases hnot
    | link target => exact absurd he (hd.plain.noLinks _ _)
  · cases h

/-- A directory that a walk reads. -/
def Reads (t : FileTree) (sel : Selection) (path : String) (loc : Location) : Prop :=
  ∃ root rel, locate t .follow path = .ok root ∧ Enters t sel root rel ∧ loc = rel.reverse ++ root

lemma Reads.below (h : Reads t sel path loc) (hskip : sel.skips name = false)
    (hdir : t.isDirAt (name :: loc) = true) : Reads t sel path (name :: loc) := by
  obtain ⟨root, rel, hroot, henters, rfl⟩ := h
  refine ⟨root, rel ++ [name], hroot, ⟨?_, ?_⟩, by simp⟩
  · simpa using hdir
  · exact List.forall_mem_append.mpr ⟨henters.notSkipped, by simpa using hskip⟩

/-- A file that is put at the location during a walk joins it: the walk reads the directory, which gives
the name late, and the name is wanted. -/
def Joins (t : FileTree) (sel : Selection) (path : String) : Location → Prop
  | [] => False
  | name :: loc => Reads t sel path loc ∧ .late name ∈ t.turnsAt loc ∧ sel.skips name = false ∧
    sel.wants name = true

lemma not_joins_of_sorted (h : t.lister = .sorted) (sel : Selection) (path : String) (loc : Location) :
    ¬Joins t sel path loc := by
  cases loc with
  | nil => exact id
  | cons name loc =>
    rintro ⟨-, hlate, -⟩
    simp [turnsAt, h, Lister.sorted] at hlate

lemma not_joins_of_file {root : Location} (hp : t.Plain) (hroot : locate t .follow path = .ok root)
    (hfile : t.get? root = some (.file data mode)) (loc : Location) : ¬Joins t sel path loc := by
  cases loc with
  | nil => exact id
  | cons name loc =>
    rintro ⟨⟨root', rel, hroot', henters, -⟩, -⟩
    cases hroot.symm.trans hroot'
    exact not_enters_of_file hp hfile rel henters

/-- What visits keep in the course of a walk: a property of the stops of the first tree passed so far,
the state and the world. Visits change nothing but files in the directory of the source. -/
structure Visits (t : FileTree) (sel : Selection) (path : String) (visit : Visitor σ)
    (I : List Stop → σ → World → Prop) (E : Fault → World → Prop) : Prop where
  dirs : ∀ {done s w}, I done s w → t.SameDirs w.tree
  logged : ∀ {done s w}, I done s w → ∀ message, I done s (w.logged .debug message)
  noted : ∀ {done message rest s w}, stops t sel path = done ++ .note message :: rest → I done s w →
    I (done ++ [.note message]) s w
  fault : ∀ {done f rest s w}, stops t sel path = done ++ .fault f :: rest → I done s w → E f w
  next : ∀ {done src rest s w}, stops t sel path = done ++ .source src :: rest → I done s w →
    Lands (fun s' w' => I (done ++ [.source src]) s' w' ∧ ∀ l, (∀ name loc, locate t .follow src.path =
      .ok (name :: loc) → ∀ n, l ≠ n :: loc) → w'.tree.get? l = w.tree.get? l) E ((visit src s).run w)
  /-- A source that has joined the walk. -/
  late : ∀ {done s w src name loc}, Joins t sel path (name :: loc) → src.knownMode = none →
    w.tree.arrivedSince t.arrivals.length (name :: loc) = true →
    (∀ l, locate w.tree .follow src.path = .ok l → l = name :: loc) → I done s w →
    Lands (fun s' w' => I done s' w' ∧ ChangedIn loc w.tree w'.tree) E ((visit src s).run w)

/-- A part of a walk that enters the directory at a location and has the given stops. -/
def Passes (t : FileTree) (sel : Selection) (path : String) (I : List Stop → σ → World → Prop)
    (E : Fault → World → Prop) (loc : Location) (part : List Stop) (x : σ → Session (ForInStep σ)) : Prop :=
  ∀ done rest s w, stops t sel path = done ++ (part ++ rest) → I done s w → Unseen t loc w.tree →
    Lands (fun s' w' => I (done ++ part) s' w' ∧ ChangedBelow loc w.tree w'.tree) E ((x s).run w)

lemma fileStop_cases (sel : Selection) (src : Source) :
    (if sel.skips src.name then skipNote src.path else sourceStop sel src) = skipNote src.path ∨
    sel.skips src.name = false ∧ sel.wants src.name = true ∧
      (if sel.skips src.name then skipNote src.path else sourceStop sel src) = .source src := by
  cases hskip : sel.skips src.name with
  | true => exact .inl rfl
  | false =>
    cases hwant : sel.wants src.name with
    | true => exact .inr ⟨rfl, rfl, by simp [sourceStop, hwant]⟩
    | false => exact .inl (by simp [sourceStop, hwant])

section

variable {I : List Stop → σ → World → Prop} {E : Fault → World → Prop} {done rest : List Stop} {s : σ}
  (h : Visits t sel path visit I E)

include h

lemma Visits.lands_note (path' : String) (hI : I done s w) :
    Lands (fun s' w' => I done s' w' ∧ ChangedIn loc w.tree w'.tree) E
      ((replay visit [skipNote path'] s).run w) := by
  rw [skipNote, run_replay_note, run_replay_nil]
  exact ⟨h.logged hI _, fun l _ => by rw [World.logged_tree]⟩

variable (hp : t.Plain)

include hp

lemma Visits.lands_file (hloc : locate t .follow dir = .ok loc)
    (hfile : (t.get? (name :: loc)).isSome = true) (enter : String → σ → Session (ForInStep σ))
    {below : String → List Stop}
    (hall : stops t sel path = done ++ (nameStops t sel below dir (name, .file) ++ rest)) (hI : I done s w) :
    Lands (fun s' w' => I (done ++ nameStops t sel below dir (name, .file)) s' w' ∧
      ChangedIn loc w.tree w'.tree) E ((visitName sel visit enter dir name .file s).run w) := by
  rw [nameStops_file] at hall ⊢
  rw [run_visitName_file]
  rcases fileStop_cases sel { name, path := join dir name } with hstop | ⟨-, -, hstop⟩ <;>
    rw [hstop] at hall ⊢
  · exact (h.lands_note (join dir name) hI).mono fun s' w' hJ => ⟨h.noted hall hJ.1, hJ.2⟩
  · rw [run_replay_source]
    refine (h.next hall hI).andThen fun s' w' hJ => ⟨hJ.1, fun l hl => hJ.2 l fun n loc' hn m => ?_⟩
    have hshort := (locate_eq_ok_iff.mp hn).2.2.2.1
    rw [locate_join hp hloc hfile hshort] at hn
    cases hn
    exact hl m

lemma Visits.lands_late (hloc : locate t .follow dir = .ok loc) (hdir : t.isDirAt loc = true)
    (hreads : Reads t sel path loc) (hturn : .late name ∈ t.turnsAt loc)
    (hsome : (w.tree.get? (name :: loc)).isSome = true)
    (harrived : w.tree.arrivedSince t.arrivals.length (name :: loc) = true)
    (enter : String → σ → Session (ForInStep σ)) (hI : I done s w) :
    Lands (fun s' w' => I done s' w' ∧ ChangedIn loc w.tree w'.tree) E
      ((visitName sel visit enter dir name .file s).run w) := by
  rw [run_visitName_file]
  rcases fileStop_cases sel { name, path := join dir name } with hstop | ⟨hskip, hwant, hstop⟩
  · rw [hstop]
    exact h.lands_note _ hI
  · have hd := h.dirs hI
    rw [hstop, run_replay_source]
    refine (h.late ⟨hreads, hturn, hskip, hwant⟩ rfl harrived (fun l hl => ?_) hI).andThen
      fun s' w' hJ => hJ
    have hshort := (locate_eq_ok_iff.mp hl).2.2.2.1
    exact Except.ok.inj (hl.symm.trans (locate_join hd.plain (locate_sameDirs hp hd hloc hdir) hsome hshort))

/-- A visit under a name that is there from the start leaves the directories beside it as they were. -/
lemma Visits.lands_there (hloc : locate t .follow dir = .ok loc)
    (hsome : (t.get? (name :: loc)).isSome = true) {enter : String → σ → Session (ForInStep σ)}
    {below : String → List Stop} (henter : t.isDirAt (name :: loc) = true → sel.skips name = false →
      Passes t sel path I E (name :: loc) (below (join dir name)) (enter (join dir name)))
    {part : List Stop} (hpart : part = nameStops t sel below dir (name, kindOf (t.get? (name :: loc))))
    (hall : stops t sel path = done ++ (part ++ rest)) (hI : I done s w)
    (hunseen : t.isDirAt (name :: loc) = true → Unseen t (name :: loc) w.tree) :
    Lands (fun s' w' => I (done ++ part) s' w' ∧ ChangedBelow loc w.tree w'.tree ∧
      ∀ m, m ≠ name → t.isDirAt (m :: loc) = true → Unseen t (m :: loc) w.tree →
        Unseen t (m :: loc) w'.tree) E
      ((visitName sel visit enter dir name (kindOf (t.get? (name :: loc))) s).run w) := by
  obtain ⟨e, he⟩ := Option.isSome_iff_exists.mp hsome
  rw [he] at hpart ⊢
  cases e with
  | link target => exact absurd he (hp.noLinks _ _)
  | file data mode =>
    obtain rfl : part = nameStops t sel below dir (name, .file) := hpart
    exact (h.lands_file hp hloc hsome enter hall hI).mono fun s' w' hJ =>
      ⟨hJ.1, hJ.2.below, fun m _ hdir hm => hm.of_changedIn (h.dirs hJ.1) hdir hJ.2⟩
  | dir mode =>
    have hdir : t.isDirAt (name :: loc) = true := isDirAt_iff.mpr ⟨mode, he⟩
    unfold nameStops at hpart
    rw [kindOf, visitName]
    cases hskip : sel.skips name with
    | true =>
      obtain rfl : part = [skipNote (join dir name)] := by simpa [hskip] using hpart
      exact (h.lands_note (join dir name) hI).mono fun s' w' hJ => ⟨h.noted hall hJ.1, hJ.2.below,
        fun m _ hdir hm => hm.of_changedIn (h.dirs hJ.1) hdir hJ.2⟩
    | false =>
      obtain rfl : part = below (join dir name) := by simpa [hskip, lookAt, kindOf] using hpart
      exact (henter hdir hskip done rest s w hall hI (hunseen hdir)).mono fun s' w' hJ =>
        ⟨hJ.1, hJ.2.parent, fun m hne _ hm => hm.of_changedBelow hne.symm hJ.2⟩

lemma Visits.passes_names (hloc : locate t .follow dir = .ok loc) (hdir : t.isDirAt loc = true)
    (hreads : Reads t sel path loc) {count : Nat} (hcount : t.arrivals.length ≤ count)
    {enter : String → σ → Session (ForInStep σ)} {below : String → List Stop} {turns : List Turn}
    (hturns : turns ⊆ t.turnsAt loc) (hnodup : (turns.filterMap Turn.there?).Nodup)
    (henter : ∀ name, t.isDirAt (name :: loc) = true → sel.skips name = false →
      Passes t sel path I E (name :: loc) (below (join dir name)) (enter (join dir name)))
    {part : List Stop} (hpart : part = (turns.filterMap Turn.there?).flatMap fun name =>
      nameStops t sel below dir (name, kindOf (t.get? (name :: loc))))
    (hall : stops t sel path = done ++ (part ++ rest)) (hI : I done s w)
    (hunseen : ∀ name ∈ turns.filterMap Turn.there?, t.isDirAt (name :: loc) = true →
      Unseen t (name :: loc) w.tree) :
    Lands (fun s' w' => I (done ++ part) s' w' ∧ ChangedBelow loc w.tree w'.tree) E
      ((visitNames sel visit enter dir (turns.map (givenThen t loc count)) s).run w) := by
  induction turns generalizing done part s w with
  | nil =>
    subst hpart
    exact ⟨by rwa [List.filterMap_nil, List.flatMap_nil, List.append_nil], .refl loc _⟩
  | cons turn turns ih =>
    have hturns' : turns ⊆ t.turnsAt loc := fun turn hmem => hturns (List.mem_cons_of_mem _ hmem)
    cases turn with
    | late name =>
      rw [List.filterMap_cons_none (show Turn.there? (.late name) = none from rfl)] at hnodup hpart hunseen
      rw [List.map_cons, givenThen]
      cases hkind : kindNow? w.tree (.awaited (name :: loc) count) with
      | none =>
        rw [run_visitNames_of_none hkind]
        exact ih hturns' hnodup hpart hall hI hunseen
      | some kind =>
        obtain ⟨rfl, hsome, harrived⟩ := kindNow?_late (h.dirs hI) hcount hkind
        rw [run_visitNames_of_some hkind]
        refine (h.lands_late hp hloc hdir hreads (hturns List.mem_cons_self) hsome harrived enter
          hI).andThen fun s' w' hJ => ?_
        obtain ⟨hI', hin⟩ := hJ
        have hrest := ih hturns' hnodup hpart hall hI' fun m hm hisDir =>
          (hunseen m hm hisDir).of_changedIn (h.dirs hI') hisDir hin
        exact hrest.mono fun s'' w'' hJ => ⟨hJ.1, hin.below.trans hJ.2⟩
    | there name =>
      rw [List.filterMap_cons_some (show Turn.there? (.there name) = some name from rfl)]
        at hnodup hpart hunseen
      obtain ⟨hfresh, hnodup'⟩ := List.nodup_cons.mp hnodup
      subst hpart
      rw [List.flatMap_cons] at hall ⊢
      rw [List.append_assoc] at hall
      have hsome : (t.get? (name :: loc)).isSome = true := Option.isSome_iff_exists.mpr
        (mem_listedAt.mp (List.mem_filterMap.mpr ⟨_, hturns List.mem_cons_self, rfl⟩))
      rw [List.map_cons, givenThen, run_visitNames_of_some rfl]
      refine (h.lands_there hp hloc hsome (henter name) rfl hall hI
        (hunseen name List.mem_cons_self)).andThen fun s' w' hJ => ?_
      obtain ⟨hI', hbelow, hstill⟩ := hJ
      have hrest := ih hturns' hnodup' rfl (by rw [hall, List.append_assoc]) hI' fun m hm hisDir =>
        hstill m (fun heq => hfresh (heq ▸ hm)) hisDir (hunseen m (List.mem_cons_of_mem _ hm) hisDir)
      rw [← List.append_assoc]
      exact hrest.mono fun s'' w'' hJ => ⟨hJ.1, hbelow.trans hJ.2⟩

omit hp in
lemma Visits.lands_error {problem : PathProblem} (hfail : locate t .follow dir = .error problem)
    (hfail' : locate w.tree .follow dir = .error problem) (depth : Nat)
    (hall : stops t sel path = done ++ (pathStops t sel depth dir ++ rest)) (hI : I done s w) :
    ∃ f w', (visitPath sel visit depth dir s).run w = (.error f, w') ∧ E f w' := by
  cases depth with
  | zero => exact ⟨_, w, rfl, h.fault hall hI⟩
  | succ depth =>
    rw [pathStops, if_neg (not_isFile_of_error hfail), listingAt_of_error hfail] at hall
    have hlist := run_listing dir (w.logged .debug ("scanning " ++ Text.quote dir))
    rw [World.logged_tree, readingAt_of_error hfail'] at hlist
    refine ⟨.path problem dir, _, ?_, h.fault (hall.trans (List.append_cons ..))
      (h.noted hall (h.logged hI ("scanning " ++ Text.quote dir)))⟩
    rw [visitPath, run_bind_ok (run_get w), if_neg (not_isFile_of_error hfail'),
      run_bind_ok (run_log _ _ _), run_bind_error hlist]

/-- A walk through a directory that is as at the start. -/
theorem Visits.passes_path (depth : Nat) (hloc : locate t .follow dir = .ok loc)
    (hdir : t.isDirAt loc = true) (hdepth : pathLimit < depth + dir.utf8ByteSize)
    (hreads : Reads t sel path loc) :
    Passes t sel path I E loc (pathStops t sel depth dir) (visitPath sel visit depth dir) := by
  induction depth generalizing dir loc with
  | zero => exact absurd (locate_eq_ok_iff.mp hloc).2.2.2.1 (by omega)
  | succ depth ih =>
    intro done rest s w hall hI hunseen
    have hd := h.dirs hI
    have hloc' : locate w.tree .follow dir = .ok loc := locate_sameDirs hp hd hloc hdir
    have hdir' : w.tree.isDirAt loc = true := by rw [hd.isDirAt_eq, hdir]
    rw [pathStops, if_neg (not_isFile_of_dir hloc hdir), listingAt_of_locate hloc hdir] at hall ⊢
    dsimp only at hall ⊢
    rw [List.flatMap_map] at hall ⊢
    rw [visitPath, run_bind_ok (run_get w), if_neg (not_isFile_of_dir hloc' hdir'),
      run_bind_ok (run_log _ _ _)]
    generalize hv : w.logged .debug ("scanning " ++ Text.quote dir) = v
    have htree : v.tree = w.tree := by rw [← hv, World.logged_tree]
    have hIv := h.noted hall (hv ▸ h.logged hI _)
    have hlisting := run_listing dir v
    rw [htree, readingAt_of_unseen hp hd hloc hdir hunseen] at hlisting
    rw [run_bind_ok hlisting]
    have hcount : t.arrivals.length ≤ w.tree.arrivals.length := by
      obtain ⟨new, heq, -⟩ := hd.arrived
      rw [heq, List.length_append]
      omega
    have henter : ∀ name, t.isDirAt (name :: loc) = true → sel.skips name = false →
        Passes t sel path I E (name :: loc) (pathStops t sel depth (join dir name))
          (visitPath sel visit depth (join dir name)) := by
      intro name hisDir hskip
      have hsome := isSome_of_isDirAt hisDir
      have hname := isName_of_isSome hp hsome
      by_cases hlong : pathLimit ≤ (join dir name).utf8ByteSize
      · intro done' rest' s' w' hall' hI' _
        have hstart := locate_sameDirs hp (h.dirs hI') hloc hdir
        obtain ⟨f, w'', hrun, hE⟩ := h.lands_error (locate_join_long hloc hname hlong)
          (locate_join_long hstart hname hlong) depth hall' hI'
        rw [hrun]
        exact hE
      · have hsize := join_size dir hname
        exact ih (locate_join hp hloc hsome (Nat.lt_of_not_le hlong)) hisDir (by omega)
          (hreads.below hskip hisDir)
    have hpass := h.passes_names hp hloc hdir hreads hcount (fun _ hmem => hmem)
      (hp.nodup_listedAt loc) henter rfl (hall.trans (List.append_cons ..)) hIv
      fun name _ _ below => by rw [htree, ← List.singleton_append, ← List.append_assoc]; exact hunseen _
    rw [List.append_cons]
    exact hpass.mono fun s' w' hJ => ⟨hJ.1, htree ▸ hJ.2⟩

end

/-- A walk comes to the stops of the first tree in their order, or a fault ends it. -/
theorem Visits.fold_lands {I : List Stop → σ → World → Prop} {E : Fault → World → Prop} {init : σ}
    (h : Visits w.tree sel path visit I E) (hp : w.tree.Plain) (hI : I [] init w) :
    (∃ s w', (fold sel (.text path) init visit).run w = (.ok s, w') ∧ I (stops w.tree sel path) s w') ∨
    ∃ f w', (fold sel (.text path) init visit).run w = (.error f, w') ∧ E f w' := by
  have hall : stops w.tree sel path = [] ++ (pathStops w.tree sel (pathLimit + 1) path ++ []) := by
    simp [stops]
  have hland : Lands (I (stops w.tree sel path)) E
      ((visitPath sel visit (pathLimit + 1) path init).run w) := by
    cases hloc : locate w.tree .follow path with
    | error problem =>
      obtain ⟨f, w', hrun, hE⟩ := h.lands_error hloc hloc (pathLimit + 1) hall hI
      rw [hrun]
      exact hE
    | ok loc =>
      by_cases hdir : w.tree.isDirAt loc = true
      · have hreads : Reads w.tree sel path loc :=
          ⟨loc, [], hloc, ⟨hdir, fun _ hmem => absurd hmem List.not_mem_nil⟩, rfl⟩
        exact (h.passes_path hp (pathLimit + 1) hloc hdir (by omega) hreads [] [] init w hall hI
          fun _ => rfl).mono fun s' w' hJ => hJ.1
      · have hfile : w.tree.isFile path = true := by
          obtain ⟨e, he⟩ := Option.isSome_iff_exists.mp (locate_isSome hp hloc)
          cases e with
          | file data mode => exact isFile_iff.mpr ⟨loc, data, mode, hloc, he⟩
          | dir mode => exact absurd (isDirAt_iff.mpr ⟨mode, he⟩) hdir
          | link target => exact absurd he (hp.noLinks _ _)
        have hstops : stops w.tree sel path = [if sel.skips (baseName path) then skipNote path
            else sourceStop sel (Source.ofPath path)] := by
          rw [stops, pathStops, if_pos hfile]
        rw [run_visitPath_of_isFile hfile]
        rcases fileStop_cases sel (Source.ofPath path) with hstop | ⟨-, -, hstop⟩ <;>
          have hone := hstops.trans (congrArg (fun stop => [stop]) hstop) <;>
          rw [← hstops, hone]
        · exact h.noted hone (h.logged hI _)
        · rw [run_replay_source]
          exact (h.next hone hI).andThen fun s' w' hJ => hJ.1
  have hstart : (start (.text path)).run w = (.ok path, w) := rfl
  rw [fold, run_bind_ok hstart, run_bind]
  rcases hrun : (visitPath sel visit (pathLimit + 1) path init).run w with ⟨r, w'⟩
  rw [hrun] at hland
  rcases r with f | s | s
  · exact .inr ⟨f, w', rfl, hland⟩
  · exact False.elim hland
  · exact .inl ⟨s, w', rfl, hland⟩

/-- A source of the first tree that can be read when the tree has grown. -/
lemma source_of_read (hp : t.Plain) (hd : t.SameDirs t') {src : Source}
    (hsrc : src ∈ sources (stops t sel path)) {data' : Bytes} (hread : t'.read src.path = .ok data') :
    src.knownMode = none ∧ ∃ name dir data mode mode', locate t .follow src.path = .ok (name :: dir) ∧
      t.get? (name :: dir) = some (.file data mode) ∧ LeadsTo t' src.path name dir ∧
      t'.get? (name :: dir) = some (.file data' mode') := by
  obtain ⟨root, hroot⟩ := locate_of_mem_sources hsrc
  obtain ⟨rel, -, hoffers, rfl⟩ :=
    (surveys_stops hp hroot (locate_isSome hp hroot)).offered src hsrc
  refine ⟨rfl, ?_⟩
  obtain ⟨loc', mode', hloc', hfile'⟩ := read_eq_ok_iff.mp hread
  have hshort := (locate_eq_ok_iff.mp hloc').2.2.2.1
  have hloc := locate_pathTo hp hroot rel hoffers.isSome hshort
  obtain ⟨data, mode, hfile⟩ := hoffers.isFile
  obtain ⟨name, dir, heq, hleads⟩ := leadsTo_of_file hp hloc hfile
  rw [heq] at hloc hfile
  have hleads' := hleads.sameDirs hp hd (hp.inDir hfile)
  obtain rfl := hleads'.eq_of_locate hd.plain (hp.isName hfile) hloc'
  exact ⟨name, dir, data, mode, mode', hloc, hfile, hleads', hfile'⟩

end SourceTidy.SourceWalk
