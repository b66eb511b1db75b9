import SourceTidy.Proofs.PlainPath
import SourceTidy.Proofs.Walk

/-!
# Walks through plain trees

In a plain tree the sources that a walk offers to its visitor are named by the components of their
paths below its start. The walk meets each of them once, in an order that the reading of the
directories makes.
-/

namespace SourceTidy.SourceWalk

open SourceTidy.Path FileTree

variable {data : Bytes} {rel : List String} {mode : Nat} {problem : PathProblem}

variable {t t' : FileTree}

lemma kindOf_shape (e : Option Entry) : kindOf (e.map Entry.shape) = kindOf e := by
  cases e with
  | none => rfl
  | some e => cases e <;> rfl

lemma isFile_iff {path : String} : t.isFile path = true ↔
    ∃ loc data mode, locate t .follow path = .ok loc ∧ t.get? loc = some (.file data mode) := by
  unfold isFile entry
  cases hl : locate t .follow path with
  | error problem => simp [bind, Except.bind]
  | ok loc =>
    cases he : t.get? loc with
    | none => simp [bind, Except.bind, he]
    | some e => cases e <;> simp [bind, Except.bind, he]

lemma stops_file {sel : Selection} {path : String} {loc : Location}
    (hloc : locate t .follow path = .ok loc) (hfile : t.get? loc = some (.file data mode))
    (hskip : sel.skips (baseName path) = false) (hwant : sel.wants (baseName path) = true) :
    stops t sel path = [.source (.ofPath path)] := by
  have hwant' : sel.wants (Source.ofPath path).name = true := hwant
  rw [stops, pathStops, if_pos (isFile_iff.mpr ⟨loc, data, mode, hloc, hfile⟩), hskip,
    if_neg Bool.false_ne_true, sourceStop, if_pos hwant']

lemma readingAt_of_locate {path : String} {loc : Location}
    (h : locate t .follow path = .ok loc) (hdir : t.isDirAt loc = true) :
    readingAt t path = .ok ((t.turnsAt loc).map (givenAt t loc)) := by
  unfold readingAt
  rw [h]
  simp [bind, Except.bind, hdir]

lemma filterMap_known?_givenAt (t : FileTree) (loc : Location) (turns : List Turn) :
    (turns.map (givenAt t loc)).filterMap known? =
      (turns.filterMap Turn.there?).map fun name => (name, kindOf (t.get? (name :: loc))) := by
  rw [List.filterMap_map, List.map_filterMap]
  refine List.filterMap_congr fun turn _ => ?_
  cases turn <;> rfl

lemma listingAt_of_locate {path : String} {loc : Location}
    (h : locate t .follow path = .ok loc) (hdir : t.isDirAt loc = true) :
    listingAt t path = .ok ((t.listedAt loc).map fun name => (name, kindOf (t.get? (name :: loc)))) := by
  rw [listingAt, readingAt_of_locate h hdir]
  exact congrArg Except.ok (filterMap_known?_givenAt t loc (t.turnsAt loc))

lemma listingAt_eq_ok {path : String} {names : List (String × NameKind)}
    (h : listingAt t path = .ok names) : ∃ loc, locate t .follow path = .ok loc ∧ t.isDirAt loc = true ∧
      names = (t.listedAt loc).map fun name => (name, kindOf (t.get? (name :: loc))) := by
  cases hloc : locate t .follow path with
  | error problem => simp [listingAt, readingAt, hloc, bind, Except.bind, Except.map] at h
  | ok loc =>
    by_cases hdir : t.isDirAt loc = true
    · rw [listingAt_of_locate hloc hdir] at h
      exact ⟨loc, rfl, hdir, (Except.ok.inj h).symm⟩
    · simp [listingAt, readingAt, hloc, hdir, bind, Except.bind, Except.map] at h

lemma readingAt_of_error {path : String} (h : locate t .follow path = .error problem) :
    readingAt t path = .error problem := by
  unfold readingAt
  rw [h]
  rfl

lemma listingAt_of_error {path : String} (h : locate t .follow path = .error problem) :
    listingAt t path = .error problem := by
  rw [listingAt, readingAt_of_error h]
  rfl

lemma not_isFile_of_error {path : String} (h : locate t .follow path = .error problem) :
    ¬t.isFile path = true := by
  rw [isFile_iff]
  rintro ⟨loc, data, mode, hloc, -⟩
  rw [h] at hloc
  cases hloc

lemma not_isFile_of_dir {path : String} {loc : Location} (hloc : locate t .follow path = .ok loc)
    (hdir : t.isDirAt loc = true) : ¬t.isFile path = true := by
  intro hfile
  obtain ⟨loc', data, mode, hloc', hf⟩ := isFile_iff.mp hfile
  rw [hloc] at hloc'
  cases hloc'
  exact not_isDirAt_of_file hf hdir

/-- A walk sees nothing of the content and the permission bits of files. -/
theorem sameView (hp : t.Plain) (h : t.SameShape t') : SameView t t' := by
  have hloc : ∀ path, locate t' .follow path = locate t .follow path :=
    locate_sameShape hp h .follow
  have hkind : ∀ loc, kindOf (t'.get? loc) = kindOf (t.get? loc) := fun loc => by
    rw [← kindOf_shape, h.shapes, kindOf_shape]
  refine ⟨fun path => ?_, fun path => ?_, h.arrivals, fun path names hl p hmem => ?_⟩
  · rw [Bool.eq_iff_iff, isFile_iff, isFile_iff]
    simp only [hloc]
    constructor
    · rintro ⟨loc, data, mode, hl, hf⟩
      obtain ⟨data', mode', hf'⟩ := (h.file_iff loc).mp ⟨data, mode, hf⟩
      exact ⟨loc, data', mode', hl, hf'⟩
    · rintro ⟨loc, data, mode, hl, hf⟩
      obtain ⟨data', mode', hf'⟩ := (h.file_iff loc).mpr ⟨data, mode, hf⟩
      exact ⟨loc, data', mode', hl, hf'⟩
  · have hgiven : ∀ loc, givenAt t' loc = givenAt t loc := by
      intro loc
      funext turn
      cases turn with
      | there name => rw [givenAt, givenAt, hkind]
      | late name => rw [givenAt, givenAt, h.arrivals]
    unfold readingAt
    simp only [hloc, h.isDirAt_eq, h.turnsAt_eq, hgiven]
  · have hlink : p.2 ≠ .link := by
      obtain ⟨loc, -, -, rfl⟩ := listingAt_eq_ok hl
      obtain ⟨name, -, rfl⟩ := List.mem_map.mp hmem
      cases he : t.get? (name :: loc) with
      | none => exact NameKind.noConfusion
      | some e =>
        cases e with
        | file data mode => exact NameKind.noConfusion
        | dir mode => exact NameKind.noConfusion
        | link target => exact absurd he (hp.noLinks _ _)
    obtain ⟨name, kind⟩ := p
    cases kind with
    | dir => rfl
    | file => rfl
    | link => exact absurd rfl hlink

def pathTo (path : String) (rel : List String) : String := rel.foldl join path

@[simp] lemma pathTo_cons (path name : String) (rel : List String) :
    pathTo path (name :: rel) = pathTo (join path name) rel := rfl

lemma below_cons (name : String) (rel : List String) (loc : Location) :
    (name :: rel).reverse ++ loc = rel.reverse ++ name :: loc := by
  simp

lemma isSome_of_below (hp : t.Plain) {loc : Location} (rel : List String)
    (h : (t.get? (rel.reverse ++ loc)).isSome = true) : (t.get? loc).isSome = true := by
  induction rel generalizing loc with
  | nil => exact h
  | cons name rel ih =>
    rw [below_cons] at h
    obtain ⟨e, he⟩ := Option.isSome_iff_exists.mp (ih h)
    exact isSome_of_isDirAt (hp.inDir he)

lemma isSome_head_of_below (hp : t.Plain) {loc : Location} {name : String}
    (h : (t.get? ((name :: rel).reverse ++ loc)).isSome = true) : (t.get? (name :: loc)).isSome = true := by
  rw [below_cons] at h
  exact isSome_of_below hp rel h

lemma isName_of_isSome (hp : t.Plain) {loc : Location} {name : String}
    (h : (t.get? (name :: loc)).isSome = true) : IsName name := by
  obtain ⟨e, he⟩ := Option.isSome_iff_exists.mp h
  exact hp.isName he

lemma size_le_pathTo (hp : t.Plain) {loc : Location} (path : String) (rel : List String)
    (h : (t.get? (rel.reverse ++ loc)).isSome = true) :
    path.utf8ByteSize ≤ (pathTo path rel).utf8ByteSize := by
  induction rel generalizing path loc with
  | nil => exact Nat.le_refl _
  | cons name rel ih =>
    have hsize := join_size path (isName_of_isSome hp (isSome_head_of_below hp h))
    rw [below_cons] at h
    have hrest := ih (join path name) h
    rw [pathTo_cons]
    omega

lemma locate_pathTo (hp : t.Plain) {path : String} {loc : Location}
    (hloc : locate t .follow path = .ok loc) (rel : List String)
    (h : (t.get? (rel.reverse ++ loc)).isSome = true) (hshort : (pathTo path rel).utf8ByteSize < pathLimit) :
    locate t .follow (pathTo path rel) = .ok (rel.reverse ++ loc) := by
  induction rel generalizing path loc with
  | nil => exact hloc
  | cons name rel ih =>
    have hname := isSome_head_of_below hp h
    rw [below_cons] at h ⊢
    have hle := size_le_pathTo hp (join path name) rel h
    exact ih (locate_join hp hloc hname (Nat.lt_of_le_of_lt hle hshort)) h hshort

lemma locate_pathTo_long (hp : t.Plain) {path : String} {loc : Location}
    (hloc : locate t .follow path = .ok loc) (rel : List String)
    (h : (t.get? (rel.reverse ++ loc)).isSome = true) (hlong : pathLimit ≤ (pathTo path rel).utf8ByteSize) :
    locate t .follow (pathTo path rel) = .error .nameTooLong := by
  obtain ⟨hnull, hne, habs, -, -⟩ := locate_eq_ok_iff.mp hloc
  suffices hform : '\x00' ∉ (pathTo path rel).toList ∧ pathTo path rel ≠ "" ∧
      isAbsolute (pathTo path rel) = false from
    locate_eq_nameTooLong hform.1 hform.2.1 hform.2.2 hlong
  clear hloc hlong
  induction rel generalizing path loc with
  | nil => exact ⟨hnull, hne, habs⟩
  | cons name rel ih =>
    have hname := isName_of_isSome hp (isSome_head_of_below hp h)
    rw [below_cons] at h
    exact ih h (null_notMem_join hnull hname) (join_ne_empty hname)
      (isAbsolute_join hne habs)

lemma eq_nil_of_file (hp : t.Plain) {loc : Location} (hf : t.get? loc = some (.file data mode))
    (h : (t.get? (rel.reverse ++ loc)).isSome = true) : rel = [] := by
  cases rel with
  | nil => rfl
  | cons name rel =>
    obtain ⟨e, he⟩ := Option.isSome_iff_exists.mp (isSome_head_of_below hp h)
    exact absurd (hp.inDir he) (not_isDirAt_of_file hf)

def sourceAt (path : String) (rel : List String) : Source where
  name := rel.getLastD (baseName path)
  path := pathTo path rel

/-- The names that are tested on the way to a source: those below the path, or the base name of a
path that leads to the source itself. -/
def tested (path : String) (rel : List String) : List String :=
  if rel = [] then [baseName path] else rel

/-- A file that a walk from a path offers to its visitor: none of the names on the way is skipped,
and the last one is wanted. -/
structure Offers (t : FileTree) (sel : Selection) (path : String) (loc : Location)
    (rel : List String) : Prop where
  isFile : ∃ data mode, t.get? (rel.reverse ++ loc) = some (.file data mode)
  notSkipped : ∀ name ∈ tested path rel, sel.skips name = false
  wanted : sel.wants (rel.getLastD (baseName path)) = true

/-- A directory that a walk enters. -/
structure Enters (t : FileTree) (sel : Selection) (loc : Location) (rel : List String) : Prop where
  isDir : t.isDirAt (rel.reverse ++ loc) = true
  notSkipped : ∀ name ∈ rel, sel.skips name = false

def TooLong (path : String) (rel : List String) : Prop :=
  pathLimit ≤ (pathTo path rel).utf8ByteSize

lemma tooLong_singleton {path name : String} (hsize : pathLimit ≤ path.utf8ByteSize + 1)
    (hname : IsName name) : TooLong path [name] :=
  Nat.le_trans hsize (join_size path hname)

variable {sel : Selection} {path : String} {loc : Location}

lemma Offers.isSome (h : Offers t sel path loc rel) : (t.get? (rel.reverse ++ loc)).isSome = true := by
  obtain ⟨data, mode, hf⟩ := h.isFile
  rw [hf]
  rfl

lemma Enters.isSome (h : Enters t sel loc rel) : (t.get? (rel.reverse ++ loc)).isSome = true :=
  isSome_of_isDirAt h.isDir

lemma not_enters_of_file (hp : t.Plain)
    (hf : t.get? loc = some (.file data mode)) (rel : List String) : ¬Enters t sel loc rel := by
  intro henter
  obtain rfl := eq_nil_of_file hp hf henter.isSome
  exact not_isDirAt_of_file hf henter.isDir

lemma baseName_join (dir : String) {name : String} (h : IsName name) : baseName (join dir name) = name := by
  have hpos : ∀ c ∈ name.toList.reverse, (c != '/') = true := by
    intro c hc
    rw [bne_iff_ne]
    rintro rfl
    exact h.noSlash (List.mem_reverse.mp hc)
  have hself : name.toList.reverse.takeWhile (· != '/') = name.toList.reverse := by
    have happ : (name.toList.reverse ++ []).takeWhile (· != '/') =
        name.toList.reverse ++ [].takeWhile (· != '/') := List.takeWhile_append_of_pos hpos
    simpa using happ
  have hstop : ∀ s : Text, ((s ++ '/' :: name.toList).reverse.takeWhile (· != '/')).reverse =
      name.toList := by
    intro s
    rw [List.reverse_append, List.reverse_cons, List.append_assoc, List.takeWhile_append_of_pos hpos]
    simp
  unfold baseName
  rcases join_cases dir name with ⟨-, hj⟩ | ⟨s, -, hj⟩ | hj
  · rw [hj, hself, List.reverse_reverse, String.ofList_toList]
  · rw [hj, hstop, String.ofList_toList]
  · rw [hj, hstop, String.ofList_toList]

lemma offers_cons {name : String} (hname : IsName name) :
    Offers t sel path loc (name :: rel) ↔
      sel.skips name = false ∧ Offers t sel (join path name) (name :: loc) rel := by
  have hlast : (name :: rel).getLastD (baseName path) =
      rel.getLastD (baseName (join path name)) := by
    rw [baseName_join path hname]
    cases rel <;> rfl
  have htested : (∀ x ∈ tested path (name :: rel), sel.skips x = false) ↔
      sel.skips name = false ∧ ∀ x ∈ tested (join path name) rel, sel.skips x = false := by
    cases rel with
    | nil => simp [tested, baseName_join path hname]
    | cons next rel => simp [tested]
  constructor
  · rintro ⟨hf, hs, hw⟩
    rw [below_cons] at hf
    rw [hlast] at hw
    obtain ⟨hskip, hrest⟩ := htested.mp hs
    exact ⟨hskip, hf, hrest, hw⟩
  · rintro ⟨hskip, hf, hs, hw⟩
    exact ⟨by rwa [below_cons], htested.mpr ⟨hskip, hs⟩, by rwa [hlast]⟩

lemma enters_cons {name : String} :
    Enters t sel loc (name :: rel) ↔ sel.skips name = false ∧ Enters t sel (name :: loc) rel := by
  constructor
  · rintro ⟨hd, hs⟩
    rw [below_cons] at hd
    exact ⟨hs name List.mem_cons_self, hd, fun x hx => hs x (List.mem_cons_of_mem _ hx)⟩
  · rintro ⟨hskip, hd, hs⟩
    refine ⟨by rwa [below_cons], fun x hx => ?_⟩
    rcases List.mem_cons.mp hx with rfl | hx
    · exact hskip
    · exact hs x hx

lemma sourceAt_cons {name : String} (hname : IsName name) :
    sourceAt path (name :: rel) = sourceAt (join path name) rel := by
  simp only [sourceAt, pathTo_cons, baseName_join path hname]
  cases rel <;> rfl

/-- Of two ways down from a directory, a walk takes the first before the second: where they part, the
directory gives the name on the first before the name on the second. -/
def Before (t : FileTree) : Location → List String → List String → Prop
  | loc, name :: rel, name' :: rel' =>
    [name, name'].Sublist (t.listedAt loc) ∨ name = name' ∧ Before t (name :: loc) rel rel'
  | _, _, _ => False

lemma Before.irrefl (hp : t.Plain) : ¬Before t loc rel rel := by
  induction rel generalizing loc with
  | nil => exact id
  | cons name rel ih =>
    rintro (hsub | ⟨-, h⟩)
    · simpa using (hp.nodup_listedAt loc).sublist hsub
    · exact ih h

lemma Before.lt (hp : t.Plain) (hsorted : t.lister = .sorted) {rel' : List String}
    (h : Before t loc rel rel') : rel < rel' := by
  induction rel generalizing loc rel' with
  | nil => exact h.elim
  | cons name rel ih =>
    cases rel' with
    | nil => exact h.elim
    | cons name' rel' =>
      rcases h with hsub | ⟨rfl, h⟩
      · rw [listedAt_sorted hsorted] at hsub
        exact List.cons_lt_cons_iff.mpr (.inl (by simpa using (hp.sorted_namesAt loc).sublist hsub))
      · exact List.cons_lt_cons_iff.mpr (.inr ⟨rfl, ih h⟩)

/-- Stops tell what a walk from a path meets in a part of the tree: they hold a fault exactly if a
directory there has too long a path, and sources in their order, which are all if there is no fault. -/
structure Surveys (t : FileTree) (sel : Selection) (path : String) (loc : Location)
    (part : List String → Prop) (stops : List Stop) : Prop where
  fault : ∀ f, .fault f ∈ stops → ∃ rel, part rel ∧ Enters t sel loc rel ∧ TooLong path rel ∧
    f = .path .nameTooLong (pathTo path rel)
  tooLong : ∀ rel, part rel → Enters t sel loc rel → TooLong path rel → ∃ f, .fault f ∈ stops
  ordered : ∃ rels : List (List String), rels.Pairwise (Before t loc) ∧
    (∀ rel ∈ rels, part rel ∧ Offers t sel path loc rel) ∧
    ((∀ f, .fault f ∉ stops) → ∀ rel, part rel → Offers t sel path loc rel → rel ∈ rels) ∧
    sources stops = rels.map (sourceAt path)

namespace Surveys

variable {part part' : List String → Prop} {stops stops' : List Stop} {name : String}

lemma offered (h : Surveys t sel path loc part stops) :
    ∀ src ∈ sources stops, ∃ rel, part rel ∧ Offers t sel path loc rel ∧ src = sourceAt path rel := by
  obtain ⟨rels, -, hoff, -, hsrc⟩ := h.ordered
  intro src hmem
  rw [hsrc] at hmem
  obtain ⟨rel, hrel, rfl⟩ := List.mem_map.mp hmem
  exact ⟨rel, (hoff rel hrel).1, (hoff rel hrel).2, rfl⟩

lemma sources (h : Surveys t sel path loc part stops) (hclean : ∀ f, .fault f ∉ stops) :
    ∃ rels : List (List String), rels.Pairwise (Before t loc) ∧
      (∀ rel, rel ∈ rels ↔ part rel ∧ Offers t sel path loc rel) ∧
      sources stops = rels.map (sourceAt path) := by
  obtain ⟨rels, hsort, hoff, hall, hsrc⟩ := h.ordered
  exact ⟨rels, hsort, fun rel => ⟨hoff rel, fun hrel => hall hclean rel hrel.1 hrel.2⟩, hsrc⟩

lemma append (h : Surveys t sel path loc part stops) (h' : Surveys t sel path loc part' stops')
    (hbefore : ∀ a b, part a → part' b → Before t loc a b) :
    Surveys t sel path loc (fun rel => part rel ∨ part' rel) (stops ++ stops') where
  fault f hf := by
    rcases List.mem_append.mp hf with hf | hf
    · obtain ⟨rel, hpart, hrel⟩ := h.fault f hf
      exact ⟨rel, .inl hpart, hrel⟩
    · obtain ⟨rel, hpart, hrel⟩ := h'.fault f hf
      exact ⟨rel, .inr hpart, hrel⟩
  tooLong rel hpart henter hlong := by
    rcases hpart with hpart | hpart
    · obtain ⟨f, hf⟩ := h.tooLong rel hpart henter hlong
      exact ⟨f, List.mem_append_left _ hf⟩
    · obtain ⟨f, hf⟩ := h'.tooLong rel hpart henter hlong
      exact ⟨f, List.mem_append_right _ hf⟩
  ordered := by
    obtain ⟨rels, hsort, hoff, hall, hsrc⟩ := h.ordered
    obtain ⟨rels', hsort', hoff', hall', hsrc'⟩ := h'.ordered
    refine ⟨rels ++ rels', List.pairwise_append.mpr ⟨hsort, hsort', ?_⟩, ?_, ?_, ?_⟩
    · intro a ha b hb
      exact hbefore a b (hoff a ha).1 (hoff' b hb).1
    · exact List.forall_mem_append.mpr ⟨fun rel hrel => ⟨.inl (hoff rel hrel).1, (hoff rel hrel).2⟩,
        fun rel hrel => ⟨.inr (hoff' rel hrel).1, (hoff' rel hrel).2⟩⟩
    · rintro hclean rel (hpart | hpart) hrel
      · exact List.mem_append_left _
          (hall (fun f hf => hclean f (List.mem_append_left _ hf)) rel hpart hrel)
      · exact List.mem_append_right _
          (hall' (fun f hf => hclean f (List.mem_append_right _ hf)) rel hpart hrel)
    · rw [sources_append, hsrc, hsrc', List.map_append]

lemma extend (h : Surveys t sel path loc part stops) (hsub : ∀ rel, part rel → part' rel)
    (hmet : ∀ rel, part' rel → (Enters t sel loc rel ∧ TooLong path rel) ∨ Offers t sel path loc rel →
      part rel) : Surveys t sel path loc part' stops where
  fault f hf := by
    obtain ⟨rel, hpart, hrel⟩ := h.fault f hf
    exact ⟨rel, hsub rel hpart, hrel⟩
  tooLong rel hpart henter hlong := h.tooLong rel (hmet rel hpart (.inl ⟨henter, hlong⟩)) henter hlong
  ordered := by
    obtain ⟨rels, hsort, hoff, hall, hsrc⟩ := h.ordered
    exact ⟨rels, hsort, fun rel hrel => ⟨hsub rel (hoff rel hrel).1, (hoff rel hrel).2⟩,
      fun hclean rel hpart hrel => hall hclean rel (hmet rel hpart (.inr hrel)) hrel, hsrc⟩

lemma below (hname : IsName name) (hskip : sel.skips name = false)
    (h : Surveys t sel (join path name) (name :: loc) (fun _ => True) stops) :
    Surveys t sel path loc (·.head? = some name) stops where
  fault f hf := by
    obtain ⟨rel, -, henter, hlong, hrel⟩ := h.fault f hf
    exact ⟨name :: rel, rfl, enters_cons.mpr ⟨hskip, henter⟩, hlong, hrel⟩
  tooLong rel hpart henter hlong := by
    obtain ⟨rel, rfl⟩ := List.head?_eq_some_iff.mp hpart
    exact h.tooLong rel trivial (enters_cons.mp henter).2 hlong
  ordered := by
    obtain ⟨rels, hsort, hoff, hall, hsrc⟩ := h.ordered
    refine ⟨rels.map (name :: ·), ?_, ?_, ?_, ?_⟩
    · exact List.pairwise_map.mpr (hsort.imp fun hab => .inr ⟨rfl, hab⟩)
    · exact List.forall_mem_map.mpr fun rel hrel =>
        ⟨rfl, (offers_cons hname).mpr ⟨hskip, (hoff rel hrel).2⟩⟩
    · intro hclean rel hhead hrel
      obtain ⟨rel, rfl⟩ := List.head?_eq_some_iff.mp hhead
      exact List.mem_map_of_mem (hall hclean rel trivial ((offers_cons hname).mp hrel).2)
    · rw [hsrc, List.map_map]
      exact List.map_congr_left fun rel _ => (sourceAt_cons hname).symm

lemma note_cons (h : Surveys t sel path loc part stops) (message : String) :
    Surveys t sel path loc part (.note message :: stops) where
  fault f hf := h.fault f (by simpa using hf)
  tooLong rel hpart henter hlong := by simpa using h.tooLong rel hpart henter hlong
  ordered := by
    obtain ⟨rels, hsort, hoff, hall, hsrc⟩ := h.ordered
    exact ⟨rels, hsort, hoff, fun hclean => hall fun f hf => hclean f (List.mem_cons_of_mem _ hf), hsrc⟩

lemma nil (hnone : ∀ rel, part rel → ¬Enters t sel loc rel ∧ ¬Offers t sel path loc rel) :
    Surveys t sel path loc part [] where
  fault _ hf := absurd hf List.not_mem_nil
  tooLong rel hpart henter _ := absurd henter (hnone rel hpart).1
  ordered := ⟨[], List.Pairwise.nil, fun _ hrel => absurd hrel List.not_mem_nil,
    fun _ rel hpart hrel => absurd hrel (hnone rel hpart).2, rfl⟩

lemma long (hdir : t.isDirAt loc = true) (hlong : pathLimit ≤ path.utf8ByteSize) :
    Surveys t sel path loc (fun _ => True) [.fault (.path .nameTooLong path)] where
  fault f hf := by
    have he : f = .path .nameTooLong path := by simpa using hf
    exact ⟨[], trivial, ⟨hdir, by simp⟩, hlong, he⟩
  tooLong _ _ _ _ := ⟨_, List.mem_cons_self⟩
  ordered := ⟨[], List.Pairwise.nil, fun _ hrel => absurd hrel List.not_mem_nil,
    fun hclean => absurd List.mem_cons_self (hclean _), rfl⟩

lemma file (hp : t.Plain) (hf : t.get? loc = some (.file data mode))
    (hskip : sel.skips (baseName path) = false) :
    Surveys t sel path loc (fun _ => True) [sourceStop sel (Source.ofPath path)] := by
  have henter : ∀ rel, ¬Enters t sel loc rel := not_enters_of_file hp hf
  have hoffers : ∀ rel, Offers t sel path loc rel ↔
      rel = [] ∧ sel.wants (baseName path) = true := by
    intro rel
    constructor
    · intro hoff
      obtain rfl := eq_nil_of_file hp hf hoff.isSome
      exact ⟨rfl, hoff.wanted⟩
    · rintro ⟨rfl, hw⟩
      exact ⟨⟨data, mode, hf⟩, by simpa [tested] using hskip, hw⟩
  unfold sourceStop
  split
  · next hw =>
    refine ⟨fun f hf => by simp at hf, fun rel _ he _ => absurd he (henter rel), [[]],
      List.pairwise_singleton _ _, fun rel hrel => ?_, fun _ rel _ hrel => ?_, rfl⟩
    · exact ⟨trivial, (hoffers rel).mpr ⟨List.mem_singleton.mp hrel, hw⟩⟩
    · exact List.mem_singleton.mpr ((hoffers rel).mp hrel).1
  · next hw =>
    exact note_cons (nil fun rel _ => ⟨henter rel, fun ho => hw ((hoffers rel).mp ho).2⟩) _

end Surveys

lemma surveys_name (hp : t.Plain) {enter : String → List Stop} {name : String}
    (hsome : (t.get? (name :: loc)).isSome = true)
    (henter : t.isDirAt (name :: loc) = true →
      Surveys t sel (join path name) (name :: loc) (fun _ => True) (enter (join path name))) :
    Surveys t sel path loc (·.head? = some name)
      (nameStops t sel enter path (name, kindOf (t.get? (name :: loc)))) := by
  have hname := isName_of_isSome hp hsome
  unfold nameStops
  by_cases hskip : sel.skips name = true
  · rw [if_pos hskip]
    refine Surveys.note_cons (Surveys.nil fun rel hrel => ?_) _
    obtain ⟨rel, rfl⟩ := List.head?_eq_some_iff.mp hrel
    refine ⟨fun h => ?_, fun h => ?_⟩
    · exact absurd (enters_cons.mp h).1 (by simp [hskip])
    · exact absurd ((offers_cons hname).mp h).1 (by simp [hskip])
  · rw [if_neg hskip]
    have hskip' : sel.skips name = false := by simpa using hskip
    obtain ⟨e, he⟩ := Option.isSome_iff_exists.mp hsome
    rw [he]
    cases e with
    | dir mode => exact (henter (isDirAt_iff.mpr ⟨mode, he⟩)).below hname hskip'
    | link target => exact absurd he (hp.noLinks _ _)
    | file data mode =>
      have hsrc : ({ name, path := join path name, knownMode := none } : Source) =
          Source.ofPath (join path name) := by
        rw [Source.ofPath, baseName_join path hname]
      have hfile : Surveys t sel (join path name) (name :: loc) (fun _ => True)
          [sourceStop sel (Source.ofPath (join path name))] :=
        Surveys.file hp he (by rwa [baseName_join path hname])
      exact (hsrc ▸ hfile).below hname hskip'

lemma surveys_names (hp : t.Plain) {enter : String → List Stop} {names : List String}
    (hlisted : names.Sublist (t.listedAt loc)) (hsome : ∀ name ∈ names, (t.get? (name :: loc)).isSome = true)
    (henter : ∀ name, t.isDirAt (name :: loc) = true →
      Surveys t sel (join path name) (name :: loc) (fun _ => True) (enter (join path name))) :
    Surveys t sel path loc (fun rel => ∃ name ∈ names, rel.head? = some name)
      ((names.map fun name => (name, kindOf (t.get? (name :: loc)))).flatMap
        (nameStops t sel enter path)) := by
  induction names with
  | nil => exact Surveys.nil (by simp)
  | cons name names ih =>
    have hfirst := surveys_name hp (hsome name List.mem_cons_self) (henter name)
    have hrest := ih (List.sublist_of_cons_sublist hlisted) fun n hn => hsome n (List.mem_cons_of_mem _ hn)
    have hbefore : ∀ a b : List String, a.head? = some name →
        (∃ n ∈ names, b.head? = some n) → Before t loc a b := by
      rintro a b ha ⟨n, hn, hb⟩
      obtain ⟨a, rfl⟩ := List.head?_eq_some_iff.mp ha
      obtain ⟨b, rfl⟩ := List.head?_eq_some_iff.mp hb
      exact .inl (((List.singleton_sublist.mpr hn).cons_cons name).trans hlisted)
    rw [List.map_cons, List.flatMap_cons]
    exact (hfirst.append hrest hbefore).extend (by simp) fun rel hrel _ => by simpa using hrel

lemma surveys_long (hdir : t.isDirAt loc = true) (hlong : pathLimit ≤ path.utf8ByteSize)
    (hfail : locate t .follow path = .error .nameTooLong) (depth : Nat) :
    Surveys t sel path loc (fun _ => True) (pathStops t sel depth path) := by
  cases depth with
  | zero => exact Surveys.long hdir hlong
  | succ depth =>
    rw [pathStops, if_neg (not_isFile_of_error hfail), listingAt_of_error hfail]
    exact (Surveys.long hdir hlong).note_cons _

/-- A walk meets what there is at and below its path. The number of directories that it may enter is
no limit of its own, since every directory makes the path longer. -/
theorem surveys_pathStops (hp : t.Plain) (depth : Nat) (hloc : locate t .follow path = .ok loc)
    (hdir : t.isDirAt loc = true) (hdepth : pathLimit < depth + path.utf8ByteSize) :
    Surveys t sel path loc (fun _ => True) (pathStops t sel depth path) := by
  induction depth generalizing path loc with
  | zero =>
    have hshort := (locate_eq_ok_iff.mp hloc).2.2.2.1
    omega
  | succ depth ih =>
    rw [pathStops, if_neg (not_isFile_of_dir hloc hdir), listingAt_of_locate hloc hdir]
    have hnames : Surveys t sel path loc (fun rel => ∃ name ∈ t.listedAt loc, rel.head? = some name)
        (((t.listedAt loc).map fun name => (name, kindOf (t.get? (name :: loc)))).flatMap
          (nameStops t sel (pathStops t sel depth) path)) := by
      refine surveys_names hp (List.Sublist.refl _)
        (fun name hname => Option.isSome_iff_exists.mpr (mem_listedAt.mp hname))
        fun name hsub => ?_
      have hsome := isSome_of_isDirAt hsub
      have hsize := join_size path (isName_of_isSome hp hsome)
      by_cases hlong : pathLimit ≤ (join path name).utf8ByteSize
      · have hfail : locate t .follow (join path name) = .error .nameTooLong :=
          locate_join_long hloc (isName_of_isSome hp hsome) hlong
        exact surveys_long hsub hlong hfail depth
      · exact ih (locate_join hp hloc hsome (Nat.lt_of_not_le hlong)) hsub (by omega)
    refine (hnames.extend (fun _ _ => trivial) fun rel _ hmet => ?_).note_cons _
    have hne : rel ≠ [] := by
      rintro rfl
      rcases hmet with ⟨-, hlong⟩ | ⟨⟨data, mode, hf⟩, -, -⟩
      · exact absurd (locate_eq_ok_iff.mp hloc).2.2.2.1 (Nat.not_lt.mpr hlong)
      · exact not_isDirAt_of_file hf hdir
    obtain ⟨name, rel, rfl⟩ := List.exists_cons_of_ne_nil hne
    have hhead := isSome_head_of_below hp (hmet.elim (fun h => h.1.isSome) Offers.isSome)
    exact ⟨name, mem_listedAt.mpr (Option.isSome_iff_exists.mp hhead), rfl⟩

theorem surveys_stops (hp : t.Plain) (hloc : locate t .follow path = .ok loc)
    (hsome : (t.get? loc).isSome = true) :
    Surveys t sel path loc (fun _ => True) (stops t sel path) := by
  obtain ⟨e, he⟩ := Option.isSome_iff_exists.mp hsome
  unfold stops
  cases e with
  | dir mode =>
    exact surveys_pathStops hp _ hloc (isDirAt_iff.mpr ⟨mode, he⟩) (by omega)
  | link target => exact absurd he (hp.noLinks _ _)
  | file data mode =>
    rw [pathStops, if_pos (isFile_iff.mpr ⟨loc, data, mode, hloc, he⟩)]
    by_cases hskip : sel.skips (baseName path) = true
    · rw [if_pos hskip]
      refine Surveys.note_cons (Surveys.nil fun rel _ => ⟨not_enters_of_file hp he rel, ?_⟩) _
      intro hoff
      obtain rfl := eq_nil_of_file hp he hoff.isSome
      exact absurd (hoff.notSkipped (baseName path) (by simp [tested])) (by simp [hskip])
    · rw [if_neg hskip]
      exact Surveys.file hp he (by simpa using hskip)

lemma sources_of_locate_error (h : locate t .follow path = .error problem) (depth : Nat) :
    sources (pathStops t sel depth path) = [] := by
  cases depth with
  | zero => rfl
  | succ depth =>
    rw [pathStops, if_neg (not_isFile_of_error h), listingAt_of_error h]
    rfl

lemma locate_of_mem_sources {src : Source} (hsrc : src ∈ sources (stops t sel path)) :
    ∃ root, locate t .follow path = .ok root := by
  cases hroot : locate t .follow path with
  | ok root => exact ⟨root, rfl⟩
  | error problem =>
    rw [stops, sources_of_locate_error hroot] at hsrc
    cases hsrc

end SourceTidy.SourceWalk
