import Mathlib.Data.List.Basic
import SourceTidy.FileTree.Path

/-!
# Plain file trees

The entries of a plain tree stand in directories, under names that the system accepts, and none of
them is a link. Trees of the same shape differ only in the content and the permission bits of their
files.
-/

namespace SourceTidy

variable {e : Entry} {loc : Location} {o : Option Entry}

namespace Path

/-- A text that can stand as a name in a directory. -/
structure IsName (name : String) : Prop where
  nonempty : name ≠ ""
  notHere : name ≠ "."
  notAbove : name ≠ ".."
  noSlash : '/' ∉ name.toList
  noNull : '\x00' ∉ name.toList
  short : name.utf8ByteSize ≤ nameLimit

instance (name : String) : Decidable (IsName name) :=
  decidable_of_iff (name ≠ "" ∧ name ≠ "." ∧ name ≠ ".." ∧ '/' ∉ name.toList ∧
      '\x00' ∉ name.toList ∧ name.utf8ByteSize ≤ nameLimit)
    ⟨fun ⟨h₁, h₂, h₃, h₄, h₅, h₆⟩ => ⟨h₁, h₂, h₃, h₄, h₅, h₆⟩,
      fun h => ⟨h.nonempty, h.notHere, h.notAbove, h.noSlash, h.noNull, h.short⟩⟩

end Path

namespace Entry

def shape : Entry → Entry
  | file _ _ => file [] 0
  | dir _ => dir 0
  | link target => link target

lemma shape_eq_file_iff : o.map shape = some (file [] 0) ↔ ∃ data mode, o = some (file data mode) := by
  cases o with
  | none => simp
  | some e => cases e <;> simp [shape]

lemma shape_eq_dir_iff : o.map shape = some (dir 0) ↔ ∃ mode, o = some (dir mode) := by
  cases o with
  | none => simp
  | some e => cases e <;> simp [shape]

lemma shape_eq_link_iff {target : String} : o.map shape = some (link target) ↔ o = some (link target) := by
  cases o with
  | none => simp
  | some e => cases e <;> simp [shape]

end Entry

namespace FileTree

/-- A tree of files and directories as a system holds them, without links. -/
structure Plain (t : FileTree) : Prop where
  /-- No location is given twice. -/
  nodup : (t.entries.map Prod.fst).Nodup
  noLinks : ∀ loc target, t.get? loc ≠ some (.link target)
  isName : ∀ {name loc e}, t.get? (name :: loc) = some e → Path.IsName name
  inDir : ∀ {name loc e}, t.get? (name :: loc) = some e → t.isDirAt loc = true

lemma lookup_eq_some_mem {entries : List (Location × Entry)} (h : entries.lookup loc = some e) :
    (loc, e) ∈ entries := by
  obtain ⟨l₁, l₂, rfl, -⟩ := List.lookup_eq_some_iff.mp h
  simp

lemma lookup_cons_if (loc loc' : Location) (e : Entry) (entries : List (Location × Entry)) :
    ((loc, e) :: entries).lookup loc' = if loc' = loc then some e else entries.lookup loc' := by
  rw [List.lookup_cons]
  by_cases h : loc' = loc
  · simp [h]
  · rw [beq_false_of_ne h, if_neg h]

lemma lookup_putEntry (loc loc' : Location) (e : Entry) (entries : List (Location × Entry)) :
    (putEntry loc e entries).lookup loc' = if loc' = loc then some e else entries.lookup loc' := by
  induction entries with
  | nil => exact lookup_cons_if loc loc' e []
  | cons p entries ih =>
    obtain ⟨l, d⟩ := p
    rw [putEntry]
    by_cases hl : l = loc
    · subst hl
      rw [if_pos (beq_self_eq_true l), lookup_cons_if, lookup_cons_if]
      by_cases h : loc' = l
      · rw [if_pos h, if_pos h]
      · rw [if_neg h, if_neg h, if_neg h]
    · rw [if_neg (by simpa using hl), lookup_cons_if, lookup_cons_if, ih]
      by_cases h : loc' = l
      · subst h
        rw [if_pos rfl, if_neg hl, if_pos rfl]
      · rw [if_neg h, if_neg h]

lemma get?_put (t : FileTree) (hloc : loc ≠ []) (e : Entry) (loc' : Location) :
    (t.put loc e).get? loc' = if loc' = loc then some e else t.get? loc' := by
  cases loc' with
  | nil => rw [if_neg (Ne.symm hloc)]; rfl
  | cons name loc' => exact lookup_putEntry _ _ _ _

lemma get?_add (t : FileTree) (hloc : loc ≠ []) (e : Entry) (loc' : Location) :
    (t.add loc e).get? loc' = if loc' = loc then some e else t.get? loc' := by
  rw [← get?_put t hloc]
  cases loc' <;> rfl

lemma put_put (t : FileTree) (loc : Location) (d e : Entry) : (t.put loc d).put loc e = t.put loc e := by
  have h : ∀ entries, putEntry loc e (putEntry loc d entries) = putEntry loc e entries := by
    intro entries
    induction entries with
    | nil => simp [putEntry]
    | cons p entries ih =>
      obtain ⟨l, c⟩ := p
      by_cases hl : l = loc
      · simp [putEntry, hl]
      · simp [putEntry, hl, ih]
  rw [put, put, put, h]

lemma locations_put {t : FileTree} (h : loc ∈ t.entries.map Prod.fst) (e : Entry) :
    (t.put loc e).entries.map Prod.fst = t.entries.map Prod.fst := by
  have hput : ∀ entries : List (Location × Entry), loc ∈ entries.map Prod.fst →
      (putEntry loc e entries).map Prod.fst = entries.map Prod.fst := by
    intro entries hmem
    induction entries with
    | nil => simp at hmem
    | cons p entries ih =>
      obtain ⟨l, c⟩ := p
      by_cases hl : l = loc
      · simp [putEntry, hl]
      · have hmem' : loc ∈ entries.map Prod.fst := by simpa [Ne.symm hl] using hmem
        simpa [putEntry, hl] using ih hmem'
  exact hput t.entries h

lemma mem_locations {t : FileTree} (hloc : loc ≠ []) (h : t.get? loc = some e) :
    loc ∈ t.entries.map Prod.fst := by
  cases loc with
  | nil => exact absurd rfl hloc
  | cons name loc => exact List.mem_map_of_mem (lookup_eq_some_mem h)

lemma isDirAt_iff {t : FileTree} : t.isDirAt loc = true ↔ ∃ mode, t.get? loc = some (.dir mode) := by
  unfold isDirAt
  split
  · next m h => exact iff_of_true rfl ⟨m, h⟩
  · next h => exact iff_of_false Bool.false_ne_true fun ⟨m, hm⟩ => h m hm

lemma isSome_of_isDirAt {t : FileTree} (h : t.isDirAt loc = true) : (t.get? loc).isSome = true := by
  obtain ⟨mode, hmode⟩ := isDirAt_iff.mp h
  rw [hmode]
  rfl

lemma not_isDirAt_of_file {t : FileTree} {data : Bytes} {mode : Nat}
    (h : t.get? loc = some (.file data mode)) : ¬t.isDirAt loc = true := by
  rw [isDirAt_iff, h]
  rintro ⟨mode', hmode⟩
  cases hmode

lemma ne_nil_of_file {t : FileTree} {data : Bytes} {mode : Nat}
    (h : t.get? loc = some (.file data mode)) : loc ≠ [] := by
  rintro rfl
  cases h

/-- An entry other than that of the root stands in a directory under a name, and is no link. -/
def Placed (t : FileTree) : Location × Entry → Prop
  | ([], _) => True
  | (_ :: _, .link _) => False
  | (name :: parent, _) => Path.IsName name ∧ t.isDirAt parent = true

instance (t : FileTree) : DecidablePred t.Placed
  | ([], _) => .isTrue trivial
  | (_ :: _, .link _) => .isFalse id
  | (name :: parent, .file _ _) =>
    inferInstanceAs (Decidable (Path.IsName name ∧ t.isDirAt parent = true))
  | (name :: parent, .dir _) =>
    inferInstanceAs (Decidable (Path.IsName name ∧ t.isDirAt parent = true))

lemma lookup_of_mem {entries : List (Location × Entry)} (hnodup : (entries.map Prod.fst).Nodup)
    (h : (loc, e) ∈ entries) : entries.lookup loc = some e := by
  obtain ⟨l₁, l₂, rfl⟩ := List.append_of_mem h
  refine List.lookup_eq_some_iff.mpr ⟨l₁, l₂, rfl, fun p hp => ?_⟩
  rw [List.map_append, List.nodup_append] at hnodup
  have hne := hnodup.2.2 p.1 (List.mem_map_of_mem hp) loc (by simp)
  simpa using Ne.symm hne

lemma plain_iff {t : FileTree} : t.Plain ↔ (t.entries.map Prod.fst).Nodup ∧ ∀ p ∈ t.entries, t.Placed p := by
  constructor
  · intro h
    refine ⟨h.nodup, ?_⟩
    rintro ⟨loc, e⟩ hmem
    cases loc with
    | nil => trivial
    | cons name parent =>
      have he : t.get? (name :: parent) = some e := lookup_of_mem h.nodup hmem
      cases e with
      | file data mode => exact ⟨h.isName he, h.inDir he⟩
      | dir mode => exact ⟨h.isName he, h.inDir he⟩
      | link target => exact h.noLinks _ _ he
  · rintro ⟨hnodup, hplaced⟩
    have hget : ∀ {name loc e}, t.get? (name :: loc) = some e →
        (∀ target, e ≠ .link target) ∧ Path.IsName name ∧ t.isDirAt loc = true := by
      intro name loc e he
      have hp := hplaced _ (lookup_eq_some_mem he)
      cases e with
      | file data mode => exact ⟨nofun, hp⟩
      | dir mode => exact ⟨nofun, hp⟩
      | link target => exact hp.elim
    refine ⟨hnodup, ?_, fun he => (hget he).2.1, fun he => (hget he).2.2⟩
    intro loc target he
    cases loc with
    | nil => cases he
    | cons name loc => exact (hget he).1 target rfl

instance (t : FileTree) : Decidable t.Plain := decidable_of_iff _ plain_iff.symm

example : Plain { entries := [(["d"], .dir 0o755), (["a.c", "d"], .file [] 0o644)] } := by decide

lemma mem_namesAt {t : FileTree} {name : String} :
    name ∈ t.namesAt loc ↔ ∃ e, t.get? (name :: loc) = some e := by
  rw [namesAt, List.mem_mergeSort, List.mem_filterMap]
  constructor
  · rintro ⟨⟨l, e⟩, hmem, hname⟩
    cases l with
    | nil => cases hname
    | cons n parent =>
      simp only [beq_iff_eq, Option.ite_none_right_eq_some, Option.some.injEq] at hname
      obtain ⟨rfl, rfl⟩ := hname
      have hkey : ((t.entries.lookup (n :: parent)).isSome) = true := by
        rw [List.lookup_isSome_iff]
        exact ⟨_, hmem, by simp⟩
      exact Option.isSome_iff_exists.mp hkey
  · rintro ⟨e, he⟩
    exact ⟨_, lookup_eq_some_mem he, by simp⟩

lemma nodup_namesAt_of_entries {t : FileTree} (h : (t.entries.map Prod.fst).Nodup) (loc : Location) :
    (t.namesAt loc).Nodup := by
  rw [namesAt, (List.mergeSort_perm _ _).nodup_iff]
  have hpair := List.pairwise_map.mp h
  refine List.Pairwise.filterMap _ ?_ hpair
  rintro ⟨l, d⟩ ⟨l', d'⟩ hne a ha b hb
  cases l with
  | nil => simp at ha
  | cons n parent =>
    cases l' with
    | nil => simp at hb
    | cons n' parent' =>
      simp only [beq_iff_eq, Option.ite_none_right_eq_some, Option.some.injEq] at ha hb
      obtain ⟨rfl, rfl⟩ := ha
      obtain ⟨rfl, rfl⟩ := hb
      rintro rfl
      exact hne rfl

/-- The names that are in a directory when its reading begins, in the order of their turns. -/
def listedAt (t : FileTree) (loc : Location) : List String := (t.turnsAt loc).filterMap Turn.there?

lemma listedAt_perm (t : FileTree) (loc : Location) : (t.listedAt loc).Perm (t.namesAt loc) :=
  t.lister.perm loc (t.namesAt loc)

lemma mem_listedAt {t : FileTree} {name : String} :
    name ∈ t.listedAt loc ↔ ∃ e, t.get? (name :: loc) = some e :=
  (t.listedAt_perm loc).mem_iff.trans mem_namesAt

lemma nodup_listedAt_of_entries {t : FileTree} (h : (t.entries.map Prod.fst).Nodup) (loc : Location) :
    (t.listedAt loc).Nodup :=
  (t.listedAt_perm loc).nodup_iff.mpr (nodup_namesAt_of_entries h loc)

lemma listedAt_sorted {t : FileTree} (h : t.lister = .sorted) (loc : Location) :
    t.listedAt loc = t.namesAt loc := by
  rw [listedAt, turnsAt, h]
  simp [Lister.sorted, Function.comp_def, Turn.there?]

lemma pairwise_mergeSort_names (names : List String) :
    (names.mergeSort fun a b => decide (a ≤ b)).Pairwise (· ≤ ·) := by
  have h : (names.mergeSort fun a b => decide (a ≤ b)).Pairwise fun a b => decide (a ≤ b) = true :=
    List.pairwise_mergeSort
      (fun a b c hab hbc => by
        simp only [decide_eq_true_eq] at hab hbc ⊢
        exact String.le_trans hab hbc)
      (fun a b => by simpa using String.le_total a b) names
  exact h.imp fun hab => of_decide_eq_true hab

namespace Plain

variable {t : FileTree}

lemma nodup_namesAt (h : t.Plain) (loc : Location) : (t.namesAt loc).Nodup :=
  nodup_namesAt_of_entries h.nodup loc

lemma nodup_listedAt (h : t.Plain) (loc : Location) : (t.listedAt loc).Nodup :=
  nodup_listedAt_of_entries h.nodup loc

lemma sorted_namesAt (h : t.Plain) (loc : Location) : (t.namesAt loc).Pairwise (· < ·) := by
  refine ((pairwise_mergeSort_names _).and (h.nodup_namesAt loc)).imp ?_
  rintro a b ⟨hle, hne⟩
  exact String.not_le.mp fun hge => hne (String.le_antisymm hle hge)

end Plain

/-- Two trees with the same locations, where the same kinds of entries stand. -/
structure SameShape (t t' : FileTree) : Prop where
  locations : t'.entries.map Prod.fst = t.entries.map Prod.fst
  shapes : ∀ loc, (t'.get? loc).map Entry.shape = (t.get? loc).map Entry.shape
  hidden : t'.entries.lookup [] = t.entries.lookup []
  lister : t'.lister = t.lister
  arrivals : t'.arrivals = t.arrivals

namespace SameShape

variable {t t' t'' : FileTree}

protected lemma refl (t : FileTree) : t.SameShape t := ⟨rfl, fun _ => rfl, rfl, rfl, rfl⟩

protected lemma trans (h : t.SameShape t') (h' : t'.SameShape t'') : t.SameShape t'' :=
  ⟨h'.locations.trans h.locations, fun loc => (h'.shapes loc).trans (h.shapes loc),
    h'.hidden.trans h.hidden, h'.lister.trans h.lister, h'.arrivals.trans h.arrivals⟩

lemma put {data data' : Bytes} {mode mode' : Nat} (h : t.get? loc = some (.file data mode)) :
    t.SameShape (t.put loc (.file data' mode')) := by
  have hloc := ne_nil_of_file h
  have hhidden : (t.put loc (.file data' mode')).entries.lookup [] = t.entries.lookup [] := by
    rw [FileTree.put, lookup_putEntry, if_neg (Ne.symm hloc)]
  refine ⟨locations_put (mem_locations hloc h) _, fun loc' => ?_, hhidden, rfl, rfl⟩
  rw [get?_put t hloc]
  split
  · next he => rw [he, h]; rfl
  · rfl

lemma file_iff (h : t.SameShape t') (loc : Location) :
    (∃ data mode, t'.get? loc = some (.file data mode)) ↔
      ∃ data mode, t.get? loc = some (.file data mode) := by
  rw [← Entry.shape_eq_file_iff, ← Entry.shape_eq_file_iff, h.shapes]

lemma isDirAt_eq (h : t.SameShape t') (loc : Location) : t'.isDirAt loc = t.isDirAt loc := by
  rw [Bool.eq_iff_iff, isDirAt_iff, isDirAt_iff, ← Entry.shape_eq_dir_iff, ← Entry.shape_eq_dir_iff,
    h.shapes]

lemma filterMap_eq_of_map_fst {f : Location × Entry → Option String}
    (hf : ∀ loc e e', f (loc, e) = f (loc, e')) {entries entries' : List (Location × Entry)}
    (h : entries'.map Prod.fst = entries.map Prod.fst) : entries'.filterMap f = entries.filterMap f := by
  induction entries generalizing entries' with
  | nil => rw [List.map_eq_nil_iff.mp h]
  | cons p entries ih =>
    obtain ⟨p', rest, rfl, hp, hrest⟩ := List.map_eq_cons_iff.mp h
    have hfirst : f p' = f p := by
      obtain ⟨loc, e⟩ := p
      obtain ⟨loc', e'⟩ := p'
      obtain rfl : loc' = loc := hp
      exact hf loc' e' e
    rw [List.filterMap_cons, List.filterMap_cons, hfirst, ih hrest]

lemma namesAt_eq (h : t.SameShape t') (loc : Location) : t'.namesAt loc = t.namesAt loc := by
  unfold namesAt
  rw [filterMap_eq_of_map_fst (fun _ _ _ => rfl) h.locations]

lemma turnsAt_eq (h : t.SameShape t') (loc : Location) : t'.turnsAt loc = t.turnsAt loc := by
  rw [turnsAt, turnsAt, h.lister, h.namesAt_eq]

lemma get?_isSome (h : t.SameShape t') (loc : Location) : (t'.get? loc).isSome = (t.get? loc).isSome := by
  have hs := congrArg Option.isSome (h.shapes loc)
  simpa using hs

lemma plain (h : t.SameShape t') (hp : t.Plain) : t'.Plain := by
  have hsome : ∀ {loc e}, t'.get? loc = some e → ∃ d, t.get? loc = some d := by
    intro loc e he
    have hs := h.get?_isSome loc
    rw [he] at hs
    exact Option.isSome_iff_exists.mp hs.symm
  refine ⟨by rw [h.locations]; exact hp.nodup, ?_, ?_, ?_⟩
  · intro loc target hl
    rw [← Entry.shape_eq_link_iff, h.shapes, Entry.shape_eq_link_iff] at hl
    exact hp.noLinks loc target hl
  · intro name loc e he
    obtain ⟨d, hd⟩ := hsome he
    exact hp.isName hd
  · intro name loc e he
    obtain ⟨d, hd⟩ := hsome he
    rw [h.isDirAt_eq]
    exact hp.inDir hd

lemma eq_of_lookup {entries entries' : List (Location × Entry)} (hnodup : (entries.map Prod.fst).Nodup)
    (hmap : entries'.map Prod.fst = entries.map Prod.fst)
    (h : ∀ loc ∈ entries.map Prod.fst, entries'.lookup loc = entries.lookup loc) : entries' = entries := by
  induction entries generalizing entries' with
  | nil => exact List.map_eq_nil_iff.mp hmap
  | cons p entries ih =>
    obtain ⟨⟨loc, e'⟩, rest, rfl, hloc, hrest⟩ := List.map_eq_cons_iff.mp hmap
    obtain ⟨loc, e⟩ := p
    cases hloc
    simp only [List.map_cons, List.nodup_cons, List.forall_mem_cons, lookup_cons_if] at hnodup h
    have he : e' = e := by simpa using h.1
    rw [he, ih hnodup.2 hrest fun l hl => ?_]
    have hne : l ≠ loc := fun heq => hnodup.1 (heq ▸ hl)
    simpa only [if_neg hne] using h.2 l hl

lemma eq_of_get? (h : t.SameShape t') (hp : t.Plain) (hget : ∀ loc, t'.get? loc = t.get? loc) : t' = t := by
  have hentries : t'.entries = t.entries := eq_of_lookup hp.nodup h.locations fun loc _ => by
    cases loc with
    | nil => exact h.hidden
    | cons name dir => exact hget (name :: dir)
  obtain ⟨hlister, harrivals⟩ := And.intro h.lister h.arrivals
  cases t
  cases t'
  cases hentries
  cases hlister
  cases harrivals
  rfl

end SameShape

end FileTree

end SourceTidy
