import Mathlib.Tactic.SplitIfs
import SourceTidy.Proofs.PlainTree

/-!
# Paths in plain trees

In a plain tree a path to a directory, joined with a name in it, leads to what stands there, as long
as the path is not too long for the system. A search depends on the shape of the tree only.
-/

namespace SourceTidy

open Text

variable {last : LastStep} {loc : Location} {links : Nat} {dir name path : String}

namespace Path

/-- The names between the slashes of a path. -/
def namesIn (s : Text) : List String :=
  ((splitAt '/' s).filter (!·.isEmpty)).map String.ofList

lemma steps_eq (path : String) :
    steps path = namesIn path.toList ++ if path.toList.getLast? = some '/' then [""] else [] := by
  unfold steps namesIn
  by_cases h : path.toList.getLast? = some '/' <;> simp [h]

lemma splitAt_of_notMem {sep : Char} {s : Text} (h : sep ∉ s) : splitAt sep s = [s] := by
  induction s with
  | nil => rfl
  | cons c s ih =>
    rw [List.mem_cons, not_or] at h
    rw [splitAt, if_neg (by simpa using Ne.symm h.1), ih h.2]

lemma splitAt_ne_nil (sep : Char) (s : Text) : splitAt sep s ≠ [] := by
  cases s with
  | nil => exact List.cons_ne_nil _ _
  | cons c s =>
    rw [splitAt]
    split
    · exact List.cons_ne_nil _ _
    · split
      · exact List.cons_ne_nil _ _
      · exact List.cons_ne_nil _ _

lemma splitAt_append_cons (sep : Char) (s r : Text) :
    splitAt sep (s ++ sep :: r) = splitAt sep s ++ splitAt sep r := by
  induction s with
  | nil => simp [splitAt]
  | cons c s ih =>
    rw [List.cons_append, splitAt, ih]
    conv_rhs => rw [splitAt]
    by_cases h : c == sep
    · simp [h]
    · simp only [h, Bool.false_eq_true, if_false]
      cases hs : splitAt sep s with
      | nil => exact absurd hs (splitAt_ne_nil sep s)
      | cons piece pieces => rfl

lemma namesIn_append_slash (s r : Text) : namesIn (s ++ '/' :: r) = namesIn s ++ namesIn r := by
  rw [namesIn, splitAt_append_cons, List.filter_append, List.map_append]
  rfl

lemma IsName.toList_ne_nil (h : IsName name) : name.toList ≠ [] :=
  fun hn => h.nonempty (String.toList_eq_nil_iff.mp hn)

lemma IsName.namesIn (h : IsName name) : namesIn name.toList = [name] := by
  rw [Path.namesIn, splitAt_of_notMem h.noSlash]
  simp [h.toList_ne_nil]

lemma join_cases (dir name : String) :
    (dir = "" ∧ join dir name = name) ∨
      (∃ s, dir.toList = s ++ ['/'] ∧ (join dir name).toList = s ++ '/' :: name.toList) ∨
      (join dir name).toList = dir.toList ++ '/' :: name.toList := by
  unfold join
  by_cases he : dir = ""
  · exact .inl ⟨he, by simp [he]⟩
  · by_cases hs : dir.toList.getLast? = some '/'
    · obtain ⟨s, hs'⟩ := List.getLast?_eq_some_iff.mp hs
      exact .inr (.inl ⟨s, hs', by simp [hs']⟩)
    · exact .inr (.inr (by simp [he, hs]))

lemma steps_join (dir : String) (h : IsName name) : steps (join dir name) = namesIn dir.toList ++ [name] := by
  have hlast : name.toList.getLast? ≠ some '/' := fun hl => h.noSlash (List.mem_of_getLast? hl)
  have hcons : ∀ s : Text, (s ++ '/' :: name.toList).getLast? = name.toList.getLast? := by
    intro s
    cases hn : name.toList with
    | nil => exact absurd hn h.toList_ne_nil
    | cons c r => simp [List.getLast?_append, List.getLast?_cons]
  rw [steps_eq]
  rcases join_cases dir name with ⟨rfl, hj⟩ | ⟨s, hs, hj⟩ | hj
  · rw [hj, if_neg hlast, h.namesIn]
    rfl
  · rw [hj, hcons, if_neg hlast, namesIn_append_slash, h.namesIn, hs, namesIn_append_slash]
    simp [namesIn, splitAt]
  · rw [hj, hcons, if_neg hlast, namesIn_append_slash, h.namesIn, List.append_nil]

lemma join_size (dir : String) (h : IsName name) : dir.utf8ByteSize < (join dir name).utf8ByteSize := by
  have hpos : 0 < name.utf8ByteSize := by
    have := mt String.utf8ByteSize_eq_zero_iff.mp h.nonempty
    omega
  unfold join
  split
  · rw [String.utf8ByteSize_append]
    omega
  · rw [String.utf8ByteSize_append, String.utf8ByteSize_append]
    omega

variable {t t' : FileTree}

lemma walk_nil (last : LastStep) (links : Nat) (loc : Location) : walk t last links loc [] = .ok loc := by
  rw [walk]

lemma walk_cons (hl : ∀ loc target, t.get? loc ≠ some (.link target)) (last : LastStep) (links : Nat)
    (loc : Location) (name : String) (rest : List String) :
    walk t last links loc (name :: rest) =
      if t.isDirAt loc = false then .error .notDirectory
      else if name = "" ∨ name = "." then walk t last links loc rest
      else if name = ".." then walk t last links loc.tail rest
      else if nameLimit < name.utf8ByteSize then .error .nameTooLong
      else if last = .create ∧ rest = [""] then .error .isDirectory
      else if (t.get? (name :: loc)).isSome then walk t last links (name :: loc) rest
      else if last = .create ∧ rest = [] then .ok (name :: loc)
      else .error .notFound := by
  rw [walk]
  simp only [Bool.not_eq_true', Bool.or_eq_true, Bool.and_eq_true, beq_iff_eq, List.isEmpty_iff]
  cases he : t.get? (name :: loc) with
  | none => rfl
  | some e =>
    cases e with
    | file data mode => rfl
    | dir mode => rfl
    | link target => exact absurd he (hl _ _)

lemma walk_follow_cons (hl : ∀ loc target, t.get? loc ≠ some (.link target)) (links : Nat)
    (loc : Location) (name : String) (rest : List String) :
    walk t .follow links loc (name :: rest) =
      if t.isDirAt loc = false then .error .notDirectory
      else if name = "" ∨ name = "." then walk t .follow links loc rest
      else if name = ".." then walk t .follow links loc.tail rest
      else if nameLimit < name.utf8ByteSize then .error .nameTooLong
      else if (t.get? (name :: loc)).isSome then walk t .follow links (name :: loc) rest
      else .error .notFound := by
  have hno : ∀ p : Prop, ¬(LastStep.follow = .create ∧ p) := fun _ h => nomatch h.1
  rw [walk_cons hl, if_neg (hno (rest = [""])), if_neg (hno (rest = []))]

lemma walk_append (hl : ∀ loc target, t.get? loc ≠ some (.link target)) (links : Nat)
    (loc : Location) (xs ys : List String) (hys : last = .follow ∨ (ys ≠ [] ∧ ys ≠ [""])) :
    walk t last links loc (xs ++ ys) = walk t .follow links loc xs >>= fun l => walk t last links l ys := by
  induction xs generalizing loc with
  | nil => rw [walk_nil]; rfl
  | cons name xs ih =>
    have hcreate : ¬(last = .create ∧ xs ++ ys = [""]) := by
      rintro ⟨rfl, hxs⟩
      rcases hys with hys | ⟨hne, hne'⟩
      · cases hys
      · cases xs with
        | nil => exact hne' hxs
        | cons x xs => simp [hne] at hxs
    have hempty : ¬(last = .create ∧ xs ++ ys = []) := by
      rintro ⟨rfl, hxs⟩
      rcases hys with hys | ⟨hne, -⟩
      · cases hys
      · exact hne (List.append_eq_nil_iff.mp hxs).2
    rw [List.cons_append, walk_cons hl, walk_follow_cons hl, if_neg hcreate, if_neg hempty]
    split_ifs
    · rfl
    · exact ih loc
    · exact ih loc.tail
    · rfl
    · exact ih (name :: loc)
    · rfl

lemma walk_name (hl : ∀ loc target, t.get? loc ≠ some (.link target)) (hdir : t.isDirAt loc = true)
    (hname : IsName name) (he : (t.get? (name :: loc)).isSome = true) :
    walk t last links loc [name] = .ok (name :: loc) := by
  rw [walk_cons hl, if_neg (by simp [hdir]), if_neg (by simp [hname.nonempty, hname.notHere]),
    if_neg hname.notAbove, if_neg (Nat.not_lt.mpr hname.short), if_neg (by simp), if_pos he, walk_nil]

lemma walk_isSome (hp : t.Plain) {loc found : Location} {names : List String}
    (h : walk t .follow links loc names = .ok found) (hloc : (t.get? loc).isSome = true) :
    (t.get? found).isSome = true := by
  induction names generalizing loc with
  | nil =>
    rw [walk_nil] at h
    cases h
    exact hloc
  | cons name rest ih =>
    rw [walk_follow_cons hp.noLinks] at h
    split_ifs at h with _ _ _ _ hsome
    · exact ih h hloc
    · refine ih h ?_
      cases loc with
      | nil => exact hloc
      | cons above loc =>
        obtain ⟨e, he⟩ := Option.isSome_iff_exists.mp hloc
        exact FileTree.isSome_of_isDirAt (hp.inDir he)
    · exact ih h hsome

lemma walk_sameShape (hl : ∀ loc target, t.get? loc ≠ some (.link target)) (h : t.SameShape t')
    (hl' : ∀ loc target, t'.get? loc ≠ some (.link target)) (last : LastStep) (links : Nat)
    (loc : Location) (names : List String) : walk t' last links loc names = walk t last links loc names := by
  induction names generalizing loc with
  | nil => rw [walk_nil, walk_nil]
  | cons name rest ih => rw [walk_cons hl, walk_cons hl', h.isDirAt_eq, h.get?_isSome, ih, ih, ih]

lemma locate_eq_ok_iff :
    locate t last path = .ok loc ↔ '\x00' ∉ path.toList ∧ path ≠ "" ∧ isAbsolute path = false ∧
      path.utf8ByteSize < pathLimit ∧ walk t last linkLimit [] (steps path) = .ok loc := by
  unfold locate
  constructor
  · intro h
    split_ifs at h with hnull habs hlong
    rw [Bool.or_eq_true, not_or, String.isEmpty_iff, Bool.not_eq_true] at habs
    exact ⟨by simpa using hnull, habs.1, habs.2, by omega, h⟩
  · rintro ⟨hnull, hne, habs, hshort, h⟩
    rw [if_neg (by simpa using hnull), if_neg (by simp [hne, habs]), if_neg (by omega), h]

lemma locate_isSome (hp : t.Plain) (h : locate t .follow path = .ok loc) : (t.get? loc).isSome = true :=
  walk_isSome hp (locate_eq_ok_iff.mp h).2.2.2.2 rfl

lemma locate_eq_nameTooLong (hnull : '\x00' ∉ path.toList)
    (hne : path ≠ "") (habs : isAbsolute path = false) (hlong : pathLimit ≤ path.utf8ByteSize) :
    locate t last path = .error .nameTooLong := by
  unfold locate
  rw [if_neg (by simpa using hnull), if_neg (by simp [hne, habs]), if_pos hlong]

lemma null_notMem_join (hdir : '\x00' ∉ dir.toList) (hname : IsName name) :
    '\x00' ∉ (join dir name).toList := by
  have hslash : ∀ s : Text, '\x00' ∉ s → '\x00' ∉ s ++ '/' :: name.toList := by
    intro s hs
    rw [List.mem_append, List.mem_cons, not_or, not_or]
    exact ⟨hs, by decide, hname.noNull⟩
  rcases join_cases dir name with ⟨-, hj⟩ | ⟨s, hs, hj⟩ | hj
  · rw [hj]
    exact hname.noNull
  · rw [hj]
    refine hslash s fun hmem => hdir ?_
    rw [hs]
    exact List.mem_append_left _ hmem
  · rw [hj]
    exact hslash _ hdir

lemma isAbsolute_join (hne : dir ≠ "") (hdir : isAbsolute dir = false) :
    isAbsolute (join dir name) = false := by
  have hne' : dir.toList ≠ [] := fun h => hne (String.toList_eq_nil_iff.mp h)
  unfold isAbsolute at hdir ⊢
  rcases join_cases dir name with ⟨he, -⟩ | ⟨s, hs, hj⟩ | hj
  · exact absurd he hne
  · rw [hj]
    cases s with
    | nil => rw [hs] at hdir; exact absurd hdir (by decide)
    | cons c s => rw [hs] at hdir; exact hdir
  · rw [hj, List.head?_append_of_ne_nil _ hne']
    exact hdir

lemma join_ne_empty (hname : IsName name) : join dir name ≠ "" := by
  intro h
  have hsize := join_size dir hname
  rw [h] at hsize
  exact absurd hsize (by simp)

lemma locate_join (hp : t.Plain)
    (h : locate t .follow dir = .ok loc) (he : (t.get? (name :: loc)).isSome = true)
    (hshort : (join dir name).utf8ByteSize < pathLimit) :
    locate t last (join dir name) = .ok (name :: loc) := by
  obtain ⟨e, he'⟩ := Option.isSome_iff_exists.mp he
  have hname := hp.isName he'
  obtain ⟨hnull, hne, habs, -, hwalk⟩ := locate_eq_ok_iff.mp h
  rw [locate_eq_ok_iff, steps_join dir hname]
  refine ⟨null_notMem_join hnull hname, join_ne_empty hname, isAbsolute_join hne habs, hshort, ?_⟩
  have hnames : walk t .follow linkLimit [] (namesIn dir.toList) = .ok loc := by
    rw [steps_eq, walk_append hp.noLinks _ _ _ _ (.inl rfl)] at hwalk
    cases hw : walk t .follow linkLimit [] (namesIn dir.toList) with
    | error problem =>
      rw [hw] at hwalk
      cases hwalk
    | ok l =>
      rw [hw] at hwalk
      change walk t .follow linkLimit l _ = _ at hwalk
      split_ifs at hwalk with hslash
      · rw [walk_follow_cons hp.noLinks] at hwalk
        split_ifs at hwalk with hd hhere
        · rw [walk_nil] at hwalk
          exact hwalk
        all_goals simp_all
      · rw [walk_nil] at hwalk
        exact hwalk
  rw [walk_append hp.noLinks _ _ _ _ (.inr ⟨by simp, by simp [hname.nonempty]⟩), hnames]
  exact walk_name hp.noLinks (hp.inDir he') hname he

lemma locate_join_long (h : locate t .follow dir = .ok loc) (hname : IsName name)
    (hlong : pathLimit ≤ (join dir name).utf8ByteSize) :
    locate t last (join dir name) = .error .nameTooLong := by
  obtain ⟨hnull, hne, habs, -, -⟩ := locate_eq_ok_iff.mp h
  exact locate_eq_nameTooLong (null_notMem_join hnull hname) (join_ne_empty hname)
    (isAbsolute_join hne habs) hlong

def slashed (name : String) : Nat → String
  | 0 => name
  | n + 1 => slashed name n ++ "/"

lemma toList_slashed (name : String) (n : Nat) :
    (slashed name n).toList = name.toList ++ List.replicate n '/' := by
  induction n with
  | zero => simp [slashed]
  | succ n ih => simp [slashed, ih, List.replicate_succ']

lemma size_slashed (name : String) (n : Nat) : (slashed name n).utf8ByteSize = name.utf8ByteSize + n := by
  induction n with
  | zero => rfl
  | succ n ih =>
    rw [slashed, String.utf8ByteSize_append, ih]
    rfl

lemma steps_slashed (h : IsName name) (n : Nat) :
    steps (slashed name n) = [name] ++ if n = 0 then [] else [""] := by
  have hnames : namesIn (name.toList ++ List.replicate n '/') = [name] := by
    induction n with
    | zero => rw [List.replicate_zero, List.append_nil, h.namesIn]
    | succ n ih =>
      rw [List.replicate_succ', ← List.append_assoc, namesIn_append_slash, ih]
      rfl
  rw [steps_eq, toList_slashed, hnames]
  cases n with
  | zero =>
    have hlast : name.toList.getLast? ≠ some '/' := fun hl => h.noSlash (List.mem_of_getLast? hl)
    rw [List.replicate_zero, List.append_nil, if_neg hlast, if_pos rfl]
  | succ n => rw [List.replicate_succ', ← List.append_assoc, List.getLast?_concat, if_pos rfl,
      if_neg (Nat.succ_ne_zero n)]

/-- A name leads to what stands there, and slashes do not lead away from a directory. -/
lemma locate_slashed (hp : t.Plain) (h : (t.get? [name]).isSome = true) {n : Nat}
    (hdir : n ≠ 0 → t.isDirAt [name] = true) (hn : name.utf8ByteSize + n < pathLimit) :
    locate t .follow (slashed name n) = .ok [name] := by
  obtain ⟨e, he⟩ := Option.isSome_iff_exists.mp h
  have hname := hp.isName he
  have hwalk : walk t .follow linkLimit [] [name] = .ok [name] :=
    walk_name hp.noLinks (hp.inDir he) hname h
  refine locate_eq_ok_iff.mpr ⟨?_, ?_, ?_, by rwa [size_slashed], ?_⟩
  · simpa [toList_slashed] using fun h => absurd h hname.noNull
  · intro hempty
    have := congrArg String.toList hempty
    rw [toList_slashed] at this
    exact hname.toList_ne_nil (List.append_eq_nil_iff.mp this).1
  · rw [isAbsolute, toList_slashed, List.head?_append_of_ne_nil _ hname.toList_ne_nil]
    have hhead : name.toList.head? ≠ some '/' := fun hh => hname.noSlash (List.mem_of_head? hh)
    simpa using hhead
  · rw [steps_slashed hname, walk_append hp.noLinks _ _ _ _ (.inl rfl), hwalk]
    change walk t .follow linkLimit [name] _ = _
    split
    · exact walk_nil _ _ _
    · next hn => rw [walk_follow_cons hp.noLinks, if_neg (by simp [hdir hn]), if_pos (by simp),
        walk_nil]

/-- A directory can be reached by paths of every size below the limit. -/
lemma exists_path_of_size (hp : t.Plain) (h : t.isDirAt [name] = true) {size : Nat}
    (hle : name.utf8ByteSize ≤ size) (hlt : size < pathLimit) :
    ∃ path, locate t .follow path = .ok [name] ∧ path.utf8ByteSize = size := by
  obtain ⟨n, rfl⟩ := Nat.exists_eq_add_of_le hle
  exact ⟨slashed name n, locate_slashed hp (FileTree.isSome_of_isDirAt h) (fun _ => h) hlt,
    size_slashed name n⟩

lemma locate_name (hp : t.Plain) (h : (t.get? [name]).isSome = true) :
    locate t .follow name = .ok [name] := by
  obtain ⟨e, he⟩ := Option.isSome_iff_exists.mp h
  have hsize : name.utf8ByteSize + 0 < pathLimit := Nat.lt_of_le_of_lt (hp.isName he).short (by decide)
  exact locate_slashed hp h (absurd rfl) hsize

lemma locate_sameShape (hp : t.Plain) (h : t.SameShape t') (last : LastStep) (path : String) :
    locate t' last path = locate t last path := by
  unfold locate
  rw [walk_sameShape hp.noLinks h (h.plain hp).noLinks]

end Path

end SourceTidy
