import Mathlib.Data.List.Nodup
import SourceTidy.Proofs.CheckRuns
import SourceTidy.Proofs.ReachedFiles

/-!
# Walks through trees with links

A walk through links comes to an end because each directory that it enters makes the path longer. No
path is visited twice, and no file either if no link leads to a place to which something else leads
that the walk meets.
-/

namespace SourceTidy

open SourceTidy.Path FileTree

variable {names : List (String × NameKind)} {depth : Nat}

namespace Path

variable {t : FileTree} {links : Nat} {loc place : Location} {dir name : String}

/-- A search by some steps after others goes on from where these led, or ends as they did. Some links may
have been followed by then. -/
lemma walk_append_follow (t : FileTree) (links : Nat) (loc : Location) (xs ys : List String) :
    (∃ place left, walk t .follow links loc xs = .ok place ∧
        walk t .follow links loc (xs ++ ys) = walk t .follow left place ys) ∨
      ∃ problem, walk t .follow links loc xs = .error problem ∧
        walk t .follow links loc (xs ++ ys) = .error problem := by
  have hnew : ∀ b : Bool, ¬(LastStep.follow == .create && b) = true := by decide
  have hkept : ∀ b : Bool, ¬(LastStep.follow == .keep && b) = true := by decide
  fun_induction walk t .follow links loc xs with
  | case1 links loc => exact .inl ⟨loc, links, rfl, rfl⟩
  | case2 links loc name rest hdir =>
    rw [List.cons_append, walk, if_pos hdir]
    exact .inr ⟨_, rfl, rfl⟩
  | case3 links loc name rest hdir hhere ih =>
    rw [List.cons_append, walk, if_neg hdir, if_pos hhere]
    exact ih
  | case4 links loc name rest hdir hhere habove ih =>
    rw [List.cons_append, walk, if_neg hdir, if_neg hhere, if_pos habove]
    exact ih
  | case5 links loc name rest hdir hhere habove hlong =>
    rw [List.cons_append, walk, if_neg hdir, if_neg hhere, if_neg habove, if_pos hlong]
    exact .inr ⟨_, rfl, rfl⟩
  | case6 links loc name rest _ _ _ _ hcreate => exact absurd hcreate (hnew _)
  | case7 links loc name rest _ _ _ _ _ _ hcreate => exact absurd hcreate (hnew _)
  | case8 links loc name rest hdir hhere habove hlong _ hnone _ =>
    rw [List.cons_append, walk, if_neg hdir, if_neg hhere, if_neg habove, if_neg hlong,
      if_neg (hnew _), hnone]
    exact .inr ⟨_, rfl, if_neg (hnew _)⟩
  | case9 links loc name rest _ _ _ _ _ target _ hkeep => exact absurd hkeep (hkept _)
  | case10 loc name rest hdir hhere habove hlong _ target hlink _ =>
    rw [List.cons_append, walk, if_neg hdir, if_neg hhere, if_neg habove, if_neg hlong,
      if_neg (hnew _), hlink]
    exact .inr ⟨_, rfl, if_neg (hkept _)⟩
  | case11 loc name rest hdir hhere habove hlong _ target hlink _ links habs =>
    rw [List.cons_append, walk, if_neg hdir, if_neg hhere, if_neg habove, if_neg hlong,
      if_neg (hnew _), hlink]
    exact .inr ⟨_, rfl, (if_neg (hkept _)).trans (if_pos habs)⟩
  | case12 loc name rest hdir hhere habove hlong _ target hlink _ links hrel ih =>
    rw [List.cons_append, walk, if_neg hdir, if_neg hhere, if_neg habove, if_neg hlong,
      if_neg (hnew _), hlink]
    dsimp only
    rw [if_neg (hkept _), if_neg hrel, ← List.append_assoc]
    exact ih
  | case13 links loc name rest hdir hhere habove hlong _ e hnot he ih =>
    rw [List.cons_append, walk, if_neg hdir, if_neg hhere, if_neg habove, if_neg hlong,
      if_neg (hnew _), he]
    cases e with
    | file data mode => exact ih
    | dir mode => exact ih
    | link target => exact absurd rfl (hnot target)

lemma namesIn_join (dir : String) (hname : IsName name) :
    namesIn (join dir name).toList = namesIn dir.toList ++ [name] := by
  have hsteps := steps_join dir hname
  rw [steps_eq] at hsteps
  split at hsteps
  · have hlast := (List.append_inj' hsteps rfl).2
    exact absurd (List.singleton_inj.mp hlast).symm hname.nonempty
  · rwa [List.append_nil] at hsteps

/-- The names of a path lead where it leads, as a slash at its end does not lead away. -/
lemma walk_namesIn (h : locate t .follow dir = .ok loc) :
    walk t .follow linkLimit [] (namesIn dir.toList) = .ok loc := by
  have hwalk := (locate_eq_ok_iff.mp h).2.2.2.2
  rw [steps_eq] at hwalk
  split at hwalk
  · rcases walk_append_follow t linkLimit [] (namesIn dir.toList) [""] with
      ⟨place, left, hnames, happ⟩ | ⟨problem, -, happ⟩
    · rw [happ] at hwalk
      cases hplace : t.isDirAt place with
      | false =>
        rw [walk_of_not_isDirAt hplace] at hwalk
        cases hwalk
      | true =>
        rw [walk_here hplace (.inl rfl), walk_nil] at hwalk
        rw [hnames, hwalk]
    · cases happ.symm.trans hwalk
  · rwa [List.append_nil] at hwalk

/-- Under a name that is not that of a link, a path leads to what stands there or nowhere. -/
lemma eq_of_locate_join {e : Entry} (hname : IsName name) (hdir : locate t .follow dir = .ok loc)
    (he : t.get? (name :: loc) = some e) (hnot : ∀ target, e ≠ .link target)
    (h : locate t .follow (join dir name) = .ok place) : place = name :: loc := by
  have hwalk := (locate_eq_ok_iff.mp h).2.2.2.2
  rw [steps_join dir hname] at hwalk
  rcases walk_append_follow t linkLimit [] (namesIn dir.toList) [name] with
    ⟨loc', left, hnames, happ⟩ | ⟨problem, -, happ⟩
  · obtain rfl : loc' = loc := Except.ok.inj (hnames.symm.trans (walk_namesIn hdir))
    rw [happ] at hwalk
    cases hloc : t.isDirAt loc' with
    | false =>
      rw [walk_of_not_isDirAt hloc] at hwalk
      cases hwalk
    | true =>
      have hstep : NameStep t loc' name :=
        ⟨hloc, hname.nonempty, hname.notHere, hname.notAbove, Nat.not_lt.mpr hname.short⟩
      rw [hstep.walk_entry (by simp) he hnot, walk_nil] at hwalk
      exact (Except.ok.inj hwalk).symm
  · cases happ.symm.trans hwalk

end Path

namespace FileTree

/-- A tree with links, as a system can have it: names are such as can stand in a path, and nothing is
given twice. -/
structure Linked (t : FileTree) : Prop where
  named : t.Named
  nodup : (t.entries.map Prod.fst).Nodup

end FileTree

namespace SourceWalk

variable {t : FileTree} {sel : Selection} {path : String} {src : Source}

/-- Every directory makes the path longer, so a walk with enough directories left to enter does not use
up the last one. -/
lemma pathStops_succ (hn : t.Named) (h : pathLimit ≤ path.utf8ByteSize + depth) :
    pathStops t sel (depth + 2) path = pathStops t sel (depth + 1) path := by
  induction depth generalizing path with
  | zero =>
    have hnone : ∀ loc, locate t .follow path ≠ .ok loc := fun loc hloc =>
      absurd (locate_eq_ok_iff.mp hloc).2.2.2.1 (Nat.not_lt.mpr h)
    cases hloc : locate t .follow path with
    | ok loc => exact absurd hloc (hnone loc)
    | error problem =>
      rw [pathStops, pathStops, if_neg (not_isFile_of_error hloc), if_neg (not_isFile_of_error hloc),
        listingAt_of_error hloc]
  | succ depth ih =>
    rw [pathStops, pathStops]
    cases hlist : listingAt t path with
    | error problem => rfl
    | ok names =>
      have hnames : names.flatMap (nameStops t sel (pathStops t sel (depth + 2)) path) =
          names.flatMap (nameStops t sel (pathStops t sel (depth + 1)) path) := by
        refine List.flatMap_congr fun p hp => ?_
        have hsize := join_size path (isName_of_mem_listing hn hlist hp)
        have hroom : pathLimit ≤ (join path p.1).utf8ByteSize + depth := by omega
        have hbelow := ih hroom
        unfold nameStops
        dsimp only
        rw [hbelow]
      dsimp only
      rw [hnames]

/-- More directories than there are bytes in a path make no difference. -/
lemma pathStops_eq_stops (hn : t.Named) (path : String) (h : pathLimit < depth) :
    pathStops t sel depth path = stops t sel path := by
  obtain ⟨more, rfl⟩ := Nat.exists_eq_add_of_lt h
  induction more with
  | zero => rfl
  | succ more ih =>
    have hroom : pathLimit ≤ path.utf8ByteSize + (pathLimit + more) := by omega
    exact (pathStops_succ hn hroom).trans (ih (by omega))

lemma fault_of_mem_pathStops {f : Fault} (h : .fault f ∈ pathStops t sel depth path) :
    ∃ problem q, f = .path problem q := by
  refine forall_pathStops (P := fun stop => ∀ g, stop = .fault g → ∃ problem q, g = .path problem q)
    ?_ ?_ ?_ ?_ h f rfl
  · rintro path _ ⟨⟩
  · rintro path _ ⟨⟩
  · rintro src _ ⟨⟩
  · rintro problem path _ ⟨⟩
    exact ⟨problem, path, rfl⟩

/-- What is met below a path has the names of the path, and what is met under a name of a directory has
that name after those of the directory. -/
lemma prefix_of_mem_nameStops (hn : t.Named) {enter : String → List Stop}
    (henter : ∀ {dir src}, src ∈ sources (enter dir) → namesIn dir.toList <+: namesIn src.path.toList)
    (hlist : listingAt t path = .ok names) {p : String × NameKind} (hp : p ∈ names)
    (h : src ∈ sources (nameStops t sel enter path p)) :
    namesIn path.toList ++ [p.1] <+: namesIn src.path.toList := by
  rw [← namesIn_join path (isName_of_mem_listing hn hlist hp)]
  rcases (mem_nameStops_cases h).2 with h | ⟨known, -, rfl⟩
  · exact henter h
  · exact List.prefix_rfl

lemma prefix_of_mem_sources (hn : t.Named) {path : String} {src : Source}
    (h : src ∈ sources (pathStops t sel depth path)) : namesIn path.toList <+: namesIn src.path.toList := by
  induction depth generalizing path src with
  | zero => cases h
  | succ depth ih =>
    rcases mem_sources_cases h with ⟨-, rfl⟩ | ⟨names, p, hp, hlist, h⟩
    · exact List.prefix_rfl
    · exact (List.prefix_append _ _).trans (prefix_of_mem_nameStops hn ih hlist hp h)

lemma sources_flatMap {α : Type} (f : α → List Stop) (l : List α) :
    sources (l.flatMap f) = l.flatMap fun a => sources (f a) := by
  induction l with
  | nil => rfl
  | cons a l ih => rw [List.flatMap_cons, sources_append, ih, List.flatMap_cons]

lemma sources_pathStops_cons (t : FileTree) (sel : Selection) (depth : Nat) {path : String}
    (hfile : ¬t.isFile path = true) (hlist : listingAt t path = .ok names) :
    sources (pathStops t sel (depth + 1) path) =
      names.flatMap fun p => sources (nameStops t sel (pathStops t sel depth) path p) := by
  rw [pathStops, if_neg hfile, hlist]
  exact sources_flatMap _ names

lemma nodup_listing (ht : t.Linked) (h : listingAt t path = .ok names) : names.Pairwise (·.1 ≠ ·.1) := by
  obtain ⟨loc, -, -, rfl⟩ := listingAt_eq_ok h
  exact List.pairwise_map.mpr (nodup_listedAt_of_entries ht.nodup loc)

lemma nodup_paths (ht : t.Linked) (depth : Nat) (path : String) :
    ((sources (pathStops t sel depth path)).map Source.path).Nodup := by
  have hone : ∀ stop, ((sources [stop]).map Source.path).Nodup := by
    intro stop
    cases stop <;> simp [sources]
  induction depth generalizing path with
  | zero => exact List.nodup_nil
  | succ depth ih =>
    by_cases hfile : t.isFile path = true
    · rw [pathStops, if_pos hfile]
      exact hone _
    cases hlist : listingAt t path with
    | error problem =>
      rw [pathStops, if_neg hfile, hlist]
      exact List.nodup_nil
    | ok names =>
      have hprefix : ∀ {p : String × NameKind} {src : Source}, p ∈ names →
          src ∈ sources (nameStops t sel (pathStops t sel depth) path p) →
          namesIn path.toList ++ [p.1] <+: namesIn src.path.toList :=
        fun hp h => prefix_of_mem_nameStops ht.named (prefix_of_mem_sources ht.named) hlist hp h
      rw [sources_pathStops_cons t sel depth hfile hlist, List.map_flatMap, List.nodup_flatMap]
      refine ⟨fun p hp => ?_, (nodup_listing ht hlist).imp_of_mem fun {p q} hp hq hne => ?_⟩
      · unfold nameStops
        dsimp only
        split
        · exact hone _
        · split
          · exact hone _
          · exact ih _
          · exact hone _
      · refine List.disjoint_left.mpr ?_
        rintro _ hpath hpath'
        obtain ⟨src, hsrc, rfl⟩ := List.mem_map.mp hpath
        obtain ⟨src', hsrc', heq⟩ := List.mem_map.mp hpath'
        have hpre := hprefix hp hsrc
        have hpre' := hprefix hq hsrc'
        rw [heq] at hpre'
        have hsame := (List.prefix_of_prefix_length_le hpre hpre' (by simp)).eq_of_length (by simp)
        exact hne (List.singleton_inj.mp (List.append_cancel_left hsame))

/-- The paths that a walk meets: the one from which it starts, and those of the names in directories it
has met that are not skipped. -/
inductive Meets (t : FileTree) (sel : Selection) (path : String) : String → Prop where
  | start : Meets t sel path path
  | name {dir : String} {names : List (String × NameKind)} {p : String × NameKind}
    (hdir : Meets t sel path dir) (hlist : listingAt t dir = .ok names) (hp : p ∈ names)
    (hskip : sel.skips p.1 = false) : Meets t sel path (join dir p.1)

/-- A path that a walk meets at its start or under the name of a link. -/
inductive Leaps (t : FileTree) (sel : Selection) (path : String) : String → Prop where
  | start : Leaps t sel path path
  | link {dir name : String} {names : List (String × NameKind)} (hdir : Meets t sel path dir)
    (hlist : listingAt t dir = .ok names) (hp : (name, .link) ∈ names) (hskip : sel.skips name = false) :
    Leaps t sel path (join dir name)

/-- Neither the start of a walk nor a link that it meets leads to a place to which another path leads
that it meets. -/
def Apart (t : FileTree) (sel : Selection) (path : String) : Prop :=
  ∀ q q' place, Leaps t sel path q → Meets t sel path q' → locate t .follow q = .ok place →
    locate t .follow q' = .ok place → q = q'

lemma Meets.trans {dir q : String} (h : Meets t sel path dir) (h' : Meets t sel dir q) :
    Meets t sel path q := by
  induction h' with
  | start => exact h
  | name _ hlist hp hskip ih => exact .name ih hlist hp hskip

lemma meets_of_mem_sources (h : src ∈ sources (pathStops t sel depth path)) : Meets t sel path src.path := by
  induction depth generalizing path with
  | zero => cases h
  | succ depth ih =>
    rcases mem_sources_cases h with ⟨-, rfl⟩ | ⟨names, p, hp, hlist, h⟩
    · exact .start
    · obtain ⟨hskip, h | ⟨known, -, rfl⟩⟩ := mem_nameStops_cases h
      · exact (Meets.name .start hlist hp hskip).trans (ih h)
      · exact .name .start hlist hp hskip

lemma Leaps.meets {q : String} (h : Leaps t sel path q) : Meets t sel path q := by
  cases h with
  | start => exact .start
  | link hdir hlist hp hskip => exact .name hdir hlist hp hskip

/-- Under a name that is met, and not that of a link, a path leads to that name or nowhere. -/
lemma place_of_listing (hn : t.Named) {dir : String}
    {p : String × NameKind} (hlist : listingAt t dir = .ok names) (hp : p ∈ names) (hkind : p.2 ≠ .link)
    {place : Location} (h : locate t .follow (join dir p.1) = .ok place) :
    ∃ loc, locate t .follow dir = .ok loc ∧ place = p.1 :: loc := by
  have hname := isName_of_mem_listing hn hlist hp
  obtain ⟨loc, hloc, -, rfl⟩ := listingAt_eq_ok hlist
  obtain ⟨name, hmem, rfl⟩ := List.mem_map.mp hp
  obtain ⟨e, he⟩ := mem_listedAt.mp hmem
  refine ⟨loc, hloc, eq_of_locate_join hname hloc he ?_ h⟩
  rintro target rfl
  dsimp only at hkind
  rw [he] at hkind
  exact hkind rfl

/-- Where links and the start lead to places of their own, no two paths that are met lead to the same
place. -/
lemma Apart.eq_of_locate (hn : t.Named) (hapart : Apart t sel path) {q q' : String} {place : Location}
    (h : Meets t sel path q) (h' : Meets t sel path q') (hq : locate t .follow q = .ok place)
    (hq' : locate t .follow q' = .ok place) : q = q' := by
  induction h generalizing q' place with
  | start => exact hapart _ _ _ .start h' hq hq'
  | @name dir names p hdir hlist hp hskip ih =>
    by_cases hkind : p.2 = .link
    · obtain ⟨name, kind⟩ := p
      cases hkind
      exact hapart _ _ _ (.link hdir hlist hp hskip) h' hq hq'
    cases h' with
    | start => exact (hapart _ _ _ .start (.name hdir hlist hp hskip) hq' hq).symm
    | @name dir' names' p' hdir' hlist' hp' hskip' =>
      by_cases hkind' : p'.2 = .link
      · obtain ⟨name', kind'⟩ := p'
        cases hkind'
        exact (hapart _ _ _ (.link hdir' hlist' hp' hskip') (.name hdir hlist hp hskip) hq' hq).symm
      obtain ⟨loc, hloc, rfl⟩ := place_of_listing hn hlist hp hkind hq
      obtain ⟨loc', hloc', heq⟩ := place_of_listing hn hlist' hp' hkind' hq'
      obtain ⟨hname, rfl⟩ := List.cons.inj heq
      rw [hname, ih hdir' hloc hloc']

end SourceWalk

namespace SourceTree

open SourceWalk

variable {tree : SourceTree} {m : ReadMode} {w w₀ : World} {messages : List String}

def taker (tree : SourceTree) (k : Nat) : Visitor (List (Source × Content)) := fun src found => do
  match ← tree.collector src found with
  | .done items => return .done items
  | .yield items => return if items.length < k then .yield items else .done items

def upTo (tree : SourceTree) (k : Nat) : Session (List (Source × Content)) :=
  fold tree.selection tree.path [] (tree.taker k)

/-- The files that are found on the way along stops, and the fault that ends it. -/
def yields (t : FileTree) (sel : Selection) (m : ReadMode) :
    List Stop → List (Source × Content) × Option Fault
  | [] => ([], none)
  | .note _ :: rest => yields t sel m rest
  | .fault f :: _ => ([], some f)
  | .source src :: rest =>
    match t.read src.path with
    | .error problem => ([], some (.path problem src.path))
    | .ok _ => (found t sel m [src] ++ (yields t sel m rest).1, (yields t sel m rest).2)

def endedBy {α : Type} (a : α) : Option Fault → Except Fault α
  | none => .ok a
  | some f => .error f

section

variable (hmode : tree.mode = .mode m) (hdata : tree.selection.skippedData.mode = m)

include hmode hdata

lemma run_replay_collector (stops : List Stop) (items : List (Source × Content))
    (hw : World.Warned w₀ messages w) : ((replay tree.collector stops items).run w).1 =
      endedBy (.yield (items ++ (yields w₀.tree tree.selection m stops).1))
        (yields w₀.tree tree.selection m stops).2 := by
  induction stops generalizing items messages w with
  | nil => simp [yields, endedBy]
  | cons stop stops ih =>
    cases stop with
    | note message => exact ih items (hw.logged_debug message)
    | fault f => rfl
    | source src =>
      rw [run_replay_source, Session.run_bind]
      rcases run_collector hmode hdata src items hw with ⟨data, w', hread, hrun, hw'⟩ | ⟨problem, hread, hrun⟩
      · rw [hrun, yields, hread]
        dsimp only [andThen]
        rw [ih _ hw', List.append_assoc]
      · rw [hrun, yields, hread]
        rfl

lemma run_replay_taker {k : Nat} (stops : List Stop) {items : List (Source × Content)}
    (hk : items.length < k) (hw : World.Warned w₀ messages w) :
    ((replay (tree.taker k) stops items).run w).1 =
      if k ≤ items.length + (yields w₀.tree tree.selection m stops).1.length then
        .ok (.done ((items ++ (yields w₀.tree tree.selection m stops).1).take k))
      else endedBy (.yield (items ++ (yields w₀.tree tree.selection m stops).1))
        (yields w₀.tree tree.selection m stops).2 := by
  induction stops generalizing items messages w with
  | nil =>
    rw [if_neg (by simpa [yields] using hk)]
    simp [yields, endedBy]
  | cons stop stops ih =>
    cases stop with
    | note message => exact ih hk (hw.logged_debug message)
    | fault f =>
      rw [if_neg (by simpa [yields] using hk)]
      rfl
    | source src =>
      rw [run_replay_source, Session.run_bind, taker, Session.run_bind]
      rcases run_collector hmode hdata src items hw with ⟨data, w', hread, hrun, hw'⟩ | ⟨problem, hread, hrun⟩
      · have hfew : (found w₀.tree tree.selection m [src]).length ≤ 1 := List.length_filterMap_le _ _
        rw [hrun, yields, hread]
        dsimp only
        by_cases hmore : (items ++ found w₀.tree tree.selection m [src]).length < k
        · rw [if_pos hmore]
          refine (ih hmore hw').trans ?_
          rw [List.length_append, List.length_append, Nat.add_assoc, List.append_assoc]
        · have hfull : (items ++ found w₀.tree tree.selection m [src]).length = k := by
            rw [List.length_append] at hmore ⊢
            omega
          rw [if_neg hmore, ← List.append_assoc, List.take_left' hfull, if_pos]
          · rfl
          · rw [List.length_append] at hfull ⊢
            omega
      · rw [hrun, yields, hread, if_neg (by simpa using hk)]
        rfl

end

/-- An iteration over a source tree: it gives items one after the other, and then it ends or comes to a
fault. -/
structure Iterates (tree : SourceTree) (w : World) (items : List (Source × Content)) (fault : Option Fault) :
    Prop where
  files : (tree.files.run w).1 = endedBy items fault
  upTo : ∀ k, 0 < k → ((tree.upTo k).run w).1 =
    if k ≤ items.length then .ok (items.take k) else endedBy items fault

section

variable {path : String} (hmode : tree.mode = .mode m) (hdata : tree.selection.skippedData.mode = m)

include hmode hdata

lemma keeps_taker (k : Nat) (t : FileTree) : Keeps (· = t) (tree.taker k) := by
  intro src items w hw
  have hkeeps := keeps_collector hmode hdata t src items w hw
  rw [taker, Session.run_bind]
  rcases hrun : (tree.collector src items).run w with ⟨r, w'⟩
  rw [hrun] at hkeeps
  cases r with
  | error f => exact hkeeps
  | ok step => cases step <;> exact hkeeps

lemma iterates_yields (hpath : tree.path = .text path) (w : World) :
    Iterates tree w (yields w.tree tree.selection m (stops w.tree tree.selection path)).1
      (yields w.tree tree.selection m (stops w.tree tree.selection path)).2 := by
  have hw := World.Warned.refl w
  constructor
  · rw [files_eq, hpath, run_fold (fun _ => SameView.of_eq) (keeps_collector hmode hdata w.tree) path [] rfl]
    refine (congrArg (Except.map outcome) (run_replay_collector hmode hdata _ _ hw)).trans ?_
    cases (yields w.tree tree.selection m (stops w.tree tree.selection path)).2 <;> rfl
  · intro k hk
    rw [upTo, hpath, run_fold (fun _ => SameView.of_eq) (keeps_taker hmode hdata k w.tree) path [] rfl]
    refine (congrArg (Except.map outcome) (run_replay_taker hmode hdata _ hk hw)).trans ?_
    rw [List.length_nil, Nat.zero_add, List.nil_append]
    split
    · rfl
    · cases (yields w.tree tree.selection m (stops w.tree tree.selection path)).2 <;> rfl

end

lemma found_singleton (t : FileTree) (sel : Selection) (m : ReadMode) (src : Source) :
    found t sel m [src] = [] ∨
      ∃ data content, t.read src.path = .ok data ∧ found t sel m [src] = [(src, content)] := by
  unfold found
  rw [List.filterMap_cons, List.filterMap_nil]
  cases t.read src.path with
  | error problem => exact .inl rfl
  | ok data =>
    cases hwant : Source.wanted sel m data with
    | none => exact .inl (by simp [hwant])
    | some d => exact .inr ⟨data, Content.of m d, rfl, by simp [hwant]⟩

section

variable {t : FileTree} {sel : Selection} {m : ReadMode}

lemma yields_sublist (t : FileTree) (sel : Selection) (m : ReadMode) (stops : List Stop) :
    ((yields t sel m stops).1.map Prod.fst).Sublist (sources stops) := by
  induction stops with
  | nil => exact .slnil
  | cons stop stops ih =>
    cases stop with
    | note message => exact ih
    | fault f => exact List.nil_sublist _
    | source src =>
      rw [yields]
      split
      · exact List.nil_sublist _
      · rcases found_singleton t sel m src with hnone | ⟨data, content, -, hone⟩
        · rw [hnone]
          exact ih.cons src
        · rw [hone]
          exact ih.cons_cons src

lemma file_of_mem_yields {stops : List Stop} {item : Source × Content} (h : item ∈ (yields t sel m stops).1) :
    ∃ place data mode, locate t .follow item.1.path = .ok place ∧ t.get? place = some (.file data mode) := by
  induction stops with
  | nil => cases h
  | cons stop stops ih =>
    cases stop with
    | note message => exact ih h
    | fault f => cases h
    | source src =>
      rw [yields] at h
      split at h
      · cases h
      · rcases List.mem_append.mp h with h | h
        · rcases found_singleton t sel m src with hnone | ⟨data, content, hread, hone⟩
          · rw [hnone] at h
            cases h
          · rw [hone, List.mem_singleton] at h
            subst h
            obtain ⟨place, mode, hloc, hfile⟩ := read_eq_ok_iff.mp hread
            exact ⟨place, data, mode, hloc, hfile⟩
        · exact ih h

lemma fault_of_yields {path : String} {f : Fault}
    (h : (yields t sel m (pathStops t sel depth path)).2 = some f) : ∃ problem q, f = .path problem q := by
  have hstops : ∀ g, .fault g ∈ pathStops t sel depth path → ∃ problem q, g = .path problem q :=
    fun g => fault_of_mem_pathStops
  generalize pathStops t sel depth path = stops at h hstops
  induction stops with
  | nil => cases h
  | cons stop stops ih =>
    have hrest := fun g hg => hstops g (List.mem_cons_of_mem _ hg)
    cases stop with
    | note message => exact ih h hrest
    | fault g =>
      cases h
      exact hstops f List.mem_cons_self
    | source src =>
      rw [yields] at h
      split at h
      · cases h
        exact ⟨_, _, rfl⟩
      · exact ih h hrest

end

/-- A world with a file outside a directory, and a file and a link in it. -/
def linkedWorld (target : String) : World where
  tree := { entries := [(["x.c"], .file [0x78] 0o644), (["d"], .dir 0o755), (["a.c", "d"], .file [0x78] 0o644),
    (["b.c", "d"], .link target)] }
  year := 2024

lemma linked_linkedWorld (target : String) : (linkedWorld target).tree.Linked :=
  ⟨named_of_entries (by simp [linkedWorld]; decide), by simp [linkedWorld]⟩

namespace linkedWorld

variable {target : String}

lemma locate_dir (target : String) : locate (linkedWorld target).tree .follow "d" = .ok ["d"] := by
  refine locate_eq_ok_iff.mpr ⟨by decide, by decide, by decide, by decide, ?_⟩
  have hsteps : steps "d" = ["d"] := by decide +kernel
  rw [hsteps, walk]
  exact walk_nil _ _ _

lemma locate_below {path name : String} {place : Location}
    (hpath : '\x00' ∉ path.toList ∧ path ≠ "" ∧ isAbsolute path = false ∧
      path.utf8ByteSize < pathLimit) (hsteps : steps path = ["d", name])
    (h : walk (linkedWorld target).tree .follow linkLimit ["d"] [name] = .ok place) :
    locate (linkedWorld target).tree .follow path = .ok place := by
  refine locate_eq_ok_iff.mpr ⟨hpath.1, hpath.2.1, hpath.2.2.1, hpath.2.2.2, ?_⟩
  rw [hsteps, walk]
  exact h

lemma locate_file (target : String) :
    locate (linkedWorld target).tree .follow "d/a.c" = .ok ["a.c", "d"] := by
  refine locate_below (by decide) (by decide +kernel : steps "d/a.c" = ["d", "a.c"]) ?_
  rw [walk]
  exact walk_nil _ _ _

lemma locate_link {place : Location} (hrel : isAbsolute target = false)
    (h : walk (linkedWorld target).tree .follow 39 ["d"] (steps target) = .ok place) :
    locate (linkedWorld target).tree .follow "d/b.c" = .ok place := by
  have hstep : NameStep (linkedWorld target).tree ["d"] "b.c" :=
    ⟨rfl, by decide, by decide, by decide, by decide⟩
  refine locate_below (by decide) (by decide +kernel)
    ((hstep.walk_link (by decide) rfl (by decide) hrel).trans ?_)
  rw [List.append_nil, h]

lemma listing_dir (target : String) :
    listingAt (linkedWorld target).tree "d" = .ok [("a.c", .file), ("b.c", .link)] := by
  have hnames : (linkedWorld target).tree.namesAt ["d"] = ["a.c", "b.c"] := by
    simp [linkedWorld, namesAt, List.mergeSort]
  rw [listingAt_of_locate (locate_dir target) rfl, listedAt_sorted rfl, hnames]
  rfl

lemma files_dir {tree : SourceTree} {place : Location}
    (hmake : make (.text "d") (.mode .text) Patterns.usual = .ok tree)
    (hloc : locate (linkedWorld target).tree .follow "d/b.c" = .ok place)
    (hfile : (linkedWorld target).tree.get? place = some (.file [0x78] 0o644)) :
    (tree.files.run (linkedWorld target)).1 =
      .ok [(⟨"a.c", "d/a.c", none⟩, .text ['x']), (⟨"b.c", "d/b.c", some 0o644⟩, .text ['x'])] := by
  obtain ⟨sel, hsel, rfl⟩ := make_eq_ok_iff.mp hmake
  have hnames : ∀ name ∈ ["a.c", "b.c"], sel.skips name = false ∧ sel.wants name = true := by
    cases hsel
    decide +kernel
  have hwanted : Source.wanted sel .text [0x78] = some ['x'] := by
    cases hsel
    rfl
  have hdir : ¬(linkedWorld target).tree.isFile "d" = true := by
    rw [isFile_iff]
    rintro ⟨loc, data, mode, hd, hget⟩
    cases (locate_dir target).symm.trans hd
    cases hget
  have hlook : lookAt (linkedWorld target).tree (join "d" "b.c") .link = .ok (false, some 0o644) := by
    have hentry : (linkedWorld target).tree.entry (join "d" "b.c") = .ok (.file [0x78] 0o644) :=
      entry_of_locate hloc hfile
    rw [lookAt, hentry]
  have hstop : ∀ {name kind known}, name ∈ ["a.c", "b.c"] →
      lookAt (linkedWorld target).tree (join "d" name) kind = .ok (false, known) →
      nameStops (linkedWorld target).tree sel (pathStops (linkedWorld target).tree sel pathLimit) "d"
        (name, kind) = [.source ⟨name, join "d" name, known⟩] := by
    intro name kind known hname hlook
    rw [nameStops, (hnames name hname).1, if_neg Bool.false_ne_true, hlook]
    dsimp only
    rw [sourceStop, if_pos (hnames name hname).2]
  have hstops : stops (linkedWorld target).tree sel "d" = [.note ("scanning " ++ Text.quote "d"),
      .source ⟨"a.c", "d/a.c", none⟩, .source ⟨"b.c", "d/b.c", some 0o644⟩] := by
    rw [stops, pathStops, if_neg hdir, listing_dir]
    dsimp only
    rw [List.flatMap_cons, List.flatMap_cons, hstop (by decide) rfl, hstop (by decide) hlook]
    rfl
  have hfound : ∀ {src : Source} {place : Location},
      locate (linkedWorld target).tree .follow src.path = .ok place →
      (linkedWorld target).tree.get? place = some (.file [0x78] 0o644) →
      ∀ rest, yields (linkedWorld target).tree sel .text (.source src :: rest) =
        ((src, .text ['x']) :: (yields (linkedWorld target).tree sel .text rest).1,
          (yields (linkedWorld target).tree sel .text rest).2) := by
    intro src place hloc hfile rest
    rw [yields, found, List.filterMap_cons, read_of_locate hloc hfile]
    dsimp only
    rw [hwanted]
    rfl
  rw [(iterates_yields rfl (Selection.mode_of_ofPatterns hsel) rfl (linkedWorld target)).files, hstops,
    yields, hfound (locate_file target) rfl, hfound hloc hfile]
  rfl

lemma mem_of_meets {sel : Selection} {q : String} {place : Location}
    (hloc : locate (linkedWorld target).tree .follow "d/b.c" = .ok place)
    (hfile : (linkedWorld target).tree.isDirAt place = false)
    (h : Meets (linkedWorld target).tree sel "d" q) : q ∈ ["d", "d/a.c", "d/b.c"] := by
  induction h with
  | start => exact List.mem_cons_self
  | @name dir names p _ hlist hp _ ih =>
    obtain ⟨loc, hdir, hisDir, -⟩ := listingAt_eq_ok hlist
    simp only [List.mem_cons, List.not_mem_nil, or_false] at ih
    rcases ih with rfl | rfl | rfl
    · cases (listing_dir target).symm.trans hlist
      rcases List.mem_pair.mp hp with rfl | rfl <;> decide
    · cases (locate_file target).symm.trans hdir
      cases hisDir
    · cases hloc.symm.trans hdir
      cases hfile.symm.trans hisDir

lemma apart {sel : Selection} {place : Location}
    (hloc : locate (linkedWorld target).tree .follow "d/b.c" = .ok place)
    (hfile : (linkedWorld target).tree.isDirAt place = false) (hother : place ≠ ["a.c", "d"]) :
    Apart (linkedWorld target).tree sel "d" := by
  have hdir : place ≠ ["d"] := by
    rintro rfl
    cases hfile
  intro q q' l hq hq' hl hl'
  have hmem := mem_of_meets hloc hfile hq.meets
  have hmem' := mem_of_meets hloc hfile hq'
  have hd := locate_dir target
  have ha := locate_file target
  simp only [List.mem_cons, List.not_mem_nil, or_false] at hmem hmem'
  rcases hmem with rfl | rfl | rfl <;> rcases hmem' with rfl | rfl | rfl <;> simp_all

end linkedWorld

end SourceTree

end SourceTidy
