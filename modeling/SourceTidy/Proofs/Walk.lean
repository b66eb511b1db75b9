import SourceTidy.Proofs.SessionRun
import SourceTidy.Source

/-!
# The stops of a walk

A walk through a source tree is a list of stops: records for the log, sources that are offered to
the visitor, and at most one fault that ends it. With a visitor that does not change what the walk
sees of the tree, it is the replay of the stops of the first tree.
-/

namespace SourceTidy.SourceWalk

open Session SourceTidy.Path

variable {done : List Source} {dir path : String} {w w' : World}

/-- What a walk comes to. -/
inductive Stop where
  | note (message : String)
  | source (src : Source)
  | fault (f : Fault)
  deriving DecidableEq, Repr

/-- What `listing` finds. -/
def readingAt (t : FileTree) (path : String) : Except PathProblem (List (String × Given)) := do
  let loc ← locate t .follow path
  if !t.isDirAt loc then .error .notDirectory
  else .ok ((t.turnsAt loc).map (givenAt t loc))

def known? : String × Given → Option (String × NameKind)
  | (name, .known kind) => some (name, kind)
  | (_, .awaited _ _) => none

/-- The names that are in a directory from the start, in the order of their turns, and what stands
there. -/
def listingAt (t : FileTree) (path : String) : Except PathProblem (List (String × NameKind)) :=
  (readingAt t path).map (·.filterMap known?)

def lookAt (t : FileTree) (path : String) : NameKind → Except Fault (Bool × Option Nat)
  | .dir => .ok (true, none)
  | .file => .ok (false, none)
  | .link =>
    match t.entry path with
    | .ok (.dir m) => .ok (true, some m)
    | .ok (.file _ m) => .ok (false, some m)
    | .ok (.link _) | .error .notFound => .ok (false, none)
    | .error problem => .error (.path problem path)

def skipNote (path : String) : Stop := .note ("skipping " ++ Text.quote path)

def sourceStop (sel : Selection) (src : Source) : Stop :=
  if sel.wants src.name then .source src else skipNote src.path

/-- The stops under a name of a directory, where `enter` has those of a directory below. -/
def nameStops (t : FileTree) (sel : Selection) (enter : String → List Stop) (dir : String)
    (p : String × NameKind) : List Stop :=
  let path := join dir p.1
  if sel.skips p.1 then [skipNote path]
  else match lookAt t path p.2 with
    | .error f => [.fault f]
    | .ok (true, _) => enter path
    | .ok (false, knownMode) => [sourceStop sel { name := p.1, path, knownMode }]

lemma nameStops_file (t : FileTree) (sel : Selection) (enter : String → List Stop) (dir name : String) :
    nameStops t sel enter dir (name, .file) = [if sel.skips name then skipNote (join dir name)
      else sourceStop sel { name, path := join dir name }] := by
  unfold nameStops
  split <;> rfl

def pathStops (t : FileTree) (sel : Selection) : Nat → String → List Stop
  | 0, path => [.fault (.path .nameTooLong path)]
  | depth + 1, path =>
    if t.isFile path then
      [if sel.skips (baseName path) then skipNote path else sourceStop sel (Source.ofPath path)]
    else .note ("scanning " ++ Text.quote path) ::
      match listingAt t path with
      | .error problem => [.fault (.path problem path)]
      | .ok names => names.flatMap (nameStops t sel (pathStops t sel depth) path)

section

variable {t : FileTree} {sel : Selection} {stop : Stop}

lemma sourceStop_cases (sel : Selection) (src : Source) :
    sourceStop sel src = .source src ∨ sourceStop sel src = skipNote src.path := by
  unfold sourceStop
  split
  · exact .inl rfl
  · exact .inr rfl

lemma mem_nameStops {enter : String → List Stop} {p : String × NameKind}
    (h : stop ∈ nameStops t sel enter dir p) :
    stop = skipNote (join dir p.1) ∨
      (∃ f, lookAt t (join dir p.1) p.2 = .error f ∧ stop = .fault f) ∨
      sel.skips p.1 = false ∧ (stop ∈ enter (join dir p.1) ∨
        ∃ known, lookAt t (join dir p.1) p.2 = .ok (false, known) ∧
          stop = sourceStop sel { name := p.1, path := join dir p.1, knownMode := known }) := by
  unfold nameStops at h
  dsimp only at h
  split at h
  · exact .inl (List.mem_singleton.mp h)
  · next hskip =>
    have hskip' := eq_false_of_ne_true hskip
    split at h
    · next f hlook => exact .inr (.inl ⟨f, hlook, List.mem_singleton.mp h⟩)
    · exact .inr (.inr ⟨hskip', .inl h⟩)
    · next known hlook => exact .inr (.inr ⟨hskip', .inr ⟨known, hlook, List.mem_singleton.mp h⟩⟩)

lemma mem_pathStops {depth : Nat} (h : stop ∈ pathStops t sel (depth + 1) path) :
    t.isFile path = true ∧ (stop = skipNote path ∨ stop = sourceStop sel (.ofPath path)) ∨
      stop = .note ("scanning " ++ Text.quote path) ∨
      (∃ problem, listingAt t path = .error problem ∧ stop = .fault (.path problem path)) ∨
      ∃ names, ∃ p ∈ names, listingAt t path = .ok names ∧
        stop ∈ nameStops t sel (pathStops t sel depth) path p := by
  rw [pathStops] at h
  split at h
  · next hfile =>
    rw [List.mem_singleton] at h
    split at h
    · exact .inl ⟨hfile, .inl h⟩
    · exact .inl ⟨hfile, .inr h⟩
  · rcases List.mem_cons.mp h with h | h
    · exact .inr (.inl h)
    · split at h
      · next problem hlist => exact .inr (.inr (.inl ⟨problem, hlist, List.mem_singleton.mp h⟩))
      · next names hlist =>
        obtain ⟨p, hp, h⟩ := List.mem_flatMap.mp h
        exact .inr (.inr (.inr ⟨names, p, hp, hlist, h⟩))

lemma fault_of_lookAt {kind : NameKind} {f : Fault} (h : lookAt t path kind = .error f) :
    ∃ problem, f = .path problem path := by
  unfold lookAt at h
  split at h
  · cases h
  · cases h
  · split at h
    · cases h
    · cases h
    · cases h
    · cases h
    · cases h
      exact ⟨_, rfl⟩

/-- The stops of a walk are sources, two kinds of records and paths that cannot be followed. -/
lemma forall_pathStops {P : Stop → Prop} (hskip : ∀ path, P (skipNote path))
    (hscan : ∀ path, P (.note ("scanning " ++ Text.quote path))) (hsource : ∀ src, P (.source src))
    (hfault : ∀ problem path, P (.fault (.path problem path))) {depth : Nat}
    (h : stop ∈ pathStops t sel depth path) : P stop := by
  have hoffer : ∀ src, P (sourceStop sel src) := by
    intro src
    rcases sourceStop_cases sel src with hstop | hstop
    · exact hstop ▸ hsource src
    · exact hstop ▸ hskip src.path
  induction depth generalizing path with
  | zero => exact List.mem_singleton.mp h ▸ hfault _ _
  | succ depth ih =>
    rcases mem_pathStops h with ⟨-, rfl | rfl⟩ | rfl | ⟨problem, -, rfl⟩ | ⟨names, p, -, -, h⟩
    · exact hskip path
    · exact hoffer _
    · exact hscan path
    · exact hfault problem path
    · rcases mem_nameStops h with rfl | ⟨f, hlook, rfl⟩ | ⟨-, h | ⟨known, -, rfl⟩⟩
      · exact hskip _
      · obtain ⟨problem, rfl⟩ := fault_of_lookAt hlook
        exact hfault problem _
      · exact ih h
      · exact hoffer _

end

variable {σ : Type}

def replay (visit : Visitor σ) : List Stop → σ → Session (ForInStep σ)
  | [], s => return .yield s
  | .note message :: rest, s => do
    log .debug message
    replay visit rest s
  | .fault f :: _, _ => throw f
  | .source src :: rest, s => do
    match ← visit src s with
    | .done s => return .done s
    | .yield s => replay visit rest s

/-- What follows a part of a walk, unless that ended it. -/
def andThen (next : σ → Session (ForInStep σ)) : ForInStep σ → Session (ForInStep σ)
  | .done s => return .done s
  | .yield s => next s

@[simp] lemma run_replay_nil (visit : Visitor σ) (s : σ) (w : World) :
    (replay visit [] s).run w = (.ok (.yield s), w) := rfl

@[simp] lemma run_replay_note (visit : Visitor σ) (message : String) (rest : List Stop) (s : σ)
    (w : World) : (replay visit (.note message :: rest) s).run w =
      (replay visit rest s).run (w.logged .debug message) := rfl

lemma run_replay_source (visit : Visitor σ) (src : Source) (rest : List Stop) (s : σ) (w : World) :
    (replay visit (.source src :: rest) s).run w = (visit src s >>= andThen (replay visit rest)).run w := by
  rw [replay, run_bind, run_bind]
  rcases (visit src s).run w with ⟨r, w'⟩
  cases r with
  | error f => rfl
  | ok step => cases step <;> rfl

lemma run_replay_append (visit : Visitor σ) (as bs : List Stop) (s : σ) (w : World) :
    (replay visit (as ++ bs) s).run w = (replay visit as s >>= andThen (replay visit bs)).run w := by
  induction as generalizing s w with
  | nil => rfl
  | cons a as ih =>
    cases a with
    | note message =>
      rw [List.cons_append, run_replay_note, ih, run_bind, run_bind, run_replay_note]
    | fault f => rfl
    | source src =>
      rw [List.cons_append, run_replay_source, run_bind, run_bind, run_replay_source,
        run_bind]
      rcases (visit src s).run w with ⟨r, w'⟩
      cases r with
      | error f => rfl
      | ok step =>
        cases step with
        | done s' => rfl
        | yield s' =>
          change (replay visit (as ++ bs) s').run w' = _
          rw [ih, run_bind]
          rfl

/-- Two parts of a walk are the replay of their stops together if each of them is the replay of its own. -/
lemma run_bind_andThen {visit : Visitor σ} {x : Session (ForInStep σ)} {next : σ → Session (ForInStep σ)}
    {as bs : List Stop} {s : σ} (hx : x.run w = (replay visit as s).run w)
    (hnext : ∀ s' w', (replay visit as s).run w = (.ok (.yield s'), w') →
      (next s').run w' = (replay visit bs s').run w') :
    (x >>= andThen next).run w = (replay visit (as ++ bs) s).run w := by
  rw [run_replay_append, run_bind, run_bind, hx]
  rcases hr : (replay visit as s).run w with ⟨r, w'⟩
  cases r with
  | error f => rfl
  | ok step =>
    cases step with
    | done s' => rfl
    | yield s' => exact hnext s' w' hr

/-- Two trees look alike to a walk. -/
structure SameView (t t' : FileTree) : Prop where
  isFile : ∀ path, t'.isFile path = t.isFile path
  reading : ∀ path, readingAt t' path = readingAt t path
  arrivals : t'.arrivals = t.arrivals
  look : ∀ path names, listingAt t path = .ok names → ∀ p ∈ names,
    lookAt t' (join path p.1) p.2 = lookAt t (join path p.1) p.2

lemma SameView.of_eq {t t' : FileTree} (h : t' = t) : SameView t t' := by
  subst h
  exact ⟨fun _ => rfl, fun _ => rfl, rfl, fun _ _ _ _ _ => rfl⟩

lemma SameView.listing {t t' : FileTree} (h : SameView t t') (path : String) :
    listingAt t' path = listingAt t path := by
  rw [listingAt, listingAt, h.reading]

lemma run_listing (path : String) (w : World) :
    (listing path).run w = ((readingAt w.tree path).mapError (Fault.path · path), w) :=
  run_query _ _ _

lemma count_of_awaited {t : FileTree} {given : List (String × Given)}
    (h : readingAt t path = .ok given) {name : String} {loc : Location} {count : Nat}
    (hmem : (name, .awaited loc count) ∈ given) : count = t.arrivals.length := by
  unfold readingAt at h
  cases hloc : locate t .follow path with
  | error problem => simp [hloc, bind, Except.bind] at h
  | ok loc' =>
    simp only [hloc, bind, Except.bind] at h
    split at h
    · cases h
    · cases h
      obtain ⟨turn, -, hturn⟩ := List.mem_map.mp hmem
      cases turn with
      | there n => cases hturn
      | late n =>
        cases hturn
        rfl

lemma kindNow?_awaited {t : FileTree} (loc : Location) :
    kindNow? t (.awaited loc t.arrivals.length) = none := by
  simp [kindNow?, FileTree.arrivedSince]

lemma run_look (path : String) (kind : NameKind) (w : World) :
    (look path kind).run w = (lookAt w.tree path kind, w) := by
  cases kind with
  | dir => rfl
  | file => rfl
  | link =>
    rw [look, run_bind_ok (run_get w), lookAt]
    cases w.tree.entry path with
    | ok e => cases e <;> rfl
    | error problem => cases problem <;> rfl

lemma run_offer (sel : Selection) (visit : Visitor σ) (src : Source) (s : σ) (w : World) :
    (offer sel visit src s).run w = (replay visit [sourceStop sel src] s).run w := by
  unfold offer sourceStop
  split
  · rw [run_replay_source, run_bind]
    rcases (visit src s).run w with ⟨r, w'⟩
    cases r with
    | error f => rfl
    | ok step => cases step <;> rfl
  · rfl

/-- A visitor that leaves a property of the tree as it is. -/
def Keeps (P : FileTree → Prop) (visit : Visitor σ) : Prop :=
  ∀ src s w, P w.tree → P ((visit src s).run w).2.tree

variable {t : FileTree} {sel : Selection} {P : FileTree → Prop} {visit : Visitor σ}

lemma Keeps.replay (hv : Keeps P visit) (stops : List Stop) (s : σ) (hw : P w.tree) :
    P ((replay visit stops s).run w).2.tree := by
  induction stops generalizing s w with
  | nil => exact hw
  | cons stop stops ih =>
    cases stop with
    | note message =>
      rw [run_replay_note]
      exact ih s (by simpa using hw)
    | fault f => exact hw
    | source src =>
      have hkeep := hv src s w hw
      rw [run_replay_source, run_bind]
      rcases hvis : (visit src s).run w with ⟨r, w'⟩
      rw [hvis] at hkeep
      cases r with
      | error f => exact hkeep
      | ok step =>
        cases step with
        | done s' => exact hkeep
        | yield s' => exact ih s' hkeep

lemma run_visitName_file (enter : String → σ → Session (ForInStep σ)) (name : String) (s : σ) (w : World) :
    (visitName sel visit enter dir name .file s).run w =
      (replay visit [if sel.skips name then skipNote (join dir name)
        else sourceStop sel { name, path := join dir name }] s).run w := by
  rw [visitName]
  by_cases hskip : sel.skips name = true
  · rw [if_pos hskip, if_pos hskip]
    rfl
  · rw [if_neg hskip, if_neg hskip]
    exact run_offer sel visit _ s w

lemma run_visitName {enter : String → σ → Session (ForInStep σ)} {below : String → List Stop}
    {p : String × NameKind} {s : σ}
    (henter : (enter (join dir p.1) s).run w = (replay visit (below (join dir p.1)) s).run w)
    (hlook : lookAt w.tree (join dir p.1) p.2 = lookAt t (join dir p.1) p.2) :
    (visitName sel visit enter dir p.1 p.2 s).run w =
      (replay visit (nameStops t sel below dir p) s).run w := by
  rw [visitName, nameStops]
  by_cases hskip : sel.skips p.1 = true
  · rw [if_pos hskip, if_pos hskip]
    rfl
  rw [if_neg hskip, if_neg hskip]
  have hl : (look (join dir p.1) p.2).run w = (lookAt t (join dir p.1) p.2, w) := by
    rw [run_look, hlook]
  cases hla : lookAt t (join dir p.1) p.2 with
  | error f =>
    rw [hla] at hl
    rw [run_bind_error hl]
    rfl
  | ok answer =>
    rw [hla] at hl
    rw [run_bind_ok hl]
    obtain ⟨isDir, knownMode⟩ := answer
    cases isDir with
    | true => exact henter
    | false => exact run_offer sel visit _ s w

lemma run_visitNames_of_none {given : Given} (h : kindNow? w.tree given = none)
    (enter : String → σ → Session (ForInStep σ)) (name : String) (rest : List (String × Given)) (s : σ) :
    (visitNames sel visit enter dir ((name, given) :: rest) s).run w =
      (visitNames sel visit enter dir rest s).run w := by
  rw [visitNames, run_bind_ok (run_get w), h]

lemma run_visitNames_of_some {given : Given} {kind : NameKind} (h : kindNow? w.tree given = some kind)
    (enter : String → σ → Session (ForInStep σ)) (name : String) (rest : List (String × Given)) (s : σ) :
    (visitNames sel visit enter dir ((name, given) :: rest) s).run w =
      (visitName sel visit enter dir name kind s >>= andThen (visitNames sel visit enter dir rest)).run w := by
  rw [visitNames, run_bind_ok (run_get w), h, run_bind, run_bind]
  rcases (visitName sel visit enter dir name kind s).run w with ⟨r, w'⟩
  cases r with
  | error f => rfl
  | ok step => cases step <;> rfl

lemma run_visitNames (hv : Keeps P visit) {enter : String → σ → Session (ForInStep σ)}
    {below : String → List Stop}
    (henter : ∀ path s w, P w.tree → (enter path s).run w = (replay visit (below path) s).run w)
    {given : List (String × Given)}
    (hlate : ∀ name loc count, (name, .awaited loc count) ∈ given → ∀ t', P t' →
      kindNow? t' (.awaited loc count) = none)
    (hlook : ∀ p ∈ given.filterMap known?, ∀ t', P t' →
      lookAt t' (join dir p.1) p.2 = lookAt t (join dir p.1) p.2)
    (s : σ) (hw : P w.tree) :
    (visitNames sel visit enter dir given s).run w =
      (replay visit ((given.filterMap known?).flatMap (nameStops t sel below dir)) s).run w := by
  induction given generalizing s w with
  | nil => rfl
  | cons p given ih =>
    have hlate' := fun name loc count hmem => hlate name loc count (List.mem_cons_of_mem _ hmem)
    obtain ⟨name, kind | ⟨loc, count⟩⟩ := p
    · rw [List.filterMap_cons_some (show known? (name, .known kind) = some (name, kind) from rfl)] at hlook ⊢
      have hfirst : (visitName sel visit enter dir name kind s).run w =
          (replay visit (nameStops t sel below dir (name, kind)) s).run w :=
        run_visitName (p := (name, kind)) (henter _ s w hw) (hlook _ List.mem_cons_self _ hw)
      rw [List.flatMap_cons, run_visitNames_of_some rfl]
      refine run_bind_andThen hfirst fun s' w' hr => ?_
      have hkeep := hv.replay (nameStops t sel below dir (name, kind)) s hw
      rw [hr] at hkeep
      exact ih hlate' (fun p hp => hlook p (List.mem_cons_of_mem _ hp)) s' hkeep
    · rw [List.filterMap_cons_none (show known? (name, .awaited loc count) = none from rfl)] at hlook ⊢
      rw [run_visitNames_of_none (hlate name loc count List.mem_cons_self _ hw)]
      exact ih hlate' hlook s hw

lemma run_visitPath_of_isFile (hfile : w.tree.isFile path = true) (depth : Nat) (s : σ) :
    (visitPath sel visit (depth + 1) path s).run w =
      (replay visit [if sel.skips (baseName path) then skipNote path
        else sourceStop sel (Source.ofPath path)] s).run w := by
  rw [visitPath, run_bind_ok (run_get w), if_pos hfile]
  change (if sel.skips (baseName path) = true then _ else _ : Session _).run w = _
  by_cases hskip : sel.skips (baseName path) = true
  · rw [if_pos hskip, if_pos hskip]
    rfl
  · rw [if_neg hskip, if_neg hskip]
    exact run_offer sel visit _ s w

/-- A walk with a visitor that does not change what the walk sees of the tree is the replay of the
stops that the first tree has. -/
theorem run_visitPath (hP : ∀ t', P t' → SameView t t') (hv : Keeps P visit) (depth : Nat)
    (path : String) (s : σ) (hw : P w.tree) :
    (visitPath sel visit depth path s).run w =
      (replay visit (pathStops t sel depth path) s).run w := by
  induction depth generalizing path s w with
  | zero => rfl
  | succ depth ih =>
    have hview := hP _ hw
    by_cases hfile : t.isFile path = true
    · rw [pathStops, if_pos hfile, run_visitPath_of_isFile (by rw [hview.isFile, hfile])]
    · rw [visitPath, pathStops, run_bind_ok (run_get w), hview.isFile, if_neg hfile,
        if_neg hfile, run_bind_ok (run_log _ _ _), run_replay_note]
      have hw' : P (w.logged .debug ("scanning " ++ Text.quote path)).tree := by simpa using hw
      have hlist := run_listing path (w.logged .debug ("scanning " ++ Text.quote path))
      rw [(hP _ hw').reading] at hlist
      cases hread : readingAt t path with
      | error problem =>
        rw [hread] at hlist
        rw [run_bind_error hlist, listingAt, hread]
        rfl
      | ok given =>
        have hla : listingAt t path = .ok (given.filterMap known?) := by rw [listingAt, hread]; rfl
        rw [hread] at hlist
        rw [run_bind_ok hlist, hla]
        refine run_visitNames hv (fun path s w hw => ih path s hw) (fun name loc count hmem t' ht' => ?_)
          (fun p hp t' ht' => (hP t' ht').look path _ hla p hp) s hw'
        rw [count_of_awaited hread hmem, ← (hP t' ht').arrivals]
        exact kindNow?_awaited loc

def outcome : ForInStep σ → σ
  | .done s | .yield s => s

def stops (t : FileTree) (sel : Selection) (path : String) : List Stop :=
  pathStops t sel (pathLimit + 1) path

section

variable {t' : FileTree} {sel' : Selection} (hskips : sel'.skips = sel.skips)
  (hwants : sel'.wants = sel.wants)

include hskips hwants

lemma nameStops_congr {enter enter' : String → List Stop}
    (henter : ∀ path, enter' path = enter path) {p : String × NameKind}
    (hlook : lookAt t' (join dir p.1) p.2 = lookAt t (join dir p.1) p.2) :
    nameStops t' sel' enter' dir p = nameStops t sel enter dir p := by
  unfold nameStops
  simp only [hskips, hlook, henter, sourceStop, hwants]

lemma pathStops_congr (hview : SameView t t') (depth : Nat) (path : String) :
    pathStops t' sel' depth path = pathStops t sel depth path := by
  induction depth generalizing path with
  | zero => rfl
  | succ depth ih =>
    rw [pathStops, pathStops, hview.isFile, hview.listing, hskips, sourceStop, sourceStop, hwants]
    cases hlist : listingAt t path with
    | error problem => rfl
    | ok names =>
      have hnames : names.flatMap (nameStops t' sel' (pathStops t' sel' depth) path) =
          names.flatMap (nameStops t sel (pathStops t sel depth) path) :=
        List.flatMap_congr fun p hp =>
          nameStops_congr hskips hwants ih (hview.look path names hlist p hp)
      dsimp only
      rw [hnames]

/-- The stops of a walk depend on the names that are wanted and skipped, and on what the walk sees of
the tree. -/
lemma stops_congr (hview : SameView t t') (path : String) : stops t' sel' path = stops t sel path :=
  pathStops_congr hskips hwants hview _ path

end

lemma run_fold_of_visitPath {init : σ} {stops : List Stop}
    (h : (visitPath sel visit (pathLimit + 1) path init).run w = (replay visit stops init).run w) :
    (fold sel (.text path) init visit).run w = ((replay visit stops init).run w).map (·.map outcome) id := by
  have hstart : (start (.text path)).run w = (.ok path, w) := rfl
  rw [fold, run_bind_ok hstart, run_bind, h]
  rcases (replay visit stops init).run w with ⟨r, w'⟩
  cases r with
  | error f => rfl
  | ok step => cases step <;> rfl

theorem run_fold (hP : ∀ t', P t' → SameView t t') (hv : Keeps P visit) (path : String) (init : σ)
    (hw : P w.tree) :
    (fold sel (.text path) init visit).run w =
      ((replay visit (stops t sel path) init).run w).map (·.map outcome) id :=
  run_fold_of_visitPath (run_visitPath hP hv _ _ _ hw)

def sources : List Stop → List Source
  | [] => []
  | .source src :: rest => src :: sources rest
  | .note _ :: rest | .fault _ :: rest => sources rest

@[simp] lemma sources_append (as bs : List Stop) : sources (as ++ bs) = sources as ++ sources bs := by
  induction as with
  | nil => rfl
  | cons a as ih => cases a <;> simp [sources, ih]

lemma mem_sources {src : Source} {stops : List Stop} : src ∈ sources stops ↔ .source src ∈ stops := by
  induction stops with
  | nil => simp [sources]
  | cons stop stops ih => cases stop <;> simp [sources, ih]

/-- Where a part of a walk can end: it goes on with a state and a world that are in order, or a
fault ends it in some way. -/
def Lands (I : σ → World → Prop) (E : Fault → World → Prop) :
    Except Fault (ForInStep σ) × World → Prop
  | (.ok (.yield s), w) => I s w
  | (.ok (.done _), _) => False
  | (.error f, w) => E f w

lemma Lands.mono {I J : σ → World → Prop} {E : Fault → World → Prop}
    {r : Except Fault (ForInStep σ) × World} (h : Lands I E r) (hIJ : ∀ s w, I s w → J s w) :
    Lands J E r := by
  match r, h with
  | (.error f, w), hE => exact hE
  | (.ok (.yield s), w), hI => exact hIJ s w hI

lemma Lands.imp {I : σ → World → Prop} {E E' : Fault → World → Prop}
    {r : Except Fault (ForInStep σ) × World} (h : Lands I E r)
    (hE : ∀ f w, r = (.error f, w) → E f w → E' f w) : Lands I E' r := by
  match r, h with
  | (.error f, w), h => exact hE f w rfl h
  | (.ok (.yield s), w), hI => exact hI

lemma Lands.andThen {I J : σ → World → Prop} {E : Fault → World → Prop} {x : Session (ForInStep σ)}
    {next : σ → Session (ForInStep σ)} (hx : Lands J E (x.run w))
    (hnext : ∀ s' w', J s' w' → Lands I E ((next s').run w')) :
    Lands I E ((x >>= andThen next).run w) := by
  rw [run_bind]
  rcases hrun : x.run w with ⟨r, w'⟩
  rw [hrun] at hx
  match r, hx with
  | .error f, hE => exact hE
  | .ok (.yield s'), hJ => exact hnext s' w' hJ

/-- A property of the sources visited so far, the state and the world holds at the end of a walk if
it holds at the start and each visit keeps it. A visit may rely on the place of its source among all
of them. -/
theorem replay_in_order {I : List Source → σ → World → Prop} {E : Fault → World → Prop} {all : List Source}
    (hlog : ∀ done s w, I done s w → ∀ message, I done s (w.logged .debug message))
    (hvisit : ∀ done s w src rest, all = done ++ src :: rest → I done s w →
      Lands (I (done ++ [src])) E ((visit src s).run w))
    {stops : List Stop} (hfault : ∀ f, .fault f ∈ stops → ∀ done s w, I done s w → E f w) {s : σ}
    (hall : all = done ++ sources stops) (h : I done s w) :
    Lands (I all) E ((replay visit stops s).run w) := by
  induction stops generalizing done s w with
  | nil =>
    rw [hall, sources, List.append_nil]
    exact h
  | cons stop stops ih =>
    have hfault' := fun f hf => hfault f (List.mem_cons_of_mem _ hf)
    cases stop with
    | note message => exact ih hfault' hall (hlog _ _ _ h message)
    | fault f => exact hfault f List.mem_cons_self _ _ _ h
    | source src =>
      rw [run_replay_source]
      exact (hvisit _ _ _ _ _ hall h).andThen fun s' w' hI =>
        ih hfault' (by simpa [sources] using hall) hI

/-- A property that each visit of a source of the walk keeps holds at the end of the walk. -/
theorem replay_lands {I : List Source → σ → World → Prop} {E : Fault → World → Prop}
    {stops : List Stop}
    (hlog : ∀ done s w, I done s w → ∀ message, I done s (w.logged .debug message))
    (hvisit : ∀ done s w src, src ∈ sources stops → I done s w →
      Lands (I (done ++ [src])) E ((visit src s).run w))
    (hfault : ∀ f, .fault f ∈ stops → ∀ done s w, I done s w → E f w) {s : σ} (h : I done s w) :
    Lands (I (done ++ sources stops)) E ((replay visit stops s).run w) := by
  refine replay_in_order (I := fun srcs => I (done ++ srcs)) (fun srcs => hlog (done ++ srcs)) ?_
    (fun f hf srcs => hfault f hf (done ++ srcs)) (List.nil_append _).symm (by rwa [List.append_nil])
  intro srcs s' v src rest hall hI
  rw [← List.append_assoc]
  exact hvisit _ _ _ _ (by simp [hall]) hI

lemma notMem_of_replay_yield {stops : List Stop} {s s' : σ}
    (h : (replay visit stops s).run w = (.ok (.yield s'), w')) (f : Fault) : .fault f ∉ stops := by
  induction stops generalizing s w with
  | nil => exact List.not_mem_nil
  | cons stop stops ih =>
    cases stop with
    | note message => simpa using ih h
    | fault f' => cases h
    | source src =>
      rw [run_replay_source] at h
      obtain ⟨step, v, -, hrest⟩ := run_bind_eq_ok h
      cases step with
      | done s₁ => cases hrest
      | yield s₁ => simpa using ih hrest

/-- A walk that goes to its end keeps what each visit keeps after which it goes on. -/
lemma replay_yields {I : List Source → σ → World → Prop}
    (hlog : ∀ done s w, I done s w → ∀ message, I done s (w.logged .debug message))
    (hvisit : ∀ done s w src s' w', I done s w → (visit src s).run w = (.ok (.yield s'), w') →
      I (done ++ [src]) s' w')
    {stops : List Stop} {s s' : σ} (h : I done s w)
    (hrun : (replay visit stops s).run w = (.ok (.yield s'), w')) : I (done ++ sources stops) s' w' := by
  induction stops generalizing done s w with
  | nil =>
    cases hrun
    rwa [sources, List.append_nil]
  | cons stop stops ih =>
    cases stop with
    | note message => exact ih (hlog _ _ _ h message) hrun
    | fault f => cases hrun
    | source src =>
      rw [run_replay_source] at hrun
      obtain ⟨step, v, hstep, hrest⟩ := run_bind_eq_ok hrun
      cases step with
      | done s₁ => cases hrest
      | yield s₁ => simpa [sources] using ih (hvisit _ _ _ _ _ _ h hstep) hrest

lemma exists_visit_of_replay_done {stops : List Stop} {s s' : σ}
    (hrun : (replay visit stops s).run w = (.ok (.done s'), w')) :
    ∃ src s₁ v, (visit src s₁).run v = (.ok (.done s'), w') := by
  induction stops generalizing s w with
  | nil => cases hrun
  | cons stop stops ih =>
    cases stop with
    | note message => exact ih hrun
    | fault f => cases hrun
    | source src =>
      rw [run_replay_source] at hrun
      obtain ⟨step, v, hstep, hrest⟩ := run_bind_eq_ok hrun
      cases step with
      | done s₁ =>
        cases hrest
        exact ⟨src, s, w, hstep⟩
      | yield s₁ => exact ih hrest

end SourceTidy.SourceWalk
