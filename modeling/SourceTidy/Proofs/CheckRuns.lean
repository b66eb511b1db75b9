import Mathlib.Data.List.Forall2
import SourceTidy.Proofs.AlikeRuns
import SourceTidy.Proofs.CheckedContent

/-!
# Runs of a checker

The tests of a checker change nothing but the log and the list of formatter calls, and what they find
does not depend on these. So the tests that fail on a source are told by the world at the start of a
scan, and by the path of the source alone.
-/

namespace SourceTidy

open Session World Formatting

variable {checks : List (String × Check)} {name path : String}

namespace Source

def modeIn (src : Source) (t : FileTree) : Except Fault Nat :=
  match src.knownMode with
  | some m => .ok m
  | none =>
    match t.entry src.path with
    | .ok (.file _ m) | .ok (.dir m) => .ok m
    | .ok (.link _) => .error (.path .notFound src.path)
    | .error problem => .error (.path problem src.path)

lemma run_mode (src : Source) (w : World) : src.mode.run w = (src.modeIn w.tree, w) := by
  unfold mode modeIn
  cases src.knownMode with
  | some m => rfl
  | none =>
    rw [run_bind, run_query]
    cases w.tree.entry src.path with
    | error problem => rfl
    | ok entry => cases entry <;> rfl

/-- A source as its path alone tells it: what was found out about it when it was met is so. -/
structure Faithful (src : Source) (t : FileTree) : Prop where
  name : src.name = Path.baseName src.path
  mode : ∀ m, src.knownMode = some m → ∃ data, t.entry src.path = .ok (.file data m)

lemma Faithful.modeIn_eq {src : Source} {t : FileTree} (h : src.Faithful t) :
    (ofPath src.path).modeIn t = src.modeIn t := by
  cases hknown : src.knownMode with
  | none => rw [modeIn, modeIn, hknown]; rfl
  | some m =>
    obtain ⟨data, hentry⟩ := h.mode m hknown
    rw [modeIn, modeIn, hknown]
    dsimp only [ofPath]
    rw [hentry]

end Source

namespace Formatting

variable {R : World → World → Prop}

lemma matches_programName (program : Setting) : Matches R (programName program) (programName program) := by
  unfold programName
  split
  · exact .pure _
  · exact .throw _

lemma matches_run_check (run : Run) : Matches R run.check run.check := by
  unfold Run.check
  split
  · exact .throw _
  · exact .pure _

end Formatting

/-- All names in a tree are such as can stand in a path. -/
def FileTree.Named (t : FileTree) : Prop :=
  ∀ name loc e, t.get? (name :: loc) = some e → Path.IsName name

lemma FileTree.named_of_entries {t : FileTree}
    (h : ∀ p ∈ t.entries, ∀ name ∈ p.1.head?, Path.IsName name) : t.Named := by
  intro name loc e he
  exact h _ (lookup_eq_some_mem he) name rfl

namespace SourceWalk

variable {t : FileTree} {sel : Selection} {src : Source}

lemma eq_of_sourceStop {src' : Source} (h : .source src = sourceStop sel src') : src = src' := by
  unfold sourceStop at h
  split at h
  · exact Stop.source.inj h
  · cases h

lemma isName_of_mem_listing (hn : t.Named) {names : List (String × NameKind)}
    (h : listingAt t path = .ok names) {p : String × NameKind} (hp : p ∈ names) : Path.IsName p.1 := by
  obtain ⟨loc, -, -, rfl⟩ := listingAt_eq_ok h
  obtain ⟨name, hname, rfl⟩ := List.mem_map.mp hp
  obtain ⟨e, he⟩ := FileTree.mem_listedAt.mp hname
  exact hn name loc e he

lemma entry_of_lookAt {kind : NameKind} {m : Nat} (h : lookAt t path kind = .ok (false, some m)) :
    ∃ data, t.entry path = .ok (.file data m) := by
  cases kind with
  | dir => cases h
  | file => cases h
  | link =>
    unfold lookAt at h
    cases hentry : t.entry path with
    | error problem =>
      rw [hentry] at h
      cases problem <;> cases h
    | ok entry =>
      rw [hentry] at h
      cases entry with
      | file data m' => cases h; exact ⟨data, rfl⟩
      | dir m' => cases h
      | link target => cases h

lemma mem_nameStops_cases {enter : String → List Stop} {dir : String} {p : String × NameKind}
    (h : src ∈ sources (nameStops t sel enter dir p)) : sel.skips p.1 = false ∧
      (src ∈ sources (enter (Path.join dir p.1)) ∨
        ∃ known, lookAt t (Path.join dir p.1) p.2 = .ok (false, known) ∧
          src = { name := p.1, path := Path.join dir p.1, knownMode := known }) := by
  rcases mem_nameStops (mem_sources.mp h) with hskip | ⟨f, -, hfault⟩ | ⟨hskip, h | ⟨known, hlook, hstop⟩⟩
  · cases hskip
  · cases hfault
  · exact ⟨hskip, .inl (mem_sources.mpr h)⟩
  · exact ⟨hskip, .inr ⟨known, hlook, eq_of_sourceStop hstop⟩⟩

lemma mem_sources_cases {depth : Nat} (h : src ∈ sources (pathStops t sel (depth + 1) path)) :
    (t.isFile path = true ∧ src = .ofPath path) ∨
      ∃ names, ∃ p ∈ names, listingAt t path = .ok names ∧
        src ∈ sources (nameStops t sel (pathStops t sel depth) path p) := by
  rcases mem_pathStops (mem_sources.mp h) with
    ⟨hfile, hskip | hstop⟩ | hscan | ⟨problem, -, hfault⟩ | ⟨names, p, hp, hlist, h⟩
  · cases hskip
  · exact .inl ⟨hfile, eq_of_sourceStop hstop⟩
  · cases hscan
  · cases hfault
  · exact .inr ⟨names, p, hp, hlist, mem_sources.mpr h⟩

lemma faithful_of_mem_sources (hn : t.Named) {depth : Nat}
    (h : src ∈ sources (pathStops t sel depth path)) : src.Faithful t := by
  induction depth generalizing path with
  | zero => cases h
  | succ depth ih =>
    rcases mem_sources_cases h with ⟨-, rfl⟩ | ⟨names, p, hp, hlist, h⟩
    · exact ⟨rfl, fun m hm => by cases hm⟩
    · rcases (mem_nameStops_cases h).2 with h | ⟨known, hlook, rfl⟩
      · exact ih h
      · refine ⟨(baseName_join path (isName_of_mem_listing hn hlist hp)).symm, fun m hm => ?_⟩
        have hm' : known = some m := hm
        rw [hm'] at hlook
        exact entry_of_lookAt hlook

end SourceWalk

namespace Checker

open SourceWalk

variable {c : Checker} {w : World} {data : Bytes}

def visitor (c : Checker) (checks : List (String × Check)) (sel : Selection) : Visitor Tally :=
  fun src tally => do
    match ← src.content sel .binary with
    | none => return .yield tally
    | some data =>
      let tally := Tally.addAll tally (← c.checkSource checks src data)
      return if c.failFast.isOn && !tally.isEmpty then .done tally else .yield tally

lemma forall_tests {P : Session Bool → Prop} {src : Source}
    (hfails : ∀ check, P (fails (some src.path) data check)) (hmode : P (modeFails src))
    (hformat : P (c.formatFails src data)) : ∀ p ∈ c.tests checks src data, P p.2 := by
  intro p hp
  rcases List.mem_append.mp hp with hp | hp
  · rcases List.mem_append.mp hp with hp | hp
    · obtain ⟨q, -, rfl⟩ := List.mem_map.mp hp
      exact hfails q.2
    · split at hp
      · rwa [List.mem_singleton.mp hp]
      · cases hp
  · split at hp
    · rwa [List.mem_singleton.mp hp]
    · cases hp

section

variable {P : (α : Type) → Session α → Prop} (hpure : ∀ {α : Type} (a : α), P α (pure a))
  (hbind : ∀ {α β : Type} {x : Session α} {g : α → Session β}, P α x → (∀ a, P β (g a)) → P β (x >>= g))

include hpure hbind

lemma fails_closed (hlift : ∀ {α : Type} (r : Except Fault α), P α (lift r))
    (hreport : ∀ message, P Unit (report message)) (file : Option String) (data : Bytes) (check : Check) :
    P Bool (fails file data check) := by
  refine hbind (hlift _) fun v => ?_
  match v with
  | .pass => exact hpure _
  | .fail none => exact hpure _
  | .fail (some r) => exact hbind (hreport _) fun _ => hpure _

lemma failing_closed (hlog : ∀ message, P Unit (log .info message)) (first : Bool) (path : String)
    {tests : List (String × Session Bool)} (h : ∀ p ∈ tests, P Bool p.2) :
    P (List String) (failing first path tests) := by
  induction tests with
  | nil => exact hpure _
  | cons p tests ih =>
    have hrest := ih fun p hp => h p (List.mem_cons_of_mem _ hp)
    refine hbind (h p List.mem_cons_self) fun failed => ?_
    cases failed with
    | false => exact hrest
    | true =>
      refine hbind (hlog _) fun _ => ?_
      cases first with
      | true => exact hpure _
      | false => exact hbind hrest fun _ => hpure _

end

section

variable {γ : Type} {φ : World → γ}
  (hφ : ∀ w level message, level ≠ .debug → φ (logged w level message) = φ w)

include hφ

lemma leaves_fails (file : Option String) (data : Bytes) (check : Check) : Leaves φ (fails file data check) :=
  fails_closed (P := fun _ => Leaves φ) .pure .bind .lift (fun _ => .report (hφ · _ _ (by decide))) file data
    check

lemma leaves_failing (first : Bool) (path : String) {tests : List (String × Session Bool)}
    (h : ∀ p ∈ tests, Leaves φ p.2) : Leaves φ (failing first path tests) :=
  failing_closed (P := fun _ => Leaves φ) .pure .bind (fun _ => .log (hφ · _ _ (by decide))) first path h

lemma leaves_misformatted (c : Checker) (src : Source) (data : Bytes) (run : Run) :
    Leaves φ (c.misformatted src data run) := by
  unfold misformatted
  split
  · exact .bind (.log (hφ · _ _ (by decide))) fun _ => .pure _
  split
  · exact .pure _
  refine .get_bind fun w => ?_
  split
  · exact .bind (.lift _) fun _ => .bind (.log (hφ · _ _ (by decide))) fun _ => .pure _
  · exact .pure _

variable (hcall : ∀ w call, φ { w with calls := w.calls ++ [call] } = φ w)

include hcall

omit hφ in
lemma leaves_format (program : Setting) (path : String) (data : Bytes) :
    Leaves φ (format program path data) :=
  .bind (.of_matches fun _ => matches_programName program) fun _ => .bind (.call hcall _ _) fun _ =>
    .bind (.reply _) fun _ => .pure _

lemma leaves_formatFails (c : Checker) (src : Source) (data : Bytes) : Leaves φ (c.formatFails src data) :=
  .bind (leaves_format hcall _ _ _) fun run => leaves_misformatted hφ c src data run

lemma leaves_tests (c : Checker) (checks : List (String × Check)) (src : Source) (data : Bytes) :
    ∀ p ∈ c.tests checks src data, Leaves φ p.2 :=
  forall_tests (leaves_fails hφ _ _) (.bind src.leaves_mode fun _ => .pure _)
    (leaves_formatFails hφ hcall c src data)

end

section

variable {γ : Type} {φ : World → γ} (hφ : ∀ w level message, φ (logged w level message) = φ w)
  (hcall : ∀ w call, φ { w with calls := w.calls ++ [call] } = φ w)

include hφ hcall

lemma leaves_checkSource (c : Checker) (checks : List (String × Check)) (src : Source)
    (data : Bytes) : Leaves φ (c.checkSource checks src data) :=
  .bind (.log (hφ · _ _)) fun _ => leaves_failing (fun w _ _ _ => hφ w _ _) _ _
    (leaves_tests (fun w _ _ _ => hφ w _ _) hcall c checks src data)

lemma leaves_visitor (c : Checker) (checks : List (String × Check)) (sel : Selection) (src : Source)
    (tally : Tally) : Leaves φ (c.visitor checks sel src tally) := by
  refine .bind (src.leaves_content (hφ · _ ·) (fun w _ => hφ w _ _) sel .binary) fun content => ?_
  cases content with
  | none => exact .pure _
  | some data => exact .bind (leaves_checkSource hφ hcall c checks src data) fun _ => .pure _

end

lemma keeps_visitor (checks : List (String × Check)) (sel : Selection) (t : FileTree) :
    Keeps (· = t) (c.visitor checks sel) := by
  rintro src tally w rfl
  exact leaves_visitor logged_tree (fun _ _ => rfl) c checks sel src tally w

lemma run_scan_eq {sel : Selection} (hchecks : c.checklist = .ok checks)
    (hsel : Selection.ofPatterns .binary c.patterns = .ok sel) (path : String) (w : World) :
    (c.scan (.text path)).run w = (fold sel (.text path) [] (c.visitor checks sel)).run w := by
  rw [scan, run_lift_bind hchecks, run_lift_bind hsel]
  rfl

lemma run_fold_visitor {sel : Selection} (path : String) (w : World) :
    (fold sel (.text path) [] (c.visitor checks sel)).run w =
      ((replay (c.visitor checks sel) (stops w.tree sel path) []).run w).map (·.map outcome) id :=
  run_fold (fun _ => SameView.of_eq) (keeps_visitor checks sel w.tree) path [] rfl

lemma outcome_scan_file {sel : Selection} {loc : Location} {mode : Nat} (hchecks : c.checklist = .ok checks)
    (hsel : Selection.ofPatterns .binary c.patterns = .ok sel) (hnone : sel.skippedData = ⟨.binary, none⟩)
    (hskips : sel.skips (Path.baseName path) = false) (hwants : sel.wants (Path.baseName path) = true)
    (hloc : Path.locate w.tree .follow path = .ok loc) (hfile : w.tree.get? loc = some (.file data mode)) :
    ((c.scan (.text path)).run w).1 =
      ((c.checkSource checks (Source.ofPath path) data).run w).1.map (Tally.addAll []) := by
  have hstops := stops_file hloc hfile hskips hwants
  have hcontent : ((Source.ofPath path).content sel .binary).run w = (.ok (some data), w) := by
    have hdata : (readFile path).run w = (.ok data, w) := by
      rw [readFile, run_query, FileTree.read_of_locate hloc hfile]
      rfl
    rw [Source.content, hnone]
    exact run_bind_ok hdata _
  rw [run_scan_eq hchecks hsel, run_fold_visitor, hstops, run_replay_source, run_bind, visitor,
    run_bind_ok hcontent]
  dsimp only
  rw [run_bind]
  rcases (c.checkSource checks (Source.ofPath path) data).run w with ⟨r, v⟩
  cases r with
  | error f => rfl
  | ok names =>
    change (Prod.map _ id ((andThen _ (ite _ _ _)).run v)).1 = _
    split <;> rfl

section

variable {T : FileTree → FileTree → Prop} {before before' : List FormatterCall}

lemma matches_fails (file : Option String) (data : Bytes) (check : Check) :
    Matches (Alike T before before') (fails file data check) (fails file data check) :=
  fails_closed (P := fun _ x => Matches _ x x) .pure .bind .lift (fun _ => .report _ _) file data check

lemma matches_format (program : Setting) (path : String) (data : Bytes) :
    Matches (Alike T before before') (format program path data) (format program path data) :=
  .bind (matches_programName program) fun _ => .bind (.call _ _) fun _ => .bind (.reply _) fun _ => .pure _

variable {src src' : Source} (hname : src'.name = src.name) (hpath : src'.path = src.path)
  (hmode : ∀ t t', T t t' → src'.modeIn t' = src.modeIn t)

include hmode in
lemma matches_modeFails : Matches (Alike T before before') (modeFails src) (modeFails src') := by
  refine .bind (fun w w' h => ?_) fun _ => .pure _
  rw [Source.run_mode, Source.run_mode, hmode _ _ h.tree]
  exact ⟨rfl, h⟩

include hname hpath

lemma matches_misformatted (c : Checker) (data : Bytes) (run : Run) :
    Matches (Alike T before before') (c.misformatted src data run) (c.misformatted src' data run) := by
  unfold misformatted
  split
  · exact .bind (.log _ _ _ _) fun _ => .pure _
  split
  · exact .pure _
  refine .get_bind fun w w' h => ?_
  have hdiff : ∀ output, formatDiff src' data output = formatDiff src data output := by
    intro output
    unfold formatDiff
    rw [hname, hpath]
  by_cases hdebug : w.threshold ≤ Level.debug.number
  · rw [if_pos hdebug, if_pos (h.debugging.mpr hdebug), hdiff]
    exact Matches.bind (.lift _) (fun _ => .bind (.log _ _ _ _) fun _ => .pure _) w w' h
  · rw [if_neg hdebug, if_neg fun hdebug' => hdebug (h.debugging.mp hdebug')]
    exact ⟨rfl, h⟩

lemma matches_formatFails (c : Checker) (data : Bytes) :
    Matches (Alike T before before') (c.formatFails src data) (c.formatFails src' data) := by
  unfold formatFails
  rw [hpath]
  exact .bind (matches_format _ _ _) fun run => matches_misformatted hname hpath c data run

include hmode

lemma matches_tests (c : Checker) (checks : List (String × Check)) (data : Bytes) :
    List.Forall₂ (fun p q => q.1 = p.1 ∧ Matches (Alike T before before') p.2 q.2)
      (c.tests checks src data) (c.tests checks src' data) := by
  unfold tests
  rw [hname, hpath]
  refine List.rel_append (List.rel_append ?_ ?_) ?_
  · rw [List.forall₂_same]
    intro p hp
    obtain ⟨q, -, rfl⟩ := List.mem_map.mp hp
    exact ⟨rfl, matches_fails _ _ _⟩
  · split
    · exact .cons ⟨rfl, matches_modeFails hmode⟩ .nil
    · exact .nil
  · split
    · exact .cons ⟨rfl, matches_formatFails hname hpath c data⟩ .nil
    · exact .nil

omit hname hpath hmode in
lemma matches_failing (first : Bool) (path path' : String) {tests tests' : List (String × Session Bool)}
    (h : List.Forall₂ (fun p q => q.1 = p.1 ∧ Matches (Alike T before before') p.2 q.2) tests tests') :
    Matches (Alike T before before') (failing first path tests) (failing first path' tests') := by
  induction h with
  | nil => exact .pure _
  | cons hpq hrest ih =>
    obtain ⟨hkey, htest⟩ := hpq
    refine .bind htest fun failed => ?_
    cases failed with
    | false => exact ih
    | true =>
      refine .bind (.log _ _ _ _) fun _ => ?_
      cases first with
      | true => rw [hkey]; exact .pure _
      | false => rw [hkey]; exact .bind ih fun _ => .pure _

lemma matches_checkSource (c : Checker) (checks : List (String × Check)) (data : Bytes) :
    Matches (Alike T before before') (c.checkSource checks src data) (c.checkSource checks src' data) :=
  .bind (.log _ _ _ _) fun _ =>
    matches_failing _ _ _ (matches_tests hname hpath hmode c checks data)

end

def failures (first : Bool) (w : World) : List (String × Session Bool) → Except Fault (List String)
  | [] => .ok []
  | (name, test) :: rest =>
    match (test.run w).1 with
    | .error f => .error f
    | .ok false => failures first w rest
    | .ok true => if first then .ok [name] else (failures first w rest).map (name :: ·)

section

variable {first : Bool} {names : List String} {tests : List (String × Session Bool)}

lemma passed_of_failures (h : failures first w tests = .ok names)
    (hall : first = false ∨ names = []) {test : Session Bool} (hin : (name, test) ∈ tests)
    (hname : name ∉ names) : (test.run w).1 = .ok false := by
  induction tests generalizing names with
  | nil => cases hin
  | cons p tests ih =>
    obtain ⟨key, test'⟩ := p
    rw [failures] at h
    split at h
    · cases h
    · next hpass =>
      rcases List.mem_cons.mp hin with heq | hin
      · cases heq
        exact hpass
      · exact ih h hall hin hname
    · split at h
      · next hfirst =>
        cases h
        rcases hall with hall | hall
        · cases hfirst.symm.trans hall
        · cases hall
      · obtain ⟨more, hrest, rfl⟩ := map_eq_ok h
        rw [List.mem_cons, not_or] at hname
        rcases List.mem_cons.mp hin with heq | hin
        · cases heq
          exact absurd rfl hname.1
        · exact ih hrest (hall.imp_right fun hnil => by cases hnil) hin hname.2

lemma failures_sublist (h : failures first w tests = .ok names) : names.Sublist (tests.map Prod.fst) := by
  induction tests generalizing names with
  | nil => cases h; exact .slnil
  | cons p tests ih =>
    obtain ⟨name, test⟩ := p
    rw [failures] at h
    split at h
    · cases h
    · exact .cons _ (ih h)
    · split at h
      · cases h
        exact .cons_cons _ (List.nil_sublist _)
      · obtain ⟨more, hrest, rfl⟩ := map_eq_ok h
        exact .cons_cons _ (ih hrest)

lemma exists_of_mem_failures (h : failures first w tests = .ok names) (hmem : name ∈ names) :
    ∃ test, (name, test) ∈ tests ∧ (test.run w).1 = .ok true := by
  induction tests generalizing names with
  | nil => cases h; cases hmem
  | cons p tests ih =>
    obtain ⟨key, test⟩ := p
    have hlater : (∃ test', (name, test') ∈ tests ∧ (test'.run w).1 = .ok true) →
        ∃ test', (name, test') ∈ (key, test) :: tests ∧ (test'.run w).1 = .ok true :=
      fun ⟨test', hin, hfail⟩ => ⟨test', List.mem_cons_of_mem _ hin, hfail⟩
    rw [failures] at h
    split at h
    · cases h
    · exact hlater (ih h hmem)
    · next hfail =>
      split at h
      · cases h
        rw [List.mem_singleton.mp hmem]
        exact ⟨test, List.mem_cons_self, hfail⟩
      · obtain ⟨more, hrest, rfl⟩ := map_eq_ok h
        rcases List.mem_cons.mp hmem with rfl | hmem
        · exact ⟨test, List.mem_cons_self, hfail⟩
        · exact hlater (ih hrest hmem)

lemma mem_failures (h : failures false w tests = .ok names) {test : Session Bool}
    (hin : (name, test) ∈ tests) (hfail : (test.run w).1 = .ok true) : name ∈ names := by
  induction tests generalizing names with
  | nil => cases hin
  | cons p tests ih =>
    obtain ⟨key, first⟩ := p
    rw [failures] at h
    rcases List.mem_cons.mp hin with heq | hin
    · cases heq
      rw [hfail] at h
      obtain ⟨more, -, rfl⟩ := map_eq_ok h
      exact List.mem_cons_self
    · split at h
      · cases h
      · exact ih h hin
      · obtain ⟨more, hrest, rfl⟩ := map_eq_ok h
        exact List.mem_cons_of_mem _ (ih hrest hin)

lemma failures_first (h : failures false w tests = .ok names) :
    failures true w tests = .ok (names.take 1) := by
  induction tests generalizing names with
  | nil => cases h; rfl
  | cons p tests ih =>
    obtain ⟨name, test⟩ := p
    rw [failures] at h ⊢
    split at h
    · cases h
    · exact ih h
    · obtain ⟨more, -, rfl⟩ := map_eq_ok h
      rfl

lemma run_failing (hleaves : ∀ p ∈ tests, Leaves frame p.2)
    (hsteady : ∀ p ∈ tests, ∀ v : World, v.frame = w.frame → (p.2.run v).1 = (p.2.run w).1)
    (path : String) {v : World} (hv : v.frame = w.frame) :
    ((failing first path tests).run v).1 = failures first w tests := by
  induction tests generalizing v with
  | nil => rfl
  | cons p tests ih =>
    obtain ⟨name, test⟩ := p
    have hrest := fun {u : World} (hu : u.frame = w.frame) => ih
      (fun p hp => hleaves p (List.mem_cons_of_mem _ hp))
      (fun p hp => hsteady p (List.mem_cons_of_mem _ hp)) hu
    have hout := hsteady _ List.mem_cons_self v hv
    have hframe := hleaves _ List.mem_cons_self v
    dsimp only at hout hframe
    rcases hrun : test.run v with ⟨r, u⟩
    rw [hrun] at hout hframe
    have hu : u.frame = w.frame := hframe.trans hv
    rw [failures, ← hout]
    match r with
    | .error f => rw [run_failing_error _ hrun]
    | .ok false =>
      rw [run_failing_passed _ hrun]
      exact hrest hu
    | .ok true =>
      cases first with
      | true => rw [run_failing_first _ hrun]; rfl
      | false =>
        rw [run_failing_next _ hrun]
        exact congrArg (Except.map (name :: ·)) (hrest ((logged_frame _ _ _).trans hu))

end

lemma steady_tests (c : Checker) (checks : List (String × Check)) (src : Source) (data : Bytes)
    (w : World) : ∀ p ∈ c.tests checks src data, ∀ v : World, v.frame = w.frame →
      (p.2.run v).1 = (p.2.run w).1 := by
  intro p hp v hv
  have htests : List.Forall₂
      (fun p q => q.1 = p.1 ∧ Matches (Alike Eq w.calls v.calls) p.2 q.2)
      (c.tests checks src data) (c.tests checks src data) :=
    matches_tests rfl rfl (fun t t' ht => by rw [ht]) c checks data
  exact ((List.forall₂_same.mp htests p hp).2 w v (.of_frame hv)).1

lemma run_checkSource (c : Checker) (checks : List (String × Check)) (src : Source) (data : Bytes)
    {v : World} (hv : v.frame = w.frame) :
    ((c.checkSource checks src data).run v).1 = failures c.failFast.isOn w (c.tests checks src data) := by
  rw [checkSource, run_bind_ok (run_log _ _ v)]
  exact run_failing (leaves_tests (fun w _ _ _ => logged_frame w _ _) (fun _ _ => rfl) c checks src data)
    (steady_tests c checks src data w) _ (by rw [logged_frame, hv])

lemma frame_checkSource (c : Checker) (checks : List (String × Check)) (src : Source) (data : Bytes)
    (w : World) : ((c.checkSource checks src data).run w).2.frame = w.frame :=
  leaves_checkSource logged_frame (fun _ _ => rfl) c checks src data w

lemma failures_ofPath {src : Source} (h : src.Faithful w.tree) (first : Bool) (c : Checker)
    (checks : List (String × Check)) (data : Bytes) :
    failures first w (c.tests checks (.ofPath src.path) data) =
      failures first w (c.tests checks src data) := by
  have hrun : ∀ src', ((failing first "" (c.tests checks src' data)).run w).1 =
      failures first w (c.tests checks src' data) := fun src' =>
    run_failing (leaves_tests (fun w _ _ _ => logged_frame w _ _) (fun _ _ => rfl) c checks src' data)
      (steady_tests c checks src' data w) "" rfl
  let T : FileTree → FileTree → Prop := fun t t' => t = w.tree ∧ t' = w.tree
  have hmode : ∀ t t', T t t' → (Source.ofPath src.path).modeIn t' = src.modeIn t := by
    rintro t t' ⟨rfl, rfl⟩
    exact h.modeIn_eq
  have hpath : (Source.ofPath src.path).path = src.path := rfl
  have hw : Alike T w.calls w.calls w w :=
    ⟨⟨rfl, rfl⟩, rfl, rfl, rfl, Iff.rfl, [], by simp⟩
  rw [← hrun, ← hrun]
  exact (matches_failing first "" "" (matches_tests h.name.symm hpath hmode c checks data) w w hw).1

def testNames (c : Checker) : List String :=
  ["tabs", "invalid EOL", "trailing spaces", "not " ++ c.encoding.plain, "no eol at eof",
    "relative include", "no copyright", "line tool long", "mode (executable bit)", "clang-format"]

lemma nodup_testNames (c : Checker) : c.testNames.Nodup := by
  have hnot : ∀ name : String, name.toList.take 4 ≠ ['n', 'o', 't', ' '] →
      name ≠ "not " ++ c.encoding.plain := by
    rintro name hname rfl
    simp at hname
  have htabs := hnot "tabs" (by decide)
  have heol := hnot "invalid EOL" (by decide)
  have htrailing := hnot "trailing spaces" (by decide)
  have hend := hnot "no eol at eof" (by decide)
  have hinclude := hnot "relative include" (by decide)
  have hnotice := hnot "no copyright" (by decide)
  have hlong := hnot "line tool long" (by decide)
  have hmode := hnot "mode (executable bit)" (by decide)
  have hformat := hnot "clang-format" (by decide)
  simp [testNames, htabs, heol, htrailing, hend.symm, hinclude.symm, hnotice.symm, hlong.symm,
    hmode.symm, hformat.symm]

lemma checklist_names (h : c.checklist = .ok checks) :
    (checks.map Prod.fst).Sublist (c.testNames.take 8) := by
  have hchoose : ∀ {chosen : Setting} {name : String} {check : Except Fault Check}
      {l : List (String × Check)},
      (if chosen.isOn then check.map fun k => [(name, k)] else .ok []) = .ok l →
      (l.map Prod.fst).Sublist [name] := by
    intro chosen name check l hl
    split at hl
    · obtain ⟨k, -, rfl⟩ := map_eq_ok hl
      exact .refl _
    · cases hl
      exact List.nil_sublist _
  unfold checklist at h
  obtain ⟨l₁, h₁, h⟩ := bind_eq_ok h
  obtain ⟨l₂, h₂, h⟩ := bind_eq_ok h
  obtain ⟨l₃, h₃, h⟩ := bind_eq_ok h
  obtain ⟨l₄, h₄, h⟩ := bind_eq_ok h
  obtain ⟨l₅, h₅, h⟩ := bind_eq_ok h
  obtain ⟨l₆, h₆, h⟩ := bind_eq_ok h
  obtain ⟨l₇, h₇, h⟩ := bind_eq_ok h
  obtain ⟨l₈, h₈, h⟩ := bind_eq_ok h
  cases h
  simp only [List.flatten_cons, List.flatten_nil, List.append_nil, List.map_append]
  exact (hchoose h₁).append ((hchoose h₂).append ((hchoose h₃).append ((hchoose h₄).append
    ((hchoose h₅).append ((hchoose h₆).append ((hchoose h₇).append (hchoose h₈)))))))

lemma tests_names (h : c.checklist = .ok checks) (src : Source) (data : Bytes) :
    ((c.tests checks src data).map Prod.fst).Sublist c.testNames := by
  have hif : ∀ (b : Bool) (name : String) (test : Session Bool),
      ((if b then [(name, test)] else []).map Prod.fst).Sublist [name] := by
    intro b name test
    cases b with
    | true => exact .refl _
    | false => exact List.nil_sublist _
  unfold tests
  rw [List.map_append, List.map_append, List.map_map]
  exact ((checklist_names h).append (hif _ _ _)).append (hif _ _ _)

lemma failures_names (h : c.checklist = .ok checks) {first : Bool} {src : Source}
    {names : List String} (hnames : failures first w (c.tests checks src data) = .ok names) :
    names.Sublist c.testNames :=
  (failures_sublist hnames).trans (tests_names h src data)

end Checker

end SourceTidy
