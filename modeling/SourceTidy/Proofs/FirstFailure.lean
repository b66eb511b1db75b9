import SourceTidy.Proofs.ScanCounts

/-!
# Scans that stop at the first failure

A checker that stops as soon as a check fails finds what the checker that makes all checks finds
first, and does not look at what comes after that.
-/

namespace SourceTidy

open Session World Formatting

namespace SourceWalk

variable {σ : Type} {visit : Visitor σ} {T : FileTree → FileTree → Prop}
  {before before' : List FormatterCall}

lemma matches_replay {stops : List Stop}
    (h : ∀ src ∈ sources stops, ∀ s, Matches (Alike T before before') (visit src s) (visit src s)) (s : σ) :
    Matches (Alike T before before') (replay visit stops s) (replay visit stops s) := by
  induction stops generalizing s with
  | nil => exact .pure _
  | cons stop stops ih =>
    cases stop with
    | note message => exact .bind (.log _ _ _ _) fun _ => ih h s
    | fault f => exact .throw f
    | source src =>
      obtain ⟨hsrc, hrest⟩ := List.forall_mem_cons.mp h
      refine .bind (hsrc s) fun step => ?_
      cases step with
      | done s' => exact .pure _
      | yield s' => exact ih hrest s'

lemma run_replay_done {stops : List Stop} {s s' : σ} {w w' : World}
    (h : (replay visit stops s).run w = (.ok (.done s'), w')) (rest : List Stop) :
    (replay visit (stops ++ rest) s).run w = (.ok (.done s'), w') := by
  rw [run_replay_append, run_bind_ok h]
  rfl

/-- Another tree in which a walk comes to the same stops up to a source, and to the same files
there. -/
structure SameUntil (sel : Selection) (path : String) (passed : List Stop) (src : Source)
    (t t' : FileTree) : Prop where
  stops : ∃ rest, stops t' sel path = passed ++ .source src :: rest
  entries : ∀ s ∈ sources passed ++ [src], t'.entry s.path = t.entry s.path

end SourceWalk

namespace Formatting

def answer (formatters : String → Option Formatter) (command : List String) (data : Bytes) :
    Except Fault Run :=
  match formatters (command.headD "") with
  | none => .error (.path .notFound (command.headD ""))
  | some f =>
    match f.format command data with
    | .done code output => .ok { command, code, output }
    | .interrupted => .error .interrupted

lemma run_format (program path : String) (data : Bytes) (w : World) :
    (format (.text program) path data).run w =
      (answer w.formatters [program, "-assume-filename=" ++ path, "-style=file"] data,
        { w with calls := w.calls ++
          [⟨[program, "-assume-filename=" ++ path, "-style=file"], some data⟩] }) := by
  have hname : (Formatting.programName (.text program)).run w = (.ok program, w) := rfl
  rw [format, run_bind_ok hname]
  generalize [program, "-assume-filename=" ++ path, "-style=file"] = command
  rw [run_bind, call, run_bind_ok (run_modify _ _),
    run_bind_ok (run_get _)]
  dsimp only
  unfold answer
  cases w.formatters (command.headD "") with
  | none => rfl
  | some f =>
    rw [run_pure]
    dsimp only
    cases f.format command data <;> rfl

end Formatting

namespace Checker

open SourceWalk SourceTree

variable {c : Checker} {w v v' : World} {sel : Selection} {path : String} {data : Bytes}
  {checks : List (String × Check)} {src : Source} {names : List String}

def thorough (c : Checker) : Checker := { c with failFast := .flag false }

def hasty (c : Checker) : Checker := { c with failFast := .flag true }

def formatCalls (c : Checker) (src : Source) (data : Bytes) : List FormatterCall :=
  match c.formatter with
  | .text program =>
    if c.formatter.isOn && isCode src.name then
      [⟨[program, "-assume-filename=" ++ src.path, "-style=file"], some data⟩]
    else []
  | _ => []

def callsFor (c : Checker) : Source × Content → List FormatterCall
  | (src, .bytes data) => c.formatCalls src data
  | (_, .text _) => []

lemma calls_formatFails {b : Bool} (hon : (c.formatter.isOn && isCode src.name) = true)
    (h : (c.formatFails src data).run v = (.ok b, v')) : v'.calls = v.calls ++ c.formatCalls src data := by
  obtain ⟨run, u, hformat, hrest⟩ := run_bind_eq_ok h
  have hprogram : ∃ program, c.formatter = .text program := by
    obtain ⟨program, u₁, hname, -⟩ := run_bind_eq_ok hformat
    unfold Formatting.programName at hname
    split at hname
    · next program hprogram => exact ⟨program, hprogram⟩
    · cases hname
  obtain ⟨program, hprogram⟩ := hprogram
  have hcalls : u.calls =
      v.calls ++ [⟨[program, "-assume-filename=" ++ src.path, "-style=file"], some data⟩] := by
    rw [hprogram, run_format] at hformat
    rw [← (Prod.mk.inj hformat).2]
  have hlater : v'.calls = u.calls := by
    have hleaves := leaves_misformatted (fun w _ _ _ => logged_calls w _ _) c src data run u
    rwa [hrest] at hleaves
  rw [hlater, hcalls, formatCalls, hprogram]
  rw [hprogram] at hon
  dsimp only
  rw [if_pos hon]

lemma run_failing_append (path : String) (as bs : List (String × Session Bool)) (v : World) :
    (failing true path (as ++ bs)).run v = (failing true path as >>= fun names =>
      if names = [] then failing true path bs else pure names).run v := by
  induction as generalizing v with
  | nil => rfl
  | cons p as ih =>
    obtain ⟨name, test⟩ := p
    rw [List.cons_append, run_bind]
    rcases hrun : test.run v with ⟨r, u⟩
    match r with
    | .error f => rw [run_failing_error _ hrun, run_failing_error _ hrun]
    | .ok false => rw [run_failing_passed _ hrun, run_failing_passed _ hrun, ih, run_bind]
    | .ok true =>
      rw [run_failing_first _ hrun, run_failing_first _ hrun]
      rfl

lemma failing_names {tests : List (String × Session Bool)}
    (h : (failing true path tests).run v = (.ok names, v')) :
    names = [] ∨ ∃ name ∈ tests.map Prod.fst, names = [name] := by
  induction tests generalizing v with
  | nil => cases h; exact .inl rfl
  | cons p tests ih =>
    obtain ⟨name, test⟩ := p
    rcases hrun : test.run v with ⟨r, u⟩
    match r with
    | .error f =>
      rw [run_failing_error _ hrun] at h
      cases h
    | .ok false =>
      rw [run_failing_passed _ hrun] at h
      exact (ih h).imp_right fun ⟨name', hname', hnames⟩ =>
        ⟨name', List.mem_cons_of_mem _ hname', hnames⟩
    | .ok true =>
      rw [run_failing_first _ hrun] at h
      cases h
      exact .inr ⟨name, List.mem_cons_self, rfl⟩

/-- The tests that a checker makes without the formatting program. -/
def ownTests (c : Checker) (checks : List (String × Check)) (src : Source) (data : Bytes) :
    List (String × Session Bool) :=
  (checks.map fun p => (p.1, fails (some src.path) data p.2)) ++
    if c.mode.isOn then [("mode (executable bit)", modeFails src)] else []

lemma tests_eq_append (c : Checker) (checks : List (String × Check)) (src : Source) (data : Bytes) :
    c.tests checks src data = c.ownTests checks src data ++
      if c.formatter.isOn && isCode src.name then [("clang-format", c.formatFails src data)] else [] :=
  rfl

lemma leaves_ownTests (c : Checker) (checks : List (String × Check)) (src : Source) (data : Bytes) :
    ∀ p ∈ c.ownTests checks src data, Leaves calls p.2 := by
  intro p hp
  rcases List.mem_append.mp hp with hp | hp
  · obtain ⟨q, -, rfl⟩ := List.mem_map.mp hp
    exact leaves_fails (fun w _ _ _ => logged_calls w _ _) _ _ _
  · split at hp
    · rw [List.mem_singleton.mp hp]
      exact .bind src.leaves_mode fun _ => .pure _
    · cases hp

lemma calls_checkSource (hchecks : c.checklist = .ok checks)
    (h : (c.hasty.checkSource checks src data).run v = (.ok names, v')) :
    v'.calls = v.calls ++
      if names = [] ∨ names = ["clang-format"] then c.formatCalls src data else [] := by
  have htests := (tests_names hchecks src data).nodup c.nodup_testNames
  rw [checkSource, run_bind_ok (run_log _ _ v)] at h
  generalize hu : v.logged .debug ("checking " ++ Text.quote src.path) = u at h
  have hcalls : u.calls = v.calls := by rw [← hu, logged_calls]
  rw [← hcalls]
  change (failing true src.path (c.tests checks src data)).run u = _ at h
  rw [tests_eq_append, run_failing_append] at h
  rw [tests_eq_append] at htests
  obtain ⟨first, u₁, hfirst, hrest⟩ := run_bind_eq_ok h
  have hfirstCalls := leaves_failing (fun w _ _ _ => logged_calls w _ _) true src.path
    (c.leaves_ownTests checks src data) u
  rw [hfirst] at hfirstCalls
  dsimp only at hfirstCalls
  by_cases hon : (c.formatter.isOn && isCode src.name) = true
  · rw [if_pos hon] at hrest htests
    rcases failing_names hfirst with rfl | ⟨name, hname, rfl⟩
    · rw [if_pos rfl] at hrest
      obtain ⟨b, u₂, hformat, hlast⟩ := run_bind_eq_ok hrest
      have hcalled : v'.calls = u₂.calls ∧ (names = [] ∨ names = ["clang-format"]) := by
        cases b with
        | false => cases hlast; exact ⟨rfl, .inl rfl⟩
        | true => cases hlast; exact ⟨logged_calls _ _ _, .inr rfl⟩
      rw [hcalled.1, if_pos hcalled.2, calls_formatFails hon hformat, hfirstCalls]
    · rw [if_neg (List.cons_ne_nil _ _)] at hrest
      cases hrest
      have hother : name ≠ "clang-format" := by
        rintro rfl
        rw [List.map_append] at htests
        exact (List.nodup_append.mp htests).2.2 _ hname _ List.mem_cons_self rfl
      rw [if_neg (by simp [hother]), hfirstCalls, List.append_nil]
  · have hnone : c.formatCalls src data = [] := by
      unfold formatCalls
      split
      · exact if_neg hon
      · rfl
    rw [if_neg hon] at hrest
    have hlast : v' = u₁ := by
      split at hrest
      · cases hrest; rfl
      · cases hrest; rfl
    rw [hlast, hfirstCalls, hnone, ite_self, List.append_nil]

/-- The names of all tests that fail on a file that was found. -/
def findings (c : Checker) (checks : List (String × Check)) (w : World) :
    Source × Content → Except Fault (List String)
  | (src, .bytes data) => failures false w (c.tests checks src data)
  | (_, .text _) => .ok []

def stepOf : List String → ForInStep Tally
  | [] => .yield []
  | key :: _ => .done [(key, 1)]

section

variable (hchecks : c.checklist = .ok checks) (hmode : sel.skippedData.mode = .binary)
  (hread : w.tree.read src.path = .ok data) (hv : v.frame = w.frame)

include hchecks hmode hread hv

omit hchecks in
lemma run_content_frame : ∃ u, (src.content sel .binary).run v =
    (.ok (Source.wanted sel .binary data), u) ∧ u.frame = w.frame ∧ u.calls = v.calls := by
  have hread' : v.tree.read src.path = .ok data := by rw [tree_eq_of_frame hv, hread]
  obtain ⟨u, hcontent, hwarn⟩ := Source.run_content hmode hread' (Warned.refl v)
  obtain ⟨records, rfl⟩ := hwarn.rest
  exact ⟨_, hcontent, hv, rfl⟩

lemma run_visitor_found {p : Source × Content} (hp : p ∈ found w.tree sel .binary [src])
    {names : List String} (hnames : c.findings checks w p = .ok names) :
    p = (src, .bytes data) ∧ ∃ v', v'.frame = w.frame ∧
      (c.hasty.visitor checks sel src []).run v = (.ok (stepOf names), v') ∧
      v'.calls = v.calls ++ if names.take 1 = [] ∨ names.take 1 = ["clang-format"] then
        c.formatCalls src data else [] := by
  obtain ⟨u, hcontent, hframe, hcalls⟩ := run_content_frame hmode hread hv
  cases hwanted : Source.wanted sel .binary data with
  | none =>
    rw [found_of_unwanted hread hwanted] at hp
    cases hp
  | some d =>
    obtain ⟨rfl, hone⟩ := found_of_wanted hread hwanted
    rw [hone, List.mem_singleton] at hp
    rw [hp] at hnames
    have hcheck : ((c.hasty.checkSource checks src data).run u).1 = .ok (names.take 1) :=
      (run_checkSource c.hasty checks src data hframe).trans (failures_first hnames)
    have hkeep := frame_checkSource c.hasty checks src data u
    rcases hrun : (c.hasty.checkSource checks src data).run u with ⟨r, u'⟩
    rw [hrun] at hcheck hkeep
    cases hcheck
    have hcalled := calls_checkSource hchecks hrun
    rw [hcalls] at hcalled
    refine ⟨hp, u', hkeep.trans hframe, ?_, hcalled⟩
    rw [visitor, run_bind_ok hcontent, hwanted, run_bind_ok hrun]
    cases names <;> rfl

lemma run_visitor_passed (hpass : ∀ p ∈ found w.tree sel .binary [src], c.findings checks w p = .ok []) :
    ∃ v', (c.hasty.visitor checks sel src []).run v = (.ok (.yield []), v') ∧ v'.frame = w.frame ∧
      v'.calls = v.calls ++ (found w.tree sel .binary [src]).flatMap c.callsFor := by
  cases hwanted : Source.wanted sel .binary data with
  | none =>
    obtain ⟨u, hcontent, hframe, hcalls⟩ := run_content_frame hmode hread hv
    rw [found_of_unwanted hread hwanted, visitor, run_bind_ok hcontent, hwanted]
    exact ⟨u, rfl, hframe, by simpa using hcalls⟩
  | some d =>
    obtain ⟨rfl, hone⟩ := found_of_wanted hread hwanted
    rw [hone] at hpass ⊢
    obtain ⟨-, v', hframe, hrun, hcalls⟩ := run_visitor_found hchecks hmode hread hv
      (by rw [hone]; exact List.mem_cons_self) (hpass _ List.mem_cons_self)
    exact ⟨v', hrun, hframe, by simpa [callsFor] using hcalls⟩

end

section

variable (hchecks : c.checklist = .ok checks) (hmode : sel.skippedData.mode = .binary)

include hchecks hmode

lemma run_replay_passed {stops : List Stop} (hno : ∀ f, .fault f ∉ stops)
    (hread : ∀ src ∈ sources stops, ∃ data, w.tree.read src.path = .ok data)
    (hpass : ∀ p ∈ found w.tree sel .binary (sources stops), c.findings checks w p = .ok []) :
    ∃ v, (replay (c.hasty.visitor checks sel) stops []).run w = (.ok (.yield []), v) ∧
      v.frame = w.frame ∧
      v.calls = w.calls ++ (found w.tree sel .binary (sources stops)).flatMap c.callsFor := by
  let I : List Source → Tally → World → Prop := fun done tally v => tally = [] ∧ v.frame = w.frame ∧
    v.calls = w.calls ++ (found w.tree sel .binary done).flatMap c.callsFor
  have hland : Lands (I ([] ++ sources stops)) (fun _ _ => False)
      ((replay (c.hasty.visitor checks sel) stops []).run w) := by
    refine replay_lands ?_ ?_ (fun f hf => absurd hf (hno f)) ⟨rfl, rfl, by simp [found]⟩
    · rintro done tally v ⟨htally, hv, hcalls⟩ message
      exact ⟨htally, by rw [logged_frame, hv], by rw [logged_calls, hcalls]⟩
    · rintro done tally v src hsrc ⟨rfl, hv, hcalls⟩
      obtain ⟨data, hdata⟩ := hread src hsrc
      have hhere : ∀ p ∈ found w.tree sel .binary [src], c.findings checks w p = .ok [] := by
        intro p hp
        obtain ⟨before, after, hall⟩ := List.append_of_mem hsrc
        refine hpass p ?_
        rw [hall, ← List.singleton_append, found_append, found_append]
        exact List.mem_append_right _ (List.mem_append_left _ hp)
      obtain ⟨v', hrun, hframe, hcalled⟩ := run_visitor_passed hchecks hmode hdata hv hhere
      rw [hrun]
      refine ⟨rfl, hframe, ?_⟩
      rw [hcalled, hcalls, found_append, List.flatMap_append, List.append_assoc]
  rcases hrun : (replay (c.hasty.visitor checks sel) stops []).run w with ⟨r, v⟩
  rw [hrun] at hland
  cases r with
  | error f => exact hland.elim
  | ok step =>
    cases step with
    | done tally => exact hland.elim
    | yield tally =>
      obtain ⟨rfl, hframe, hcalls⟩ := hland
      exact ⟨v, rfl, hframe, hcalls⟩

lemma run_replay_failed {passed : List Stop} (hno : ∀ f, .fault f ∉ passed)
    (hread : ∀ s ∈ sources passed ++ [src], ∃ data, w.tree.read s.path = .ok data)
    (hpass : ∀ p ∈ found w.tree sel .binary (sources passed), c.findings checks w p = .ok [])
    {p : Source × Content} (hp : p ∈ found w.tree sel .binary [src]) {key : String}
    {more : List String} (hfail : c.findings checks w p = .ok (key :: more)) :
    ∃ data v, p = (src, .bytes data) ∧
      (replay (c.hasty.visitor checks sel) (passed ++ [.source src]) []).run w =
        (.ok (.done [(key, 1)]), v) ∧
      v.calls = w.calls ++ (found w.tree sel .binary (sources passed)).flatMap c.callsFor ++
        if key = "clang-format" then c.formatCalls src data else [] := by
  obtain ⟨v, hrun, hframe, hcalls⟩ := run_replay_passed hchecks hmode hno
    (fun s hs => hread s (List.mem_append_left _ hs)) hpass
  obtain ⟨data, hdata⟩ := hread src (List.mem_append_right _ List.mem_cons_self)
  obtain ⟨rfl, v', -, hvisit, hcalled⟩ := run_visitor_found hchecks hmode hdata hframe hp hfail
  refine ⟨data, v', rfl, ?_, by simpa [hcalls] using hcalled⟩
  rw [run_replay_append, run_bind_ok hrun]
  change (replay (c.hasty.visitor checks sel) [.source src] []).run v = _
  rw [run_replay_source, run_bind_ok hvisit]
  rfl

end

lemma exists_first_failure (c : Checker) (checks : List (String × Check)) (w : World)
    (sel : Selection) (stops : List Stop) :
    (∀ p ∈ found w.tree sel .binary (sources stops), c.findings checks w p = .ok []) ∨
    ∃ passed src rest p, stops = passed ++ .source src :: rest ∧
      (∀ p ∈ found w.tree sel .binary (sources passed), c.findings checks w p = .ok []) ∧
      p ∈ found w.tree sel .binary [src] ∧ c.findings checks w p ≠ .ok [] := by
  induction stops with
  | nil => exact .inl (by simp [sources, found])
  | cons stop stops ih =>
    have hskip : sources (stop :: stops) = sources [stop] ++ sources stops := sources_append [stop] stops
    by_cases hhere : ∀ p ∈ found w.tree sel .binary (sources [stop]), c.findings checks w p = .ok []
    · rcases ih with hall | ⟨passed, src, rest, p, rfl, hpassed, hp, hfail⟩
      · left
        rw [hskip, found_append]
        exact fun p hp => (List.mem_append.mp hp).elim (hhere p) (hall p)
      · refine .inr ⟨stop :: passed, src, rest, p, rfl, ?_, hp, hfail⟩
        rw [← List.singleton_append, sources_append, found_append]
        exact fun p hp => (List.mem_append.mp hp).elim (hhere p) (hpassed p)
    · obtain ⟨p, hp, hfail⟩ : ∃ p ∈ found w.tree sel .binary (sources [stop]),
          c.findings checks w p ≠ .ok [] := by simpa using hhere
      cases stop with
      | note message => simp [sources, found] at hp
      | fault f => simp [sources, found] at hp
      | source src => exact .inr ⟨[], src, stops, p, rfl, by simp [sources, found], hp, hfail⟩

lemma matches_visitor {T : FileTree → FileTree → Prop} {before before' : List FormatterCall}
    (hT : ∀ t t', T t t' → t'.entry src.path = t.entry src.path) (tally : Tally) :
    Matches (Alike T before before') (c.visitor checks sel src tally) (c.visitor checks sel src tally) := by
  have hread : ∀ t t', T t t' → t'.read src.path = t.read src.path := by
    intro t t' ht
    unfold FileTree.read
    rw [hT t t' ht]
  have hmode : ∀ t t', T t t' → src.modeIn t' = src.modeIn t := by
    intro t t' ht
    unfold Source.modeIn
    rw [hT t t' ht]
  have hcontent : Matches (Alike T before before') (src.content sel .binary)
      (src.content sel .binary) := by
    refine .bind (.query fun v v' h => hread _ _ h.tree) fun data => ?_
    refine .bind (.lift _) fun skipped => ?_
    cases skipped with
    | true => exact .bind (.log _ _ _ _) fun _ => .pure _
    | false => exact .pure _
  refine .bind hcontent fun content => ?_
  cases content with
  | none => exact .pure _
  | some data => exact .bind (matches_checkSource rfl rfl hmode c checks data) fun _ => .pure _

lemma run_scan_sameUntil (hchecks : c.checklist = .ok checks)
    (hsel : Selection.ofPatterns .binary c.patterns = .ok sel) {passed : List Stop} {tally : Tally}
    (hrun : (replay (c.visitor checks sel) (passed ++ [.source src]) []).run w = (.ok (.done tally), v))
    {w' : World} (hw : Alike (SameUntil sel path passed src) w.calls w'.calls w w') :
    ∃ made v', (c.scan (.text path)).run w' = (.ok tally, v') ∧ v.calls = w.calls ++ made ∧
      v'.calls = w'.calls ++ made := by
  have hmatch : Matches (Alike (SameUntil sel path passed src) w.calls w'.calls)
      (replay (c.visitor checks sel) (passed ++ [.source src]) [])
      (replay (c.visitor checks sel) (passed ++ [.source src]) []) := by
    refine matches_replay (fun s hs tally => matches_visitor (fun t t' ht => ht.entries s ?_) tally) []
    simpa [sources] using hs
  obtain ⟨v', hrun', hv'⟩ := hmatch.run_eq hw hrun
  obtain ⟨rest, hstops⟩ := hw.tree.stops
  obtain ⟨made, hmade, hmade'⟩ := hv'.calls
  refine ⟨made, v', ?_, hmade, hmade'⟩
  rw [run_scan_eq hchecks hsel, run_fold_visitor, hstops, ← List.singleton_append, ← List.append_assoc,
    run_replay_done hrun']
  rfl

/-- The first failure among files, in the order of the files and of the tests. -/
structure FirstFailure (c : Checker) (w : World) (items before : List (Source × Content))
    (src : Source) (data : Bytes) (key : String) : Prop where
  split : ∃ after, items = before ++ (src, .bytes data) :: after
  passed : ∀ p ∈ before, ((c.thorough.checkFile (.text p.1.path)).run w).1 = .ok []
  failed : ∃ more : List String, (key :: more).Sublist c.testNames ∧
    ((c.thorough.checkFile (.text src.path)).run w).1 = .ok ((key, 1) :: more.map (·, 1))

lemma run_checkFile_findings (hchecks : c.checklist = .ok checks) (hn : w.tree.Named)
    {srcs : List Source} (hsrcs : ∀ s ∈ srcs, s ∈ sources (stops w.tree sel path))
    {p : Source × Content} (hp : p ∈ found w.tree sel .binary srcs) :
    ((c.thorough.checkFile (.text p.1.path)).run w).1 =
      (c.findings checks w p).map fun names => names.map (·, 1) := by
  obtain ⟨src, hsrc, hsome⟩ := List.mem_filterMap.mp hp
  have hfaithful := faithful_of_mem_sources hn (hsrcs src hsrc)
  cases hread : w.tree.read src.path with
  | error problem =>
    rw [hread] at hsome
    cases hsome
  | ok data =>
    rw [hread] at hsome
    obtain ⟨d, hd, rfl⟩ := Option.map_eq_some_iff.mp hsome
    obtain ⟨rfl, -⟩ := found_of_wanted hread hd
    have hchecks' : c.thorough.checklist = .ok checks := hchecks
    rw [run_checkFile hchecks' hread, failures_ofPath hfaithful]
    change (failures false w (c.tests checks src data)).map _ =
      (failures false w (c.tests checks src data)).map _
    cases hnames : failures false w (c.tests checks src data) with
    | error f => rfl
    | ok names =>
      have hnodup := (failures_names hchecks hnames).nodup c.nodup_testNames
      exact congrArg Except.ok (Tally.addAll_nodup (t := []) hnodup)

lemma firstFailure_of_stops (hchecks : c.checklist = .ok checks) (hn : w.tree.Named)
    {passed rest : List Stop} (hstops : stops w.tree sel path = passed ++ .source src :: rest)
    (hpassed : ∀ p ∈ found w.tree sel .binary (sources passed), c.findings checks w p = .ok [])
    (hp : (src, .bytes data) ∈ found w.tree sel .binary [src]) {key : String} {more : List String}
    (hfail : c.findings checks w (src, .bytes data) = .ok (key :: more)) :
    c.FirstFailure w (found w.tree sel .binary (sources (stops w.tree sel path)))
      (found w.tree sel .binary (sources passed)) src data key := by
  have hsources : sources (stops w.tree sel path) = sources passed ++ ([src] ++ sources rest) := by
    rw [hstops, sources_append]
    rfl
  have hone : found w.tree sel .binary [src] = [(src, .bytes data)] := by
    have hlength : (found w.tree sel .binary [src]).length ≤ 1 := List.length_filterMap_le _ _
    obtain ⟨before, after, hsplit⟩ := List.append_of_mem hp
    rw [hsplit, List.length_append, List.length_cons] at hlength
    obtain rfl : before = [] := List.length_eq_zero_iff.mp (by omega)
    obtain rfl : after = [] := List.length_eq_zero_iff.mp (by omega)
    exact hsplit
  refine ⟨⟨found w.tree sel .binary (sources rest), ?_⟩, ?_, more, ?_, ?_⟩
  · rw [hsources, found_append, found_append, hone]
    rfl
  · intro p hp'
    have hsrcs : ∀ s ∈ sources passed, s ∈ sources (stops w.tree sel path) := by
      intro s hs
      rw [hsources]
      exact List.mem_append_left _ hs
    rw [run_checkFile_findings hchecks hn hsrcs hp', hpassed p hp']
    rfl
  · exact failures_names hchecks hfail
  · have hsrcs : ∀ s ∈ [src], s ∈ sources (stops w.tree sel path) := by
      intro s hs
      rw [hsources]
      exact List.mem_append_right _ (List.mem_append_left _ hs)
    have hfile := run_checkFile_findings hchecks hn hsrcs hp
    rw [hfail] at hfile
    exact hfile

lemma Counts.eq_nil_iff {items : List (Source × Content)} {tally : Tally}
    (h : c.thorough.Counts w items tally) {names : Source × Content → List String}
    (hfile : ∀ p ∈ items, ((c.thorough.checkFile (.text p.1.path)).run w).1 = .ok ((names p).map (·, 1))) :
    tally = [] ↔ ∀ p ∈ items, names p = [] := by
  have hreports : ∀ p ∈ items, ∀ key, c.thorough.reports w p.1.path key = (names p).contains key := by
    intro p hp key
    simp [reports, hfile p hp, Tally.keys, Function.comp_def]
  simp only [h.proper.eq_nil_iff, h.count, reported, List.countP_eq_zero]
  constructor
  · intro hnone p hp
    refine List.eq_nil_iff_forall_not_mem.mpr fun key hkey => hnone key p hp ?_
    rw [hreports p hp, List.contains_iff_mem]
    exact hkey
  · intro hnone key p hp
    simp [hreports p hp, hnone p hp]

/-- Where the scan with all checks returns, the scan that stops at a failure returns too. It finds
nothing just if the other one does, and else it finds the first failure alone. The formatting program
is called for the files before, and for the last one only if all its other tests pass; what the walk
would come to after that file does not matter. -/
theorem scan_stops_at_first_failure (hn : w.tree.Named) {tally : Tally} {w' : World}
    (h : (c.thorough.scan (.text path)).run w = (.ok tally, w')) :
    ∃ sel items fast w₁, Selection.ofPatterns .binary c.patterns = .ok sel ∧
      Finds c.patterns .binary path w items ∧
      (c.hasty.scan (.text path)).run w = (.ok fast, w₁) ∧ (fast = [] ↔ tally = []) ∧
      (tally ≠ [] → ∃ before src data key, c.FirstFailure w items before src data key ∧
        fast = [(key, 1)] ∧
        w₁.calls = w.calls ++ before.flatMap c.callsFor ++
          (if key = "clang-format" then c.formatCalls src data else []) ∧
        ∃ passed rest, stops w.tree sel path = passed ++ .source src :: rest ∧
          before = found w.tree sel .binary (sources passed) ∧
          ∀ w₂, World.Alike (SameUntil sel path passed src) w.calls w₂.calls w w₂ →
            ∃ made w₃, (c.hasty.scan (.text path)).run w₂ = (.ok fast, w₃) ∧
              w₁.calls = w.calls ++ made ∧ w₃.calls = w₂.calls ++ made) := by
  obtain ⟨checks, v₁, hlist, h₁⟩ := Session.run_bind_eq_ok h
  obtain ⟨sel, v₂, hpatterns, -⟩ := Session.run_bind_eq_ok h₁
  rw [Session.run_lift] at hlist hpatterns
  have hchecks : c.checklist = .ok checks := congrArg Prod.fst hlist
  have hsel : Selection.ofPatterns .binary c.patterns = .ok sel := congrArg Prod.fst hpatterns
  have hmode := Selection.mode_of_ofPatterns hsel
  obtain ⟨items, ⟨hfinds, hcheck⟩, hcounts⟩ := selected_of_scan rfl (congrArg Prod.fst hlist) hn h
  obtain ⟨rfl, hno⟩ := (finds_iff hsel).mp hfinds
  have hfile := fun p (hp : p ∈ found w.tree sel .binary (sources (stops w.tree sel path))) =>
    run_checkFile_findings hchecks hn (fun _ hs => hs) hp
  have hread : ∀ s ∈ sources (stops w.tree sel path), ∃ data, w.tree.read s.path = .ok data := by
    intro s hs
    cases hread : w.tree.read s.path with
    | ok data => exact ⟨data, rfl⟩
    | error problem => exact absurd (.inr ⟨s, hs, problem, hread, rfl⟩) (hno _)
  have hnames : ∀ p ∈ found w.tree sel .binary (sources (stops w.tree sel path)),
      ∃ names, c.findings checks w p = .ok names := by
    intro p hp
    obtain ⟨tally', v, hrun⟩ := hcheck p hp
    have hmap := hfile p hp
    rw [hrun] at hmap
    obtain ⟨names, hnames, -⟩ := map_eq_ok hmap.symm
    exact ⟨names, hnames⟩
  choose! names hnames using hnames
  have hempty := hcounts.eq_nil_iff fun p hp => by rw [hfile p hp, hnames p hp]; rfl
  rcases exists_first_failure c checks w sel (stops w.tree sel path) with
    hall | ⟨passed, src, rest, p, hstops, hpassed, hp, hfail⟩
  · obtain ⟨v, hrun, -⟩ := run_replay_passed hchecks hmode (fun f hf => hno f (.inl hf)) hread hall
    have hscan : (c.hasty.scan (.text path)).run w = (.ok [], v) := by
      rw [run_scan_eq (c := c.hasty) hchecks hsel,
        run_fold (fun _ => SameView.of_eq) (keeps_visitor checks sel w.tree) path [] rfl, hrun]
      rfl
    have htally : tally = [] := by
      refine hempty.mpr fun p hp => ?_
      have hp' := hall p hp
      rw [hnames p hp] at hp'
      exact Except.ok.inj hp'
    exact ⟨sel, _, [], v, hsel, hfinds, hscan, iff_of_true rfl htally, fun hne => absurd htally hne⟩
  · have hsources : sources (stops w.tree sel path) = (sources passed ++ [src]) ++ sources rest := by
      rw [hstops, sources_append, List.append_assoc]
      rfl
    have hmem : p ∈ found w.tree sel .binary (sources (stops w.tree sel path)) := by
      rw [hsources, found_append, found_append]
      exact List.mem_append_left _ (List.mem_append_right _ hp)
    obtain ⟨key, more, hkey⟩ : ∃ key more, names p = key :: more := by
      rw [hnames p hmem] at hfail
      exact List.exists_cons_of_ne_nil fun hnil => hfail (by rw [hnil])
    have htally : tally ≠ [] := by
      rw [Ne, hempty]
      exact fun hall => List.cons_ne_nil key more (hkey.symm.trans (hall _ hmem))
    have hpfail := hnames p hmem
    rw [hkey] at hpfail
    obtain ⟨data, v, rfl, hrun, hcalls⟩ := run_replay_failed hchecks hmode
      (fun f hf => hno f (.inl (by rw [hstops]; exact List.mem_append_left _ hf)))
      (fun s hs => hread s (by rw [hsources]; exact List.mem_append_left _ hs)) hpassed hp hpfail
    have hdepends : ∀ w₂, World.Alike (SameUntil sel path passed src) w.calls w₂.calls w w₂ →
        ∃ made w₃, (c.hasty.scan (.text path)).run w₂ = (.ok [(key, 1)], w₃) ∧
          v.calls = w.calls ++ made ∧ w₃.calls = w₂.calls ++ made :=
      fun w₂ => run_scan_sameUntil (c := c.hasty) hchecks hsel hrun
    have hself : World.Alike (SameUntil sel path passed src) w.calls w.calls w w :=
      ⟨⟨⟨rest, hstops⟩, fun _ _ => rfl⟩, rfl, rfl, rfl, Iff.rfl, [], by simp⟩
    obtain ⟨made, w₁, hscan, hmade, hmade₁⟩ := hdepends w hself
    have hw₁ : w₁.calls = v.calls := hmade₁.trans hmade.symm
    rw [← hw₁] at hcalls hdepends
    exact ⟨sel, _, [(key, 1)], w₁, hsel, hfinds, hscan, iff_of_false (List.cons_ne_nil _ _) htally,
      fun _ => ⟨_, src, data, key, firstFailure_of_stops hchecks hn hstops hpassed hp hpfail, rfl,
        hcalls, passed, rest, hstops, rfl, hdepends⟩⟩

/-- In a directory with a clean file, and one with a tab and a blank at the end of its line, the tab is
found. -/
theorem scan_stops_in_small_directory :
    let w : World := {
      tree := { entries := [(["d"], .dir 0o755), (["a.c", "d"], .file [0x78, 0x0a] 0o644),
        (["b.c", "d"], .file [0x09, 0x78, 0x20, 0x0a] 0o644)] }
      year := 2024 }
    let c : Checker := { notice := .flag false, mode := .flag false }
    ∃ tally w' w₁, (c.thorough.scan (.text "d")).run w = (.ok tally, w') ∧ tally ≠ [] ∧
      (c.hasty.scan (.text "d")).run w = (.ok [("tabs", 1)], w₁) ∧ w₁.calls = [] := by
  intro w c
  have hp : w.tree.Plain := by decide
  have hn : w.tree.Named := FileTree.named_of_entries (by decide)
  have hd : Path.locate w.tree .follow "d" = .ok ["d"] := Path.locate_name hp rfl
  obtain ⟨sel, hsel⟩ : ∃ sel, Selection.ofPatterns .binary c.patterns = .ok sel := ⟨_, rfl⟩
  obtain ⟨checks, hchecks⟩ : ∃ checks, c.thorough.checklist = .ok checks := ⟨_, rfl⟩
  let a : Source := ⟨"a.c", "d/a.c", none⟩
  let b : Source := ⟨"b.c", "d/b.c", none⟩
  have hflat : Flat w.tree sel "d" ["d"]
      [("a.c", [0x78, 0x0a], 0o644), ("b.c", [0x09, 0x78, 0x20, 0x0a], 0o644)] := by
    refine ⟨hd, rfl, ?_, by decide, by decide, by cases hsel; decide +kernel⟩
    rw [FileTree.listedAt_sorted rfl]
    exact List.mergeSort_of_pairwise (by decide)
  have ha : w.tree.read "d/a.c" = .ok [0x78, 0x0a] :=
    hflat.read_file (p := ("a.c", [0x78, 0x0a], 0o644)) hp (by simp)
  have hb : w.tree.read "d/b.c" = .ok [0x09, 0x78, 0x20, 0x0a] :=
    hflat.read_file (p := ("b.c", [0x09, 0x78, 0x20, 0x0a], 0o644)) hp (by simp)
  have hfinds : Finds c.patterns .binary "d" w
      [(a, .bytes [0x78, 0x0a]), (b, .bytes [0x09, 0x78, 0x20, 0x0a])] := by
    refine (finds_iff hsel).mpr ⟨?_, hflat.not_obstacle hp⟩
    rw [hflat.found_eq hp]
    cases hsel
    rfl
  have hcheckA : ((c.thorough.checkFile (.text "d/a.c")).run w).1 = .ok [] := by
    rw [run_checkFile hchecks ha]
    cases hchecks
    rfl
  have hcheckB : ((c.thorough.checkFile (.text "d/b.c")).run w).1 =
      .ok [("tabs", 1), ("trailing spaces", 1)] := by
    rw [run_checkFile hchecks hb]
    cases hchecks
    rfl
  have hcheckable : ∀ p ∈ [(a, Content.bytes [0x78, 0x0a]), (b, .bytes [0x09, 0x78, 0x20, 0x0a])],
      c.thorough.Checkable w p.1.path := by
    simp only [List.forall_mem_cons, List.not_mem_nil, false_implies, implies_true, and_true]
    exact ⟨⟨_, _, Prod.ext hcheckA rfl⟩, ⟨_, _, Prod.ext hcheckB rfl⟩⟩
  obtain ⟨tally, w', hscan, -, hcounts⟩ :=
    run_scan_selected (v := w) rfl hchecks hn rfl ⟨hfinds, hcheckable⟩
  have htally : tally ≠ [] := by
    let names : Source × Content → List String := fun p =>
      if p.1 = a then [] else ["tabs", "trailing spaces"]
    have hnames : ∀ p ∈ [(a, Content.bytes [0x78, 0x0a]), (b, .bytes [0x09, 0x78, 0x20, 0x0a])],
        ((c.thorough.checkFile (.text p.1.path)).run w).1 = .ok ((names p).map (·, 1)) := by
      simp only [List.forall_mem_cons, List.not_mem_nil, false_implies, implies_true, and_true]
      exact ⟨hcheckA, hcheckB⟩
    rw [Ne, hcounts.eq_nil_iff hnames]
    simp [names, a, b]
  obtain ⟨sel', items, fast, w₁, -, hfinds', hfast, -, hmain⟩ := scan_stops_at_first_failure hn hscan
  obtain ⟨before, src, data, key, hfirst, rfl, hcalls, -⟩ := hmain htally
  obtain rfl := finds_unique hfinds' hfinds
  obtain ⟨rfl, rfl⟩ : before = [(a, .bytes [0x78, 0x0a])] ∧ key = "tabs" := by
    obtain ⟨after, hsplit⟩ := hfirst.split
    obtain ⟨more, -, hfailed⟩ := hfirst.failed
    rcases before with _ | ⟨x, _ | ⟨y, before⟩⟩
    · obtain ⟨hsrc, -⟩ := List.cons.inj hsplit
      rw [← (Prod.mk.inj hsrc).1, hcheckA] at hfailed
      cases hfailed
    · obtain ⟨rfl, hrest⟩ := List.cons.inj hsplit
      obtain ⟨hsrc, -⟩ := List.cons.inj hrest
      rw [← (Prod.mk.inj hsrc).1, hcheckB] at hfailed
      obtain ⟨hkey, -⟩ := List.cons.inj (Except.ok.inj hfailed)
      exact ⟨rfl, (Prod.mk.inj hkey).1.symm⟩
    · simp at hsplit
  exact ⟨tally, w', w₁, hscan, htally, hfast, hcalls⟩

end Checker

end SourceTidy
