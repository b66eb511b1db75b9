import Mathlib.Algebra.GroupWithZero.Nat
import SourceTidy.Proofs.CheckRuns
import SourceTidy.Proofs.ProgramRun
import SourceTidy.Proofs.Tallies

/-!
# The counts of a scan

A checker that makes all its tests counts each of them as often as a selected file fails it. This is
so for a single file, for the scan of a path, and for the sum over the paths of a command line.
-/

namespace SourceTidy

open Session

variable {items : List (Source × Content)} {src : Source} {tally : Tally}

namespace Checker

open SourceWalk SourceTree

variable {c : Checker} {w v : World} {sel : Selection} {path : String} {data : Bytes}
  {checks : List (String × Check)}

def Checkable (c : Checker) (w : World) (path : String) : Prop :=
  ∃ tally w', (c.checkFile (.text path)).run w = (.ok tally, w')

def reports (c : Checker) (w : World) (path key : String) : Bool :=
  match ((c.checkFile (.text path)).run w).1 with
  | .ok tally => tally.keys.contains key
  | .error _ => false

/-- The number of files whose checks count a failure under a name. -/
def reported (c : Checker) (w : World) (items : List (Source × Content)) (key : String) : Nat :=
  items.countP fun p => c.reports w p.1.path key

lemma run_checkFile (hchecks : c.checklist = .ok checks) (hread : w.tree.read path = .ok data) :
    ((c.checkFile (.text path)).run w).1 =
      (failures c.failFast.isOn w (c.tests checks (.ofPath path) data)).map (Tally.addAll []) := by
  rw [checkFile_eq hchecks hread, ← run_checkSource c checks (.ofPath path) data rfl]
  rfl

lemma checkFile_counts {w' : World} (h : (c.checkFile (.text path)).run w = (.ok tally, w')) :
    ∃ names : List String, names.Sublist c.testNames ∧ tally = names.map (·, 1) := by
  obtain ⟨checks, v₁, hchecks, h₁⟩ := run_bind_eq_ok h
  obtain ⟨path', v₂, hpath, h₂⟩ := run_bind_eq_ok h₁
  obtain ⟨data, v₃, hdata, h₃⟩ := run_bind_eq_ok h₂
  obtain ⟨names, v₄, hnames, h₄⟩ := run_bind_eq_ok h₃
  rw [run_lift] at hchecks
  have hsub : names.Sublist c.testNames := by
    have hrun := run_checkSource (w := v₃) c checks (.ofPath path') data rfl
    rw [hnames] at hrun
    exact failures_names (congrArg Prod.fst hchecks) hrun.symm
  refine ⟨names, hsub, ?_⟩
  cases h₄
  exact Tally.addAll_nodup (t := []) (hsub.nodup c.nodup_testNames)

lemma reports_of_failures {names : List String} (hchecks : c.checklist = .ok checks)
    (hread : w.tree.read path = .ok data)
    (h : failures c.failFast.isOn w (c.tests checks (.ofPath path) data) = .ok names) (key : String) :
    c.reports w path key = names.contains key := by
  unfold reports
  rw [run_checkFile hchecks hread, h]
  change (Tally.addAll [] names).keys.contains key = _
  rw [Bool.eq_iff_iff, List.contains_iff_mem, List.contains_iff_mem, Tally.mem_keys_addAll]
  simp [Tally.keys]

lemma found_of_unwanted (hread : w.tree.read src.path = .ok data)
    (h : Source.wanted sel .binary data = none) : found w.tree sel .binary [src] = [] := by
  simp [found, hread, h]

lemma found_of_wanted (hread : w.tree.read src.path = .ok data) {d : Bytes}
    (h : Source.wanted sel .binary data = some d) :
    data = d ∧ found w.tree sel .binary [src] = [(src, .bytes data)] := by
  have hdata : data = d := by
    have hdecode := h
    unfold Source.wanted at hdecode
    dsimp only [ReadMode.decode] at hdecode
    split at hdecode
    · cases hdecode
    · exact Option.some.inj hdecode
  refine ⟨hdata, ?_⟩
  subst hdata
  simp [found, hread, h, Content.of]

lemma found_append (t : FileTree) (srcs srcs' : List Source) :
    found t sel .binary (srcs ++ srcs') = found t sel .binary srcs ++ found t sel .binary srcs' :=
  List.filterMap_append

/-- The tally of a part of a scan: what the files found so far report. -/
structure Counts (c : Checker) (w : World) (items : List (Source × Content)) (tally : Tally) :
    Prop where
  proper : tally.Proper
  count : ∀ key, tally.count key = c.reported w items key

lemma Counts.nil : c.Counts w [] [] := ⟨.nil, fun _ => rfl⟩

lemma Counts.addAll (h : c.Counts w items tally) (hchecks : c.checklist = .ok checks)
    (hread : w.tree.read src.path = .ok data) {names : List String}
    (hnames : failures c.failFast.isOn w (c.tests checks (.ofPath src.path) data) = .ok names)
    (content : Content) : c.Counts w (items ++ [(src, content)]) (tally.addAll names) := by
  refine ⟨h.proper.addAll names, fun key => ?_⟩
  have hnodup : names.Nodup := (failures_names hchecks hnames).nodup c.nodup_testNames
  have hcount : names.count key = if names.contains key then 1 else 0 := by
    by_cases hmem : key ∈ names
    · simp [hmem, List.count_eq_one_of_mem hnodup hmem]
    · simp [hmem, List.count_eq_zero_of_not_mem hmem]
  rw [Tally.count_addAll, h.count, hcount, reported, reported, List.countP_append,
    List.countP_singleton, reports_of_failures hchecks hread hnames]

section

variable (hfirst : c.failFast.isOn = false) (hchecks : c.checklist = .ok checks)
  (hmode : sel.skippedData.mode = .binary)

include hfirst hchecks hmode

/-- A visit ends the scan where the file cannot be read or checked, and else counts the file if it is
selected. -/
lemma visitor_counts (hsrc : src.Faithful w.tree) (hv : v.frame = w.frame) (htally : c.Counts w items tally) :
    Lands (fun tally' v' => v'.frame = w.frame ∧
        c.Counts w (items ++ found w.tree sel .binary [src]) tally' ∧
        (∀ p ∈ found w.tree sel .binary [src], c.Checkable w p.1.path) ∧
        ∃ data, w.tree.read src.path = .ok data)
      (fun g _ => (∃ problem, w.tree.read src.path = .error problem ∧ g = .path problem src.path) ∨
        ∃ p ∈ found w.tree sel .binary [src], ((c.checkFile (.text p.1.path)).run w).1 = .error g)
      ((c.visitor checks sel src tally).run v) := by
  have htree : v.tree = w.tree := World.tree_eq_of_frame hv
  cases hread : w.tree.read src.path with
  | error problem =>
    rw [visitor, run_bind_error (Source.run_content_error (by rw [htree, hread]))]
    exact .inl ⟨problem, rfl, rfl⟩
  | ok data =>
    have hread' : v.tree.read src.path = .ok data := by rw [htree, hread]
    obtain ⟨u, hcontent, hwarn⟩ := Source.run_content hmode hread' (World.Warned.refl v)
    have hu : u.frame = w.frame := by
      obtain ⟨records, rfl⟩ := hwarn.rest
      exact hv
    rw [visitor, run_bind_ok hcontent]
    cases hwanted : Source.wanted sel .binary data with
    | none =>
      have hnone := found_of_unwanted hread hwanted
      refine ⟨hu, by simpa [hnone] using htally, by simp [hnone], data, rfl⟩
    | some d =>
      obtain ⟨rfl, hone⟩ := found_of_wanted hread hwanted
      have hcheck := run_checkSource c checks src data hu
      have hframe := frame_checkSource c checks src data u
      rw [← failures_ofPath hsrc] at hcheck
      have hfile := run_checkFile hchecks hread
      rw [hone]
      rcases hrun : (c.checkSource checks src data).run u with ⟨r, u'⟩
      rw [hrun] at hcheck hframe
      dsimp only at hcheck hframe ⊢
      cases r with
      | error g =>
        rw [run_bind_error hrun]
        exact .inr ⟨_, List.mem_singleton_self _, by rw [hfile, ← hcheck]; rfl⟩
      | ok names =>
        rw [run_bind_ok hrun, hfirst]
        refine ⟨hframe.trans hu, htally.addAll hchecks hread hcheck.symm _, ?_, data, rfl⟩
        intro p hp
        rw [List.mem_singleton.mp hp]
        rw [← hcheck] at hfile
        exact ⟨_, _, Prod.ext hfile rfl⟩

/-- A scan returns if the files it selects can be found and checked, and counts what they report. -/
theorem run_scan (hsel : Selection.ofPatterns .binary c.patterns = .ok sel) (hn : w.tree.Named)
    (hv : v.frame = w.frame) (path : String) :
    (∃ tally v' items, (c.scan (.text path)).run v = (.ok tally, v') ∧ v'.frame = w.frame ∧
      Finds c.patterns .binary path w items ∧ c.Counts w items tally ∧
      ∀ p ∈ items, c.Checkable w p.1.path) ∨
    ∃ g v', (c.scan (.text path)).run v = (.error g, v') ∧
      ∀ items, Finds c.patterns .binary path w items → ∃ p ∈ items, ¬c.Checkable w p.1.path := by
  let all := sources (stops w.tree sel path)
  let I : List Source → Tally → World → Prop := fun done tally u => u.frame = w.frame ∧
    c.Counts w (found w.tree sel .binary done) tally ∧
    ∀ p ∈ found w.tree sel .binary done, c.Checkable w p.1.path
  let E : Fault → World → Prop := fun g _ => Obstacle w.tree sel path g ∨
    ∃ p ∈ found w.tree sel .binary all, ((c.checkFile (.text p.1.path)).run w).1 = .error g
  have hvisit : ∀ done tally u src, src ∈ all → I done tally u →
      Lands (fun tally' u' => I (done ++ [src]) tally' u' ∧ ∃ data, w.tree.read src.path = .ok data) E
        ((c.visitor checks sel src tally).run u) := by
    rintro done tally u src hsrc ⟨hu, htally, hdone⟩
    have hstep := visitor_counts hfirst hchecks hmode (faithful_of_mem_sources hn hsrc) hu htally
    rcases hrun : (c.visitor checks sel src tally).run u with ⟨r, u'⟩
    rw [hrun] at hstep
    cases r with
    | error g =>
      rcases hstep with ⟨problem, hread, hg⟩ | ⟨p, hp, hg⟩
      · exact .inl (.inr ⟨src, hsrc, problem, hread, hg⟩)
      · refine .inr ⟨p, ?_, hg⟩
        obtain ⟨before, after, hall⟩ := List.append_of_mem hsrc
        have hin : p ∈ found w.tree sel .binary (before ++ [src]) := by
          rw [found_append]
          exact List.mem_append_right _ hp
        have hlist : all = (before ++ [src]) ++ after := by simpa using hall
        rw [hlist, found_append]
        exact List.mem_append_left _ hin
    | ok step =>
      cases step with
      | done tally' => exact hstep.elim
      | yield tally' =>
        obtain ⟨hu', htally', hnew, hread⟩ := hstep
        refine ⟨⟨hu', by rwa [found_append], ?_⟩, hread⟩
        rw [found_append]
        intro p hp
        exact (List.mem_append.mp hp).elim (hdone p) (hnew p)
  have hlog : ∀ done tally u, I done tally u → ∀ message, I done tally (u.logged .debug message) := by
    rintro done tally u ⟨hu, hrest⟩ message
    exact ⟨by rw [World.logged_frame, hu], hrest⟩
  have htree : v.tree = w.tree := World.tree_eq_of_frame hv
  have hstart : I [] [] v := ⟨hv, .nil, by simp [found]⟩
  rw [run_scan_eq hchecks hsel]
  rcases fold_lands (I := I) (E := E) (fun _ => SameView.of_eq) (keeps_visitor checks sel w.tree) hlog
      hvisit (fun g hg _ _ _ _ => .inl (.inl hg)) htree hstart with
    ⟨tally, v', hrun, ⟨hframe, htally, hcheck⟩, hno⟩ | ⟨g, v', hrun, hg⟩
  · exact .inl ⟨tally, v', _, hrun, hframe, (finds_iff hsel).mpr ⟨rfl, hno⟩, htally, hcheck⟩
  · refine .inr ⟨g, v', hrun, fun items hfinds => ?_⟩
    obtain ⟨rfl, hno⟩ := (finds_iff hsel).mp hfinds
    rcases hg with hg | ⟨p, hp, hg⟩
    · exact absurd hg (hno g)
    · refine ⟨p, hp, ?_⟩
      rintro ⟨tally, w', hrun⟩
      rw [hrun] at hg
      cases hg

end

lemma reported_append (items items' : List (Source × Content)) (key : String) :
    c.reported w (items ++ items') key = c.reported w items key + c.reported w items' key :=
  List.countP_append

lemma Counts.merge {items items' : List (Source × Content)} {tally tally' : Tally}
    (h : c.Counts w items tally) (h' : c.Counts w items' tally') :
    c.Counts w (items ++ items') (tally.merge tally') := by
  refine ⟨h.proper.merge h'.proper.found, fun key => ?_⟩
  rw [Tally.count_merge h'.proper.nodup, h.count, h'.count, reported_append]

/-- The files that a path selects, all of which can be checked. -/
def Selected (c : Checker) (w : World) (path : String) (items : List (Source × Content)) : Prop :=
  Finds c.patterns .binary path w items ∧ ∀ p ∈ items, c.Checkable w p.1.path

lemma finds_unique {p : Patterns} {m : ReadMode} {items items' : List (Source × Content)}
    (h : Finds p m path w items) (h' : Finds p m path w items') : items' = items := by
  obtain ⟨tree, -, htree, -⟩ := id h
  obtain ⟨sel, hsel, -⟩ := make_eq_ok_iff.mp htree
  rw [((finds_iff hsel).mp h).1, ((finds_iff hsel).mp h').1]

section

variable (hfirst : c.failFast.isOn = false) (hchecks : c.checklist = .ok checks) (hn : w.tree.Named)

include hfirst hchecks hn

lemma run_scan_selected (hv : v.frame = w.frame) (h : c.Selected w path items) :
    ∃ tally v', (c.scan (.text path)).run v = (.ok tally, v') ∧
      v'.frame = w.frame ∧ c.Counts w items tally := by
  obtain ⟨tree, -, htree, -⟩ := h.1
  obtain ⟨sel, hsel, -⟩ := make_eq_ok_iff.mp htree
  have hmode := Selection.mode_of_ofPatterns hsel
  rcases run_scan hfirst hchecks hmode hsel hn hv path with
    ⟨tally, v', items', hrun, hframe, hfinds, hcounts, -⟩ | ⟨g, v', -, hbad⟩
  · obtain rfl := finds_unique h.1 hfinds
    exact ⟨tally, v', hrun, hframe, hcounts⟩
  · obtain ⟨p, hp, hnot⟩ := hbad items h.1
    exact absurd (h.2 p hp) hnot

lemma selected_of_scan {w' : World} (h : (c.scan (.text path)).run w = (.ok tally, w')) :
    ∃ items, c.Selected w path items ∧ c.Counts w items tally := by
  obtain ⟨checks', v₁, hlist, h₁⟩ := run_bind_eq_ok h
  obtain ⟨sel, v₂, hpatterns, -⟩ := run_bind_eq_ok h₁
  rw [run_lift] at hpatterns
  have hsel : Selection.ofPatterns .binary c.patterns = .ok sel := congrArg Prod.fst hpatterns
  have hmode := Selection.mode_of_ofPatterns hsel
  rcases run_scan (v := w) hfirst hchecks hmode hsel hn rfl path with
    ⟨tally', v', items, hrun, -, hfinds, hcounts, hcheck⟩ | ⟨g, v', hrun, -⟩
  · rw [h] at hrun
    cases hrun
    exact ⟨items, ⟨hfinds, hcheck⟩, hcounts⟩
  · rw [h] at hrun
    cases hrun

lemma run_total {paths : List String} {items : String → List (Source × Content)}
    (h : ∀ path ∈ paths, c.Selected w path (items path)) :
    ∃ total v, (Program.total c (paths.map .text)).run w = (.ok total, v) ∧ v.frame = w.frame ∧
      c.Counts w (paths.flatMap items) total := by
  suffices hgo : ∀ (u : World) (before : List (Source × Content)) (tally : Tally),
      u.frame = w.frame → c.Counts w before tally →
      ∃ total v, ((paths.map Setting.text).foldlM
          (fun tally path => return Tally.merge tally (← c.scan path)) tally).run u = (.ok total, v) ∧
        v.frame = w.frame ∧ c.Counts w (before ++ paths.flatMap items) total by
    exact hgo w [] [] rfl .nil
  induction paths with
  | nil =>
    intro u before tally hu htally
    exact ⟨tally, u, rfl, hu, by simpa using htally⟩
  | cons path paths ih =>
    intro u before tally hu htally
    obtain ⟨hpath, hrest⟩ := List.forall_mem_cons.mp h
    obtain ⟨tally', u', hscan, hu', hcounts⟩ := run_scan_selected hfirst hchecks hn hu hpath
    obtain ⟨total, v, hrun, hv, htotal⟩ := ih hrest u' _ _ hu' (htally.merge hcounts)
    refine ⟨total, v, ?_, hv, by simpa using htotal⟩
    rw [List.map_cons, List.foldlM_cons, run_bind, run_bind_ok hscan]
    exact hrun

omit hfirst hchecks hn in
lemma reported_flatMap (paths : List String) (items : String → List (Source × Content))
    (key : String) : c.reported w (paths.flatMap items) key =
      (paths.map fun path => c.reported w (items path) key).sum := by
  induction paths with
  | nil => rfl
  | cons path paths ih => rw [List.flatMap_cons, reported_append, ih, List.map_cons, List.sum_cons]

end

/-- A checker that makes all its tests counts them exactly. The check of a file counts every failure
once. A scan returns just if the files of its path can be found and each of them can be checked, and
counts each name as often as a file of the path reports it. What the program prints after the scans
of several paths, and how it ends, is told by the sums of the counts of the paths. -/
theorem scan_counts_failures (hfirst : c.failFast.isOn = false) (hchecks : c.checklist = .ok checks)
    (hn : w.tree.Named) :
    (∀ path tally w', (c.checkFile (.text path)).run w = (.ok tally, w') →
      tally.keys.Nodup ∧ ∀ p ∈ tally, p.2 = 1) ∧
    (∀ path, (∃ tally w', (c.scan (.text path)).run w = (.ok tally, w')) ↔
      ∃ items, Finds c.patterns .binary path w items ∧ ∀ p ∈ items, c.Checkable w p.1.path) ∧
    (∀ path items tally w', Finds c.patterns .binary path w items →
      (c.scan (.text path)).run w = (.ok tally, w') → tally.Proper ∧
        ∀ key, tally.count key = items.countP fun p => c.reports w p.1.path key) ∧
    ∀ (call : Program.Call) (w₀ : World) (paths : List String),
      Program.Comes call w₀ (.check c (paths.map .text)) w →
      (∀ path ∈ paths, ∃ items, Finds c.patterns .binary path w items ∧
        ∀ p ∈ items, c.Checkable w p.1.path) →
      ∃ (tally : String → Tally) (total : Tally) (log : List LogRecord),
        (∀ path ∈ paths, ∃ w', (c.scan (.text path)).run w = (.ok (tally path), w')) ∧
        total.Proper ∧ (∀ key, total.count key = (paths.map fun path => (tally path).count key).sum) ∧
        (Program.execute call w₀).ending = .answered (!total.isEmpty) ∧
        (Program.execute call w₀).output = Program.printedLog (log ++
          [Program.verdict total].filter fun r => w.threshold ≤ r.level.number) ∧
        (total.isEmpty = false ↔ ∃ path ∈ paths, ∃ items, Finds c.patterns .binary path w items ∧
          ∃ p ∈ items, ∃ key, c.reports w p.1.path key = true) := by
  refine ⟨?_, ?_, ?_, ?_⟩
  · intro path tally w' hrun
    obtain ⟨names, hsub, rfl⟩ := checkFile_counts hrun
    have hkeys : Tally.keys (names.map (·, 1)) = names := by simp [Tally.keys, Function.comp_def]
    refine ⟨by rw [hkeys]; exact hsub.nodup c.nodup_testNames, ?_⟩
    intro p hp
    obtain ⟨name, -, rfl⟩ := List.mem_map.mp hp
    rfl
  · intro path
    constructor
    · rintro ⟨tally, w', hrun⟩
      obtain ⟨items, hselected, -⟩ := selected_of_scan hfirst hchecks hn hrun
      exact ⟨items, hselected⟩
    · rintro ⟨items, hselected⟩
      obtain ⟨tally, w', hrun, -⟩ := run_scan_selected (v := w) hfirst hchecks hn rfl hselected
      exact ⟨tally, w', hrun⟩
  · intro path items tally w' hfinds hrun
    obtain ⟨items', hselected, hcounts⟩ := selected_of_scan hfirst hchecks hn hrun
    obtain rfl := finds_unique hfinds hselected.1
    exact ⟨hcounts.proper, hcounts.count⟩
  · intro call w₀ paths hcomes hpaths
    choose! items hitems using hpaths
    have hscans : ∀ path ∈ paths, ∃ tally w', (c.scan (.text path)).run w = (.ok tally, w') ∧
        c.Counts w (items path) tally := by
      intro path hpath
      obtain ⟨tally, w', hrun, -, hcounts⟩ :=
        run_scan_selected (v := w) hfirst hchecks hn rfl (hitems path hpath)
      exact ⟨tally, w', hrun, hcounts⟩
    choose! tally w' hscans using hscans
    obtain ⟨total, v, hrun, hv, htotal⟩ := run_total hfirst hchecks hn hitems
    have hexecute := Program.execute_of_perform hcomes (Program.run_checkPaths hrun)
    refine ⟨tally, total, v.log, fun path hpath => ⟨_, (hscans path hpath).1⟩, htotal.proper, ?_, ?_,
      ?_, ?_⟩
    · intro key
      rw [htotal.count, reported_flatMap]
      refine congrArg List.sum (List.map_congr_left fun path hpath => ?_)
      exact ((hscans path hpath).2.count key).symm
    · rw [hexecute]
    · have hthreshold : v.threshold = w.threshold := (congrArg World.threshold hv :)
      rw [hexecute, World.logged, hthreshold]
      by_cases hkept : w.threshold ≤ (Program.verdict total).level.number
      · simp [hkept]
      · simp [hkept]
    · have hempty : total.isEmpty = false ↔ ∃ key, 0 < c.reported w (paths.flatMap items) key := by
        have hnil := not_congr htotal.proper.eq_nil_iff
        simp only [not_forall, htotal.count, ← Nat.pos_iff_ne_zero] at hnil
        rw [← hnil]
        cases total <;> simp
      rw [hempty]
      simp only [reported, List.countP_pos_iff, List.mem_flatMap]
      constructor
      · rintro ⟨key, p, ⟨path, hpath, hp⟩, hkey⟩
        exact ⟨path, hpath, items path, (hitems path hpath).1, p, hp, key, hkey⟩
      · rintro ⟨path, hpath, items', hfinds, p, hp, key, hkey⟩
        obtain rfl := finds_unique (hitems path hpath).1 hfinds
        exact ⟨key, p, ⟨path, hpath, hp⟩, hkey⟩

/-- A file with a tab, and a link to it, are counted both. -/
theorem scan_counts_of_linked_file :
    let w : World := {
      tree := { entries := [(["a.c"], .file [0x09, 0x78, 0x0a] 0o644), (["b.c"], .link "a.c")] }
      threshold := 20
      year := 2024 }
    let call : Program.Call := ⟨[], ["check", "--no-mode", "a.c", "b.c"]⟩
    ∃ total log, (Program.execute call w).ending = .answered true ∧
      (Program.execute call w).output = Program.printedLog (log ++ [Program.verdict total]) ∧
      total.count "tabs" = 2 ∧ total.count "no copyright" = 2 := by
  intro w call
  let c : Checker := { mode := .flag false }
  obtain ⟨checks, hchecks⟩ : ∃ checks, c.checklist = .ok checks := ⟨_, rfl⟩
  have hcomes : Program.Comes call w (.check c (["a.c", "b.c"].map .text)) w := ⟨_, _, rfl, rfl⟩
  have hn : w.tree.Named := FileTree.named_of_entries (by decide)
  have hloc : ∀ path ∈ ["a.c", "b.c"], Path.locate w.tree .follow path = .ok ["a.c"] := by
    have hfile : ∀ links, Path.walk w.tree .follow links [] ["a.c"] = .ok ["a.c"] := by
      intro links
      rw [Path.walk]
      exact Path.walk_nil _ _ _
    have hlink : ∀ links, Path.walk w.tree .follow (links + 1) [] ["b.c"] = .ok ["a.c"] := by
      intro links
      rw [Path.walk]
      exact hfile links
    simp only [List.forall_mem_cons]
    exact ⟨hfile Path.linkLimit, hlink 39, by simp⟩
  have hfinds : ∀ path ∈ ["a.c", "b.c"], Finds c.patterns .binary path w
      [(.ofPath path, .bytes [0x09, 0x78, 0x0a])] := by
    intro path hpath
    have hl := hloc path hpath
    simp only [List.mem_cons, List.not_mem_nil, or_false] at hpath
    rcases hpath with rfl | rfl <;> exact finds_file (m := .binary) rfl ⟨hl, rfl, rfl, rfl, rfl⟩
  have hcheck : ∀ path ∈ ["a.c", "b.c"], ((c.checkFile (.text path)).run w).1 =
      .ok [("tabs", 1), ("no copyright", 1)] := by
    intro path hpath
    rw [run_checkFile hchecks (FileTree.read_of_locate (hloc path hpath) rfl)]
    cases hchecks
    rfl
  obtain ⟨-, -, hcounts, hmain⟩ := scan_counts_failures (c := c) (w := w) rfl hchecks hn
  obtain ⟨tally, total, log, hscan, -, htotal, hending, houtput, hempty⟩ := hmain call w ["a.c", "b.c"]
    hcomes fun path hpath => ⟨_, hfinds path hpath, by
      simpa using ⟨_, _, Prod.ext (hcheck path hpath) rfl⟩⟩
  have hreports : ∀ path ∈ ["a.c", "b.c"], ∀ key ∈ ["tabs", "no copyright"],
      c.reports w path key = true := by
    intro path hpath key hkey
    rw [reports, hcheck path hpath]
    simpa [Tally.keys] using hkey
  have hcount : ∀ path ∈ ["a.c", "b.c"], ∀ key ∈ ["tabs", "no copyright"],
      (tally path).count key = 1 := by
    intro path hpath key hkey
    obtain ⟨w', hrun⟩ := hscan path hpath
    rw [(hcounts path _ _ w' (hfinds path hpath) hrun).2 key, List.countP_singleton]
    exact if_pos (hreports path hpath key hkey)
  have hfull : total.isEmpty = false :=
    hempty.mpr ⟨"a.c", by simp, _, hfinds "a.c" (by simp), _, List.mem_singleton_self _, "tabs",
      hreports "a.c" (by simp) "tabs" (by simp)⟩
  refine ⟨total, log, by rw [hending, hfull]; rfl, ?_, ?_, ?_⟩
  · rw [houtput, Program.verdict, hfull]
    rfl
  · rw [htotal]
    simp [hcount]
  · rw [htotal]
    simp [hcount]

end Checker

end SourceTidy
