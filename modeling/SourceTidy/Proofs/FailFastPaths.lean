import SourceTidy.Proofs.ConfiguredTools

/-!
# Paths that are checked up to a failure

With the option that ends a check as soon as something fails, the scan of a path stops at the first
file that fails. The program goes on with the next path all the same.
-/

namespace SourceTidy

open Session World Patterns

variable {ps : List String} {key : String}

namespace Tally

def total (t : Tally) : Nat := (t.map Prod.snd).sum

lemma total_add (key : String) (n : Nat) (t : Tally) : (add key n t).total = t.total + n := by
  induction t with
  | nil => simp [add, total]
  | cons p t ih =>
    rw [add]
    split
    · simp [total, Nat.add_right_comm]
    · rw [total, List.map_cons, List.sum_cons, ← total, ih, ← Nat.add_assoc]
      rfl

lemma total_merge (t u : Tally) : (merge t u).total = t.total + u.total := by
  unfold merge
  induction u generalizing t with
  | nil => rfl
  | cons p u ih =>
    rw [List.foldl_cons, ih, total_add, Nat.add_assoc]
    rfl

lemma total_foldl_merge (tallies : List Tally) (t : Tally) :
    (tallies.foldl merge t).total = t.total + (tallies.map total).sum := by
  induction tallies generalizing t with
  | nil => rfl
  | cons u tallies ih => rw [List.foldl_cons, ih, total_merge, Nat.add_assoc, List.map_cons, List.sum_cons]

end Tally

/-- The path in quotes, if a record says that the file there is checked. -/
def LogRecord.checked? (r : LogRecord) : Option Text :=
  if r.level = .debug then Text.after? "checking ".toList r.message.toList else none

def World.checked (w : World) : List Text := w.log.filterMap LogRecord.checked?

namespace World

variable {level : Level} {message : String}

lemma checked_logged (h : LogRecord.checked? ⟨level, message⟩ = none) (w : World) :
    (w.logged level message).checked = w.checked := by
  unfold logged
  split
  · simp [checked, h]
  · rfl

lemma checked_logged_of_ne (h : level ≠ .debug) (w : World) : (w.logged level message).checked = w.checked :=
  checked_logged (if_neg h) w

lemma checked?_of_title {title : String}
    (h : ∀ rest, Text.after? "checking ".toList (title.toList ++ rest) = none) (rest : String) :
    LogRecord.checked? ⟨.debug, title ++ rest⟩ = none := by
  rw [LogRecord.checked?, if_pos rfl, String.toList_append]
  exact h _

lemma checked?_skipping (path : String) :
    LogRecord.checked? ⟨.debug, "skipping " ++ Text.quote path⟩ = none :=
  checked?_of_title (fun _ => rfl) _

lemma checked_logged_checking {w : World} (h : w.threshold ≤ Level.debug.number) (path : String) :
    (w.logged .debug ("checking " ++ Text.quote path)).checked = w.checked ++ [(Text.quote path).toList] := by
  have hone : LogRecord.checked? ⟨.debug, "checking " ++ Text.quote path⟩ =
      some (Text.quote path).toList := by
    rw [LogRecord.checked?, if_pos rfl, String.toList_append]
    rfl
  rw [logged, if_pos h, checked, checked, List.filterMap_append, List.filterMap_cons_some hone]
  rfl

end World

namespace SourceWalk

variable {t : FileTree} {sel : Selection}

lemma checked?_of_note {depth : Nat} {path message : String}
    (h : .note message ∈ pathStops t sel depth path) : LogRecord.checked? ⟨.debug, message⟩ = none := by
  refine forall_pathStops (P := fun stop => ∀ m, stop = .note m → LogRecord.checked? ⟨.debug, m⟩ = none)
    ?_ ?_ ?_ ?_ h message rfl
  · rintro path _ ⟨⟩
    exact checked?_skipping path
  · rintro path _ ⟨⟩
    exact checked?_of_title (fun _ => rfl) _
  · rintro src _ ⟨⟩
  · rintro problem path _ ⟨⟩

end SourceWalk

namespace Checker

open SourceWalk

variable {c : Checker} {checks : List (String × Check)} {sel : Selection} {w v : World}

/-- How scans that stop at a failure end, with the name of a test that fails or a fault, and the sources
that they check. -/
abbrev FastEnd (α : Type) := Except Fault α × List Source

def FastEnd.andThen (x y : FastEnd (Option String)) : FastEnd (Option String) :=
  match x.1 with
  | .ok none => (y.1, x.2 ++ y.2)
  | _ => x

def fastVisit (c : Checker) (checks : List (String × Check)) (sel : Selection) (w : World) (src : Source) :
    FastEnd (Option String) :=
  match w.tree.read src.path with
  | .error problem => (.error (.path problem src.path), [])
  | .ok data =>
    match Source.wanted sel .binary data with
    | none => (.ok none, [])
    | some d => ((failures true w (c.tests checks src d)).map List.head?, [src])

def fastWalk (c : Checker) (checks : List (String × Check)) (sel : Selection) (w : World) :
    List Stop → FastEnd (Option String)
  | [] => (.ok none, [])
  | .note _ :: rest => fastWalk c checks sel w rest
  | .fault f :: _ => (.error f, [])
  | .source src :: rest => (fastVisit c checks sel w src).andThen (fastWalk c checks sel w rest)

def fastScan (c : Checker) (checks : List (String × Check)) (sel : Selection) (w : World) (path : String) :
    FastEnd (Option String) :=
  fastWalk c checks sel w (stops w.tree sel path)

/-- Scans of paths one after the other. A failure does not end them, but a fault does. -/
def fastScans (scan : String → FastEnd (Option String)) : List String → FastEnd (List (Option String))
  | [] => (.ok [], [])
  | path :: rest =>
    match (scan path).1 with
    | .error f => (.error f, (scan path).2)
    | .ok r => ((fastScans scan rest).1.map (r :: ·), (scan path).2 ++ (fastScans scan rest).2)

def fastTally : Option String → Tally
  | none => []
  | some key => [(key, 1)]

def fastStep : Option String → ForInStep Tally
  | none => .yield []
  | some key => .done [(key, 1)]

/-- A session that ends in the given way, with records on the sources that it checks. -/
structure Checks {α β : Type} (w v : World) (x : FastEnd α) (g : α → β) (y : Except Fault β × World) :
    Prop where
  outcome : y.1 = x.1.map g
  frame : y.2.frame = w.frame
  checked : w.threshold ≤ Level.debug.number →
    y.2.checked = v.checked ++ x.2.map fun src => (Text.quote src.path).toList

lemma failures_first_cases {tests : List (String × Session Bool)} {names : List String}
    (h : failures true w tests = .ok names) : names = [] ∨ ∃ key, names = [key] := by
  induction tests with
  | nil =>
    cases h
    exact .inl rfl
  | cons p tests ih =>
    rw [failures] at h
    split at h
    · cases h
    · exact ih h
    · cases h
      exact .inr ⟨p.1, rfl⟩

section

variable (hfast : c.failFast.isOn = true) (hv : v.frame = w.frame)

include hfast hv

lemma checkSource_checks (checks : List (String × Check)) (src : Source) (data : Bytes) :
    Checks w v (failures true w (c.tests checks src data), [src]) id
      ((c.checkSource checks src data).run v) := by
  have hrun := run_checkSource c checks src data hv
  rw [hfast] at hrun
  refine ⟨hrun.trans (by cases failures true w (c.tests checks src data) <;> rfl),
    (frame_checkSource c checks src data v).trans hv, fun hdebug => ?_⟩
  have hother : ∀ w level message, level ≠ .debug → (logged w level message).checked = w.checked :=
    fun w _ _ hne => checked_logged_of_ne hne w
  have hleaves := leaves_failing hother c.failFast.isOn src.path
    (leaves_tests hother (fun _ _ => rfl) c checks src data)
  rw [checkSource, run_bind_ok (run_log _ _ v)]
  refine (hleaves _).trans (checked_logged_checking ?_ src.path)
  have hthreshold : v.threshold = w.threshold := (congrArg threshold hv :)
  rwa [hthreshold]

lemma visitor_checks (checks : List (String × Check)) (hmode : sel.skippedData.mode = .binary)
    (src : Source) :
    Checks w v (fastVisit c checks sel w src) fastStep ((c.visitor checks sel src []).run v) := by
  have hcontent := src.leaves_content (fun w message => checked_logged_of_ne (by decide) w)
    (fun w path => checked_logged (checked?_skipping path) w) sel .binary v
  unfold fastVisit
  cases hread : w.tree.read src.path with
  | error problem =>
    have hread' : v.tree.read src.path = .error problem := by rw [tree_eq_of_frame hv, hread]
    rw [visitor, run_bind_error (Source.run_content_error hread')]
    exact ⟨rfl, hv, fun _ => (List.append_nil _).symm⟩
  | ok data =>
    obtain ⟨u, hrun, hframe, -⟩ := run_content_frame hmode hread hv
    rw [hrun] at hcontent
    rw [visitor, run_bind_ok hrun]
    dsimp only
    cases hwant : Source.wanted sel .binary data with
    | none => exact ⟨rfl, hframe, fun _ => hcontent.trans (List.append_nil _).symm⟩
    | some d =>
      obtain ⟨hout, hframe', hchecked⟩ := checkSource_checks hfast hframe checks src d
      rw [hcontent] at hchecked
      dsimp only
      rw [run_bind]
      rcases hcheck : (c.checkSource checks src d).run u with ⟨r, u'⟩
      rw [hcheck] at hout hframe' hchecked
      dsimp only at hout
      subst hout
      cases hfail : failures true w (c.tests checks src d) with
      | error f => exact ⟨rfl, hframe', hchecked⟩
      | ok names =>
        rcases failures_first_cases hfail with rfl | ⟨key, rfl⟩
        · refine ⟨?_, hframe', hchecked⟩
          simp [Except.map, hfast, Tally.addAll, fastStep]
        · refine ⟨?_, hframe', hchecked⟩
          simp [Except.map, hfast, Tally.addAll, Tally.add, fastStep]

lemma replay_checks (checks : List (String × Check)) (hmode : sel.skippedData.mode = .binary)
    {stops : List Stop}
    (hnotes : ∀ message, .note message ∈ stops → LogRecord.checked? ⟨.debug, message⟩ = none) :
    Checks w v (fastWalk c checks sel w stops) fastStep ((replay (c.visitor checks sel) stops []).run v) := by
  induction stops generalizing v with
  | nil => exact ⟨rfl, hv, fun _ => (List.append_nil _).symm⟩
  | cons stop stops ih =>
    have hnotes' := fun message hmem => hnotes message (List.mem_cons_of_mem _ hmem)
    cases stop with
    | note message =>
      obtain ⟨hout, hframe, hchecked⟩ := ih ((logged_frame v .debug message).trans hv) hnotes'
      rw [checked_logged (hnotes message List.mem_cons_self)] at hchecked
      exact ⟨hout, hframe, hchecked⟩
    | fault f => exact ⟨rfl, hv, fun _ => (List.append_nil _).symm⟩
    | source src =>
      obtain ⟨hout, hframe, hchecked⟩ := visitor_checks hfast hv checks hmode src
      rw [run_replay_source, run_bind, fastWalk, FastEnd.andThen]
      rcases hvisit : (c.visitor checks sel src []).run v with ⟨r, u⟩
      rw [hvisit] at hout hframe hchecked
      dsimp only at hout hframe hchecked
      subst hout
      cases hend : (fastVisit c checks sel w src).1 with
      | error f => exact ⟨by rw [hend]; rfl, hframe, hchecked⟩
      | ok r =>
        cases r with
        | some key => exact ⟨by rw [hend]; rfl, hframe, hchecked⟩
        | none =>
          obtain ⟨hout', hframe', hchecked'⟩ := ih hframe hnotes'
          refine ⟨hout', hframe', fun hdebug => ?_⟩
          refine (hchecked' hdebug).trans ?_
          rw [hchecked hdebug, List.map_append, List.append_assoc]

variable (hchecks : c.checklist = .ok checks)
  (hsel : Selection.ofPatterns .binary c.patterns = .ok sel)

include hchecks hsel

lemma scan_checks (path : String) :
    Checks w v (fastScan c checks sel w path) fastTally ((c.scan (.text path)).run v) := by
  have htree : v.tree = w.tree := tree_eq_of_frame hv
  have hnotes : ∀ message, .note message ∈ stops w.tree sel path →
      LogRecord.checked? ⟨.debug, message⟩ = none := fun _ => checked?_of_note
  obtain ⟨hout, hframe, hchecked⟩ :=
    replay_checks hfast hv checks (Selection.mode_of_ofPatterns hsel) hnotes
  rw [run_scan_eq hchecks hsel, run_fold_visitor, htree]
  refine ⟨?_, hframe, hchecked⟩
  refine (congrArg (Except.map outcome) hout).trans ?_
  unfold fastScan
  cases (fastWalk c checks sel w (stops w.tree sel path)).1 with
  | error f => rfl
  | ok r => cases r <;> rfl

lemma scans_check (paths : List String) :
    Checks w v (fastScans (fastScan c checks sel w) paths) (List.map fastTally)
      (((paths.map Setting.text).mapM c.scan).run v) := by
  induction paths generalizing v with
  | nil => exact ⟨rfl, hv, fun _ => (List.append_nil _).symm⟩
  | cons path paths ih =>
    obtain ⟨hout, hframe, hchecked⟩ := scan_checks hfast hv hchecks hsel path
    rw [List.map_cons, List.mapM_cons, run_bind, fastScans]
    rcases hscan : (c.scan (.text path)).run v with ⟨r, u⟩
    rw [hscan] at hout hframe hchecked
    dsimp only at hout hframe hchecked
    subst hout
    cases (fastScan c checks sel w path).1 with
    | error f => exact ⟨rfl, hframe, hchecked⟩
    | ok r =>
      obtain ⟨hout', hframe', hchecked'⟩ := ih hframe
      dsimp only [Except.map]
      rw [run_bind]
      rcases hrest : ((paths.map Setting.text).mapM c.scan).run u with ⟨r', u'⟩
      rw [hrest] at hout' hframe' hchecked'
      dsimp only at hout' hframe' hchecked'
      subst hout'
      have hall : w.threshold ≤ Level.debug.number → u'.checked = v.checked ++
          ((fastScan c checks sel w path).2 ++ (fastScans (fastScan c checks sel w) paths).2).map
            fun src => (Text.quote src.path).toList := by
        intro hdebug
        rw [hchecked' hdebug, hchecked hdebug, List.map_append, List.append_assoc]
      cases (fastScans (fastScan c checks sel w) paths).1 with
      | error f => exact ⟨rfl, hframe', hall⟩
      | ok rs => exact ⟨rfl, hframe', hall⟩

end

lemma fastVisit_checks (c : Checker) (checks : List (String × Check)) (sel : Selection) (w : World)
    (src : Source) : (fastVisit c checks sel w src).2 ⊆ [src] := by
  unfold fastVisit
  split
  · exact List.nil_subset _
  · split
    · exact List.nil_subset _
    · exact List.Subset.refl _

lemma fastVisit_fails {src : Source} (h : (fastVisit c checks sel w src).1 = .ok (some key)) :
    (fastVisit c checks sel w src).2 = [src] := by
  unfold fastVisit at h ⊢
  split at h
  · cases h
  · split at h
    · cases h
    · rfl

lemma fastWalk_fails {stops : List Stop} (h : (fastWalk c checks sel w stops).1 = .ok (some key)) :
    ∃ before src, (fastWalk c checks sel w stops).2 = before ++ [src] ∧
      (∀ s ∈ before, (fastVisit c checks sel w s).1 = .ok none) ∧
      (fastVisit c checks sel w src).1 = .ok (some key) := by
  induction stops with
  | nil => cases h
  | cons stop stops ih =>
    cases stop with
    | note message => exact ih h
    | fault f => cases h
    | source src =>
      rw [fastWalk, FastEnd.andThen] at h ⊢
      cases hvisit : (fastVisit c checks sel w src).1 with
      | error f =>
        rw [hvisit] at h
        cases hvisit.symm.trans h
      | ok r =>
        rw [hvisit] at h
        cases r with
        | some key' =>
          exact ⟨[], src, fastVisit_fails hvisit, fun s hs => (by cases hs), h⟩
        | none =>
          obtain ⟨before, src', hchecked, hpass, hfail⟩ := ih h
          refine ⟨(fastVisit c checks sel w src).2 ++ before, src', ?_, fun s hs => ?_, hfail⟩
          · dsimp only
            rw [hchecked, List.append_assoc]
          · rcases List.mem_append.mp hs with hs | hs
            · rwa [List.mem_singleton.mp (fastVisit_checks c checks sel w src hs)]
            · exact hpass s hs

variable {scan : String → FastEnd (Option String)}

lemma fastScans_append {before : List String} (h : ∀ path ∈ before, (scan path).1 = .ok none)
    (after : List String) : (fastScans scan (before ++ after)).2 =
      (before.flatMap fun path => (scan path).2) ++ (fastScans scan after).2 := by
  induction before with
  | nil => rfl
  | cons path before ih =>
    obtain ⟨hpath, hrest⟩ := List.forall_mem_cons.mp h
    rw [List.cons_append, fastScans, hpath]
    dsimp only
    rw [ih hrest, List.flatMap_cons, List.append_assoc]

lemma fastScans_cons_fails {path key : String} (h : (scan path).1 = .ok (some key)) (after : List String) :
    (fastScans scan (path :: after)).2 = (scan path).2 ++ (fastScans scan after).2 := by
  rw [fastScans, h]

lemma fastScan_file {path : String} {loc : Location} {data d : Bytes} {mode : Nat}
    (h : Picks w.tree sel .binary path loc data mode d) : c.fastScan checks sel w path =
      ((failures true w (c.tests checks (.ofPath path) d)).map List.head?, [.ofPath path]) := by
  have hread : w.tree.read (Source.ofPath path).path = .ok data := FileTree.read_of_locate h.located h.file
  have hvisit : c.fastVisit checks sel w (.ofPath path) =
      ((failures true w (c.tests checks (.ofPath path) d)).map List.head?, [.ofPath path]) := by
    rw [fastVisit, hread]
    dsimp only
    rw [h.wanted]
  rw [fastScan, stops_file h.located h.file h.notSkipped h.named, fastWalk, fastWalk, FastEnd.andThen, hvisit]
  rcases failures true w (c.tests checks (.ofPath path) d) with f | _ | ⟨key, names⟩ <;> rfl

lemma fastScans_files (h : ∀ path ∈ ps, scan path = (.ok (some key), [.ofPath path])) :
    fastScans scan ps = (.ok (ps.map fun _ => some key), ps.map .ofPath) := by
  induction ps with
  | nil => rfl
  | cons path ps ih =>
    obtain ⟨hpath, hrest⟩ := List.forall_mem_cons.mp h
    rw [fastScans, hpath, ih hrest]
    rfl

lemma total_fastTally (rs : List (Option String)) :
    ((rs.map fastTally).map Tally.total).sum = rs.countP Option.isSome := by
  induction rs with
  | nil => rfl
  | cons r rs ih =>
    rw [List.map_cons, List.map_cons, List.sum_cons, ih, List.countP_cons, Nat.add_comm]
    cases r <;> rfl

lemma any_fastTally (rs : List (Option String)) :
    ((rs.map fastTally).any fun t => !t.isEmpty) = rs.any Option.isSome := by
  rw [List.any_map]
  congr 1
  funext r
  cases r <;> rfl

end Checker

namespace Program

open Request Session Grammar Checker

variable {w : World} {line : List String} {values : Values} {n : Nat}

lemma ready_threshold (w : World) (n : Nat) (p : Patterns) : (ready w n p).threshold = n :=
  leaves_logPatterns
    (fun w level message => (congrArg threshold (logged_frame w level message) :)) p _

lemma ready_verboseNamed (w : World) (n : Nat) (p : Patterns) : (ready w n p).verboseNamed = true :=
  leaves_logPatterns logged_verboseNamed p _

lemma ready_checked (w : World) (n : Nat) (p : Patterns) : (ready w n p).checked = [] := by
  have hthree : ready w n p = (({ started w with threshold := n }.logged .debug
      ("PATH_PATTERNS: " ++ shownPatterns p.names)).logged .debug
      ("SKIP_PATH_PATTERNS: " ++ shownPatterns p.skippedNames)).logged .debug
      ("SKIP_DATA_PATTERNS: " ++ shownPatterns p.skippedData) := rfl
  rw [hthree, checked_logged (checked?_of_title (fun _ => rfl) _),
    checked_logged (checked?_of_title (fun _ => rfl) _),
    checked_logged (checked?_of_title (fun _ => rfl) _)]
  rfl

lemma reported_checked (f : Fault) (w : World) : (reported f w).checked = w.checked :=
  leaves_reportFault f (fun w _ _ h => checked_logged_of_ne h w)
    (fun w => checked_logged (by decide) w) w

lemma comes_hasty (h : request (plainCall .check line) w.year = .ok (.check, values))
    (hline : ∀ a ∈ (commandGrammar w.year .check).given line, a.target ∈ ["failfast", "loglevel"])
    (hfast : values.value "failfast" = .flag true) (hlevel : levelOf (values.value "loglevel") = .ok n) :
    Comes (plainCall .check line) w (.check (hasty {}) (paths values)) (ready w n usual) := by
  have hvalue := fun {t} => value_of_line (t := t) h hline
  have hon : ∀ t ∈ checkTargets, (values.value t).isOn = true := by
    intro t ht
    rw [hvalue (by revert t; decide)]
    revert t
    decide
  have hlimit : values.value "maxlinelen" = .int 0 := by
    rw [hvalue (by decide)]
    rfl
  obtain ⟨hconfig, hundemanding⟩ := undemanding_of_line h hline (by decide)
  have hchecker : checker values (.flag false) usual = .ok (hasty {}) :=
    checker_eq_ok (g := fun _ => true) hlimit hfast hon usual
  refine ⟨.check, values, h, ?_⟩
  rw [prepare, run_bind_ok (run_setLevel_ok hlevel _), hconfig]
  exact run_bind_ok (run_equip_check hundemanding hchecker) _

/-- An outcome of the program that is the end of scans that stop at a failure. The log says how many of
them do, and each file that is checked is in it. -/
structure FastEnds (o : Outcome) (c : Checker) (checks : List (String × Check)) (sel : Selection)
    (v : World) (ps : List String) : Prop where
  ending : o.ending = endingOf (fun rs => .answered (rs.any Option.isSome))
    (fastScans (c.fastScan checks sel v) ps).1
  output : o.output = printedLog o.world.log
  total : ∀ rs, (fastScans (c.fastScan checks sel v) ps).1 = .ok rs →
    ∃ (tally : Tally) (v' : World), tally.total = rs.countP Option.isSome ∧
      o.world = v'.logged (verdict tally).level (verdict tally).message
  checked : v.threshold ≤ Level.debug.number → o.world.checked =
    (fastScans (c.fastScan checks sel v) ps).2.map fun src => (Text.quote src.path).toList

lemma fastEnds_of_comes {call : Call} {c : Checker} {checks : List (String × Check)} {sel : Selection}
    {v : World} (h : Comes call w (.check c (ps.map .text)) v)
    (hfast : c.failFast.isOn = true) (hchecks : c.checklist = .ok checks)
    (hsel : Selection.ofPatterns .binary c.patterns = .ok sel) (hv : v.checked = []) :
    FastEnds (execute call w) c checks sel v ps := by
  obtain ⟨hending, -, -, hlog, houtput⟩ := checkEnds_of_comes h
  obtain ⟨hout, -, hchecked⟩ := scans_check hfast rfl hchecks hsel ps (v := v)
  rw [hv, List.nil_append] at hchecked
  rw [hout] at hending hlog
  refine ⟨?_, houtput, fun rs hrs => ?_, fun hdebug => ?_⟩
  · rw [hending]
    cases (fastScans (c.fastScan checks sel v) ps).1 with
    | error f => rfl
    | ok rs => exact congrArg Ending.answered (any_fastTally rs)
  · rw [hrs] at hlog
    refine ⟨_, _, ?_, hlog _ rfl⟩
    rw [Tally.total_foldl_merge, total_fastTally]
    exact Nat.zero_add _
  · rw [← hchecked hdebug]
    rcases hrun : ((ps.map Setting.text).mapM c.scan).run v with ⟨r, v'⟩
    rw [hrun] at hout hlog
    dsimp only at hout
    subst hout
    cases hend : (fastScans (c.fastScan checks sel v) ps).1 with
    | error f =>
      rw [hend] at hrun
      rw [execute_check_of_fault h hrun]
      exact reported_checked f v'
    | ok rs =>
      rw [hend] at hlog
      rw [hlog _ rfl]
      refine checked_logged_of_ne ?_ v'
      unfold verdict
      split <;> simp

/-- Each path is scanned up to a file that fails, and then the next one is. So there is one failure for
each path with a file that fails, and after the first of these files come the files of the paths after
it. -/
theorem fail_fast_ends_each_path {ps : List String}
    (h : request (plainCall .check line) w.year = .ok (.check, values))
    (hline : ∀ a ∈ (commandGrammar w.year .check).given line, a.target ∈ ["failfast", "loglevel"])
    (hfast : values.value "failfast" = .flag true) (hlevel : levelOf (values.value "loglevel") = .ok n)
    (hpaths : paths values = ps.map .text) :
    ∃ checks sel v, (hasty {}).checklist = .ok checks ∧
      Selection.ofPatterns .binary Patterns.usual = .ok sel ∧ v = ready w n Patterns.usual ∧
      FastEnds (execute (plainCall .check line) w) (hasty {}) checks sel v ps ∧
      ∀ before path after key, ps = before ++ path :: after →
        (∀ q ∈ before, (fastScan (hasty {}) checks sel v q).1 = .ok none) →
        (fastScan (hasty {}) checks sel v path).1 = .ok (some key) →
        ∃ passed src, (∀ s ∈ passed, (fastVisit (hasty {}) checks sel v s).1 = .ok none) ∧
          (fastVisit (hasty {}) checks sel v src).1 = .ok (some key) ∧
          (fastScans (fastScan (hasty {}) checks sel v) ps).2 =
            (before.flatMap fun q => (fastScan (hasty {}) checks sel v q).2) ++ passed ++
              src :: (fastScans (fastScan (hasty {}) checks sel v) after).2 := by
  obtain ⟨checks, hchecks⟩ : ∃ checks, (hasty {}).checklist = .ok checks := ⟨_, rfl⟩
  obtain ⟨sel, hsel⟩ : ∃ sel, Selection.ofPatterns .binary Patterns.usual = .ok sel := ⟨_, rfl⟩
  have hcomes := comes_hasty h hline hfast hlevel
  rw [hpaths] at hcomes
  refine ⟨checks, sel, _, hchecks, hsel, rfl,
    fastEnds_of_comes hcomes rfl hchecks hsel (ready_checked w n _), ?_⟩
  rintro before path after key rfl hbefore hpath
  obtain ⟨passed, src, hscan, hpass, hfail⟩ := fastWalk_fails hpath
  refine ⟨passed, src, hpass, hfail, ?_⟩
  rw [fastScans_append hbefore, fastScans_cons_fails hpath, fastScan, hscan, List.append_assoc,
    List.append_assoc]
  rfl

/-- A world with two files, each with a tab in it. -/
def tabbedWorld : World where
  tree := { entries := [(["a.c"], .file [0x09, 0x0a] 0o644), (["b.c"], .file [0x09, 0x0a] 0o644)] }
  year := 2024

lemma fastScans_tabbed {checks : List (String × Check)} {sel : Selection}
    (hchecks : (hasty {}).checklist = .ok checks)
    (hsel : Selection.ofPatterns .binary usual = .ok sel) (n : Nat) (hps : ps ⊆ ["a.c", "b.c"]) :
    fastScans (fastScan (hasty {}) checks sel (ready tabbedWorld n usual)) ps =
      (.ok (ps.map fun _ => some "tabs"), ps.map .ofPath) := by
  have hnamed := ready_verboseNamed tabbedWorld n usual
  have hv := ready_tree tabbedWorld n usual
  generalize ready tabbedWorld n usual = v at hnamed hv
  have hp : v.tree.Plain := by
    rw [hv]
    decide
  refine fastScans_files fun path hpath => ?_
  have hfile : v.tree.get? [path] = some (.file [0x09, 0x0a] 0o644) := by
    rw [hv]
    rcases List.mem_pair.mp (hps hpath) with rfl | rfl <;> rfl
  have hpicks : SourceWalk.Picks v.tree sel .binary path [path] [0x09, 0x0a] 0o644 [0x09, 0x0a] := by
    cases hsel
    rcases List.mem_pair.mp (hps hpath) with rfl | rfl <;>
      exact ⟨Path.locate_name hp (by rw [hfile]; rfl), hfile, rfl, rfl, rfl⟩
  have hexamine : Check.tabs.examine [0x09, 0x0a] =
      .ok (.fail (some ⟨1, "'\\t'", "tab character (first occurrence)"⟩)) := by decide +kernel
  obtain ⟨v', -, -, hrun⟩ := run_fails hexamine (some path) v
  rw [fastScan_file hpicks]
  cases hchecks
  change (Except.map List.head? (failures true v
    (("tabs", fails (some path) [0x09, 0x0a] Check.tabs) :: _)), _) = _
  rcases hrun with hrun | ⟨hunnamed, -⟩
  · rw [failures, hrun]
    rfl
  · cases hnamed.symm.trans hunnamed

/-- One path has one failure. -/
theorem fail_fast_ends_single_path :
    let o := execute (plainCall .check ["-f", "-d", "a.c"]) tabbedWorld
    (∃ (tally : Tally) (v : World), tally.total = 1 ∧
        o.world = v.logged (verdict tally).level (verdict tally).message) ∧
      o.world.checked = ["'a.c'".toList] := by
  intro o
  have haccepted : request (plainCall .check ["-f", "-d", "a.c"]) tabbedWorld.year =
      .ok (.check, lineValues .check ["-f", "-d", "a.c"]) := rfl
  have hpaths : paths (lineValues .check ["-f", "-d", "a.c"]) = ["a.c"].map .text := rfl
  obtain ⟨checks, sel, v, hchecks, hsel, rfl, hends, -⟩ :=
    fail_fast_ends_each_path (n := Level.debug.number) haccepted (by decide) rfl rfl hpaths
  have hscans := fastScans_tabbed hchecks hsel Level.debug.number (by decide : ["a.c"] ⊆ ["a.c", "b.c"])
  refine ⟨hends.total _ (congrArg Prod.fst hscans), ?_⟩
  rw [hends.checked (ready_threshold _ _ _).le, hscans]
  rfl

/-- Two paths have two failures, and the file in the second one is checked after the one in the first
has failed. -/
theorem fail_fast_goes_on_after_failure :
    (∃ (tally : Tally) (v : World), tally.total = 2 ∧
        (execute (plainCall .check ["-f", "a.c", "b.c"]) tabbedWorld).world =
          v.logged (verdict tally).level (verdict tally).message) ∧
      (execute (plainCall .check ["-f", "-d", "a.c", "b.c"]) tabbedWorld).world.checked =
        ["'a.c'".toList, "'b.c'".toList] := by
  obtain ⟨checks, hchecks⟩ : ∃ checks, (hasty {}).checklist = .ok checks := ⟨_, rfl⟩
  obtain ⟨sel, hsel⟩ : ∃ sel, Selection.ofPatterns .binary Patterns.usual = .ok sel := ⟨_, rfl⟩
  have hscans := fun n => fastScans_tabbed hchecks hsel n (List.Subset.refl _)
  have hends : ∀ line n, request (plainCall .check line) tabbedWorld.year =
        .ok (.check, lineValues .check line) →
      (∀ a ∈ (commandGrammar tabbedWorld.year .check).given line, a.target ∈ ["failfast", "loglevel"]) →
      (lineValues .check line).value "failfast" = .flag true →
      levelOf ((lineValues .check line).value "loglevel") = .ok n →
      paths (lineValues .check line) = ["a.c", "b.c"].map .text →
      FastEnds (execute (plainCall .check line) tabbedWorld) (hasty {}) checks sel
        (ready tabbedWorld n Patterns.usual) ["a.c", "b.c"] := by
    intro line n haccepted hline hfast hlevel hpaths
    have hcomes := comes_hasty haccepted hline hfast hlevel
    rw [hpaths] at hcomes
    exact fastEnds_of_comes hcomes rfl hchecks hsel (ready_checked _ n _)
  have hplain := hends ["-f", "a.c", "b.c"] Level.info.number rfl (by decide) rfl rfl rfl
  have hdebug := hends ["-f", "-d", "a.c", "b.c"] Level.debug.number rfl (by decide) rfl rfl rfl
  refine ⟨hplain.total _ (congrArg Prod.fst (hscans _)), ?_⟩
  rw [hdebug.checked (ready_threshold _ _ _).le, hscans]
  rfl

end Program

end SourceTidy
