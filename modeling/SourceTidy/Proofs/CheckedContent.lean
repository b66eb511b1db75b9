import SourceTidy.Checker
import SourceTidy.Proofs.FoundFiles
import SourceTidy.Proofs.ShownLines

/-!
# Checks of any content

A checker takes any bytes for the content of a file. This file describes the runs of its checks. The
only thing about a content that keeps it from being checked is a line which is shown and is not UTF-8.
-/

namespace SourceTidy

open Session Check

variable {check : Check} {checks : List (String × Check)}

namespace Checker

variable {c : Checker} {e : Eol}

lemma checklist_eq (heol : c.eol = .eol e) : c.checklist = .ok (List.flatten [
    if c.tabs.isOn then [("tabs", .tabs)] else [],
    if c.lineEndings.isOn then [("invalid EOL", .lineEndings e)] else [],
    if c.trailing.isOn then [("trailing spaces", .trailing (Text.encodeString e.terminator))] else [],
    if c.encodable.isOn then [("not " ++ c.encoding.plain, .encoding c.encoding)] else [],
    if c.finalEol.isOn then [("no eol at eof", .finalEol)] else [],
    if c.includes.isOn then [("relative include", .includes)] else [],
    if c.notice.isOn then [("no copyright", .notice)] else [],
    if c.lineLimit.isOn then [("line tool long", .lineLength c.eol c.lineLimit)] else []]) := by
  have hchoose : ∀ (chosen : Setting) (name : String) (check : Check),
      (if chosen.isOn then (Except.ok check : Except Fault Check).map fun k => [(name, k)]
        else .ok []) = .ok (if chosen.isOn then [(name, check)] else []) := by
    intro chosen name check
    split <;> rfl
  have heols : c.lineEndingsCheck = .ok (.lineEndings e) := by
    rw [lineEndingsCheck, checkedEol, heol]
    rfl
  have htrailing : c.trailingCheck = .ok (.trailing (Text.encodeString e.terminator)) := by
    rw [trailingCheck, heol]
    rfl
  unfold checklist
  rw [heols, htrailing]
  simp only [hchoose]
  rfl

lemma mem_available {limit : Int} (heol : c.eol = .eol e) (henc : c.encoding = .text "ascii")
    (hlimit : c.lineLimit = .int limit)
    (h : c.checklist = .ok checks) : ∀ p ∈ checks, p.2 ∈ available e limit := by
  rw [checklist_eq heol] at h
  cases h
  rw [heol, henc, hlimit]
  simp only [List.mem_flatten, List.mem_cons, List.not_mem_nil, or_false]
  rintro p ⟨l, hl, hp⟩
  have hcheck : ∀ {chosen : Bool} {name : String} {check : Check},
      p ∈ (if chosen then [(name, check)] else []) → p.2 = check := by
    intro chosen name check h
    cases chosen with
    | false => cases h
    | true => rw [List.mem_singleton.mp h]
  rcases hl with rfl | rfl | rfl | rfl | rfl | rfl | rfl | rfl <;>
    (rw [hcheck hp]; simp [available])

variable {w : World} {data : Bytes} {first : Bool} {path name : String}

lemma run_fails_pass (h : check.examine data = .ok .pass) (file : Option String) (w : World) :
    (fails file data check).run w = (.ok false, w) := by
  rw [fails, h]
  rfl

lemma run_fails_unnamed {r : Report} (h : check.examine data = .ok (.fail (some r)))
    (hunnamed : w.verboseNamed = false) (file : Option String) :
    (fails file data check).run w = (.error (.kind .noLevel), w) := by
  rw [fails, h]
  exact run_bind_error (run_report_unnamed hunnamed _) _

lemma run_fails {v : Verdict} (h : check.examine data = .ok v) (file : Option String) (w : World) :
    ∃ w', w'.tree = w.tree ∧ w'.verboseNamed = w.verboseNamed ∧
      ((fails file data check).run w = (.ok (v != .pass), w') ∨
        w.verboseNamed = false ∧ (∃ r, v = .fail (some r)) ∧
          (fails file data check).run w = (.error (.kind .noLevel), w')) := by
  have hlift : (lift (check.examine data)).run w = (.ok v, w) := by rw [run_lift, h]
  match v with
  | .pass => exact ⟨w, rfl, rfl, .inl (run_fails_pass h file w)⟩
  | .fail none => exact ⟨w, rfl, rfl, .inl (run_bind_ok hlift _)⟩
  | .fail (some r) =>
    cases hverbose : w.verboseNamed with
    | true =>
      unfold fails
      rw [run_bind_ok hlift]
      refine ⟨_, ?_, ?_, .inl (run_bind_ok (run_report_named hverbose _) _)⟩
      · rw [World.logged_tree]
      · rw [World.logged_verboseNamed, hverbose]
    | false =>
      exact ⟨w, rfl, hverbose, .inr ⟨rfl, ⟨r, rfl⟩, run_fails_unnamed h hverbose file⟩⟩

lemma run_fails_error {fault : Fault} (h : check.examine data = .error fault)
    (file : Option String) (w : World) : (fails file data check).run w = (.error fault, w) := by
  unfold fails
  exact run_bind_error (by rw [run_lift, h]) _

lemma examine_of_fails {file : Option String} (h : ((fails file data check).run w).1 = .ok false) :
    check.examine data = .ok .pass := by
  cases hv : check.examine data with
  | error g =>
    rw [run_fails_error hv] at h
    cases h
  | ok v =>
    obtain ⟨w', -, -, hrun | ⟨-, -, hrun⟩⟩ := run_fails hv file w
    · rw [hrun] at h
      simpa using h
    · rw [hrun] at h
      cases h

section

variable {test : Session Bool} {w' : World} (rest : List (String × Session Bool))

lemma run_failing_error {fault : Fault} (h : test.run w = (.error fault, w')) :
    (failing first path ((name, test) :: rest)).run w = (.error fault, w') :=
  run_bind_error h _

lemma run_failing_passed (h : test.run w = (.ok false, w')) :
    (failing first path ((name, test) :: rest)).run w = (failing first path rest).run w' := by
  rw [failing, run_bind_ok h]
  rfl

lemma run_failing_first (h : test.run w = (.ok true, w')) :
    (failing true path ((name, test) :: rest)).run w =
      (.ok [name], w'.logged .info (path ++ ": " ++ name)) := by
  rw [failing, run_bind_ok h]
  rfl

lemma run_failing_next (h : test.run w = (.ok true, w')) :
    (failing false path ((name, test) :: rest)).run w =
      ((failing false path rest).run (w'.logged .info (path ++ ": " ++ name))).map
        (·.map (name :: ·)) id := by
  rw [failing, run_bind_ok h]
  refine (run_bind_ok (run_log .info _ w') _).trans ?_
  refine (run_bind _ _ _).trans ?_
  cases (failing false path rest).run (w'.logged .info (path ++ ": " ++ name)) with
  | mk r w'' => cases r <;> rfl

end

lemma failing_returns {tests : List (String × Session Bool)} {I : World → Prop} {N : String → Prop}
    (hlog : ∀ v message, I v → I (v.logged .info message))
    (htests : ∀ p ∈ tests, ∀ v, I v → ∃ b v', p.2.run v = (.ok b, v') ∧ I v' ∧ (b = true → N p.1))
    (hw : I w) : ∃ names w', (failing first path tests).run w = (.ok names, w') ∧ I w' ∧
      ∀ name ∈ names, N name := by
  induction tests generalizing w with
  | nil => exact ⟨[], w, rfl, hw, by simp⟩
  | cons p tests ih =>
    obtain ⟨name, test⟩ := p
    have hrest := fun v (hv : I v) => ih (fun p hp => htests p (List.mem_cons_of_mem _ hp)) hv
    obtain ⟨b, v, hrun, hv, hname⟩ := htests (name, test) List.mem_cons_self w hw
    cases b with
    | false =>
      rw [run_failing_passed _ hrun]
      exact hrest v hv
    | true =>
      cases first with
      | true =>
        rw [run_failing_first _ hrun]
        exact ⟨[name], _, rfl, hlog v _ hv, by simpa using hname rfl⟩
      | false =>
        obtain ⟨names, w', hrun', hw', hnames⟩ := hrest _ (hlog v (path ++ ": " ++ name) hv)
        rw [run_failing_next _ hrun, hrun']
        exact ⟨name :: names, w', rfl, hw', by simpa using ⟨hname rfl, hnames⟩⟩

lemma failing_answers {tail : List (String × Session Bool)}
    (hchecks : ∀ p ∈ checks, Answers (Shows data p.2) (p.2.examine data))
    (htail : ∀ v : World, v.tree = w.tree → ∃ names, ((failing first path tail).run v).1 = .ok names)
    (hverbose : w.verboseNamed = true) (file : Option String) :
    Answers (ShowsSome first data checks) ((failing first path
      (checks.map (fun (name, check) => (name, fails file data check)) ++ tail)).run w).1 := by
  induction checks generalizing w with
  | nil =>
    obtain ⟨names, hrun⟩ := htail w rfl
    rw [List.map_nil, List.nil_append, hrun]
    exact answers_ok (by rintro line ⟨check, ⟨⟩, -⟩) names
  | cons p checks ih =>
    obtain ⟨name, check⟩ := p
    have hrest : ∀ v : World, v.tree = w.tree → v.verboseNamed = true → _ := fun v ht hv =>
      ih (fun p hp => hchecks p (List.mem_cons_of_mem _ hp)) (fun v' hv' => htail v' (hv'.trans ht)) hv
    rw [List.map_cons, List.cons_append]
    obtain ⟨v, hv, hutf8⟩ | ⟨u, line, hu, hline, hbad⟩ := hchecks (name, check) List.mem_cons_self
    · obtain ⟨w', htree, hverbose', hrun | ⟨hunnamed, -, -⟩⟩ := run_fails hv file w
      · cases v with
        | pass =>
          rw [run_failing_passed _ hrun]
          exact (hrest w' htree (hverbose'.trans hverbose)).cons hutf8 fun _ => hv
        | fail report =>
          cases first with
          | true =>
            rw [run_failing_first _ hrun]
            refine .inl ⟨[name], rfl, ?_⟩
            rintro line ⟨k, hmade, hshows⟩
            cases hmade with
            | head => exact hutf8 line hshows
            | tail hp => simp [hv] at hp
          | false =>
            rw [run_failing_next _ hrun]
            exact ((hrest _ (by simpa using htree) (by simpa using hverbose'.trans hverbose)).cons
              hutf8 nofun).map _
      · rw [hverbose] at hunnamed
        cases hunnamed
    · rw [run_failing_error _ (run_fails_error hu file w)]
      exact .inr ⟨u, line, rfl, ⟨check, .head, hline⟩, hbad⟩

lemma run_modeFails {src : Source} {mode : Nat} (hknown : src.knownMode = none)
    (h : w.tree.entry src.path = .ok (.file data mode)) :
    (modeFails src).run w = (.ok (Source.isExecutable mode), w) := by
  have hmode : src.mode.run w = (.ok mode, w) := by
    rw [Source.mode, hknown]
    refine (run_bind_ok (a := .file data mode) ?_ _).trans rfl
    rw [run_query, h]
    rfl
  exact run_bind_ok hmode _

lemma tests_eq (hformat : c.formatter.isOn = false) (checks : List (String × Check)) (src : Source)
    (data : Bytes) : c.tests checks src data =
      checks.map (fun (name, check) => (name, fails (some src.path) data check)) ++
        if c.mode.isOn then [("mode (executable bit)", modeFails src)] else [] := by
  rw [tests, hformat, Bool.false_and, if_neg Bool.false_ne_true, List.append_nil]

lemma checkSource_answers {limit : Int} {mode : Nat} (src : Source)
    (heol : c.eol = .eol e) (henc : c.encoding = .text "ascii") (hlimit : c.lineLimit = .int limit)
    (hformat : c.formatter.isOn = false) (hchecks : c.checklist = .ok checks)
    (hknown : src.knownMode = none) (hentry : w.tree.entry src.path = .ok (.file data mode))
    (hverbose : w.verboseNamed = true) : Answers (ShowsSome c.failFast.isOn data checks)
      ((c.checkSource checks src data).run w).1 := by
  rw [checkSource, run_bind_ok (run_log _ _ w), tests_eq hformat]
  refine failing_answers ?_ ?_ (by simpa using hverbose) _
  · intro p hp
    exact examine_answers (mem_available heol henc hlimit hchecks p hp) data
  · intro v hv
    rw [World.logged_tree] at hv
    split
    · have hmode : ∀ p ∈ [("mode (executable bit)", modeFails src)], ∀ u : World, u.tree = w.tree →
          ∃ b u', p.2.run u = (.ok b, u') ∧ u'.tree = w.tree ∧ (b = true → True) := by
        rintro p hp u hu
        rw [List.mem_singleton.mp hp]
        exact ⟨_, u, run_modeFails hknown (hu ▸ hentry), hu, fun _ => trivial⟩
      obtain ⟨names, v', hrun, -⟩ := failing_returns (I := fun u => u.tree = w.tree)
        (N := fun _ => True) (fun u message hu => by rwa [World.logged_tree]) hmode hv
      exact ⟨names, congrArg Prod.fst hrun⟩
    · exact ⟨[], rfl⟩

lemma checkFile_eq (hchecks : c.checklist = .ok checks) (hread : w.tree.read path = .ok data) :
    (c.checkFile (.text path)).run w =
      ((c.checkSource checks (.ofPath path) data).run w).map (·.map (Tally.addAll [])) id := by
  have hread' : (readFile path).run w = (.ok data, w) := by
    rw [readFile, run_query, hread]
    rfl
  have hpath : (lift (Setting.text path).toFile).run w = (.ok path, w) := run_lift _ w
  rw [checkFile, run_bind_ok (by rw [run_lift, hchecks]), run_bind_ok hpath,
    run_bind_ok hread', run_bind]
  cases (c.checkSource checks (.ofPath path) data).run w with
  | mk r w' => cases r <;> rfl

/-- The check of a file returns exactly if each line that one of the checks shows is UTF-8: every
check is made, or those up to the first that fails. Nothing else about the content of a file ends its
check. -/
theorem checkFile_returns_iff {limit : Int} (heol : c.eol = .eol e)
    (henc : c.encoding = .text "ascii") (hlimit : c.lineLimit = .int limit)
    (hformat : c.formatter.isOn = false) (hverbose : w.verboseNamed = true)
    (hread : w.tree.read path = .ok data) :
    ∃ checks, c.checklist = .ok checks ∧
      ((∃ tally w', (c.checkFile (.text path)).run w = (.ok tally, w')) ↔
        ∀ line, Check.ShowsSome c.failFast.isOn data checks line → Text.IsUtf8 line) ∧
      ∀ fault w', (c.checkFile (.text path)).run w = (.error fault, w') →
        ∃ u, fault = .undecodable u := by
  obtain ⟨loc, mode, hloc, hfile⟩ := FileTree.read_eq_ok_iff.mp hread
  have hchecks := checklist_eq heol
  have hsource := checkSource_answers (.ofPath path) heol henc hlimit hformat hchecks rfl
    (FileTree.entry_of_locate hloc hfile) hverbose
  have hanswers := hsource.map (Tally.addAll [])
  have hreturns : (∃ tally w', (c.checkFile (.text path)).run w = (.ok tally, w')) ↔
      ∃ tally, ((c.checkFile (.text path)).run w).1 = .ok tally :=
    ⟨fun ⟨tally, _, h⟩ => ⟨tally, congrArg Prod.fst h⟩, fun ⟨tally, h⟩ => ⟨tally, _, Prod.ext h rfl⟩⟩
  refine ⟨_, hchecks, ?_, ?_⟩
  · rw [hreturns, checkFile_eq hchecks hread]
    exact hanswers.isOk_iff
  · intro fault w' hrun
    rw [checkFile_eq hchecks hread] at hrun
    exact hanswers.undecodable (congrArg Prod.fst hrun)

/-- The line before a tab is shown as text, so bytes there that are none stop the check. -/
theorem checkFile_stops_before_tab : ∃ u w', (({} : Checker).checkFile (.text "a.c")).run
    { tree := { entries := [(["a.c"], .file [0xff, 0x09] 0o644)] }, year := 2024 } =
      (.error (.undecodable u), w') := by
  generalize hw : ({ tree := _, year := _ } : World) = w
  have hplain : w.tree.Plain := by
    rw [← hw]
    decide
  have hread : w.tree.read "a.c" = .ok [0xff, 0x09] :=
    FileTree.read_of_locate (Path.locate_name hplain (by rw [← hw]; rfl)) (by rw [← hw]; rfl)
  obtain ⟨u, hu⟩ : ∃ u, Check.tabs.examine [0xff, 0x09] = .error (.undecodable u) := ⟨_, rfl⟩
  refine ⟨u, w.logged .debug ("checking " ++ Text.quote "a.c"), ?_⟩
  rw [checkFile_eq rfl hread, checkSource, Session.run_bind_ok (Session.run_log _ _ w)]
  exact congrArg (Prod.map _ id) (run_failing_error _ (run_fails_error hu (some "a.c") _))

/-- The check of a content that is not UTF-8, but is so in the lines that are shown. -/
theorem checkFile_returns_after_bad_line : ∃ tally w', (({} : Checker).checkFile (.text "a.c")).run
    { tree := { entries := [(["a.c"], .file [0xff, 0x0a, 0x09] 0o644)] }, year := 2024 } = (.ok tally, w') := by
  generalize hw : ({ tree := _, year := _ } : World) = w
  have hplain : w.tree.Plain := by
    rw [← hw]
    decide
  have hread : w.tree.read "a.c" = .ok [0xff, 0x0a, 0x09] :=
    FileTree.read_of_locate (Path.locate_name hplain (by rw [← hw]; rfl)) (by rw [← hw]; rfl)
  have hverbose : w.verboseNamed = true := by
    rw [← hw]
  obtain ⟨checks, hchecks, hreturns, -⟩ := checkFile_returns_iff (c := {}) (e := .native) rfl rfl rfl
    rfl hverbose hread
  have hlist : checks.map Prod.snd = [.tabs, .lineEndings .native, .trailing [0x0a],
      .encoding (.text "ascii"), .finalEol, .includes, .notice] := by
    cases hchecks
    rfl
  have hok : ∀ check ∈ checks.map Prod.snd, ∃ v, check.examine [0xff, 0x0a, 0x09] = .ok v := by
    simp only [hlist, List.mem_cons, List.not_mem_nil, or_false]
    rintro check (rfl | rfl | rfl | rfl | rfl | rfl | rfl) <;> exact ⟨_, rfl⟩
  refine hreturns.mpr ?_
  rintro line ⟨check, hmade, hshows⟩
  obtain ⟨name, hmem⟩ := hmade.mem
  have hanswers := Check.examine_answers (mem_available rfl rfl rfl hchecks _ hmem) [0xff, 0x0a, 0x09]
  exact hanswers.isOk_iff.mp (hok _ (List.mem_map_of_mem hmem)) line hshows

end Checker

end SourceTidy
