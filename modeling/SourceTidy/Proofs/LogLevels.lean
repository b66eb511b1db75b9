import SourceTidy.Proofs.FirstFailure

/-!
# Verdicts under different levels of the log

What a checker finds does not depend on which records the log keeps, with one exception: for
debugging, a source that the formatting program has changed is decoded to be shown in the log, and
where that fails, so does the scan.
-/

namespace SourceTidy

open Session Text World Formatting

/-- A call of a formatter after which the source and its new form differ, and cannot both be shown. -/
def FormatterCall.Unshown (formatters : String → Option Formatter) (call : FormatterCall) : Prop :=
  ∃ f data output, formatters (call.command.headD "") = some f ∧ call.input = some data ∧
    f.format call.command data = .done 0 output ∧ output ≠ data ∧
    ¬(IsUtf8 data ∧ IsUtf8 output)

namespace Formatting

lemma unshown_iff {formatters : String → Option Formatter} {command : List String} {data : Bytes} :
    FormatterCall.Unshown formatters ⟨command, some data⟩ ↔ ∃ run, answer formatters command data = .ok run ∧
      run.code = 0 ∧ run.output ≠ data ∧ ¬(IsUtf8 data ∧ IsUtf8 run.output) := by
  unfold answer
  constructor
  · rintro ⟨f, data', output, hf, hdata, hreply, hne, hbad⟩
    cases hdata
    rw [hf]
    dsimp only
    rw [hreply]
    exact ⟨_, rfl, rfl, hne, hbad⟩
  · rintro ⟨run, hrun, hcode, hne, hbad⟩
    cases hf : formatters (command.headD "") with
    | none =>
      rw [hf] at hrun
      cases hrun
    | some f =>
      rw [hf] at hrun
      dsimp only at hrun
      cases hreply : f.format command data with
      | interrupted =>
        rw [hreply] at hrun
        cases hrun
      | done code output =>
        rw [hreply] at hrun
        cases hrun
        exact ⟨f, data, output, hf, rfl, hcode ▸ hreply, hne, hbad⟩

end Formatting

/-- Two worlds with the given formatters that differ in the log only. One keeps the records for debugging
and the other one does not. -/
structure World.Quieter (formatters : String → Option Formatter) (loud quiet : World) : Prop where
  tree : quiet.tree = loud.tree
  loudFormatters : loud.formatters = formatters
  quietFormatters : quiet.formatters = formatters
  verboseNamed : quiet.verboseNamed = loud.verboseNamed
  calls : quiet.calls = loud.calls
  loud : loud.threshold ≤ Level.debug.number
  quiet : Level.debug.number < quiet.threshold

namespace World.Quieter

variable {F : String → Option Formatter} {loud quiet : World}

lemma logged (h : Quieter F loud quiet) (level : Level) (message : String) :
    Quieter F (loud.logged level message) (quiet.logged level message) := by
  constructor <;> simp [h.tree, h.loudFormatters, h.quietFormatters, h.verboseNamed, h.calls, h.loud, h.quiet]

lemma loud_logged (h : Quieter F loud quiet) (level : Level) (message : String) :
    Quieter F (loud.logged level message) quiet := by
  constructor <;> simp [h.tree, h.loudFormatters, h.quietFormatters, h.verboseNamed, h.calls, h.loud, h.quiet]

lemma called (h : Quieter F loud quiet) (call : FormatterCall) :
    Quieter F { loud with calls := loud.calls ++ [call] } { quiet with calls := quiet.calls ++ [call] } :=
  { h with calls := by rw [h.calls] }

end World.Quieter

namespace Session

variable {α β : Type} {F : String → Option Formatter}

/-- A session with the same outcome whether records for debugging are kept or not, unless it makes a call
after which something cannot be shown. In that case it fails if they are kept. -/
structure Discreet (F : String → Option Formatter) (x : Session α) : Prop where
  grows : ∀ w, ∃ made, (x.run w).2.calls = w.calls ++ made
  agrees : ∀ {loud quiet made}, Quieter F loud quiet → (x.run quiet).2.calls = quiet.calls ++ made →
    ((∀ call ∈ made, ¬call.Unshown F) ∧ (x.run loud).1 = (x.run quiet).1 ∧
        Quieter F (x.run loud).2 (x.run quiet).2) ∨
      (∃ call ∈ made, call.Unshown F) ∧ ∃ u, (x.run loud).1 = .error (.undecodable u)

namespace Discreet

lemma of_leaves {x : Session α} (hleaves : Leaves calls x) (h : ∀ loud quiet,
    Quieter F loud quiet → (x.run loud).1 = (x.run quiet).1 ∧
      Quieter F (x.run loud).2 (x.run quiet).2) : Discreet F x where
  grows w := ⟨[], by rw [hleaves w, List.append_nil]⟩
  agrees {loud quiet made} hq hmade := by
    rw [hleaves quiet, List.self_eq_append_right] at hmade
    subst hmade
    exact .inl ⟨by simp, h loud quiet hq⟩

protected lemma pure (a : α) : Discreet F (pure a) := of_leaves (.pure a) fun _ _ h => ⟨rfl, h⟩

protected lemma throw (f : Fault) : Discreet F (throw f : Session α) :=
  of_leaves (.throw f) fun _ _ h => ⟨rfl, h⟩

protected lemma lift (r : Except Fault α) : Discreet F (lift r) :=
  of_leaves (.lift r) fun _ _ h => by simpa using h

protected lemma log (level : Level) (message : String) : Discreet F (log level message) :=
  of_leaves (.log (logged_calls · level message)) fun _ _ h => ⟨rfl, h.logged level message⟩

protected lemma report (message : String) : Discreet F (report message) := by
  refine of_leaves (.report (logged_calls · _ message)) fun loud quiet h => ?_
  cases hnamed : loud.verboseNamed with
  | true =>
    rw [run_report_named hnamed, run_report_named (h.verboseNamed.trans hnamed)]
    exact ⟨rfl, h.logged _ _⟩
  | false =>
    rw [run_report_unnamed hnamed, run_report_unnamed (h.verboseNamed.trans hnamed)]
    exact ⟨rfl, h⟩

protected lemma query (path : String) (g : FileTree → Except PathProblem α) : Discreet F (query path g) := by
  refine of_leaves (.query path g) fun loud quiet h => ?_
  rw [run_query, run_query, h.tree]
  exact ⟨rfl, h⟩

protected lemma bind {x : Session α} {g : α → Session β} (hx : Discreet F x) (hg : ∀ a, Discreet F (g a)) :
    Discreet F (x >>= g) where
  grows w := by
    obtain ⟨made, hmade⟩ := hx.grows w
    rw [run_bind]
    rcases hrun : x.run w with ⟨r, v⟩
    rw [hrun] at hmade
    cases r with
    | error f => exact ⟨made, hmade⟩
    | ok a =>
      obtain ⟨more, hmore⟩ := (hg a).grows v
      exact ⟨made ++ more, by rw [← List.append_assoc, ← hmade]; exact hmore⟩
  agrees {loud quiet all} h hall := by
    obtain ⟨made, hmade⟩ := hx.grows quiet
    have hcase := hx.agrees h hmade
    rw [run_bind] at hall ⊢
    rw [run_bind]
    rcases hrun : x.run quiet with ⟨r, v⟩
    rcases hloud : x.run loud with ⟨r', v'⟩
    rw [hrun, hloud] at hcase
    rw [hrun] at hmade hall
    cases r with
    | error f =>
      obtain rfl : all = made := List.append_cancel_left (hall.symm.trans hmade)
      rcases hcase with ⟨hshown, hout, hrel⟩ | ⟨hbad, u, hu⟩
      · cases hout
        exact .inl ⟨hshown, rfl, hrel⟩
      · cases hu
        exact .inr ⟨hbad, u, rfl⟩
    | ok a =>
      obtain ⟨more, hmore⟩ := (hg a).grows v
      obtain rfl : all = made ++ more := by
        refine List.append_cancel_left (hall.symm.trans ?_)
        rw [← List.append_assoc, ← hmade]
        exact hmore
      rcases hcase with ⟨hshown, hout, hrel⟩ | ⟨⟨call, hcall, hbad⟩, u, hu⟩
      · cases hout
        rcases (hg a).agrees hrel hmore with ⟨hshown', hout', hrel'⟩ | ⟨⟨call, hcall, hbad⟩, hu⟩
        · refine .inl ⟨fun call hcall => ?_, hout', hrel'⟩
          exact (List.mem_append.mp hcall).elim (hshown call) (hshown' call)
        · exact .inr ⟨⟨call, List.mem_append_right _ hcall, hbad⟩, hu⟩
      · cases hu
        exact .inr ⟨⟨call, List.mem_append_left _ hcall, hbad⟩, u, rfl⟩

end Discreet

end Session

namespace Checker

open SourceWalk

variable {F : String → Option Formatter} {c : Checker} {checks : List (String × Check)} {sel : Selection}
  {src : Source} {data output : Bytes}

lemma formatDiff_ok (src : Source) (h : IsUtf8 data ∧ IsUtf8 output) :
    ∃ diff, formatDiff src data output = .ok diff := by
  obtain ⟨⟨s, rfl⟩, ⟨s', rfl⟩⟩ := h
  unfold formatDiff
  rw [decodeUtf8_encode, decodeUtf8_encode]
  exact ⟨_, rfl⟩

lemma formatDiff_error (src : Source) (h : ¬(IsUtf8 data ∧ IsUtf8 output)) :
    ∃ u, formatDiff src data output = .error (.undecodable u) := by
  unfold formatDiff
  by_cases hdata : IsUtf8 data
  · obtain ⟨u, hu⟩ := decodeUtf8_eq_error_iff.mpr fun houtput => h ⟨hdata, houtput⟩
    obtain ⟨s, rfl⟩ := hdata
    rw [decodeUtf8_encode, hu]
    exact ⟨u, rfl⟩
  · obtain ⟨u, hu⟩ := decodeUtf8_eq_error_iff.mpr hdata
    rw [hu]
    exact ⟨u, rfl⟩

lemma misformatted_agrees {loud quiet : World} (h : Quieter F loud quiet) (run : Run) :
    ((run.code = 0 → run.output ≠ data → IsUtf8 data ∧ IsUtf8 run.output) ∧
      ((c.misformatted src data run).run loud).1 = ((c.misformatted src data run).run quiet).1 ∧
      Quieter F ((c.misformatted src data run).run loud).2
        ((c.misformatted src data run).run quiet).2) ∨
    (run.code = 0 ∧ run.output ≠ data ∧ ¬(IsUtf8 data ∧ IsUtf8 run.output)) ∧
      ∃ u, ((c.misformatted src data run).run loud).1 = .error (.undecodable u) := by
  unfold misformatted
  split
  · next hcode =>
    exact .inl ⟨fun hzero => absurd hzero (by simpa using hcode), rfl, h.logged _ _⟩
  next hcode =>
  split
  · next hsame =>
    exact .inl ⟨fun _ hne => absurd (by simpa using hsame) hne, rfl, h⟩
  next hne =>
  have hquiet : ¬quiet.threshold ≤ Level.debug.number := Nat.not_le.mpr h.quiet
  rw [run_bind_ok (run_get loud), run_bind_ok (run_get quiet), if_pos h.loud,
    if_neg hquiet]
  by_cases hutf8 : IsUtf8 data ∧ IsUtf8 run.output
  · obtain ⟨diff, hdiff⟩ := formatDiff_ok src hutf8
    rw [hdiff]
    exact .inl ⟨fun _ _ => hutf8, rfl, h.loud_logged _ _⟩
  · obtain ⟨u, hu⟩ := formatDiff_error src hutf8
    rw [hu]
    exact .inr ⟨⟨by simpa using hcode, by simpa using hne, hutf8⟩, u, rfl⟩

lemma discreet_formatFails : Discreet F (c.formatFails src data) := by
  by_cases htext : ∃ program, c.formatter = .text program
  · obtain ⟨program, hprogram⟩ := htext
    let command := [program, "-assume-filename=" ++ src.path, "-style=file"]
    have hrun : ∀ w, (c.formatFails src data).run w =
        (lift (answer w.formatters command data) >>= c.misformatted src data).run
          { w with calls := w.calls ++ [⟨command, some data⟩] } := by
      intro w
      rw [formatFails, hprogram, run_bind, run_format, run_bind, run_lift]
    have hcalls : ∀ w, ((c.formatFails src data).run w).2.calls = w.calls ++ [⟨command, some data⟩] := by
      intro w
      rw [hrun]
      exact Leaves.bind (.lift _)
        (fun run => leaves_misformatted (fun w _ _ _ => logged_calls w _ _) c src data run) _
    refine ⟨fun w => ⟨_, hcalls w⟩, fun {loud quiet made} h hmade => ?_⟩
    obtain rfl : made = [⟨command, some data⟩] := List.append_cancel_left (hmade.symm.trans (hcalls quiet))
    have hloud : answer loud.formatters command data = answer F command data := by
      rw [h.loudFormatters]
    have hquiet : answer quiet.formatters command data = answer F command data := by
      rw [h.quietFormatters]
    have hcalled := h.called ⟨command, some data⟩
    rw [hrun, hrun, hloud, hquiet, run_bind, run_bind, run_lift, run_lift]
    cases hanswer : answer F command data with
    | error g =>
      refine .inl ⟨List.forall_mem_singleton.mpr fun hbad => ?_, rfl, hcalled⟩
      obtain ⟨run, hok, -⟩ := unshown_iff.mp hbad
      cases hanswer.symm.trans hok
    | ok run =>
      rcases misformatted_agrees hcalled run with ⟨hgood, hout, hrel⟩ | ⟨hunshown, hu⟩
      · refine .inl ⟨List.forall_mem_singleton.mpr fun hbad => ?_, hout, hrel⟩
        obtain ⟨run', hok, hcode, hne, hnot⟩ := unshown_iff.mp hbad
        cases hanswer.symm.trans hok
        exact hnot (hgood hcode hne)
      · exact .inr ⟨⟨_, List.mem_singleton_self _, unshown_iff.mpr ⟨run, hanswer, hunshown⟩⟩, hu⟩
  · have hrun : ∃ g, ∀ w, (c.formatFails src data).run w = (.error g, w) := by
      unfold formatFails
      cases hsetting : c.formatter with
      | scalar v =>
        cases v with
        | text program => exact absurd ⟨program, hsetting⟩ htext
        | _ => exact ⟨_, fun _ => rfl⟩
      | list members => exact ⟨_, fun _ => rfl⟩
      | record fields => exact ⟨_, fun _ => rfl⟩
    obtain ⟨g, hrun⟩ := hrun
    exact .of_leaves (fun w => by rw [hrun]) fun loud quiet h => by
      rw [hrun, hrun]
      exact ⟨rfl, h⟩

lemma discreet_tests : ∀ p ∈ c.tests checks src data, Discreet F p.2 := by
  have hfails : ∀ check, Discreet F (fails (some src.path) data check) :=
    fails_closed (P := fun _ => Discreet F) .pure .bind .lift .report _ _
  have hmode : Discreet F (modeFails src) := by
    refine .bind ?_ fun _ => .pure _
    refine .of_leaves src.leaves_mode fun loud quiet h => ?_
    rw [Source.run_mode, Source.run_mode, h.tree]
    exact ⟨rfl, h⟩
  exact forall_tests hfails hmode discreet_formatFails

lemma discreet_visitor (tally : Tally) : Discreet F (c.visitor checks sel src tally) := by
  have hcontent : Discreet F (src.content sel .binary) := by
    refine .bind (.query _ _) fun data => ?_
    refine .bind (.lift _) fun skipped => ?_
    cases skipped with
    | true => exact .bind (.log _ _) fun _ => .pure _
    | false => exact .pure _
  refine .bind hcontent fun content => ?_
  cases content with
  | none => exact .pure _
  | some data =>
    have hfailing : Discreet F (failing c.failFast.isOn src.path (c.tests checks src data)) :=
      failing_closed (P := fun _ => Discreet F) .pure .bind (.log _) _ _ discreet_tests
    exact .bind (.bind (.log _ _) fun _ => hfailing) fun _ => .pure _

lemma discreet_replay (stops : List Stop) (tally : Tally) :
    Discreet F (replay (c.visitor checks sel) stops tally) := by
  induction stops generalizing tally with
  | nil => exact .pure _
  | cons stop stops ih =>
    cases stop with
    | note message => exact .bind (.log _ _) fun _ => ih tally
    | fault f => exact .throw f
    | source src =>
      refine .bind (discreet_visitor tally) fun step => ?_
      cases step with
      | done tally' => exact .pure _
      | yield tally' => exact ih tally'

lemma discreet_scan (c : Checker) (path : String) : Discreet F (c.scan (.text path)) := by
  refine .bind (.lift _) fun checks => .bind (.lift _) fun sel => ?_
  change Discreet F (fold sel (.text path) [] (c.visitor checks sel))
  refine ⟨fun w => ?_, fun {loud quiet made} h hmade => ?_⟩
  · rw [run_fold_visitor]
    exact (discreet_replay (F := F) (stops w.tree sel path) []).grows w
  · rw [run_fold_visitor] at hmade
    rw [run_fold_visitor, run_fold_visitor, ← h.tree]
    rcases (discreet_replay (stops quiet.tree sel path) []).agrees h hmade with
      ⟨hshown, hout, hrel⟩ | ⟨hbad, u, hu⟩
    · exact .inl ⟨hshown, congrArg (Except.map outcome) hout, hrel⟩
    · exact .inr ⟨hbad, u, congrArg (Except.map outcome) hu⟩

/-- A scan goes in the same way in worlds with the same tree of which both or none keep records for
debugging. -/
lemma matches_scan {before before' : List FormatterCall} (c : Checker) (path : String) :
    Matches (Alike Eq before before') (c.scan (.text path)) (c.scan (.text path)) := by
  refine .bind (.lift _) fun checks => .bind (.lift _) fun sel => ?_
  change Matches (Alike Eq before before') (fold sel (.text path) [] (c.visitor checks sel))
    (fold sel (.text path) [] (c.visitor checks sel))
  intro w w' h
  rw [run_fold_visitor, run_fold_visitor, ← h.tree]
  have hreplay : Matches (Alike Eq before before')
      (replay (c.visitor checks sel) (stops w.tree sel path) [])
      (replay (c.visitor checks sel) (stops w.tree sel path) []) :=
    matches_replay (fun src _ tally => matches_visitor (fun t t' ht => by rw [ht]) tally) []
  obtain ⟨hout, hrel⟩ := hreplay w w' h
  exact ⟨congrArg (Except.map outcome) hout, hrel⟩

/-- The level of the log does not matter for what a scan finds, with one exception. A level at which the
records for debugging are kept makes the scan fail where the formatting program has changed a source, and
the source or its new form cannot be decoded. -/
theorem scan_outcome_by_level (c : Checker) (path : String) (w : World) (low high : Nat) :
    let scanAt := fun level => (c.scan (.text path)).run { w with threshold := level }
    ((low ≤ Level.debug.number ↔ high ≤ Level.debug.number) → (scanAt low).1 = (scanAt high).1) ∧
    (low ≤ Level.debug.number → Level.debug.number < high →
      ∃ made, (scanAt high).2.calls = w.calls ++ made ∧
        ((∀ call ∈ made, ¬call.Unshown w.formatters) → (scanAt low).1 = (scanAt high).1) ∧
        ((∃ call ∈ made, call.Unshown w.formatters) → ∃ u, (scanAt low).1 = .error (.undecodable u)) ∧
        ((scanAt low).1.mapError Fault.category = (scanAt high).1.mapError Fault.category ↔
          (∀ call ∈ made, ¬call.Unshown w.formatters) ∨
            (scanAt high).1.mapError Fault.category = .error "UnicodeDecodeError")) := by
  intro scanAt
  constructor
  · intro hside
    have halike : World.Alike Eq w.calls w.calls { w with threshold := low } { w with threshold := high } :=
      ⟨rfl, rfl, rfl, rfl, hside.symm, [], by simp⟩
    exact (matches_scan c path _ _ halike).1.symm
  · intro hlow hhigh
    have hquieter : World.Quieter w.formatters { w with threshold := low } { w with threshold := high } :=
      ⟨rfl, rfl, rfl, rfl, rfl, hlow, hhigh⟩
    have hdiscreet := discreet_scan (F := w.formatters) c path
    obtain ⟨made, hmade⟩ := hdiscreet.grows { w with threshold := high }
    refine ⟨made, hmade, ?_⟩
    rcases hdiscreet.agrees hquieter hmade with ⟨hshown, hout, -⟩ | ⟨hbad, u, hu⟩
    · have hsame : (scanAt low).1 = (scanAt high).1 := hout
      refine ⟨fun _ => hsame, fun ⟨call, hcall, hcant⟩ => absurd hcant (hshown call hcall), ?_⟩
      rw [hsame]
      exact iff_of_true rfl (.inl hshown)
    · have hfails : (scanAt low).1 = .error (.undecodable u) := hu
      have hnot : ¬∀ call ∈ made, ¬call.Unshown w.formatters := by
        obtain ⟨call, hcall, hcant⟩ := hbad
        exact fun hshown => hshown call hcall hcant
      refine ⟨fun hshown => absurd hshown hnot, fun _ => ⟨u, hfails⟩, ?_⟩
      rw [hfails, or_iff_right hnot, eq_comm]
      rfl

/-- A source in which the formatting program takes a blank away is counted once, with records for
debugging and without. -/
theorem scan_counts_shown_source :
    let formatter : Formatter := {
      version := .interrupted
      format := fun _ data => if data = [0x78, 0x20, 0x0a] then .done 0 [0x78, 0x0a] else .done 0 data }
    let w : World := {
      tree := { entries := [(["a.c"], .file [0x78, 0x20, 0x0a] 0o644)] }
      formatters := fun _ => some formatter
      year := 2024 }
    let c : Checker := {
      trailing := .flag false, encodable := .flag false, includes := .flag false, notice := .flag false,
      mode := .flag false, formatter := .text "clang-format" }
    ((c.scan (.text "a.c")).run { w with threshold := Level.debug.number }).1 = .ok [("clang-format", 1)] ∧
    ((c.scan (.text "a.c")).run { w with threshold := Level.info.number }).1 = .ok [("clang-format", 1)] := by
  intro formatter w c
  have hp : w.tree.Plain := by decide
  have hloc : Path.locate w.tree .follow "a.c" = .ok ["a.c"] := Path.locate_name hp rfl
  have hquiet : ((c.scan (.text "a.c")).run { w with threshold := Level.info.number }).1 =
      .ok [("clang-format", 1)] :=
    (outcome_scan_file (w := { w with threshold := Level.info.number })
      rfl rfl rfl rfl rfl hloc rfl).trans rfl
  obtain ⟨made, -, hsame, -⟩ :=
    (scan_outcome_by_level c "a.c" w Level.debug.number Level.info.number).2 (Nat.le_refl _) (by decide)
  have hshown : ∀ call ∈ made, ¬call.Unshown w.formatters := by
    rintro call - ⟨f, data, output, hf, -, hreply, hne, hnot⟩
    cases hf
    change (if data = [0x78, 0x20, 0x0a] then _ else _) = _ at hreply
    split at hreply <;> cases hreply
    · next hdata =>
      exact hnot ⟨⟨['x', ' ', '\n'], hdata⟩, ⟨['x', '\n'], rfl⟩⟩
    · exact hne rfl
  exact ⟨(hsame hshown).trans hquiet, hquiet⟩

/-- A source that cannot be decoded is counted without records for debugging, and makes the scan fail with
them. -/
theorem scan_fails_for_debugging :
    let formatter : Formatter := { version := .interrupted, format := fun _ _ => .done 0 [0x78, 0x0a] }
    let w : World := {
      tree := { entries := [(["a.c"], .file [0xff, 0x0a] 0o644)] }
      formatters := fun _ => some formatter
      year := 2024 }
    let c : Checker := {
      tabs := .flag false, lineEndings := .flag false, trailing := .flag false, encodable := .flag false,
      finalEol := .flag false, includes := .flag false, notice := .flag false, mode := .flag false,
      formatter := .text "clang-format" }
    (∃ u, ((c.scan (.text "a.c")).run { w with threshold := Level.debug.number }).1 =
      .error (.undecodable u)) ∧
    ((c.scan (.text "a.c")).run { w with threshold := Level.info.number }).1 = .ok [("clang-format", 1)] := by
  intro formatter w c
  have hp : w.tree.Plain := by decide
  have hloc : Path.locate w.tree .follow "a.c" = .ok ["a.c"] := Path.locate_name hp rfl
  have hscan : ∀ level, ((c.scan (.text "a.c")).run { w with threshold := level }).1 =
      ((c.checkSource [] (Source.ofPath "a.c") [0xff, 0x0a]).run { w with threshold := level }).1.map
        (Tally.addAll []) := fun level =>
    outcome_scan_file (w := { w with threshold := level }) rfl rfl rfl rfl rfl hloc rfl
  rw [hscan, hscan]
  exact ⟨⟨_, rfl⟩, rfl⟩

end Checker

end SourceTidy
