import SourceTidy.Proofs.CheckRuns
import SourceTidy.Proofs.ProgramRun

/-!
# Runs that do not depend on the log

What is written to the log is never read again. So in two worlds with the same tree every task of the
program ends in the same way, leaves the same tree and makes the same calls of formatters, whatever
is kept of the log.
-/

namespace SourceTidy

variable {before before' : List FormatterCall}
variable (c : Checker) (f : Fixer) (u : Updater) (path : String) (paths : List Setting)
  (src : Source) (s : Text)

namespace Session

variable {α β : Type}

/-- A session with the same outcome in worlds that are alike, which it leaves alike. -/
abbrev Steady (before before' : List FormatterCall) (x : Session α) : Prop :=
  Matches (World.Alike Eq before before') x x

lemma steady_query (g : FileTree → Except PathProblem α) : Steady before before' (query path g) :=
  .query fun _ _ h => by rw [h.tree]

lemma steady_setTree (tree : FileTree) : Steady before before' (modify fun w => { w with tree }) :=
  fun _ _ h => ⟨rfl, rfl, h.formatters, h.verboseNamed, h.year, h.debugging, h.calls⟩

lemma steady_change (g : FileTree → Except PathProblem FileTree) : Steady before before' (change path g) :=
  .bind (steady_query path g) fun tree => steady_setTree tree

lemma steady_attempt {x : Session α} (hx : Steady before before' x) : Steady before before' (attempt x) := by
  intro w w' h
  obtain ⟨hout, hrel⟩ := hx w w' h
  rw [run_attempt, run_attempt, hout]
  exact ⟨rfl, hrel⟩

lemma steady_moveTarget (source target : String) : Steady before before' (moveTarget source target) := by
  refine .get_bind fun w w' h => ?_
  rw [← h.tree]
  refine (?_ : Steady before before' _) w w' h
  dsimp only
  split
  · split
    · exact .throw _
    · exact .pure _
  · exact .pure _

lemma steady_moveFile (source target : String) : Steady before before' (moveFile source target) := by
  refine .bind (steady_moveTarget source target) fun target => ?_
  split
  · exact .throw _
  · refine .get_bind fun w w' h => ?_
    rw [← h.tree]
    refine (?_ : Steady before before' _) w w' h
    dsimp only
    split
    · exact steady_setTree _
    · exact .throw _

lemma steady_keepOld (backup : Setting) (path : String) : Steady before before' (keepOld backup path) := by
  unfold keepOld
  split
  · split
    · exact steady_moveFile _ _
    · exact .throw _
  · exact .pure _

end Session

open Session

lemma Source.steady_mode : Steady before before' src.mode := by
  unfold mode
  split
  · exact .pure _
  · refine .bind (steady_query _ _) fun entry => ?_
    cases entry with
    | file => exact .pure _
    | dir => exact .pure _
    | link => exact .throw _

lemma Source.steady_content (sel : Selection) (m : ReadMode) (src : Source) :
    Steady before before' (src.content sel m) := by
  refine .bind (steady_query _ _) fun data => ?_
  split
  · exact .bind (.log _ _ _ _) fun _ => .pure _
  · refine .bind (.lift _) fun skipped => ?_
    cases skipped with
    | true => exact .bind (.log _ _ _ _) fun _ => .pure _
    | false => exact .pure _

namespace SourceWalk

variable {σ : Type} {sel : Selection} {visit : Visitor σ}

lemma steady_look (kind : NameKind) : Steady before before' (look path kind) := by
  cases kind with
  | dir => exact .pure _
  | file => exact .pure _
  | link =>
    refine .get_bind fun w w' h => ?_
    rw [← h.tree]
    refine (?_ : Steady before before' _) w w' h
    split
    · exact .pure _
    · exact .pure _
    · exact .pure _
    · exact .pure _
    · exact .throw _

lemma steady_offer (hvisit : ∀ src s, Steady before before' (visit src s)) (src : Source) (s : σ) :
    Steady before before' (offer sel visit src s) := by
  unfold offer
  split
  · exact hvisit src s
  · exact .bind (.log _ _ _ _) fun _ => .pure _

lemma steady_visitName (hvisit : ∀ src s, Steady before before' (visit src s))
    {enter : String → σ → Session (ForInStep σ)} (henter : ∀ path s, Steady before before' (enter path s))
    (dir name : String) (kind : NameKind) (s : σ) :
    Steady before before' (visitName sel visit enter dir name kind s) := by
  rw [visitName]
  dsimp only
  split
  · exact .bind (.log _ _ _ _) fun _ => .pure _
  · refine .bind (steady_look _ _) fun found => ?_
    obtain ⟨isDir, knownMode⟩ := found
    cases isDir with
    | true => exact henter _ _
    | false => exact steady_offer hvisit _ _

lemma steady_visitNames (hvisit : ∀ src s, Steady before before' (visit src s))
    {enter : String → σ → Session (ForInStep σ)} (henter : ∀ path s, Steady before before' (enter path s))
    (dir : String) (names : List (String × Given)) (s : σ) :
    Steady before before' (visitNames sel visit enter dir names s) := by
  induction names generalizing s with
  | nil => exact .pure _
  | cons p names ih =>
    obtain ⟨name, given⟩ := p
    rw [visitNames]
    refine .get_bind fun w w' h => ?_
    rw [← h.tree]
    refine (?_ : Steady before before' _) w w' h
    split
    · exact ih s
    · refine .bind (steady_visitName hvisit henter _ _ _ _) fun step => ?_
      cases step with
      | done s => exact .pure _
      | yield s => exact ih s

lemma steady_visitPath (hvisit : ∀ src s, Steady before before' (visit src s)) (depth : Nat)
    (path : String) (s : σ) : Steady before before' (visitPath sel visit depth path s) := by
  induction depth generalizing path s with
  | zero => exact .throw _
  | succ depth ih =>
    refine .get_bind fun w w' h => ?_
    rw [← h.tree]
    refine (?_ : Steady before before' _) w w' h
    split
    · dsimp only
      split
      · exact .bind (.log _ _ _ _) fun _ => .pure _
      · exact steady_offer hvisit _ _
    · exact .bind (.log _ _ _ _) fun _ => .bind (steady_query _ _) fun names =>
        steady_visitNames hvisit ih path names s

lemma steady_fold (hvisit : ∀ src s, Steady before before' (visit src s)) (path : Setting) (s : σ) :
    Steady before before' (fold sel path s visit) := by
  have hstart : Steady before before' (start path) := by
    unfold start
    split
    · exact .bind (.log _ _ _ _) fun _ => .throw _
    · exact .lift _
  refine .bind hstart fun path => .bind (steady_visitPath hvisit _ path s) fun step => ?_
  cases step with
  | done s => exact .pure _
  | yield s => exact .pure _

end SourceWalk

namespace Checker

lemma steady_visitor (checks : List (String × Check)) (sel : Selection) (src : Source)
    (tally : Tally) : Steady before before' (c.visitor checks sel src tally) := by
  refine .bind (src.steady_content sel .binary) fun content => ?_
  cases content with
  | none => exact .pure _
  | some data =>
    exact .bind (matches_checkSource rfl rfl (fun _ _ ht => by rw [ht]) c checks data) fun _ => .pure _

lemma steady_scan (path : Setting) : Steady before before' (c.scan path) :=
  .bind (.lift _) fun checks => .bind (.lift _) fun sel =>
    SourceWalk.steady_fold (c.steady_visitor checks sel) path []

end Checker

namespace Fixer

lemma steady_formatText : Steady before before' (f.formatText src s) :=
  .bind (Checker.matches_format _ _ _) fun run => .bind (Formatting.matches_run_check run) fun _ =>
    .lift _

lemma steady_writeText : Steady before before' (f.writeText path s) := by
  refine .bind (.lift _) fun terminator => ?_
  split
  · exact steady_change _ _
  · exact .bind (steady_change _ _) fun _ => .throw _

lemma steady_fixMode : Steady before before' (fixMode src) := by
  refine .bind src.steady_mode fun mode => ?_
  split
  · exact steady_change _ _
  · exact .pure _

lemma steady_fixSource (fixes : List LineFix) (src : Source) (s : Text) :
    Steady before before' (f.fixSource fixes src s) := by
  have hwrite : ∀ s, Steady before before' (do
      f.writeText src.path s
      if f.mode.isOn then fixMode src) := by
    intro s
    refine .bind (f.steady_writeText src.path s) fun _ => ?_
    split
    · exact steady_fixMode src
    · exact .pure _
  refine .bind (.log _ _ _ _) fun _ => ?_
  dsimp only
  split
  · exact .bind (f.steady_formatText src _) hwrite
  · exact .bind (.pure _) hwrite

lemma steady_scan (path : Setting) : Steady before before' (f.scan path) := by
  refine .bind (.lift _) fun fixes => .bind (.lift _) fun sel =>
    SourceWalk.steady_fold (fun src _ => ?_) path ()
  refine .bind (src.steady_content sel .text) fun content => ?_
  cases content with
  | none => exact .pure _
  | some s =>
    exact .bind (steady_keepOld _ _) fun _ => .bind (f.steady_fixSource fixes src s) fun _ => .pure _

end Fixer

namespace Updater

lemma steady_prepare : Steady before before' u.prepare := by
  have hnotice : Steady before before' u.notice := by
    unfold notice
    split
    · exact .bind (.lift _) fun path => .bind (steady_query _ _) fun data => .bind (.lift _) fun s =>
        .bind (.lift _) fun _ => .pure _
    · exact .pure _
  unfold prepare
  split
  · exact .bind hnotice fun _ => .pure _
  · exact .pure _

lemma steady_updateSource : Steady before before' (u.updateSource src s) := by
  refine .bind (.log _ _ _ _) fun _ => ?_
  split
  · exact steady_change _ _
  · exact .bind (steady_change _ _) fun _ => .throw _

lemma steady_updateTree (path : Setting) : Steady before before' (u.updateTree path) := by
  refine .bind (.lift _) fun sel => SourceWalk.steady_fold (fun src _ => ?_) path ()
  refine .bind (src.steady_content sel .text) fun content => ?_
  cases content with
  | none => exact .pure _
  | some s =>
    exact .bind (steady_keepOld _ _) fun _ => .bind (u.steady_updateSource src s) fun _ => .pure _

lemma steady_scan (path : Setting) : Steady before before' (u.scan path) := by
  have hscan : Steady before before' (u.afterPreparing (·.updateTree path)) := by
    refine .bind (steady_attempt u.steady_prepare) fun result => ?_
    cases result with
    | error f => exact .pure _
    | ok u => exact .bind (steady_attempt (u.steady_updateTree path)) fun _ => .pure _
  unfold scan
  dsimp only
  split
  · exact .bind (.log _ _ _ _) fun _ => hscan
  · exact hscan

end Updater

namespace Program

lemma matches_choosePatterns {R : World → World → Prop} (values : Values) (p : Patterns) :
    Matches R (choosePatterns values p) (choosePatterns values p) := by
  have hlist : ∀ v, Matches R (commaList v) (commaList v) := by
    intro v
    unfold commaList
    split
    · exact .pure _
    · exact .throw _
  have hskipped : ∀ (p : Patterns) (v : Setting) x, x = (if v.isOn then do
      return { p with skippedNames := ← commaList v } else return { p with skippedNames := .texts [] }) →
      Matches R x x := by
    rintro p v _ rfl
    split
    · exact .bind (hlist _) fun _ => .pure _
    · exact .pure _
  unfold choosePatterns
  split
  · dsimp only
    split
    · exact .bind (.pure _) fun _ => .pure _
    · exact .bind (hlist _) fun _ => .bind (.pure _) fun _ => .pure _
  · dsimp only
    split
    · exact .bind (.pure _) fun _ => hskipped _ _ _ rfl
    · exact .bind (hlist _) fun _ => .bind (.pure _) fun _ => hskipped _ _ _ rfl

lemma steady_chooseFormatter (v : Setting) : Steady before before' (chooseFormatter v) := by
  have hversion : ∀ program, Steady before before' (Formatting.version program) := fun program =>
    .bind (Formatting.matches_programName program) fun _ => .bind (.call _ _) fun _ => .bind (.reply _) fun _ =>
      .pure _
  unfold chooseFormatter
  split
  · exact .pure _
  · exact .pure _
  · exact .pure _
  · exact .bind (hversion _) fun run => .bind (Formatting.matches_run_check run) fun _ =>
      .bind (.lift _) fun _ => .bind (.log _ _ _ _) fun _ => .pure _

lemma steady_equip (command : Command) (values : Values) (p : Patterns) :
    Steady before before' (equip command values p) := by
  refine .bind (matches_choosePatterns values p) fun p => ?_
  refine .bind (.bind (.log _ _ _ _) fun _ => .bind (.log _ _ _ _) fun _ => .log _ _ _ _) fun _ => ?_
  refine .bind (steady_chooseFormatter _) fun formatter => ?_
  cases command with
  | check => exact .bind (.lift _) fun _ => .pure _
  | fix => exact .bind (.lift _) fun _ => .pure _
  | updateCopyright =>
    refine .get_bind fun w w' h => ?_
    rw [h.year]
    exact (Matches.bind (.lift _) fun _ => .pure _ : Steady before before' _) w w' h
  | dumpConfig => exact .pure _

lemma steady_updatePaths : Steady before before' (updatePaths u paths) := by
  induction paths generalizing u with
  | nil => exact .pure _
  | cons path paths ih =>
    exact .bind (u.steady_scan path) fun result => .bind (.lift _) fun _ => ih result.2

lemma steady_total : Steady before before' (total c paths) := by
  unfold total
  generalize ([] : Tally) = tally
  induction paths generalizing tally with
  | nil => exact .pure _
  | cons path paths ih =>
    rw [List.foldlM_cons]
    exact .bind (.bind (c.steady_scan path) fun _ => .pure _) ih

lemma steady_fixPaths : Steady before before' (fixPaths f paths) := by
  induction paths with
  | nil => exact .pure _
  | cons path paths ih => exact .bind (f.steady_scan path) fun _ => ih

lemma steady_perform (task : Task) : Steady before before' (perform task) := by
  cases task with
  | check c paths =>
    exact .bind (.bind (steady_total c paths) fun _ => .bind (.log _ _ _ _) fun _ => .pure _)
      fun _ => .pure _
  | fix f paths => exact .bind (steady_fixPaths f paths) fun _ => .pure _
  | update u paths => exact .bind (steady_updatePaths u paths) fun _ => .pure _
  | dumpConfig =>
    have hconfig : Steady before before' usualConfig := by
      refine .get_bind fun w w' h => ?_
      rw [h.year]
      exact (Matches.bind (.lift _) fun _ => .pure _ : Steady before before' _) w w' h
    exact .bind hconfig fun _ => .pure _

lemma steady_reportFault (f : Fault) : Steady before before' (reportFault f) := by
  unfold reportFault
  split
  · exact .bind (.log _ _ _ _) fun _ => .pure _
  · exact .bind (.log _ _ _ _) fun _ => .bind (.log _ _ _ _) fun _ => .pure _

end Program

end SourceTidy
