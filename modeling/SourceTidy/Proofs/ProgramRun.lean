import SourceTidy.Program
import SourceTidy.Proofs.AlikeRuns

/-!
# Runs of the program

How the program ends is told by three steps: the reading of its words, the preparation of its task,
and the performance of the task.
-/

namespace SourceTidy

open Session

namespace Program

variable {call : Call} {command : Command} {values : Values} {w w' w'' : World} {task : Task}

/-- The program comes to a task, in the world in which that is performed. -/
def Comes (call : Call) (w : World) (task : Task) (w' : World) : Prop :=
  ∃ command values, request call w.year = .ok (command, values) ∧
    (prepare call command values).run (started w) = (.ok (.inr task), w')

def exitCode : Fault → Nat
  | .interrupted => interruptCode
  | _ => failureCode

def reported (f : Fault) (w : World) : World := ((reportFault f).run w).2

lemma run_reportFault (f : Fault) (w : World) :
    (reportFault f).run w = (.ok (.returned (exitCode f)), reported f w) := by
  have hending : ((reportFault f).run w).1 = .ok (.returned (exitCode f)) := by cases f <;> rfl
  exact Prod.ext hending rfl

lemma leaves_reportFault {γ : Type} {φ : World → γ} (f : Fault)
    (hφ : ∀ w level message, level ≠ .debug → φ (World.logged w level message) = φ w)
    (hstack : ∀ w, φ (World.logged w .debug ("stacktrace:\n" ++ stackMark)) = φ w) :
    Leaves φ (reportFault f) := by
  unfold reportFault
  split
  · exact .bind (.log (hφ · _ _ (by decide))) fun _ => .pure _
  · exact .bind (.log (hφ · _ _ (by decide))) fun _ => .bind (.log hstack) fun _ => .pure _

@[simp] lemma reported_tree (f : Fault) (w : World) : (reported f w).tree = w.tree :=
  leaves_reportFault f (fun w _ _ _ => World.logged_tree w _ _) (fun w => World.logged_tree w _ _) w

@[simp] lemma reported_calls (f : Fault) (w : World) : (reported f w).calls = w.calls :=
  leaves_reportFault f (fun w _ _ _ => World.logged_calls w _ _) (fun w => World.logged_calls w _ _) w

lemma execute_of_run {ending : Ending} {text : String}
    (hrequest : request call w.year = .ok (command, values))
    (hrun : (obeyOrReport call command values).run (started w) = (.ok (.inr (ending, text)), w')) :
    execute call w = ⟨ending, printedLog w'.log ++ text, "", w'⟩ := by
  have hyear : (started w).year = w.year := rfl
  rw [execute, hyear, hrequest]
  dsimp only
  rw [hrun]

lemma execute_of_perform {ending : Ending} {text : String} (hcomes : Comes call w task w')
    (hperform : (perform task).run w' = (.ok (ending, text), w'')) :
    execute call w = ⟨ending, printedLog w''.log ++ text, "", w''⟩ := by
  obtain ⟨command, values, hrequest, hprepare⟩ := hcomes
  have hobey : (obey call command values).run (started w) = (.ok (.inr (ending, text)), w'') := by
    rw [obey, run_bind_ok hprepare]
    exact (run_bind_ok hperform _).trans rfl
  refine execute_of_run hrequest ?_
  have hattempt := run_attempt (obey call command values) (started w)
  rw [hobey] at hattempt
  rw [obeyOrReport, run_bind_ok hattempt]
  rfl

lemma execute_of_obey_fault {f : Fault} (hrequest : request call w.year = .ok (command, values))
    (hobey : (obey call command values).run (started w) = (.error f, w'')) :
    execute call w = ⟨.returned (exitCode f), printedLog (reported f w'').log ++ "", "", reported f w''⟩ := by
  refine execute_of_run hrequest ?_
  have hattempt := run_attempt (obey call command values) (started w)
  rw [hobey] at hattempt
  rw [obeyOrReport, run_bind_ok hattempt]
  exact run_bind_ok (run_reportFault f w'') _

lemma execute_of_fault {f : Fault} (hcomes : Comes call w task w')
    (hperform : (perform task).run w' = (.error f, w'')) :
    execute call w = ⟨.returned (exitCode f), printedLog (reported f w'').log ++ "", "", reported f w''⟩ := by
  obtain ⟨command, values, hrequest, hprepare⟩ := hcomes
  refine execute_of_obey_fault hrequest ?_
  rw [obey, run_bind_ok hprepare]
  exact run_bind_error hperform _

lemma run_checkPaths {c : Checker} {paths : List Setting} {tally : Tally}
    (h : (total c paths).run w = (.ok tally, w')) :
    (perform (.check c paths)).run w = (.ok (.answered (!tally.isEmpty), ""),
      w'.logged (verdict tally).level (verdict tally).message) := by
  have hcheck : (checkPaths c paths).run w = (.ok (.answered (!tally.isEmpty)),
      w'.logged (verdict tally).level (verdict tally).message) := by
    rw [checkPaths, run_bind_ok h, run_bind_ok (run_log _ _ _)]
    rfl
  rw [perform, run_bind_ok hcheck]
  rfl

end Program

end SourceTidy
