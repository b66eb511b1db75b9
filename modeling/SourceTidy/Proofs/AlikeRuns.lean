import SourceTidy.Proofs.SessionRun

/-!
# Runs in worlds that are alike

A session gives the same outcome in worlds that differ only in the records of the log, and it makes
the same calls of formatters there. The trees of the two worlds may differ too, as long as the session
does not ask for what is different in them.
-/

namespace SourceTidy

/-- Two worlds with trees that are related in some way. They agree in what decides a session, and the
same calls of formatters were made in them since the given ones. -/
structure World.Alike (T : FileTree → FileTree → Prop) (before before' : List FormatterCall)
    (w w' : World) : Prop where
  tree : T w.tree w'.tree
  formatters : w'.formatters = w.formatters
  verboseNamed : w'.verboseNamed = w.verboseNamed
  year : w'.year = w.year
  debugging : w'.threshold ≤ Level.debug.number ↔ w.threshold ≤ Level.debug.number
  calls : ∃ made, w.calls = before ++ made ∧ w'.calls = before' ++ made

namespace World

variable (w : World) (level : Level) (message : String)

@[simp] lemma logged_formatters : (w.logged level message).formatters = w.formatters := by
  unfold logged; split <;> rfl

@[simp] lemma logged_year : (w.logged level message).year = w.year := by
  unfold logged; split <;> rfl

@[simp] lemma logged_threshold : (w.logged level message).threshold = w.threshold := by
  unfold logged; split <;> rfl

@[simp] lemma logged_calls : (w.logged level message).calls = w.calls := by
  unfold logged; split <;> rfl

def frame (w : World) : World := { w with log := [], calls := [] }

@[simp] lemma logged_frame : (w.logged level message).frame = w.frame := by
  unfold logged; split <;> rfl

lemma tree_eq_of_frame {w w' : World} (h : w'.frame = w.frame) : w'.tree = w.tree :=
  (congrArg tree h :)

end World

namespace World.Alike

variable {T : FileTree → FileTree → Prop} {before before' : List FormatterCall} {w w' : World}

lemma of_frame (hframe : w'.frame = w.frame) : Alike Eq w.calls w'.calls w w' where
  tree := (World.tree_eq_of_frame hframe).symm
  formatters := (congrArg World.formatters hframe :)
  verboseNamed := (congrArg World.verboseNamed hframe :)
  year := (congrArg World.year hframe :)
  debugging := by
    have hthreshold : w'.threshold = w.threshold := (congrArg World.threshold hframe :)
    rw [hthreshold]
  calls := ⟨[], by simp⟩

lemma logged (h : Alike T before before' w w') (level level' : Level) (message message' : String) :
    Alike T before before' (w.logged level message) (w'.logged level' message') := by
  obtain ⟨made, hmade, hmade'⟩ := h.calls
  exact ⟨by simpa using h.tree, by simpa using h.formatters, by simpa using h.verboseNamed,
    by simpa using h.year, by simpa using h.debugging, made, by simpa using ⟨hmade, hmade'⟩⟩

lemma called (h : Alike T before before' w w') (call : FormatterCall) :
    Alike T before before' { w with calls := w.calls ++ [call] } { w' with calls := w'.calls ++ [call] } := by
  obtain ⟨made, hmade, hmade'⟩ := h.calls
  refine ⟨h.tree, h.formatters, h.verboseNamed, h.year, h.debugging, made ++ [call], ?_, ?_⟩
  · rw [hmade, List.append_assoc]
  · rw [hmade', List.append_assoc]

end World.Alike

namespace Session

variable {α β : Type} {R : World → World → Prop}

/-- Two sessions with the same outcome in related worlds, which they take to related worlds. -/
def Matches (R : World → World → Prop) (x x' : Session α) : Prop :=
  ∀ w w', R w w' → (x'.run w').1 = (x.run w).1 ∧ R (x.run w).2 (x'.run w').2

namespace Matches

protected lemma pure (a : α) : Matches R (pure a) (pure a) := fun _ _ h => ⟨rfl, h⟩

protected lemma throw (f : Fault) : Matches R (throw f : Session α) (throw f) := fun _ _ h => ⟨rfl, h⟩

protected lemma lift (r : Except Fault α) : Matches R (lift r) (lift r) := by
  intro w w' h
  rw [run_lift, run_lift]
  exact ⟨rfl, h⟩

protected lemma reply (r : FormatterReply) : Matches R (reply r) (reply r) := by
  cases r with
  | done code output => exact .pure _
  | interrupted => exact .throw _

protected lemma bind {x x' : Session α} {g g' : α → Session β} (hx : Matches R x x')
    (hg : ∀ a, Matches R (g a) (g' a)) : Matches R (x >>= g) (x' >>= g') := by
  intro w w' h
  obtain ⟨hout, hrel⟩ := hx w w' h
  rw [run_bind, run_bind]
  rcases hrun : x.run w with ⟨r, v⟩
  rcases hrun' : x'.run w' with ⟨r', v'⟩
  rw [hrun, hrun'] at hout hrel
  cases hout
  cases r with
  | error f => exact ⟨rfl, hrel⟩
  | ok a => exact hg a v v' hrel

/-- The world may be asked for what does not differ. -/
protected lemma get_bind {g g' : World → Session β}
    (hg : ∀ w w', R w w' → ((g' w').run w').1 = ((g w).run w).1 ∧ R ((g w).run w).2 ((g' w').run w').2) :
    Matches R (get >>= g) (get >>= g') := by
  intro w w' h
  rw [run_bind_ok (run_get w), run_bind_ok (run_get w')]
  exact hg w w' h

protected lemma query {path : String} {g g' : FileTree → Except PathProblem α}
    (hg : ∀ w w', R w w' → g' w'.tree = g w.tree) : Matches R (query path g) (query path g') := by
  intro w w' h
  rw [run_query, run_query, hg w w' h]
  exact ⟨rfl, h⟩

lemma run_eq {x x' : Session α} {w w' v : World} {r : Except Fault α} (h : Matches R x x')
    (hw : R w w') (hrun : x.run w = (r, v)) : ∃ v', x'.run w' = (r, v') ∧ R v v' := by
  obtain ⟨hout, hrel⟩ := h w w' hw
  rw [hrun] at hout hrel
  exact ⟨(x'.run w').2, Prod.ext hout rfl, hrel⟩

variable {T : FileTree → FileTree → Prop} {before before' : List FormatterCall}

protected lemma log (level level' : Level) (message message' : String) :
    Matches (World.Alike T before before') (log level message) (log level' message') := by
  intro w w' h
  rw [run_log, run_log]
  exact ⟨rfl, h.logged level level' message message'⟩

protected lemma report (message message' : String) :
    Matches (World.Alike T before before') (report message) (report message') := by
  refine .get_bind fun w w' h => ?_
  rw [h.verboseNamed]
  cases w.verboseNamed with
  | true => exact Matches.log _ _ _ _ w w' h
  | false => exact ⟨rfl, h⟩

protected lemma call (command : List String) (input : Option Bytes) :
    Matches (World.Alike T before before') (call command input) (call command input) := by
  refine .bind (fun w w' h => ⟨rfl, h.called ⟨command, input⟩⟩) fun _ => .get_bind fun w w' h => ?_
  rw [h.formatters]
  cases w.formatters (command.headD "") with
  | some f => exact ⟨rfl, h⟩
  | none => exact ⟨rfl, h⟩

end Matches

lemma Leaves.of_matches {γ : Type} {φ : World → γ} {x : Session α} (h : ∀ R, Matches R x x) : Leaves φ x :=
  fun w => congrArg φ (h (fun v _ => v = w) w w rfl).2

end Session

end SourceTidy
