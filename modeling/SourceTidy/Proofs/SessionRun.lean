import Mathlib.Data.List.Basic
import SourceTidy.Session

/-!
# Runs of sessions

What the steps of a session do when they run: the outcome and the world they leave. Proofs about
operations use these laws and do not open the monad.
-/

namespace SourceTidy

lemma ok_bind {ε α β : Type} (a : α) (g : α → Except ε β) : .ok a >>= g = g a := rfl

lemma bind_eq_ok {ε α β : Type} {x : Except ε α} {g : α → Except ε β} {b : β}
    (h : x >>= g = .ok b) : ∃ a, x = .ok a ∧ g a = .ok b := by
  cases x with
  | error e => cases h
  | ok a => exact ⟨a, rfl, h⟩

lemma map_eq_ok {ε α β : Type} {x : Except ε α} {g : α → β} {b : β} (h : x.map g = .ok b) :
    ∃ a, x = .ok a ∧ g a = b := by
  cases x with
  | error e => cases h
  | ok a => exact ⟨a, rfl, Except.ok.inj h⟩

lemma eq_ok_of_mapError {ε ε' α : Type} {g : ε → ε'} {x : Except ε α} {a : α}
    (h : x.mapError g = .ok a) : x = .ok a := by
  cases x with
  | error e => cases h
  | ok b =>
    cases h
    rfl

def World.logged (w : World) (level : Level) (message : String) : World :=
  if w.threshold ≤ level.number then { w with log := w.log ++ [⟨level, message⟩] } else w

namespace World

variable (w : World) (level : Level) (message : String)

@[simp] lemma logged_tree : (w.logged level message).tree = w.tree := by
  unfold logged; split <;> rfl

@[simp] lemma logged_verboseNamed : (w.logged level message).verboseNamed = w.verboseNamed := by
  unfold logged; split <;> rfl

end World

namespace Session

variable {α β : Type}

@[simp] lemma run_pure (a : α) (w : World) : (pure a : Session α).run w = (.ok a, w) := rfl

@[simp] lemma run_throw (f : Fault) (w : World) : (throw f : Session α).run w = (.error f, w) := rfl

@[simp] lemma run_get (w : World) : (get : Session World).run w = (.ok w, w) := rfl

@[simp] lemma run_modify (g : World → World) (w : World) :
    (modify g : Session Unit).run w = (.ok (), g w) := rfl

lemma run_bind (x : Session α) (g : α → Session β) (w : World) :
    (x >>= g).run w = match x.run w with
      | (.ok a, w') => (g a).run w'
      | (.error f, w') => (.error f, w') := by
  unfold run ExceptT.run
  simp only [bind, ExceptT.bind, ExceptT.mk, StateT.bind]
  generalize x w = p
  obtain ⟨r, w'⟩ := p
  cases r <;> rfl

lemma run_bind_ok {x : Session α} {a : α} {w w' : World} (h : x.run w = (.ok a, w'))
    (g : α → Session β) : (x >>= g).run w = (g a).run w' := by
  rw [run_bind, h]

lemma run_bind_error {x : Session α} {f : Fault} {w w' : World} (h : x.run w = (.error f, w'))
    (g : α → Session β) : (x >>= g).run w = (.error f, w') := by
  rw [run_bind, h]

/-- A session of two parts that returns: so did the first part. -/
lemma run_bind_eq_ok {x : Session α} {g : α → Session β} {b : β} {w w' : World}
    (h : (x >>= g).run w = (.ok b, w')) : ∃ a v, x.run w = (.ok a, v) ∧ (g a).run v = (.ok b, w') := by
  rw [run_bind] at h
  cases hx : x.run w with
  | mk r v =>
    rw [hx] at h
    cases r with
    | ok a => exact ⟨a, v, rfl, h⟩
    | error f => cases h

@[simp] lemma run_lift (r : Except Fault α) (w : World) : (lift r).run w = (r, w) := by
  cases r <;> rfl

lemma run_lift_bind {r : Except Fault α} {a : α} (h : r = .ok a) (g : α → Session β) (w : World) :
    (lift r >>= g).run w = (g a).run w := by
  rw [run_bind, run_lift, h]

lemma run_attempt (s : Session α) (w : World) :
    (attempt s).run w = (.ok (s.run w).1, (s.run w).2) := rfl

@[simp] lemma run_log (level : Level) (message : String) (w : World) :
    (log level message).run w = (.ok (), w.logged level message) := rfl

lemma run_report_named {w : World} (h : w.verboseNamed = true) (message : String) :
    (report message).run w = (.ok (), w.logged .verbose message) := by
  rw [report, run_bind_ok (run_get w), if_pos h, run_log]

lemma run_report_unnamed {w : World} (h : w.verboseNamed = false) (message : String) :
    (report message).run w = (.error (.kind .noLevel), w) := by
  rw [report, run_bind_ok (run_get w), if_neg (by simp [h]), run_throw]

@[simp] lemma run_query (path : String) (g : FileTree → Except PathProblem α) (w : World) :
    (query path g).run w = ((g w.tree).mapError (Fault.path · path), w) := by
  rw [query, run_bind_ok (run_get w)]
  cases g w.tree <;> rfl

lemma run_change_ok {path : String} {g : FileTree → Except PathProblem FileTree} {w : World}
    {t : FileTree} (h : g w.tree = .ok t) : (change path g).run w = (.ok (), { w with tree := t }) := by
  have hq : (query path g).run w = (.ok t, w) := by rw [run_query, h]; rfl
  rw [change, run_bind_ok hq, run_modify]

variable {γ : Type} {φ : World → γ}

/-- A session that leaves a part of the world as it is. -/
def Leaves (φ : World → γ) (x : Session α) : Prop := ∀ w, φ (x.run w).2 = φ w

namespace Leaves

protected lemma pure (a : α) : Leaves φ (pure a) := fun _ => rfl

protected lemma throw (f : Fault) : Leaves φ (throw f : Session α) := fun _ => rfl

protected lemma lift (r : Except Fault α) : Leaves φ (lift r) := by
  intro w
  rw [run_lift]

protected lemma query (path : String) (g : FileTree → Except PathProblem α) : Leaves φ (query path g) := by
  intro w
  rw [run_query]

protected lemma modify {g : World → World} (hg : ∀ w, φ (g w) = φ w) :
    Leaves φ (modify g : Session Unit) := fun w => hg w

protected lemma bind {x : Session α} {g : α → Session β} (hx : Leaves φ x)
    (hg : ∀ a, Leaves φ (g a)) : Leaves φ (x >>= g) := by
  intro w
  have hw := hx w
  rw [run_bind]
  rcases hrun : x.run w with ⟨r, w'⟩
  rw [hrun] at hw
  cases r with
  | error f => exact hw
  | ok a => exact (hg a w').trans hw

protected lemma get_bind {g : World → Session β} (hg : ∀ w, Leaves φ (g w)) : Leaves φ (get >>= g) := by
  intro w
  rw [run_bind_ok (run_get w)]
  exact hg w w

protected lemma reply (r : FormatterReply) : Leaves φ (reply r) := by
  cases r with
  | done code output => exact .pure _
  | interrupted => exact .throw _

protected lemma call (hφ : ∀ w call, φ { w with calls := w.calls ++ [call] } = φ w)
    (command : List String) (input : Option Bytes) : Leaves φ (call command input) := by
  refine .bind (.modify fun w => hφ w _) fun _ => .get_bind fun w => ?_
  cases w.formatters (command.headD "") with
  | some f => exact .pure f
  | none => exact .throw _

protected lemma log {level : Level} {message : String}
    (hφ : ∀ w, φ (World.logged w level message) = φ w) : Leaves φ (log level message) := hφ

protected lemma report {message : String} (hφ : ∀ w, φ (World.logged w .verbose message) = φ w) :
    Leaves φ (report message) := by
  intro w
  cases h : w.verboseNamed with
  | true => rw [run_report_named h, hφ]
  | false => rw [run_report_unnamed h]

end Leaves

end Session

end SourceTidy
