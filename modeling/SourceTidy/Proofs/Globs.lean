import Mathlib.Data.List.Basic
import SourceTidy.Pattern.Glob

/-!
# Matching globs

The answers for all places of a name, from which `Glob.accepts` takes the first, obey the equations
of a matcher that looks at the name from left to right. From them follows that a name is accepted
exactly if it matches.
-/

namespace SourceTidy.Glob

lemma exists_answers_nil (p : Glob) : ∃ b, answers p [] = [b] := by
  induction p with
  | nil => exact ⟨true, rfl⟩
  | cons part p ih =>
    obtain ⟨b, hb⟩ := ih
    cases part with
    | star => exact ⟨b, by simp [answers, hb, orLater]⟩
    | one => exact ⟨false, rfl⟩
    | set negated ranges => exact ⟨false, rfl⟩
    | char a => exact ⟨false, rfl⟩

lemma answers_cons (p : Glob) (c : Char) (s : Text) :
    answers p (c :: s) = accepts p (c :: s) :: answers p s := by
  suffices h : ∃ b, answers p (c :: s) = b :: answers p s by
    obtain ⟨b, hb⟩ := h
    rw [accepts, hb]
    rfl
  induction p with
  | nil => exact ⟨false, rfl⟩
  | cons part p ih =>
    obtain ⟨b, hb⟩ := ih
    cases part with
    | star => exact ⟨_, by rw [answers, hb]; rfl⟩
    | one => exact ⟨_, by simp only [answers, hb]; rfl⟩
    | set negated ranges => exact ⟨_, by simp only [answers, hb]; rfl⟩
    | char a => exact ⟨_, by simp only [answers, hb]; rfl⟩

lemma accepts_nil (s : Text) : accepts [] s = s.isEmpty := by
  cases s <;> rfl

lemma accepts_star_nil (p : Glob) : accepts (.star :: p) [] = accepts p [] := by
  obtain ⟨b, hb⟩ := exists_answers_nil p
  simp [accepts, answers, hb, orLater]

lemma accepts_star_cons (p : Glob) (c : Char) (s : Text) :
    accepts (.star :: p) (c :: s) = (accepts p (c :: s) || accepts (.star :: p) s) := by
  rw [accepts, answers, answers_cons]
  rfl

lemma accepts_cons {part : GlobPart} (hpart : part ≠ .star) (p : Glob) (s : Text) :
    accepts (part :: p) s = match s with
      | [] => false
      | c :: s => takes part c && accepts p s := by
  have hanswers : answers (part :: p) s = passing (takes part) s (answers p s) := by
    cases part with
    | star => exact absurd rfl hpart
    | _ => rfl
  rw [accepts, hanswers]
  cases s with
  | nil => rfl
  | cons c s =>
    rw [answers_cons, passing]
    rfl

lemma matches_star_iff {p : Glob} {s : Text} : Matches (.star :: p) s ↔ ∃ a b, s = a ++ b ∧ Matches p b := by
  constructor
  · intro h
    cases h with
    | star a b hb => exact ⟨a, b, rfl, hb⟩
  · rintro ⟨a, b, rfl, hb⟩
    exact .star a b hb

lemma matches_cons_iff {part : GlobPart} (hpart : part ≠ .star) {p : Glob} {s : Text} :
    Matches (part :: p) s ↔ ∃ c t, s = c :: t ∧ takes part c = true ∧ Matches p t := by
  constructor
  · intro h
    generalize hq : part :: p = q at h
    cases h with
    | nil => cases hq
    | star => exact absurd (List.cons.inj hq).1 hpart
    | one c hm =>
      obtain ⟨rfl, rfl⟩ := List.cons.inj hq
      exact ⟨c, _, rfl, rfl, hm⟩
    | member c hr hm =>
      obtain ⟨rfl, rfl⟩ := List.cons.inj hq
      exact ⟨c, _, rfl, by simp [takes, hr], hm⟩
    | nonMember c hr hm =>
      obtain ⟨rfl, rfl⟩ := List.cons.inj hq
      exact ⟨c, _, rfl, by simp [takes, hr], hm⟩
    | char c hm =>
      obtain ⟨rfl, rfl⟩ := List.cons.inj hq
      exact ⟨c, _, rfl, by simp [takes], hm⟩
  · rintro ⟨c, t, rfl, ht, hm⟩
    cases part with
    | star => exact absurd rfl hpart
    | one => exact .one c hm
    | char a =>
      obtain rfl : c = a := by simpa [takes] using ht
      exact .char c hm
    | set negated ranges =>
      cases negated with
      | false => exact .member c (by simpa [takes] using ht) hm
      | true => exact .nonMember c (by simpa [takes] using ht) hm

lemma accepts_iff (p : Glob) (s : Text) : accepts p s = true ↔ Matches p s := by
  induction p generalizing s with
  | nil =>
    rw [accepts_nil, List.isEmpty_iff]
    exact ⟨fun h => h ▸ .nil, fun h => by cases h; rfl⟩
  | cons part p ih =>
    by_cases hpart : part = .star
    · subst hpart
      induction s with
      | nil =>
        rw [accepts_star_nil, ih, matches_star_iff]
        refine ⟨fun h => ⟨[], [], rfl, h⟩, ?_⟩
        rintro ⟨a, b, hs, hb⟩
        obtain ⟨-, rfl⟩ := List.append_eq_nil_iff.mp hs.symm
        exact hb
      | cons c s ihs =>
        rw [accepts_star_cons, Bool.or_eq_true, ih, ihs, matches_star_iff, matches_star_iff]
        constructor
        · rintro (h | ⟨a, b, rfl, hb⟩)
          · exact ⟨[], c :: s, rfl, h⟩
          · exact ⟨c :: a, b, rfl, hb⟩
        · rintro ⟨a, b, hs, hb⟩
          cases a with
          | nil => exact .inl (by rwa [hs])
          | cons d a => exact .inr ⟨a, b, (List.cons.inj hs).2, hb⟩
    · rw [accepts_cons hpart, matches_cons_iff hpart]
      cases s with
      | nil => simp
      | cons c s => simp [ih]

end SourceTidy.Glob
