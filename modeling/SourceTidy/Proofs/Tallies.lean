import Mathlib.Data.List.Nodup
import SourceTidy.Tally

/-!
# Counts in tallies

A tally is told by its counts: adding to it adds to them. What has a count stands in the tally once
and was found at least once.
-/

namespace SourceTidy.Tally

variable {t : Tally}

def keys (t : Tally) : List String := t.map Prod.fst

lemma count_cons (k : String) (n : Nat) (t : Tally) (key : String) :
    count ((k, n) :: t) key = if key = k then n else t.count key := by
  unfold count
  rw [List.lookup_cons]
  by_cases h : key = k
  · simp [h]
  · simp [h, beq_false_of_ne h]

lemma count_add (key : String) (n : Nat) (t : Tally) (k : String) :
    (add key n t).count k = t.count k + if k = key then n else 0 := by
  induction t with
  | nil =>
    rw [add, count_cons]
    simp [count]
  | cons p t ih =>
    obtain ⟨k', m⟩ := p
    rw [add]
    by_cases hkey : k' = key
    · subst hkey
      rw [if_pos (by simp), count_cons, count_cons]
      split <;> omega
    · rw [if_neg (by simpa using hkey), count_cons, count_cons, ih]
      by_cases hk : k = k'
      · have hne : k ≠ key := fun h => hkey (hk ▸ h)
        simp [hk, hkey]
      · simp [hk]

lemma count_addAll (t : Tally) (names : List String) (k : String) :
    (t.addAll names).count k = t.count k + names.count k := by
  induction names generalizing t with
  | nil => rfl
  | cons name names ih =>
    have hstep : t.addAll (name :: names) = (add name 1 t).addAll names := rfl
    rw [hstep, ih, count_add, List.count_cons]
    by_cases hk : k = name
    · simp [hk]
      omega
    · simp [hk, beq_false_of_ne (Ne.symm hk)]

/-- No thing is counted in two places, and none that was not found. -/
structure Proper (t : Tally) : Prop where
  nodup : t.keys.Nodup
  found : ∀ p ∈ t, 0 < p.2

lemma Proper.nil : Proper [] := ⟨List.nodup_nil, by simp⟩

lemma mem_keys_add {key k : String} {n : Nat} : k ∈ (add key n t).keys ↔ k = key ∨ k ∈ t.keys := by
  induction t with
  | nil => simp [add, keys]
  | cons p t ih =>
    obtain ⟨k', m⟩ := p
    rw [add]
    unfold keys at ih ⊢
    by_cases hkey : k' = key
    · simp [hkey]
    · rw [if_neg (by simpa using hkey)]
      rw [List.map_cons, List.mem_cons, ih, List.map_cons, List.mem_cons]
      tauto

lemma mem_keys_addAll {k : String} {names : List String} :
    k ∈ (t.addAll names).keys ↔ k ∈ names ∨ k ∈ t.keys := by
  induction names generalizing t with
  | nil => simp [addAll]
  | cons name names ih =>
    have hstep : t.addAll (name :: names) = (add name 1 t).addAll names := rfl
    rw [hstep, ih, mem_keys_add, List.mem_cons]
    tauto

lemma Proper.add (h : t.Proper) (key : String) {n : Nat} (hn : 0 < n) : Proper (add key n t) := by
  induction t with
  | nil => exact ⟨by simp [Tally.add, keys], by simpa [Tally.add] using hn⟩
  | cons p t ih =>
    obtain ⟨k, m⟩ := p
    have hnodup := List.nodup_cons.mp h.nodup
    have hfound := List.forall_mem_cons.mp h.found
    rw [Tally.add]
    by_cases hkey : k = key
    · rw [if_pos (by simpa using hkey)]
      refine ⟨h.nodup, List.forall_mem_cons.mpr ⟨?_, hfound.2⟩⟩
      have hm : 0 < m := hfound.1
      change 0 < m + n
      omega
    · have hrest := ih ⟨hnodup.2, hfound.2⟩
      rw [if_neg (by simpa using hkey)]
      refine ⟨List.nodup_cons.mpr ⟨?_, hrest.nodup⟩, List.forall_mem_cons.mpr ⟨hfound.1, hrest.found⟩⟩
      intro hmem
      rcases mem_keys_add.mp hmem with hk | hk
      · exact hkey hk
      · exact hnodup.1 hk

lemma Proper.addAll (h : t.Proper) (names : List String) : (t.addAll names).Proper := by
  induction names generalizing t with
  | nil => exact h
  | cons name names ih => exact ih (h.add name Nat.one_pos)

lemma Proper.merge {t u : Tally} (h : t.Proper) (hu : ∀ p ∈ u, 0 < p.2) : (t.merge u).Proper := by
  induction u generalizing t with
  | nil => exact h
  | cons p u ih =>
    obtain ⟨hp, hrest⟩ := List.forall_mem_cons.mp hu
    exact ih (h.add p.1 hp) hrest

lemma isEmpty_merge (t u : Tally) : (t.merge u).isEmpty = (t.isEmpty && u.isEmpty) := by
  induction u generalizing t with
  | nil => exact (Bool.and_true _).symm
  | cons p u ih =>
    have hadd : (Tally.add p.1 p.2 t).isEmpty = false := by
      cases t with
      | nil => rfl
      | cons q t =>
        rw [Tally.add]
        split <;> rfl
    have hstep : t.merge (p :: u) = (Tally.add p.1 p.2 t).merge u := rfl
    rw [hstep, ih, hadd, Bool.false_and, List.isEmpty_cons, Bool.and_false]

lemma isEmpty_foldl_merge (t : Tally) (tallies : List Tally) :
    (tallies.foldl merge t).isEmpty = (t.isEmpty && tallies.all List.isEmpty) := by
  induction tallies generalizing t with
  | nil => exact (Bool.and_true _).symm
  | cons u tallies ih => rw [List.foldl_cons, ih, isEmpty_merge, List.all_cons, Bool.and_assoc]

lemma count_of_notMem {k : String} (h : k ∉ t.keys) : t.count k = 0 := by
  induction t with
  | nil => rfl
  | cons p t ih =>
    obtain ⟨k', m⟩ := p
    obtain ⟨hne, hrest⟩ := not_or.mp (mt List.mem_cons.mpr h)
    rw [count_cons, if_neg hne, ih hrest]

lemma count_merge {t u : Tally} (hu : u.keys.Nodup) (k : String) :
    (t.merge u).count k = t.count k + u.count k := by
  induction u generalizing t with
  | nil => rfl
  | cons p u ih =>
    obtain ⟨key, n⟩ := p
    obtain ⟨hnot, hnodup⟩ := List.nodup_cons.mp hu
    have hstep : t.merge ((key, n) :: u) = (Tally.add key n t).merge u := rfl
    rw [hstep, ih hnodup, count_add, count_cons]
    by_cases hk : k = key
    · rw [if_pos hk, if_pos hk, hk, count_of_notMem hnot, Nat.add_zero]
    · rw [if_neg hk, if_neg hk]
      omega

lemma Proper.eq_nil_iff (h : t.Proper) : t = [] ↔ ∀ k, t.count k = 0 := by
  constructor
  · rintro rfl k
    rfl
  · intro hzero
    cases t with
    | nil => rfl
    | cons p t =>
      obtain ⟨k, n⟩ := p
      have hn : 0 < n := (List.forall_mem_cons.mp h.found).1
      have hk := hzero k
      rw [count_cons, if_pos rfl] at hk
      omega

lemma addAll_nodup {names : List String} (h : (t.keys ++ names).Nodup) :
    t.addAll names = t ++ names.map (·, 1) := by
  have hadd : ∀ (t : Tally) (name : String), name ∉ t.keys → add name 1 t = t ++ [(name, 1)] := by
    intro t name hname
    induction t with
    | nil => rfl
    | cons p t ih =>
      obtain ⟨k, m⟩ := p
      obtain ⟨hne, hrest⟩ := not_or.mp (mt List.mem_cons.mpr hname)
      rw [add, if_neg (by simpa using Ne.symm hne), ih hrest]
      rfl
  induction names generalizing t with
  | nil => simp [addAll]
  | cons name names ih =>
    have hname : name ∉ t.keys := fun hmem =>
      (List.nodup_append.mp h).2.2 name hmem name List.mem_cons_self rfl
    have hstep : t.addAll (name :: names) = (add name 1 t).addAll names := rfl
    rw [hstep, hadd t name hname, ih ?_]
    · simp
    · simpa [keys] using h

end SourceTidy.Tally
