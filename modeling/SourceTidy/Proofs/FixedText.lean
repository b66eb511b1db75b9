import Mathlib.Data.List.Induction
import SourceTidy.Fixer
import SourceTidy.Proofs.Utf8

/-!
# Texts that need no fix

Each fix of a text leads to a normal form of its own, which the later fixes keep. So a text that was
fixed is not changed by fixing it again, not even after it was written to a file and read back.
-/

namespace SourceTidy

open Text SourceTidy.Fix

variable {c : Char} {n : Nat} {s : Text} {α : Type}

namespace Fix

/-- No blank stands before a line feed or at the end. -/
def Trimmed : Text → Prop
  | [] => True
  | c :: s => (isBlank c = true → s ≠ [] ∧ s.head? ≠ some '\n') ∧ Trimmed s

lemma trimLines_cons_of_blank (hc : isBlank c = true)
    (h : trimLines s = [] ∨ (trimLines s).head? = some '\n') : trimLines (c :: s) = trimLines s := by
  rw [trimLines]
  rcases h with h | h
  · simp [hc, h]
  · simp [hc, h]

lemma trimLines_cons_keep (h : isBlank c = true → trimLines s ≠ [] ∧ (trimLines s).head? ≠ some '\n') :
    trimLines (c :: s) = c :: trimLines s := by
  rw [trimLines]
  cases hc : isBlank c with
  | false => simp
  | true =>
    obtain ⟨hne, hhead⟩ := h hc
    simp [hne, hhead]

lemma trimLines_cons_cases (c : Char) (s : Text) :
    trimLines (c :: s) = trimLines s ∨ trimLines (c :: s) = c :: trimLines s := by
  by_cases h : isBlank c = true → trimLines s ≠ [] ∧ (trimLines s).head? ≠ some '\n'
  · exact .inr (trimLines_cons_keep h)
  · push Not at h
    obtain ⟨hc, hs⟩ := h
    refine .inl (trimLines_cons_of_blank hc ?_)
    by_cases hne : trimLines s = []
    · exact .inl hne
    · exact .inr (hs hne)

lemma trimmed_trimLines (s : Text) : Trimmed (trimLines s) := by
  induction s with
  | nil => trivial
  | cons c s ih =>
    by_cases h : isBlank c = true → trimLines s ≠ [] ∧ (trimLines s).head? ≠ some '\n'
    · rw [trimLines_cons_keep h]
      exact ⟨h, ih⟩
    · push Not at h
      obtain ⟨hc, hs⟩ := h
      rw [trimLines_cons_of_blank hc (by by_cases hne : trimLines s = [] <;> simp_all)]
      exact ih

lemma trimLines_of_trimmed (h : Trimmed s) : trimLines s = s := by
  induction s with
  | nil => rfl
  | cons c s ih =>
    have hs := ih h.2
    rw [trimLines_cons_keep (by rw [hs]; exact h.1), hs]

lemma trimLines_subset (h : c ∈ trimLines s) : c ∈ s := by
  induction s with
  | nil => exact h
  | cons a s ih =>
    rcases trimLines_cons_cases a s with he | he
    · rw [he] at h
      exact List.mem_cons_of_mem _ (ih h)
    · rw [he, List.mem_cons] at h
      rcases h with rfl | h
      · exact List.mem_cons_self
      · exact List.mem_cons_of_mem _ (ih h)

lemma trimLines_append_cons (hc : isBlank c = false) (s r : Text) :
    ∃ t, trimLines (s ++ c :: r) = t ++ c :: trimLines r := by
  induction s with
  | nil => exact ⟨[], trimLines_cons_keep (by simp [hc])⟩
  | cons a s ih =>
    obtain ⟨t, ht⟩ := ih
    rcases trimLines_cons_cases a (s ++ c :: r) with he | he
    · exact ⟨t, by rw [List.cons_append, he, ht]⟩
    · exact ⟨a :: t, by rw [List.cons_append, he, ht, List.cons_append]⟩

lemma trimLines_append_lf (s r : Text) :
    trimLines (s ++ '\n' :: r) = trimLines (s ++ ['\n']) ++ trimLines r := by
  induction s with
  | nil => rfl
  | cons c s ih =>
    obtain ⟨t, ht⟩ := trimLines_append_cons (c := '\n') rfl s []
    have hne : trimLines (s ++ ['\n']) ≠ [] := by simp [ht]
    have hhead : (trimLines (s ++ '\n' :: r)).head? = (trimLines (s ++ ['\n'])).head? := by
      rw [ih, List.head?_append_of_ne_nil _ hne]
    rw [List.cons_append, List.cons_append]
    by_cases h : isBlank c = true → (trimLines (s ++ ['\n'])).head? ≠ some '\n'
    · rw [trimLines_cons_keep fun hc => ⟨hne, h hc⟩, trimLines_cons_keep fun hc =>
        ⟨by rw [ih]; simp [hne], by rw [hhead]; exact h hc⟩, ih, List.cons_append]
    · push Not at h
      rw [trimLines_cons_of_blank h.1 (.inr h.2),
        trimLines_cons_of_blank h.1 (.inr (by rw [hhead]; exact h.2)), ih]

lemma expandTabs_append (n : Nat) (s t : Text) :
    expandTabs n (s ++ t) = expandTabs n s ++ expandTabs n t := List.flatMap_append

lemma expandTabs_cons_of_ne (n : Nat) (hc : c ≠ '\t') (s : Text) :
    expandTabs n (c :: s) = c :: expandTabs n s := by
  simp [expandTabs, hc]

lemma expandTabs_cons_tab (n : Nat) (s : Text) :
    expandTabs n ('\t' :: s) = List.replicate n ' ' ++ expandTabs n s := by
  simp [expandTabs]

lemma mem_expandTabs (h : c ∈ expandTabs n s) : c = ' ' ∨ (c ∈ s ∧ c ≠ '\t') := by
  simp only [expandTabs, List.mem_flatMap] at h
  obtain ⟨a, ha, hc⟩ := h
  split at hc
  · exact .inl (List.eq_of_mem_replicate hc)
  · next hne =>
    rw [List.mem_singleton] at hc
    subst hc
    exact .inr ⟨ha, by simpa using hne⟩

lemma tab_notMem_expandTabs (n : Nat) (s : Text) : '\t' ∉ expandTabs n s := by
  intro h
  rcases mem_expandTabs h with h | h
  · exact absurd h (by decide)
  · exact h.2 rfl

lemma expandTabs_of_notMem (n : Nat) (h : '\t' ∉ s) : expandTabs n s = s := by
  induction s with
  | nil => rfl
  | cons c s ih =>
    rw [List.mem_cons, not_or] at h
    rw [expandTabs_cons_of_ne n (Ne.symm h.1), ih h.2]

lemma expandTabs_head (h : Trimmed s) (hne : s ≠ []) (hs : s.head? ≠ some '\n') :
    expandTabs n s ≠ [] ∧ (expandTabs n s).head? ≠ some '\n' := by
  induction s with
  | nil => exact absurd rfl hne
  | cons c s ih =>
    by_cases hc : c = '\t'
    · subst hc
      obtain ⟨hne', hs'⟩ := h.1 rfl
      rw [expandTabs_cons_tab]
      cases n with
      | zero => simpa using ih h.2 hne' hs'
      | succ n => simp [List.replicate_succ]
    · rw [expandTabs_cons_of_ne n hc]
      exact ⟨List.cons_ne_nil _ _, by simpa using hs⟩

lemma trimmed_replicate_append (h : Trimmed s) (hne : s ≠ []) (hs : s.head? ≠ some '\n') :
    Trimmed (List.replicate n ' ' ++ s) := by
  induction n with
  | zero => exact h
  | succ n ih =>
    rw [List.replicate_succ, List.cons_append]
    refine ⟨fun _ => ?_, ih⟩
    cases n with
    | zero => exact ⟨hne, hs⟩
    | succ n => simp [List.replicate_succ]

lemma trimmed_expandTabs (h : Trimmed s) : Trimmed (expandTabs n s) := by
  induction s with
  | nil => trivial
  | cons c s ih =>
    by_cases hc : c = '\t'
    · subst hc
      obtain ⟨hne, hs⟩ := h.1 rfl
      obtain ⟨hne', hs'⟩ := expandTabs_head (n := n) h.2 hne hs
      rw [expandTabs_cons_tab]
      exact trimmed_replicate_append (ih h.2) hne' hs'
    · rw [expandTabs_cons_of_ne n hc]
      refine ⟨fun hb => ?_, ih h.2⟩
      obtain ⟨hne, hs⟩ := h.1 hb
      exact expandTabs_head h.2 hne hs

/-- There is a line feed at the end, and no white space before it. -/
def Ended (s : Text) : Prop :=
  ∃ t, s = t ++ ['\n'] ∧ ∀ c, t.getLast? = some c → isSpace c = false

lemma dropEndWhile_append_singleton (p : α → Bool) (s : List α) (a : α) :
    dropEndWhile p (s ++ [a]) = if p a then dropEndWhile p s else s ++ [a] := by
  induction s with
  | nil => simp [dropEndWhile]
  | cons b s ih =>
    rw [List.cons_append, dropEndWhile, ih]
    cases hp : p a with
    | true => simp only [if_true, dropEndWhile]
    | false => cases s <;> simp

lemma getLast?_dropEndWhile (p : α → Bool) (s : List α) {a : α}
    (h : (dropEndWhile p s).getLast? = some a) : p a = false := by
  induction s using List.reverseRecOn with
  | nil => simp [dropEndWhile] at h
  | append_singleton s b ih =>
    rw [dropEndWhile_append_singleton] at h
    cases hb : p b with
    | true =>
      rw [hb, if_pos rfl] at h
      exact ih h
    | false =>
      simp only [hb, Bool.false_eq_true, if_false, List.getLast?_append, List.getLast?_singleton,
        Option.some_or, Option.some.injEq] at h
      exact h ▸ hb

lemma dropEndWhile_of_getLast? {p : α → Bool} {s : List α}
    (h : ∀ a, s.getLast? = some a → p a = false) : dropEndWhile p s = s := by
  induction s using List.reverseRecOn with
  | nil => rfl
  | append_singleton s b _ =>
    have hb : p b = false := h b (by simp)
    rw [dropEndWhile_append_singleton, hb, if_neg Bool.false_ne_true]

lemma mem_of_mem_dropEndWhile {p : α → Bool} {s : List α} {a : α} (h : a ∈ dropEndWhile p s) : a ∈ s := by
  induction s using List.reverseRecOn with
  | nil => exact h
  | append_singleton s b ih =>
    rw [dropEndWhile_append_singleton] at h
    split at h
    · exact List.mem_append_left _ (ih h)
    · exact h

lemma isSpace_lf : isSpace '\n' = true := by
  simp [isSpace, inRanges, spaceRanges]

lemma not_blank_of_not_space (h : isSpace c = false) : isBlank c = false := by
  by_contra hb
  rw [Bool.not_eq_false, isBlank, Bool.or_eq_true, beq_iff_eq, beq_iff_eq] at hb
  rcases hb with rfl | rfl
  · simp [isSpace, inRanges, spaceRanges] at h
  · simp [isSpace, inRanges, spaceRanges] at h

lemma ended_endWithEol (s : Text) : Ended (endWithEol s) :=
  ⟨trimEnd s, rfl, fun _ hc => getLast?_dropEndWhile _ s hc⟩

lemma endWithEol_of_ended (h : Ended s) : endWithEol s = s := by
  obtain ⟨t, rfl, ht⟩ := h
  rw [endWithEol, trimEnd, dropEndWhile_append_singleton, isSpace_lf, if_pos rfl,
    dropEndWhile_of_getLast? ht]

lemma ended_cases (h : Ended s) : s = ['\n'] ∨ ∃ t c, isSpace c = false ∧ s = t ++ [c, '\n'] := by
  obtain ⟨t, rfl, ht⟩ := h
  rcases List.eq_nil_or_concat t with rfl | ⟨t, c, rfl⟩
  · exact .inl rfl
  · exact .inr ⟨t, c, ht c (by simp), by simp⟩

lemma ended_append {t : Text} (hc : isSpace c = false) : Ended (t ++ [c, '\n']) :=
  ⟨t ++ [c], by simp, fun a ha => by
    have : c = a := by simpa using ha
    exact this ▸ hc⟩

lemma ended_trimLines (h : Ended s) : Ended (trimLines s) := by
  rcases ended_cases h with rfl | ⟨t, c, hc, rfl⟩
  · exact h
  · obtain ⟨t', ht'⟩ := trimLines_append_cons (not_blank_of_not_space hc) t ['\n']
    rw [ht']
    exact ended_append hc

lemma ended_expandTabs (h : Ended s) : Ended (expandTabs n s) := by
  rcases ended_cases h with rfl | ⟨t, c, hc, rfl⟩
  · exact h
  · have hne : c ≠ '\t' := by
      rintro rfl
      exact absurd (not_blank_of_not_space hc) (by decide)
    have hlf : expandTabs n ['\n'] = ['\n'] := expandTabs_of_notMem n (by decide)
    rw [expandTabs_append, expandTabs_cons_of_ne n hne, hlf]
    exact ended_append hc

end Fix

lemma Text.lines_induction {motive : Text → Prop} (line : ∀ s, '\n' ∉ s → motive s)
    (more : ∀ s r, '\n' ∉ s → motive r → motive (s ++ '\n' :: r)) (s : Text) : motive s := by
  induction hlen : s.length using Nat.strongRecOn generalizing s with
  | ind n ih =>
    by_cases hmem : '\n' ∈ s
    · obtain ⟨s, r, rfl, hs⟩ := List.eq_append_cons_of_mem hmem
      exact more s r hs (ih r.length (by rw [← hlen]; simp; omega) r rfl)
    · exact line s hmem

namespace LineFix

lemma apply_append_lf (f : LineFix) (s r : Text) :
    ∃ t, f.apply (s ++ ['\n']) = t ++ ['\n'] ∧ f.apply (s ++ '\n' :: r) = t ++ '\n' :: f.apply r := by
  cases f with
  | trim =>
    obtain ⟨t, ht⟩ := trimLines_append_cons (c := '\n') rfl s []
    refine ⟨t, ht, ?_⟩
    change trimLines _ = _
    rw [trimLines_append_lf, ht]
    simp [trimLines, apply]
  | tabs n =>
    refine ⟨expandTabs n s, ?_, ?_⟩
    · change expandTabs n _ = _
      rw [expandTabs_append, expandTabs_of_notMem n (s := ['\n']) (by decide)]
    · change expandTabs n _ = _
      rw [expandTabs_append, expandTabs_cons_of_ne n (by decide)]
      rfl

lemma applyAll_append_lf (fixes : List LineFix) (s r : Text) :
    ∃ t, applyAll fixes (s ++ ['\n']) = t ++ ['\n'] ∧
      applyAll fixes (s ++ '\n' :: r) = t ++ '\n' :: applyAll fixes r := by
  induction fixes generalizing s r with
  | nil => exact ⟨s, rfl, rfl⟩
  | cons f fixes ih =>
    obtain ⟨t, ht, htr⟩ := apply_append_lf f s r
    obtain ⟨u, hu, hur⟩ := ih t (f.apply r)
    refine ⟨u, ?_, ?_⟩
    · rw [applyAll, List.foldl_cons, ht]
      exact hu
    · rw [applyAll, List.foldl_cons, htr]
      exact hur

lemma applyAll_nil (fixes : List LineFix) : applyAll fixes [] = [] := by
  induction fixes with
  | nil => rfl
  | cons f fixes ih =>
    rw [applyAll, List.foldl_cons]
    cases f with
    | trim => exact ih
    | tabs n => exact ih

lemma lfLines_append_lf (hs : '\n' ∉ s) (r : Text) :
    lfLines (s ++ '\n' :: r) = (s ++ ['\n']) :: lfLines r := by
  induction s with
  | nil => rfl
  | cons c s ih =>
    rw [List.mem_cons, not_or] at hs
    rw [List.cons_append, lfLines, if_neg (by simpa using Ne.symm hs.1), ih hs.2]
    rfl

lemma lfLines_of_notMem (hs : '\n' ∉ s) (hne : s ≠ []) : lfLines s = [s] := by
  induction s with
  | nil => exact absurd rfl hne
  | cons c s ih =>
    rw [List.mem_cons, not_or] at hs
    rw [lfLines, if_neg (by simpa using Ne.symm hs.1)]
    cases s with
    | nil => rfl
    | cons d s =>
      rw [ih hs.2 (List.cons_ne_nil _ _)]
      rfl

/-- Fixes of lines do to a text what they do to its lines. -/
theorem applyToLines_eq (fixes : List LineFix) (s : Text) :
    applyToLines fixes s = applyAll fixes s := by
  induction s using lines_induction with
  | line s hs =>
    cases s with
    | nil => rw [applyAll_nil]; rfl
    | cons c s =>
      rw [applyToLines, lfLines_of_notMem hs (List.cons_ne_nil _ _)]
      simp
  | more s r hs ih =>
    obtain ⟨t, ht, htr⟩ := applyAll_append_lf fixes s r
    rw [applyToLines, lfLines_append_lf hs, List.flatMap_cons, ht, htr, ← ih, applyToLines]
    simp

end LineFix

namespace Text

lemma cr_notMem_unifyNewlines (s : Text) : '\r' ∉ unifyNewlines s := by
  fun_induction unifyNewlines s with
  | case1 => exact List.not_mem_nil
  | case2 s ih =>
    rw [List.mem_cons, not_or]
    exact ⟨by decide, ih⟩
  | case3 c s _ ih =>
    rw [List.mem_cons, not_or]
    refine ⟨?_, ih⟩
    split
    · decide
    · next hc => exact fun h => hc (by rw [← h]; rfl)

lemma unifyNewlines_cons (hc : c ≠ '\r') (s : Text) : unifyNewlines (c :: s) = c :: unifyNewlines s := by
  rw [unifyNewlines]
  · rw [if_neg (by simpa using hc)]
  · intro t h
    exact absurd h hc

lemma unifyNewlines_of_notMem (h : '\r' ∉ s) : unifyNewlines s = s := by
  induction s with
  | nil => rfl
  | cons c s ih =>
    obtain ⟨hc, hs⟩ := not_or.mp (mt List.mem_cons.mpr h)
    rw [unifyNewlines_cons (Ne.symm hc), ih hs]

lemma unifyNewlines_writeNewlines (e : Eol) (hs : '\r' ∉ s) :
    unifyNewlines (writeNewlines e.terminator.toList s) = s := by
  induction s with
  | nil => rfl
  | cons c s ih =>
    rw [List.mem_cons, not_or] at hs
    rw [writeNewlines, List.flatMap_cons]
    change unifyNewlines (_ ++ writeNewlines e.terminator.toList s) = _
    split
    · next hc =>
      rw [beq_iff_eq] at hc
      subst hc
      cases e with
      | native =>
        change unifyNewlines ('\n' :: writeNewlines _ s) = _
        rw [unifyNewlines_cons (by decide), ih hs.2]
      | win =>
        change unifyNewlines ('\r' :: '\n' :: writeNewlines _ s) = _
        rw [unifyNewlines, ih hs.2]
    · rw [List.singleton_append, unifyNewlines_cons (Ne.symm hs.1), ih hs.2]

end Text

namespace Fixer

/-- The text is in the normal forms of all fixes that are chosen. -/
structure Settled (f : Fixer) (s : Text) : Prop where
  trimmed : f.trailing.isOn = true → Trimmed s
  noTabs : f.tabSize.isOn = true → '\t' ∉ s
  ended : f.finalEol.isOn = true → Ended s

variable {f : Fixer} {fixes : List LineFix}

lemma lineFixes_eq (h : f.lineFixes = .ok fixes) :
    ∃ n, fixes = (if f.trailing.isOn then [LineFix.trim] else []) ++
      (if f.tabSize.isOn then [LineFix.tabs n] else []) := by
  unfold lineFixes at h
  cases htab : f.tabSize.isOn with
  | false =>
    rw [htab] at h
    refine ⟨0, ?_⟩
    cases h
    simp
  | true =>
    rw [htab] at h
    cases hn : spaces f.tabSize with
    | error e =>
      rw [hn] at h
      cases h
    | ok n =>
      rw [hn] at h
      refine ⟨n, ?_⟩
      cases h
      simp

lemma applyAll_induction {P : Text → Prop} (h : f.lineFixes = .ok fixes)
    (htrim : ∀ s, P s → P (trimLines s)) (htabs : ∀ n s, P s → P (expandTabs n s)) (hs : P s) :
    P (LineFix.applyAll fixes s) := by
  obtain ⟨n, rfl⟩ := lineFixes_eq h
  cases f.trailing.isOn with
  | false => cases f.tabSize.isOn with
    | false => exact hs
    | true => exact htabs n s hs
  | true => cases f.tabSize.isOn with
    | false => exact htrim s hs
    | true => exact htabs n _ (htrim s hs)

lemma settled_fixText (h : f.lineFixes = .ok fixes) (s : Text) : f.Settled (f.fixText fixes s) := by
  unfold fixText
  rw [LineFix.applyToLines_eq]
  refine ⟨fun htrail => ?_, fun htab => ?_, fun heof => ?_⟩
  · obtain ⟨n, rfl⟩ := lineFixes_eq h
    rw [htrail]
    cases f.tabSize.isOn with
    | false => exact trimmed_trimLines _
    | true => exact trimmed_expandTabs (trimmed_trimLines _)
  · obtain ⟨n, rfl⟩ := lineFixes_eq h
    rw [htab]
    cases f.trailing.isOn with
    | false => exact tab_notMem_expandTabs n _
    | true => exact tab_notMem_expandTabs n _
  · rw [if_pos heof]
    exact applyAll_induction (P := Ended) h (fun _ => ended_trimLines)
      (fun _ _ => ended_expandTabs) (ended_endWithEol s)

lemma fixText_of_settled (h : f.lineFixes = .ok fixes) (hs : f.Settled s) : f.fixText fixes s = s := by
  unfold fixText
  have heof : (if f.finalEol.isOn then endWithEol s else s) = s := by
    split
    · next heof => exact endWithEol_of_ended (hs.ended heof)
    · rfl
  rw [heof, LineFix.applyToLines_eq]
  obtain ⟨n, rfl⟩ := lineFixes_eq h
  have htrim : f.trailing.isOn = true → trimLines s = s :=
    fun ht => trimLines_of_trimmed (hs.trimmed ht)
  have htabs : f.tabSize.isOn = true → expandTabs n s = s :=
    fun ht => expandTabs_of_notMem n (hs.noTabs ht)
  cases ht : f.trailing.isOn with
  | false => cases ht' : f.tabSize.isOn with
    | false => rfl
    | true => exact htabs ht'
  | true => cases ht' : f.tabSize.isOn with
    | false => exact htrim ht
    | true =>
      change expandTabs n (trimLines s) = s
      rw [htrim ht, htabs ht']

/-- A text that was fixed is not changed by fixing it again. -/
theorem fixText_idempotent (h : f.lineFixes = .ok fixes) (s : Text) :
    f.fixText fixes (f.fixText fixes s) = f.fixText fixes s :=
  fixText_of_settled h (settled_fixText h s)

lemma cr_notMem_fixText (h : f.lineFixes = .ok fixes) (hs : '\r' ∉ s) : '\r' ∉ f.fixText fixes s := by
  unfold fixText
  rw [LineFix.applyToLines_eq]
  refine applyAll_induction (P := fun s => '\r' ∉ s) h ?_ ?_ ?_
  · exact fun s hs hmem => hs (trimLines_subset hmem)
  · intro n s hs hmem
    rcases mem_expandTabs hmem with hmem | hmem
    · exact absurd hmem (by decide)
    · exact hs hmem.1
  · split
    · rw [endWithEol, List.mem_append, not_or]
      exact ⟨fun hmem => hs (mem_of_mem_dropEndWhile hmem), by decide⟩
    · exact hs

def fixedBytes (f : Fixer) (fixes : List LineFix) (e : Eol) (s : Text) : Bytes :=
  encode (writeNewlines e.terminator.toList (f.fixText fixes s))

/-- The text of a fixed file is the text that was written. -/
theorem decode_fixedBytes (h : f.lineFixes = .ok fixes) (e : Eol) (hs : '\r' ∉ s) :
    ReadMode.text.decode (f.fixedBytes fixes e s) = .ok (f.fixText fixes s) := by
  rw [ReadMode.decode, fixedBytes, decodeUtf8_encode]
  change Except.ok (unifyNewlines _) = _
  rw [unifyNewlines_writeNewlines e (cr_notMem_fixText h hs)]

/-- Reading a fixed file and fixing it again gives the same bytes. -/
theorem fixedBytes_fixText (h : f.lineFixes = .ok fixes) (e : Eol) (s : Text) :
    f.fixedBytes fixes e (f.fixText fixes s) = f.fixedBytes fixes e s := by
  rw [fixedBytes, fixText_idempotent h, fixedBytes]

end Fixer

end SourceTidy
