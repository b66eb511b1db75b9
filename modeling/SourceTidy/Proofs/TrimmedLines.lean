import SourceTidy.Proofs.FixedText
import SourceTidy.Proofs.PlainPath

/-!
# Lines fixed one by one

The fixes of lines do to each line of a text what they do to the text as a whole. Blanks at the ends of lines
are what a regular expression matches when it is tried from the left, and each line loses its own.
-/

namespace SourceTidy

open Text SourceTidy.Fix

variable {s : Text}

namespace Fix

lemma headD_lf_iff : s.headD '\n' = '\n' ↔ s = [] ∨ s.head? = some '\n' := by
  cases s with
  | nil => simp
  | cons c s => simp

lemma trimLines_append (hs : '\n' ∉ s) {r : Text} (hr : r.headD '\n' = '\n') :
    trimLines (s ++ r) = dropEndWhile isBlank s ++ trimLines r := by
  induction s with
  | nil => rfl
  | cons c s ih =>
    rw [List.mem_cons, not_or] at hs
    have hrest : (trimLines r).headD '\n' = '\n' := by
      cases r with
      | nil => rfl
      | cons a r => rw [show a = '\n' from hr, trimLines_cons_keep (by simp [isBlank])]; rfl
    rw [List.cons_append, dropEndWhile]
    cases hd : dropEndWhile isBlank s with
    | nil =>
      rw [hd, List.nil_append] at ih
      cases hc : isBlank c with
      | true => rw [trimLines_cons_of_blank hc (by rwa [ih hs.2, ← headD_lf_iff]), ih hs.2]; rfl
      | false => rw [trimLines_cons_keep (by simp [hc]), ih hs.2]; rfl
    | cons d t =>
      have hd' : d ≠ '\n' := by
        rintro rfl
        exact hs.2 (mem_of_mem_dropEndWhile (p := isBlank) (by rw [hd]; exact List.mem_cons_self))
      rw [hd] at ih
      rw [trimLines_cons_keep fun _ => by simp [ih hs.2, hd'], ih hs.2]
      rfl

lemma trimLines_eq_intercalate (s : Text) :
    trimLines s = ['\n'].intercalate ((splitAt '\n' s).map (dropEndWhile isBlank)) := by
  induction s using lines_induction with
  | line s hs =>
    have := trimLines_append hs (r := []) rfl
    rw [Path.splitAt_of_notMem hs]
    simpa [trimLines] using this
  | more s r hs ih =>
    rw [trimLines_append hs rfl, trimLines_cons_keep (by simp [isBlank]), ih, Path.splitAt_append_cons,
      Path.splitAt_of_notMem hs]
    cases hpieces : splitAt '\n' r with
    | nil => exact absurd hpieces (Path.splitAt_ne_nil _ _)
    | cons piece pieces => simp [List.intercalate_cons_cons]

/-- What the blanks in front of it lead to decides whether the blanks of a text go. -/
lemma trimLines_dropWhile (s : Text) :
    ((trimLines s).headD '\n' = '\n' ↔ (s.dropWhile isBlank).headD '\n' = '\n') ∧
      ((s.dropWhile isBlank).headD '\n' = '\n' → trimLines s = trimLines (s.dropWhile isBlank)) := by
  induction s with
  | nil => exact ⟨.rfl, fun _ => rfl⟩
  | cons c s ih =>
    cases hc : isBlank c with
    | false =>
      rw [List.dropWhile_cons_of_neg (by simp [hc]), trimLines_cons_keep (by simp [hc])]
      exact ⟨.rfl, fun _ => rfl⟩
    | true =>
      rw [List.dropWhile_cons_of_pos hc]
      by_cases h : (trimLines s).headD '\n' = '\n'
      · rw [trimLines_cons_of_blank hc (headD_lf_iff.mp h)]
        exact ih
      · have hne : c ≠ '\n' := by rintro rfl; cases hc
        rw [trimLines_cons_keep fun _ => not_or.mp (mt headD_lf_iff.mpr h)]
        exact ⟨iff_of_false hne (mt ih.1.mpr h), fun h' => absurd (ih.1.mpr h') h⟩

end Fix

/-- The place after the next character. -/
def Cursor.past (c : Cursor) (a : Char) (s : Text) : Cursor :=
  { c with before := a :: c.before, after := s, position := c.position + 1 }

namespace Regex

/-- What is left behind a place when the matches of an expression are struck out from the left. At each place
the first way to match something is taken. The number bounds the steps. -/
def strikeFrom (r : Regex) : Nat → Cursor → Text
  | 0, c => c.after
  | fuel + 1, c =>
    match run r c fun stop => if c.position < stop.position then some stop else none with
    | some stop => strikeFrom r fuel { stop with groups := [] }
    | none =>
      match c.after with
      | [] => []
      | a :: s => a :: strikeFrom r fuel (c.past a s)

def strike (r : Regex) (s : Text) : Text := strikeFrom r s.length (Cursor.ofText s)

def blank : Regex := set .exact false [.code 0x20, .code 0x09]

def blanks : Regex := loop 1 none .most blank

/-- Blanks before a line feed, or else at the end. -/
def lineEnd : Regex :=
  alt (seq blanks (ahead false (code .exact 0x0a))) (seq blanks (anchor (.stop false)))

lemma ofText_lineEnd : ofText true "[ \t]+(?=\n)|[ \t]+$".toList = .ok lineEnd := by
  have h : (ofText true "[ \t]+(?=\n)|[ \t]+$".toList).toOption = some lineEnd := by decide +kernel
  cases hr : ofText true "[ \t]+(?=\n)|[ \t]+$".toList with
  | error e => rw [hr] at h; cases h
  | ok r => rw [hr] at h; cases h; rfl

variable {c : Cursor} {k : Cursor → Option Cursor} {a : Char}

lemma toNat_beq (a b : Char) : (a.toNat == b.toNat) = (a == b) := by
  rw [Bool.eq_iff_iff, beq_iff_eq, beq_iff_eq, Char.toNat_inj]

lemma run_blank_of_nil (h : c.after = []) : run blank c k = none := by
  simp [blank, run, Cursor.pass, h]

lemma run_blank_cons (h : c.after = a :: s) : run blank c k = if isBlank a then k (c.past a s) else none := by
  have haccepts : accepts .exact false [.code 0x20, .code 0x09] a = isBlank a := by
    change ((a.toNat == ' '.toNat || (a.toNat == '\t'.toNat || false)) != false) = _
    rw [toNat_beq, toNat_beq, Bool.bne_false, Bool.or_false]
    rfl
  rw [blank, run, Cursor.pass, h]
  simp only [haccepts]
  split
  · rfl
  · rfl

/-- A repetition of blanks takes all of them, if what follows never begins with one. -/
lemma repeatMost_blank (hk : ∀ {d a t}, d.after = a :: t → isBlank a = true → k d = none) (fuel : Nat)
    (last : Option Nat) (hfuel : s.length < fuel) (hs : c.after = s) (hlast : ∀ n ∈ last, n < c.position) :
    ∃ d, repeatMost (run blank) fuel 0 none last c k = k d ∧ d.after = s.dropWhile isBlank ∧
      d.size = c.size ∧ c.position ≤ d.position := by
  induction s generalizing fuel last c with
  | nil =>
    obtain ⟨fuel, rfl⟩ := Nat.exists_eq_add_of_lt hfuel
    refine ⟨c, ?_, hs, rfl, Nat.le_refl _⟩
    rw [repeatMost, run_blank_of_nil hs, ite_self]
  | cons a s ih =>
    obtain ⟨fuel, rfl⟩ := Nat.exists_eq_add_of_lt hfuel
    have hnew : (last == some c.position) = false :=
      beq_false_of_ne fun h => absurd (hlast _ h) (Nat.lt_irrefl _)
    rw [repeatMost, hnew, run_blank_cons hs]
    cases ha : isBlank a with
    | false => exact ⟨c, rfl, by simp [hs, ha], rfl, Nat.le_refl _⟩
    | true =>
      obtain ⟨d, hrun, hafter, hsize, hposition⟩ := ih (c := c.past a s) ((a :: s).length + fuel)
        (some c.position) (by simp; omega) rfl (by rintro n ⟨⟩; exact Nat.lt_succ_self _)
      refine ⟨d, ?_, by simp [hafter, ha], hsize, Nat.le_of_lt hposition⟩
      simp only [Option.map_none, hrun]
      cases hd : k d with
      | none => exact hk hs ha
      | some e => rfl

/-- After blanks, what follows all of them decides. -/
lemma run_seq_blanks {r : Regex} {p : Text → Prop} [DecidablePred p]
    (hr : ∀ d, run r d k = if p d.after then k d else none) (hp : ∀ s, p s → s.headD '\n' = '\n')
    (hk : ∀ d, c.position < d.position → k d = some d) (hs : c.after = a :: s) (ha : isBlank a = true)
    (hsize : s.length < c.size) :
    ∃ d, run (seq blanks r) c k = (if p (s.dropWhile isBlank) then some d else none) ∧
      d.after = s.dropWhile isBlank ∧ d.size = c.size := by
  obtain ⟨d, hrun, hafter, hsame, hposition⟩ := repeatMost_blank (c := c.past a s) (k := fun d => run r d k)
    (fun hd hb => by rw [hr, hd, if_neg fun h => by cases hp _ h; cases hb]) (c.size + 3) none
    (Nat.lt_add_right 3 hsize) rfl nofun
  refine ⟨d, ?_, hafter, hsame⟩
  rw [run, blanks, run, Nat.add_assoc, Nat.add_comm 1, repeatMost, run_blank_cons hs, ha, if_pos rfl,
    ← hafter, ← hk d hposition, ← hr]
  exact hrun

lemma run_blanks_eq_none (h : ∀ a ∈ c.after.head?, isBlank a = false) : run blanks c k = none := by
  rw [blanks, run, Nat.add_assoc, Nat.add_comm 1, repeatMost]
  cases hs : c.after with
  | nil => exact run_blank_of_nil hs
  | cons a s =>
    rw [run_blank_cons hs, h a (by simp [hs])]
    rfl

lemma run_beforeLf (c : Cursor) :
    run (ahead false (code .exact 0x0a)) c k = if c.after.head? = some '\n' then k c else none := by
  have hsame : ∀ a : Char, CaseRule.same .exact 0x0a a = (a == '\n') := fun a => toNat_beq a '\n'
  rw [run, run, Cursor.pass]
  cases hs : c.after with
  | nil => rfl
  | cons a s =>
    by_cases ha : a = '\n'
    · simp [hsame, ha, look]
    · simp [hsame, ha, look]

lemma run_atEnd (c : Cursor) :
    run (anchor (.stop false)) c k = if c.after = [] ∨ c.after = ['\n'] then k c else none := by
  simp [run, Cursor.meets]

lemma run_lineEnd (hk : ∀ d, c.position < d.position → k d = some d) (hs : c.after = a :: s)
    (ha : isBlank a = true) (hsize : s.length < c.size) :
    ∃ d, run lineEnd c k = (if (s.dropWhile isBlank).headD '\n' = '\n' then some d else none) ∧
      d.after = s.dropWhile isBlank ∧ d.size = c.size := by
  obtain ⟨d, hd, hafter⟩ := run_seq_blanks (p := fun s => s.head? = some '\n') run_beforeLf
    (fun _ h => headD_lf_iff.mpr (.inr h)) hk hs ha hsize
  obtain ⟨e, he, hafter'⟩ := run_seq_blanks (p := fun s => s = [] ∨ s = ['\n']) run_atEnd
    (by rintro _ (rfl | rfl) <;> rfl) hk hs ha hsize
  rw [lineEnd, run, hd, he]
  by_cases hlf : (s.dropWhile isBlank).head? = some '\n'
  · exact ⟨d, by rw [if_pos hlf, if_pos (headD_lf_iff.mpr (.inr hlf))], hafter⟩
  · refine ⟨e, ?_, hafter'⟩
    have hone : s.dropWhile isBlank ≠ ['\n'] := fun h => hlf (by rw [h]; rfl)
    simp only [headD_lf_iff, hlf, hone, or_false, if_false]

lemma run_lineEnd_eq_none (h : ∀ a ∈ c.after.head?, isBlank a = false) : run lineEnd c k = none := by
  simp only [lineEnd, run, run_blanks_eq_none h]

/-- What is struck out is what trimming takes away, whatever stands before the place. -/
lemma strikeFrom_lineEnd {fuel : Nat} (hfuel : c.after.length ≤ fuel) (hsize : c.after.length ≤ c.size) :
    strikeFrom lineEnd fuel c = trimLines c.after := by
  induction fuel generalizing c with
  | zero =>
    rw [strikeFrom, List.eq_nil_of_length_eq_zero (Nat.le_zero.mp hfuel)]
    rfl
  | succ fuel ih =>
    rw [strikeFrom]
    cases hs : c.after with
    | nil =>
      rw [run_lineEnd_eq_none (by simp [hs])]
      rfl
    | cons a s =>
      rw [hs] at hfuel hsize
      have hkept : strikeFrom lineEnd fuel (c.past a s) = trimLines s :=
        ih (Nat.le_of_succ_le_succ hfuel) (Nat.le_of_lt hsize)
      cases ha : isBlank a with
      | false =>
        rw [run_lineEnd_eq_none (by simp [hs, ha]), trimLines_cons_keep (by simp [ha]), ← hkept]
      | true =>
        obtain ⟨d, hrun, hafter, hsame⟩ := run_lineEnd
          (k := fun d => if c.position < d.position then some d else none) (fun _ hd => if_pos hd) hs ha hsize
        obtain ⟨hends, htrim⟩ := trimLines_dropWhile s
        rw [hrun]
        by_cases h : (s.dropWhile isBlank).headD '\n' = '\n'
        · have hle : d.after.length ≤ s.length := hafter ▸ (List.dropWhile_sublist isBlank).length_le
          have hstruck : strikeFrom lineEnd fuel { d with groups := [] } = trimLines d.after :=
            ih (Nat.le_trans hle (Nat.le_of_succ_le_succ hfuel)) (hsame ▸ Nat.le_trans hle (Nat.le_of_lt hsize))
          rw [if_pos h, trimLines_cons_of_blank ha (headD_lf_iff.mp (hends.mpr h)), htrim h, ← hafter, ← hstruck]
        · rw [if_neg h, trimLines_cons_keep fun _ => not_or.mp (mt headD_lf_iff.mpr (mt hends.mp h)), ← hkept]

lemma strike_lineEnd (s : Text) : strike lineEnd s = trimLines s :=
  strikeFrom_lineEnd (Nat.le_refl _) (Nat.le_refl _)

end Regex

namespace Fixer

lemma lineFixes_ok_iff {f : Fixer} {n : Int} (hsize : f.tabSize = .int n) :
    (∃ fixes, f.lineFixes = .ok fixes) ↔ -countLimit ≤ n ∧ n < spaceLimit := by
  have hlimits : (0 : Int) < spaceLimit ∧ spaceLimit ≤ countLimit := by decide
  have hspaces : (∃ m, spaces (.int n) = .ok m) ↔ -countLimit ≤ n ∧ n < spaceLimit := by
    simp only [spaces, Bool.or_eq_true, decide_eq_true_eq]
    split_ifs
    · exact iff_of_false (by rintro ⟨_, ⟨⟩⟩) (by omega)
    · exact iff_of_false (by rintro ⟨_, ⟨⟩⟩) (by omega)
    · exact iff_of_true ⟨_, rfl⟩ (by omega)
  rw [← hspaces, lineFixes, hsize]
  by_cases hn : n = 0
  · subst hn
    exact iff_of_true ⟨_, rfl⟩ ⟨_, rfl⟩
  · rw [if_pos (show (Setting.int n).isOn = true from bne_iff_ne.mpr hn)]
    cases spaces (.int n) with
    | error e => exact iff_of_false (by rintro ⟨_, ⟨⟩⟩) (by rintro ⟨_, ⟨⟩⟩)
    | ok m => exact iff_of_true ⟨_, rfl⟩ ⟨_, rfl⟩

/-- Fixing each line of a text, cut behind its line feeds, gives what fixing the text as a whole gives. Lines
are trimmed to what the expression for their ends leaves when its matches are struck out: the pieces between
line feeds, without the blanks at their ends. -/
theorem lines_fixed_as_whole (f : Fixer) (s : Text) :
    (∀ fixes, f.lineFixes = .ok fixes →
      (lfLines s).flatMap (LineFix.applyAll fixes) = LineFix.applyAll fixes s) ∧
    (∀ n, f.tabSize = .int n →
      ((∃ fixes, f.lineFixes = .ok fixes) ↔ -countLimit ≤ n ∧ n < spaceLimit)) ∧
    LineFix.trim.apply s = ['\n'].intercalate ((splitAt '\n' s).map (dropEndWhile isBlank)) ∧
    ∃ r, Regex.ofText true "[ \t]+(?=\n)|[ \t]+$".toList = .ok r ∧ LineFix.trim.apply s = r.strike s :=
  ⟨fun fixes _ => LineFix.applyToLines_eq fixes s, fun _ => lineFixes_ok_iff, trimLines_eq_intercalate s,
    Regex.lineEnd, Regex.ofText_lineEnd, (Regex.strike_lineEnd s).symm⟩

/-- With two sizes of tabs, on lines that are blank, end in mixed blanks or lack their line feed. -/
theorem lines_fixed_as_whole_mixed :
    let f : Fixer := { tabSize := .int 2 }
    let s := "\ta \t\n\t \nb\t \tc \t".toList
    (lfLines s).flatMap (LineFix.applyAll [.trim, .tabs 2]) = "  a\n\nb     c".toList ∧
      (-countLimit ≤ (-1 : Int) ∧ (-1 : Int) < spaceLimit) ∧
      ∃ fixes, ({ f with tabSize := .int (-1) } : Fixer).lineFixes = .ok fixes := by
  intro f s
  have hlines := (lines_fixed_as_whole f s).1 [.trim, .tabs 2] rfl
  have hfixes := (lines_fixed_as_whole { f with tabSize := .int (-1) } s).2.1 (-1) rfl
  have hlimits : -countLimit ≤ (-1 : Int) ∧ (-1 : Int) < spaceLimit := by decide
  exact ⟨hlines.trans (by decide), hlimits, hfixes.mpr hlimits⟩

end Fixer

end SourceTidy
