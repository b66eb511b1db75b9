import SourceTidy.Proofs.FixedText

/-!
# Code that fixes keep

Fixes add and remove white space only, so that the code of a file is the same before and after. The fixes
of lines keep the line terminators too, and with them every line except a last one that has none and of
which nothing is left.
-/

namespace SourceTidy

open Text SourceTidy.Fix LineFix

namespace Text

def code (s : Text) : Text := s.filter (!isSpace ·)

/-- The lines of a text as it stands in a file, each with its line feed. Every terminator is read as one. -/
def fileLines (s : Text) : List Text := lfLines (unifyNewlines s)

lemma filter_flatMap_eq {q : Char → Bool} {g : Char → Text} (h : ∀ c, (g c).filter q = [c].filter q)
    (s : Text) : (s.flatMap g).filter q = s.filter q := by
  rw [List.filter_flatMap, funext h, ← List.filter_flatMap, List.flatMap_singleton']

lemma code_unifyNewlines (s : Text) : code (unifyNewlines s) = code s := by
  have hcr : isSpace '\r' = true := by decide +kernel
  unfold code
  fun_induction unifyNewlines s with
  | case1 => rfl
  | case2 s ih => simp [ih, hcr, isSpace_lf]
  | case3 c s _ ih =>
    by_cases hc : c = '\r'
    · simp [ih, hc, hcr, isSpace_lf]
    · simp [ih, hc, List.filter_cons]

lemma code_writeNewlines (e : Eol) (s : Text) : code (writeNewlines e.terminator.toList s) = code s := by
  refine filter_flatMap_eq (fun c => ?_) s
  split
  · next hc =>
    rw [eq_of_beq hc]
    cases e <;> decide +kernel
  · rfl

end Text

namespace Fix

variable {q : Char → Bool} (hq : ∀ c, isBlank c = true → q c = false)

include hq

lemma filter_trimLines (s : Text) : (trimLines s).filter q = s.filter q := by
  induction s with
  | nil => rfl
  | cons c s ih =>
    by_cases hc : isBlank c = true
    · rcases trimLines_cons_cases c s with h | h <;> simp [h, hq c hc, ih]
    · rw [trimLines_cons_keep fun h => absurd h hc, List.filter_cons, List.filter_cons, ih]

lemma filter_expandTabs (n : Nat) (s : Text) : (expandTabs n s).filter q = s.filter q := by
  refine filter_flatMap_eq (fun c => ?_) s
  split
  · next hc => simp [eq_of_beq hc, hq ' ' rfl, hq '\t' rfl]
  · rfl

omit hq

lemma filter_dropEndWhile (s : Text) :
    (dropEndWhile isSpace s).filter (!Text.isSpace ·) = s.filter (!Text.isSpace ·) := by
  induction s using List.reverseRecOn with
  | nil => rfl
  | append_singleton s c ih =>
    rw [dropEndWhile_append_singleton]
    split
    · next hc => simp [ih, hc]
    · rfl

lemma trimLines_eq_nil_iff (s : Text) : trimLines s = [] ↔ ∀ c ∈ s, isBlank c = true := by
  induction s with
  | nil => simp [trimLines]
  | cons c s ih =>
    rw [List.forall_mem_cons, ← ih, trimLines]
    cases isBlank c <;> by_cases hs : trimLines s = [] <;> simp [hs]
    split <;> simp [hs]

lemma expandTabs_eq_nil_iff {n : Nat} {s : Text} : expandTabs n s = [] ↔ ∀ c ∈ s, c = '\t' ∧ n = 0 := by
  rw [expandTabs, List.flatMap_eq_nil_iff]
  refine forall₂_congr fun c _ => ?_
  by_cases hc : c = '\t' <;> simp [hc]

end Fix

namespace Fixer

variable {f : Fixer} {fixes : List LineFix} {e : Eol} {n : Int}

lemma filter_applyAll (h : f.lineFixes = .ok fixes) {q : Char → Bool}
    (hq : ∀ c, isBlank c = true → q c = false) (s : Text) : (applyAll fixes s).filter q = s.filter q :=
  applyAll_induction (P := fun t => t.filter q = s.filter q) h
    (fun t ht => (filter_trimLines hq t).trans ht)
    (fun k t ht => (filter_expandTabs hq k t).trans ht) rfl

lemma code_fixText (h : f.lineFixes = .ok fixes) (s : Text) : code (f.fixText fixes s) = code s := by
  have hblank : ∀ c, isBlank c = true → (!Text.isSpace c) = false := by
    intro c hc
    by_contra hspace
    rw [not_blank_of_not_space (by simpa using hspace)] at hc
    cases hc
  rw [fixText, applyToLines_eq, code, filter_applyAll h hblank]
  split
  · simp [endWithEol, trimEnd, filter_dropEndWhile, isSpace_lf, code]
  · rfl

lemma count_lf_applyAll (h : f.lineFixes = .ok fixes) (s : Text) :
    (applyAll fixes s).count '\n' = s.count '\n' := by
  have hblank : ∀ c, isBlank c = true → (c == '\n') = false := by
    intro c hc
    rw [beq_eq_false_iff_ne]
    rintro rfl
    cases hc
  rw [List.count_eq_length_filter, filter_applyAll h hblank, List.count_eq_length_filter]

lemma lf_notMem_applyAll (h : f.lineFixes = .ok fixes) {s : Text} (hs : '\n' ∉ s) :
    '\n' ∉ applyAll fixes s := by
  rw [← List.count_eq_zero, count_lf_applyAll h, List.count_eq_zero]
  exact hs

/-- Whether the fixes of lines leave nothing of a line: it is made of blanks that are removed at its end, or
of tabs that are replaced by nothing. -/
def erases (f : Fixer) (tabSize : Int) (line : Text) : Bool :=
  f.trailing.isOn && line.all isBlank || decide (tabSize < 0) && line.all (· == '\t')

lemma lineFixes_of_int (h : f.lineFixes = .ok fixes) (htab : f.tabSize = .int n) :
    fixes = (if f.trailing.isOn then [LineFix.trim] else []) ++ (if n = 0 then [] else [tabs n.toNat]) := by
  have hon : f.tabSize.isOn = (n != 0) := by rw [htab]; rfl
  unfold lineFixes at h
  rw [hon, htab] at h
  by_cases hn : n = 0
  · subst hn
    cases h
    rfl
  · rw [if_pos (by simpa using hn), spaces] at h
    rw [if_neg hn]
    split at h
    · cases h
    split at h <;> cases h
    rfl

lemma applyAll_eq_nil_iff (h : f.lineFixes = .ok fixes) (htab : f.tabSize = .int n) {s : Text} (hs : s ≠ [])
    (hlf : '\n' ∉ s) : LineFix.applyAll fixes s = [] ↔ f.erases n s = true := by
  obtain ⟨c, hc⟩ := List.exists_mem_of_ne_nil s hs
  have hneg : n ≠ 0 → (n.toNat = 0 ↔ n < 0) := by omega
  have htrim : ∀ k, expandTabs k (trimLines s) = [] ↔ trimLines s = [] := by
    refine fun k => ⟨fun hnil => by_contra fun hne => ?_, fun hnil => by rw [hnil]; rfl⟩
    refine (expandTabs_head (trimmed_trimLines s) hne fun hhead => ?_).1 hnil
    exact hlf (trimLines_subset (List.mem_of_head? hhead))
  have htab_blank : (∀ c ∈ s, c = '\t') → ∀ c ∈ s, isBlank c = true :=
    fun htabs c hc => htabs c hc ▸ rfl
  obtain rfl := lineFixes_of_int h htab
  simp only [erases, Bool.or_eq_true, Bool.and_eq_true, List.all_eq_true, decide_eq_true_iff, beq_iff_eq]
  cases f.trailing.isOn <;> by_cases hn : n = 0 <;>
    simp only [hn, applyAll, apply, List.foldl_cons, List.foldl_nil, List.nil_append,
      List.append_nil, List.cons_append, if_true, if_false, Bool.false_eq_true]
  · simp [hs]
  · grind [Fix.expandTabs_eq_nil_iff]
  · grind [Fix.trimLines_eq_nil_iff]
  · grind [Fix.trimLines_eq_nil_iff]

/-- The fixes of lines keep the lines, except a last one that they erase. -/
lemma length_lfLines_applyAll (h : f.lineFixes = .ok fixes) (htab : f.tabSize = .int n) (s : Text) :
    (lfLines (applyAll fixes s)).length =
      (lfLines s).length - if (lfLines s).getLast?.any (f.erases n) then 1 else 0 := by
  induction s using lines_induction with
  | line s hline =>
    by_cases hs : s = []
    · rw [hs, applyAll_nil]
      rfl
    have hiff := applyAll_eq_nil_iff h htab hs hline
    rw [lfLines_of_notMem hline hs]
    by_cases hnil : applyAll fixes s = []
    · simp [hnil, hiff.mp hnil, lfLines]
    · simp [lfLines_of_notMem (lf_notMem_applyAll h hline) hnil, mt hiff.mpr hnil]
  | more s r hline ih =>
    obtain ⟨t, ht, htr⟩ := applyAll_append_lf fixes s r
    have hfree : '\n' ∉ t := by
      have hcount := count_lf_applyAll h (s ++ ['\n'])
      rw [ht, List.count_append, List.count_append, List.count_eq_zero_of_not_mem hline] at hcount
      exact List.count_eq_zero.mp (by omega)
    have hkept : f.erases n (s ++ ['\n']) = false := by simp [erases, isBlank]
    rw [htr, lfLines_append_lf hfree, lfLines_append_lf hline, List.length_cons, List.length_cons, ih,
      List.getLast?_cons]
    cases hlast : (lfLines r).getLast? with
    | none => simp [hkept]
    | some l =>
      have hpos : 0 < (lfLines r).length := List.length_pos_of_mem (List.mem_of_getLast? hlast)
      simp only [Option.getD_some, Option.any_some]
      split <;> omega

lemma fixSource_without_formatter (hformat : f.formatter.isOn = false) (heol : f.eol = .eol e)
    (src : Source) (s : Text) :
    f.fixSource fixes src s = (do
      Session.log .debug ("fixing " ++ quote src.path)
      Session.writeFile src.path (f.fixedBytes fixes e s)
      if f.mode.isOn then fixMode src) := by
  have hwrite : f.writeText src.path (f.fixText fixes s) =
      Session.writeFile src.path (f.fixedBytes fixes e s) := by
    rw [writeText, heol]
    cases e <;> rfl
  rw [fixSource, hformat, Bool.false_and]
  simp only [Bool.false_eq_true, if_false, pure_bind, hwrite]

/-- A fixer without a formatting program loses no code: what it writes for a file in UTF-8 is UTF-8 again,
with the same characters but for white space. Unless it sees to the end of the file, it also keeps the
number of line terminators, and the number of lines except for a last line of which it leaves nothing. -/
theorem fixSource_keeps_code {data : Bytes} {x : Text} (hfixes : f.lineFixes = .ok fixes)
    (htab : f.tabSize = .int n) (hformat : f.formatter.isOn = false) (heol : f.eol = .eol e)
    (hdata : Text.decodeUtf8 data = .ok x) :
    ∃ s new y, ReadMode.text.decode data = .ok s ∧
      (∀ src, f.fixSource fixes src s = (do
        Session.log .debug ("fixing " ++ Text.quote src.path)
        Session.writeFile src.path new
        if f.mode.isOn then fixMode src)) ∧
      Text.decodeUtf8 new = .ok y ∧ Text.code y = Text.code x ∧
      (f.finalEol.isOn = false →
        (Text.unifyNewlines y).count '\n' = (Text.unifyNewlines x).count '\n' ∧
        (Text.fileLines y).length = (Text.fileLines x).length -
          if (Text.fileLines x).getLast?.any (f.erases n) then 1 else 0) := by
  have hcr := Text.cr_notMem_unifyNewlines x
  refine ⟨Text.unifyNewlines x, f.fixedBytes fixes e (Text.unifyNewlines x),
    Text.writeNewlines e.terminator.toList (f.fixText fixes (Text.unifyNewlines x)), ?_,
    fun src => fixSource_without_formatter hformat heol src _, Text.decodeUtf8_encode _, ?_, fun hend => ?_⟩
  · rw [ReadMode.decode, hdata]
    rfl
  · rw [Text.code_writeNewlines, code_fixText hfixes, Text.code_unifyNewlines]
  · have hfix : f.fixText fixes (Text.unifyNewlines x) = LineFix.applyAll fixes (Text.unifyNewlines x) := by
      rw [fixText, hend, LineFix.applyToLines_eq]
      rfl
    unfold Text.fileLines
    rw [Text.unifyNewlines_writeNewlines e (cr_notMem_fixText hfixes hcr), hfix]
    exact ⟨count_lf_applyAll hfixes _, length_lfLines_applyAll hfixes htab _⟩

/-- A lone carriage return is read as a line end, blanks go before it, and tabs are replaced by nothing. -/
theorem fixSource_keeps_code_without_tabs :
    let f : Fixer := { tabSize := .int (-2), finalEol := .flag false, eol := .eol .win }
    f.lineFixes = .ok [.trim, .tabs 0] ∧
      ∃ s new y, ReadMode.text.decode (Text.encode "a\tb \t\r\tc".toList) = .ok s ∧
        (∀ src, f.fixSource [.trim, .tabs 0] src s = (do
          Session.log .debug ("fixing " ++ Text.quote src.path)
          Session.writeFile src.path new
          fixMode src)) ∧
        Text.decodeUtf8 new = .ok y ∧ Text.code y = "abc".toList ∧ (Text.fileLines y).length = 2 := by
  intro f
  have hfixes : f.lineFixes = .ok [.trim, .tabs 0] := rfl
  obtain ⟨s, new, y, hs, hrun, hy, hcode, hlines⟩ := fixSource_keeps_code (n := -2) (e := .win) hfixes rfl rfl
    rfl (Text.decodeUtf8_encode "a\tb \t\r\tc".toList)
  exact ⟨hfixes, s, new, y, hs, hrun, hy, hcode.trans (by decide +kernel), (hlines rfl).2⟩

/-- A last line of blanks without a line feed is no line any more when its blanks are removed. -/
theorem fixSource_drops_blank_line :
    let f : Fixer := { finalEol := .flag false }
    f.lineFixes = .ok [.trim, .tabs 4] ∧ Text.decodeUtf8 [0x78, 0x0a, 0x20] = .ok ['x', '\n', ' '] ∧
      (∀ src, f.fixSource [.trim, .tabs 4] src ['x', '\n', ' '] = (do
        Session.log .debug ("fixing " ++ Text.quote src.path)
        Session.writeFile src.path [0x78, 0x0a]
        fixMode src)) ∧
      Text.decodeUtf8 [0x78, 0x0a] = .ok ['x', '\n'] ∧
      (Text.fileLines ['x', '\n', ' ']).length = 2 ∧ (Text.fileLines ['x', '\n']).length = 1 := by
  intro f
  have hnew : f.fixedBytes [.trim, .tabs 4] .native ['x', '\n', ' '] = [0x78, 0x0a] := by decide +kernel
  exact ⟨rfl, rfl, fun src => hnew ▸ fixSource_without_formatter rfl rfl src _, rfl, rfl, rfl⟩

end Fixer

end SourceTidy
