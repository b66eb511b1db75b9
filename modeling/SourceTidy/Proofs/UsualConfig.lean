import Mathlib.Algebra.GroupWithZero.Nat
import Mathlib.Data.List.TakeWhile
import SourceTidy.Proofs.IniRoundTrip
import SourceTidy.Proofs.ProgramRun

/-!
# The usual configuration

The configuration that the program prints on demand says for every setting what holds without a
configuration too. Its text can be read back, so the options that it gives to a command are known.
-/

namespace SourceTidy

open Text Ini

variable {c : Char} {s : Text}

namespace Text

lemma digitValue?_of_isDigit (h : c.isDigit = true) : digitValue? c = some (c.toNat - '0'.toNat) := by
  have hlast : c.toNat ≤ 57 := (Char.isDigit_iff_toNat.mp h).2
  have hascii : c.toNat < 0x80 := by omega
  rw [digitValue?, if_pos hascii, if_pos h]
  rfl

lemma isDigit_of_mem_toDigits {n : Nat} (h : c ∈ Nat.toDigits 10 n) : c.isDigit = true :=
  Nat.isDigit_of_mem_toDigits (by decide) (by decide) h

lemma digitsValue_toDigits (n : Nat) : digitsValue (Nat.toDigits 10 n) = n := by
  have hvalue : ∀ s : Text, (∀ c ∈ s, c.isDigit = true) → ∀ m,
      s.foldl (fun n c => n * 10 + (digitValue? c).getD 0) m = Nat.ofDigitChars 10 s m := by
    intro s
    induction s with
    | nil => exact fun _ _ => rfl
    | cons c s ih =>
      intro hs m
      obtain ⟨hc, hs⟩ := List.forall_mem_cons.mp hs
      rw [List.foldl_cons, digitValue?_of_isDigit hc, ih hs, Nat.ofDigitChars_cons, Nat.mul_comm]
      rfl
  rw [digitsValue, hvalue _ fun c => isDigit_of_mem_toDigits, Nat.ofDigitChars_ten_toDigits]

lemma separatedWell_of_notMem (h : '_' ∉ s) : separatedWell true s = true := by
  induction s with
  | nil => rfl
  | cons c s ih =>
    obtain ⟨hc, hs⟩ := not_or.mp (mt List.mem_cons.mpr h)
    rw [separatedWell, if_neg (by simpa using Ne.symm hc), ih hs]

lemma readNatural_toDigits (n : Nat) : readNatural (Nat.toDigits 10 n) =
    if n < 10 ^ digitLimit then .ok n else .error (.tooLong (Nat.toDigits 10 n).length) := by
  have hdigit : ∀ c ∈ Nat.toDigits 10 n, isDecimal c = true := by
    intro c hc
    rw [isDecimal, digitValue?_of_isDigit (isDigit_of_mem_toDigits hc)]
    rfl
  have hbar : '_' ∉ Nat.toDigits 10 n := fun hmem => by cases isDigit_of_mem_toDigits hmem
  have hall : ∀ c ∈ Nat.toDigits 10 n, (isDecimal c || c == '_') = true := by
    intro c hc
    rw [hdigit c hc, Bool.true_or]
  have htake : (Nat.toDigits 10 n).takeWhile (fun c => isDecimal c || c == '_') =
      Nat.toDigits 10 n := List.takeWhile_eq_self_iff.mpr hall
  have hdrop : (Nat.toDigits 10 n).dropWhile (fun c => isDecimal c || c == '_') = [] :=
    List.dropWhile_eq_nil_iff.mpr hall
  have hfilter : (Nat.toDigits 10 n).filter (· != '_') = Nat.toDigits 10 n :=
    List.filter_eq_self.mpr fun c hc => by simpa using fun heq : c = '_' => hbar (heq ▸ hc)
  have hwell : separatedWell false (Nat.toDigits 10 n) = true := by
    obtain ⟨c, s, hs⟩ := List.exists_cons_of_ne_nil (Nat.toDigits_ne_nil (n := n) (b := 10))
    rw [hs] at hbar ⊢
    obtain ⟨hc, hrest⟩ := not_or.mp (mt List.mem_cons.mpr hbar)
    rw [separatedWell, if_neg (by simpa using Ne.symm hc), separatedWell_of_notMem hrest]
  have hlength : digitLimit < (Nat.toDigits 10 n).length ↔ ¬n < 10 ^ digitLimit := by
    rw [← Nat.length_toDigits_le_iff (by decide) (by decide), Nat.not_le]
  unfold readNatural
  dsimp only
  rw [htake, hfilter, hdrop, hwell, Bool.not_true, if_neg Bool.false_ne_true, digitsValue_toDigits]
  simp only [hlength, ite_not]
  rfl

lemma isIntegerSpace_of_isDigit (h : c.isDigit = true) : isIntegerSpace c = false := by
  have hfirst : 48 ≤ c.toNat := (Char.isDigit_iff_toNat.mp h).1
  have hlast : c.toNat ≤ 57 := (Char.isDigit_iff_toNat.mp h).2
  have hblank : (c == ' ') = false := by
    rw [beq_eq_false_iff_ne]
    rintro rfl
    cases h
  have hcontrol : ¬c.toNat ≤ 0x0d := by omega
  rw [isIntegerSpace, if_pos (by omega), hblank, decide_eq_false hcontrol, Bool.and_false]
  rfl

lemma readInteger_toString (n : Int) : readInteger (toString n).toList =
    if n.natAbs < 10 ^ digitLimit then .ok n
    else .error (.tooLong (Nat.toDigits 10 n.natAbs).length) := by
  cases n with
  | ofNat m =>
    have hdigits : (toString (Int.ofNat m)).toList = Nat.toDigits 10 m := Nat.toList_repr
    have hread := readNatural_toDigits m
    have hdigit : ∀ c ∈ Nat.toDigits 10 m, c.isDigit = true := fun c => isDigit_of_mem_toDigits
    obtain ⟨c, s, hs⟩ := List.exists_cons_of_ne_nil (Nat.toDigits_ne_nil (n := m) (b := 10))
    have hc : c.isDigit = true := hdigit c (hs ▸ List.mem_cons_self)
    rw [hdigits, Int.natAbs_ofNat', hs, readInteger,
      List.dropWhile_cons_of_neg (by simp [isIntegerSpace_of_isDigit hc])]
    split
    · next heq => rw [(List.cons.inj heq).1] at hc; cases hc
    · next heq => rw [(List.cons.inj heq).1] at hc; cases hc
    · rw [← hs, hread]; split <;> rfl
  | negSucc m =>
    have hdigits : (toString (Int.negSucc m)).toList = '-' :: Nat.toDigits 10 (m + 1) := by
      change ("-" ++ (m + 1).repr).toList = _
      rw [String.toList_append, Nat.toList_repr]
      rfl
    rw [hdigits, Int.natAbs_negSucc, readInteger, List.dropWhile_cons_of_neg (by decide)]
    split
    · next heq => rw [← (List.cons.inj heq).2, readNatural_toDigits]; split <;> rfl
    · next heq => cases (List.cons.inj heq).1
    · next hsign _ => exact absurd rfl (hsign _)

lemma isSpace_of_isDigit (h : c.isDigit = true) : isSpace c = false := by
  have hfirst : 48 ≤ c.toNat := (Char.isDigit_iff_toNat.mp h).1
  have hlast : c.toNat ≤ 57 := (Char.isDigit_iff_toNat.mp h).2
  rw [← Bool.not_eq_true]
  simp only [isSpace, inRanges, spaceRanges, List.any_toArray, List.any_cons, List.any_nil,
    Bool.or_eq_true, Bool.and_eq_true, decide_eq_true_eq, Bool.false_eq_true, or_false]
  omega

lemma mem_toString {n : Int} (h : c ∈ (toString n).toList) : c.isDigit = true ∨ c = '-' := by
  cases n with
  | ofNat m =>
    have hdigits : (toString (Int.ofNat m)).toList = Nat.toDigits 10 m := Nat.toList_repr
    rw [hdigits] at h
    exact .inl (isDigit_of_mem_toDigits h)
  | negSucc m =>
    change c ∈ ("-" ++ (m + 1).repr).toList at h
    rw [String.toList_append, Nat.toList_repr] at h
    rcases List.mem_append.mp h with h | h
    · exact .inr (List.mem_singleton.mp h)
    · exact .inl (isDigit_of_mem_toDigits h)

end Text

namespace Ini

variable {ini : Ini} {sections : List (String × IniSection)} {name : String}

lemma splitOn_percents (h : '%' ∉ s) : splitOn ['%', '%'] s = [s] := by
  unfold splitOn
  induction s with
  | nil => rfl
  | cons c s ih =>
    obtain ⟨hc, hs⟩ := not_or.mp (mt List.mem_cons.mpr h)
    have hafter : after? ['%', '%'] (c :: s) = none := if_neg (by simpa using hc)
    rw [splitOnFrom, hafter, if_neg (by decide), ih hs]

lemma bareValue_of_notMem (h : '%' ∉ s) : bareValue s.length s = s := by
  induction s with
  | nil => rfl
  | cons c s ih =>
    obtain ⟨hc, hs⟩ := not_or.mp (mt List.mem_cons.mpr h)
    change (if c != '%' then c :: bareValue s.length s else _) = c :: s
    rw [if_pos (by simpa using Ne.symm hc), ih hs]

lemma checkValue_of_notMem {value : String} (h : '%' ∉ value.toList) : checkValue value = .ok () := by
  have hbare : replaceAll ['%', '%'] [] value.toList = value.toList := by
    rw [replaceAll, splitOn_percents h]
    exact List.intercalate_singleton
  unfold checkValue
  dsimp only
  rw [hbare, bareValue_of_notMem h, if_neg (by simpa using h)]

lemma expandWith_of_notMem (h : '%' ∉ s) (sectionName : String) (nested : Text → Except IniFault Text) :
    expandWith ini sectionName name nested s.length s = .ok s := by
  induction s with
  | nil => rfl
  | cons c s ih =>
    obtain ⟨hc, hs⟩ := not_or.mp (mt List.mem_cons.mpr h)
    change (if c != '%' then return c :: (← expandWith ini sectionName name nested s.length s)
      else _) = Except.ok (c :: s)
    rw [if_pos (by simpa using Ne.symm hc), ih hs]
    rfl

lemma get_of_raw? {sectionName value : String} (hraw : ini.raw? sectionName name = some value)
    (h : '%' ∉ value.toList) : ini.get sectionName name = .ok value := by
  unfold get
  rw [hraw]
  change str <$> expandWith ini sectionName name _ value.toList.length value.toList = _
  rw [expandWith_of_notMem h]
  exact congrArg Except.ok String.ofList_toList

lemma set_last {options : IniSection} {o : String × String} (hname : PlainSection name)
    (hnew : name ∉ sections.map Prod.fst) (hlower : optionName o.1 = o.1) (hbare : '%' ∉ o.2.toList)
    (hoption : o.1 ∉ options.map Prod.fst) :
    set ⟨[], sections ++ [(name, options)]⟩ name o.1 o.2 =
      .ok ⟨[], sections ++ [(name, options ++ [o])]⟩ := by
  have hempty : name.isEmpty = false := by
    rw [← Bool.not_eq_true, String.isEmpty_iff]
    rintro rfl
    exact hname.2.1 rfl
  have hdefault : (name == defaultName) = false := by simpa using hname.1
  have hlookup : (sections ++ [(name, options)]).lookup name = some options := by
    rw [lookup_append_of_notMem hnew]
    simp
  have hput : putPair o.1 o.2 options = options ++ [o] := by
    have hnil := putPair_append hoption o.2 []
    rwa [List.append_nil] at hnil
  unfold set
  rw [checkValue_of_notMem hbare, hlower]
  dsimp only
  rw [hempty, hdefault, hlookup]
  dsimp only
  rw [hput, putPair_append hnew]
  simp [putPair]

lemma foldlM_set {options more : IniSection} (hname : PlainSection name)
    (hnew : name ∉ sections.map Prod.fst) (hlower : ∀ o ∈ more, optionName o.1 = o.1)
    (hbare : ∀ o ∈ more, '%' ∉ o.2.toList) (hnodup : ((options ++ more).map Prod.fst).Nodup) :
    more.foldlM (fun (ini : Ini) o => ini.set name o.1 o.2) ⟨[], sections ++ [(name, options)]⟩ =
      .ok ⟨[], sections ++ [(name, options ++ more)]⟩ := by
  induction more generalizing options with
  | nil => rw [List.append_nil]; rfl
  | cons o more ih =>
    obtain ⟨hlower₁, hlower⟩ := List.forall_mem_cons.mp hlower
    obtain ⟨hbare₁, hbare⟩ := List.forall_mem_cons.mp hbare
    rw [List.foldlM_cons, set_last hname hnew hlower₁ hbare₁ (fst_notMem_of_nodup hnodup),
      List.append_cons options o more]
    exact ih hlower hbare (by simpa using hnodup)

lemma loadSection_of_new {s : String × IniSection} (hs : WritableSection s)
    (hbare : ∀ o ∈ s.2, '%' ∉ o.2.toList) (hnew : s.1 ∉ sections.map Prod.fst) :
    loadSection ⟨[], sections⟩ s.1 s.2 = .ok ⟨[], sections ++ [s]⟩ := by
  have hdefault : (s.1 == defaultName) = false := by simpa using hs.name.1
  have hlookup : sections.lookup s.1 = none := by
    have hnone := lookup_append_of_notMem hnew []
    rwa [List.append_nil] at hnone
  unfold loadSection hasSection
  dsimp only
  rw [hdefault, hlookup]
  exact foldlM_set hs.name hnew (fun o ho => (hs.names o ho).1) hbare (by simpa using hs.nodup)

lemma load_of_new {more : List (String × IniSection)} (hmore : ∀ s ∈ more, WritableSection s)
    (hbare : ∀ s ∈ more, ∀ o ∈ s.2, '%' ∉ o.2.toList) (hnodup : ((sections ++ more).map Prod.fst).Nodup) :
    load ⟨[], sections⟩ more = .ok ⟨[], sections ++ more⟩ := by
  unfold load
  induction more generalizing sections with
  | nil => rw [List.append_nil]; rfl
  | cons s more ih =>
    obtain ⟨hs, hmore⟩ := List.forall_mem_cons.mp hmore
    obtain ⟨hbare₁, hbare⟩ := List.forall_mem_cons.mp hbare
    rw [List.foldlM_cons, loadSection_of_new hs hbare₁ (fst_notMem_of_nodup hnodup),
      List.append_cons sections s more]
    exact ih hmore hbare (by simpa using hnodup)

lemma plainValue_of_notSpace {value : String} (h : ∀ c ∈ value.toList, isSpace c = false) :
    PlainValue value := by
  refine ⟨fun c hc => ⟨?_, ?_⟩, ?_⟩
  · rintro rfl
    cases Fix.isSpace_lf.symm.trans (h _ hc)
  · rintro rfl
    cases isSpace_cr.symm.trans (h _ hc)
  · have hstart : value.toList.dropWhile isSpace = value.toList := by
      cases hs : value.toList with
      | nil => rfl
      | cons c s => exact List.dropWhile_cons_of_neg (by simp [h c (by simp [hs])])
    rw [trim, dropBothWhile, hstart]
    exact Fix.dropEndWhile_of_getLast? fun a ha => h a (List.mem_of_getLast? ha)

end Ini

namespace Config

def fixedSections : List (String × IniSection) := [
  ("logging", [("loglevel", "WARNING")]),
  ("path_patterns", [
    ("pattern_01", "*.[ch]"), ("pattern_02", "*.[ch]pp"), ("pattern_03", "*.[ch]xx"),
    ("pattern_04", "*.txt"), ("pattern_05", "*.cmake"), ("pattern_06", "*.sh"),
    ("pattern_07", "*.bash"), ("pattern_08", "*.bat"), ("pattern_09", "*.xsd"),
    ("pattern_10", "*.xml")]),
  ("skip_path_patterns", [("pattern_01", ".*")]),
  ("check", [
    ("failfast", "False"), ("check_tabs", "True"), ("check_eol", "True"), ("check_trailing", "True"),
    ("check_encoding", "True"), ("check_eol_at_eof", "True"), ("check_relative_include", "True"),
    ("check_copyright", "True"), ("check_mode", "True"), ("clang_format", "False"),
    ("maxlinelen", "0"), ("eol", "NATIVE"), ("encoding", "ascii")]),
  ("fix", [
    ("tabsize", "4"), ("eol", "NATIVE"), ("fix_trailing", "True"), ("fix_eof", "True"),
    ("fix_mode", "True"), ("clang_format", "False"), ("backup", "False")])]

/-- The section for the updater. The year zero is not written. -/
def updateSection (year : Int) : String × IniSection :=
  ("update-copyright", [("update", "True")] ++ (if year = 0 then [] else [("year", toString year)]) ++
    [("backup", "False")])

/-- The usual configuration. -/
def usualIni (year : Int) : Ini where
  sections := fixedSections ++ [updateSection year]

variable (year : Int)

lemma writable_fixedSections : ∀ s ∈ fixedSections, WritableSection s := by
  have hname : ∀ s ∈ fixedSections, PlainSection s.1 := by decide
  have hnames : ∀ s ∈ fixedSections, ∀ o ∈ s.2, PlainName o.1 := by decide +kernel
  have hvalues : ∀ s ∈ fixedSections, ∀ o ∈ s.2, PlainValue o.2 := by decide +kernel
  have hnodup : ∀ s ∈ fixedSections, (s.2.map Prod.fst).Nodup := by decide
  exact fun s hs => ⟨hname s hs, hnames s hs, hvalues s hs, hnodup s hs⟩

lemma plainValue_year : PlainValue (toString year) := by
  refine plainValue_of_notSpace fun c hc => ?_
  rcases mem_toString hc with hc | rfl
  · exact isSpace_of_isDigit hc
  · decide +kernel

lemma mem_updateSection {o : String × String} (h : o ∈ (updateSection year).2) :
    o ∈ [("update", "True"), ("backup", "False")] ∨ o = ("year", toString year) := by
  unfold updateSection at h
  split at h
  · exact .inl h
  · simp only [List.mem_append, List.mem_singleton] at h
    simp only [List.mem_cons, List.not_mem_nil, or_false]
    tauto

lemma writable_updateSection : WritableSection (updateSection year) := by
  have hnames : ∀ o ∈ (updateSection year).2, PlainName o.1 := by
    intro o ho
    have hname : o.1 ∈ ["update", "backup", "year"] := by
      rcases mem_updateSection year ho with ho | rfl
      · simp only [List.mem_cons, List.not_mem_nil, or_false] at ho
        rcases ho with rfl | rfl <;> simp
      · simp
    exact (by decide +kernel : ∀ name ∈ ["update", "backup", "year"], PlainName name) _ hname
  have hvalues : ∀ o ∈ (updateSection year).2, PlainValue o.2 := by
    intro o ho
    rcases mem_updateSection year ho with ho | rfl
    · exact (by decide +kernel :
        ∀ o ∈ [("update", "True"), ("backup", "False")], PlainValue o.2) o ho
    · exact plainValue_year year
  refine ⟨(by decide : PlainSection "update-copyright"), hnames, hvalues, ?_⟩
  unfold updateSection
  split
  · decide
  · exact (by decide : ["update", "year", "backup"].Nodup)

lemma writable_usualIni : (usualIni year).Writable where
  noDefaults := rfl
  sections := by
    intro s hs
    rcases List.mem_append.mp hs with hs | hs
    · exact writable_fixedSections s hs
    · rw [List.mem_singleton.mp hs]
      exact writable_updateSection year
  nodup := (by decide : ["logging", "path_patterns", "skip_path_patterns", "check", "fix",
    "update-copyright"].Nodup)

lemma percent_notMem_toString (n : Int) : '%' ∉ (toString n).toList := by
  intro hmem
  rcases mem_toString hmem with h | h <;> cases h

lemma percent_notMem_usualIni : ∀ s ∈ (usualIni year).sections, ∀ o ∈ s.2, '%' ∉ o.2.toList := by
  intro s hs o ho
  rcases List.mem_append.mp hs with hs | hs
  · exact (by decide : ∀ s ∈ fixedSections, ∀ o ∈ s.2, '%' ∉ o.2.toList) s hs o ho
  · rw [List.mem_singleton.mp hs] at ho
    rcases mem_updateSection year ho with ho | rfl
    · exact (by decide : ∀ o ∈ [("update", "True"), ("backup", "False")], '%' ∉ o.2.toList) o ho
    · exact percent_notMem_toString year

/-- The updater that is used without options. -/
def usualUpdater : Updater where
  year := .int year
  yearText := toString year

lemma written_usualUpdater : written (usualUpdater year).toOptions = (updateSection year).2 := by
  have hoptions : (usualUpdater year).toOptions = [("update", .flag true)] ++
      (if year != 0 then [("year", .int year)] else []) ++ [("backup", .flag false)] := rfl
  rw [hoptions, updateSection]
  by_cases h : year = 0
  · rw [if_pos h, if_neg (by simpa using h)]
    rfl
  · rw [if_neg h, if_pos (by simpa using h)]
    rfl

lemma addUsual_eq : addUsual year {} = .ok (usualIni year) := by
  have hlogging : (addSection {} "logging").mapError Fault.ini = .ok ⟨[], [("logging", [])]⟩ := rfl
  have hlevel : (set ⟨[], [("logging", [])]⟩ "logging" "loglevel" "WARNING").mapError Fault.ini =
      .ok ⟨[], fixedSections.take 1⟩ := rfl
  obtain ⟨patterns, hpatterns, hnames⟩ : ∃ patterns, ofPatterns Patterns.usual = .ok patterns ∧
      patterns.map (fun s => (s.1, written s.2)) = (fixedSections.drop 1).take 2 := ⟨_, rfl, rfl⟩
  obtain ⟨check, hcheck, hchecks⟩ : ∃ check, Checker.toOptions {} = .ok check ∧
      [("check", written check)] = (fixedSections.drop 3).take 1 := ⟨_, rfl, rfl⟩
  obtain ⟨fix, hfix, hfixes⟩ : ∃ fix, Fixer.toOptions {} = .ok fix ∧
      [("fix", written fix)] = fixedSections.drop 4 := ⟨_, rfl, rfl⟩
  have hupdater : Updater.ofOptions year [] Patterns.usual = .ok (usualUpdater year) := rfl
  have hmore : (patterns ++ [("check", check), ("fix", fix),
      ("update-copyright", (usualUpdater year).toOptions)]).map (fun s => (s.1, written s.2)) =
      fixedSections.drop 1 ++ [updateSection year] := by
    have hsplit : fixedSections.drop 1 ++ [updateSection year] = (fixedSections.drop 1).take 2 ++
        ((fixedSections.drop 3).take 1 ++ (fixedSections.drop 4 ++ [updateSection year])) := rfl
    rw [hsplit, ← hnames, ← hchecks, ← hfixes, List.map_append, List.map_cons, List.map_cons,
      List.map_cons, written_usualUpdater]
    rfl
  have hsections : fixedSections.take 1 ++ (fixedSections.drop 1 ++ [updateSection year]) =
      (usualIni year).sections := rfl
  have hmem : ∀ s ∈ fixedSections.drop 1 ++ [updateSection year], s ∈ (usualIni year).sections := by
    intro s hs
    rw [← hsections]
    exact List.mem_append_right _ hs
  have hload := load_of_new (fun s hs => (writable_usualIni year).sections s (hmem s hs))
    (fun s hs => percent_notMem_usualIni year s (hmem s hs))
    (by rw [hsections]; exact (writable_usualIni year).nodup)
  rw [← hmore] at hload
  simp only [addUsual, hlogging, hlevel, hpatterns, hcheck, hfix, hupdater, bind, Except.bind]
  rw [hload, hmore]
  rfl

lemma ofFile_usualIni (path : String) :
    ofFile path (encode ((usualIni year).write ++ ['\n'])) = .ok (usualIni year) := by
  have hcr : '\r' ∉ (usualIni year).write ++ ['\n'] := by
    intro hmem
    exact cr_notMem_write (writable_usualIni year)
      ((List.mem_append.mp hmem).resolve_right (by decide))
  rw [ofFile, decodeFrom_encode]
  dsimp only
  rw [unifyNewlines_of_notMem hcr]
  exact congrArg (Except.mapError Fault.ini) (read_write (writable_usualIni year) path 1)

lemma patterns_usualIni : patterns (usualIni year) = .ok Patterns.usual := rfl

def usualOptions (year : Int) : Command → Options
  | .check => [
    ("failfast", .flag false), ("check_tabs", .flag true), ("check_eol", .flag true),
    ("check_trailing", .flag true), ("check_encoding", .flag true), ("check_eol_at_eof", .flag true),
    ("check_relative_include", .flag true), ("check_copyright", .flag true),
    ("check_mode", .flag true), ("clang_format", .flag false), ("maxlinelen", .int 0),
    ("eol", .eol .native), ("encoding", .text "ascii"), ("loglevel", .int Level.warning.number)]
  | .fix => [
    ("tabsize", .int 4), ("eol", .eol .native), ("fix_trailing", .flag true),
    ("fix_mode", .flag true), ("clang_format", .text "False"), ("loglevel", .int Level.warning.number)]
  | .updateCopyright =>
    [("update", .flag true)] ++ (if year = 0 then [] else [("year", .int year)]) ++
      [("loglevel", .int Level.warning.number)]
  | .dumpConfig => []

lemma usualIni_of_ne_zero (h : year ≠ 0) : usualIni year = ⟨[], fixedSections ++
    [("update-copyright", [("update", "True"), ("year", toString year), ("backup", "False")])]⟩ := by
  rw [usualIni, updateSection, if_neg h]
  rfl

lemma value_of_raw? {ini : Ini} {sectionName name s : String} (hraw : ini.raw? sectionName name = some s)
    (h : '%' ∉ s.toList) : value ini sectionName name = .ok s :=
  congrArg (Except.mapError Fault.ini) (get_of_raw? hraw h)

lemma number_of_raw? {ini : Ini} {sectionName name : String} {n : Int}
    (hraw : ini.raw? sectionName name = some (toString n)) :
    number ini sectionName name = if n.natAbs < 10 ^ digitLimit then .ok (.int n)
      else .error (.value (.tooManyDigits (Nat.toDigits 10 n.natAbs).length)) := by
  rw [number, value_of_raw? hraw (percent_notMem_toString n), ok_bind, Setting.toInt,
    readInteger_toString]
  split <;> rfl

lemma number_year (h : year ≠ 0) (hyear : year.natAbs < 10 ^ digitLimit) :
    number (usualIni year) "update-copyright" "year" = .ok (.int year) := by
  have hraw : (usualIni year).raw? "update-copyright" "year" = some (toString year) := by
    rw [usualIni_of_ne_zero year h]
    rfl
  rw [number_of_raw? hraw, if_pos hyear]

lemma updateOptions_usualIni (hyear : year.natAbs < 10 ^ digitLimit) :
    updateOptions true (usualIni year) = .ok (usualOptions year .updateCopyright) := by
  by_cases h : year = 0
  · subst h
    rfl
  · have hpresent : present (usualIni year) "update-copyright" [
        ("copyright_template_path", text), ("update", flag), ("year", number)] =
        .ok [("update", .flag true), ("year", .int year)] := by
      have hfilter : [("copyright_template_path", text), ("update", flag), ("year", number)].filter
          (fun r => (usualIni year).hasOption "update-copyright" r.1) =
          [("update", flag), ("year", number)] := by
        rw [usualIni_of_ne_zero year h]
        rfl
      have hflag : flag (usualIni year) "update-copyright" "update" = .ok (.flag true) := rfl
      rw [present, hfilter, List.mapM_cons, List.mapM_cons, List.mapM_nil]
      dsimp only
      rw [hflag, number_year year h hyear]
      rfl
    have hbackup : backup (usualIni year) "update-copyright" = .ok [] := by
      rw [usualIni_of_ne_zero year h]
      rfl
    unfold updateOptions
    rw [hpresent, hbackup, usualOptions, if_neg h]
    rfl

lemma commandOptions_usualIni {c : Command} (hc : c ≠ .dumpConfig)
    (hyear : c = .updateCopyright → year.natAbs < 10 ^ digitLimit) :
    commandOptions true (usualIni year) (.text c.name) = .ok (usualOptions year c) := by
  cases c with
  | check => rfl
  | fix => rfl
  | updateCopyright => exact updateOptions_usualIni year (hyear rfl)
  | dumpConfig => exact absurd rfl hc

end Config

namespace Program

def dumpCall : Call := ⟨[], [Command.dumpConfig.name]⟩

lemma comes_dumpCall (w : World) :
    Comes dumpCall w .dumpConfig { started w with threshold := Level.warning.number } :=
  ⟨.dumpConfig, _, rfl, rfl⟩

lemma output_dumpCall (w : World) :
    (execute dumpCall w).output = str ((Config.usualIni w.year).write ++ ['\n']) := by
  let w' := { started w with threshold := Level.warning.number }
  have hconfig : usualConfig.run w' = (.ok (str (Config.usualIni w.year).write), w') := by
    have hlift : (Session.lift (Config.addUsual w'.year {})).run w' =
        (.ok (Config.usualIni w.year), w') := by
      rw [Session.run_lift, Config.addUsual_eq]
      rfl
    rw [usualConfig, Session.run_bind_ok (Session.run_get _), Session.run_bind_ok hlift]
    rfl
  have hperform : (perform .dumpConfig).run w' =
      (.ok (.returned 0, str (Config.usualIni w.year).write ++ "\n"), w') := by
    rw [perform, Session.run_bind_ok hconfig]
    rfl
  rw [execute_of_perform (comes_dumpCall w) hperform]
  have hlog : printedLog w'.log = "" := rfl
  rw [hlog]
  simp [str]

end Program

end SourceTidy
