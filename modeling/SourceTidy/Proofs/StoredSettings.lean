import SourceTidy.Proofs.ConfiguredTools
import SourceTidy.Proofs.SelectedFiles

/-!
# Settings that are stored

The patterns and the settings of a checker are stored as texts in sections of a configuration. From the
sections the same patterns and settings are read again.
-/

namespace SourceTidy

open Text Ini

namespace Text

lemma toList_padNat (width n : Nat) : (padNat width n).toList =
    List.replicate (width - (toString n).length) '0' ++ Nat.toDigits 10 n := by
  rw [padNat, String.toList_append, String.toList_ofList]
  exact congrArg _ Nat.toList_repr

lemma isDigit_of_mem_padNat {width n : Nat} {c : Char} (h : c ∈ (padNat width n).toList) :
    c.isDigit = true := by
  rw [toList_padNat] at h
  rcases List.mem_append.mp h with h | h
  · rw [List.eq_of_mem_replicate h]
    rfl
  · exact isDigit_of_mem_toDigits h

lemma digitsValue_padNat (width n : Nat) : digitsValue (padNat width n).toList = n := by
  have hzeros : ∀ k, (List.replicate k '0').foldl (fun n c => n * 10 + (digitValue? c).getD 0) 0 = 0 := by
    intro k
    induction k with
    | zero => rfl
    | succ k ih =>
      rw [List.replicate_succ, List.foldl_cons]
      exact ih
  rw [toList_padNat, digitsValue, List.foldl_append, hzeros]
  exact digitsValue_toDigits n

lemma toLower_of_ascii {s : Text} (h : ∀ c ∈ s, c.toNat < 0x80 ∧ c.toLower = c) : toLower s = s := by
  have hafter : ∀ before, lowerAfter before s = s := by
    induction s with
    | nil => exact fun _ => rfl
    | cons c s ih =>
      intro before
      obtain ⟨⟨hascii, hlower⟩, hs⟩ := List.forall_mem_cons.mp h
      rw [lowerAfter, lowerExpand, if_pos hascii, hlower, ih hs]
      rfl
  exact hafter []

end Text

namespace Config

def patternName (i : Nat) : String := "pattern_" ++ padNat 2 (i + 1)

lemma mem_patternName {i : Nat} {c : Char} (h : c ∈ (patternName i).toList) :
    c ∈ "pattern_".toList ∨ c.isDigit = true := by
  rw [patternName, String.toList_append] at h
  exact (List.mem_append.mp h).imp_right isDigit_of_mem_padNat

/-- A character that can stand anywhere in the name of an option. -/
def NameChar (c : Char) : Prop :=
  (c.toNat < 0x80 ∧ c.toLower = c) ∧ c ≠ '=' ∧ c ≠ ':' ∧ isSpace c = false

instance (c : Char) : Decidable (NameChar c) := inferInstanceAs (Decidable (_ ∧ _))

lemma nameChar_of_isDigit {c : Char} (h : c.isDigit = true) : NameChar c := by
  have hdigits : ∀ n < 10, NameChar (Char.ofNat (48 + n)) := by decide +kernel
  obtain ⟨hfirst, hlast⟩ : 48 ≤ c.toNat ∧ c.toNat ≤ 57 := Char.isDigit_iff_toNat.mp h
  have hc := hdigits (c.toNat - 48) (by omega)
  rwa [Nat.add_sub_cancel' hfirst, Char.ofNat_toNat] at hc

lemma plainName_patternName (i : Nat) : PlainName (patternName i) := by
  have hletters : ∀ c ∈ "pattern_".toList, NameChar c := by
    have hall : "pattern_".toList.all (NameChar ·) = true := by decide +kernel
    exact fun c hc => of_decide_eq_true (List.all_eq_true.mp hall c hc)
  have hchar : ∀ c ∈ (patternName i).toList, NameChar c :=
    fun c hc => (mem_patternName hc).elim (hletters c) nameChar_of_isDigit
  have hstart : (patternName i).toList = 'p' :: ("attern_" ++ padNat 2 (i + 1)).toList := by
    simp [patternName]
  refine ⟨?_, fun c hc => (hchar c hc).2, by rw [hstart]; exact List.cons_ne_nil _ _, ?_⟩
  · rw [optionName, toLower_of_ascii fun c hc => (hchar c hc).1, String.ofList_toList]
  · rw [hstart]
    rintro c ⟨⟩
    decide

lemma patternName_injective : Function.Injective patternName := by
  intro i j h
  have hdigits : (padNat 2 (i + 1)).toList = (padNat 2 (j + 1)).toList := by
    have hlist := congrArg String.toList h
    rw [patternName, patternName, String.toList_append, String.toList_append] at hlist
    exact List.append_cancel_left hlist
  have hvalue := congrArg digitsValue hdigits
  rw [digitsValue_padNat, digitsValue_padNat] at hvalue
  omega

def patternOptions (patterns : List String) : IniSection :=
  patterns.mapIdx fun i p => (patternName i, p)

/-- The section of a list of patterns. There is none for an empty list. -/
def stored (name : String) (patterns : List String) : List (String × IniSection) :=
  if patterns = [] then [] else [(name, patternOptions patterns)]

lemma patternSection_texts (name : String) (patterns : List String) :
    ∃ sections, patternSection name (.texts patterns) = .ok sections ∧
      sections.map (fun s => (s.1, written s.2)) = stored name patterns := by
  unfold patternSection
  rw [members_texts]
  by_cases h : patterns = []
  · subst h
    exact ⟨[], rfl, rfl⟩
  · have hempty : (patterns.map Scalar.text).isEmpty = false := by simpa using h
    refine ⟨_, by simp only [ok_bind, hempty]; rfl, ?_⟩
    have hwritten : written ((patterns.map Scalar.text).mapIdx
        fun i item => ("pattern_" ++ padNat 2 (i + 1), .scalar item)) = patternOptions patterns := by
      refine List.ext_getElem (by simp [written, patternOptions]) fun i _ _ => ?_
      simp [written, patternOptions, patternName, Setting.plain, Scalar.plain]
    rw [stored, if_neg h, ← hwritten]
    rfl

lemma names_patternOptions (patterns : List String) :
    (patternOptions patterns).map Prod.fst = (List.range patterns.length).map patternName := by
  refine List.ext_getElem (by simp [patternOptions]) fun i _ _ => ?_
  simp [patternOptions]

lemma values_patternOptions (patterns : List String) : (patternOptions patterns).map Prod.snd = patterns := by
  refine List.ext_getElem (by simp [patternOptions]) fun i _ _ => ?_
  simp [patternOptions]

lemma writable_patternOptions {name : String} (hname : PlainSection name) {patterns : List String}
    (h : ∀ p ∈ patterns, PlainValue p) : WritableSection (name, patternOptions patterns) where
  name := hname
  names := by
    intro o ho
    have hmem := List.mem_map_of_mem (f := Prod.fst) ho
    rw [names_patternOptions] at hmem
    obtain ⟨i, -, hi⟩ := List.mem_map.mp hmem
    rw [← hi]
    exact plainName_patternName i
  values := by
    intro o ho
    have hmem := List.mem_map_of_mem (f := Prod.snd) ho
    rw [values_patternOptions] at hmem
    exact h _ hmem
  nodup := by
    rw [names_patternOptions]
    exact List.nodup_range.map patternName_injective

end Config

namespace Ini

lemma lookup_of_mem {options : IniSection} (hnodup : (options.map Prod.fst).Nodup) {o : String × String}
    (h : o ∈ options) : options.lookup o.1 = some o.2 := by
  induction options with
  | nil => cases h
  | cons p options ih =>
    obtain ⟨hnew, hnodup⟩ := List.nodup_cons.mp hnodup
    rcases List.mem_cons.mp h with rfl | h
    · exact List.lookup_cons_self
    · have hne : (o.1 == p.1) = false := by
        rw [beq_eq_false_iff_ne]
        intro heq
        exact hnew (heq ▸ List.mem_map_of_mem h)
      rw [List.lookup_cons, hne, ih hnodup h]

lemma values_of_section {sections : List (String × IniSection)} {name : String} {options : IniSection}
    (hsection : sections.lookup name = some options) (hnodup : (options.map Prod.fst).Nodup)
    (hbare : ∀ o ∈ options, '%' ∉ o.2.toList) : values ⟨[], sections⟩ name = .ok (options.map Prod.snd) := by
  have hget : ∀ o ∈ options, get ⟨[], sections⟩ name o.1 = .ok o.2 := by
    intro o ho
    refine get_of_raw? ?_ (hbare o ho)
    rw [raw?, hsection, Option.getD_some, lookup_of_mem hnodup ho]
    rfl
  have hoptions : Ini.options ⟨[], sections⟩ name = options := by
    rw [Ini.options, hsection]
    exact List.append_nil _
  rw [values, hoptions]
  clear hsection hnodup hbare hoptions
  induction options with
  | nil => rfl
  | cons o options ih =>
    obtain ⟨ho, hoptions⟩ := List.forall_mem_cons.mp hget
    rw [List.mapM_cons, ho, ih hoptions]
    rfl

end Ini

namespace Config

section

variable {names skipped data : List String}

def storedPatterns (names skipped data : List String) : List (String × IniSection) :=
  stored "path_patterns" names ++ stored "skip_path_patterns" skipped ++ stored "skip_data_patterns" data

lemma mem_stored {name : String} {patterns : List String} {s : String × IniSection}
    (h : s ∈ stored name patterns) : s = (name, patternOptions patterns) := by
  unfold stored at h
  split at h
  · cases h
  · exact List.mem_singleton.mp h

lemma names_stored (name : String) (patterns : List String) :
    ((stored name patterns).map Prod.fst).Sublist [name] := by
  unfold stored
  split
  · exact List.nil_sublist _
  · exact .refl _

lemma writable_storedPatterns (h : ∀ p ∈ names ++ skipped ++ data, PlainValue p ∧ '%' ∉ p.toList) :
    Writable ⟨[], storedPatterns names skipped data⟩ where
  noDefaults := rfl
  sections := by
    intro s hs
    simp only [storedPatterns, List.mem_append] at hs h
    rcases hs with (hs | hs) | hs <;> rw [mem_stored hs]
    · exact writable_patternOptions (by decide) fun p hp => (h p (.inl (.inl hp))).1
    · exact writable_patternOptions (by decide) fun p hp => (h p (.inl (.inr hp))).1
    · exact writable_patternOptions (by decide) fun p hp => (h p (.inr hp)).1
  nodup := by
    have hnames : ((storedPatterns names skipped data).map Prod.fst).Sublist patternSections := by
      rw [storedPatterns, List.map_append, List.map_append]
      exact ((names_stored _ _).append (names_stored _ _)).append (names_stored _ _)
    exact hnames.nodup (by decide)

lemma percent_notMem_storedPatterns (h : ∀ p ∈ names ++ skipped ++ data, PlainValue p ∧ '%' ∉ p.toList) :
    ∀ s ∈ storedPatterns names skipped data, ∀ o ∈ s.2, '%' ∉ o.2.toList := by
  intro s hs o ho
  simp only [storedPatterns, List.mem_append] at hs h
  have hvalue : ∀ patterns, s.2 = patternOptions patterns → o.2 ∈ patterns := by
    intro patterns hpatterns
    rw [← values_patternOptions patterns, ← hpatterns]
    exact List.mem_map_of_mem ho
  rcases hs with (hs | hs) | hs
  · exact (h _ (.inl (.inl (hvalue _ (congrArg Prod.snd (mem_stored hs)))))).2
  · exact (h _ (.inl (.inr (hvalue _ (congrArg Prod.snd (mem_stored hs)))))).2
  · exact (h _ (.inr (hvalue _ (congrArg Prod.snd (mem_stored hs))))).2

lemma sectionValues_stored {sections : List (String × IniSection)} {name : String} {patterns : List String}
    (hlookup : sections.lookup name = (stored name patterns).lookup name)
    (hbare : ∀ p ∈ patterns, '%' ∉ p.toList) : sectionValues ⟨[], sections⟩ name = .ok patterns := by
  unfold sectionValues hasSection
  by_cases h : patterns = []
  · rw [stored, if_pos h] at hlookup
    rw [hlookup, h]
    rfl
  · rw [stored, if_neg h, List.lookup_cons_self] at hlookup
    have hvalues := values_of_section hlookup (by
      rw [names_patternOptions]
      exact List.nodup_range.map patternName_injective) (by
      intro o ho
      have hmem := List.mem_map_of_mem (f := Prod.snd) ho
      rw [values_patternOptions] at hmem
      exact hbare _ hmem)
    rw [hlookup, Option.isSome_some, if_pos rfl, hvalues, values_patternOptions]
    rfl

lemma ofPatterns_texts (names skipped data : List String) : ∃ sections,
    ofPatterns ⟨.texts names, .texts skipped, .texts data⟩ = .ok sections ∧
      sections.map (fun s => (s.1, written s.2)) = storedPatterns names skipped data := by
  obtain ⟨s₁, h₁, hs₁⟩ := patternSection_texts "path_patterns" names
  obtain ⟨s₂, h₂, hs₂⟩ := patternSection_texts "skip_path_patterns" skipped
  obtain ⟨s₃, h₃, hs₃⟩ := patternSection_texts "skip_data_patterns" data
  refine ⟨s₁ ++ s₂ ++ s₃, ?_, ?_⟩
  · rw [ofPatterns, h₁, ok_bind, h₂, ok_bind, h₃]
    rfl
  · rw [List.map_append, List.map_append, hs₁, hs₂, hs₃, storedPatterns]

/-- Lists of patterns that are stored in a configuration, written to a text and read from it are the same
lists. The patterns can be empty, and can be like comments, headers or options. -/
theorem patterns_survive_writing
    (h : ∀ p ∈ names ++ skipped ++ data, Ini.PlainValue p ∧ '%' ∉ p.toList) (source : String) :
    ∃ sections ini ini', ofPatterns ⟨.texts names, .texts skipped, .texts data⟩ = .ok sections ∧
      Ini.load {} (sections.map fun s => (s.1, written s.2)) = .ok ini ∧
      Ini.read {} source ini.write = .ok ini' ∧
      patterns ini' = .ok ⟨.texts names, .texts skipped, .texts data⟩ := by
  obtain ⟨sections, hsections, hwritten⟩ := ofPatterns_texts names skipped data
  have hwritable := writable_storedPatterns h
  have hload : Ini.load {} (storedPatterns names skipped data) = .ok ⟨[], storedPatterns names skipped data⟩ :=
    Ini.load_of_new hwritable.sections (percent_notMem_storedPatterns h) hwritable.nodup
  have hread := Ini.read_write hwritable source 0
  rw [List.replicate_zero, List.append_nil] at hread
  refine ⟨sections, _, _, hsections, hwritten ▸ hload, hread, ?_⟩
  simp only [List.mem_append] at h
  have hnames : sectionValues ⟨[], storedPatterns names skipped data⟩ "path_patterns" = .ok names := by
    refine sectionValues_stored ?_ fun p hp => (h p (.inl (.inl hp))).2
    unfold storedPatterns stored
    split_ifs <;> rfl
  have hskipped : sectionValues ⟨[], storedPatterns names skipped data⟩ "skip_path_patterns" = .ok skipped := by
    refine sectionValues_stored ?_ fun p hp => (h p (.inl (.inr hp))).2
    unfold storedPatterns stored
    split_ifs <;> rfl
  have hdata : sectionValues ⟨[], storedPatterns names skipped data⟩ "skip_data_patterns" = .ok data := by
    refine sectionValues_stored ?_ fun p hp => (h p (.inr hp)).2
    unfold storedPatterns stored
    split_ifs <;> rfl
  rw [patterns, hnames, ok_bind, hskipped, ok_bind, hdata]
  rfl

theorem patterns_survive_writing_comments :
    (∀ p ∈ ["*.c", "", "# x", "*.c"] ++ [] ++ ["[a]", "; b", "k = v: w"],
      Ini.PlainValue p ∧ '%' ∉ p.toList) ∧
      ∃ sections ini ini', ofPatterns ⟨.texts ["*.c", "", "# x", "*.c"], .texts [],
          .texts ["[a]", "; b", "k = v: w"]⟩ = .ok sections ∧
        Ini.load {} (sections.map fun s => (s.1, written s.2)) = .ok ini ∧
        Ini.read {} "a.ini" ini.write = .ok ini' ∧
        patterns ini' = .ok ⟨.texts ["*.c", "", "# x", "*.c"], .texts [],
          .texts ["[a]", "; b", "k = v: w"]⟩ := by
  have h : ∀ p ∈ ["*.c", "", "# x", "*.c"] ++ [] ++ ["[a]", "; b", "k = v: w"],
      Ini.PlainValue p ∧ '%' ∉ p.toList := by decide +kernel
  exact ⟨h, patterns_survive_writing h "a.ini"⟩

end

end Config

/-- Settings of a checker, each of the kind that it has in a configuration. -/
structure CheckSettings where
  failFast : Bool
  tabs : Bool
  lineEndings : Bool
  trailing : Bool
  encodable : Bool
  finalEol : Bool
  includes : Bool
  notice : Bool
  mode : Bool
  /-- Whether the formatting program is used, or its name. -/
  formatter : Bool ⊕ String
  lineLimit : Int
  eol : Eol
  encoding : String

namespace CheckSettings

def checker (s : CheckSettings) (patterns : Patterns) : Checker where
  failFast := .flag s.failFast
  patterns
  tabs := .flag s.tabs
  lineEndings := .flag s.lineEndings
  trailing := .flag s.trailing
  encodable := .flag s.encodable
  finalEol := .flag s.finalEol
  includes := .flag s.includes
  notice := .flag s.notice
  mode := .flag s.mode
  formatter := s.formatter.elim .flag .text
  lineLimit := .int s.lineLimit
  eol := .eol s.eol
  encoding := .text s.encoding

def options (s : CheckSettings) : Options := [
  ("failfast", .flag s.failFast), ("check_tabs", .flag s.tabs), ("check_eol", .flag s.lineEndings),
  ("check_trailing", .flag s.trailing), ("check_encoding", .flag s.encodable),
  ("check_eol_at_eof", .flag s.finalEol), ("check_relative_include", .flag s.includes),
  ("check_copyright", .flag s.notice), ("check_mode", .flag s.mode),
  ("clang_format", s.formatter.elim .flag .text), ("maxlinelen", .int s.lineLimit),
  ("eol", .eol s.eol), ("encoding", .text s.encoding)]

lemma ofOptions_options (s : CheckSettings) (patterns : Patterns) :
    Checker.ofOptions s.options patterns = .ok (s.checker patterns) :=
  Checker.ofOptions_eq_ok (fun _ h => h) rfl rfl

def stored (s : CheckSettings) : IniSection :=
  s.options.map fun o => (o.1, if o.1 = "eol" then s.eol.name else o.2.plain)

lemma written_toOptions (s : CheckSettings) (patterns : Patterns) :
    ∃ options, (s.checker patterns).toOptions = .ok options ∧ Config.written options = s.stored :=
  ⟨_, rfl, rfl⟩

/-- The texts among the settings have no references, and the name of the formatting program is not a yes
or a no. -/
structure Storable (s : CheckSettings) : Prop where
  formatter : ∀ name, s.formatter = .inr name → '%' ∉ name.toList ∧
    Config.boolWords.lookup (str (toLower name.toList)) = none
  encoding : '%' ∉ s.encoding.toList

variable {s : CheckSettings}

lemma percent_notMem_flag (b : Bool) : '%' ∉ (Setting.flag b).plain.toList := by
  cases b <;> decide

lemma percent_notMem_formatter (h : s.Storable) :
    '%' ∉ (s.formatter.elim Setting.flag Setting.text).plain.toList := by
  cases hformatter : s.formatter with
  | inl b => exact percent_notMem_flag b
  | inr name => exact (h.formatter name hformatter).1

lemma percent_notMem_stored (h : s.Storable) : ∀ o ∈ s.stored, '%' ∉ o.2.toList := by
  have heol : '%' ∉ s.eol.name.toList := by cases s.eol <;> decide
  have hlimit : '%' ∉ (Setting.int s.lineLimit).plain.toList := Config.percent_notMem_toString _
  have hencoding : '%' ∉ (Setting.text s.encoding).plain.toList := h.encoding
  simp [stored, options, percent_notMem_flag, percent_notMem_formatter h, hlimit, heol, hencoding]

lemma load_stored (h : s.Storable) : load {} [("check", s.stored)] = .ok ⟨[], [("check", s.stored)]⟩ := by
  have hlower : ∀ name ∈ Checker.optionNames, optionName name = name := by decide +kernel
  have hnodup : Checker.optionNames.Nodup := by decide
  have hset : s.stored.foldlM (fun (ini : Ini) o => ini.set "check" o.1 o.2)
      ⟨[], [] ++ [("check", [])]⟩ = .ok ⟨[], [] ++ [("check", [] ++ s.stored)]⟩ :=
    foldlM_set (by decide) List.not_mem_nil
      (fun o ho => hlower _ (List.mem_map_of_mem (f := Prod.fst) ho)) (percent_notMem_stored h) hnodup
  have hsection : loadSection {} "check" s.stored = .ok ⟨[], [("check", s.stored)]⟩ := hset
  rw [load, List.foldlM_cons, hsection]
  rfl

end CheckSettings

namespace Config

variable {ini : Ini} {name : String}

lemma present_eq_ok {readers : List Reader} {options : Options}
    (h : List.Forall₂ (fun r o => r.1 = o.1 ∧ (∃ s, ini.raw? name r.1 = some s) ∧
      r.2 ini name r.1 = .ok o.2) readers options) : present ini name readers = .ok options := by
  induction h with
  | nil => rfl
  | @cons r o readers options h _ ih =>
    obtain ⟨hname, ⟨s, hs⟩, hread⟩ := h
    rw [present_cons, ih, optional, hasOption, hs, Option.isSome_some, if_pos rfl, hread, hname]
    rfl

lemma flag_of_raw? {option : String} {b : Bool} (hraw : ini.raw? name option = some (Setting.flag b).plain) :
    flag ini name option = .ok (.flag b) := by
  rw [flag, value_of_raw? hraw (CheckSettings.percent_notMem_flag b)]
  cases b <;> rfl

lemma eol_of_raw? {option : String} {e : Eol} (hraw : ini.raw? name option = some e.name) :
    eol ini name option = .ok (.eol e) := by
  cases e <;> rw [eol, value_of_raw? hraw (by decide)] <;> rfl

lemma flagOrText_of_raw? {s : CheckSettings} (h : s.Storable) {option : String}
    (hraw : ini.raw? name option = some (s.formatter.elim Setting.flag Setting.text).plain) :
    flagOrText ini name option = .ok (s.formatter.elim .flag .text) := by
  rw [flagOrText, value_of_raw? hraw (CheckSettings.percent_notMem_formatter h)]
  cases hformatter : s.formatter with
  | inl b => cases b <;> rfl
  | inr program =>
    have hword : ofBoolWord program = .error (.value (.notBoolean program)) := by
      rw [ofBoolWord, (h.formatter program hformatter).2]
    have hplain : (Setting.text program).plain = program := rfl
    simp only [Sum.elim_inr, hplain, hword, ok_bind]
    rfl

lemma checkOptions_section (options : IniSection) (named : Bool) :
    checkOptions named ⟨[], [("check", options)]⟩ = do
      return (← present ⟨[], [("check", options)]⟩ "check" (readers .check)) ++ [] := rfl

lemma checkOptions_stored {s : CheckSettings} (h : s.Storable)
    (hlimit : s.lineLimit.natAbs < 10 ^ digitLimit) (named : Bool) :
    checkOptions named ⟨[], [("check", s.stored)]⟩ = .ok s.options := by
  have hnumber : number ⟨[], [("check", s.stored)]⟩ "check" "maxlinelen" = .ok (.int s.lineLimit) :=
    (number_of_raw? rfl).trans (if_pos hlimit)
  have htext : text ⟨[], [("check", s.stored)]⟩ "check" "encoding" = .ok (.text s.encoding) := by
    rw [text, value_of_raw? rfl h.encoding]
    rfl
  have hpresent : present ⟨[], [("check", s.stored)]⟩ "check" (readers .check) = .ok s.options :=
    present_eq_ok <|
      .cons ⟨rfl, ⟨_, rfl⟩, flag_of_raw? rfl⟩ <| .cons ⟨rfl, ⟨_, rfl⟩, flag_of_raw? rfl⟩ <|
      .cons ⟨rfl, ⟨_, rfl⟩, flag_of_raw? rfl⟩ <| .cons ⟨rfl, ⟨_, rfl⟩, flag_of_raw? rfl⟩ <|
      .cons ⟨rfl, ⟨_, rfl⟩, flag_of_raw? rfl⟩ <| .cons ⟨rfl, ⟨_, rfl⟩, flag_of_raw? rfl⟩ <|
      .cons ⟨rfl, ⟨_, rfl⟩, flag_of_raw? rfl⟩ <| .cons ⟨rfl, ⟨_, rfl⟩, flag_of_raw? rfl⟩ <|
      .cons ⟨rfl, ⟨_, rfl⟩, flag_of_raw? rfl⟩ <|
      .cons ⟨rfl, ⟨_, rfl⟩, flagOrText_of_raw? h rfl⟩ <|
      .cons ⟨rfl, ⟨_, rfl⟩, hnumber⟩ <| .cons ⟨rfl, ⟨_, rfl⟩, eol_of_raw? rfl⟩ <|
      .cons ⟨rfl, ⟨_, rfl⟩, htext⟩ .nil
  rw [checkOptions_section, hpresent]
  exact congrArg Except.ok (List.append_nil _)

lemma exists_error_checkOptions {s : CheckSettings} (hlimit : 10 ^ digitLimit ≤ s.lineLimit.natAbs)
    (named : Bool) : ∃ f, checkOptions named ⟨[], [("check", s.stored)]⟩ = .error f := by
  cases hoptions : checkOptions named ⟨[], [("check", s.stored)]⟩ with
  | error f => exact ⟨f, rfl⟩
  | ok options =>
    obtain ⟨read, hread, -⟩ := bind_eq_ok hoptions
    have hvalue := lookup_present hread (by decide) (r := ("maxlinelen", number)) (by simp)
    have hnumber : optional ⟨[], [("check", s.stored)]⟩ "check" ("maxlinelen", number) =
        some <$> number ⟨[], [("check", s.stored)]⟩ "check" "maxlinelen" := rfl
    rw [hnumber, number_of_raw? rfl, if_neg (Nat.not_lt.mpr hlimit)] at hvalue
    cases hvalue

end Config

/-- Settings of a checker that are stored in a configuration and read from it make the same checker, unless
the line limit has too many digits. Then they make none. -/
theorem CheckSettings.survive_storing {s : CheckSettings} (h : s.Storable) (p p' : Patterns) (named : Bool) :
    ∃ options, (s.checker p).toOptions = .ok options ∧
      (s.lineLimit.natAbs < 10 ^ Text.digitLimit →
        ∃ ini, Ini.load {} [("check", Config.written options)] = .ok ini ∧
          (Config.checkOptions named ini >>= (Checker.ofOptions · p')) = .ok (s.checker p')) ∧
      (10 ^ Text.digitLimit ≤ s.lineLimit.natAbs →
        ∀ ini, Ini.load {} [("check", Config.written options)] = .ok ini →
          ∃ f, (Config.checkOptions named ini >>= (Checker.ofOptions · p')) = .error f) := by
  obtain ⟨options, hoptions, hwritten⟩ := s.written_toOptions p
  refine ⟨options, hoptions, fun hlimit => ⟨⟨[], [("check", s.stored)]⟩, ?_, ?_⟩, fun hlimit ini hini => ?_⟩
  · rw [hwritten]
    exact load_stored h
  · rw [Config.checkOptions_stored h hlimit, ok_bind, ofOptions_options]
  · rw [hwritten, load_stored h] at hini
    cases hini
    obtain ⟨f, hf⟩ := Config.exists_error_checkOptions hlimit named
    rw [hf]
    exact ⟨f, rfl⟩

theorem CheckSettings.survive_storing_named_program :
    let s : CheckSettings := ⟨true, false, true, false, true, false, true, false, true,
      .inr "clang-format-15 = yes", -120, .win, " utf-8\n"⟩
    s.Storable ∧ ∃ options ini, (s.checker Config.noPatterns).toOptions = .ok options ∧
      Ini.load {} [("check", Config.written options)] = .ok ini ∧
      (Config.checkOptions true ini >>= (Checker.ofOptions · Patterns.usual)) =
        .ok (s.checker Patterns.usual) := by
  intro s
  have hs : s.Storable := by
    refine ⟨?_, by decide⟩
    rintro name ⟨⟩
    exact ⟨by decide, by decide +kernel⟩
  have hlimit : 120 < 10 ^ Text.digitLimit :=
    Nat.lt_of_lt_of_le (by decide : 120 < 10 ^ 3) (Nat.pow_le_pow_right (by decide) (by decide))
  obtain ⟨options, hoptions, hread, -⟩ :=
    CheckSettings.survive_storing hs Config.noPatterns Patterns.usual true
  obtain ⟨ini, hini, hread⟩ := hread hlimit
  exact ⟨hs, options, ini, hoptions, hini, hread⟩

/-- A number can have more digits than are read. -/
theorem CheckSettings.lost_long_limit :
    let s : CheckSettings := ⟨false, true, true, true, true, true, true, true, true, .inl false,
      ((10 ^ Text.digitLimit : Nat) : Int), .native, "ascii"⟩
    s.Storable ∧ ¬∃ options ini, (s.checker Patterns.usual).toOptions = .ok options ∧
      Ini.load {} [("check", Config.written options)] = .ok ini ∧
      (Config.checkOptions true ini >>= (Checker.ofOptions · Patterns.usual)) =
        .ok (s.checker Patterns.usual) := by
  intro s
  have hs : s.Storable := ⟨nofun, by decide⟩
  refine ⟨hs, ?_⟩
  rintro ⟨options, ini, hoptions, hini, hread⟩
  obtain ⟨options', hoptions', hwritten⟩ := s.written_toOptions Patterns.usual
  cases hoptions.symm.trans hoptions'
  rw [hwritten, load_stored hs] at hini
  cases hini
  have hlimit : 10 ^ Text.digitLimit ≤ s.lineLimit.natAbs := by
    dsimp only [s]
    rw [Int.natAbs_natCast]
  obtain ⟨f, hf⟩ := Config.exists_error_checkOptions hlimit true
  rw [hf] at hread
  cases hread

end SourceTidy
