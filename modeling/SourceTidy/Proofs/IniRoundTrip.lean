import SourceTidy.Ini.Reader
import SourceTidy.Proofs.FixedText

/-!
# Settings files read back

A settings file is written with each option on a line of its own. Where names and values are plain
enough for this, reading the text gives what was written.
-/

namespace SourceTidy.Ini

open Text Reading SourceTidy.Fix

section

variable {α β : Type} {name : String} {l : List (String × α)}

lemma map_putPair (f : α → β) (name : String) (v : α) (l : List (String × α)) :
    (putPair name v l).map (fun p => (p.1, f p.2)) = putPair name (f v) (l.map fun p => (p.1, f p.2)) := by
  induction l with
  | nil => rfl
  | cons p l ih =>
    obtain ⟨n, u⟩ := p
    rw [putPair, List.map_cons, putPair]
    split
    · rfl
    · rw [List.map_cons, ih]

lemma putPair_append (h : name ∉ l.map Prod.fst) (v : α) (l' : List (String × α)) :
    putPair name v (l ++ l') = l ++ putPair name v l' := by
  induction l with
  | nil => rfl
  | cons p l ih =>
    obtain ⟨n, u⟩ := p
    obtain ⟨hn, hl⟩ := not_or.mp (mt List.mem_cons.mpr h)
    rw [List.cons_append, putPair, if_neg (by simpa using Ne.symm hn), ih hl]
    rfl

lemma lookup_append_of_notMem (h : name ∉ l.map Prod.fst) (l' : List (String × α)) :
    (l ++ l').lookup name = l'.lookup name := by
  induction l with
  | nil => rfl
  | cons p l ih =>
    obtain ⟨n, u⟩ := p
    obtain ⟨hn, hl⟩ := not_or.mp (mt List.mem_cons.mpr h)
    have hne : (name == n) = false := by simpa using hn
    rw [List.cons_append, List.lookup_cons, hne, ih hl]

lemma putPair_of_lookup {v : α} (h : l.lookup name = some v) : putPair name v l = l := by
  induction l with
  | nil => cases h
  | cons p l ih =>
    obtain ⟨n, u⟩ := p
    rw [List.lookup_cons] at h
    rw [putPair]
    by_cases hn : name = n
    · subst hn
      rw [beq_self_eq_true] at h
      rw [if_pos (beq_self_eq_true name), Option.some.inj h]
    · have hne : (name == n) = false := by simpa using hn
      rw [hne] at h
      rw [if_neg (by simpa using Ne.symm hn), ih h]

lemma lookup_map_snd (f : α → β) (l : List (String × α)) (name : String) :
    (l.map fun p => (p.1, f p.2)).lookup name = (l.lookup name).map f := by
  induction l with
  | nil => rfl
  | cons p l ih =>
    obtain ⟨n, u⟩ := p
    rw [List.map_cons, List.lookup_cons, List.lookup_cons, ih]
    cases name == n <;> rfl

end

/-- The name of a section as it can stand in a header. -/
def PlainSection (name : String) : Prop :=
  name ≠ defaultName ∧ name.toList ≠ [] ∧ ∀ c ∈ name.toList, c ≠ '\n' ∧ c ≠ '\r'

/-- The name of an option as it can stand at the start of a line. -/
def PlainName (name : String) : Prop :=
  optionName name = name ∧
    (∀ c ∈ name.toList, c ≠ '=' ∧ c ≠ ':' ∧ isSpace c = false) ∧
    name.toList ≠ [] ∧ ∀ c ∈ name.toList.head?, c ≠ '[' ∧ c ≠ '#' ∧ c ≠ ';'

/-- A value that fits on a line, without white space around it. -/
def PlainValue (value : String) : Prop :=
  (∀ c ∈ value.toList, c ≠ '\n' ∧ c ≠ '\r') ∧ trim value.toList = value.toList

instance (name : String) : Decidable (PlainSection name) :=
  let _ : Decidable (∀ c ∈ name.toList, c ≠ '\n' ∧ c ≠ '\r') := List.decidableBAll _ _
  inferInstanceAs (Decidable (_ ∧ _ ∧ _))

instance (name : String) : Decidable (PlainName name) :=
  let _ : Decidable (∀ c ∈ name.toList, c ≠ '=' ∧ c ≠ ':' ∧ isSpace c = false) :=
    List.decidableBAll _ _
  let _ : Decidable (∀ c ∈ name.toList.head?, c ≠ '[' ∧ c ≠ '#' ∧ c ≠ ';') :=
    Option.decidableForallMem _
  inferInstanceAs (Decidable (_ ∧ _ ∧ _ ∧ _))

instance (value : String) : Decidable (PlainValue value) :=
  let _ : Decidable (∀ c ∈ value.toList, c ≠ '\n' ∧ c ≠ '\r') := List.decidableBAll _ _
  inferInstanceAs (Decidable (_ ∧ _))

def optionLine (o : String × String) : Text := o.1.toList ++ " = ".toList ++ o.2.toList

def headerLine (name : String) : Text := '[' :: name.toList ++ [']']

lemma dropEndWhile_append {α : Type} {p : α → Bool} {s : List α}
    (hlast : ∀ a, s.getLast? = some a → p a = false) (s' : List α) :
    dropEndWhile p (s ++ s') = s ++ dropEndWhile p s' := by
  induction s' using List.reverseRecOn with
  | nil => rw [List.append_nil, dropEndWhile_of_getLast? hlast, dropEndWhile, List.append_nil]
  | append_singleton s' a ih =>
    rw [← List.append_assoc, dropEndWhile_append_singleton, dropEndWhile_append_singleton, ih]
    split
    · rfl
    · rw [List.append_assoc]

lemma getLast?_of_trim {s : Text} (h : trim s = s) {a : Char} (ha : s.getLast? = some a) :
    isSpace a = false := by
  rw [← h] at ha
  exact getLast?_dropEndWhile _ _ ha

lemma isSpace_blank : isSpace ' ' = true := by decide +kernel

lemma isSpace_equals : isSpace '=' = false := by decide +kernel

lemma isSpace_opening : isSpace '[' = false := by decide +kernel

lemma isSpace_closing : isSpace ']' = false := by decide +kernel

lemma header?_headerLine {name : String} (h : name.toList ≠ []) :
    header? (headerLine name) = some name.toList := by
  have hrest : (name.toList ++ [']']).reverse.dropWhile (· != ']') = ']' :: name.toList.reverse := by
    rw [List.reverse_append]
    rfl
  rw [headerLine, List.cons_append, header?, hrest, List.tail_cons, List.reverse_reverse]
  split
  · next hnil => exact absurd hnil h
  · rfl

lemma trim_headerLine (name : String) : trim (headerLine name ++ ['\n']) = headerLine name := by
  have hstart : (headerLine name ++ ['\n']).dropWhile isSpace = headerLine name ++ ['\n'] :=
    List.dropWhile_cons_of_neg (by rw [isSpace_opening]; decide)
  have hlast : ∀ a, (headerLine name).getLast? = some a → isSpace a = false := by
    intro a ha
    rw [headerLine, List.getLast?_concat] at ha
    cases ha
    exact isSpace_closing
  rw [trim, dropBothWhile, hstart, dropEndWhile_append_singleton, isSpace_lf,
    if_pos rfl, dropEndWhile_of_getLast? hlast]

def trimmedLine (o : String × String) : Text :=
  o.1.toList ++ ' ' :: '=' :: trimEnd (' ' :: o.2.toList)

lemma trim_optionLine {o : String × String} (h : PlainName o.1) :
    trim (optionLine o ++ ['\n']) = trimmedLine o := by
  obtain ⟨-, hchars, hne, -⟩ := h
  obtain ⟨c, s, hname⟩ := List.exists_cons_of_ne_nil hne
  have hc : isSpace c = false := (hchars c (by simp [hname])).2.2
  have hline : optionLine o ++ ['\n'] =
      (o.1.toList ++ [' ', '=']) ++ (' ' :: o.2.toList ++ ['\n']) := by
    have hmark : " = ".toList = [' ', '=', ' '] := rfl
    simp [optionLine, hmark]
  have hstart : (optionLine o ++ ['\n']).dropWhile isSpace = optionLine o ++ ['\n'] := by
    rw [optionLine, hname]
    exact List.dropWhile_cons_of_neg (by simp [hc])
  have hlast : ∀ a, (o.1.toList ++ [' ', '=']).getLast? = some a → isSpace a = false := by
    intro a ha
    rw [List.append_cons, List.getLast?_concat] at ha
    cases ha
    exact isSpace_equals
  rw [trim, dropBothWhile, hstart, hline, dropEndWhile_append hlast,
    dropEndWhile_append_singleton, isSpace_lf, if_pos rfl, List.append_assoc]
  rfl

lemma option?_trimmedLine {o : String × String} (h : PlainName o.1) (hv : PlainValue o.2) :
    option? (trimmedLine o) = some (o.1.toList, o.2.toList) := by
  obtain ⟨-, hchars, -⟩ := h
  obtain ⟨-, hvalue⟩ := hv
  have htake : (trimmedLine o).takeWhile (fun c => !(c == '=' || c == ':')) = o.1.toList ++ [' '] := by
    rw [trimmedLine, List.append_cons, List.takeWhile_append_of_pos]
    · simp
    · intro c hc
      rcases List.mem_append.mp hc with hc | hc
      · simpa using ⟨(hchars c hc).1, (hchars c hc).2.1⟩
      · rw [List.mem_singleton.mp hc]
        decide
  have hdrop : (trimmedLine o).drop (o.1.toList ++ [' ']).length =
      '=' :: trimEnd (' ' :: o.2.toList) := by
    have hsplit : trimmedLine o =
        (o.1.toList ++ [' ']) ++ '=' :: trimEnd (' ' :: o.2.toList) := List.append_cons _ _ _
    rw [hsplit, List.drop_left]
  have hname : trimEnd (o.1.toList ++ [' ']) = o.1.toList := by
    rw [trimEnd, dropEndWhile_append_singleton, if_pos isSpace_blank]
    refine dropEndWhile_of_getLast? fun a ha => (hchars a ?_).2.2
    exact List.mem_of_getLast? ha
  have hback : trim (trimEnd (' ' :: o.2.toList)) = o.2.toList := by
    cases hs : o.2.toList with
    | nil =>
      rw [trimEnd, dropEndWhile, dropEndWhile]
      dsimp only
      rw [if_pos isSpace_blank]
      rfl
    | cons c s =>
      rw [hs] at hvalue
      have hlast : ∀ a, (' ' :: c :: s).getLast? = some a → isSpace a = false := by
        intro a ha
        rw [List.getLast?_cons_cons] at ha
        exact getLast?_of_trim hvalue ha
      rw [trimEnd, dropEndWhile_of_getLast? hlast, trim, dropBothWhile,
        List.dropWhile_cons_of_pos isSpace_blank]
      exact hvalue
  unfold option?
  dsimp only
  rw [htake, hdrop]
  dsimp only
  rw [hname, hback]

/-- What a reading holds, with the lines of values joined. -/
def Reading.joined (r : Reading) : List (String × IniSection) :=
  r.sections.map fun s => (s.1, joinOptions s.2)

/-- A reading that has come to the end of some sections. -/
structure Holds (r : Reading) (sections : List (String × IniSection)) : Prop where
  noDefaults : r.defaults = []
  joined : r.joined = sections
  indent : r.indent = 0
  noBad : r.bad = []
  seen : ∀ p ∈ r.seenOptions, ∃ options, (p.1, options) ∈ sections ∧ p.2 ∈ options.map Prod.fst

variable {r : Reading} {sections : List (String × IniSection)} {name : String}

lemma Holds.names (h : Holds r sections) : r.sections.map Prod.fst = sections.map Prod.fst := by
  rw [← h.joined, Reading.joined, List.map_map]
  rfl

lemma readLine_head {whole : Text} {c : Char} {s : Text} (htrim : trim whole = c :: s)
    (hspace : whole.takeWhile isSpace = []) (hc : c ≠ '#' ∧ c ≠ ';') (hindent : r.indent = 0)
    (number : Nat) : readLine r number whole = readHead r number whole (c :: s) := by
  have hcomment : isComment (c :: s) = false := by
    simp only [isComment, List.head?_cons]
    simp [hc.1, hc.2]
  have hr : { r with indent := 0 } = r := by rw [← hindent]
  unfold readLine
  rw [htrim, hspace]
  dsimp only [List.isEmpty_cons, List.length_nil]
  rw [hcomment, if_neg Bool.false_ne_true, if_neg Bool.false_ne_true, hr, hindent]
  cases r.current with
  | none => rfl
  | some current => simp

lemma readLine_header (h : Holds r sections) (hplain : PlainSection name)
    (hnew : name ∉ sections.map Prod.fst) (number : Nat) :
    ∃ r', readLine r number (headerLine name ++ ['\n']) = .ok r' ∧
      Holds r' (sections ++ [(name, [])]) ∧ r'.current = some name := by
  obtain ⟨hdefault, hne, -⟩ := hplain
  have hspace : (headerLine name ++ ['\n']).takeWhile isSpace = [] :=
    List.takeWhile_cons_of_neg (by rw [isSpace_opening]; decide)
  have hhead : readLine r number (headerLine name ++ ['\n']) =
      readHead r number (headerLine name ++ ['\n']) (headerLine name) :=
    readLine_head (trim_headerLine name) hspace (by decide) h.indent number
  have hlookup : (r.sections.lookup name).isSome = false := by
    rw [← h.names] at hnew
    have hnone := lookup_append_of_notMem hnew []
    rw [List.append_nil] at hnone
    rw [hnone]
    rfl
  rw [hhead, readHead, header?_headerLine hne]
  dsimp only
  rw [str, String.ofList_toList, readHeader, if_neg (by simpa using hdefault), hlookup,
    if_neg Bool.false_ne_true]
  refine ⟨_, rfl, ⟨h.noDefaults, ?_, h.indent, h.noBad, ?_⟩, rfl⟩
  · rw [joined, List.map_append, ← h.joined]
    rfl
  · intro p hp
    obtain ⟨options, hin, hname⟩ := h.seen p hp
    exact ⟨options, List.mem_append_left _ hin, hname⟩

lemma setOption_of_ne (r : Reading) (hname : name ≠ defaultName) (option : String) (v : Value) :
    r.setOption name option v = { r with
      sections := putPair name (putPair option v (r.currentOptions name)) r.sections } := by
  rw [setOption, if_neg (by simpa using hname)]

lemma joined_setOption (r : Reading) (hname : name ≠ defaultName) (option : String) (v : Value) :
    (r.setOption name option v).joined =
      putPair name (putPair option v.joined ((r.joined.lookup name).getD [])) r.joined := by
  have hne : (name == defaultName) = false := by simpa using hname
  have hcurrent : joinOptions (r.currentOptions name) = (r.joined.lookup name).getD [] := by
    rw [currentOptions, hne, if_neg Bool.false_ne_true, joined, lookup_map_snd]
    cases r.sections.lookup name <;> rfl
  have hput : joinOptions (putPair option v (r.currentOptions name)) =
      putPair option v.joined ((r.joined.lookup name).getD []) := by
    rw [← hcurrent]
    exact map_putPair Value.joined _ _ _
  rw [setOption_of_ne r hname, joined, map_putPair, hput]
  rfl

section

variable {options : IniSection} {o : String × String} (h : Holds r (sections ++ [(name, options)]))
  (hnew : name ∉ sections.map Prod.fst) (hoption : o.1 ∉ options.map Prod.fst)

include h hnew hoption

lemma Holds.notSeen : r.seenOptions.contains (name, o.1) = false := by
  rw [← Bool.not_eq_true, List.contains_iff_mem]
  intro hmem
  obtain ⟨options', hin, hopt⟩ := h.seen _ hmem
  rcases List.mem_append.mp hin with hin | hin
  · exact hnew (List.mem_map.mpr ⟨_, hin, rfl⟩)
  · obtain ⟨-, rfl⟩ := Prod.mk.inj (List.mem_singleton.mp hin)
    exact hoption hopt

lemma Holds.joined_setOption (hdefault : name ≠ defaultName) (hvalue : PlainValue o.2) :
    (r.setOption name o.1 (.lines [o.2.toList])).joined = sections ++ [(name, options ++ [o])] := by
  have hlookup : (r.joined.lookup name).getD [] = options := by
    rw [h.joined, lookup_append_of_notMem hnew]
    simp
  have hread : Value.joined (.lines [o.2.toList]) = o.2 := by
    have hlast : trimEnd o.2.toList = o.2.toList :=
      dropEndWhile_of_getLast? fun a => getLast?_of_trim hvalue.2
    change str (trimEnd (List.intercalate ['\n'] [o.2.toList])) = o.2
    rw [List.intercalate_singleton, hlast, str, String.ofList_toList]
  have hput : putPair o.1 o.2 options = options ++ [o] := by
    have hnil := putPair_append hoption o.2 []
    rwa [List.append_nil] at hnil
  rw [Ini.joined_setOption r hdefault, hlookup, hread, hput, h.joined, putPair_append hnew]
  simp [putPair]

lemma readLine_option (hcurrent : r.current = some name) (hdefault : name ≠ defaultName)
    (hplain : PlainName o.1) (hvalue : PlainValue o.2) (number : Nat) :
    ∃ r', readLine r number (optionLine o ++ ['\n']) = .ok r' ∧
      Holds r' (sections ++ [(name, options ++ [o])]) ∧ r'.current = some name := by
  obtain ⟨hlower, hchars, hne, hstart⟩ := id hplain
  obtain ⟨c, s, hname⟩ := List.exists_cons_of_ne_nil hne
  have hc := hstart c (by rw [hname]; rfl)
  have hspace : (optionLine o ++ ['\n']).takeWhile isSpace = [] := by
    rw [optionLine, hname]
    exact List.takeWhile_cons_of_neg (by simp [(hchars c (by simp [hname])).2.2])
  obtain ⟨t, htrimmed⟩ : ∃ t, trimmedLine o = c :: t := ⟨_, by rw [trimmedLine, hname]; rfl⟩
  have hheader : header? (trimmedLine o) = none := by
    rw [htrimmed, header?]
    exact fun t' heq => hc.1 (List.cons.inj heq).1
  have hhead : readLine r number (optionLine o ++ ['\n']) =
      readHead r number (optionLine o ++ ['\n']) (trimmedLine o) := by
    rw [htrimmed]
    exact readLine_head (by rw [trim_optionLine hplain, htrimmed]) hspace hc.2 h.indent number
  have hempty : o.1.toList.isEmpty = false := by rw [hname]; rfl
  have hkept : optionName (str o.1.toList) = o.1 := by rw [str, String.ofList_toList, hlower]
  rw [hhead, readHead, hheader, hcurrent, option?_trimmedLine hplain hvalue]
  dsimp only
  rw [hempty, if_neg Bool.false_ne_true, hkept, h.notSeen hnew hoption, if_neg Bool.false_ne_true]
  have hjoined := h.joined_setOption hnew hoption hdefault hvalue
  rw [setOption_of_ne r hdefault] at hjoined ⊢
  refine ⟨_, rfl, ⟨h.noDefaults, hjoined, h.indent, h.noBad, ?_⟩, hcurrent⟩
  intro p hp
  rcases List.mem_cons.mp hp with rfl | hp
  · exact ⟨options ++ [o], by simp, by simp⟩
  · obtain ⟨options', hin, hopt⟩ := h.seen p hp
    rcases List.mem_append.mp hin with hin | hin
    · exact ⟨options', List.mem_append_left _ hin, hopt⟩
    · obtain ⟨hsec, rfl⟩ := Prod.mk.inj (List.mem_singleton.mp hin)
      exact ⟨options' ++ [o], by simp [hsec], by simp [hopt]⟩

end

lemma intercalate_append_nil {α : Type} (sep : List α) {ls : List (List α)} (h : ls ≠ []) :
    List.intercalate sep (ls ++ [[]]) = List.intercalate sep ls ++ sep := by
  induction ls with
  | nil => exact absurd rfl h
  | cons l ls ih =>
    cases ls with
    | nil => simp [List.intercalate]
    | cons l' ls =>
      have hrest := ih (List.cons_ne_nil _ _)
      simp only [List.cons_append, List.intercalate_cons_cons] at hrest ⊢
      rw [hrest]
      simp only [List.append_assoc]

lemma joined_lines_append (ls : List Text) :
    Value.joined (.lines (ls ++ [[]])) = Value.joined (.lines ls) := by
  change str (trimEnd (List.intercalate ['\n'] (ls ++ [[]]))) =
    str (trimEnd (List.intercalate ['\n'] ls))
  by_cases hls : ls = []
  · rw [hls]
    rfl
  · rw [intercalate_append_nil _ hls, trimEnd, dropEndWhile_append_singleton, isSpace_lf,
      if_pos rfl]
    rfl

lemma joined_addLine (r : Reading) (hname : name ≠ defaultName) : (r.addLine name []).joined = r.joined := by
  unfold addLine
  split
  · next ls hls =>
    have hcurrent : r.currentOptions name = (r.sections.lookup name).getD [] :=
      if_neg (by simpa using hname)
    obtain ⟨options, hoptions⟩ : ∃ options, r.sections.lookup name = some options := by
      cases hsec : r.sections.lookup name with
      | some options => exact ⟨options, rfl⟩
      | none =>
        rw [hcurrent, hsec] at hls
        cases hls
    rw [hcurrent, hoptions] at hls
    have hjoined : r.joined.lookup name = some (joinOptions options) := by
      rw [joined, lookup_map_snd, hoptions]
      rfl
    have hoption : (joinOptions options).lookup r.option = some (Value.joined (.lines ls)) := by
      rw [joinOptions, lookup_map_snd]
      exact congrArg (Option.map Value.joined) hls
    rw [joined_setOption r hname, hjoined, joined_lines_append, Option.getD_some,
      putPair_of_lookup hoption, putPair_of_lookup hjoined]
  · rfl

lemma addLine_of_ne (r : Reading) (hname : name ≠ defaultName) (line : Text) :
    ∃ sections, r.addLine name line = { r with sections } := by
  unfold addLine
  split
  · exact ⟨_, setOption_of_ne r hname _ _⟩
  · exact ⟨r.sections, rfl⟩

lemma readLine_empty (h : Holds r sections) (hcurrent : ∀ name ∈ r.current, name ≠ defaultName)
    (number : Nat) :
    ∃ r', readLine r number ['\n'] = .ok r' ∧ Holds r' sections ∧ r'.current = r.current := by
  have htrim : trim ['\n'] = [] := by
    rw [trim, dropBothWhile, List.dropWhile_cons_of_pos isSpace_lf]
    rfl
  unfold readLine
  rw [htrim]
  cases hname : r.current with
  | none => exact ⟨r, rfl, h, hname⟩
  | some name =>
    have hdefault := hcurrent name hname
    refine ⟨if r.option.isEmpty then r else r.addLine name [], rfl, ?_⟩
    split
    · exact ⟨h, hname⟩
    · have hjoined := joined_addLine r hdefault
      obtain ⟨sections', hadd⟩ := addLine_of_ne r hdefault []
      rw [hadd] at hjoined ⊢
      exact ⟨⟨h.noDefaults, hjoined.trans h.joined, h.indent, h.noBad, h.seen⟩, hname⟩

/-- A section that is read as it was written. -/
structure WritableSection (s : String × IniSection) : Prop where
  name : PlainSection s.1
  names : ∀ o ∈ s.2, PlainName o.1
  values : ∀ o ∈ s.2, PlainValue o.2
  nodup : (s.2.map Prod.fst).Nodup

/-- A settings file that is read as it was written. -/
structure Writable (ini : Ini) : Prop where
  noDefaults : ini.defaults = []
  sections : ∀ s ∈ ini.sections, WritableSection s
  nodup : (ini.sections.map Prod.fst).Nodup

def ended (lines : List Text) : List Text := lines.map (· ++ ['\n'])

lemma readLines_cons {line : Text} {number : Nat} {r' : Reading} (h : readLine r number line = .ok r')
    (lines : List Text) : readLines r number (line :: lines) = readLines r' (number + 1) lines := by
  rw [readLines, h]
  rfl

lemma fst_notMem_of_nodup {α : Type} {l more : List (String × α)} {p : String × α}
    (h : ((l ++ p :: more).map Prod.fst).Nodup) : p.1 ∉ l.map Prod.fst := by
  rw [List.map_append] at h
  exact fun hmem => (List.nodup_append.mp h).2.2 _ hmem _ List.mem_cons_self rfl

lemma readLines_options {options more : IniSection} (h : Holds r (sections ++ [(name, options)]))
    (hcurrent : r.current = some name) (hdefault : name ≠ defaultName)
    (hnew : name ∉ sections.map Prod.fst) (hnames : ∀ o ∈ more, PlainName o.1)
    (hvalues : ∀ o ∈ more, PlainValue o.2) (hnodup : ((options ++ more).map Prod.fst).Nodup)
    (number : Nat) (lines : List Text) :
    ∃ r' number', readLines r number (ended (more.map optionLine) ++ lines) = readLines r' number' lines ∧
      Holds r' (sections ++ [(name, options ++ more)]) ∧ r'.current = some name := by
  induction more generalizing r options number with
  | nil => exact ⟨r, number, rfl, by rwa [List.append_nil], hcurrent⟩
  | cons o more ih =>
    obtain ⟨hname, hnames⟩ := List.forall_mem_cons.mp hnames
    obtain ⟨hvalue, hvalues⟩ := List.forall_mem_cons.mp hvalues
    obtain ⟨r₁, hline, h₁, hcurrent₁⟩ :=
      readLine_option h hnew (fst_notMem_of_nodup hnodup) hcurrent hdefault hname hvalue number
    obtain ⟨r', number', hlines, h', hcurrent'⟩ :=
      ih h₁ hcurrent₁ hnames hvalues (by simpa using hnodup) (number + 1)
    refine ⟨r', number', ?_, by simpa using h', hcurrent'⟩
    rw [← hlines]
    exact readLines_cons hline _

def sectionLines (s : String × IniSection) : List Text :=
  headerLine s.1 :: s.2.map optionLine ++ [[]]

lemma readLines_section (h : Holds r sections) {s : String × IniSection} (hs : WritableSection s)
    (hnew : s.1 ∉ sections.map Prod.fst) (number : Nat) (lines : List Text) :
    ∃ r' number', readLines r number (ended (sectionLines s) ++ lines) = readLines r' number' lines ∧
      Holds r' (sections ++ [s]) ∧ r'.current = some s.1 := by
  obtain ⟨r₁, hheader, h₁, hcurrent₁⟩ := readLine_header h hs.name hnew number
  obtain ⟨r₂, number₂, hoptions, h₂, hcurrent₂⟩ := readLines_options h₁ hcurrent₁ hs.name.1 hnew
    hs.names hs.values (by simpa using hs.nodup) (number + 1) (['\n'] :: lines)
  obtain ⟨r', hempty, h', hcurrent'⟩ := readLine_empty h₂ (by simp [hcurrent₂, hs.name.1]) number₂
  refine ⟨r', number₂ + 1, ?_, h', hcurrent'.trans hcurrent₂⟩
  have hsplit : ended (sectionLines s) ++ lines = (headerLine s.1 ++ ['\n']) ::
      (ended (s.2.map optionLine) ++ ['\n'] :: lines) := by simp [sectionLines, ended]
  rw [hsplit, readLines_cons hheader, hoptions, readLines_cons hempty]

lemma readLines_sections (h : Holds r sections) {more : List (String × IniSection)}
    (hmore : ∀ s ∈ more, WritableSection s) (hnodup : ((sections ++ more).map Prod.fst).Nodup)
    (number : Nat) (lines : List Text) :
    ∃ r' number', readLines r number (more.flatMap (fun s => ended (sectionLines s)) ++ lines) =
      readLines r' number' lines ∧ Holds r' (sections ++ more) ∧
      (r'.current = r.current ∨ ∃ s ∈ more, r'.current = some s.1) := by
  induction more generalizing r sections number with
  | nil => exact ⟨r, number, rfl, by rwa [List.append_nil], .inl rfl⟩
  | cons s more ih =>
    obtain ⟨hs, hmore⟩ := List.forall_mem_cons.mp hmore
    obtain ⟨r₁, number₁, hsection, h₁, hcurrent₁⟩ :=
      readLines_section h hs (fst_notMem_of_nodup hnodup) number
      (more.flatMap (fun s => ended (sectionLines s)) ++ lines)
    obtain ⟨r', number', hrest, h', hcurrent'⟩ := ih h₁ hmore (by simpa using hnodup) number₁
    refine ⟨r', number', ?_, by simpa using h', .inr ?_⟩
    · rw [List.flatMap_cons, List.append_assoc, hsection, hrest]
    · rcases hcurrent' with hsame | ⟨s', hs', hlater⟩
      · exact ⟨s, List.mem_cons_self, hsame.trans hcurrent₁⟩
      · exact ⟨s', List.mem_cons_of_mem _ hs', hlater⟩

lemma readLines_empty (h : Holds r sections) (hcurrent : ∀ name ∈ r.current, name ≠ defaultName)
    (number count : Nat) : ∃ r', readLines r number (List.replicate count ['\n']) = .ok r' ∧
      Holds r' sections := by
  induction count generalizing r number with
  | zero => exact ⟨r, rfl, h⟩
  | succ count ih =>
    obtain ⟨r₁, hline, h₁, hcurrent₁⟩ := readLine_empty h hcurrent number
    rw [List.replicate_succ, readLines_cons hline]
    exact ih h₁ (by rwa [hcurrent₁]) _

lemma lfLines_ended {lines : List Text} (h : ∀ line ∈ lines, '\n' ∉ line) (rest : Text) :
    lfLines ((ended lines).flatten ++ rest) = ended lines ++ lfLines rest := by
  induction lines with
  | nil => rfl
  | cons line lines ih =>
    obtain ⟨hline, hlines⟩ := List.forall_mem_cons.mp h
    have hsplit : (ended (line :: lines)).flatten ++ rest =
        line ++ '\n' :: ((ended lines).flatten ++ rest) := by simp [ended]
    rw [hsplit, LineFix.lfLines_append_lf hline, ih hlines]
    rfl

lemma writeSection_eq {s : String × IniSection} (hs : WritableSection s) :
    writeSection s.1 s.2 = (ended (sectionLines s)).flatten := by
  have hvalue : ∀ o ∈ s.2, o.1.toList ++ " = ".toList ++
      o.2.toList.flatMap (fun c => if c == '\n' then ['\n', '\t'] else [c]) ++ ['\n'] =
      optionLine o ++ ['\n'] := by
    intro o ho
    have hsame : o.2.toList.flatMap (fun c => if c == '\n' then ['\n', '\t'] else [c]) =
        o.2.toList.flatMap fun c => [c] := by
      refine List.flatMap_congr fun c hc => if_neg ?_
      simpa using ((hs.values o ho).1 c hc).1
    rw [hsame, List.flatMap_singleton', optionLine]
  have hheader : ("[" ++ s.1 ++ "]\n").toList = headerLine s.1 ++ ['\n'] := by simp [headerLine]
  rw [writeSection, hheader, List.flatMap_congr hvalue]
  simp [ended, sectionLines, List.flatMap_def, Function.comp_def]

lemma isSpace_cr : isSpace '\r' = true := by decide +kernel

lemma notMem_sectionLines {s : String × IniSection} (hs : WritableSection s) {c : Char}
    (hc : c = '\n' ∨ c = '\r') : ∀ line ∈ sectionLines s, c ∉ line := by
  intro line hline hmem
  have hspace : isSpace c = true := by
    rcases hc with rfl | rfl
    · exact isSpace_lf
    · exact isSpace_cr
  have hplain : ¬(c ≠ '\n' ∧ c ≠ '\r') := by tauto
  rcases List.mem_append.mp hline with hline | hline
  · rcases List.mem_cons.mp hline with rfl | hline
    · have hname : c ∈ s.1.toList := by
        rcases hc with rfl | rfl <;> simpa [headerLine] using hmem
      exact hplain (hs.name.2.2 _ hname)
    · obtain ⟨o, ho, rfl⟩ := List.mem_map.mp hline
      have hmark : c ∉ " = ".toList := by rcases hc with rfl | rfl <;> decide
      rcases List.mem_append.mp hmem with hmem | hmem
      · have hname := (List.mem_append.mp hmem).resolve_right hmark
        rw [((hs.names o ho).2.1 _ hname).2.2] at hspace
        cases hspace
      · exact hplain ((hs.values o ho).1 _ hmem)
  · rw [List.mem_singleton.mp hline] at hmem
    cases hmem

lemma write_eq {ini : Ini} (h : ini.Writable) :
    ini.write = ini.sections.flatMap fun s => (ended (sectionLines s)).flatten := by
  rw [write, h.noDefaults, List.isEmpty_nil, if_pos rfl, List.nil_append]
  exact List.flatMap_congr fun s hs => writeSection_eq (h.sections s hs)

lemma cr_notMem_write {ini : Ini} (h : ini.Writable) : '\r' ∉ ini.write := by
  rw [write_eq h]
  intro hmem
  obtain ⟨s, hs, hmem⟩ := List.mem_flatMap.mp hmem
  obtain ⟨line, hline, hmem⟩ := List.mem_flatten.mp hmem
  obtain ⟨line', hline', rfl⟩ := List.mem_map.mp hline
  have hnot := notMem_sectionLines (h.sections s hs) (.inr rfl) line' hline'
  exact hnot ((List.mem_append.mp hmem).resolve_right (by decide))

lemma lfLines_write {ini : Ini} (h : ini.Writable) (rest : Text) :
    lfLines (ini.write ++ rest) = ini.sections.flatMap (fun s => ended (sectionLines s)) ++ lfLines rest := by
  have hlines : ∀ s ∈ ini.sections, ∀ line ∈ sectionLines s, '\n' ∉ line :=
    fun s hs => notMem_sectionLines (h.sections s hs) (.inl rfl)
  rw [write_eq h]
  generalize ini.sections = sections at hlines
  induction sections with
  | nil => rfl
  | cons s sections ih =>
    obtain ⟨hs, hsections⟩ := List.forall_mem_cons.mp hlines
    rw [List.flatMap_cons, List.append_assoc, lfLines_ended hs, ih hsections, List.flatMap_cons,
      List.append_assoc]

/-- Reading the text of a settings file gives what was written. -/
theorem read_write {ini : Ini} (h : ini.Writable) (source : String) (count : Nat) :
    Ini.read {} source (ini.write ++ List.replicate count '\n') = .ok ini := by
  have hblank : lfLines (List.replicate count '\n') = List.replicate count ['\n'] := by
    induction count with
    | zero => rfl
    | succ count ih =>
      rw [List.replicate_succ, List.replicate_succ, ← ih]
      rfl
  have hstart : Holds (start {} source) [] := ⟨rfl, rfl, rfl, rfl, fun p hp => by cases hp⟩
  obtain ⟨r₁, number, hlines, h₁, hcurrent⟩ := readLines_sections hstart h.sections
    (by simpa using h.nodup) 1 (List.replicate count ['\n'])
  have hdefault : ∀ name ∈ r₁.current, name ≠ defaultName := by
    intro name hname
    rcases hcurrent with hnone | ⟨s, hs, hsome⟩
    · rw [hnone] at hname
      cases hname
    · rw [hsome] at hname
      cases hname
      exact (h.sections s hs).name.1
  obtain ⟨r, hrest, hr⟩ := readLines_empty h₁ hdefault number count
  rw [Ini.read, lfLines_write h, hblank, hlines, hrest]
  change finish r = .ok ini
  have hini : ini = ⟨[], ini.sections⟩ := by rw [← h.noDefaults]
  rw [finish, hr.noBad, List.isEmpty_nil, if_pos rfl, hr.noDefaults]
  exact congrArg Except.ok ((congrArg (Ini.mk []) hr.joined).trans hini.symm)

end SourceTidy.Ini
