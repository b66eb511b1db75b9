import SourceTidy.Check.Basic
import SourceTidy.Proofs.Utf8

/-!
# The lines that checks show

Checks look at bytes, but a check that points at a line shows it as text. This file says which line
each check shows. A check gives its verdict if that line is UTF-8, and fails to answer otherwise.
-/

namespace SourceTidy

open Text

variable {data s : Bytes} {check : Check} {limit : Int} {b : UInt8}

namespace Text

def endsLine (b : UInt8) : Bool := b == lf || b == cr

def lastLine (s : Bytes) : Bytes := (s.reverse.takeWhile (!endsLine ·)).reverse

lemma lastLine_of_forall (h : ∀ b ∈ s, endsLine b = false) : lastLine s = s := by
  have happ : (s.reverse ++ []).takeWhile (!endsLine ·) = s.reverse ++ [].takeWhile (!endsLine ·) :=
    List.takeWhile_append_of_pos (by simpa using h)
  rw [lastLine, ← List.append_nil s.reverse, happ]
  simp

lemma lastLine_append (hb : endsLine b = true) (s : Bytes) {r : Bytes}
    (hr : ∀ b ∈ r, endsLine b = false) : lastLine (s ++ b :: r) = r := by
  have hpos : ∀ b ∈ r.reverse, (!endsLine b) = true := by simpa using hr
  rw [lastLine, List.reverse_append, List.reverse_cons, List.append_assoc,
    List.takeWhile_append_of_pos hpos]
  simp [hb]

lemma lastLine_append_singleton (hb : endsLine b = false) (s : Bytes) :
    lastLine (s ++ [b]) = lastLine s ++ [b] := by
  rw [lastLine, List.reverse_append, List.reverse_singleton, List.singleton_append,
    List.takeWhile_cons_of_pos (by simpa using hb), List.reverse_cons, lastLine]

lemma lastLine_cases (s : Bytes) : (∀ b ∈ lastLine s, endsLine b = false) ∧
    (s = lastLine s ∨ ∃ r b, endsLine b = true ∧ s = r ++ b :: lastLine s) := by
  induction s with
  | nil => exact ⟨by simp [lastLine], .inl rfl⟩
  | cons a s ih =>
    obtain ⟨hfree, hs | ⟨r, b, hb, hs⟩⟩ := ih
    · rw [← hs] at hfree
      by_cases ha : endsLine a = true
      · have hlast : lastLine (a :: s) = s := lastLine_append ha [] hfree
        rw [hlast]
        exact ⟨hfree, .inr ⟨[], a, ha, rfl⟩⟩
      · have hall : ∀ b ∈ a :: s, endsLine b = false := by
          intro b hb
          rcases List.mem_cons.mp hb with rfl | hb
          · simpa using ha
          · exact hfree b hb
        rw [lastLine_of_forall hall]
        exact ⟨hall, .inl rfl⟩
    · have hlast : lastLine (a :: s) = lastLine s := by
        conv_lhs => rw [hs]
        exact lastLine_append hb (a :: r) hfree
      rw [hlast]
      exact ⟨hfree, .inr ⟨a :: r, b, hb, by rw [List.cons_append, ← hs]⟩⟩

lemma byteLines_crlf (s : Bytes) : byteLines (cr :: lf :: s) = [] :: byteLines s := by
  rw [byteLines, if_pos (by decide)]

lemma byteLines_end (hb : endsLine b = true) (hs : ¬(b = cr ∧ s.head? = some lf)) :
    byteLines (b :: s) = [] :: byteLines s := by
  unfold endsLine at hb
  cases s with
  | nil => simp [byteLines, hb]
  | cons c s => rw [byteLines, if_neg (by simpa using hs), if_pos hb]

lemma byteLines_cons (hb : endsLine b = false) (s : Bytes) :
    byteLines (b :: s) = consLine b (byteLines s) := by
  unfold endsLine at hb
  cases s with
  | nil => simp [byteLines, hb, consLine]
  | cons c s =>
    have hcr : b ≠ cr := by
      rintro rfl
      exact absurd hb (by decide)
    rw [byteLines, if_neg (by simp [hcr]), if_neg (by simp [hb])]

lemma consLine_append {a : UInt8} {xs : List Bytes} (hxs : xs ≠ []) (ys : List Bytes) :
    consLine a (xs ++ ys) = consLine a xs ++ ys := by
  cases xs with
  | nil => exact absurd rfl hxs
  | cons x xs => rfl

lemma byteLines_ne_nil (hs : s ≠ []) : byteLines s ≠ [] := by
  cases s with
  | nil => exact absurd rfl hs
  | cons b s =>
    by_cases hb : endsLine b = true
    · by_cases hc : b = cr ∧ s.head? = some lf
      · obtain ⟨rfl, hc⟩ := hc
        obtain ⟨s, rfl⟩ := List.head?_eq_some_iff.mp hc
        rw [byteLines_crlf]
        exact List.cons_ne_nil _ _
      · rw [byteLines_end hb hc]
        exact List.cons_ne_nil _ _
    · rw [byteLines_cons (by simpa using hb)]
      cases byteLines s <;> exact List.cons_ne_nil _ _

/-- Lines up to a terminator do not depend on what follows, unless the terminator goes on. -/
lemma byteLines_append (s : Bytes) (hb : endsLine b = true) {r : Bytes} (hr : ¬(b = cr ∧ r.head? = some lf)) :
    byteLines (s ++ b :: r) = byteLines (s ++ [b]) ++ byteLines r := by
  induction hn : s.length using Nat.strongRecOn generalizing s with
  | ind n ih =>
    cases s with
    | nil =>
      rw [List.nil_append, List.nil_append, byteLines_end hb hr, byteLines_end hb (by simp)]
      rfl
    | cons a s =>
      have hrest := ih s.length (by simp [← hn]) s rfl
      rw [List.cons_append, List.cons_append]
      by_cases ha : endsLine a = false
      · rw [byteLines_cons ha, hrest, consLine_append (byteLines_ne_nil (by simp)), byteLines_cons ha]
      rw [Bool.not_eq_false] at ha
      by_cases hcr : a = cr ∧ (s ++ [b]).head? = some lf
      · obtain ⟨rfl, hhead⟩ := hcr
        cases s with
        | nil =>
          obtain rfl : b = lf := by simpa using hhead
          rw [List.nil_append, List.nil_append, byteLines_crlf, byteLines_crlf]
          rfl
        | cons c s =>
          obtain rfl : c = lf := by simpa using hhead
          rw [List.cons_append, List.cons_append, byteLines_crlf, byteLines_crlf,
            ih s.length (by rw [← hn, List.length_cons, List.length_cons]; omega) s rfl]
          rfl
      · have hcr' : ¬(a = cr ∧ (s ++ b :: r).head? = some lf) := by
          cases s <;> simpa using hcr
        rw [byteLines_end ha hcr', byteLines_end ha hcr, hrest]
        rfl

lemma byteLines_of_forall (hs : ∀ b ∈ s, endsLine b = false) (hne : s ≠ []) : byteLines s = [s] := by
  induction s with
  | nil => exact absurd rfl hne
  | cons a s ih =>
    rw [byteLines_cons (hs a List.mem_cons_self)]
    by_cases hs' : s = []
    · rw [hs']
      rfl
    · rw [ih (fun b hb => hs b (List.mem_cons_of_mem _ hb)) hs']
      rfl

/-- What holds of the bytes of every line and of line terminators holds of all bytes. -/
lemma all_byteLines {p : UInt8 → Bool} (hp : ∀ b, endsLine b = true → p b = true) (s : Bytes) :
    (byteLines s).all (·.all p) = s.all p := by
  have hcons : ∀ b (lines : List Bytes),
      (consLine b lines).all (·.all p) = (p b && lines.all (·.all p)) := by
    intro b lines
    cases lines with
    | nil => simp [consLine]
    | cons line lines => simp [consLine, Bool.and_assoc]
  fun_induction byteLines s with
  | case1 => rfl
  | case2 b hb => simp [hp b hb]
  | case3 => simp
  | case4 b c s hbc ih =>
    rw [Bool.and_eq_true, beq_iff_eq, beq_iff_eq] at hbc
    obtain ⟨rfl, rfl⟩ := hbc
    simp [ih, hp cr (by decide), hp lf (by decide)]
  | case5 b c s _ hb ih => simpa [hp b hb] using ih
  | case6 b c s _ _ ih =>
    rw [hcons, ih]
    rfl

lemma getLastD_byteLines (hs : lastLine s ≠ []) : (byteLines s).getLastD [] = lastLine s := by
  obtain ⟨hfree, hs' | ⟨r, b, hb, hs'⟩⟩ := lastLine_cases s
  · rw [byteLines_of_forall (hs' ▸ hfree) (hs' ▸ hs), ← hs']
    rfl
  · have hhead : ¬(b = cr ∧ (lastLine s).head? = some lf) := by
      rintro ⟨-, hlf⟩
      exact absurd (hfree lf (List.mem_of_head? hlf)) (by decide)
    conv_lhs => rw [hs', byteLines_append r hb hhead, byteLines_of_forall hfree hs]
    simp

lemma byteLines_line (hs : ∀ b ∈ s, endsLine b = false) {terminator : Bytes}
    (ht : byteLines terminator = [[]]) : byteLines (s ++ terminator) = [s] := by
  induction s with
  | nil => exact ht
  | cons a s ih =>
    rw [List.cons_append, byteLines_cons (hs a List.mem_cons_self),
      ih fun b hb => hs b (List.mem_cons_of_mem _ hb)]
    rfl

lemma getLastD_byteLines_end {s terminator : Bytes} (ht : byteLines terminator = [[]])
    (hs : ¬(s.getLast? = some cr ∧ terminator.head? = some lf)) :
    (byteLines (s ++ terminator)).getLastD [] = lastLine s := by
  obtain ⟨hfree, hs' | ⟨r, a, ha, hs'⟩⟩ := lastLine_cases s
  · conv_lhs => rw [hs', byteLines_line hfree ht]
    rfl
  · have hhead : ¬(a = cr ∧ (lastLine s ++ terminator).head? = some lf) := by
      rintro ⟨rfl, hlf⟩
      cases hl : lastLine s with
      | nil =>
        rw [hl] at hlf hs'
        exact hs ⟨by rw [hs']; simp, hlf⟩
      | cons b l =>
        rw [hl, List.cons_append, List.head?_cons, Option.some.injEq] at hlf
        exact absurd (hfree b (by simp [hl])) (by rw [hlf]; decide)
    conv_lhs =>
      rw [hs', List.append_assoc, List.cons_append, byteLines_append r ha hhead,
        byteLines_line hfree ht]
    simp

end Text

namespace Check

variable {test : Option UInt8 → Bytes → Option Nat}

lemma getLast?_cons_or (b : UInt8) (s : Bytes) (before : Option UInt8) :
    (b :: s).getLast?.or before = s.getLast?.or (some b) := by
  rw [List.getLast?_cons]
  cases s.getLast? <;> rfl

lemma throughFirst_eq_none {before : Option UInt8} (h : throughFirst test before s = none)
    {pre post : Bytes} (hs : s = pre ++ post) (hpost : post ≠ []) :
    test (pre.getLast?.or before) post = none := by
  induction s generalizing before pre with
  | nil => exact absurd (List.append_eq_nil_iff.mp hs.symm).2 hpost
  | cons b s ih =>
    rw [throughFirst] at h
    cases htest : test before (b :: s) with
    | some n => rw [htest] at h; cases h
    | none =>
      rw [htest] at h
      have hrest : throughFirst test (some b) s = none := by simpa using h
      cases pre with
      | nil =>
        rw [List.nil_append] at hs
        rwa [← hs]
      | cons a pre =>
        obtain ⟨rfl, hs'⟩ := List.cons.inj hs
        rw [getLast?_cons_or]
        exact ih hrest hs'

lemma throughFirst_eq_some {before : Option UInt8} {s start : Bytes}
    (h : throughFirst test before s = some start) : ∃ pre post n, s = pre ++ post ∧
      test (pre.getLast?.or before) post = some n ∧ start = pre ++ post.take n ∧
      ∀ pre' post', s = pre' ++ post' → pre'.length < pre.length →
        test (pre'.getLast?.or before) post' = none := by
  induction s generalizing before start with
  | nil => cases h
  | cons b s ih =>
    rw [throughFirst] at h
    cases htest : test before (b :: s) with
    | some n =>
      rw [htest] at h
      cases h
      exact ⟨[], b :: s, n, rfl, htest, rfl, by simp⟩
    | none =>
      rw [htest] at h
      obtain ⟨start, hstart, rfl⟩ := Option.map_eq_some_iff.mp h
      obtain ⟨pre, post, n, rfl, hn, rfl, hfirst⟩ := ih hstart
      refine ⟨b :: pre, post, n, rfl, by rwa [getLast?_cons_or], rfl, ?_⟩
      intro pre' post' hs hlt
      cases pre' with
      | nil =>
        rw [List.nil_append] at hs
        rwa [← hs]
      | cons a pre' =>
        obtain ⟨rfl, hs'⟩ := List.cons.inj hs
        rw [getLast?_cons_or]
        exact hfirst pre' post' hs' (by simpa using hlt)

/-- A check finds something at the place between two parts of a content, and shows a line for it. -/
inductive Occurs : Check → Bytes → Bytes → Bytes → Prop where
  | tab (pre rest : Bytes) : Occurs .tabs pre (0x09 :: rest) (lastLine pre ++ [0x09])
  | crlf (pre rest : Bytes) :
      Occurs (.lineEndings .native) pre (cr :: lf :: rest) (lastLine pre)
  | lf (pre rest : Bytes) (h : pre.getLast? ≠ some cr) :
      Occurs (.lineEndings .win) pre (lf :: rest) (lastLine pre)
  | blank (terminator pre rest : Bytes) {b : UInt8} (h : isBlankByte b = true) :
      Occurs (.trailing terminator) pre (b :: (terminator ++ rest)) (lastLine pre ++ [b])

/-- The line that a check shows for the first place where it finds something. -/
def ShowsFirst (data : Bytes) (check : Check) (line : Bytes) : Prop :=
  ∃ pre post, data = pre ++ post ∧ Occurs check pre post line ∧
    ∀ pre' post' line', data = pre' ++ post' → Occurs check pre' post' line' →
      pre.length ≤ pre'.length

/-- The first of some lines that is longer than a limit. -/
def FirstLong (limit : Int) (lines : List Bytes) (line : Bytes) : Prop :=
  ∃ before after, lines = before ++ line :: after ∧ (∀ l ∈ before, (l.length : Int) ≤ limit) ∧
    limit < line.length

/-- The line that a check shows as text. -/
def Shows (data : Bytes) : Check → Bytes → Prop
  | .lineLength (.eol e) (.int limit) =>
    FirstLong limit (splitOn (encodeString e.terminator) data)
  | check => ShowsFirst data check

/-- A test finds the places where a check finds something, and cuts off after the line it shows. -/
structure Locates (check : Check) (test : Option UInt8 → Bytes → Option Nat) : Prop where
  occurs : ∀ {pre post n}, test pre.getLast? post = some n → ∃ line, Occurs check pre post line
  finds : ∀ {pre post line}, Occurs check pre post line → ∃ n, test pre.getLast? post = some n ∧
    post ≠ [] ∧ (byteLines (pre ++ post.take n)).getLastD [] = line

lemma endsLine_of_blank (h : isBlankByte b = true) : endsLine b = false := by
  rw [isBlankByte, Bool.or_eq_true, beq_iff_eq, beq_iff_eq] at h
  rcases h with rfl | rfl <;> decide

lemma locates_tabs : Locates .tabs tabAt where
  occurs {pre post n} h := by
    unfold tabAt at h
    split at h
    · next hhead =>
      obtain ⟨rest, rfl⟩ := List.head?_eq_some_iff.mp (by simpa using hhead)
      exact ⟨_, .tab pre rest⟩
    · cases h
  finds {pre post line} h := by
    cases h with
    | tab =>
      have hline := lastLine_append_singleton (show endsLine 0x09 = false by decide) pre
      refine ⟨1, rfl, List.cons_ne_nil _ _, ?_⟩
      rw [List.take_succ_cons, List.take_zero, getLastD_byteLines (by simp [hline]), hline]

lemma locates_lineEndings (e : Eol) : Locates (.lineEndings e) (otherEolAt e) where
  occurs {pre post n} h := by
    cases e with
    | native =>
      rw [otherEolAt] at h
      split at h
      · next hprefix =>
        obtain ⟨rest, rfl⟩ := List.isPrefixOf_iff_prefix.mp hprefix
        exact ⟨_, .crlf pre rest⟩
      · cases h
    | win =>
      rw [otherEolAt] at h
      split at h
      · next hlf =>
        rw [Bool.and_eq_true, beq_iff_eq, bne_iff_ne] at hlf
        obtain ⟨rest, rfl⟩ := List.head?_eq_some_iff.mp hlf.1
        exact ⟨_, .lf pre rest hlf.2⟩
      · cases h
  finds {pre post line} h := by
    cases h with
    | crlf =>
      have hline : (byteLines (pre ++ [cr, lf])).getLastD [] = lastLine pre :=
        getLastD_byteLines_end (by decide) fun h => absurd h.2 (by decide)
      exact ⟨2, rfl, List.cons_ne_nil _ _, hline⟩
    | lf _ _ hpre =>
      have hline : (byteLines (pre ++ [lf])).getLastD [] = lastLine pre :=
        getLastD_byteLines_end (by decide) fun h => hpre h.1
      exact ⟨1, by simp [otherEolAt, hpre], List.cons_ne_nil _ _, hline⟩

lemma locates_trailing (e : Eol) : Locates (.trailing (encodeString e.terminator))
    (trailingAt (encodeString e.terminator)) where
  occurs {pre post n} h := by
    cases post with
    | nil => cases h
    | cons b post =>
      rw [trailingAt] at h
      split at h
      · next hb =>
        rw [Bool.and_eq_true] at hb
        obtain ⟨rest, rfl⟩ := List.isPrefixOf_iff_prefix.mp hb.2
        exact ⟨_, .blank _ pre rest hb.1⟩
      · cases h
  finds {pre post line} h := by
    cases h with
    | @blank _ _ rest b hb =>
      have hend : endsLine b = false := endsLine_of_blank hb
      have hline := lastLine_append_singleton hend pre
      refine ⟨(encodeString e.terminator).length + 1, ?_, List.cons_ne_nil _ _, ?_⟩
      · simp [trailingAt, hb, List.isPrefixOf_iff_prefix]
      · rw [List.take_succ_cons, List.take_left, ← hline, List.append_cons]
        refine getLastD_byteLines_end (by cases e <;> decide) fun h => ?_
        obtain rfl : b = cr := by simpa using h.1
        exact absurd hend (by decide)

/-- A check shows one line for the first place where it finds something. -/
lemma ShowsFirst.unique (hloc : Locates check test) {data line line' : Bytes}
    (h : ShowsFirst data check line) (h' : ShowsFirst data check line') : line' = line := by
  obtain ⟨pre, post, rfl, hocc, hfirst⟩ := h
  obtain ⟨pre', post', hdata, hocc', hfirst'⟩ := h'
  have hlen : pre.length = pre'.length :=
    Nat.le_antisymm (hfirst pre' post' line' hdata hocc') (hfirst' pre post line rfl hocc)
  obtain ⟨rfl, rfl⟩ := List.append_inj hdata hlen
  obtain ⟨n, hn, -, rfl⟩ := hloc.finds hocc
  obtain ⟨n', hn', -, rfl⟩ := hloc.finds hocc'
  rw [hn] at hn'
  cases hn'
  rfl

lemma firstOccurrence_of_forall (hloc : Locates check test) (what : String)
    (h : ∀ pre post line, data = pre ++ post → ¬Occurs check pre post line) :
    firstOccurrence what test data = .ok .pass := by
  unfold firstOccurrence
  cases hstart : throughFirst test none data with
  | none => rfl
  | some start =>
    obtain ⟨pre, post, n, hdata, hn, -⟩ := throughFirst_eq_some hstart
    rw [Option.or_none] at hn
    obtain ⟨line, hocc⟩ := hloc.occurs hn
    exact absurd hocc (h pre post line hdata)

/-- The answer of something that shows the given lines: there is one if they are UTF-8, and otherwise
one of them is to blame. -/
def Answers {α : Type} (shows : Bytes → Prop) (r : Except Fault α) : Prop :=
  (∃ a, r = .ok a ∧ ∀ line, shows line → IsUtf8 line) ∨
    ∃ u line, r = .error (.undecodable u) ∧ shows line ∧ ¬IsUtf8 line

section

variable {α β : Type} {shows shows' : Bytes → Prop} {r : Except Fault α}

lemma answers_ok (h : ∀ line, ¬shows line) (a : α) : Answers shows (.ok a : Except Fault α) :=
  .inl ⟨a, rfl, fun line hline => absurd hline (h line)⟩

lemma Answers.map (h : Answers shows r) (g : α → β) : Answers shows (r.map g) := by
  obtain ⟨a, rfl, hall⟩ | ⟨u, line, rfl, hline, hbad⟩ := h
  · exact .inl ⟨g a, rfl, hall⟩
  · exact .inr ⟨u, line, rfl, hline, hbad⟩

/-- Lines that are UTF-8 can be added to those that are shown. -/
lemma Answers.mono (h : Answers shows r) (hmore : ∀ line, shows line → shows' line)
    (hutf8 : ∀ line, shows' line → shows line ∨ IsUtf8 line) : Answers shows' r := by
  obtain ⟨a, rfl, hall⟩ | ⟨u, line, rfl, hline, hbad⟩ := h
  · exact .inl ⟨a, rfl, fun line hline => (hutf8 line hline).elim (hall line) id⟩
  · exact .inr ⟨u, line, rfl, hmore line hline, hbad⟩

lemma Answers.isOk_iff (h : Answers shows r) : (∃ a, r = .ok a) ↔ ∀ line, shows line → IsUtf8 line := by
  obtain ⟨a, rfl, hall⟩ | ⟨u, line, rfl, hline, hbad⟩ := h
  · exact ⟨fun _ => hall, fun _ => ⟨a, rfl⟩⟩
  · refine ⟨?_, fun hall => absurd (hall line hline) hbad⟩
    rintro ⟨a, ⟨⟩⟩

lemma Answers.undecodable (h : Answers shows r) {fault : Fault} (hr : r = .error fault) :
    ∃ u, fault = .undecodable u := by
  obtain ⟨a, rfl, -⟩ | ⟨u, line, rfl, -⟩ := h
  · cases hr
  · cases hr
    exact ⟨u, rfl⟩

end

lemma answers_decode {shows : Bytes → Prop} {line : Bytes} (h : ∀ l, shows l ↔ l = line)
    (v : Text → Verdict) : Answers shows (do return v (← (decodeUtf8 line).mapError Fault.undecodable)) := by
  cases hd : decodeUtf8 line with
  | ok s =>
    refine .inl ⟨v s, rfl, fun l hl => ?_⟩
    rw [(h l).mp hl]
    exact ⟨s, decodeUtf8_eq_ok_iff.mp hd⟩
  | error u => exact .inr ⟨u, line, rfl, (h line).mpr rfl, decodeUtf8_eq_error_iff.mp ⟨u, hd⟩⟩

lemma firstOccurrence_answers (hloc : Locates check test) (what : String) (data : Bytes) :
    Answers (ShowsFirst data check) (firstOccurrence what test data) := by
  unfold firstOccurrence
  cases hstart : throughFirst test none data with
  | none =>
    refine answers_ok ?_ Verdict.pass
    rintro line ⟨pre, post, hdata, hocc, -⟩
    obtain ⟨n, hn, hne, -⟩ := hloc.finds hocc
    have hnone := throughFirst_eq_none hstart hdata hne
    rw [Option.or_none, hn] at hnone
    cases hnone
  | some start =>
    obtain ⟨pre, post, n, hdata, hn, rfl, hfirst⟩ := throughFirst_eq_some hstart
    simp only [Option.or_none] at hn hfirst
    obtain ⟨line, hocc⟩ := hloc.occurs hn
    have hshows : ShowsFirst data check line := by
      refine ⟨pre, post, hdata, hocc, fun pre' post' line' hdata' hocc' => ?_⟩
      by_contra hlt
      obtain ⟨k, hk, -⟩ := hloc.finds hocc'
      rw [hfirst pre' post' hdata' (Nat.lt_of_not_le hlt)] at hk
      cases hk
    obtain ⟨n', hn', -, rfl⟩ := hloc.finds hocc
    rw [hn] at hn'
    cases hn'
    exact answers_decode (fun l => ⟨hshows.unique hloc, fun h => h ▸ hshows⟩) _

lemma firstLong_cons_of_lt {l : Bytes} (hl : limit < l.length) (lines : List Bytes) (line : Bytes) :
    FirstLong limit (l :: lines) line ↔ line = l := by
  constructor
  · rintro ⟨before, after, h, hbefore, -⟩
    cases before with
    | nil => exact (List.cons.inj h).1.symm
    | cons b before =>
      obtain ⟨rfl, -⟩ := List.cons.inj h
      exact absurd hl (Int.not_lt.mpr (hbefore l List.mem_cons_self))
  · rintro rfl
    exact ⟨[], lines, rfl, by simp, hl⟩

lemma firstLong_cons_of_le {l : Bytes} (hl : l.length ≤ limit) (lines : List Bytes) :
    FirstLong limit (l :: lines) = FirstLong limit lines := by
  funext line
  refine propext ⟨?_, ?_⟩
  · rintro ⟨before, after, h, hbefore, hline⟩
    cases before with
    | nil =>
      obtain ⟨rfl, -⟩ := List.cons.inj h
      exact absurd hline (Int.not_lt.mpr hl)
    | cons b before =>
      exact ⟨before, after, (List.cons.inj h).2,
        fun x hx => hbefore x (List.mem_cons_of_mem _ hx), hline⟩
  · rintro ⟨before, after, rfl, hbefore, hline⟩
    exact ⟨l :: before, after, rfl, by simpa using ⟨hl, hbefore⟩, hline⟩

lemma firstTooLong_answers (limit : Int) (number : Nat) (lines : List Bytes) :
    Answers (FirstLong limit lines) (firstTooLong (.int limit) number lines) := by
  induction lines generalizing number with
  | nil =>
    refine answers_ok ?_ Verdict.pass
    rintro line ⟨before, after, h, -⟩
    simp at h
  | cons l lines ih =>
    unfold firstTooLong
    by_cases hl : limit < l.length
    · simp only [Setting.isBelow, hl, decide_true]
      exact answers_decode (firstLong_cons_of_lt hl lines) _
    · rw [firstLong_cons_of_le (Int.not_lt.mp hl)]
      simp only [Setting.isBelow, hl, decide_false]
      exact ih (number + 1)

lemma isUndecodable_ascii (line : Bytes) :
    isUndecodable (.text "ascii") line = .ok (!Encoding.isAscii line) := by
  have hname : Encoding.ofName? "ascii" = some .ascii := by decide
  cases line with
  | nil => rfl
  | cons b line => simp [isUndecodable, hname, Encoding.accepts, Except.map, Except.mapError]

lemma firstUndecodable_ascii (number : Nat) (lines : List Bytes) :
    if lines.all Encoding.isAscii then firstUndecodable (.text "ascii") number lines = .ok .pass
    else ∃ r, firstUndecodable (.text "ascii") number lines = .ok (.fail (some r)) := by
  induction lines generalizing number with
  | nil => rfl
  | cons line lines ih =>
    rw [firstUndecodable, isUndecodable_ascii, List.all_cons]
    cases Encoding.isAscii line with
    | false => exact ⟨_, rfl⟩
    | true => exact ih (number + 1)

lemma examine_encoding_ascii (data : Bytes) :
    if Encoding.isAscii data then (Check.encoding (.text "ascii")).examine data = .ok .pass
    else ∃ r, (Check.encoding (.text "ascii")).examine data = .ok (.fail (some r)) := by
  have hends : ∀ b : UInt8, endsLine b = true → decide (b < 0x80) = true := by
    intro b hb
    rw [endsLine, Bool.or_eq_true, beq_iff_eq, beq_iff_eq] at hb
    rcases hb with rfl | rfl <;> rfl
  have hall : (byteLines data).all Encoding.isAscii = Encoding.isAscii data :=
    all_byteLines hends data
  rw [← hall]
  exact firstUndecodable_ascii 1 (byteLines data)

def available (e : Eol) (limit : Int) : List Check :=
  [.tabs, .lineEndings e, .trailing (encodeString e.terminator), .encoding (.text "ascii"),
    .finalEol, .includes, .notice, .lineLength (.eol e) (.int limit)]

lemma examine_answers {e : Eol} (h : check ∈ available e limit) (data : Bytes) :
    Answers (Shows data check) (check.examine data) := by
  simp only [available, List.mem_cons, List.not_mem_nil, or_false] at h
  rcases h with rfl | rfl | rfl | rfl | rfl | rfl | rfl | rfl
  · exact firstOccurrence_answers locates_tabs _ data
  · exact firstOccurrence_answers (locates_lineEndings e) _ data
  · exact firstOccurrence_answers (locates_trailing e) _ data
  · obtain ⟨v, hv⟩ : ∃ v, (Check.encoding (.text "ascii")).examine data = .ok v := by
      have hascii := examine_encoding_ascii data
      split at hascii
      · exact ⟨_, hascii⟩
      · exact ⟨_, hascii.choose_spec⟩
    rw [hv]
    exact answers_ok (by rintro line ⟨_, _, _, hocc, _⟩; cases hocc) v
  · exact answers_ok (by rintro line ⟨_, _, _, hocc, _⟩; cases hocc) _
  · exact answers_ok (by rintro line ⟨_, _, _, hocc, _⟩; cases hocc) _
  · exact answers_ok (by rintro line ⟨_, _, _, hocc, _⟩; cases hocc) _
  · exact firstTooLong_answers limit 1 _

/-- A check of a list is made: each of them is, or each up to the first that fails. -/
inductive Made (first : Bool) (data : Bytes) : List (String × Check) → Check → Prop where
  | head {name : String} {check : Check} {rest : List (String × Check)} :
      Made first data ((name, check) :: rest) check
  | tail {p : String × Check} {check : Check} {rest : List (String × Check)}
      (hp : first = true → p.2.examine data = .ok .pass) (h : Made first data rest check) :
      Made first data (p :: rest) check

lemma Made.mem {first : Bool} {checks : List (String × Check)} (h : Made first data checks check) :
    ∃ name, (name, check) ∈ checks := by
  induction h with
  | head => exact ⟨_, List.mem_cons_self⟩
  | tail _ _ ih =>
    obtain ⟨name, hmem⟩ := ih
    exact ⟨name, List.mem_cons_of_mem _ hmem⟩

/-- The lines that the checks of a list show. -/
def ShowsSome (first : Bool) (data : Bytes) (checks : List (String × Check)) (line : Bytes) : Prop :=
  ∃ check, Made first data checks check ∧ Shows data check line

lemma Answers.cons {α : Type} {first : Bool} {checks : List (String × Check)}
    {r : Except Fault α} (h : Answers (ShowsSome first data checks) r) {name : String}
    (hutf8 : ∀ line, Shows data check line → IsUtf8 line)
    (hpass : first = true → check.examine data = .ok .pass) :
    Answers (ShowsSome first data ((name, check) :: checks)) r := by
  refine h.mono ?_ ?_
  · rintro line ⟨k, hmade, hshows⟩
    exact ⟨k, .tail hpass hmade, hshows⟩
  · rintro line ⟨k, hmade, hshows⟩
    cases hmade with
    | head => exact .inr (hutf8 line hshows)
    | tail hp hmade => exact .inl ⟨k, hmade, hshows⟩

end Check

end SourceTidy
