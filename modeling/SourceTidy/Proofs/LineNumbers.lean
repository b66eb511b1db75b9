import SourceTidy.Proofs.DecodedLines

/-!
# Lines that checks report by number

A report on the first fault of a content gives the number of a line, which is counted in a part of the
content. It is the first line with such a fault all the same: no part ends within a line terminator or
within a character.
-/

namespace SourceTidy

open Text

namespace Check

open Text (Ends Cut cutLines byteLines endsLine)

/-- Whether a line with its terminator has the fault that a check looks for. -/
def faulty : Check → Bytes × Bytes → Bool
  | tabs, line => line.1.contains 0x09
  | lineEndings .native, line => line.2 == [cr, lf]
  | lineEndings .win, line => line.2 == [lf]
  | trailing terminator, line => line.2 == terminator && line.1.getLast?.any isBlankByte
  | _, _ => false

def shownPart : Check → Bytes → Bytes
  | tabs, line => line.takeWhile (· != 0x09) ++ [0x09]
  | _, line => line

variable {test : Option UInt8 → Bytes → Option Nat} {check : Check} {before : Option UInt8}

lemma throughFirst_append {l q : Bytes}
    (h : ∀ u b v, l = u ++ b :: v → test (u.getLast?.or before) (b :: (v ++ q)) = none) :
    throughFirst test before (l ++ q) = (throughFirst test (l.getLast?.or before) q).map (l ++ ·) := by
  induction l generalizing before with
  | nil => simp
  | cons b l ih =>
    have hb : test before (b :: (l ++ q)) = none := h [] b l rfl
    rw [List.cons_append, throughFirst, hb, ih, getLast?_cons_or, Option.map_map]
    · rfl
    · intro u b' v hl
      rw [← getLast?_cons_or]
      exact h (b :: u) b' v (by rw [hl]; rfl)

lemma throughFirst_found {l q : Bytes} {b : UInt8} {n : Nat}
    (h : ∀ u b' v, l = u ++ b' :: v → test (u.getLast?.or before) (b' :: (v ++ b :: q)) = none)
    (hn : test (l.getLast?.or before) (b :: q) = some n) :
    throughFirst test before (l ++ b :: q) = some (l ++ (b :: q).take n) := by
  rw [throughFirst_append h, throughFirst, hn]
  rfl

/-- A test finds the fault of a faulty line, and no place in any other line and its terminator. -/
structure Judges (check : Check) (test : Option UInt8 → Bytes → Option Nat) : Prop where
  hit : ∀ {before : Option UInt8} {l t r : Bytes}, (∀ b ∈ l, endsLine b = false) → Ends t r →
    (before = some cr → (l ++ (t ++ r)).head? ≠ some lf) → check.faulty (l, t) = true →
    ∃ start, throughFirst test before (l ++ (t ++ r)) = some start ∧ byteLines start = [check.shownPart l]
  skip : ∀ {before : Option UInt8} {l t r u v : Bytes} {b : UInt8}, (∀ b ∈ l, endsLine b = false) →
    Ends t r → check.faulty (l, t) = false → l = u ++ b :: v → test before (b :: (v ++ (t ++ r))) = none
  next : ∀ {before : Option UInt8} {l t r : Bytes}, Ends t r → check.faulty (l, t) = false →
    throughFirst test before (t ++ r) = (throughFirst test (t.getLast?.or before) r).map (t ++ ·)

lemma tabAt_of_ne {b : UInt8} (hb : b ≠ 0x09) (before : Option UInt8) (s : Bytes) :
    tabAt before (b :: s) = none :=
  if_neg (by simpa using hb)

lemma judges_tabs : Judges .tabs tabAt where
  hit {before l t r} hl _ _ h := by
    have hmem : (0x09 : UInt8) ∈ l := by simpa [faulty] using h
    obtain ⟨u, v, rfl, hu⟩ := List.eq_append_cons_of_mem hmem
    have hne : ∀ b ∈ u, b ≠ 0x09 := fun b hb => ne_of_mem_of_not_mem hb hu
    have hpart : shownPart .tabs (u ++ 0x09 :: v) = u ++ [0x09] := by
      rw [shownPart, List.takeWhile_append_of_pos (by simpa using hne)]
      simp
    refine ⟨u ++ [0x09], ?_, ?_⟩
    · rw [List.append_assoc, List.cons_append]
      exact throughFirst_found (n := 1) (fun a b c h' => tabAt_of_ne (hne b (by simp [h'])) _ _) rfl
    · rw [hpart]
      refine byteLines_of_forall (fun b hb => hl b ?_) (by simp)
      rw [List.mem_append, List.mem_singleton] at hb
      rw [List.mem_append, List.mem_cons]
      exact hb.imp_right .inl
  skip {before l t r u v b} _ _ h hsplit := by
    refine tabAt_of_ne ?_ _ _
    rintro rfl
    simp [faulty, hsplit] at h
  next ht _ := by cases ht <;> simp [throughFirst, tabAt, lf, cr, Function.comp_def]

lemma otherEolAt_of_endsLine (e : Eol) {b : UInt8} (hb : endsLine b = false) (before : Option UInt8)
    (s : Bytes) : otherEolAt e before (b :: s) = none := by
  have hne : b ≠ lf ∧ b ≠ cr := by simpa [endsLine] using hb
  cases e with
  | native => exact if_neg (by simp [List.isPrefixOf, hne.2.symm])
  | win => exact if_neg (by simp [hne.1])

lemma judges_lineEndings (e : Eol) : Judges (.lineEndings e) (otherEolAt e) where
  hit {before l t r} hl ht hbefore h := by
    have hskip : ∀ q u b v, l = u ++ b :: v →
        otherEolAt e (u.getLast?.or before) (b :: (v ++ q)) = none :=
      fun q u b v hsplit => otherEolAt_of_endsLine e (hl b (by simp [hsplit])) _ _
    cases e with
    | native =>
      obtain rfl : t = [cr, lf] := by simpa [faulty] using h
      exact ⟨_, throughFirst_found (n := 2) (hskip _) rfl, byteLines_line hl rfl⟩
    | win =>
      obtain rfl : t = [lf] := by simpa [faulty] using h
      have hlast : l.getLast?.or before ≠ some cr := by
        rcases List.eq_nil_or_concat l with rfl | ⟨u, b, rfl⟩
        · exact fun hcr => hbefore hcr rfl
        · rintro hcr
          obtain rfl : b = cr := by simpa using hcr
          exact absurd (hl cr (by simp)) (by decide)
      exact ⟨_, throughFirst_found (n := 1) (hskip _) (if_pos (by simpa using hlast)),
        byteLines_line hl rfl⟩
  skip hl _ _ hsplit := otherEolAt_of_endsLine e (hl _ (by simp [hsplit])) _ _
  next {before l t r} ht h := by
    have hlf : r.head? ≠ some lf → ¬[lf] <+: r := by
      rintro hr ⟨s, rfl⟩
      exact hr rfl
    cases e <;> cases ht <;>
      simp_all [throughFirst, otherEolAt, lf, cr, Function.comp_def, faulty]

lemma judges_trailing (e : Eol) : Judges (.trailing (encodeString e.terminator))
    (trailingAt (encodeString e.terminator)) := by
  have hterminator : encodeString e.terminator = [lf] ∨
      encodeString e.terminator = [cr, lf] := by cases e <;> decide
  generalize encodeString e.terminator = terminator at hterminator
  have hends : ∀ {t r : Bytes}, Ends t r → terminator.isPrefixOf (t ++ r) = true → t = terminator := by
    intro t r ht h
    rw [List.isPrefixOf_iff_prefix] at h
    obtain ⟨s, hs⟩ := h
    rcases hterminator with rfl | rfl <;> cases ht <;> grind [lf, cr]
  have hfree : ∀ {b : UInt8}, endsLine b = false → ∀ s, terminator.isPrefixOf (b :: s) = false := by
    intro b hb s
    rcases hterminator with rfl | rfl <;> grind [endsLine, List.isPrefixOf]
  have hline : byteLines terminator = [[]] := by
    rcases hterminator with rfl | rfl <;> rfl
  refine ⟨fun {before l t r} hl ht _ h => ?hit, fun {before l t r u v b} hl ht h hsplit => ?skip,
    fun ht h => ?next⟩
  case hit =>
    rw [faulty, Bool.and_eq_true, beq_iff_eq] at h
    obtain ⟨rfl, hblank⟩ := h
    rcases List.eq_nil_or_concat' l with rfl | ⟨u, b, rfl⟩
    · cases hblank
    have hb : isBlankByte b = true := by simpa using hblank
    refine ⟨u ++ [b] ++ t, ?_, byteLines_line hl hline⟩
    rw [List.append_assoc, List.singleton_append, List.append_assoc, List.singleton_append]
    refine (throughFirst_found (n := t.length + 1) ?_ ?_).trans ?_
    · intro u' b' v hsplit
      cases v with
      | nil => simp [trailingAt, hfree (hl b (by simp))]
      | cons c v => simp [trailingAt, hfree (hl c (by simp [hsplit]))]
    · simp [trailingAt, hb, List.isPrefixOf_iff_prefix]
    · simp
  case skip =>
    cases v with
    | cons c v => simp [trailingAt, hfree (hl c (by simp [hsplit]))]
    | nil =>
      refine if_neg fun hb => ?_
      rw [Bool.and_eq_true] at hb
      simp [faulty, hsplit, hb.1, hends ht hb.2] at h
  case next =>
    cases ht <;> simp [throughFirst, trailingAt, lf, cr, Function.comp_def, isBlankByte]

lemma Judges.next_line (hjudges : Judges check test) {l t r : Bytes} (hl : ∀ b ∈ l, endsLine b = false)
    (ht : Ends t r) (h : check.faulty (l, t) = false) :
    throughFirst test before (l ++ (t ++ r)) =
      (throughFirst test ((l ++ t).getLast?.or before) r).map fun start => l ++ (t ++ start) := by
  rw [throughFirst_append fun u b v hsplit => hjudges.skip hl ht h hsplit, hjudges.next ht h,
    Option.map_map, List.getLast?_append, Option.or_assoc]
  rfl

lemma decodable_shownPart {line : Bytes} (h : Decodable (fun _ => True) line) :
    Decodable (fun _ => True) (check.shownPart line) := by
  cases check with
  | tabs =>
    rcases decodable_or_stopsAt (fun _ => True) (line.takeWhile (· != 0x09)) with hstart | ⟨k, hk⟩
    · exact hstart.append ⟨['\t'], by simp, by decide⟩
    · have hline : StopsAt (fun _ => True) line k := by
        rw [← List.takeWhile_append_dropWhile (p := (· != 0x09)) (l := line)]
        refine hk.append fun b hb => ?_
        have htab := List.head?_dropWhile_not (· != (0x09 : UInt8)) line
        rw [hb] at htab
        obtain rfl : b = 0x09 := by simpa using htab
        decide
      exact absurd hline (decodes_utf8.not_stopsAt h k)
  | _ => exact h

/-- Up to the first place that a test finds, a content has the lines before the first faulty one, and what
is shown of that one. -/
lemma Judges.throughFirst_cut (hjudges : Judges check test) {s : Bytes} {lines : List (Bytes × Bytes)}
    (hs : Cut s lines) (hbefore : before = some cr → s.head? ≠ some lf) :
    (throughFirst test before s = none ∧ ∀ line ∈ lines, check.faulty line = false) ∨
      ∃ start clean line after, throughFirst test before s = some start ∧ lines = clean ++ line :: after ∧
        (∀ line ∈ clean, check.faulty line = false) ∧ check.faulty line = true ∧
        byteLines start = clean.map Prod.fst ++ [check.shownPart line.1] := by
  induction hs generalizing before with
  | nil => exact .inl ⟨rfl, by simp⟩
  | @line l t r lines hl ht hne _ ih =>
    cases hfaulty : check.faulty (l, t) with
    | true =>
      obtain ⟨start, hstart, hlines⟩ := hjudges.hit hl ht hbefore hfaulty
      exact .inr ⟨start, [], (l, t), lines, hstart, rfl, by simp, hfaulty, hlines⟩
    | false =>
      rw [hjudges.next_line hl ht hfaulty]
      have hnext : (l ++ t).getLast?.or before = some cr → r.head? ≠ some lf := by
        cases ht with
        | lf | crlf => simp [lf, cr]
        | cr h => exact fun _ => h
        | none => simp
      rcases ih hnext with ⟨hnone, hall⟩ | ⟨start, clean, line, after, hstart, rfl, hclean, hline, hlines⟩
      · exact .inl ⟨by rw [hnone]; rfl, List.forall_mem_cons.mpr ⟨hfaulty, hall⟩⟩
      · refine .inr ⟨_, (l, t) :: clean, line, after, by rw [hstart]; rfl, rfl,
          List.forall_mem_cons.mpr ⟨hfaulty, hclean⟩, hline, ?_⟩
        obtain ⟨pre, post, n, hr, -, rfl, -⟩ := throughFirst_eq_some hstart
        have hends : Ends t (pre ++ post.take n) := by
          cases ht with
          | lf => exact .lf _
          | crlf => exact .crlf _
          | cr h =>
            refine .cr fun hlf => h ?_
            rw [hr, ← List.take_append_drop n post, ← List.append_assoc, List.head?_append, hlf]
            rfl
          | none =>
            obtain ⟨rfl, rfl⟩ := List.append_eq_nil_iff.mp hr.symm
            rw [List.take_nil]
            exact .none
        rw [byteLines_cut hl hends hne, hlines]
        rfl

end Check

namespace Checker

open Text (cutLines)

/-- A check for tabs, line endings or blanks at ends of lines passes exactly if no line has such a fault.
Otherwise it reports the first line that has one. -/
theorem fails_at_first_faulty_line {e : Eol} {check : Check} {what : String}
    (hcheck : (check, what) ∈ [(.tabs, "tab character"), (.lineEndings e, "invalid EOL"),
      (.trailing (Text.encodeString e.terminator), "trailing spaces")])
    {data : Bytes} (hdata : Text.IsUtf8 data) (file : Option String) (w : World) :
    (cutLines data).flatMap (fun p => p.1 ++ p.2) = data ∧
    (((∀ line ∈ cutLines data, check.faulty line = false) ∧
        (fails file data check).run w = (.ok false, w)) ∨
      ∃ clean line after text, cutLines data = clean ++ line :: after ∧
        (Text.byteLines data)[clean.length]? = some line.1 ∧
        (∀ line ∈ clean, check.faulty line = false) ∧ check.faulty line = true ∧
        Text.decodeUtf8 (check.shownPart line.1) = .ok text ∧
        (fails file data check).run w = lineReported file
          ⟨clean.length + 1, Text.str (Text.quoteText text), what ++ " (first occurrence)"⟩ w) := by
  obtain ⟨test, hjudges, hexamine⟩ : ∃ test, Check.Judges check test ∧
      check.examine data = Check.firstOccurrence what test data := by
    simp only [List.mem_cons, Prod.mk.injEq, List.not_mem_nil, or_false] at hcheck
    rcases hcheck with ⟨rfl, rfl⟩ | ⟨rfl, rfl⟩ | ⟨rfl, rfl⟩
    · exact ⟨_, Check.judges_tabs, rfl⟩
    · exact ⟨_, Check.judges_lineEndings e, rfl⟩
    · exact ⟨_, Check.judges_trailing e, rfl⟩
  have hcut := Text.cut_cutLines data
  have hstart : none = some Text.cr → data.head? ≠ some Text.lf := nofun
  refine ⟨hcut.flatMap_eq, ?_⟩
  rcases hjudges.throughFirst_cut hcut hstart with
    ⟨hnone, hall⟩ | ⟨start, clean, line, after, hstart, hlines, hclean, hline, hshown⟩
  · refine .inl ⟨hall, run_fails_pass ?_ file w⟩
    rw [hexamine, Check.firstOccurrence, hnone]
  · obtain ⟨text, htext⟩ : ∃ text, Text.decodeUtf8 (check.shownPart line.1) = .ok text := by
      refine Check.decodes_utf8.ok (Check.decodable_shownPart ?_)
      rcases hcut.decoded (A := fun _ => True) trivial trivial with ⟨-, hall⟩ | ⟨_, _, _, _, -, -, -, hk⟩
      · exact hall line (by simp [hlines])
      · obtain ⟨s, hs⟩ := hdata
        exact absurd hk (Check.decodes_utf8.not_stopsAt ⟨s, by simp, hs⟩ _)
    refine .inr ⟨clean, line, after, text, hlines, ?_, hclean, hline, htext, run_fails_report ?_ file w⟩
    · rw [← hcut.map_fst, hlines]
      simp
    · rw [hexamine, Check.firstOccurrence, hstart]
      simp only [hshown]
      rw [List.getLastD_concat, htext, List.length_append, List.length_map]
      rfl

/-- A tab after characters beyond ASCII and a line with another terminator. -/
theorem fails_at_first_faulty_line_with_tab :
    let data := Text.encodeString "a\r\né\tb\tc\n"
    let w : World := { year := 2024 }
    (fails none data .tabs).run w =
      lineReported none ⟨2, Text.str (Text.quoteText ['é', '\t']), "tab character (first occurrence)"⟩ w := by
  intro data w
  have hcheck : (Check.tabs, "tab character") ∈
      [(.tabs, "tab character"), (.lineEndings .native, "invalid EOL"),
        (.trailing (Text.encodeString Eol.native.terminator), "trailing spaces")] := by simp
  have hlines : cutLines data = [([0x61], [0x0d, 0x0a]), (Text.encodeString "é\tb\tc", [0x0a])] := by decide
  have hdata : Text.IsUtf8 data := ⟨"a\r\né\tb\tc\n".toList, rfl⟩
  rcases (fails_at_first_faulty_line hcheck hdata none w).2 with
    ⟨hall, -⟩ | ⟨clean, line, after, text, hcut, -, -, hline, htext, hrun⟩
  · rw [hlines] at hall
    exact absurd hall (by decide)
  · rw [hlines] at hcut
    rcases clean with _ | ⟨p, _ | ⟨q, clean⟩⟩
    · cases hcut
      exact absurd hline (by decide)
    · cases hcut
      have hshown : Text.decodeUtf8 (Check.shownPart .tabs (Text.encodeString "é\tb\tc")) =
          .ok ['é', '\t'] := by decide +kernel
      rw [hshown] at htext
      cases htext
      exact hrun
    · simp at hcut

/-- Without the level there is no verdict on a tab. -/
theorem fails_without_level_for_tab :
    let data := Text.encodeString "\t"
    let w : World := { year := 2024, verboseNamed := false }
    (cutLines data).any (Check.faulty .tabs) = true ∧
      (fails none data .tabs).run w = (.error (.kind .noLevel), w) := by
  intro data w
  have hexamine : Check.tabs.examine data =
      .ok (.fail (some ⟨1, "'\\t'", "tab character (first occurrence)"⟩)) := by decide +kernel
  exact ⟨by decide, run_fails_unnamed hexamine rfl none⟩

end Checker

end SourceTidy
