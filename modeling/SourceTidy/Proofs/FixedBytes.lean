import Mathlib.Tactic.SplitIfs
import SourceTidy.Proofs.FixedText
import SourceTidy.Proofs.ShownLines

/-!
# The bytes of fixed texts

A fixer works on text and a checker on bytes. The bytes that a fixer writes are nevertheless in order
for the checks of tabs, of line endings, of blanks at the ends of lines and of the end of the file.
-/

namespace SourceTidy

open Text Check

lemma Fix.Trimmed.of_append {s r : Text} (h : Trimmed (s ++ r)) : Trimmed r := by
  induction s with
  | nil => exact h
  | cons c s ih => exact ih h.2

namespace Text

def written (e : Eol) (c : Char) : Bytes :=
  if c = '\n' then encodeString e.terminator else encodeChar c

lemma encode_writeNewlines (e : Eol) (s : Text) :
    encode (writeNewlines e.terminator.toList s) = s.flatMap (written e) := by
  rw [encode, writeNewlines, List.flatMap_assoc]
  refine List.flatMap_congr fun c _ => ?_
  by_cases hc : c = '\n'
  · simp [written, hc, encodeString, encode]
  · simp [written, hc]

lemma written_split {e : Eol} {s : Text} {pre post : Bytes} {b : UInt8}
    (h : s.flatMap (written e) = pre ++ b :: post) : ∃ s₁ c s₂ u v, s = s₁ ++ c :: s₂ ∧
      written e c = u ++ b :: v ∧ pre = s₁.flatMap (written e) ++ u ∧
      post = v ++ s₂.flatMap (written e) := by
  induction s generalizing pre with
  | nil => simp at h
  | cons c s ih =>
    have hrest : ∀ pre', s.flatMap (written e) = pre' ++ b :: post → pre = written e c ++ pre' →
        ∃ s₁ c' s₂ u v, c :: s = s₁ ++ c' :: s₂ ∧ written e c' = u ++ b :: v ∧
          pre = s₁.flatMap (written e) ++ u ∧ post = v ++ s₂.flatMap (written e) := by
      intro pre' hpre' hpre
      obtain ⟨s₁, c', s₂, u, v, rfl, hc, rfl, hpost⟩ := ih hpre'
      exact ⟨c :: s₁, c', s₂, u, v, rfl, hc, by simp [hpre], hpost⟩
    rw [List.flatMap_cons] at h
    rcases List.append_eq_append_iff.mp h with ⟨a, hpre, hs⟩ | ⟨a, hc, hs⟩
    · exact hrest a hs hpre
    · cases a with
      | nil => exact hrest [] (by simpa using hs.symm) (by simpa using hc.symm)
      | cons b' a =>
        obtain ⟨rfl, rfl⟩ := List.cons.inj hs
        exact ⟨[], c, s, pre, a, rfl, hc, rfl, rfl⟩

lemma written_ascii {e : Eol} {c : Char} {b : UInt8} (hb : b.toNat < 0x80) (h : b ∈ written e c) :
    c = '\n' ∧ b ∈ encodeString e.terminator ∨ c = Char.ofNat b.toNat ∧ written e c = [b] := by
  unfold written at h ⊢
  by_cases hc : c = '\n'
  · rw [if_pos hc] at h
    exact .inl ⟨hc, h⟩
  · rw [if_neg hc] at h ⊢
    obtain rfl := (mem_encodeChar_ascii hb).mp h
    exact .inr ⟨rfl, encodeChar_one hb⟩

lemma mem_terminator {e : Eol} {b : UInt8} (h : b ∈ encodeString e.terminator) : b = cr ∨ b = lf := by
  cases e with
  | native => exact .inr (List.mem_singleton.mp h)
  | win =>
    rw [show encodeString Eol.win.terminator = [cr, lf] by decide] at h
    simpa using h

lemma encodeChar_ne_nil (c : Char) : encodeChar c ≠ [] := by
  unfold encodeChar
  dsimp only
  split_ifs <;> exact List.cons_ne_nil _ _

lemma written_ne_nil (e : Eol) (c : Char) : written e c ≠ [] := by
  unfold written
  split
  · cases e <;> decide
  · exact encodeChar_ne_nil c

lemma head_of_written {e : Eol} {s : Text} {b : UInt8} {post : Bytes}
    (h : s.flatMap (written e) = b :: post) (hb : b ∈ encodeString e.terminator) (hs : '\r' ∉ s) :
    s.head? = some '\n' := by
  cases s with
  | nil => cases h
  | cons c s =>
    rw [List.flatMap_cons] at h
    have hmem : b ∈ written e c := by
      obtain ⟨a, u, hu⟩ := List.exists_cons_of_ne_nil (written_ne_nil e c)
      rw [hu] at h ⊢
      rw [(List.cons.inj h).1]
      exact List.mem_cons_self
    rw [List.head?_cons]
    rcases mem_terminator hb with rfl | rfl
    · rcases written_ascii (by decide) hmem with ⟨rfl, -⟩ | ⟨rfl, -⟩
      · rfl
      · exact absurd List.mem_cons_self hs
    · rcases written_ascii (by decide) hmem with ⟨rfl, -⟩ | ⟨rfl, -⟩ <;> rfl

end Text

namespace Check

open Text (written written_split written_ascii)

variable {e : Eol} {s : Text}

lemma examine_tabs_written (hs : '\t' ∉ s) : tabs.examine (s.flatMap (written e)) = .ok .pass := by
  refine firstOccurrence_of_forall locates_tabs _ fun pre post line hdata hocc => ?_
  cases hocc with
  | tab rest =>
    obtain ⟨s₁, c, s₂, u, v, rfl, hc, -⟩ := written_split hdata
    rcases written_ascii (by decide) (show 0x09 ∈ written e c by simp [hc]) with ⟨-, h⟩ | ⟨rfl, -⟩
    · rcases mem_terminator h with h | h <;> exact absurd h (by decide)
    · exact hs (by simp)

lemma examine_lineEndings_written (hs : '\r' ∉ s) :
    (lineEndings e).examine (s.flatMap (written e)) = .ok .pass := by
  refine firstOccurrence_of_forall (locates_lineEndings e) _ fun pre post line hdata hocc => ?_
  cases hocc with
  | crlf _ rest =>
    obtain ⟨s₁, c, s₂, u, v, rfl, hc, -⟩ := written_split hdata
    rcases written_ascii (by decide) (show cr ∈ written .native c by simp [hc]) with
      ⟨-, h⟩ | ⟨rfl, -⟩
    · exact absurd h (by decide)
    · exact hs (List.mem_append_right s₁ List.mem_cons_self)
  | lf _ rest hpre =>
    obtain ⟨s₁, c, s₂, u, v, rfl, hc, rfl, -⟩ := written_split hdata
    rcases written_ascii (by decide) (show lf ∈ written .win c by simp [hc]) with
      ⟨rfl, -⟩ | ⟨rfl, hlf⟩
    · have hcrlf : [cr, lf] = u ++ lf :: v := hc
      match u with
      | [] => exact absurd (List.cons.inj hcrlf).1 (by decide)
      | [a] => exact hpre (by simp [(List.cons.inj hcrlf).1])
      | a :: a' :: u => simp at hcrlf
    · exact absurd hlf (by decide)

lemma examine_trailing_written (hs : '\r' ∉ s) (ht : Fix.Trimmed s) :
    (trailing (encodeString e.terminator)).examine (s.flatMap (written e)) = .ok .pass := by
  refine firstOccurrence_of_forall (locates_trailing e) _ fun pre post line hdata hocc => ?_
  cases hocc with
  | @blank _ _ rest b hb =>
    obtain ⟨s₁, c, s₂, u, v, rfl, hc, rfl, hrest⟩ := written_split hdata
    have hb' : b.toNat < 0x80 ∧ isBlank (Char.ofNat b.toNat) = true ∧ b ≠ cr ∧ b ≠ lf := by
      rw [isBlankByte, Bool.or_eq_true, beq_iff_eq, beq_iff_eq] at hb
      rcases hb with rfl | rfl <;> decide
    obtain ⟨hascii, hblank, hcr, hlf⟩ := hb'
    rcases written_ascii hascii (show b ∈ written e c by simp [hc]) with ⟨-, h⟩ | ⟨rfl, hw⟩
    · exact (mem_terminator h).elim hcr hlf
    rw [hw] at hc
    obtain ⟨rfl, rfl⟩ : u = [] ∧ v = [] := by
      cases u with
      | nil => exact ⟨rfl, (List.cons.inj hc).2.symm⟩
      | cons a u => simp at hc
    have hs₂ : '\r' ∉ s₂ := fun h => hs (by simp [h])
    have hnext : s₂.head? = some '\n' := by
      rw [List.nil_append] at hrest
      cases e with
      | native => exact head_of_written hrest.symm (by decide) hs₂
      | win => exact head_of_written hrest.symm (by decide) hs₂
    exact absurd hnext (ht.of_append.1 hblank).2

lemma examine_finalEol_written (hs : Fix.Ended s) : finalEol.examine (s.flatMap (written e)) = .ok .pass := by
  obtain ⟨t, rfl, -⟩ := hs
  have hend : ∃ data, (t ++ ['\n']).flatMap (written e) = data ++ [lf] := by
    rw [List.flatMap_append]
    cases e with
    | native => exact ⟨_, rfl⟩
    | win => exact ⟨t.flatMap (written .win) ++ [cr], by rw [List.append_assoc]; rfl⟩
  obtain ⟨data, hdata⟩ := hend
  rw [examine, hdata]
  simp [endsWithEol, verdict]

/-- A content that is in order for the checks which a fixer provides for. -/
structure Clean (e : Eol) (data : Bytes) : Prop where
  tabs : tabs.examine data = .ok .pass
  lineEndings : (lineEndings e).examine data = .ok .pass
  trailing : (trailing (encodeString e.terminator)).examine data = .ok .pass
  finalEol : finalEol.examine data = .ok .pass

end Check

lemma Fixer.clean_fixedBytes {f : Fixer} {fixes : List LineFix} (h : f.lineFixes = .ok fixes)
    (htrailing : f.trailing.isOn = true) (htabs : f.tabSize.isOn = true)
    (hend : f.finalEol.isOn = true) (e : Eol) {s : Text} (hs : '\r' ∉ s) :
    Clean e (f.fixedBytes fixes e s) := by
  have hsettled := settled_fixText h s
  have hcr := cr_notMem_fixText h hs
  rw [fixedBytes, encode_writeNewlines]
  exact ⟨examine_tabs_written (hsettled.noTabs htabs), examine_lineEndings_written hcr,
    examine_trailing_written hcr (hsettled.trimmed htrailing),
    examine_finalEol_written (hsettled.ended hend)⟩

end SourceTidy
