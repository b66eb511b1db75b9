import SourceTidy.Proofs.CleanFiles

/-!
# Lines that can be decoded

The check of the encoding decodes a content line by line. It is the same as to decode the whole content:
no line terminator is part of a character, so decoding a line stops where decoding the content does.
-/

namespace SourceTidy

variable {data s : Bytes} {lines : List (Bytes × Bytes)} {b : UInt8}

namespace Text

def consCut (b : UInt8) : List (Bytes × Bytes) → List (Bytes × Bytes)
  | [] => [([b], [])]
  | line :: lines => (b :: line.1, line.2) :: lines

/-- The lines of a byte sequence, each with its terminator. -/
def cutLines : Bytes → List (Bytes × Bytes)
  | [] => []
  | [b] => if endsLine b then [([], [b])] else [([b], [])]
  | b :: c :: s =>
    if b == cr && c == lf then ([], [cr, lf]) :: cutLines s
    else if endsLine b then ([], [b]) :: cutLines (c :: s)
    else consCut b (cutLines (c :: s))

/-- A terminator and what follows it. The last line may have none. -/
inductive Ends : Bytes → Bytes → Prop
  | lf (r : Bytes) : Ends [lf] r
  | crlf (r : Bytes) : Ends [cr, lf] r
  | cr {r : Bytes} (h : r.head? ≠ some lf) : Ends [cr] r
  | none : Ends [] []

/-- Bytes cut into lines, one after the other. -/
inductive Cut : Bytes → List (Bytes × Bytes) → Prop
  | nil : Cut [] []
  | line {l t r : Bytes} {lines : List (Bytes × Bytes)} (hl : ∀ b ∈ l, endsLine b = false)
      (ht : Ends t r) (hne : l ++ t ≠ []) (hr : Cut r lines) : Cut (l ++ (t ++ r)) ((l, t) :: lines)

lemma ends_singleton (hb : endsLine b = true) {r : Bytes} (hr : b = cr → r.head? ≠ some lf) : Ends [b] r := by
  rw [endsLine, Bool.or_eq_true, beq_iff_eq, beq_iff_eq] at hb
  rcases hb with rfl | rfl
  · exact .lf r
  · exact .cr (hr rfl)

lemma Cut.cons (hb : endsLine b = false) (h : Cut s lines) : Cut (b :: s) (consCut b lines) := by
  cases h with
  | nil => exact .line (l := [b]) (by simpa using hb) .none (by simp) .nil
  | line hl ht _ hr => exact .line (l := b :: _) (by simpa using ⟨hb, hl⟩) ht (by simp) hr

lemma cut_cutLines (s : Bytes) : Cut s (cutLines s) := by
  fun_induction cutLines s with
  | case1 => exact .nil
  | case2 b hb => exact .line (l := []) (by simp) (ends_singleton hb (by simp)) (by simp) .nil
  | case3 b hb => exact Cut.nil.cons (by simpa using hb)
  | case4 b c s hbc ih =>
    rw [Bool.and_eq_true, beq_iff_eq, beq_iff_eq] at hbc
    obtain ⟨rfl, rfl⟩ := hbc
    exact .line (l := []) (by simp) (.crlf s) (by simp) ih
  | case5 b c s hbc hb ih =>
    exact .line (l := []) (by simp) (ends_singleton hb (by simpa using hbc)) (by simp) ih
  | case6 b c s _ hb ih => exact ih.cons (by simpa using hb)

lemma byteLines_cut {l t r : Bytes} (hl : ∀ b ∈ l, endsLine b = false) (ht : Ends t r) (hne : l ++ t ≠ []) :
    byteLines (l ++ (t ++ r)) = l :: byteLines r := by
  induction l with
  | nil =>
    cases ht with
    | lf => exact byteLines_end rfl fun hcr => absurd hcr.1 (by decide)
    | crlf => exact byteLines_crlf r
    | cr h => exact byteLines_end rfl fun hcr => h hcr.2
    | none => exact absurd rfl hne
  | cons b l ih =>
    rw [List.forall_mem_cons] at hl
    rw [List.cons_append, byteLines_cons hl.1]
    by_cases hlt : l ++ t = []
    · obtain ⟨rfl, rfl⟩ := List.append_eq_nil_iff.mp hlt
      cases ht
      rfl
    · rw [ih hl.2 hlt]
      rfl

lemma Cut.map_fst (h : Cut s lines) : lines.map Prod.fst = byteLines s := by
  induction h with
  | nil => rfl
  | line hl ht hne _ ih => rw [byteLines_cut hl ht hne, List.map_cons, ih]

lemma Cut.flatMap_eq (h : Cut s lines) : lines.flatMap (fun p => p.1 ++ p.2) = s := by
  induction h with
  | nil => rfl
  | line _ _ _ _ ih => rw [List.flatMap_cons, ih, List.append_assoc]

variable {A : Char → Prop} {l r : Bytes} {k : Nat}

def Decodable (A : Char → Prop) (data : Bytes) : Prop := ∃ s : Text, (∀ c ∈ s, A c) ∧ data = encode s

/-- Up to an offset bytes are a text with characters of a kind, and there no such character follows. -/
def StopsAt (A : Char → Prop) (data : Bytes) (k : Nat) : Prop :=
  ∃ (s : Text) (rest : Bytes), (∀ c ∈ s, A c) ∧ data = encode s ++ rest ∧ k = (encode s).length ∧
    rest ≠ [] ∧ ∀ c q, A c → rest ≠ encodeChar c ++ q

lemma Decodable.append (hl : Decodable A l) (hr : Decodable A r) : Decodable A (l ++ r) := by
  obtain ⟨s, hs, rfl⟩ := hl
  obtain ⟨s', hs', rfl⟩ := hr
  exact ⟨s ++ s', by simpa [or_imp, forall_and] using ⟨hs, hs'⟩, (encode_append s s').symm⟩

lemma StopsAt.after (hl : Decodable A l) (hr : StopsAt A r k) : StopsAt A (l ++ r) (l.length + k) := by
  obtain ⟨s, hs, rfl⟩ := hl
  obtain ⟨s', rest, hs', rfl, rfl, hrest⟩ := hr
  refine ⟨s ++ s', rest, by simpa [or_imp, forall_and] using ⟨hs, hs'⟩, ?_, ?_, hrest⟩
  · rw [encode_append, List.append_assoc]
  · rw [encode_append, List.length_append]

lemma StopsAt.append (h : StopsAt A l k) (hr : ∀ b, r.head? = some b → b.toNat < 0x80) :
    StopsAt A (l ++ r) k := by
  obtain ⟨s, rest, hs, rfl, hk, hrest, hstuck⟩ := h
  refine ⟨s, rest ++ r, hs, List.append_assoc _ _ _, hk, by simp [hrest], fun c q hA hq => ?_⟩
  rcases List.append_eq_append_iff.mp hq with ⟨y, hy, hr'⟩ | ⟨y, hy, -⟩
  · cases y with
    | nil => exact hstuck c [] hA (by simpa using hy.symm)
    | cons b y =>
      have hb : b.toNat < 0x80 := hr b (by simp [hr'])
      have hc : b ∈ encodeChar c := by simp [hy]
      obtain rfl := (mem_encodeChar_ascii hb).mp hc
      rw [encodeChar_one hb] at hy
      have hlen := congrArg List.length hy
      simp only [List.length_append, List.length_cons, List.length_nil] at hlen
      exact hrest (List.length_eq_zero_iff.mp (by omega))
  · exact hstuck c y hA hy

lemma decodable_or_stopsAt (A : Char → Prop) (data : Bytes) : Decodable A data ∨ ∃ k, StopsAt A data k := by
  induction hn : data.length using Nat.strong_induction_on generalizing data with
  | _ n ih =>
    by_cases hchar : ∃ c q, A c ∧ data = encodeChar c ++ q
    · obtain ⟨c, q, hA, rfl⟩ := hchar
      have hc : Decodable A (encodeChar c) := ⟨[c], by simpa using hA, by simp [encode_cons]⟩
      have hpos := List.length_pos_of_ne_nil (encodeChar_ne_nil c)
      rcases ih q.length (by rw [← hn, List.length_append]; omega) q rfl with hq | ⟨k, hk⟩
      · exact .inl (hc.append hq)
      · exact .inr ⟨_, .after hc hk⟩
    · by_cases hdata : data = []
      · exact .inl ⟨[], by simp, hdata⟩
      · exact .inr ⟨0, [], data, by simp, rfl, rfl, hdata, fun c q hA h => hchar ⟨c, q, hA, h⟩⟩

lemma Ends.decodable {t : Bytes} (h : Ends t r) (hlf : A '\n') (hcr : A '\r') : Decodable A t := by
  cases h with
  | lf => exact ⟨['\n'], by simpa using hlf, by decide⟩
  | crlf => exact ⟨['\r', '\n'], by simpa using ⟨hcr, hlf⟩, by decide⟩
  | cr => exact ⟨['\r'], by simpa using hcr, by decide⟩
  | none => exact ⟨[], by simp, rfl⟩

lemma Ends.head_ascii {t : Bytes} (h : Ends t r) (hb : (t ++ r).head? = some b) : b.toNat < 0x80 := by
  cases h <;> cases hb <;> decide

lemma Cut.decoded (hlf : A '\n') (hcr : A '\r') (h : Cut s lines) :
    (Decodable A s ∧ ∀ line ∈ lines, Decodable A line.1) ∨
      ∃ before line after k, lines = before ++ line :: after ∧ (∀ line ∈ before, Decodable A line.1) ∧
        StopsAt A line.1 k ∧ StopsAt A s ((before.flatMap fun p => p.1 ++ p.2).length + k) := by
  induction h with
  | nil => exact .inl ⟨⟨[], by simp, rfl⟩, by simp⟩
  | @line l t r lines _ ht _ _ ih =>
    rcases decodable_or_stopsAt A l with hl | ⟨k, hk⟩
    · have hlt : Decodable A (l ++ t) := hl.append (ht.decodable hlf hcr)
      obtain ⟨hr, hall⟩ | ⟨before, line, after, k, rfl, hbefore, hline, hk⟩ := ih
      · refine .inl ⟨?_, List.forall_mem_cons.mpr ⟨hl, hall⟩⟩
        rw [← List.append_assoc]
        exact hlt.append hr
      · refine .inr ⟨(l, t) :: before, line, after, k, rfl, List.forall_mem_cons.mpr ⟨hl, hbefore⟩, hline, ?_⟩
        rw [← List.append_assoc, List.flatMap_cons, List.length_append, Nat.add_assoc]
        exact .after hlt hk
    · refine .inr ⟨[], (l, t), lines, k, rfl, by simp, hk, ?_⟩
      rw [List.flatMap_nil, List.length_nil, Nat.zero_add]
      exact hk.append fun b hb => ht.head_ascii hb

/-- A decoder of texts with characters of a kind, which tells the offset where it stops. -/
structure Reads {ε : Type} (A : Char → Prop) (read : Nat → Bytes → Except ε Text) (first : ε → Nat) :
    Prop where
  nil : ∀ pos, read pos [] = .ok []
  char : ∀ pos c s, A c →
    read pos (encodeChar c ++ s) = (c :: ·) <$> read (pos + (encodeChar c).length) s
  stop : ∀ pos rest, rest ≠ [] → (∀ c q, A c → rest ≠ encodeChar c ++ q) →
    ∃ stop, read pos rest = .error stop ∧ first stop = pos

section

variable {ε : Type} {read : Nat → Bytes → Except ε Text} {first : ε → Nat}

lemma Reads.append (h : Reads A read first) {s : Text} (hs : ∀ c ∈ s, A c) (pos : Nat) (rest : Bytes) :
    read pos (encode s ++ rest) = (s ++ ·) <$> read (pos + (encode s).length) rest := by
  induction s generalizing pos with
  | nil =>
    rw [encode_nil, List.nil_append, List.length_nil, Nat.add_zero]
    cases read pos rest <;> rfl
  | cons c s ih =>
    rw [List.forall_mem_cons] at hs
    rw [encode_cons, List.append_assoc, h.char pos c _ hs.1, ih hs.2, List.length_append, Nat.add_assoc]
    cases read (pos + _) rest <;> rfl

lemma Reads.ok (h : Reads A read first) (hdata : Decodable A data) (pos : Nat) :
    ∃ s, read pos data = .ok s := by
  obtain ⟨s, hs, rfl⟩ := hdata
  have hread := h.append hs pos []
  rw [h.nil, List.append_nil] at hread
  exact ⟨_, hread⟩

lemma Reads.error (h : Reads A read first) (hdata : StopsAt A data k) (pos : Nat) :
    ∃ stop, read pos data = .error stop ∧ first stop = pos + k := by
  obtain ⟨s, rest, hs, rfl, rfl, hrest, hstuck⟩ := hdata
  obtain ⟨stop, hstop, hfirst⟩ := h.stop (pos + (encode s).length) rest hrest hstuck
  refine ⟨stop, ?_, hfirst⟩
  rw [h.append hs, hstop]
  rfl

end

lemma reads_decodeFrom : Reads (fun _ => True) decodeFrom DecodeStop.first where
  nil _ := rfl
  char pos c s _ := decodeFrom_encodeChar pos c s
  stop pos rest hrest hstuck := by
    fun_cases decodeFrom pos rest with
    | case1 => exact absurd rfl hrest
    | case2 a s ha =>
      rw [UInt8.lt_iff_toNat_lt] at ha
      exact absurd (by rw [encodeChar_one ha]; rfl) (hstuck (Char.ofNat a.toNat) s trivial)
    | case5 a _ ha ha' b s hb =>
      rw [UInt8.lt_iff_toNat_lt] at ha ha'
      exact absurd (by rw [encodeChar_two (Nat.not_lt.mp ha) ha' hb]; rfl) (hstuck _ s trivial)
    | case9 a _ _ ha ha' b hb c s hc =>
      rw [UInt8.lt_iff_toNat_lt] at ha ha'
      exact absurd (by rw [encodeChar_three (Nat.not_lt.mp ha) ha' hb hc]; rfl) (hstuck _ s trivial)
    | case15 a _ _ _ ha ha' b hb c hc d s hd =>
      rw [UInt8.lt_iff_toNat_lt] at ha ha'
      exact absurd (by rw [encodeChar_four (Nat.not_lt.mp ha) ha' hb hc hd]; rfl) (hstuck _ s trivial)
    | _ => exact ⟨_, rfl, rfl⟩

lemma reads_decodeAsciiFrom : Reads (·.toNat < 0x80) decodeAsciiFrom id where
  nil _ := rfl
  char pos c s hc := by
    have hb : c.toNat.toUInt8.toNat = c.toNat := toNat_toUInt8 (by omega)
    have hlt : c.toNat.toUInt8 < 0x80 := by rw [UInt8.lt_iff_toNat_lt, hb]; exact hc
    rw [encodeChar_ascii hc, List.singleton_append, decodeAsciiFrom, if_pos hlt, hb, Char.ofNat_toNat]
    rfl
  stop pos rest hrest hstuck := by
    cases rest with
    | nil => exact absurd rfl hrest
    | cons b s =>
      by_cases hb : b < 0x80
      · rw [UInt8.lt_iff_toNat_lt] at hb
        have hc : (Char.ofNat b.toNat).toNat < 0x80 := by rwa [toNat_ofNat (.inl (hb.trans (by decide)))]
        exact absurd (by rw [encodeChar_one hb]; rfl) (hstuck _ s hc)
      · exact ⟨pos, by rw [decodeAsciiFrom, if_neg hb], rfl⟩

lemma toBool_decodeAscii (data : Bytes) : (decodeAscii data).toBool = Encoding.isAscii data := by
  have hfrom : ∀ pos, (decodeAsciiFrom pos data).toBool = Encoding.isAscii data := by
    induction data with
    | nil => exact fun _ => rfl
    | cons b s ih =>
      intro pos
      rw [Encoding.isAscii, List.all_cons, decodeAsciiFrom]
      by_cases hb : b < 0x80
      · rw [if_pos hb, decide_eq_true hb, Bool.true_and]
        refine Eq.trans ?_ (ih (pos + 1))
        cases decodeAsciiFrom (pos + 1) s <;> rfl
      · rw [if_neg hb, decide_eq_false hb]
        rfl
  rw [← hfrom 0, decodeAscii]
  cases decodeAsciiFrom 0 data <;> rfl

end Text

namespace Check

open Text (Decodable StopsAt)

/-- A named encoding of texts with characters of a kind, and its decoder. -/
structure Decodes (A : Char → Prop) (name : String) (decode : Bytes → Except Undecodable Text) : Prop where
  ascii : ∀ c : Char, c.toNat < 0x80 → A c
  ok : ∀ {data}, Decodable A data → ∃ s, decode data = .ok s
  error : ∀ {data k}, StopsAt A data k → ∃ u, decode data = .error u ∧ u.first = k
  line : ∀ line, isUndecodable (.text name) line = .ok (!(decode line).toBool)

lemma decodes_ascii : Decodes (·.toNat < 0x80) "ascii" Text.decodeAscii where
  ascii _ h := h
  ok h := by
    obtain ⟨s, hs⟩ := Text.reads_decodeAsciiFrom.ok h 0
    exact ⟨s, by rw [Text.decodeAscii, hs]⟩
  error h := by
    obtain ⟨stop, hstop, hfirst⟩ := Text.reads_decodeAsciiFrom.error h 0
    rw [Nat.zero_add] at hfirst
    exact ⟨_, by rw [Text.decodeAscii, hstop], hfirst⟩
  line line := by rw [isUndecodable_ascii, Text.toBool_decodeAscii]

lemma decodes_utf8 : Decodes (fun _ => True) "utf-8" Text.decodeUtf8 where
  ascii _ _ := trivial
  ok h := by
    obtain ⟨s, hs⟩ := Text.reads_decodeFrom.ok h 0
    exact ⟨s, by rw [Text.decodeUtf8, hs]⟩
  error h := by
    obtain ⟨stop, hstop, hfirst⟩ := Text.reads_decodeFrom.error h 0
    rw [Nat.zero_add] at hfirst
    exact ⟨_, by rw [Text.decodeUtf8, hstop], hfirst⟩
  line line := by
    have hname : Encoding.ofName? "utf-8" = some .utf8 := by decide +kernel
    cases line with
    | nil => rfl
    | cons b line =>
      simp [isUndecodable, hname, Encoding.accepts, Except.map, Except.mapError, Encoding.isUtf8]

variable {A : Char → Prop} {name : String} {decode : Bytes → Except Undecodable Text}

lemma Decodes.not_stopsAt (h : Decodes A name decode) (hdata : Decodable A data) (k : Nat) :
    ¬StopsAt A data k := by
  intro hk
  obtain ⟨s, hs⟩ := h.ok hdata
  obtain ⟨u, hu, -⟩ := h.error hk
  cases hs.symm.trans hu

lemma Decodes.passes (h : Decodes A name decode) (hlines : ∀ line ∈ lines, Decodable A line.1) :
    ∀ line ∈ lines.map Prod.fst, isUndecodable (.text name) line = .ok false := by
  intro line hline
  obtain ⟨p, hp, rfl⟩ := List.mem_map.mp hline
  obtain ⟨s, hs⟩ := h.ok (hlines p hp)
  rw [h.line, hs]
  rfl

lemma firstUndecodable_append {name : Setting} {before : List Bytes}
    (h : ∀ line ∈ before, isUndecodable name line = .ok false) (number : Nat) (lines : List Bytes) :
    firstUndecodable name number (before ++ lines) =
      firstUndecodable name (number + before.length) lines := by
  induction before generalizing number with
  | nil => rfl
  | cons line before ih =>
    rw [List.forall_mem_cons] at h
    rw [List.cons_append, firstUndecodable, h.1, List.length_cons, Nat.add_comm before.length,
      ← Nat.add_assoc]
    exact ih h.2 (number + 1)

end Check

namespace Checker

open Text (cutLines)

/-- What comes of a report on a line: a record in the log, if the level for it is registered. -/
def lineReported (file : Option String) (r : Report) (w : World) : Except Fault Bool × World :=
  if w.verboseNamed then
    (.ok true, w.logged .verbose
      (file.getD "None" ++ ":" ++ toString r.line ++ ": " ++ r.shown ++ " -- " ++ r.what))
  else (.error (.kind .noLevel), w)

lemma run_fails_report {check : Check} {r : Report}
    (h : check.examine data = .ok (.fail (some r))) (file : Option String) (w : World) :
    (fails file data check).run w = lineReported file r w := by
  unfold lineReported
  cases hverbose : w.verboseNamed with
  | false => exact run_fails_unnamed h hverbose file
  | true =>
    have hlift : (Session.lift (check.examine data)).run w = (.ok (.fail (some r)), w) := by
      rw [Session.run_lift, h]
    unfold fails
    rw [Session.run_bind_ok hlift]
    exact Session.run_bind_ok (Session.run_report_named hverbose _) _

/-- The check of the encoding fails exactly if the whole content cannot be decoded. Then it reports the
line with the offset at which decoding the content stops. -/
theorem fails_where_decoding_stops {name : String} {decode : Bytes → Except Undecodable Text}
    (hname : (name, decode) ∈ [("ascii", Text.decodeAscii), ("utf-8", Text.decodeUtf8)])
    (data : Bytes) (file : Option String) (w : World) :
    (cutLines data).flatMap (fun p => p.1 ++ p.2) = data ∧
    (((∃ s, decode data = .ok s) ∧ (fails file data (.encoding (.text name))).run w = (.ok false, w)) ∨
      ∃ u before line after, decode data = .error u ∧ cutLines data = before ++ line :: after ∧
        (Text.byteLines data)[before.length]? = some line.1 ∧
        (before.flatMap fun p => p.1 ++ p.2).length ≤ u.first ∧
        u.first < (before.flatMap fun p => p.1 ++ p.2).length + line.1.length ∧
        (fails file data (.encoding (.text name))).run w =
          lineReported file ⟨before.length + 1, Text.quoteBytes line.1, "unable to decode"⟩ w) := by
  obtain ⟨A, hdecodes⟩ : ∃ A, Check.Decodes A name decode := by
    simp only [List.mem_cons, Prod.mk.injEq, List.not_mem_nil, or_false] at hname
    rcases hname with ⟨rfl, rfl⟩ | ⟨rfl, rfl⟩
    · exact ⟨_, Check.decodes_ascii⟩
    · exact ⟨_, Check.decodes_utf8⟩
  have hcut := Text.cut_cutLines data
  have hexamine : (Check.encoding (.text name)).examine data =
      Check.firstUndecodable (.text name) 1 ((cutLines data).map Prod.fst) := by rw [hcut.map_fst]; rfl
  refine ⟨hcut.flatMap_eq, ?_⟩
  rcases hcut.decoded (hdecodes.ascii '\n' (by decide)) (hdecodes.ascii '\r' (by decide)) with
    ⟨hdata, hall⟩ | ⟨before, line, after, k, hlines, hbefore, hline, hk⟩
  · refine .inl ⟨hdecodes.ok hdata, run_fails_pass ?_ file w⟩
    rw [hexamine, ← List.append_nil (List.map _ _), Check.firstUndecodable_append (hdecodes.passes hall)]
    rfl
  · obtain ⟨u, hu, hfirst⟩ := hdecodes.error hk
    obtain ⟨u', hu', -⟩ := hdecodes.error hline
    have hlt : k < line.1.length := by
      obtain ⟨s, rest, -, hl, rfl, hrest, -⟩ := hline
      rw [hl, List.length_append]
      exact Nat.lt_add_of_pos_right (List.length_pos_of_ne_nil hrest)
    refine .inr ⟨u, before, line, after, hu, hlines, ?_, by omega, by omega, ?_⟩
    · rw [← hcut.map_fst, hlines]
      simp
    · refine run_fails_report ?_ file w
      rw [hexamine, hlines, List.map_append, Check.firstUndecodable_append (hdecodes.passes hbefore),
        List.map_cons, Check.firstUndecodable, hdecodes.line, hu', List.length_map, Nat.add_comm]
      rfl

/-- A character cut off by the end of the second line. -/
theorem fails_where_decoding_stops_within_character :
    let data : Bytes := [0x61, 0x0d, 0x0a, 0xe2, 0x82, 0x0d, 0x62]
    let w : World := { year := 2024 }
    (fails none data (.encoding (.text "utf-8"))).run w =
      lineReported none ⟨2, "b'\\xe2\\x82'", "unable to decode"⟩ w := by
  intro data w
  have hdecode : Text.decodeUtf8 data = .error ⟨"utf-8", data, 3, 5, .invalidContinuation⟩ := by decide
  have hlines : cutLines data = [([0x61], [0x0d, 0x0a]), ([0xe2, 0x82], [0x0d]), ([0x62], [])] := by decide
  have hname : ("utf-8", Text.decodeUtf8) ∈ [("ascii", Text.decodeAscii), ("utf-8", Text.decodeUtf8)] := by
    simp
  rcases (fails_where_decoding_stops hname data none w).2 with
    ⟨⟨s, hs⟩, -⟩ | ⟨u, before, line, after, hu, hcut, -, hle, hlt, hrun⟩
  · rw [hdecode] at hs
    cases hs
  · rw [hdecode] at hu
    cases hu
    rw [hlines] at hcut
    rcases before with _ | ⟨p, _ | ⟨q, before⟩⟩
    · cases hcut
      exact absurd hlt (by decide)
    · cases hcut
      exact hrun
    · obtain ⟨rfl, rfl, -⟩ : _ = p ∧ _ = q ∧ _ := by simpa using hcut
      exact absurd hle (by simp)

/-- Without the level there is no verdict on a line that cannot be decoded. -/
theorem fails_without_level_for_undecodable :
    let data := Text.encodeString "é"
    let w : World := { year := 2024, verboseNamed := false }
    (∃ u, Text.decodeAscii data = .error u) ∧
      (fails none data (.encoding (.text "ascii"))).run w = (.error (.kind .noLevel), w) := by
  intro data w
  have hexamine : (Check.encoding (.text "ascii")).examine data =
      .ok (.fail (some ⟨1, "b'\\xc3\\xa9'", "unable to decode"⟩)) := by decide
  exact ⟨⟨⟨"ascii", data, 0, 1, .notAscii⟩, by decide⟩, run_fails_unnamed hexamine rfl none⟩

end Checker

end SourceTidy
