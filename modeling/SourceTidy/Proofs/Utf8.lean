import SourceTidy.Text.Utf8
import Mathlib.Data.List.Basic

/-!
# Laws of UTF-8

`Text.decodeFrom` and `Text.encode` are inverse to each other: reading accepts exactly the bytes of
texts, at whatever offset it starts. Bytes below 128 stand for themselves and occur in no other
character.
-/

namespace SourceTidy.Text

variable {data : Bytes} {n : Nat} {s : Text} {a b : UInt8}

/-- Bytes that are the UTF-8 of some text. -/
def IsUtf8 (data : Bytes) : Prop := ∃ s, data = encode s

@[simp] lemma encode_nil : encode [] = [] := rfl

lemma encode_cons (c : Char) (s : Text) : encode (c :: s) = encodeChar c ++ encode s := rfl

lemma toNat_toUInt8 (h : n < 256) : n.toUInt8.toNat = n := by
  rw [Nat.toUInt8, UInt8.toNat_ofNat']
  omega

lemma toUInt8_eq (h : n = a.toNat) : n.toUInt8 = a := by
  subst h
  simp [Nat.toUInt8]

lemma toNat_ofNat (h : n < 0xd800 ∨ (0xdfff < n ∧ n < 0x110000)) : (Char.ofNat n).toNat = n := by
  have hv : n.isValidChar := h
  rw [Char.ofNat, dif_pos hv]
  rfl

lemma isContinuation_iff (b : UInt8) : isContinuation b = true ↔ 0x80 ≤ b.toNat ∧ b.toNat ≤ 0xbf := by
  simp [isContinuation, UInt8.le_iff_toNat_le]

lemma isContinuation_and_iff (a b limit first last : UInt8) :
    (isContinuation b && (if b < limit then a != first else a != last)) = true ↔
      (0x80 ≤ b.toNat ∧ b.toNat ≤ 0xbf) ∧ (b.toNat < limit.toNat → a.toNat ≠ first.toNat) ∧
        (limit.toNat ≤ b.toNat → a.toNat ≠ last.toNat) := by
  have hne : ∀ n : UInt8, (a != n) = true ↔ a.toNat ≠ n.toNat := fun n => by
    rw [bne_iff_ne, ne_eq, ← UInt8.toNat_inj]
  rw [Bool.and_eq_true, isContinuation_iff]
  refine and_congr_right fun _ => ?_
  by_cases hb : b < limit
  · have hlt : b.toNat < limit.toNat := UInt8.lt_iff_toNat_lt.mp hb
    rw [if_pos hb, hne]
    exact ⟨fun h => ⟨fun _ => h, fun hle => absurd hle (Nat.not_le.mpr hlt)⟩, fun h => h.1 hlt⟩
  · have hle : limit.toNat ≤ b.toNat := UInt8.le_iff_toNat_le.mp (UInt8.not_lt.mp hb)
    rw [if_neg hb, hne]
    exact ⟨fun h => ⟨fun hlt => absurd hle (Nat.not_le.mpr hlt), fun _ => h⟩, fun h => h.2 hle⟩

lemma isSecondOfThree_iff (a b : UInt8) : isSecondOfThree a b = true ↔
    (0x80 ≤ b.toNat ∧ b.toNat ≤ 0xbf) ∧ (b.toNat < 0xa0 → a.toNat ≠ 0xe0) ∧
      (0xa0 ≤ b.toNat → a.toNat ≠ 0xed) :=
  isContinuation_and_iff a b 0xa0 0xe0 0xed

lemma isSecondOfFour_iff (a b : UInt8) : isSecondOfFour a b = true ↔
    (0x80 ≤ b.toNat ∧ b.toNat ≤ 0xbf) ∧ (b.toNat < 0x90 → a.toNat ≠ 0xf0) ∧
      (0x90 ≤ b.toNat → a.toNat ≠ 0xf4) :=
  isContinuation_and_iff a b 0x90 0xf0 0xf4

lemma decodeFrom_one (pos : Nat) (s : Bytes) (ha : a.toNat < 0x80) :
    decodeFrom pos (a :: s) = (Char.ofNat a.toNat :: ·) <$> decodeFrom (pos + 1) s := by
  rw [decodeFrom.eq_def]
  simp only [UInt8.lt_iff_toNat_lt]
  rw [if_pos (by simpa using ha)]

lemma decodeFrom_two (pos : Nat) (s : Bytes) (ha : 0xc2 ≤ a.toNat)
    (ha' : a.toNat < 0xe0) (hb : isContinuation b = true) :
    decodeFrom pos (a :: b :: s) =
      (Char.ofNat ((a.toNat - 0xc0) * 0x40 + low b) :: ·) <$> decodeFrom (pos + 2) s := by
  rw [decodeFrom.eq_def]
  simp only [UInt8.lt_iff_toNat_lt, hb, if_true]
  rw [if_neg (by simp; omega), if_neg (by simp; omega), if_pos (by simpa using ha')]

lemma decodeFrom_three (pos : Nat) {a b c : UInt8} (s : Bytes) (ha : 0xe0 ≤ a.toNat)
    (ha' : a.toNat < 0xf0) (hb : isSecondOfThree a b = true) (hc : isContinuation c = true) :
    decodeFrom pos (a :: b :: c :: s) =
      (Char.ofNat ((a.toNat - 0xe0) * 0x1000 + low b * 0x40 + low c) :: ·) <$> decodeFrom (pos + 3) s := by
  rw [decodeFrom.eq_def]
  simp only [UInt8.lt_iff_toNat_lt, hb, hc, if_true]
  rw [if_neg (by simp; omega), if_neg (by simp; omega), if_neg (by simp; omega),
    if_pos (by simpa using ha')]

lemma decodeFrom_four (pos : Nat) {a b c d : UInt8} (s : Bytes) (ha : 0xf0 ≤ a.toNat)
    (ha' : a.toNat < 0xf5) (hb : isSecondOfFour a b = true) (hc : isContinuation c = true)
    (hd : isContinuation d = true) :
    decodeFrom pos (a :: b :: c :: d :: s) =
      (Char.ofNat ((a.toNat - 0xf0) * 0x40000 + low b * 0x1000 + low c * 0x40 + low d) :: ·) <$>
        decodeFrom (pos + 4) s := by
  rw [decodeFrom.eq_def]
  simp only [UInt8.lt_iff_toNat_lt, hb, hc, hd, if_true]
  rw [if_neg (by simp; omega), if_neg (by simp; omega), if_neg (by simp; omega),
    if_neg (by simp; omega), if_pos (by simpa using ha')]

lemma decodeFrom_encodeChar (pos : Nat) (c : Char) (s : Bytes) :
    decodeFrom pos (encodeChar c ++ s) = (c :: ·) <$> decodeFrom (pos + (encodeChar c).length) s := by
  have hvalid : c.toNat < 0xd800 ∨ (0xdfff < c.toNat ∧ c.toNat < 0x110000) := c.valid
  have hc := Char.ofNat_toNat c
  unfold encodeChar
  generalize c.toNat = n at hvalid hc
  by_cases h1 : n < 0x80
  · simp only [h1, if_true, List.cons_append, List.nil_append, List.length_singleton]
    have ha : n.toUInt8.toNat = n := toNat_toUInt8 (by omega)
    rw [decodeFrom_one pos s (by omega), ha, hc]
  by_cases h2 : n < 0x800
  · simp only [h1, h2, if_true, if_false, List.cons_append, List.nil_append, List.length_cons,
      List.length_nil]
    have ha : (0xc0 + n / 0x40).toUInt8.toNat = 0xc0 + n / 0x40 := toNat_toUInt8 (by omega)
    have hb : (0x80 + n % 0x40).toUInt8.toNat = 0x80 + n % 0x40 := toNat_toUInt8 (by omega)
    rw [decodeFrom_two pos s (by omega) (by omega) (by rw [isContinuation_iff]; omega)]
    have hn : (0xc0 + n / 0x40 - 0xc0) * 0x40 + (0x80 + n % 0x40) % 0x40 = n := by omega
    rw [low, ha, hb, hn, hc]
  by_cases h3 : n < 0x10000
  · simp only [h1, h2, h3, if_true, if_false, List.cons_append, List.nil_append, List.length_cons,
      List.length_nil]
    have ha : (0xe0 + n / 0x1000).toUInt8.toNat = 0xe0 + n / 0x1000 := toNat_toUInt8 (by omega)
    have hb : (0x80 + n / 0x40 % 0x40).toUInt8.toNat = 0x80 + n / 0x40 % 0x40 :=
      toNat_toUInt8 (by omega)
    have hd : (0x80 + n % 0x40).toUInt8.toNat = 0x80 + n % 0x40 := toNat_toUInt8 (by omega)
    rw [decodeFrom_three pos s (by omega) (by omega) (by rw [isSecondOfThree_iff]; omega)
      (by rw [isContinuation_iff]; omega)]
    have hn : (0xe0 + n / 0x1000 - 0xe0) * 0x1000 + (0x80 + n / 0x40 % 0x40) % 0x40 * 0x40 +
        (0x80 + n % 0x40) % 0x40 = n := by omega
    rw [low, low, ha, hb, hd, hn, hc]
  · simp only [h1, h2, h3, if_false, List.cons_append, List.nil_append, List.length_cons,
      List.length_nil]
    have ha : (0xf0 + n / 0x40000).toUInt8.toNat = 0xf0 + n / 0x40000 := toNat_toUInt8 (by omega)
    have hb : (0x80 + n / 0x1000 % 0x40).toUInt8.toNat = 0x80 + n / 0x1000 % 0x40 :=
      toNat_toUInt8 (by omega)
    have hd : (0x80 + n / 0x40 % 0x40).toUInt8.toNat = 0x80 + n / 0x40 % 0x40 :=
      toNat_toUInt8 (by omega)
    have he : (0x80 + n % 0x40).toUInt8.toNat = 0x80 + n % 0x40 := toNat_toUInt8 (by omega)
    rw [decodeFrom_four pos s (by omega) (by omega) (by rw [isSecondOfFour_iff]; omega)
      (by rw [isContinuation_iff]; omega) (by rw [isContinuation_iff]; omega)]
    have hn : (0xf0 + n / 0x40000 - 0xf0) * 0x40000 +
        (0x80 + n / 0x1000 % 0x40) % 0x40 * 0x1000 + (0x80 + n / 0x40 % 0x40) % 0x40 * 0x40 +
        (0x80 + n % 0x40) % 0x40 = n := by omega
    rw [low, low, low, ha, hb, hd, he, hn, hc]

lemma encodeChar_one (ha : a.toNat < 0x80) : encodeChar (Char.ofNat a.toNat) = [a] := by
  unfold encodeChar
  rw [toNat_ofNat (by omega), if_pos ha, toUInt8_eq rfl]

lemma encodeChar_two (ha : 0xc2 ≤ a.toNat) (ha' : a.toNat < 0xe0) (hb : isContinuation b = true) :
    encodeChar (Char.ofNat ((a.toNat - 0xc0) * 0x40 + low b)) = [a, b] := by
  rw [isContinuation_iff] at hb
  unfold encodeChar low
  rw [toNat_ofNat (by omega), if_neg (by omega), if_pos (by omega),
    toUInt8_eq (a := a) (by omega), toUInt8_eq (a := b) (by omega)]

lemma encodeChar_three {a b c : UInt8} (ha : 0xe0 ≤ a.toNat) (ha' : a.toNat < 0xf0)
    (hb : isSecondOfThree a b = true) (hc : isContinuation c = true) :
    encodeChar (Char.ofNat ((a.toNat - 0xe0) * 0x1000 + low b * 0x40 + low c)) = [a, b, c] := by
  rw [isSecondOfThree_iff] at hb
  rw [isContinuation_iff] at hc
  unfold encodeChar low
  rw [toNat_ofNat (by omega), if_neg (by omega), if_neg (by omega), if_pos (by omega),
    toUInt8_eq (a := a) (by omega), toUInt8_eq (a := b) (by omega), toUInt8_eq (a := c) (by omega)]

lemma encodeChar_four {a b c d : UInt8} (ha : 0xf0 ≤ a.toNat) (ha' : a.toNat < 0xf5)
    (hb : isSecondOfFour a b = true) (hc : isContinuation c = true) (hd : isContinuation d = true) :
    encodeChar (Char.ofNat ((a.toNat - 0xf0) * 0x40000 + low b * 0x1000 + low c * 0x40 + low d)) =
      [a, b, c, d] := by
  rw [isSecondOfFour_iff] at hb
  rw [isContinuation_iff] at hc hd
  unfold encodeChar low
  rw [toNat_ofNat (by omega), if_neg (by omega), if_neg (by omega), if_neg (by omega),
    toUInt8_eq (a := a) (by omega), toUInt8_eq (a := b) (by omega), toUInt8_eq (a := c) (by omega),
    toUInt8_eq (a := d) (by omega)]

lemma eq_cons_of_map_eq_ok {ε : Type} {x : Except ε Text} {c : Char} (h : (c :: ·) <$> x = .ok s) :
    ∃ r, x = .ok r ∧ s = c :: r := by
  cases x with
  | error e => cases h
  | ok r => exact ⟨r, rfl, by cases h; rfl⟩

lemma encode_of_decodeFrom {pos : Nat} (h : decodeFrom pos data = .ok s) : encode s = data := by
  fun_induction decodeFrom pos data generalizing s with
  | case1 => cases h; rfl
  | case2 pos a t ha ih =>
    rw [UInt8.lt_iff_toNat_lt] at ha
    obtain ⟨r, hr, rfl⟩ := eq_cons_of_map_eq_ok h
    rw [encode_cons, encodeChar_one ha, ih hr]
    rfl
  | case5 pos a _ ha ha' b t hb ih =>
    rw [UInt8.lt_iff_toNat_lt] at ha ha'
    obtain ⟨r, hr, rfl⟩ := eq_cons_of_map_eq_ok h
    rw [encode_cons, encodeChar_two (Nat.not_lt.mp ha) ha' hb, ih hr]
    rfl
  | case9 pos a _ _ ha ha' b hb c t hc ih =>
    rw [UInt8.lt_iff_toNat_lt] at ha ha'
    obtain ⟨r, hr, rfl⟩ := eq_cons_of_map_eq_ok h
    rw [encode_cons, encodeChar_three (Nat.not_lt.mp ha) ha' hb hc, ih hr]
    rfl
  | case15 pos a _ _ _ ha ha' b hb c hc d t hd ih =>
    rw [UInt8.lt_iff_toNat_lt] at ha ha'
    obtain ⟨r, hr, rfl⟩ := eq_cons_of_map_eq_ok h
    rw [encode_cons, encodeChar_four (Nat.not_lt.mp ha) ha' hb hc hd, ih hr]
    rfl
  | _ => cases h

lemma decodeFrom_encode (pos : Nat) (s : Text) : decodeFrom pos (encode s) = .ok s := by
  induction s generalizing pos with
  | nil => rfl
  | cons c s ih =>
    rw [encode_cons, decodeFrom_encodeChar, ih]
    rfl

/-- Reading yields a text exactly if the bytes are those of the text. -/
theorem decodeUtf8_eq_ok_iff : decodeUtf8 data = .ok s ↔ data = encode s := by
  unfold decodeUtf8
  constructor
  · intro h
    cases hd : decodeFrom 0 data with
    | ok r =>
      rw [hd] at h
      cases h
      exact (encode_of_decodeFrom hd).symm
    | error stop =>
      rw [hd] at h
      cases h
  · rintro rfl
    rw [decodeFrom_encode]

@[simp] lemma decodeUtf8_encode (s : Text) : decodeUtf8 (encode s) = .ok s :=
  decodeUtf8_eq_ok_iff.mpr rfl

/-- Reading fails exactly on bytes that are not UTF-8. -/
theorem decodeUtf8_eq_error_iff : (∃ u, decodeUtf8 data = .error u) ↔ ¬IsUtf8 data := by
  constructor
  · rintro ⟨u, hu⟩ ⟨s, rfl⟩
    rw [decodeUtf8_encode] at hu
    cases hu
  · intro h
    cases hd : decodeUtf8 data with
    | ok s => exact absurd ⟨s, decodeUtf8_eq_ok_iff.mp hd⟩ h
    | error u => exact ⟨u, rfl⟩

lemma encodeChar_ascii {c : Char} (h : c.toNat < 0x80) : encodeChar c = [c.toNat.toUInt8] := by
  unfold encodeChar
  rw [if_pos h]

lemma high_of_mem_encodeChar {c : Char} (h : 0x80 ≤ c.toNat) (hb : b ∈ encodeChar c) : 0x80 ≤ b.toNat := by
  have hvalid : c.toNat < 0xd800 ∨ (0xdfff < c.toNat ∧ c.toNat < 0x110000) := c.valid
  unfold encodeChar at hb
  generalize c.toNat = n at h hvalid hb
  rw [if_neg (by omega)] at hb
  have hbig : ∀ m, 0x80 ≤ m → m < 256 → b = m.toUInt8 → 0x80 ≤ b.toNat := by
    intro m hm hm' hbm
    rw [hbm, toNat_toUInt8 hm']
    exact hm
  split_ifs at hb <;> simp only [List.mem_cons, List.not_mem_nil, or_false] at hb
  · rcases hb with hb | hb <;> exact hbig _ (by omega) (by omega) hb
  · rcases hb with hb | hb | hb <;> exact hbig _ (by omega) (by omega) hb
  · rcases hb with hb | hb | hb | hb <;> exact hbig _ (by omega) (by omega) hb

lemma mem_encodeChar_ascii (hb : b.toNat < 0x80) {c : Char} : b ∈ encodeChar c ↔ c = Char.ofNat b.toNat := by
  constructor
  · intro hmem
    by_cases hc : c.toNat < 0x80
    · rw [encodeChar_ascii hc, List.mem_singleton] at hmem
      rw [hmem, toNat_toUInt8 (by omega), Char.ofNat_toNat]
    · have := high_of_mem_encodeChar (by omega) hmem
      omega
  · rintro rfl
    rw [encodeChar_one hb]
    exact List.mem_singleton_self b

end SourceTidy.Text
