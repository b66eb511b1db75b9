import SourceTidy.Proofs.UsualConfig

/-!
# Filled templates

A template without carriage returns has none when it is filled with a year, and every code point of
it is a character.
-/

namespace SourceTidy

open CodePoint

variable {x : Binary64} {c mark : Char} {n : Int} {depth fuel : Nat} {name r s spec : Text}

lemma cr_notMem_cons (hc : c ≠ '\r') (hs : '\r' ∉ s) : '\r' ∉ c :: s := by
  rw [List.mem_cons, not_or]
  exact ⟨hc.symm, hs⟩

lemma cr_notMem_append {s t : Text} (hs : '\r' ∉ s) (ht : '\r' ∉ t) : '\r' ∉ s ++ t := by
  rw [List.mem_append, not_or]
  exact ⟨hs, ht⟩

lemma mem_toDigits {b : Nat} (hb : 1 < b) (hb' : b ≤ 16) {n : Nat} (h : c ∈ Nat.toDigits b n) :
    ∃ k < 16, c = Nat.digitChar k := by
  induction n using Nat.strong_induction_on with
  | _ n ih =>
    rw [Nat.toDigits_eq_if hb] at h
    split at h
    · next hn => exact ⟨n, by omega, List.mem_singleton.mp h⟩
    · next hn =>
      have hlast : n % b < b := Nat.mod_lt n (by omega)
      rcases List.mem_append.mp h with hrest | hdigit
      · exact ih (n / b) (Nat.div_lt_self (by omega) hb) hrest
      · exact ⟨n % b, by omega, List.mem_singleton.mp hdigit⟩

lemma cr_notMem_toDigits {b : Nat} (hb : 1 < b) (hb' : b ≤ 16) (n : Nat) : '\r' ∉ Nat.toDigits b n := by
  intro h
  obtain ⟨k, hk, heq⟩ := mem_toDigits hb hb' h
  exact (by decide : ∀ k < 16, '\r' ≠ Nat.digitChar k) k hk heq

lemma mem_of_mem_dropEndWhile {α : Type} {p : α → Bool} {s : List α} {a : α}
    (h : a ∈ Text.dropEndWhile p s) : a ∈ s := by
  induction s with
  | nil => exact h
  | cons b s ih =>
    rw [Text.dropEndWhile] at h
    split at h
    · split at h
      · cases h
      · rw [List.mem_singleton.mp h]
        exact List.mem_cons_self
    · rcases List.mem_cons.mp h with rfl | hmem
      · exact List.mem_cons_self
      · exact List.mem_cons_of_mem _ (ih hmem)

namespace Digits

variable {d : Digits}

lemma cr_notMem_ofScaled (n : Nat) (places : Int) : '\r' ∉ (ofScaled n places).digits := by
  unfold ofScaled
  split
  · exact List.not_mem_nil
  · exact fun h => cr_notMem_toDigits (by decide) (by decide) n (mem_of_mem_dropEndWhile h)

lemma cr_notMem_toPlaces (num den places : Nat) : '\r' ∉ (toPlaces num den places).digits := by
  unfold toPlaces
  dsimp only
  split
  · exact List.not_mem_nil
  · exact cr_notMem_ofScaled _ _

lemma cr_notMem_toSignificant (num den count : Nat) : '\r' ∉ (toSignificant num den count).digits := by
  unfold toSignificant
  split
  · decide
  · exact cr_notMem_ofScaled _ _

lemma cr_notMem_shortest (mantissa : Nat) (exponent : Int) : '\r' ∉ (shortest mantissa exponent).digits := by
  unfold shortest
  split
  · decide
  cases hfound : (List.range mostDigits).findSome? fun n => neighbour? mantissa exponent (n + 1) with
  | none => decide
  | some d =>
    obtain ⟨n, -, hn⟩ := List.exists_of_findSome?_eq_some hfound
    obtain ⟨m, places, rfl⟩ : ∃ m places, d = ofScaled m places := by
      unfold neighbour? at hn
      dsimp only at hn
      split_ifs at hn
      all_goals exact ⟨_, _, (Option.some.inj hn).symm⟩
    exact cr_notMem_ofScaled m places

lemma cr_notMem_slice (h : '\r' ∉ d.digits) (start stop : Int) : '\r' ∉ d.slice start stop := by
  have hat : ∀ i, d.digitAt i ≠ '\r' := by
    intro i heq
    unfold digitAt at heq
    split at heq
    · cases heq
    · rw [List.getD_eq_getElem?_getD] at heq
      cases hget : d.digits[i.toNat]? with
      | none =>
        rw [hget] at heq
        cases heq
      | some c =>
        rw [hget] at heq
        exact h (heq ▸ List.mem_of_getElem? hget)
  simp [slice, hat]

lemma cr_notMem_exponentText (hmark : mark ≠ '\r') (e : Int) : '\r' ∉ exponentText mark e := by
  have hdigits : '\r' ∉ (toString e.natAbs).toList := by
    change '\r' ∉ (Nat.repr e.natAbs).toList
    rw [Nat.toList_repr]
    exact cr_notMem_toDigits (by decide) (by decide) _
  have hpad : '\r' ∉ (Text.padNat 2 e.natAbs).toList := by
    rw [Text.padNat, String.toList_append, String.toList_ofList]
    exact cr_notMem_append (fun h => absurd (List.eq_of_mem_replicate h) (by decide)) hdigits
  have hsign : (if e < 0 then '-' else '+') ≠ '\r' := by split <;> decide
  exact cr_notMem_cons hmark (cr_notMem_cons hsign hpad)

end Digits

namespace Layout

variable {l : Layout}

lemma mem_padWith {α : Type} {ofChar : Char → α} {head body r : List α} {a : α}
    (h : l.padWith ofChar head body = .ok r) (ha : a ∈ r) : a ∈ head ∨ a ∈ body ∨ a = ofChar l.fill := by
  unfold padWith at h
  dsimp only at h
  split at h
  · cases h
  cases h
  have hfilling : ∀ n, a ∈ (l.filling n).map ofChar → a = ofChar l.fill := by
    intro n hmem
    obtain ⟨c, hc, rfl⟩ := List.mem_map.mp hmem
    rw [List.eq_of_mem_replicate hc]
  split at ha <;> simp only [List.mem_append] at ha <;> grind

lemma mem_groupDigits {size fuel : Nat} {separator c : Char} {least : Int} {digits : Text}
    (h : c ∈ groupDigits size separator fuel least digits) : c ∈ digits ∨ c = '0' ∨ c = separator := by
  induction fuel generalizing least digits with
  | zero => exact .inl h
  | succ fuel ih =>
    have hgroup : ∀ n m, c ∈ digits.take n ++ List.replicate m '0' → c ∈ digits ∨ c = '0' := by
      intro n m hmem
      exact (List.mem_append.mp hmem).imp List.mem_of_mem_take List.eq_of_mem_replicate
    rw [groupDigits] at h
    split at h
    · exact (hgroup _ _ h).imp_right .inl
    · rcases List.mem_append.mp h with hmem | hmem
      · exact (hgroup _ _ hmem).imp_right .inl
      · rcases List.mem_cons.mp hmem with heq | hmem
        · exact .inr (.inr heq)
        · exact (ih hmem).imp_left List.mem_of_mem_drop

/-- What a layout adds is no carriage return. -/
structure Clean (l : Layout) : Prop where
  fill : l.fill ≠ '\r'
  separator : l.separator ≠ some '\r'

lemma cr_notMem_signOf (l : Layout) (negative : Bool) : '\r' ∉ l.signOf negative := by
  unfold signOf
  split
  · decide
  · split <;> decide

namespace Clean

variable (hl : l.Clean)

include hl

lemma pad {head body r : Text} (hhead : '\r' ∉ head) (hbody : '\r' ∉ body)
    (h : l.pad head body = .ok r) : '\r' ∉ r := by
  intro hr
  rcases mem_padWith h hr with hmem | hmem | heq
  · exact hhead hmem
  · exact hbody hmem
  · exact hl.fill heq.symm

lemma layNumber {negative : Bool} {lead digits tail r : Text} (hlead : '\r' ∉ lead)
    (hdigits : '\r' ∉ digits) (htail : '\r' ∉ tail)
    (h : l.layNumber negative lead digits tail = .ok r) : '\r' ∉ r := by
  unfold Layout.layNumber at h
  dsimp only at h
  split at h
  · cases h
  refine hl.pad ?_ ?_ h
  · exact cr_notMem_append (cr_notMem_signOf l negative) hlead
  refine cr_notMem_append ?_ htail
  split
  · exact hdigits
  next c hsep =>
  split
  · exact List.not_mem_nil
  intro hmem
  rcases mem_groupDigits (List.mem_reverse.mp hmem) with hmem | heq | heq
  · exact hdigits (List.mem_reverse.mp hmem)
  · cases heq
  · exact hl.separator (heq ▸ hsep)

lemma layDigits (h : l.layDigits n = .ok r) : '\r' ∉ r := by
  unfold Layout.layDigits at h
  dsimp only at h
  generalize hbase : (if l.code == 'b' then 2 else if l.code == 'o' then 8
    else if l.code == 'x' || l.code == 'X' then 16 else 10) = base at h
  have hrange : 1 < base ∧ base ≤ 16 := by
    rw [← hbase]
    split_ifs <;> decide
  refine hl.layNumber ?_ ?_ List.not_mem_nil h
  · split
    · next halt =>
      have hcode : '\r' ≠ l.code := by
        rintro heq
        rw [← hbase, ← heq] at halt
        simp at halt
      simpa using hcode
    · exact List.not_mem_nil
  · split
    · intro hmem
      obtain ⟨c, hc, heq⟩ := List.mem_map.mp hmem
      obtain ⟨k, hk, rfl⟩ := mem_toDigits hrange.1 hrange.2 hc
      exact (by decide : ∀ k < 16, (Nat.digitChar k).toUpper ≠ '\r') k hk heq
    · exact cr_notMem_toDigits hrange.1 hrange.2 _

end Clean

lemma cr_notMem_fraction (l : Layout) {digits : Text} (h : '\r' ∉ digits) : '\r' ∉ l.fraction digits := by
  unfold fraction
  split
  · exact List.not_mem_nil
  · exact cr_notMem_cons (by decide) h

def CleanDigits (q : Digits × Text × Text) : Prop := '\r' ∉ q.2.1 ∧ '\r' ∉ q.2.2

lemma cleanDigits_positional (l : Layout) {d : Digits} (h : '\r' ∉ d.digits) (stop : Int) :
    CleanDigits (d, d.whole, l.fraction (d.fraction stop)) :=
  ⟨Digits.cr_notMem_slice h _ _, l.cr_notMem_fraction (Digits.cr_notMem_slice h _ _)⟩

lemma cleanDigits_scientific (l : Layout) {d : Digits} (h : '\r' ∉ d.digits)
    (hmark : mark ≠ '\r') (stop : Int) : CleanDigits (d, d.scientific.1.whole,
      l.fraction (d.scientific.1.fraction stop) ++ Digits.exponentText mark d.scientific.2) := by
  exact ⟨Digits.cr_notMem_slice h _ _, cr_notMem_append
    (l.cr_notMem_fraction (Digits.cr_notMem_slice h _ _)) (Digits.cr_notMem_exponentText hmark _)⟩

lemma cleanDigits_digitsIn (l : Layout) (form : NumberForm) (hmark : mark ≠ '\r') (num den : Nat) :
    CleanDigits (l.digitsIn form mark num den) := by
  have hsignificant := Digits.cr_notMem_toSignificant num den
  have hite : ∀ (b : Bool) (x y : Digits × Text × Text), CleanDigits x → CleanDigits y →
      CleanDigits (if b then x else y) := by
    intro b x y hx hy
    cases b
    · exact hy
    · exact hx
  cases form with
  | fixed =>
    refine l.cleanDigits_positional ?_ _
    split
    · decide
    · exact Digits.cr_notMem_toPlaces num den _
  | scientific => exact l.cleanDigits_scientific (hsignificant _) hmark _
  | general | generalWithPoint =>
    exact hite _ _ _ (l.cleanDigits_scientific (hsignificant _) hmark _)
      (l.cleanDigits_positional (hsignificant _) _)

lemma Clean.layReal (hl : l.Clean) {form : NumberForm} {tail r : Text}
    (htail : '\r' ∉ tail) (h : l.layReal form x tail = .ok r) : '\r' ∉ r := by
  unfold Layout.layReal at h
  dsimp only at h
  have hword : ∀ s : String, s = "nan" ∨ s = "inf" →
      '\r' ∉ (if "EFG".toList.contains l.code then s.toList.map Char.toUpper else s.toList) ++ tail := by
    intro s hs
    refine cr_notMem_append ?_ htail
    rcases hs with rfl | rfl <;> split <;> decide
  cases x with
  | nan => exact hl.layNumber List.not_mem_nil List.not_mem_nil (hword _ (.inl rfl)) h
  | infinite negative => exact hl.layNumber List.not_mem_nil List.not_mem_nil (hword _ (.inr rfl)) h
  | finite negative mantissa exponent =>
    have hmark : (if "EFG".toList.contains l.code then 'E' else 'e') ≠ '\r' := by
      split <;> decide
    have hdigits := l.cleanDigits_digitsIn form hmark (Binary64.ratio mantissa exponent).1
      (Binary64.ratio mantissa exponent).2
    exact hl.layNumber List.not_mem_nil hdigits.1 (cr_notMem_append hdigits.2 htail) h

lemma cr_notMem_plainParts (mantissa : Nat) (exponent : Int) :
    '\r' ∉ (Binary64.plainParts mantissa exponent).1 ∧ '\r' ∉ (Binary64.plainParts mantissa exponent).2 := by
  have hd := Digits.cr_notMem_shortest mantissa exponent
  unfold Binary64.plainParts
  dsimp only
  split
  · refine ⟨Digits.cr_notMem_slice hd _ _,
      cr_notMem_append ?_ (Digits.cr_notMem_exponentText (by decide) _)⟩
    split
    · exact List.not_mem_nil
    · exact cr_notMem_cons (by decide) (Digits.cr_notMem_slice hd _ _)
  · exact ⟨Digits.cr_notMem_slice hd _ _,
      cr_notMem_cons (by decide) (Digits.cr_notMem_slice hd _ _)⟩

lemma Clean.layPlain (hl : l.Clean) (h : l.layPlain x = .ok r) : '\r' ∉ r := by
  unfold Layout.layPlain at h
  cases x with
  | nan => exact hl.layReal List.not_mem_nil h
  | infinite negative => exact hl.layReal List.not_mem_nil h
  | finite negative mantissa exponent =>
    have hparts := cr_notMem_plainParts mantissa exponent
    dsimp only at h
    generalize Binary64.plainParts mantissa exponent = parts at h hparts
    refine hl.layNumber List.not_mem_nil hparts.1 ?_ h
    split
    · exact cr_notMem_cons (by decide) hparts.2
    · exact hparts.2

lemma Clean.layByCode (hl : l.Clean) (h : l.layByCode x = .ok r) : '\r' ∉ r := by
  have hnone : '\r' ∉ ([] : Text) := List.not_mem_nil
  unfold Layout.layByCode at h
  split at h
  · cases h
  split at h
  · split at h
    · exact hl.layReal hnone h
    · exact hl.layPlain h
  split at h
  · exact hl.layReal hnone h
  split at h
  · exact hl.layReal hnone h
  split at h
  · exact hl.layReal (by decide) h
  · exact hl.layReal hnone h

lemma mem_of_takeAlign (h : c ∈ (takeAlign spec).1) : c ∈ spec := by
  unfold takeAlign at h
  split at h
  · split at h
    · cases h
      exact List.mem_cons_self
    · split at h <;> cases h
  · split at h <;> cases h
  · cases h

lemma takeSeparator_ne_cr {s rest : Text} {separator : Option Char}
    (h : takeSeparator s = .ok (separator, rest)) : separator ≠ some '\r' := by
  unfold takeSeparator at h
  split at h <;> cases h <;> simp

lemma clean_of_read {kind : String} {align : Align} {code : Char} (hspec : '\r' ∉ spec)
    (h : read kind align code spec = .ok l) : l.Clean := by
  unfold read at h
  rcases halign : takeAlign spec with ⟨fill, given, s₁⟩
  rcases hsign : takeSign s₁ with ⟨sign, s₂⟩
  rcases hzero : takeChar 'z' s₂ with ⟨positiveZero, s₃⟩
  rcases halt : takeChar '#' s₃ with ⟨alternate, s₄⟩
  rcases hnull : (if fill.isSome then (false, s₄) else takeChar '0' s₄) with ⟨zero, s₅⟩
  simp only [halign, hsign, hzero, halt, hnull] at h
  obtain ⟨⟨width, s₆⟩, -, h⟩ := bind_eq_ok h
  obtain ⟨⟨separator, s₇⟩, hsep, h⟩ := bind_eq_ok h
  obtain ⟨⟨precision, s₈⟩, -, h⟩ := bind_eq_ok h
  have hfields : l.fill = (if zero then '0' else fill.getD ' ') ∧ l.separator = separator := by
    dsimp only at h
    split at h
    · obtain ⟨_, -, h⟩ := bind_eq_ok h
      obtain ⟨_, -, h⟩ := bind_eq_ok h
      cases h
      exact ⟨rfl, rfl⟩
    · obtain ⟨_, -, h⟩ := bind_eq_ok h
      obtain ⟨_, -, h⟩ := bind_eq_ok h
      cases h
      exact ⟨rfl, rfl⟩
    · cases h
  constructor
  · rw [hfields.1]
    split
    · decide
    · intro heq
      cases fill with
      | none => cases heq
      | some c =>
        have hmem : c ∈ (takeAlign spec).1 := by rw [halign]; rfl
        exact hspec (heq ▸ mem_of_takeAlign hmem)
  · rw [hfields.2]
    exact takeSeparator_ne_cr hsep

/-- Code points that are characters and no carriage returns. -/
def Tame (s : List CodePoint) : Prop := ∀ x ∈ s, ∃ c, x = .char c ∧ c ≠ '\r'

lemma tame_ofText (h : '\r' ∉ s) : Tame (ofText s) := by
  intro x hx
  obtain ⟨c, hc, rfl⟩ := List.mem_map.mp hx
  exact ⟨c, rfl, fun heq => h (heq ▸ hc)⟩

lemma Tame.append {s t : List CodePoint} (hs : Tame s) (ht : Tame t) : Tame (s ++ t) := by
  intro x hx
  exact (List.mem_append.mp hx).elim (hs x) (ht x)

lemma Tame.cons {s : List CodePoint} (hc : c ≠ '\r') (hs : Tame s) : Tame (.char c :: s) :=
  List.forall_mem_cons.mpr ⟨⟨c, rfl, hc⟩, hs⟩

lemma Tame.exists_text {s : List CodePoint} (h : Tame s) : ∃ t, s = ofText t ∧ '\r' ∉ t := by
  induction s with
  | nil => exact ⟨[], rfl, List.not_mem_nil⟩
  | cons x s ih =>
    obtain ⟨⟨c, rfl, hc⟩, hs⟩ := List.forall_mem_cons.mp h
    obtain ⟨t, rfl, ht⟩ := ih hs
    exact ⟨c :: t, rfl, cr_notMem_cons hc ht⟩

/-- The number of a character that is no carriage return. -/
structure TameNumber (n : Int) : Prop where
  nonneg : 0 ≤ n
  lt : n < 0xd800
  ne : n ≠ 13

lemma Clean.layChar (hl : l.Clean) (hn : TameNumber n) {r : List CodePoint}
    (h : l.layChar n = .ok r) : Tame r := by
  have hvalid : n.toNat.isValidChar := .inl (by have := hn.lt; omega)
  have hcode : ofNat? n.toNat = some (.char (Char.ofNat n.toNat)) := by
    rw [ofNat?, if_pos hvalid]
  have hne : Char.ofNat n.toNat ≠ '\r' := by
    intro heq
    have hnat := congrArg Char.toNat heq
    rw [Text.toNat_ofNat (.inl (by have := hn.lt; omega))] at hnat
    have hthirteen : '\r'.toNat = 13 := rfl
    have := hn.ne
    have := hn.nonneg
    omega
  unfold Layout.layChar at h
  rw [hcode] at h
  split_ifs at h
  intro x hx
  rcases mem_padWith h hx with hmem | hmem | rfl
  · cases hmem
  · exact ⟨_, List.mem_singleton.mp hmem, hne⟩
  · exact ⟨_, rfl, hl.fill⟩

lemma tame_of_map {x : Except TemplateFault Text} {r : List CodePoint}
    (hx : ∀ t, x = .ok t → '\r' ∉ t) (h : x.map ofText = .ok r) : Tame r := by
  obtain ⟨t, ht, rfl⟩ := map_eq_ok h
  exact tame_ofText (hx t ht)

lemma tame_layIntegerAs {kind : String} {r : List CodePoint} (hn : TameNumber n)
    (hspec : '\r' ∉ spec) (h : layIntegerAs kind n spec = .ok r) : Tame r := by
  obtain ⟨l, hread, h⟩ := bind_eq_ok h
  have hl := clean_of_read hspec hread
  split_ifs at h
  · unfold layInteger at h
    split_ifs at h
    · exact hl.layChar hn h
    · exact tame_of_map (fun t => hl.layDigits) h
  · split at h
    · exact tame_of_map (fun t => hl.layByCode) h
    · cases h

lemma cr_notMem_layTextAs {s : String} (hs : '\r' ∉ s.toList) (hspec : '\r' ∉ spec)
    (h : layTextAs s spec = .ok r) : '\r' ∉ r := by
  obtain ⟨l, hread, h⟩ := bind_eq_ok h
  unfold layText at h
  split_ifs at h
  refine (clean_of_read hspec hread).pad List.not_mem_nil ?_ h
  split
  · exact fun hmem => hs (List.mem_of_mem_take hmem)
  · exact hs

end Layout

namespace Text

lemma cr_notMem_hexNat (width n : Nat) : '\r' ∉ hexNat width n :=
  cr_notMem_append (fun h => absurd (List.eq_of_mem_replicate h) (by decide))
    (cr_notMem_toDigits (by decide) (by decide) n)

lemma cr_notMem_toString (n : Int) : '\r' ∉ (toString n).toList := by
  intro h
  rcases mem_toString h with hdigit | heq
  · cases hdigit
  · cases heq

lemma cr_notMem_escapeChar {q : Char} (hq : q ≠ '\r') (c : Char) : '\r' ∉ escapeChar q c := by
  unfold escapeChar
  split
  · next e he =>
    unfold namedEscape? at he
    split_ifs at he <;> cases he
    · next hc =>
      refine cr_notMem_cons (by decide) (cr_notMem_cons ?_ List.not_mem_nil)
      rintro rfl
      simp [hq.symm] at hc
    all_goals decide
  · next hnone =>
    have hc : c ≠ '\r' := by
      rintro rfl
      simp [namedEscape?, hq.symm] at hnone
    split_ifs
    · exact cr_notMem_cons hc List.not_mem_nil
    all_goals exact cr_notMem_cons (by decide) (cr_notMem_cons (by decide) (cr_notMem_hexNat _ _))

lemma cr_notMem_quote (s : String) : '\r' ∉ (quote s).toList := by
  have hquote : ∀ a b, quoteFor a b ≠ '\r' := by decide
  have hinner : ∀ q, q ≠ '\r' → '\r' ∉ s.toList.flatMap (escapeChar q) := by
    intro q hq hmem
    obtain ⟨c, -, hc⟩ := List.mem_flatMap.mp hmem
    exact cr_notMem_escapeChar hq c hc
  rw [quote, String.toList_ofList]
  exact cr_notMem_cons (hquote _ _) (cr_notMem_append (hinner _ (hquote _ _))
    (cr_notMem_cons (hquote _ _) List.not_mem_nil))

lemma cr_notMem_escapeCode (n : Nat) : '\r' ∉ (escapeCode n).toList := by
  rw [escapeCode, String.toList_ofList]
  split_ifs
  all_goals exact cr_notMem_cons (by decide) (cr_notMem_cons (by decide) (cr_notMem_hexNat _ _))

end Text

namespace Template

open Layout (Tame TameNumber)

/-- What a field of a template for a year can ask for. -/
inductive TamePart : Part → Prop where
  | number {n : Int} (h : TameNumber n) : TamePart (.setting (.int n))
  | text {s : String} (h : '\r' ∉ s.toList) : TamePart (.setting (.text s))
  | kind {name : String} (h : name = "int" ∨ name = "str") : TamePart (.kind name)

variable {p q : Part}

lemma members_eq_nil {name : String} (h : name = "int" ∨ name = "str") : members name = [] := by
  rcases h with rfl | rfl <;> rfl

lemma TamePart.property (hp : TamePart p) (h : property p name = .ok q) : TamePart q := by
  unfold Template.property at h
  dsimp only at h
  cases hp with
  | @number n hn =>
    dsimp only at h
    split at h
    · next w hw =>
      cases h
      obtain ⟨l₁, l₂, hl, -⟩ := List.lookup_eq_some_iff.mp hw
      have hmem : (Text.str name, w) ∈ properties (.int n) := by
        rw [hl]
        exact List.mem_append_right _ List.mem_cons_self
      simp only [properties, List.mem_cons, Prod.mk.injEq, List.not_mem_nil, or_false] at hmem
      rcases hmem with ⟨-, rfl⟩ | ⟨-, rfl⟩ | ⟨-, rfl⟩ | ⟨-, rfl⟩
      · exact .number hn
      · exact .number ⟨by decide, by decide, by decide⟩
      · exact .number hn
      · exact .number ⟨by decide, by decide, by decide⟩
    · split at h
      · cases h
        exact .kind (.inl rfl)
      · split at h <;> cases h
  | text hs =>
    dsimp only at h
    split at h
    · next w hw => cases hw
    · split at h
      · cases h
        exact .kind (.inr rfl)
      · split at h <;> cases h
  | kind hname =>
    dsimp only at h
    split at h
    · cases h
      exact .text (by rcases hname with rfl | rfl <;> decide)
    · rw [members_eq_nil hname] at h
      dsimp only [List.lookup_nil] at h
      split at h <;> cases h

lemma TamePart.item (hp : TamePart p) (h : item p name = .ok q) : TamePart q := by
  unfold Template.item at h
  obtain ⟨index, -, h⟩ := bind_eq_ok h
  cases hp with
  | number hn => cases index <;> cases h
  | text hs =>
    cases index with
    | none => cases h
    | some i =>
      dsimp only at h
      split at h
      · next c hc =>
        cases h
        refine .text ?_
        rw [Char.toString, String.toList_singleton]
        exact fun heq => hs (List.mem_singleton.mp heq ▸ List.mem_of_getElem? hc)
      · cases h
  | @kind kind hname =>
    have henum : isEnumeration kind = false := by rcases hname with rfl | rfl <;> rfl
    simp only [members_eq_nil hname, henum, List.lookup_nil] at h
    cases index <;> cases h

lemma TamePart.follow (hp : TamePart p) (h : follow p fuel s = .ok q) : TamePart q := by
  induction fuel generalizing p s with
  | zero =>
    cases h
    exact hp
  | succ fuel ih =>
    cases s with
    | nil =>
      cases h
      exact hp
    | cons c s =>
      unfold Template.follow at h
      dsimp only at h
      split at h
      · split at h
        · cases h
        · obtain ⟨p', hp', h⟩ := bind_eq_ok h
          exact ih (hp.property hp') h
      · split at h
        · split at h
          · cases h
          · split at h
            · cases h
            · obtain ⟨p', hp', h⟩ := bind_eq_ok h
              exact ih (hp.item hp') h
        · cases h

lemma tamePart_lookup (hn : TameNumber n) (h : lookup [("year", .int n)] name = .ok q) : TamePart q := by
  unfold lookup at h
  obtain ⟨index, -, h⟩ := bind_eq_ok h
  split at h
  · cases h
  · split at h
    · cases h
    · split at h
      · next v hv =>
        obtain rfl : v = .int n := by
          rw [List.lookup_cons] at hv
          split at hv
          · exact (Option.some.inj hv).symm
          · cases hv
        exact (TamePart.number hn).follow h
      · cases h

lemma TamePart.plain (hp : TamePart p) : '\r' ∉ (plain p).toList := by
  cases hp with
  | number hn => exact Text.cr_notMem_toString _
  | text hs => exact hs
  | kind hname => rcases hname with rfl | rfl <;> decide

lemma TamePart.shown (hp : TamePart p) : '\r' ∉ (shown p).toList := by
  cases hp with
  | number hn => exact Text.cr_notMem_toString _
  | text hs => exact Text.cr_notMem_quote _
  | kind hname => rcases hname with rfl | rfl <;> decide

lemma TamePart.convert (hp : TamePart p) (h : convert c p = .ok q) : TamePart q := by
  unfold Template.convert at h
  dsimp only at h
  split_ifs at h <;> cases h
  · exact .text hp.plain
  · exact .text hp.shown
  · refine .text ?_
    rw [String.toList_join]
    intro hmem
    obtain ⟨s, hs, hmem⟩ := List.mem_flatMap.mp hmem
    obtain ⟨c, hc, rfl⟩ := List.mem_map.mp hs
    split at hmem
    · rw [Char.toString, String.toList_singleton] at hmem
      exact hp.shown (List.mem_singleton.mp hmem ▸ hc)
    · exact Text.cr_notMem_escapeCode _ hmem

lemma TamePart.lay (hp : TamePart p) (hspec : '\r' ∉ spec) {r : List CodePoint}
    (h : lay p spec = .ok r) : Tame r := by
  have hplain := hp.plain
  unfold Template.lay at h
  cases hp with
  | number hn =>
    dsimp only at h
    unfold Layout.lay at h
    split at h
    · cases h
      exact Layout.tame_ofText hplain
    · exact Layout.tame_layIntegerAs hn hspec h
  | text hs =>
    dsimp only at h
    unfold Layout.lay at h
    split at h
    · cases h
      exact Layout.tame_ofText hplain
    · exact Layout.tame_of_map (fun t => Layout.cr_notMem_layTextAs hs hspec) h
  | kind hname =>
    dsimp only at h
    split at h
    · cases h
      exact Layout.tame_ofText hplain
    · cases h

lemma cr_notMem_takeName {b : Bool} {name s name' rest : Text} {stop : Option Char} (hs : '\r' ∉ s)
    (h : takeName b name s = .ok (name', stop, rest)) : '\r' ∉ rest := by
  induction s generalizing b name with
  | nil =>
    cases h
    exact List.not_mem_nil
  | cons c s ih =>
    rw [List.mem_cons, not_or] at hs
    unfold takeName at h
    split_ifs at h
    · exact ih hs.2 h
    · cases h
      exact hs.2
    · exact ih hs.2 h

lemma cr_notMem_takeSpec {spec s spec' rest : Text} (hs : '\r' ∉ s) (hspec : '\r' ∉ spec)
    (h : takeSpec depth spec s = .ok (spec', rest)) : '\r' ∉ spec' ∧ '\r' ∉ rest := by
  induction s generalizing depth spec with
  | nil => cases h
  | cons c s ih =>
    rw [List.mem_cons, not_or] at hs
    have hmore : '\r' ∉ c :: spec := cr_notMem_cons (Ne.symm hs.1) hspec
    unfold takeSpec at h
    split at h
    · exact ih hs.2 hmore h
    · split at h
      · split at h
        · cases h
          exact ⟨fun hmem => hspec (List.mem_reverse.mp hmem), hs.2⟩
        · exact ih hs.2 hmore h
      · exact ih hs.2 hmore h

lemma cr_notMem_takeField {s rest : Text} {field : TemplateField} (hs : '\r' ∉ s)
    (h : takeField s = .ok (field, rest)) : '\r' ∉ field.spec ∧ '\r' ∉ rest := by
  unfold takeField at h
  obtain ⟨⟨name, stop, s'⟩, hname, h⟩ := bind_eq_ok h
  have hs' : '\r' ∉ s' := cr_notMem_takeName hs hname
  have hnone : '\r' ∉ ([] : Text) := List.not_mem_nil
  dsimp only at h
  split at h
  · cases h
    exact ⟨hnone, hs'⟩
  · obtain ⟨⟨spec, s''⟩, hspec, h⟩ := bind_eq_ok h
    cases h
    exact cr_notMem_takeSpec hs' hnone hspec
  · split at h
    · cases h
    · cases h
      exact ⟨hnone, fun hmem => hs' (List.mem_cons_of_mem _ (List.mem_cons_of_mem _ hmem))⟩
    · obtain ⟨⟨spec, s''⟩, hspec, h⟩ := bind_eq_ok h
      cases h
      exact cr_notMem_takeSpec
        (fun hmem => hs' (List.mem_cons_of_mem _ (List.mem_cons_of_mem _ hmem))) hnone hspec
    · cases h
    · cases h
  · cases h

def converted (conversion : Option Char) (p : Part) : Except TemplateFault Part :=
  conversion.elim (.ok p) (convert · p)

def filledSpec (values : List (String × Setting)) (depth fuel : Nat) (spec : Text) :
    Except TemplateFault Text :=
  if spec.contains '\x7b' then
    match depth with
    | 0 => .error .tooDeep
    | depth + 1 => (fillFrom values depth fuel spec).map (·.map toChar)
  else .ok spec

lemma fillFrom_field {values : List (String × Setting)} (hs : s ≠ []) (hs' : ∀ t, s ≠ '\x7b' :: t) :
    fillFrom values depth (fuel + 1) ('\x7b' :: s) = (do
      let (field, rest) ← takeField s
      let value ← lookup values field.name
      let value ← converted field.conversion value
      let spec ← filledSpec values depth fuel field.spec
      let laid ← lay value spec
      return laid ++ (← fillFrom values depth fuel rest)) := by
  conv_lhs => unfold fillFrom
  rw [if_neg (by decide), if_pos (by decide)]
  split
  · exact absurd rfl hs
  · next t => exact absurd rfl (hs' t)
  refine congrArg _ (funext fun ⟨field, rest⟩ => ?_)
  dsimp only
  refine congrArg _ (funext fun value => ?_)
  have hspec : ∀ (spec : Text) (next : Text → Except TemplateFault (List CodePoint)),
      (if spec.contains '\x7b' then
        match depth with
        | 0 => Except.error TemplateFault.tooDeep >>= next
        | depth + 1 => (·.map toChar) <$> fillFrom values depth fuel spec >>= next
      else Except.ok spec >>= next) = filledSpec values depth fuel spec >>= next := by
    intro spec next
    unfold filledSpec
    split
    · cases depth <;> rfl
    · rfl
  unfold converted
  cases field.conversion with
  | none => exact hspec _ _
  | some c => exact congrArg (convert c value >>= ·) (funext fun _ => hspec _ _)

lemma TamePart.converted (hp : TamePart p) {conversion : Option Char}
    (h : converted conversion p = .ok q) : TamePart q := by
  cases conversion with
  | none =>
    cases h
    exact hp
  | some c => exact hp.convert h

/-- A template without carriage returns has none when it is filled with the year. -/
theorem tame_fillFrom (hn : TameNumber n) {r : List CodePoint}
    (hs : '\r' ∉ s) (h : fillFrom [("year", .int n)] depth fuel s = .ok r) : Tame r := by
  induction fuel generalizing depth s r with
  | zero =>
    cases h
    exact Layout.tame_ofText List.not_mem_nil
  | succ fuel ih =>
    have hchar : ∀ {c s}, c ≠ '\r' → '\r' ∉ s →
        (do return .char c :: (← fillFrom [("year", .int n)] depth fuel s)) = Except.ok r → Tame r := by
      intro c s hc hs h
      obtain ⟨r', hr', h⟩ := bind_eq_ok h
      cases h
      exact (ih hs hr').cons hc
    rcases s with _ | ⟨c, s⟩
    · cases h
      exact Layout.tame_ofText List.not_mem_nil
    rw [List.mem_cons, not_or] at hs
    have htail : ∀ {c t}, s = c :: t → '\r' ∉ t := by
      rintro c t rfl hmem
      exact hs.2 (List.mem_cons_of_mem c hmem)
    by_cases hopen : c = '\x7b'
    · subst hopen
      rcases s with _ | ⟨c', s⟩
      · cases h
      by_cases hdouble : c' = '\x7b'
      · subst hdouble
        exact hchar (by decide) (htail rfl) h
      rw [fillFrom_field (List.cons_ne_nil _ _) fun t ht => hdouble (List.cons.inj ht).1] at h
      obtain ⟨⟨field, rest⟩, hfield, h⟩ := bind_eq_ok h
      obtain ⟨value, hvalue, h⟩ := bind_eq_ok h
      obtain ⟨value', hvalue', h⟩ := bind_eq_ok h
      obtain ⟨spec, hspec, h⟩ := bind_eq_ok h
      obtain ⟨laid, hlaid, h⟩ := bind_eq_ok h
      obtain ⟨filled, hfilled, h⟩ := bind_eq_ok h
      cases h
      obtain ⟨hclean, hrest⟩ := cr_notMem_takeField hs.2 hfield
      have hpart : TamePart value' := (tamePart_lookup hn hvalue).converted hvalue'
      have hspec' : '\r' ∉ spec := by
        unfold filledSpec at hspec
        split at hspec
        · cases depth with
          | zero => cases hspec
          | succ depth =>
            obtain ⟨inner, hinner, rfl⟩ := map_eq_ok hspec
            obtain ⟨t, rfl, ht⟩ := (ih hclean hinner).exists_text
            simpa [ofText, Function.comp_def, toChar] using ht
        · cases hspec
          exact hclean
      exact (hpart.lay hspec' hlaid).append (ih hrest hfilled)
    · unfold fillFrom at h
      split at h
      · split at h
        · exact hchar (by decide) (htail rfl) h
        · cases h
      · rw [if_neg (by simpa using hopen)] at h
        exact hchar (Ne.symm hs.1) hs.2 h

lemma exists_text_of_fill (hn : TameNumber n) {r : List CodePoint} (hs : '\r' ∉ s)
    (h : fill [("year", .int n)] s = .ok r) : ∃ t, r = ofText t ∧ '\r' ∉ t :=
  (tame_fillFrom hn hs h).exists_text

end Template

end SourceTidy
