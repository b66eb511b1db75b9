import Mathlib.Data.List.Infix
import Mathlib.Data.List.TakeWhile
import SourceTidy.Proofs.SelectedFiles

/-!
# The meaning of glob patterns

What a pattern denotes is told here by its text, character by character. The patterns of a source
tree select names in this sense, with one exception: an exclamation mark after ranges that are the
wrong way round negates the set.
-/

namespace SourceTidy

variable {ps : List Text}

namespace Glob

/-- The members of a set: what stands between its brackets, without the mark that negates it. -/
def members : Text → Text
  | '!' :: s => s
  | s => s

/-- A text that can stand between the brackets of a set. -/
def IsBody (body : Text) : Prop := members body ≠ [] ∧ ']' ∉ (members body).tail

/-- The ranges of the members of a set, from left to right. A single member is a range of its own. -/
def listed : Text → List (Char × Char)
  | a :: '-' :: b :: s => (a, b) :: listed s
  | a :: s => (a, a) :: listed s
  | [] => []

/-- A character is one of those that a set stands for. -/
def InSet (c : Char) (body : Text) : Prop :=
  if body.head? = some '!' then inSome (listed (members body)) c = false
  else inSome (listed (members body)) c = true

/-- A name matches the text of a pattern. -/
inductive Denotes : Text → Text → Prop where
  | nil : Denotes [] []
  | star {p : Text} (s t : Text) : Denotes p t → Denotes ('*' :: p) (s ++ t)
  | one {p t : Text} (c : Char) : Denotes p t → Denotes ('?' :: p) (c :: t)
  | set {body p t : Text} (c : Char) : IsBody body → InSet c body → Denotes p t →
      Denotes ('[' :: (body ++ ']' :: p)) (c :: t)
  | unclosed {p t : Text} : (∀ body rest, p = body ++ ']' :: rest → ¬IsBody body) → Denotes p t →
      Denotes ('[' :: p) ('[' :: t)
  | char {p t : Text} {c : Char} : c ∉ ['*', '?', '['] → Denotes p t → Denotes (c :: p) (c :: t)

/-- A text without the ranges at its start that are the wrong way round. -/
def dropReversed : Text → Text
  | a :: '-' :: b :: s => if b.toNat < a.toNat then dropReversed s else a :: '-' :: b :: s
  | s => s

/-- Only without such ranges does the text start with an exclamation mark. -/
def Inverted (s : Text) : Prop := s.head? ≠ some '!' ∧ (dropReversed s).head? = some '!'

instance (s : Text) : Decidable (Inverted s) := inferInstanceAs (Decidable (_ ∧ _))

/-- What `setBody?` finds after an exclamation mark, or where there is none. -/
def cutMembers? : Text → Option (Text × Text)
  | [] => none
  | c :: s =>
    match s.dropWhile (· != ']') with
    | [] => none
    | _ :: rest => some (c :: s.takeWhile (· != ']'), rest)

lemma setBody?_bang (s : Text) : setBody? ('!' :: s) = (cutMembers? s).map fun q => ('!' :: q.1, q.2) := by
  cases s with
  | nil => rfl
  | cons c s =>
    by_cases hc : c = ']'
    · subst hc
      cases h : s.dropWhile (· != ']') <;> simp [setBody?, cutMembers?, h]
    · cases h : s.dropWhile (· != ']') <;> simp [setBody?, cutMembers?, hc, h]

lemma setBody?_of_ne {p : Text} (h : p.head? ≠ some '!') : setBody? p = cutMembers? p := by
  cases p with
  | nil => rfl
  | cons c s =>
    have hbang : c ≠ '!' := by simpa using h
    by_cases hc : c = ']'
    · subst hc
      cases hrest : s.dropWhile (· != ']') <;> simp [setBody?, cutMembers?, hrest]
    · cases hrest : s.dropWhile (· != ']') <;> simp [setBody?, cutMembers?, hbang, hc, hrest]

lemma cutMembers?_eq_some_iff {p s rest : Text} :
    cutMembers? p = some (s, rest) ↔ p = s ++ ']' :: rest ∧ s ≠ [] ∧ ']' ∉ s.tail := by
  constructor
  · intro h
    unfold cutMembers? at h
    split at h
    · cases h
    · next c q =>
      split at h
      · cases h
      · next d rest' hdrop =>
        cases h
        have hd : d = ']' := by
          have hhead := List.head?_dropWhile_not (· != ']') q
          rw [hdrop] at hhead
          simpa using hhead
        subst hd
        refine ⟨?_, List.cons_ne_nil _ _, fun hmem => ?_⟩
        · rw [List.cons_append, ← hdrop, List.takeWhile_append_dropWhile]
        · simpa using List.mem_takeWhile_imp hmem
  · rintro ⟨rfl, hne, hs⟩
    obtain ⟨c, s, rfl⟩ := List.exists_cons_of_ne_nil hne
    have hpass : ∀ a ∈ s, (a != ']') = true := fun a ha => by
      simpa using fun heq : a = ']' => hs (heq ▸ ha)
    simp only [List.cons_append, cutMembers?, List.dropWhile_append_of_pos hpass,
      List.takeWhile_append_of_pos hpass]
    simp

lemma setBody?_eq_some_iff {p body rest : Text} :
    setBody? p = some (body, rest) ↔ p = body ++ ']' :: rest ∧ IsBody body := by
  by_cases hp : p.head? = some '!'
  · obtain ⟨s, rfl⟩ : ∃ s, p = '!' :: s := ⟨p.tail, by cases p <;> simp_all⟩
    rw [setBody?_bang, Option.map_eq_some_iff]
    constructor
    · rintro ⟨⟨s', rest'⟩, hs, heq⟩
      cases heq
      obtain ⟨rfl, hbody⟩ := cutMembers?_eq_some_iff.mp hs
      exact ⟨rfl, hbody⟩
    · rintro ⟨hs, hbody⟩
      cases body with
      | nil => cases hs
      | cons c s' =>
        obtain ⟨rfl, rfl⟩ := List.cons.inj hs
        exact ⟨(s', rest), cutMembers?_eq_some_iff.mpr ⟨rfl, hbody⟩, rfl⟩
  · rw [setBody?_of_ne hp, cutMembers?_eq_some_iff]
    refine and_congr_right fun hs => ?_
    have hbody : members body = body := by
      unfold members
      split
      · simp [hs] at hp
      · rfl
    rw [IsBody, hbody]

/-- Puts a member before those of the first piece. -/
def addFirst (a : Char) : List Text → List Text
  | [] => []
  | piece :: pieces => (a :: piece) :: pieces

/-- Only a set of no members has an empty piece at its start. -/
def Started (ps : List Text) : Prop := ps = [[]] ∨ ∃ a piece more, ps = (a :: piece) :: more

lemma started_addFirst (h : Started ps) (a : Char) : Started (addFirst a ps) := by
  rcases h with rfl | ⟨b, piece, more, rfl⟩
  · exact .inr ⟨a, [], [], rfl⟩
  · exact .inr ⟨a, b :: piece, more, rfl⟩

lemma cutRanges_concat (skip : Nat) (passed : Text) (a : Char) (s : Text) :
    cutRanges skip (passed ++ [a]) s = addFirst a (cutRanges skip passed s) := by
  induction s generalizing skip passed with
  | nil => simp [cutRanges, addFirst]
  | cons c s ih =>
    cases skip with
    | succ skip => exact ih skip (c :: passed)
    | zero =>
      by_cases hc : c = '-'
      · simp [cutRanges, hc, addFirst]
      · simpa [cutRanges, hc] using ih 0 (c :: passed)

lemma closeRanges_addFirst (a : Char) (ps : List Text) :
    closeRanges (addFirst a ps) = addFirst a (closeRanges ps) := by
  rcases ps with _ | ⟨piece, _ | ⟨_ | ⟨c, next⟩, _ | ⟨third, more⟩⟩⟩ <;> rfl

lemma dropEmptyRanges_addFirst (h : Started ps) (a : Char) :
    dropEmptyRanges (addFirst a ps) = addFirst a (dropEmptyRanges ps) := by
  rcases h with rfl | ⟨b, piece, more, rfl⟩
  · rfl
  · rw [addFirst, dropEmptyRanges, dropEmptyRanges]
    cases dropEmptyRanges more with
    | nil => rfl
    | cons next rest =>
      dsimp only
      rw [List.getLast?_cons_cons]
      split
      · split
        · rfl
        · rfl
      · rfl

def cut (s : Text) : List Text := closeRanges (cutRanges 1 [] s)

lemma cut_range (a b : Char) (s : Text) : cut (a :: '-' :: b :: s) = [a] :: addFirst b (cut s) := by
  have hrest : cutRanges 1 [b] s = addFirst b (cutRanges 1 [] s) := cutRanges_concat 1 [] b s
  have hclose : closeRanges ([a] :: addFirst b (cutRanges 1 [] s)) =
      [a] :: closeRanges (addFirst b (cutRanges 1 [] s)) := by
    cases cutRanges 1 [] s with
    | nil => rfl
    | cons piece more => cases more <;> rfl
  rw [cut, cut, ← closeRanges_addFirst, ← hclose, ← hrest]
  rfl

lemma cut_single {a : Char} {s : Text} (h : ∀ b s', s ≠ '-' :: b :: s') :
    cut (a :: s) = addFirst a (cut s) := by
  cases s with
  | nil => rfl
  | cons c s =>
    by_cases hc : c = '-'
    · subst hc
      cases s with
      | nil => rfl
      | cons b s => exact absurd rfl (h b s)
    · have hconcat : cutRanges 0 [c, a] s = addFirst a (cutRanges 0 [c] s) :=
        cutRanges_concat 0 [c] a s
      have hcut : cutRanges 1 [] (a :: c :: s) = cutRanges 0 [c, a] s := by simp [cutRanges, hc]
      rw [cut, hcut, hconcat, closeRanges_addFirst]
      rfl

lemma started_cut (s : Text) : Started (cut s) := by
  fun_induction listed s with
  | case1 a b s ih => exact .inr ⟨a, [], _, cut_range a b s⟩
  | case2 a s h ih =>
    rw [cut_single fun b s' hs => h b s' (by rw [hs])]
    exact started_addFirst ih a
  | case3 => exact .inl rfl

def pieces (s : Text) : List Text := dropEmptyRanges (cut s)

lemma pieces_single {a : Char} {s : Text} (h : ∀ b s', s ≠ '-' :: b :: s') :
    pieces (a :: s) = addFirst a (pieces s) := by
  rw [pieces, cut_single h, dropEmptyRanges_addFirst (started_cut s)]
  rfl

lemma dropEmptyRanges_ne_nil (piece : Text) (ps : List Text) : dropEmptyRanges (piece :: ps) ≠ [] := by
  rw [dropEmptyRanges]
  split
  · exact List.cons_ne_nil _ _
  · split
    · split <;> exact List.cons_ne_nil _ _
    · exact List.cons_ne_nil _ _

lemma pieces_range (a b : Char) (s : Text) : pieces (a :: '-' :: b :: s) =
    if b.toNat < a.toNat then pieces s else [a] :: addFirst b (pieces s) := by
  obtain ⟨piece, more, hcons⟩ : ∃ piece more, pieces s = piece :: more := by
    rcases started_cut s with hs | ⟨c, p, ps, hs⟩
    · exact ⟨[], [], by rw [pieces, hs]; rfl⟩
    · exact List.exists_cons_of_ne_nil (by rw [pieces, hs]; exact dropEmptyRanges_ne_nil _ _)
  have hdrop : dropEmptyRanges (addFirst b (cut s)) = (b :: piece) :: more := by
    rw [dropEmptyRanges_addFirst (started_cut s)]
    exact congrArg (addFirst b) hcons
  rw [pieces, cut_range, dropEmptyRanges, hdrop, hcons]
  rfl

lemma started_pieces (s : Text) : Started (pieces s) := by
  fun_induction listed s with
  | case1 a b s ih =>
    rw [pieces_range]
    split
    · exact ih
    · exact .inr ⟨a, [], _, rfl⟩
  | case2 a s h ih =>
    rw [pieces_single fun b s' hs => h b s' (by rw [hs])]
    exact started_addFirst ih a
  | case3 => exact .inl rfl

lemma pieceRanges_addFirst (h : Started ps) (a : Char) :
    pieceRanges (addFirst a ps) = (a, a) :: pieceRanges ps := by
  rcases h with rfl | ⟨b, piece, _ | ⟨next, more⟩, rfl⟩
  · rfl
  · rfl
  · rw [addFirst, pieceRanges, pieceRanges, List.getLast?_cons_cons]
    rfl

lemma pieceRanges_range (h : Started ps) (a b : Char) :
    pieceRanges ([a] :: addFirst b ps) = (a, b) :: pieceRanges ps := by
  have hrest := pieceRanges_addFirst h b
  obtain ⟨piece, more, rfl⟩ : ∃ piece more, ps = piece :: more := by
    rcases h with rfl | ⟨c, piece, more, rfl⟩ <;> exact ⟨_, _, rfl⟩
  rw [addFirst] at hrest ⊢
  rw [pieceRanges, hrest]
  rfl

lemma inSome_pieces (s : Text) (c : Char) : inSome (pieceRanges (pieces s)) c = inSome (listed s) c := by
  fun_induction listed s with
  | case1 a b s ih =>
    rw [pieces_range]
    split
    · next hlt =>
      have hnone : (decide (a.toNat ≤ c.toNat) && decide (c.toNat ≤ b.toNat)) = false := by
        simp only [Bool.and_eq_false_iff, decide_eq_false_iff_not]
        omega
      rw [ih, inSome, inSome, List.any_cons, hnone, Bool.false_or]
    · rw [pieceRanges_range (started_pieces s)]
      exact congrArg (_ || ·) ih
  | case2 a s h ih =>
    rw [pieces_single fun b s' hs => h b s' (by rw [hs]), pieceRanges_addFirst (started_pieces s)]
    exact congrArg (_ || ·) ih
  | case3 => rfl

lemma head?_pieces (s : Text) : (pieces s).head?.bind List.head? = (dropReversed s).head? := by
  fun_induction dropReversed s with
  | case1 a b s hlt ih => rw [pieces_range, if_pos hlt, ih]
  | case2 a b s hle => rw [pieces_range, if_neg hle]; rfl
  | case3 s h =>
    cases s with
    | nil => rfl
    | cons a s =>
      rw [pieces_single fun b s' hs => h a b s' (by rw [hs])]
      rcases started_pieces s with hp | ⟨b, piece, more, hp⟩ <;> rw [hp] <;> rfl

lemma splitNegation_of_ne (h : ps.head?.bind List.head? ≠ some '!') : splitNegation ps = (false, ps) := by
  unfold splitNegation
  split
  · exact absurd rfl h
  · rfl

lemma setOf_bang (s : Text) : setOf ('!' :: s) = .set true (pieceRanges (pieces s)) := by
  have hcut : closeRanges (cutRanges 2 [] ('!' :: s)) = addFirst '!' (cut s) := by
    rw [cut, ← closeRanges_addFirst, ← cutRanges_concat]
    rfl
  have hpieces : dropEmptyRanges (addFirst '!' (cut s)) = addFirst '!' (pieces s) :=
    dropEmptyRanges_addFirst (started_cut s) '!'
  simp only [setOf, List.head?_cons, beq_self_eq_true, if_true, hcut, hpieces]
  rcases started_pieces s with hp | ⟨a, piece, more, hp⟩ <;> rw [hp] <;> rfl

lemma setOf_of_ne {body : Text} (h : body.head? ≠ some '!') (hbody : ¬Inverted body) :
    setOf body = .set false (pieceRanges (pieces body)) := by
  have hsplit : splitNegation (pieces body) = (false, pieces body) := by
    refine splitNegation_of_ne ?_
    rw [head?_pieces]
    exact fun hhead => hbody ⟨h, hhead⟩
  have hskip : (body.head? == some '!') = false := by simpa using h
  simp only [setOf, hskip, Bool.false_eq_true, if_false]
  rw [← cut, ← pieces, hsplit]

lemma takes_setOf {body : Text} (h : ¬Inverted body) (c : Char) :
    takes (setOf body) c = true ↔ InSet c body := by
  by_cases hbang : body.head? = some '!'
  · obtain ⟨s, rfl⟩ : ∃ s, body = '!' :: s := ⟨body.tail, by cases body <;> simp_all⟩
    simp [setOf_bang, takes, InSet, inSome_pieces, members]
  · have hmembers : members body = body := by
      unfold members
      split
      · exact absurd rfl hbang
      · rfl
    simp [setOf_of_ne hbang h, takes, InSet, hbang, inSome_pieces, hmembers]

lemma setOf_ne_star (body : Text) : setOf body ≠ .star := by
  unfold setOf
  exact fun h => by cases h

section

variable {p body name : Text}

lemma denotes_star_iff : Denotes ('*' :: p) name ↔ ∃ s t, name = s ++ t ∧ Denotes p t := by
  constructor
  · intro h
    cases h with
    | star s t ht => exact ⟨s, t, rfl, ht⟩
    | char hc => simp at hc
  · rintro ⟨s, t, rfl, ht⟩
    exact .star s t ht

lemma denotes_one_iff : Denotes ('?' :: p) name ↔ ∃ c t, name = c :: t ∧ Denotes p t := by
  constructor
  · intro h
    cases h with
    | one c ht => exact ⟨c, _, rfl, ht⟩
    | char hc => simp at hc
  · rintro ⟨c, t, rfl, ht⟩
    exact .one c ht

lemma denotes_set_iff (h : IsBody body) :
    Denotes ('[' :: (body ++ ']' :: p)) name ↔ ∃ c t, name = c :: t ∧ InSet c body ∧ Denotes p t := by
  constructor
  · generalize hq : body ++ ']' :: p = q
    intro hfits
    cases hfits with
    | @set body' p' _ c hbody' hc ht =>
      have hcut : setBody? (body ++ ']' :: p) = some (body', p') :=
        setBody?_eq_some_iff.mpr ⟨hq, hbody'⟩
      rw [setBody?_eq_some_iff.mpr ⟨rfl, h⟩] at hcut
      cases hcut
      exact ⟨c, _, rfl, hc, ht⟩
    | unclosed hnone => exact absurd h (hnone _ _ hq.symm)
    | char hc => simp at hc
  · rintro ⟨c, t, rfl, hc, ht⟩
    exact .set c h hc ht

lemma denotes_unclosed_iff (h : ∀ body rest, p = body ++ ']' :: rest → ¬IsBody body) :
    Denotes ('[' :: p) name ↔ ∃ t, name = '[' :: t ∧ Denotes p t := by
  constructor
  · generalize hq : p = q
    intro hfits
    cases hfits with
    | set c hbody => exact absurd hbody (h _ _ hq)
    | unclosed _ ht => exact ⟨_, rfl, ht⟩
    | char hc => simp at hc
  · rintro ⟨t, rfl, ht⟩
    exact .unclosed h ht

lemma denotes_char_iff {c : Char} (hc : c ∉ ['*', '?', '[']) :
    Denotes (c :: p) name ↔ ∃ t, name = c :: t ∧ Denotes p t := by
  constructor
  · generalize hq : c :: p = q
    intro hfits
    cases hfits with
    | nil => cases hq
    | char _ ht =>
      obtain ⟨rfl, rfl⟩ := List.cons.inj hq
      exact ⟨_, rfl, ht⟩
    | _ =>
      obtain ⟨rfl, -⟩ := List.cons.inj hq
      simp at hc
  · rintro ⟨t, rfl, ht⟩
    exact .char hc ht

end

lemma head?_dropReversed_append {body : Text} (h : (dropReversed body).head? = some '!') (rest : Text) :
    (dropReversed (body ++ ']' :: rest)).head? = some '!' := by
  fun_induction dropReversed body with
  | case1 a b s hlt ih =>
    simp only [List.cons_append]
    rw [dropReversed, if_pos hlt, ih h]
  | case2 a b s hle =>
    simp only [List.cons_append]
    rw [dropReversed, if_neg hle]
    exact h
  | case3 s hs =>
    obtain ⟨s, rfl⟩ : ∃ s', s = '!' :: s' := ⟨s.tail, by cases s <;> simp_all⟩
    rcases s with _ | ⟨c, s⟩
    · simp [dropReversed]
    · by_cases hc : c = '-'
      · subst hc
        rcases s with _ | ⟨b, s⟩
        · rfl
        · exact absurd rfl (hs '!' b s)
      · simp [dropReversed, hc]

lemma Inverted.append {body : Text} (h : Inverted body) (rest : Text) : Inverted (body ++ ']' :: rest) := by
  refine ⟨?_, head?_dropReversed_append h.2 rest⟩
  cases body with
  | nil => cases h.2
  | cons c s => exact h.1

/-- No opening bracket in a pattern is followed by ranges that are the wrong way round and then by an
exclamation mark. -/
def Upright (p : Text) : Prop := ∀ s ∈ p.tails, s.head? = some '[' → ¬Inverted s.tail

instance (p : Text) : Decidable (Upright p) := List.decidableBAll _ _

lemma Upright.suffix {p q : Text} (h : Upright p) (hq : q <:+ p) : Upright q :=
  fun s hs => h s ((List.mem_tails s p).mpr (((List.mem_tails s q).mp hs).trans hq))

lemma matches_readParts_iff {n : Nat} {p : Text} (hn : p.length ≤ n) (hp : Upright p) (name : Text) :
    Matches (readParts n p) name ↔ Denotes p name := by
  induction n generalizing p name with
  | zero =>
    obtain rfl := List.length_eq_zero_iff.mp (Nat.le_zero.mp hn)
    exact ⟨fun h => by cases h; exact .nil, fun h => by cases h; exact .nil⟩
  | succ n ih =>
    cases p with
    | nil => exact ⟨fun h => by cases h; exact .nil, fun h => by cases h; exact .nil⟩
    | cons c p =>
      have hlen : p.length ≤ n := Nat.le_of_succ_le_succ hn
      have hrest := fun t => ih hlen (hp.suffix (List.suffix_cons c p)) t
      by_cases hstar : c = '*'
      · have hread : readParts (n + 1) (c :: p) = .star :: readParts n p := by rw [hstar]; rfl
        rw [hread, hstar, matches_star_iff, denotes_star_iff]
        simp only [hrest]
      by_cases hone : c = '?'
      · have hread : readParts (n + 1) (c :: p) = .one :: readParts n p := by rw [hone]; rfl
        rw [hread, hone, matches_cons_iff (by decide), denotes_one_iff]
        simp [takes, hrest]
      by_cases hset : c = '['
      · subst hset
        cases hbody : setBody? p with
        | some found =>
          obtain ⟨body, rest⟩ := found
          obtain ⟨rfl, hok⟩ := setBody?_eq_some_iff.mp hbody
          have hread : readParts (n + 1) ('[' :: (body ++ ']' :: rest)) = setOf body :: readParts n rest := by
            simp [readParts, hbody]
          have hsuffix : rest <:+ body ++ ']' :: rest := ⟨body ++ [']'], by simp⟩
          have hinverted : ¬Inverted body := fun h =>
            hp ('[' :: (body ++ ']' :: rest)) ((List.mem_tails _ _).mpr (List.suffix_refl _)) rfl (h.append rest)
          have hlater := fun t => ih (hsuffix.length_le.trans hlen)
            (hp.suffix (hsuffix.trans (List.suffix_cons _ _))) t
          rw [hread, matches_cons_iff (setOf_ne_star body), denotes_set_iff hok]
          simp only [takes_setOf hinverted, hlater]
        | none =>
          have hread : readParts (n + 1) ('[' :: p) = .char '[' :: readParts n p := by
            simp [readParts, hbody]
          have hnone : ∀ body rest, p = body ++ ']' :: rest → ¬IsBody body := by
            intro body rest hs hok
            rw [setBody?_eq_some_iff.mpr ⟨hs, hok⟩] at hbody
            cases hbody
          rw [hread, matches_cons_iff (by decide), denotes_unclosed_iff hnone]
          simp [takes, hrest]
      · have hread : readParts (n + 1) (c :: p) = .char c :: readParts n p := by
          simp [readParts, hstar, hone, hset]
        rw [hread, matches_cons_iff (by simp), denotes_char_iff (by simp [hstar, hone, hset])]
        simp [takes, hrest]

lemma accepts_ofString_iff {p : String} (hp : Upright p.toList) (name : Text) :
    accepts (ofString p) name = true ↔ Denotes p.toList name :=
  (accepts_iff _ _).trans (matches_readParts_iff le_rfl hp name)

end Glob

namespace SourceTree

end SourceTree

end SourceTidy
