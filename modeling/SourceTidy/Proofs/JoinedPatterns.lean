import SourceTidy.Proofs.ReadAmongOthers
import SourceTidy.Proofs.SelectedFiles

/-!
# Patterns joined by bars

The regular expressions for skipped content are joined by bars and read as one expression. It is
found where one of them alone is, provided that none of them reaches into the others.
-/

namespace SourceTidy

namespace Regex

section

variable {s t u : Reading} {r : Regex}

/-- A pattern without switches for the whole of it was read to its end. -/
structure Ended (u : Reading) : Prop where
  flags : u.wholeFlags = {}
  next : u.next = none
  asked : ∀ a ∈ u.asked, a.1 < u.groups.length

lemma gives_checkWhole_iff (h : s.wholeFlags = {}) :
    Gives (checkWhole r) s () t ↔ t = s ∧ Ended s ∧ r.problem? false = none := by
  unfold checkWhole
  rw [gives_reading_bind, h, if_neg (by simp), if_neg (by simp)]
  cases hnext : s.next with
  | some token => exact iff_of_false not_gives_refuse fun h => nomatch hnext.symm.trans h.2.1.next
  | none =>
    rw [if_neg nofun]
    cases hfind : s.asked.find? fun a => s.groups.length ≤ a.1 with
    | some a =>
      refine iff_of_false not_gives_refuseAt fun h => ?_
      have hle := List.find?_some hfind
      exact absurd (h.2.1.asked a (List.mem_of_find?_eq_some hfind)) (by simpa using hle)
    | none =>
      have hasked : ∀ a ∈ s.asked, a.1 < s.groups.length := by simpa using hfind
      dsimp only
      cases hproblem : r.problem? false with
      | some what => exact iff_of_false nofun fun h => nomatch h.2.2
      | none => exact ⟨fun ht => ⟨(eq_of_gives_pure ht).2, ⟨h, hnext, hasked⟩, rfl⟩, fun ht => ht.1 ▸ gives_pure _ _⟩

lemma gives_readPattern (h : Gives readPattern s r u) (hflags : u.wholeFlags = {}) :
    ∃ t first v others fuel,
    fuel = 4 * t.pattern.length + 3 ∧ Gives advance s () t ∧ Gives (readSequence false true [] fuel) t first v ∧
      Gives (readFurther false true fuel) v others u ∧ r = ofAlternatives first others ∧ Ended u ∧
        r.problem? false = none := by
  obtain ⟨_, t, ht, h⟩ := h.of_bind
  obtain ⟨_, _, hr, h⟩ := h.of_bind
  cases hr
  obtain ⟨body, v, hbody, h⟩ := h.of_bind
  obtain ⟨_, w, hcheck, h⟩ := h.of_bind
  obtain ⟨rfl, rfl⟩ := eq_of_gives_pure h
  obtain ⟨rfl, hended⟩ := (gives_checkWhole_iff (hcheck.later.flags hflags).1).mp hcheck
  rw [readAlternatives] at hbody
  obtain ⟨first, v, hfirst, hbody⟩ := hbody.of_bind
  obtain ⟨others, u, hothers, hbody⟩ := hbody.of_bind
  obtain ⟨rfl, rfl⟩ := eq_of_gives_pure hbody
  exact ⟨t, first, v, others, _, rfl, ht, hfirst, hothers, rfl, hended⟩

/-- Where a pattern ends alone, the alternatives after it are read on among others. -/
lemma readFurther_among {x : Spot} (hx : x.usual = true) {P : List (List Regex) → Reading → Prop}
    (hgood : x.Good u)
    (hrest : ∀ n u', 4 * x.tail.length < n → x.Rel u u' →
      ∃ rest w, Gives (readFurther false true n) u' rest w ∧ P rest w)
    {fuel : Nat} {others : List (List Regex)} {s s' : Reading}
    (h : Gives (readFurther false true fuel) s others u) (hrel : x.Rel s s') {fuel' : Nat}
    (hfuel : fuel + 4 * x.tail.length ≤ fuel') :
    (∀ l ∈ others, ∀ r ∈ l, r.isUsual (!x.isText) = true) ∧
      ∃ rest w, Gives (readFurther false true fuel') s' (others.map (List.map (renumber x.shift)) ++ rest) w ∧
        P rest w := by
  induction fuel generalizing others s s' fuel' with
  | zero =>
    rw [readFurther] at h
    exact absurd h not_gives_refuse
  | succ fuel ih =>
    obtain ⟨fuel', rfl⟩ := Nat.exists_eq_add_one_of_ne_zero (by omega : fuel' ≠ 0)
    have hread := h
    rw [readFurther] at hread
    obtain ⟨found, s₁, hfound, hread⟩ := hread.of_bind
    by_cases hs : s.next = some ['|']
    · obtain ⟨_, s₁', hfound', rfl, hrel₁⟩ := simAt_takeIf hrel hs found s₁ hfound (hgood.of_later hread.later)
      rw [(of_gives_takeIf hfound).1, hs, beq_self_eq_true, if_pos rfl, gives_reading_bind, hrel₁.whole.1] at hread
      obtain ⟨l, s₂, hl, hread⟩ := hread.of_bind
      obtain ⟨others, _, hothers, hread⟩ := hread.of_bind
      obtain ⟨rfl, rfl⟩ := eq_of_gives_pure hread
      change Gives (readSequence false false [] fuel) s₁ l s₂ at hl
      obtain ⟨_, s₂', hl', ⟨rfl, husual⟩, hrel₂⟩ := (simReaders fuel).sequence (by omega : fuel ≤ fuel')
        (absurd · Bool.false_ne_true) x.alikeItems_nil s₁ s₁' hrel₁ l s₂ hl (hgood.of_later hothers.later)
      obtain ⟨hall, rest, w, hw, hP⟩ := ih hothers hrel₂ (by omega : fuel + 4 * x.tail.length ≤ fuel')
      refine ⟨List.forall_mem_cons.mpr ⟨husual hx, hall⟩, rest, w, ?_, hP⟩
      rw [readFurther]
      refine hfound'.bind ?_
      rw [(of_gives_takeIf hfound).1, hs, beq_self_eq_true, if_pos rfl, gives_reading_bind, hrel₁.whole.2]
      refine Gives.bind hl' ?_
      exact hw.bind (gives_pure _ _)
    · rw [(of_gives_takeIf hfound).1, if_neg (by simpa using hs)] at hread
      obtain ⟨rfl, rfl⟩ := eq_of_gives_pure hread
      have hs₁ : u = s := (of_gives_takeIf hfound).2 ((of_gives_takeIf hfound).1.trans (by simpa using hs))
      exact ⟨List.forall_mem_nil _, hrest _ _ (by omega) (hs₁ ▸ hrel)⟩

end

/-- A pattern without switches that can be read alone, with what it is read as. -/
structure Alone (isText : Bool) where
  pattern : Text
  regex : Regex
  last : Reading
  read : readText isText pattern = .ok (regex, last)
  flags : last.wholeFlags = {}
  /-- The pattern does not start with a set whose classes are of another kind than those of the whole. -/
  guarded : regex.guarded (!isText) = regex

/-- What was read of one pattern does not get into the way of a later one. -/
def Reading.Apart (u v : Reading) : Prop :=
  (∀ n ∈ v.names.map Prod.fst, n ∉ u.names.map Prod.fst) ∧ (u.groups.tail = [] ∨ v.asked = [])

variable {isText : Bool}

def barred (all : List (Alone isText)) : Text := all.flatMap fun p => '|' :: p.pattern

/-- Alternatives match where one of some expressions does. -/
structure Reads (isText : Bool) (all : List (List Regex)) (regexes : List Regex) : Prop where
  usual : ∀ l ∈ all, ∀ r ∈ l, r.isUsual (!isText) = true
  problem : ∀ l ∈ all, (ofList l).problem? false = none
  count : regexes.length ≤ all.length
  matches_iff : ∀ c : Cursor, c.groups = [] →
    ((∃ l ∈ all, MatchesAt c (ofList l)) ↔ ∃ r ∈ regexes, MatchesAt c r)

lemma Reads.append {all all' : List (List Regex)} {regexes regexes' : List Regex}
    (h : Reads isText all regexes) (h' : Reads isText all' regexes') :
    Reads isText (all ++ all') (regexes ++ regexes') where
  usual := List.forall_mem_append.mpr ⟨h.usual, h'.usual⟩
  problem := List.forall_mem_append.mpr ⟨h.problem, h'.problem⟩
  count := by
    have := h.count
    have := h'.count
    simp only [List.length_append]
    omega
  matches_iff c hc := by
    simp only [List.mem_append, or_and_right, exists_or, h.matches_iff c hc, h'.matches_iff c hc]

lemma reads_renumber {d : Nat} {first : List Regex} {others : List (List Regex)}
    (husual : ∀ l ∈ first :: others, ∀ r ∈ l, r.isUsual (!isText) = true)
    (hproblem : (ofAlternatives first others).problem? false = none) :
    Reads isText ((first :: others).map (List.map (renumber d))) [ofAlternatives first others] where
  usual := by simpa only [List.forall_mem_map, isUsual_renumber] using husual
  problem := by
    rw [List.forall_mem_map]
    intro l hl
    rw [← renumber_ofList, problem?_renumber]
    exact (problem?_ofAlternatives husual).mp hproblem l hl
  count := by simp
  matches_iff c hc := by
    simp only [List.mem_map, exists_exists_and_eq_and, ← renumber_ofList, matchesAt_renumber hc,
      List.mem_singleton, exists_eq_left, matchesAt_ofAlternatives husual]

/-- A place among patterns, after some of them and before others. -/
structure Between (all : List (Alone isText)) (v : Reading) : Prop where
  isText : v.isText = isText
  room : ∀ p ∈ all, p.pattern.length ≤ v.pattern.length
  whole : v.wholeFlags = {}
  flags : v.flags = {}
  behindLimit : v.behindLimit = none
  groups : v.groups = none :: v.groups.tail
  names : ∀ p ∈ all, ∀ n ∈ p.last.names.map Prod.fst, n ∉ v.names.map Prod.fst
  asked : ∀ a ∈ v.asked, a.1 ≤ v.groups.tail.length
  apart : v.groups.tail = [] ∨ ∀ p ∈ all, p.last.asked = []

def afterBar : List (Alone isText) → Option Text
  | [] => none
  | p :: all => some (p.pattern ++ barred all)

lemma elim_afterBar (all : List (Alone isText)) : (afterBar all).elim [] ('|' :: ·) = barred all := by
  cases all <;> rfl

variable {p : Alone isText} {all : List (Alone isText)} {v : Reading}

def spotAt (all : List (Alone isText)) (v : Reading) : Spot where
  isText := isText
  room := v.pattern.length
  groups := v.groups.tail
  names := v.names
  after := afterBar all
  inner := false
  usual := true

lemma tail_spotAt : (spotAt all v).tail = barred all := elim_afterBar all

lemma Between.good (h : Between (p :: all) v) : (spotAt all v).Good p.last where
  flags := p.flags
  names := h.names p List.mem_cons_self
  asked := h.apart.imp_right fun hasked => hasked p List.mem_cons_self
  inner := nofun

lemma Between.after (h : Between (p :: all) v) (hapart : ∀ q ∈ all, p.last.Apart q.last) {u' : Reading}
    (hended : Ended p.last) (hrel : (spotAt all v).Rel p.last u') :
    Between all u' ∧ firstToken? (barred all) = some (u'.next, u'.rest) := by
  obtain ⟨g, hg, hg'⟩ := hrel.groups
  have hgroups : u'.groups.tail = v.groups.tail ++ g := by rw [hg']; rfl
  have hlast : p.last.groups.tail = g := by rw [hg]; rfl
  have hlimit : p.last.behindLimit = none := (Gives.later (m := readPattern) p.read).behindLimit
  obtain ⟨t, ht, ht'⟩ := hrel.ahead
  rw [hended.next] at ht
  rw [(firstToken?_none ht).1, List.nil_append, tail_spotAt] at ht'
  refine ⟨⟨hrel.isText.2, fun q hq => ?_, hrel.whole.2, hrel.flags.trans (hrel.usual rfl), ?_, ?_, ?_, ?_, ?_⟩, ht'⟩
  · exact Nat.le_trans (h.room q (List.mem_cons_of_mem _ hq)) hrel.pattern.2
  · rw [hrel.behindLimit, hlimit]
    rfl
  · rw [hg']
    rfl
  · intro q hq n hn
    rw [hrel.names, List.map_append, List.mem_append, List.map_map]
    rintro (hmem | hmem)
    · exact h.names q (List.mem_cons_of_mem _ hq) n hn hmem
    · exact (hapart q hq).1 n hn hmem
  · intro a ha
    rw [hgroups, List.length_append]
    rcases hrel.asked a ha with hle | hmem
    · exact Nat.le_trans hle (Nat.le_add_right _ _)
    · obtain ⟨b, hb, hba⟩ := List.mem_map.mp hmem
      have hlt := hended.asked b hb
      rw [hg, List.length_cons] at hlt
      omega
  · rw [hgroups]
    rcases h.apart with hnone | hasked
    · rcases Classical.em (g = []) with rfl | hne
      · exact .inl (by rw [hnone]; rfl)
      · refine .inr fun q hq => (hapart q hq).2.resolve_left ?_
        rwa [hlast]
    · exact .inr fun q hq => hasked q (List.mem_cons_of_mem _ hq)

lemma Between.start (h : Between (p :: all) v) {next next' : Option Text} {rest rest' : Text}
    (hnext : firstToken? p.pattern = some (next, rest))
    (hnext' : firstToken? (p.pattern ++ barred all) = some (next', rest')) :
    (spotAt all v).Rel { pattern := p.pattern, isText, next, rest } { v with next := next', rest := rest' } where
  isText := ⟨rfl, h.isText⟩
  pattern := ⟨h.room p List.mem_cons_self, Nat.le_refl _⟩
  ahead := ⟨p.pattern, hnext, tail_spotAt (v := v) ▸ hnext'⟩
  whole := ⟨rfl, h.whole⟩
  flags := h.flags
  usual _ := rfl
  groups := ⟨[], rfl, h.groups.trans (by rw [List.append_nil]; rfl)⟩
  names := (List.append_nil _).symm
  behindLimit := h.behindLimit
  asked a ha := .inl (h.asked a ha)

/-- A pattern and those after it are read one after the other. -/
lemma Between.exists_read (h : Between (p :: all) v) (hapart : ∀ q ∈ all, p.last.Apart q.last)
    (hv : v.rest = p.pattern ++ barred all) {n : Nat} (hn : 4 * v.rest.length + 3 ≤ n)
    (hrest : ∀ k u', 4 * (barred all).length < k → Between all u' →
      firstToken? (barred all) = some (u'.next, u'.rest) → ∃ rest w, Gives (readFurther false true k) u' rest w ∧
        Reads isText rest (all.map Alone.regex) ∧ Ended w)
    (top : Bool) :
    ∃ v₁ first v₂ others w, Gives advance v () v₁ ∧ v₁.wholeFlags = {} ∧
      Gives (readSequence false top [] n) v₁ first v₂ ∧ Gives (readFurther false true n) v₂ others w ∧
      Reads isText (first :: others) ((p :: all).map Alone.regex) ∧ Ended w := by
  obtain ⟨t, first, s, others, fuel, rfl, ht, hfirst, hothers, hregex, hended, hproblem⟩ :=
    gives_readPattern p.read p.flags
  obtain ⟨next, rest, hnext, rfl⟩ := eq_of_gives_advance ht
  change firstToken? p.pattern = some (next, rest) at hnext
  obtain ⟨next', rest', hnext'⟩ := Spot.exists_firstToken? (x := spotAt all v) hnext
  rw [tail_spotAt] at hnext'
  have hgood := h.good
  have hlength : 4 * p.pattern.length + 3 + 4 * (spotAt all v).tail.length ≤ n := by
    rw [hv, List.length_append] at hn
    rw [tail_spotAt]
    omega
  obtain ⟨_, v₂, hfirst', ⟨rfl, husual⟩, hrel⟩ := (simReaders _).sequence (by omega : 4 * p.pattern.length + 3 ≤ n)
    (by nofun) (spotAt all v).alikeItems_nil _ _ (h.start hnext hnext') first s hfirst
    (hgood.of_later hothers.later)
  have hafter : ∀ k u', 4 * (spotAt all v).tail.length < k → (spotAt all v).Rel p.last u' →
      ∃ rest w, Gives (readFurther false true k) u' rest w ∧ Reads isText rest (all.map Alone.regex) ∧ Ended w := by
    intro k u' hk hrel
    obtain ⟨hbetween, hahead⟩ := h.after hapart hended hrel
    exact hrest k u' (tail_spotAt (v := v) ▸ hk) hbetween hahead
  obtain ⟨hall, rest, w, hw, hreads, hended'⟩ := readFurther_among rfl hgood hafter hothers hrel hlength
  have hadvance : Gives advance v () { v with next := next', rest := rest' } := gives_advance (hv ▸ hnext')
  refine ⟨_, _, v₂, _, w, hadvance, h.whole, hfirst', hw, ?_, hended'⟩
  rw [hregex] at hproblem
  rw [List.map_cons, hregex]
  exact (reads_renumber (List.forall_mem_cons.mpr ⟨husual rfl, hall⟩) hproblem).append hreads

lemma Between.exists_readFurther (h : Between all v) (hapart : all.Pairwise fun p q => p.last.Apart q.last)
    (hahead : firstToken? (barred all) = some (v.next, v.rest)) {n : Nat} (hn : 4 * (barred all).length < n) :
    ∃ rest w, Gives (readFurther false true n) v rest w ∧ Reads isText rest (all.map Alone.regex) ∧ Ended w := by
  induction all generalizing v n with
  | nil =>
    obtain ⟨n, rfl⟩ := Nat.exists_eq_add_one_of_ne_zero (by omega : n ≠ 0)
    have hnext : v.next = none := (Prod.mk.inj (Option.some.inj hahead)).1.symm
    refine ⟨[], v, ?_, ⟨nofun, nofun, Nat.le_refl _, fun c _ => by simp⟩, h.whole, hnext, fun a ha => ?_⟩
    · rw [readFurther]
      exact (gives_takeIf_false (by simp [hnext])).bind (gives_pure _ _)
    · rw [h.groups, List.length_cons]
      exact Nat.lt_add_one_of_le (h.asked a ha)
  | cons p all ih =>
    obtain ⟨n, rfl⟩ := Nat.exists_eq_add_one_of_ne_zero (by omega : n ≠ 0)
    obtain ⟨hp, hall⟩ := List.pairwise_cons.mp hapart
    have hbarred : barred (p :: all) = '|' :: (p.pattern ++ barred all) := rfl
    rw [hbarred, firstToken?_cons (by decide), Option.some.injEq, Prod.mk.injEq] at hahead
    rw [hbarred, List.length_cons, hahead.2] at hn
    obtain ⟨v₁, first, v₂, others, w, hv₁, hwhole, hfirst, hothers, hreads, hended⟩ :=
      h.exists_read hp hahead.2.symm (by omega : 4 * v.rest.length + 3 ≤ n)
        (fun k u' hk hu' hahead => ih hu' hall hahead hk) false
    refine ⟨first :: others, w, ?_, hreads, hended⟩
    rw [readFurther]
    refine (gives_takeIf_true hahead.1.symm hv₁).bind ?_
    rw [if_pos rfl, gives_reading_bind, hwhole]
    refine Gives.bind hfirst ?_
    exact hothers.bind (gives_pure _ _)

lemma length_le_barred (hp : p ∈ all) : p.pattern.length ≤ (barred all).length := by
  induction all with
  | nil => cases hp
  | cons q all ih =>
    rw [barred, List.flatMap_cons, List.length_append, List.length_cons]
    rcases List.mem_cons.mp hp with rfl | hp
    · omega
    · exact Nat.le_trans (ih hp) (Nat.le_add_left _ _)

lemma between_start (p : Alone isText) (all : List (Alone isText)) :
    Between (p :: all) { pattern := p.pattern ++ barred all, isText } where
  isText := rfl
  room := by
    refine List.forall_mem_cons.mpr ⟨by simp, fun q hq => ?_⟩
    exact Nat.le_trans (length_le_barred hq) (by simp)
  whole := rfl
  flags := rfl
  behindLimit := rfl
  groups := rfl
  names _ _ _ _ := nofun
  asked := nofun
  apart := .inl rfl

/-- Two or more patterns that are apart can be read together, and then are found where one of them is. -/
lemma exists_ofText (p q : Alone isText) (all : List (Alone isText))
    (hapart : (p :: q :: all).Pairwise fun p q => p.last.Apart q.last) :
    ∃ r, ofText isText (p.pattern ++ barred (q :: all)) = .ok r ∧
      ∀ s, r.foundIn s ↔ ∃ a ∈ p :: q :: all, a.regex.foundIn s := by
  obtain ⟨hp, hall⟩ := List.pairwise_cons.mp hapart
  obtain ⟨v₁, first, v₂, others, w, hv₁, -, hfirst, hothers, hreads, hended⟩ :=
    (between_start p (q :: all)).exists_read hp rfl (Nat.le_refl _)
      (fun k u' hk hu' hahead => hu'.exists_readFurther hall hahead hk) true
  have hproblem : (ofAlternatives first others).problem? false = none :=
    (problem?_ofAlternatives hreads.usual).mpr hreads.problem
  have hread : readText isText (p.pattern ++ barred (q :: all)) = .ok (ofAlternatives first others, w) := by
    obtain ⟨next, rest, -, rfl⟩ := eq_of_gives_advance hv₁
    have hcheck := (gives_checkWhole_iff hended.flags).mpr ⟨rfl, hended, hproblem⟩
    refine hv₁.bind (gives_reading_bind.mpr (Gives.bind ?_ (hcheck.bind (gives_pure _ _))))
    rw [readAlternatives]
    exact hfirst.bind (hothers.bind (gives_pure _ _))
  obtain ⟨m, others, rfl⟩ : ∃ m rest, others = m :: rest := by
    refine List.exists_cons_of_ne_nil ?_
    rintro rfl
    exact absurd hreads.count (by simp)
  refine ⟨ofAlternatives first (m :: others), ?_, fun s => ?_⟩
  · rw [ofText, hread]
    change Except.ok (guarded (!isText || w.wholeFlags.ascii) _) = _
    rw [hended.flags, Bool.or_false, guarded_ofAlternatives hreads.usual]
  · rw [foundIn_iff fun c hc => (matchesAt_ofAlternatives hreads.usual c).trans (hreads.matches_iff c hc)]
    simp only [List.mem_map, exists_exists_and_eq_and]

lemma Alone.ofText_eq (p : Alone isText) : ofText isText p.pattern = .ok p.regex := by
  rw [ofText, p.read]
  change Except.ok (Regex.guarded (!isText || p.last.wholeFlags.ascii) _) = _
  rw [p.flags, Bool.or_false, p.guarded]

/-- Two patterns that are read alone, one before the other, mean the same as alternatives. -/
def Independent (isText : Bool) (p q : Text) : Prop :=
  ∀ a ∈ (readText isText p).toOption, ∀ b ∈ (readText isText q).toOption,
    (a.2.wholeFlags = {} ∧ b.2.wholeFlags = {}) ∧
      (a.1.guarded (!isText) = a.1 ∧ b.1.guarded (!isText) = b.1) ∧ a.2.Apart b.2

instance (isText : Bool) (p q : Text) : Decidable (Independent isText p q) := by
  unfold Independent Reading.Apart
  infer_instance

lemma Independent.of_read {p q : Text} {a b : Regex × Reading} (h : Independent isText p q)
    (ha : readText isText p = .ok a) (hb : readText isText q = .ok b) :
    (a.2.wholeFlags = {} ∧ b.2.wholeFlags = {}) ∧
      (a.1.guarded (!isText) = a.1 ∧ b.1.guarded (!isText) = b.1) ∧ a.2.Apart b.2 :=
  h a (by rw [ha]; rfl) b (by rw [hb]; rfl)

lemma exists_alone {patterns : List Text} (h : ∀ p ∈ patterns, ∃ a : Alone isText, a.pattern = p) :
    ∃ all : List (Alone isText), all.map Alone.pattern = patterns := by
  induction patterns with
  | nil => exact ⟨[], rfl⟩
  | cons p patterns ih =>
    obtain ⟨⟨a, rfl⟩, hall⟩ := List.forall_mem_cons.mp h
    obtain ⟨all, rfl⟩ := ih hall
    exact ⟨a :: all, rfl⟩

lemma flatMap_pattern (all : List (Alone isText)) :
    (all.map Alone.pattern).flatMap ('|' :: ·) = barred all := List.flatMap_map ..

/-- Patterns that can be read alone are found together where one of them is. -/
lemma exists_ofText_joined {p : Text} {patterns : List Text}
    (hread : ∀ q ∈ p :: patterns, ∃ r, ofText isText q = .ok r)
    (h : (p :: patterns).Pairwise (Independent isText)) :
    ∃ r, ofText isText (p ++ patterns.flatMap ('|' :: ·)) = .ok r ∧
      ∀ s, r.foundIn s ↔ ∃ q ∈ p :: patterns, ∃ r, ofText isText q = .ok r ∧ r.foundIn s := by
  cases patterns with
  | nil =>
    obtain ⟨r, hr⟩ := hread p List.mem_cons_self
    refine ⟨r, by simpa using hr, fun s => ?_⟩
    simp [hr]
  | cons q patterns =>
    obtain ⟨hp, hpatterns⟩ := List.pairwise_cons.mp h
    have halone : ∀ a ∈ p :: q :: patterns, ∃ a' : Alone isText, a'.pattern = a := by
      obtain ⟨⟨_, hreadp⟩, hreads⟩ := List.forall_mem_cons.mp hread
      obtain ⟨_, hreadq⟩ := hreads q List.mem_cons_self
      obtain ⟨⟨r, u⟩, hreadp, -⟩ := bind_eq_ok hreadp
      obtain ⟨_, hreadq, -⟩ := bind_eq_ok hreadq
      obtain ⟨hflags, hguarded, -⟩ := (hp q List.mem_cons_self).of_read hreadp hreadq
      refine List.forall_mem_cons.mpr ⟨⟨⟨p, r, u, hreadp, hflags.1, hguarded.1⟩, rfl⟩, fun a ha => ?_⟩
      obtain ⟨_, hreada⟩ := hreads a ha
      obtain ⟨⟨r', u'⟩, hreada, -⟩ := bind_eq_ok hreada
      obtain ⟨hflags, hguarded, -⟩ := (hp a ha).of_read hreadp hreada
      exact ⟨⟨a, r', u', hreada, hflags.2, hguarded.2⟩, rfl⟩
    obtain ⟨all, hall⟩ := exists_alone halone
    rcases all with _ | ⟨a, _ | ⟨b, all⟩⟩
    · cases hall
    · cases hall
    cases hall
    have hapart : (a :: b :: all).Pairwise fun p q => p.last.Apart q.last :=
      (List.pairwise_map.mp h).imp fun {p q} hpq => (hpq.of_read p.read q.read).2.2
    obtain ⟨r, hr, hfound⟩ := exists_ofText a b all hapart
    refine ⟨r, by rwa [← List.map_cons, flatMap_pattern], fun s => (hfound s).trans ?_⟩
    rw [← List.map_cons, ← List.map_cons]
    simp only [List.mem_map, exists_exists_and_eq_and, Alone.ofText_eq, Except.ok.injEq, exists_eq_left']

end Regex

lemma exists_eq_ok {ε α : Type} {x : Except ε α} (h : x.toOption.isSome) : ∃ a, x = .ok a := by
  cases x with
  | error f => cases h
  | ok a => exact ⟨a, rfl⟩

lemma toList_intercalate (p : String) (patterns : List String) :
    ("|".intercalate (p :: patterns)).toList = p.toList ++ (patterns.map String.toList).flatMap ('|' :: ·) := by
  induction patterns generalizing p with
  | nil => simp
  | cons q patterns ih =>
    rw [String.intercalate_cons_cons, String.toList_append, String.toList_append, ih]
    simp

namespace DataPattern

variable {m : ReadMode}

/-- Looks for a regular expression alone in what was read of a file. -/
def searchAlone (m : ReadMode) (p : String) (data : m.Data) : Except Fault Bool := do
  (← ofSetting m (.texts [p])).foundIn m data

lemma ofSetting_text_iff {p : String} {d : DataPattern} : ofSetting m (.texts [p]) = .ok d ↔
    (m = .binary → ∀ c ∈ p.toList, c.toNat < 0x80) ∧
      ∃ r, Regex.ofText (m == .text) p.toList = .ok r ∧ d = ⟨m, some r⟩ := by
  rw [ofSetting_texts_iff (List.cons_ne_nil _ _), toList_intercalate]
  simp

lemma foundIn_some (r : Regex) (data : m.Data) :
    foundIn ⟨m, some r⟩ m data = .ok (r.foundIn (m.characters data)) := by
  rw [foundIn_eq rfl, finds_eq_search]
  rfl

lemma searchAlone_iff {p : String} {d : DataPattern} (h : ofSetting m (.texts [p]) = .ok d) (data : m.Data) :
    searchAlone m p data = .ok true ↔
      ∃ r, Regex.ofText (m == .text) p.toList = .ok r ∧ r.foundIn (m.characters data) := by
  obtain ⟨-, r, hr, rfl⟩ := ofSetting_text_iff.mp h
  rw [searchAlone, h]
  change foundIn ⟨m, some r⟩ m data = _ ↔ _
  simp [hr, foundIn_some]

lemma exists_ofSetting {patterns : List String}
    (hread : ∀ p ∈ patterns, ∃ d, ofSetting m (.texts [p]) = .ok d)
    (h : patterns.Pairwise fun p q => Regex.Independent (m == .text) p.toList q.toList) :
    ∃ d, ofSetting m (.texts patterns) = .ok d ∧
      ∀ data : m.Data, d.finds m data = true ↔ ∃ p ∈ patterns, searchAlone m p data = .ok true := by
  cases patterns with
  | nil => exact ⟨⟨m, none⟩, rfl, fun data => iff_of_false (by cases m <;> exact Bool.false_ne_true) nofun⟩
  | cons p patterns =>
    have hascii : m = .binary → ∀ q ∈ p :: patterns, ∀ c ∈ q.toList, c.toNat < 0x80 := by
      intro hm q hq
      obtain ⟨d, hd⟩ := hread q hq
      exact (ofSetting_text_iff.mp hd).1 hm
    have htexts : ∀ q ∈ p.toList :: patterns.map String.toList, ∃ r, Regex.ofText (m == .text) q = .ok r := by
      rw [← List.map_cons, List.forall_mem_map]
      intro q hq
      obtain ⟨d, hd⟩ := hread q hq
      obtain ⟨-, r, hr, -⟩ := ofSetting_text_iff.mp hd
      exact ⟨r, hr⟩
    obtain ⟨r, hr, hfound⟩ := Regex.exists_ofText_joined htexts (List.pairwise_map.mpr h)
    refine ⟨⟨m, some r⟩, (ofSetting_texts_iff (List.cons_ne_nil _ _)).mpr ⟨fun hm => ?_, r, ?_, rfl⟩, fun data => ?_⟩
    · obtain ⟨hp, hpatterns⟩ := List.forall_mem_cons.mp (hascii hm)
      rw [toList_intercalate, List.forall_mem_append]
      refine ⟨hp, fun c hc => ?_⟩
      obtain ⟨s, hs, hc⟩ := List.mem_flatMap.mp hc
      obtain ⟨q, hq, rfl⟩ := List.mem_map.mp hs
      rcases List.mem_cons.mp hc with rfl | hc
      · decide
      · exact hpatterns q hq c hc
    · rwa [toList_intercalate]
    · rw [finds_eq_search]
      refine (hfound _).trans ?_
      rw [← List.map_cons]
      simp only [List.mem_map, exists_exists_and_eq_and]
      refine exists_congr fun q => and_congr_right fun hq => ?_
      obtain ⟨d, hd⟩ := hread q hq
      exact (searchAlone_iff hd data).symm

end DataPattern

namespace SourceTree

/-- Regular expressions that can be used alone and are independent can be used together, and a file is
then skipped if one of them alone is found in what was read of it. -/
theorem skips_by_patterns_alone (t : SourceTree) (m : ReadMode) (hmode : t.mode = .mode m) (patterns : List String)
    (hread : ∀ p ∈ patterns, ∃ d, DataPattern.ofSetting m (.texts [p]) = .ok d)
    (h : patterns.Pairwise fun p q => Regex.Independent (m == .text) p.toList q.toList) :
    ∃ t', t.setSkippedData (.texts patterns) = (.ok (), t') ∧
      (∀ data : m.Data, ∃ found, t'.selection.skippedData.foundIn m data = .ok found ∧
        (found = true ↔ ∃ p ∈ patterns, DataPattern.searchAlone m p data = .ok true)) ∧
      ∀ (w : World) (src : Source) (bytes : Bytes) (data : m.Data), w.tree.read src.path = .ok bytes →
        m.decode bytes = .ok data → ∃ content w', (src.content t'.selection m).run w = (.ok content, w') ∧
          (content = none ↔ ∃ p ∈ patterns, DataPattern.searchAlone m p data = .ok true) ∧
          ∀ d, content = some d → d = data := by
  obtain ⟨d, hd, hfinds⟩ := DataPattern.exists_ofSetting hread h
  have hpatterns : SourceTree.patternMode { t with patterns.skippedData := .texts patterns } = m := by
    rw [patternMode, hmode]
    cases m <;> rfl
  have hset : t.setSkippedData (.texts patterns) = (.ok (),
      { t with patterns.skippedData := .texts patterns, selection.skippedData := d }) := by
    rw [setSkippedData]
    dsimp only
    rw [hpatterns, hd]
  have hd' : d.mode = m := DataPattern.mode_of_ofSetting hd
  refine ⟨_, hset, fun data => ⟨_, DataPattern.foundIn_eq hd' data, hfinds data⟩, ?_⟩
  intro w src bytes data hbytes hdata
  obtain ⟨w', hw', -⟩ : ∃ w', (src.content { t.selection with skippedData := d } m).run w =
      (.ok (Source.wanted { t.selection with skippedData := d } m bytes), w') ∧ _ :=
    Source.run_content hd' hbytes (.refl w)
  refine ⟨_, w', hw', ?_, ?_⟩
  · rw [Source.wanted, hdata, ← hfinds data]
    simp
  · rw [Source.wanted, hdata]
    simp

/-- Groups that are referred to by name keep their meaning among others. -/
theorem skips_by_patterns_alone_quoted : ∃ t', setSkippedData ⟨.text ".", .mode .text, .usual, ⟨[], [], .text, none⟩, []⟩
    (.texts ["a(b)", "(?P<q>[\"'])x(?P=q)", "^c{2,}"]) = (.ok (), t') ∧
      t'.selection.skippedData.foundIn .text "say 'x'".toList = .ok true ∧
      t'.selection.skippedData.foundIn .text "say 'x\"".toList = .ok false := by
  have hread : ∀ p ∈ ["a(b)", "(?P<q>[\"'])x(?P=q)", "^c{2,}"],
      ((DataPattern.ofSetting .text (.texts [p])).toOption).isSome := by decide +kernel
  obtain ⟨t', hset, hfound, -⟩ := skips_by_patterns_alone
    ⟨.text ".", .mode .text, .usual, ⟨[], [], .text, none⟩, []⟩ .text rfl
    ["a(b)", "(?P<q>[\"'])x(?P=q)", "^c{2,}"] (fun p hp => exists_eq_ok (hread p hp)) (by decide +kernel)
  obtain ⟨yes, hyes, hyes'⟩ := hfound "say 'x'".toList
  obtain ⟨no, hno, hno'⟩ := hfound "say 'x\"".toList
  refine ⟨t', hset, ?_, ?_⟩
  · rw [hyes, hyes'.mpr (by decide +kernel)]
  · rw [hno, Bool.eq_false_iff.mpr (mt hno'.mp (by decide +kernel))]

/-- A switch for the whole of one pattern is also one for the next. -/
theorem switch_reaches_next_pattern :
    (∀ p ∈ ["(?i)a", "b"], DataPattern.searchAlone .text p "B".toList = .ok false) ∧
      (setSkippedData ⟨.text ".", .mode .text, .usual, ⟨[], [], .text, none⟩, []⟩ (.texts ["(?i)a", "b"])).1 =
        .ok () ∧
      (setSkippedData ⟨.text ".", .mode .text, .usual, ⟨[], [], .text, none⟩, []⟩
        (.texts ["(?i)a", "b"])).2.selection.skippedData.foundIn .text "B".toList = .ok true := by
  decide +kernel

end SourceTree

end SourceTidy
