import SourceTidy.Proofs.MovedGroups

/-!
# Patterns read among others

A pattern that is one of several alternatives is read as it is alone: up to the bar after it, with
other numbers for its groups. What the readers do alone and among others is compared step by step.
-/

namespace SourceTidy.Regex

open RegexFlags

variable {usual verbose : Bool} {c : Char} {l l' : List Regex}
  {fuel fuel' n number offset start start' : Nat} {limit : Option Nat} {next : Option Text}
  {flags : RegexFlags} {what : RegexProblem} {digits token : Text}

variable {α β γ δ : Type}

/-- Reading from one state gives a value and another state. -/
def Gives (m : Read α) (s : Reading) (a : α) (t : Reading) : Prop := (·.1) <$> m s = .ok (a, t)

section

variable {m : Read α} {k : α → Read β} {s t u : Reading} {a : α} {b : β}

lemma Gives.exists_eq (h : Gives m s a t) : ∃ ht, m s = .ok ⟨(a, t), ht⟩ := by
  unfold Gives at h
  cases hm : m s with
  | error f =>
    rw [hm] at h
    cases h
  | ok r =>
    rw [hm] at h
    obtain ⟨⟨a', t'⟩, ht⟩ := r
    cases h
    exact ⟨ht, rfl⟩

lemma gives_of_eq {l : s.Later t} (h : m s = .ok ⟨(a, t), l⟩) : Gives m s a t := congrArg _ h

lemma Gives.later (h : Gives m s a t) : s.Later t := h.exists_eq.1

lemma gives_pure (a : α) (s : Reading) : Gives (pure a) s a s := rfl

lemma eq_of_gives_pure {a a' : α} (h : Gives (pure a) s a' t) : a' = a ∧ t = s := by
  cases h
  exact ⟨rfl, rfl⟩

lemma Gives.bind (h : Gives m s a t) (hk : Gives (k a) t b u) : Gives (m >>= k) s b u := by
  obtain ⟨hm, h⟩ := h.exists_eq
  obtain ⟨hk, hb⟩ := hk.exists_eq
  refine gives_of_eq (l := hm.trans hk) ?_
  simp only [Bind.bind, h, hb]
  rfl

lemma Gives.of_bind (h : Gives (m >>= k) s b u) : ∃ a t, Gives m s a t ∧ Gives (k a) t b u := by
  unfold Gives at h
  simp only [Bind.bind] at h
  cases hm : m s with
  | error f =>
    rw [hm] at h
    cases h
  | ok r =>
    obtain ⟨⟨a, t⟩, ht⟩ := r
    rw [hm] at h
    dsimp only at h
    cases hk : k a t with
    | error f =>
      rw [hk] at h
      cases h
    | ok r =>
      obtain ⟨⟨b', u'⟩, hr⟩ := r
      rw [hk] at h
      cases h
      exact ⟨a, t, gives_of_eq hm, gives_of_eq hk⟩

lemma gives_reading_bind {k : Reading → Read α} : Gives (reading >>= k) s a t ↔ Gives (k s) s a t := by
  refine ⟨fun h => ?_, Gives.bind (gives_of_eq rfl)⟩
  obtain ⟨_, _, hr, h⟩ := h.of_bind
  cases hr
  exact h

lemma not_gives_refuseAt {position : Nat} : ¬Gives (refuseAt what position) s a t := by
  nofun

lemma not_gives_refuse : ¬Gives (refuse what offset) s a t := by
  nofun

lemma gives_change {f : Reading → Reading} {h : ∀ s : Reading, s.Later (f s)} :
    Gives (change f h) s () (f s) :=
  rfl

lemma eq_of_gives_change {f : Reading → Reading} {h : ∀ s : Reading, s.Later (f s)} {a : Unit}
    (hchange : Gives (change f h) s a t) : t = f s := by
  cases hchange
  rfl

/-- Looking at the next token depends on the rest of the pattern only. -/
lemma gives_advance {rest : Text} (h : firstToken? s.rest = some (next, rest)) :
    Gives advance s () { s with next, rest } := by
  unfold Gives advance
  split
  · next hs => cases hs.symm.trans h
  · next next rest hs =>
    cases hs.symm.trans h
    rfl

lemma eq_of_gives_advance {a : Unit} (h : Gives advance s a t) : ∃ next rest,
    firstToken? s.rest = some (next, rest) ∧ t = { s with next, rest } := by
  unfold Gives advance at h
  split at h
  · cases h
  · next next rest hs =>
    cases h
    exact ⟨next, rest, hs, rfl⟩

lemma gives_scan {read : Text → Option (α × Text)} {h : read [] = none} {text : Text}
    {rest : Text} (hread : read (s.next.getD [] ++ s.rest) = some (a, text))
    (hnext : firstToken? text = some (next, rest)) :
    Gives (scan read h) s (some a) { s with next, rest } := by
  unfold Gives scan
  split
  · next hs => cases hs.symm.trans hread
  · next b text' hs =>
    cases hs.symm.trans hread
    simp only [hnext]
    rfl

lemma gives_scan_none {read : Text → Option (α × Text)} {h : read [] = none}
    (hread : read (s.next.getD [] ++ s.rest) = none) : Gives (scan read h) s none s := by
  unfold Gives scan
  split
  · rfl
  · next hs => cases hs.symm.trans hread

lemma of_gives_scan {read : Text → Option (α × Text)} {h : read [] = none} {found : Option α}
    (hscan : Gives (scan read h) s found t) :
    (read (s.next.getD [] ++ s.rest) = none ∧ found = none ∧ t = s) ∨
      ∃ a text next rest, read (s.next.getD [] ++ s.rest) = some (a, text) ∧
        firstToken? text = some (next, rest) ∧ found = some a ∧ t = { s with next, rest } := by
  unfold Gives scan at hscan
  split at hscan
  · next hs =>
    cases hscan
    exact .inl ⟨hs, rfl, rfl⟩
  · next b text hs =>
    split at hscan
    · cases hscan
    · next next rest hnext =>
      cases hscan
      exact .inr ⟨b, text, next, rest, hs, hnext, rfl, rfl⟩

lemma gives_within (h : Gives m { s with flags, behindLimit := limit } a t) :
    Gives (within flags limit m) s a { t with flags := s.flags, behindLimit := s.behindLimit } := by
  obtain ⟨_, h⟩ := h.exists_eq
  unfold Gives within
  simp only [h]
  rfl

lemma of_gives_within (h : Gives (within flags limit m) s a u) :
    ∃ t, Gives m { s with flags, behindLimit := limit } a t ∧
      u = { t with flags := s.flags, behindLimit := s.behindLimit } := by
  unfold Gives within at h
  cases hm : m { s with flags, behindLimit := limit } with
  | error f =>
    rw [hm] at h
    cases h
  | ok r =>
    obtain ⟨⟨b, t⟩, ht⟩ := r
    rw [hm] at h
    cases h
    exact ⟨t, gives_of_eq hm, rfl⟩

end

/-- Where a pattern is read as one of several alternatives. -/
structure Spot where
  isText : Bool
  /-- The length of the longest pattern that may be read. -/
  room : Nat
  groups : List (Option (Nat × Nat))
  names : List (Text × Nat)
  /-- What follows the bar after the pattern, unless it is the last one. -/
  after : Option Text
  /-- Whether a group of the pattern is being read. -/
  inner : Bool
  /-- Whether no switches are on. -/
  usual : Bool

namespace Spot

variable (x : Spot)

def shift : Nat := x.groups.length

def tail : Text := x.after.elim [] ('|' :: ·)

/-- What is known of a pattern that was read alone does not get into the way of those before it. -/
structure Good (t : Reading) : Prop where
  flags : t.wholeFlags = {}
  names : ∀ n ∈ t.names.map Prod.fst, n ∉ x.names.map Prod.fst
  asked : x.groups = [] ∨ t.asked = []
  inner : x.inner = true → ¬t.AtEnd

/-- The states in which a pattern is read alone and as one of several alternatives. -/
structure Rel (s s' : Reading) : Prop where
  isText : s.isText = x.isText ∧ s'.isText = x.isText
  pattern : s.pattern.length ≤ x.room ∧ x.room ≤ s'.pattern.length
  ahead : ∃ u, firstToken? u = some (s.next, s.rest) ∧ firstToken? (u ++ x.tail) = some (s'.next, s'.rest)
  whole : s.wholeFlags = {} ∧ s'.wholeFlags = {}
  flags : s'.flags = s.flags
  usual : x.usual = true → s.flags = {}
  groups : ∃ g, s.groups = none :: g ∧ s'.groups = none :: (x.groups ++ g)
  names : s'.names = x.names ++ s.names.map fun n => (n.1, moved x.shift n.2)
  behindLimit : s'.behindLimit = s.behindLimit.map (· + x.shift)
  asked : ∀ a ∈ s'.asked, a.1 ≤ x.shift ∨ a.1 ∈ s.asked.map Prod.fst

variable {x} {s s' t t' : Reading}

lemma Rel.length_le (h : x.Rel s s') : s.pattern.length + 1 ≤ s'.pattern.length + 1 :=
  Nat.add_le_add_right (Nat.le_trans h.pattern.1 h.pattern.2) 1

lemma Good.of_later (h : x.Good t) (hs : s.Later t) : x.Good s where
  flags := (hs.flags h.flags).1
  names n hn := h.names n (hs.names hn)
  asked := h.asked.imp_right hs.asked
  inner hx hend := h.inner hx (hs.atEnd hend)

end Spot

/-- From two states, two ways to read give values of which one is what the other becomes. -/
def SimAt (x : Spot) (s s' : Reading) (Q : α → β → Prop) (m : Read α) (m' : Read β) : Prop :=
  ∀ a t, Gives m s a t → x.Good t → ∃ b t', Gives m' s' b t' ∧ Q a b ∧ x.Rel t t'

/-- What is read of a pattern alone is also read of it among others. -/
def Sim (x : Spot) (Q : α → β → Prop) (m : Read α) (m' : Read β) : Prop :=
  ∀ s s', x.Rel s s' → SimAt x s s' Q m m'

section

variable {x : Spot} {s s' t t' : Reading} {P : α → β → Prop} {Q : γ → δ → Prop} {m : Read α} {m' : Read β}
  {k : α → Read γ} {k' : β → Read δ} {a : α} {b : β}

lemma sim_pure (h : P a b) : Sim x P (pure a) (pure b) := by
  intro s s' hrel a' t ht _
  obtain ⟨rfl, rfl⟩ := eq_of_gives_pure ht
  exact ⟨b, s', gives_pure b s', h, hrel⟩

lemma SimAt.bind (hm : SimAt x s s' P m m') (hk : ∀ a b, P a b → Sim x Q (k a) (k' b)) :
    SimAt x s s' Q (m >>= k) (m' >>= k') := by
  intro c u hu hgood
  obtain ⟨a, t, ht, hu⟩ := hu.of_bind
  obtain ⟨b, t', ht', hab, hrel⟩ := hm a t ht (hgood.of_later hu.later)
  obtain ⟨d, u', hu', hcd, hrel⟩ := hk a b hab t t' hrel c u hu hgood
  exact ⟨d, u', ht'.bind hu', hcd, hrel⟩

lemma Sim.bind (hm : Sim x P m m') (hk : ∀ a b, P a b → Sim x Q (k a) (k' b)) :
    Sim x Q (m >>= k) (m' >>= k') := fun s s' hrel => (hm s s' hrel).bind hk

/-- A value that is the same in both ways is passed on. -/
lemma Sim.bind_eq {m m' : Read α} {k : α → Read γ} {k' : α → Read δ} (hm : Sim x Eq m m')
    (hk : ∀ a, Sim x Q (k a) (k' a)) : Sim x Q (m >>= k) (m' >>= k') :=
  hm.bind fun a _ h => h ▸ hk a

lemma Sim.mono {P' : α → β → Prop} (hm : Sim x P m m') (h : ∀ a b, P a b → P' a b) : Sim x P' m m' := by
  intro s s' hrel a t ht hgood
  obtain ⟨b, t', ht', hab, hrel⟩ := hm s s' hrel a t ht hgood
  exact ⟨b, t', ht', h a b hab, hrel⟩

lemma sim_of_not_gives (h : ∀ s a t, ¬Gives m s a t) : Sim x P m m' :=
  fun s _ _ a t ht _ => absurd ht (h s a t)

lemma sim_refuse : Sim x P (refuse what offset) m' :=
  sim_of_not_gives fun _ _ _ => not_gives_refuse

lemma sim_refuseAt {position : Nat} : Sim x P (refuseAt what position) m' :=
  sim_of_not_gives fun _ _ _ => not_gives_refuseAt

lemma sim_bind_of_not_gives (h : ∀ s a t, ¬Gives m s a t) {m' : Read δ} : Sim x Q (m >>= k) m' := by
  refine sim_of_not_gives fun s c u hu => ?_
  obtain ⟨a, t, ht, -⟩ := hu.of_bind
  exact h s a t ht

lemma sim_refuse_bind {m' : Read δ} :
    Sim x Q (refuse what offset >>= k) m' := sim_bind_of_not_gives fun _ _ _ => not_gives_refuse

lemma SimAt.reading {k : Reading → Read γ} {k' : Reading → Read δ} (h : SimAt x s s' Q (k s) (k' s')) :
    SimAt x s s' Q (reading >>= k) (reading >>= k') := by
  intro c u hu hgood
  obtain ⟨d, u', hu', hcd, hrel⟩ := h c u (gives_reading_bind.mp hu) hgood
  exact ⟨d, u', gives_reading_bind.mpr hu', hcd, hrel⟩

lemma sim_ite {c c' : Prop} [Decidable c] [Decidable c'] {n : Read α} {n' : Read β} (h : c ↔ c')
    (hm : c → Sim x P m m') (hn : ¬c → Sim x P n n') :
    Sim x P (if c then m else n) (if c' then m' else n') := by
  by_cases hc : c
  · rw [if_pos hc, if_pos (h.mp hc)]
    exact hm hc
  · rw [if_neg hc, if_neg (mt h.mpr hc)]
    exact hn hc

lemma sim_if {c : Prop} [Decidable c] {n : Read α} {n' : Read β} (hm : Sim x P m m') (hn : Sim x P n n') :
    Sim x P (if c then m else n) (if c then m' else n') := sim_ite .rfl (fun _ => hm) fun _ => hn

lemma SimAt.of_good (h : x.Good s → SimAt x s s' P m m') : SimAt x s s' P m m' :=
  fun a t ht hgood => h (hgood.of_later ht.later) a t ht hgood

lemma sim_place : Sim x (fun _ _ => True) place place := by
  refine fun s s' hrel => SimAt.reading (sim_pure trivial s s' hrel)

end

lemma firstToken?_cons (h : c ≠ '\\') (s : Text) : firstToken? (c :: s) = some (some [c], s) := by
  unfold firstToken?
  split
  · next heq => cases heq
  · next heq => cases heq; exact absurd rfl h
  · next heq => cases heq; exact absurd rfl h
  · next heq => cases heq; rfl

lemma firstToken?_append {u r : Text} (h : firstToken? u = some (some token, r)) (v : Text) :
    firstToken? (u ++ v) = some (some token, r ++ v) := by
  unfold firstToken? at h
  split at h
  · cases h
  · cases h
  · cases h
    rfl
  · next c s hlone hescape =>
    cases h
    refine firstToken?_cons ?_ _
    rintro rfl
    cases r with
    | nil => exact hlone rfl rfl
    | cons c s => exact hescape c s rfl rfl

lemma firstToken?_none {u r : Text} (h : firstToken? u = some (none, r)) : u = [] ∧ r = [] := by
  unfold firstToken? at h
  split at h
  · cases h
    exact ⟨rfl, rfl⟩
  all_goals cases h

lemma getD_firstToken? {u r : Text} (h : firstToken? u = some (next, r)) : next.getD [] ++ r = u := by
  unfold firstToken? at h
  split at h <;> cases h <;> rfl

section

variable {x : Spot} {s s' t t' : Reading} {P : α → β → Prop} {Q : γ → δ → Prop} {m : Read α} {m' : Read β}

lemma Spot.exists_firstToken? {u r : Text} (h : firstToken? u = some (next, r)) :
    ∃ next' r', firstToken? (u ++ x.tail) = some (next', r') := by
  cases next with
  | some token => exact ⟨_, _, firstToken?_append h _⟩
  | none =>
    rw [(firstToken?_none h).1, List.nil_append, Spot.tail]
    cases x.after with
    | none => exact ⟨none, [], rfl⟩
    | some z => exact ⟨some ['|'], z, firstToken?_cons (by decide) z⟩

lemma Spot.Rel.next_some (h : x.Rel s s') (hs : s.next = some token) :
    s'.next = some token ∧ s'.rest = s.rest ++ x.tail := by
  obtain ⟨u, hu, hu'⟩ := h.ahead
  rw [hs] at hu
  rw [firstToken?_append hu, Option.some.injEq, Prod.mk.injEq] at hu'
  exact ⟨hu'.1.symm, hu'.2.symm⟩

lemma Spot.Rel.next_none (h : x.Rel s s') (hs : s.next = none) :
    s.AtEnd ∧ (s'.next = none ∨ s'.next = some ['|']) := by
  obtain ⟨u, hu, hu'⟩ := h.ahead
  rw [hs] at hu
  obtain ⟨rfl, hr⟩ := firstToken?_none hu
  refine ⟨⟨hs, hr⟩, ?_⟩
  rw [List.nil_append, Spot.tail] at hu'
  cases hafter : x.after with
  | none =>
    rw [hafter] at hu'
    exact .inl (Prod.mk.inj (Option.some.inj hu')).1.symm
  | some z =>
    rw [hafter, Option.elim_some, firstToken?_cons (by decide)] at hu'
    exact .inr (Prod.mk.inj (Option.some.inj hu')).1.symm

lemma Spot.Rel.moved (h : x.Rel s s') {u rest rest' : Text} {next next' : Option Text}
    (hu : firstToken? u = some (next, rest)) (hu' : firstToken? (u ++ x.tail) = some (next', rest')) :
    x.Rel { s with next, rest } { s' with next := next', rest := rest' } :=
  { h with ahead := ⟨u, hu, hu'⟩ }

lemma simAt_advance (hrel : x.Rel s s') (h : s.next ≠ none) :
    SimAt x s s' (fun _ _ => True) advance advance := by
  intro _ t ht _
  obtain ⟨next, rest, hnext, rfl⟩ := eq_of_gives_advance ht
  obtain ⟨token, htoken⟩ := Option.ne_none_iff_exists'.mp h
  obtain ⟨next', rest', hnext'⟩ := Spot.exists_firstToken? (x := x) hnext
  refine ⟨(), { s' with next := next', rest := rest' }, gives_advance ?_, trivial, hrel.moved hnext hnext'⟩
  rw [(hrel.next_some htoken).2, hnext']

lemma simAt_takeIf (hrel : x.Rel s s') (hs : s.next = some [c]) : SimAt x s s' Eq (takeIf c) (takeIf c) := by
  refine .reading ?_
  rw [hs, (hrel.next_some hs).1, beq_self_eq_true, if_pos rfl]
  exact (simAt_advance hrel (by simp [hs])).bind fun _ _ _ => sim_pure rfl

lemma of_gives_takeIf {found : Bool} (h : Gives (takeIf c) s found t) :
    found = (s.next == some [c]) ∧ (found = false → t = s) := by
  unfold takeIf at h
  rw [gives_reading_bind] at h
  by_cases hs : s.next = some [c]
  · rw [hs, beq_self_eq_true, if_pos rfl] at h
    obtain ⟨_, _, -, h⟩ := h.of_bind
    obtain ⟨rfl, rfl⟩ := eq_of_gives_pure h
    exact ⟨by simp [hs], nofun⟩
  · rw [if_neg (by simpa using hs)] at h
    obtain ⟨rfl, rfl⟩ := eq_of_gives_pure h
    exact ⟨by simpa using hs, fun _ => rfl⟩

lemma gives_takeIf_false (h : s.next ≠ some [c]) : Gives (takeIf c) s false s := by
  unfold takeIf
  rw [gives_reading_bind, if_neg (by simpa using h)]
  exact gives_pure _ _

lemma gives_takeIf_true (h : s.next = some [c]) (ht : Gives advance s () t) : Gives (takeIf c) s true t := by
  unfold takeIf
  rw [gives_reading_bind, if_pos (by simpa using h)]
  exact ht.bind (gives_pure _ _)

/-- The bar after the pattern is taken for one of its own in a group only, which then is not closed. -/
lemma sim_takeIf (h : c ≠ '|' ∨ x.inner = true) : Sim x Eq (takeIf c) (takeIf c) := by
  intro s s' hrel
  by_cases hnext : s.next = some [c]
  · exact simAt_takeIf hrel hnext
  · refine .reading ?_
    rw [if_neg (by simpa using hnext)]
    intro a t ht hgood
    obtain ⟨rfl, rfl⟩ := eq_of_gives_pure ht
    have hnext' : s'.next ≠ some [c] := by
      cases hs : t.next with
      | some token =>
        rw [(hrel.next_some hs).1]
        exact hs ▸ hnext
      | none =>
        obtain ⟨hend, hs'⟩ := hrel.next_none hs
        rcases h with hc | hinner
        · rcases hs' with hs' | hs' <;> rw [hs']
          · nofun
          · simpa using hc.symm
        · exact absurd hend (hgood.inner hinner)
    rw [if_neg (by simpa using hnext')]
    exact ⟨false, s', gives_pure _ _, rfl, hrel⟩

lemma simAt_take (hrel : x.Rel s s') (hs : s.next = some token) :
    SimAt x s s' (fun a b => a = some token ∧ b = some token) take take :=
  .reading ((simAt_advance hrel (by simp [hs])).bind fun _ _ _ => sim_pure ⟨hs, (hrel.next_some hs).1⟩)

lemma Sim.take {k : Option Text → Read γ} {k' : Option Text → Read δ} (hnone : ∀ s a t, ¬Gives (k none) s a t)
    (h : ∀ token, Sim x Q (k (some token)) (k' (some token))) : Sim x Q (take >>= k) (take >>= k') := by
  intro s s' hrel
  cases hs : s.next with
  | none =>
    intro c u hu _
    obtain ⟨token, t, ht, hu⟩ := hu.of_bind
    obtain ⟨r, s₁, hr, ht⟩ := ht.of_bind
    cases hr
    obtain ⟨-, t₁, -, ht⟩ := ht.of_bind
    rw [(eq_of_gives_pure ht).1, hs] at hu
    exact absurd hu (hnone t c u)
  | some token =>
    refine (simAt_take hrel hs).bind ?_
    rintro a b ⟨rfl, rfl⟩
    exact h token

/-- In a group that is closed, the end of the pattern is not reached. -/
lemma simAt_of_atEnd (hx : x.inner = true) (hs : s.AtEnd) : SimAt x s s' P m m' :=
  fun _ _ ht hgood => absurd (ht.later.atEnd hs) (hgood.inner hx)

lemma sim_takeWhile {test : Char → Bool} (h : test '|' = false) (n : Nat) :
    Sim x Eq (takeWhile test n) (takeWhile test n) := by
  induction n with
  | zero => exact sim_pure rfl
  | succ n ih =>
    refine fun s s' hrel => .reading ?_
    cases hs : s.next with
    | none =>
      refine fun a t ht _ => ⟨a, s', ?_, rfl, (eq_of_gives_pure ht).2 ▸ hrel⟩
      rw [(eq_of_gives_pure ht).1]
      rcases (hrel.next_none hs).2 with hs' | hs' <;> rw [hs']
      · exact gives_pure _ _
      · simp only [h]
        exact gives_pure _ _
    | some token =>
      rw [(hrel.next_some hs).1]
      have hadvance : SimAt x s s' (fun _ _ => True) advance advance := simAt_advance hrel (by simp [hs])
      rcases token with _ | ⟨c, _ | ⟨c', token⟩⟩
      · exact sim_pure rfl s s' hrel
      · dsimp only
        split
        · exact hadvance.bind fun _ _ _ => ih.bind_eq fun _ => sim_pure rfl
        · exact sim_pure rfl s s' hrel
      · exact sim_pure rfl s s' hrel

lemma exists_fuel (h : fuel + 1 ≤ fuel') : ∃ n, fuel' = n + 1 ∧ fuel ≤ n :=
  ⟨fuel' - 1, by omega, by omega⟩

lemma sim_takeUntil {terminator : Char} {what : String} {taken : Text} (h : fuel ≤ fuel') :
    Sim x Eq (takeUntil terminator what taken fuel) (takeUntil terminator what taken fuel') := by
  induction fuel generalizing taken fuel' with
  | zero => exact sim_refuse
  | succ fuel ih =>
    obtain ⟨fuel', rfl, hle⟩ := exists_fuel h
    refine Sim.take (fun s a t => ?_) fun token => ?_
    · dsimp only
      split <;> exact not_gives_refuse
    · refine sim_if ?_ <| ih hle
      exact sim_if sim_refuse <| sim_pure rfl

lemma sim_takeName {terminator : Char} {what : String} :
    Sim x Eq (takeName terminator what) (takeName terminator what) := fun s s' hrel =>
  .reading (sim_takeUntil hrel.length_le s s' hrel)

lemma sim_checkName {name : Text} : Sim x Eq (checkName name) (checkName name) :=
  sim_if sim_refuse <| sim_pure rfl

lemma sim_asciiOnly : Sim x (fun a b => b = a ∧ (x.usual = true → a = !x.isText)) asciiOnly asciiOnly := by
  refine fun s s' hrel => .reading (sim_pure ⟨?_, fun hx => ?_⟩ s s' hrel)
  · rw [hrel.isText.1, hrel.isText.2, hrel.flags]
  · rw [hrel.isText.1, hrel.usual hx]
    exact Bool.or_false _

lemma sim_caseRule : Sim x (fun a b => b = a ∧ (x.usual = true → a = .exact)) caseRule caseRule := by
  refine fun s s' hrel => .reading ?_
  rw [hrel.flags]
  by_cases hcase : s.flags.ignoreCase = true
  · have hx : ¬x.usual = true := by
      intro hx
      rw [hrel.usual hx] at hcase
      cases hcase
    refine (sim_if ?_ <| sim_if ?_ ?_) s s' hrel
    · exact sim_pure ⟨rfl, fun _ => rfl⟩
    · exact sim_pure ⟨rfl, fun h => absurd h hx⟩
    · refine sim_asciiOnly.bind ?_
      rintro a b ⟨rfl, -⟩
      exact sim_pure ⟨rfl, fun h => absurd h hx⟩
  · rw [if_pos (by simpa using hcase)]
    exact sim_pure ⟨rfl, fun _ => rfl⟩ s s' hrel

lemma sim_hexEscape : Sim x Eq (hexEscape c n) (hexEscape c n) := by
  refine (sim_takeWhile rfl n).bind_eq fun digits => sim_if sim_refuse ?_
  exact sim_if sim_refuse <| sim_pure rfl

lemma sim_codeEscape? : Sim x Eq (codeEscape? c) (codeEscape? c) := by
  refine fun s s' hrel => .reading ?_
  rw [hrel.isText.1, hrel.isText.2]
  have hhex : ∀ n, Sim x Eq (some <$> hexEscape c n) (some <$> hexEscape c n) :=
    fun n => sim_hexEscape.bind_eq fun _ => sim_pure rfl
  refine (sim_if (hhex 2) <| sim_if (hhex 4) <|
    sim_if (hhex 8) <| sim_if ?_ <| sim_pure rfl) s s' hrel
  refine (sim_takeIf (.inl (by decide))).bind_eq fun found => sim_if ?_ sim_refuse
  refine sim_takeName.bind_eq fun name => ?_
  cases Text.charNamed? name with
  | none => exact sim_refuse
  | some c => exact sim_pure rfl

lemma sim_plainEscape : Sim x Eq (plainEscape c) (plainEscape c) :=
  sim_if sim_refuse <| sim_pure rfl

lemma sim_checkOctal : Sim x Eq (checkOctal digits) (checkOctal digits) :=
  sim_if sim_refuse <| sim_pure rfl

/-- A member of a set, which is usual where no switch is on. -/
def Spot.AlikeMember (x : Spot) (m m' : SetMember) : Prop :=
  m' = m ∧ (x.usual = true → m.within (!x.isText) = m)

lemma alikeMember_code (n : Nat) : x.AlikeMember (.code n) (.code n) := ⟨rfl, fun _ => rfl⟩

lemma sim_readSetEscape : Sim x x.AlikeMember (readSetEscape c) (readSetEscape c) := by
  unfold readSetEscape
  cases letterEscape? c with
  | some n => exact sim_pure (alikeMember_code n)
  | none =>
    cases classEscape? c with
    | some found =>
      refine sim_asciiOnly.bind ?_
      rintro a b ⟨rfl, ha⟩
      exact sim_pure ⟨rfl, fun hx => by rw [SetMember.within, ← ha hx]⟩
    | none =>
      refine sim_codeEscape?.bind_eq fun code => ?_
      cases code with
      | some n => exact sim_pure (alikeMember_code n)
      | none =>
        refine sim_if ?_ <| sim_plainEscape.bind_eq fun n => sim_pure (alikeMember_code n)
        refine (sim_takeWhile rfl 2).bind_eq fun digits => ?_
        exact sim_checkOctal.bind_eq fun n => sim_pure (alikeMember_code n)

/-- An expression after the groups before the pattern. It is usual where no switch is on. -/
def Spot.Alike (x : Spot) (r r' : Regex) : Prop :=
  r' = r.renumber x.shift ∧ (x.usual = true → r.isUsual (!x.isText) = true)

lemma sim_oneCode : Sim x x.Alike (oneCode n) (oneCode n) := by
  refine sim_caseRule.bind ?_
  rintro a b ⟨rfl, ha⟩
  exact sim_pure ⟨rfl, fun hx => by rw [ha hx]; rfl⟩

lemma sim_isClosed :
    Sim x (fun a b => b = a ∧ (a = true → n ≠ 0)) (isClosed n) (isClosed (moved x.shift n)) := by
  refine fun s s' hrel => .reading (sim_pure ?_ s s' hrel)
  obtain ⟨g, hg, hg'⟩ := hrel.groups
  rw [hg, hg', Spot.shift, getD_moved]
  refine ⟨rfl, ?_⟩
  rintro hclosed rfl
  cases hclosed

lemma sim_checkBehind : Sim x Eq (checkBehind n) (checkBehind (moved x.shift n)) := by
  refine fun s s' hrel => .reading ?_
  rw [hrel.behindLimit]
  cases s.behindLimit with
  | none => exact sim_pure rfl s s' hrel
  | some limit =>
    refine (sim_isClosed.bind ?_) s s' hrel
    rintro closed _ ⟨rfl, hn⟩
    refine sim_ite .rfl (fun _ => sim_refuse_bind) fun hclosed => ?_
    obtain ⟨n, rfl⟩ := Nat.exists_eq_add_one_of_ne_zero (hn (by simpa using hclosed))
    refine sim_ite ?_ (fun _ => sim_refuse) fun _ => sim_pure rfl
    rw [moved, Nat.add_le_add_iff_right]

lemma sim_referTo : Sim x x.Alike (referTo n offset) (referTo (moved x.shift n) offset) := by
  refine sim_isClosed.bind ?_
  rintro closed _ ⟨rfl, -⟩
  refine sim_if sim_refuse_bind <| sim_checkBehind.bind_eq fun _ => ?_
  refine sim_caseRule.bind ?_
  rintro rule _ ⟨rfl, -⟩
  exact sim_pure ⟨rfl, fun _ => rfl⟩

lemma moved_zero (n : Nat) : moved 0 n = n := by cases n <;> rfl

/-- A group is asked for by number only if the pattern is not preceded by groups. -/
lemma sim_ask {n position position' : Nat} {k : Unit → Read γ} {k' : Unit → Read δ}
    (h : x.shift = 0 → Sim x Q (k ()) (k' ())) : Sim x Q (ask n position >>= k) (ask n position' >>= k') := by
  intro s s' hrel c u hu hgood
  obtain ⟨⟨⟩, t, ht, hu⟩ := hu.of_bind
  have hs := eq_of_gives_change ht
  have hshift : x.shift = 0 := by
    rcases hgood.asked with hx | hnone
    · rw [Spot.shift, hx]
      rfl
    · have hnone := hu.later.asked hnone
      rw [hs] at hnone
      exact absurd (List.append_eq_nil_iff.mp hnone).2 (List.cons_ne_nil _ _)
  have hrel' : x.Rel t { s' with asked := s'.asked ++ [(n, position')] } := by
    rw [hs]
    refine { hrel with asked := fun a ha => ?_ }
    rcases List.mem_append.mp ha with ha | ha
    · exact (hrel.asked a ha).imp_right fun ha => by simp [ha]
    · exact .inr (by simp [List.mem_singleton.mp ha])
  obtain ⟨d, u', hu', hcd, hrel⟩ := h hshift t _ hrel' c u hu hgood
  exact ⟨d, u', Gives.bind gives_change hu', hcd, hrel⟩

lemma sim_referByDigits : Sim x x.Alike (referByDigits digits) (referByDigits digits) := by
  refine fun s s' hrel => .reading ?_
  obtain ⟨g, hg, hg'⟩ := hrel.groups
  by_cases h : digitsIn 10 digits < s.groups.length
  · have h' : digitsIn 10 digits < s'.groups.length := by
      rw [hg'] at *
      rw [hg] at h
      simp only [List.length_cons, List.length_append] at *
      omega
    rw [if_pos h, if_pos h']
    refine (sim_place.bind fun _ _ _ => sim_ask fun hx => ?_) s s' hrel
    have hrefer : Sim x x.Alike (referTo (digitsIn 10 digits) (digits.length + 1))
        (referTo (moved x.shift (digitsIn 10 digits)) (digits.length + 1)) := sim_referTo
    rwa [hx, moved_zero] at hrefer
  · rw [if_neg h]
    exact sim_refuse s s' hrel

lemma sim_readNumberEscape : Sim x x.Alike (readNumberEscape c) (readNumberEscape c) := by
  refine (sim_takeWhile rfl 1).bind_eq fun second => ?_
  rcases second with _ | ⟨d, _ | ⟨e, second⟩⟩
  · exact sim_referByDigits
  · refine sim_if ((sim_takeWhile rfl 1).bind_eq fun third => ?_) sim_referByDigits
    rcases third with _ | ⟨e, _ | ⟨f, third⟩⟩
    · exact sim_referByDigits
    · exact sim_checkOctal.bind_eq fun n => sim_oneCode
    · exact sim_referByDigits
  · exact sim_referByDigits

lemma alike_anchor (a : Anchor) : x.Alike (.anchor a) (.anchor a) := ⟨rfl, fun _ => rfl⟩

lemma sim_readEscape : Sim x x.Alike (readEscape c) (readEscape c) := by
  refine sim_asciiOnly.bind ?_
  rintro ascii _ ⟨rfl, hascii⟩
  refine sim_if (sim_pure (alike_anchor _)) <| sim_if (sim_pure (alike_anchor _)) <|
    sim_if (sim_pure (alike_anchor _)) <| sim_if (sim_pure (alike_anchor _)) ?_
  cases classEscape? c with
  | some found =>
    refine sim_caseRule.bind ?_
    rintro rule _ ⟨rfl, hrule⟩
    refine sim_pure ⟨rfl, fun hx => ?_⟩
    rw [hrule hx, hascii hx]
    simp [isUsual, SetMember.within]
  | none =>
    cases letterEscape? c with
    | some n => exact sim_oneCode
    | none =>
      refine sim_codeEscape?.bind_eq fun code => ?_
      cases code with
      | some n => exact sim_oneCode
      | none =>
        refine sim_if ((sim_takeWhile rfl 2).bind_eq fun digits => sim_oneCode) ?_
        refine sim_if sim_readNumberEscape ?_
        exact sim_plainEscape.bind_eq fun n => sim_oneCode

lemma sim_readMember : Sim x x.AlikeMember (readMember token) (readMember token) := by
  unfold readMember
  split
  · exact sim_readSetEscape
  · exact sim_pure (alikeMember_code _)
  · exact sim_pure (alikeMember_code _)

def Spot.AlikeMembers (x : Spot) (l l' : List SetMember) : Prop :=
  l' = l ∧ (x.usual = true → ∀ m ∈ l, m.within (!x.isText) = m)

lemma Spot.AlikeMembers.cons {m m' : SetMember} {l l' : List SetMember} (h : x.AlikeMember m m')
    (hl : x.AlikeMembers l l') : x.AlikeMembers (m :: l) (m' :: l') :=
  ⟨by rw [h.1, hl.1], fun hx => List.forall_mem_cons.mpr ⟨h.2 hx, hl.2 hx⟩⟩

lemma sim_readMembers {members : List SetMember} (hmembers : x.AlikeMembers members members)
    (h : fuel ≤ fuel') :
    Sim x x.AlikeMembers (readMembers start members fuel) (readMembers start' members fuel') := by
  induction fuel generalizing members fuel' with
  | zero => exact sim_refuseAt
  | succ fuel ih =>
    obtain ⟨fuel', rfl, hle⟩ := exists_fuel h
    refine Sim.take (fun s a t => not_gives_refuseAt) fun token => ?_
    refine sim_if (sim_pure hmembers) <| sim_readMember.bind ?_
    rintro _ first ⟨rfl, hfirst⟩
    have hfirst : x.AlikeMember first first := ⟨rfl, hfirst⟩
    refine (sim_takeIf (.inl (by decide))).bind_eq fun isRange => sim_if ?_ <|
      ih (.cons hfirst hmembers) hle
    refine Sim.take (fun s a t => not_gives_refuseAt) fun token' => ?_
    refine sim_if (sim_pure (.cons (alikeMember_code _) (.cons hfirst hmembers))) ?_
    refine sim_readMember.bind ?_
    rintro _ last ⟨rfl, -⟩
    split
    · refine sim_if sim_refuse <| ih (.cons ⟨rfl, fun _ => rfl⟩ hmembers) hle
    · exact sim_refuse

lemma sim_readSet : Sim x x.Alike readSet readSet := by
  refine sim_place.bind fun _ _ _ => (sim_takeIf (.inl (by decide))).bind_eq fun negated => ?_
  refine fun s s' hrel => .reading ?_
  have hnone : x.AlikeMembers [] [] := ⟨rfl, fun _ => nofun⟩
  refine ((sim_readMembers hnone hrel.length_le).bind ?_) s s' hrel
  rintro _ members ⟨rfl, hmembers⟩
  refine sim_caseRule.bind ?_
  rintro _ rule ⟨rfl, hrule⟩
  have husual : x.usual = true → (members.reverse.eraseDups.map (·.within (!x.isText))) =
      members.reverse.eraseDups := by
    intro hx
    refine (List.map_congr_left fun m hm => ?_).trans (List.map_id _)
    exact hmembers hx m (by simpa using hm)
  split
  · exact sim_pure ⟨rfl, fun hx => by rw [hrule hx]; rfl⟩
  · exact sim_pure ⟨rfl, fun hx => by simpa [isUsual, hrule hx] using husual hx⟩

lemma union_letter_ne_none (hc : (ofLetter? c).isSome) (on : RegexFlags) :
    on.union ((ofLetter? c).getD {}) ≠ {} := by
  intro h
  have hnone := (eq_none_of_union h).2
  unfold ofLetter? at hc hnone
  split_ifs at hc hnone <;> cases hnone
  cases hc

lemma sim_readOn {on : RegexFlags} (hc : (ofLetter? c).isSome) (h : fuel ≤ fuel') :
    Sim x (fun a b => b = a ∧ a.1 ≠ {}) (readOn on c fuel) (readOn on c fuel') := by
  induction fuel generalizing on c fuel' with
  | zero => exact sim_refuse
  | succ fuel ih =>
    obtain ⟨fuel', rfl, hle⟩ := exists_fuel h
    refine fun s s' hrel => .reading ?_
    rw [hrel.isText.1, hrel.isText.2]
    refine (sim_if sim_refuse <| sim_if sim_refuse <| sim_if sim_refuse ?_) s s' hrel
    refine Sim.take (fun s a t => not_gives_refuse) fun token => ?_
    rcases token with _ | ⟨d, _ | ⟨e, token⟩⟩
    · exact sim_refuse
    · exact sim_if (sim_pure ⟨rfl, union_letter_ne_none hc on⟩) <|
        sim_ite .rfl (fun hd => ih hd hle) fun _ => sim_refuse
    · exact sim_refuse

lemma sim_readOff {off : RegexFlags} (h : fuel ≤ fuel') :
    Sim x Eq (readOff off c fuel) (readOff off c fuel') := by
  induction fuel generalizing off c fuel' with
  | zero => exact sim_refuse
  | succ fuel ih =>
    obtain ⟨fuel', rfl, hle⟩ := exists_fuel h
    refine sim_if sim_refuse ?_
    refine Sim.take (fun s a t => not_gives_refuse) fun token => ?_
    rcases token with _ | ⟨d, _ | ⟨e, token⟩⟩
    · exact sim_refuse
    · exact sim_if (sim_pure rfl) <| sim_if (ih hle) sim_refuse
    · exact sim_refuse

lemma sim_readOffAfter : Sim x Eq (readOffAfter c) (readOffAfter c) := by
  refine sim_if (Sim.take (fun s a t => not_gives_refuse) fun token => ?_) <| sim_pure rfl
  rcases token with _ | ⟨d, _ | ⟨e, token⟩⟩
  · exact sim_refuse
  · refine sim_ite .rfl (fun _ s s' hrel => .reading ?_) fun _ => sim_refuse
    exact sim_readOff hrel.length_le s s' hrel
  · exact sim_refuse

/-- No switch is for the whole pattern. -/
lemma sim_switchOn {on : RegexFlags} (h : on ≠ {}) {k : Unit → Read γ} {m' : Read δ} :
    Sim x Q (switchOn on >>= k) m' := by
  intro s s' _ c u hu hgood
  obtain ⟨_, t, ht, hu⟩ := hu.of_bind
  have hwhole := (hu.later.flags hgood.flags).1
  rw [eq_of_gives_change ht] at hwhole
  exact absurd (eq_none_of_union hwhole).2 h

lemma sim_readFlags (hc : (c == '-' || (ofLetter? c).isSome) = true) :
    Sim x (fun a b => b = a ∧ a ≠ none) (readFlags c) (readFlags c) := by
  refine fun s s' hrel => .reading ?_
  have hon : Sim x (fun a b => b = a ∧ (a.2 = ')' → a.1 ≠ {}))
      (if c == '-' then pure ({}, c) else readOn {} c (s.pattern.length + 1))
      (if c == '-' then pure ({}, c) else readOn {} c (s'.pattern.length + 1)) := by
    refine sim_ite .rfl (fun hc => sim_pure ⟨rfl, ?_⟩) fun hminus => ?_
    · rw [beq_iff_eq.mp hc]
      nofun
    · refine (sim_readOn ?_ hrel.length_le).mono fun a b h => ⟨h.1, fun _ => h.2⟩
      simpa [hminus] using hc
  refine (hon.bind ?_) s s' hrel
  rintro _ ⟨on, stop⟩ ⟨rfl, hnone⟩
  refine sim_ite .rfl (fun hstop => sim_switchOn (hnone (beq_iff_eq.mp hstop))) fun _ => ?_
  refine sim_if sim_refuse <| sim_readOffAfter.bind_eq fun off => ?_
  exact sim_if sim_refuse <| sim_if sim_refuse <| sim_pure ⟨rfl, nofun⟩

lemma lookup_map_moved {names : List (Text × Nat)} {d : Nat} {n : Text} :
    (names.map fun m => (m.1, moved d m.2)).lookup n = (names.lookup n).map (moved d) := by
  induction names with
  | nil => rfl
  | cons m names ih =>
    rw [List.map_cons, List.lookup_cons, List.lookup_cons, ih]
    cases n == m.1 <;> rfl

lemma sim_nameGroup {name : Option Text} :
    Sim x (fun _ _ => True) (nameGroup number name) (nameGroup (moved x.shift number) name) := by
  cases name with
  | none => exact sim_pure trivial
  | some n =>
    refine fun s s' hrel => .reading ?_
    cases hlookup : s.names.lookup n with
    | some former => exact sim_refuse s s' hrel
    | none =>
      intro _ t ht hgood
      obtain rfl := eq_of_gives_change ht
      have hnew : x.names.lookup n = none := by
        refine List.lookup_eq_none_iff.mpr fun m hm => ?_
        have hn := hgood.names n (by simp)
        rw [bne_iff_ne]
        rintro rfl
        exact hn (List.mem_map_of_mem hm)
      have hlookup' : s'.names.lookup n = none := by
        rw [hrel.names, List.lookup_append, hnew, lookup_map_moved, hlookup]
        rfl
      rw [hlookup']
      refine ⟨(), _, gives_change, trivial, { hrel with names := ?_ }⟩
      dsimp only
      rw [hrel.names, List.map_append, List.append_assoc]
      rfl

lemma sim_openGroup {name : Option Text} :
    Sim x (fun a b => b = moved x.shift a ∧ a ≠ 0) (openGroup name) (openGroup name) := by
  refine fun s s' hrel => .reading ?_
  obtain ⟨g, hg, hg'⟩ := hrel.groups
  have hlength : s'.groups.length = moved x.shift s.groups.length := by
    rw [hg, hg', Spot.shift, List.length_cons, List.length_cons, List.length_append, moved]
    omega
  have hne : s.groups.length ≠ 0 := by
    rw [hg]
    exact Nat.succ_ne_zero _
  rw [hlength]
  refine (sim_nameGroup.bind fun _ _ _ => ?_) s s' hrel
  refine Sim.bind (P := fun _ _ => True) (fun s s' hrel _ t ht _ => ?_) fun _ _ _ => sim_pure ⟨rfl, hne⟩
  obtain rfl := eq_of_gives_change ht
  obtain ⟨g, hg, hg'⟩ := hrel.groups
  refine ⟨(), _, gives_change, trivial, { hrel with groups := ⟨g ++ [none], ?_, ?_⟩ }⟩
  · rw [hg, List.cons_append]
  · rw [hg', List.cons_append, List.append_assoc]

lemma sim_closeGroup (h : number ≠ 0) {body : Regex} : Sim x (fun _ _ => True) (closeGroup number body)
      (closeGroup (moved x.shift number) (body.renumber x.shift)) := by
  intro s s' hrel _ t ht _
  obtain rfl := eq_of_gives_change ht
  obtain ⟨n, rfl⟩ := Nat.exists_eq_add_one_of_ne_zero h
  obtain ⟨g, hg, hg'⟩ := hrel.groups
  have hwidth : (body.renumber x.shift).width s'.groups = body.width s.groups := by
    rw [hg, hg']
    exact width_renumber x.groups g body
  refine ⟨(), _, gives_change, trivial, { hrel with groups := ⟨g.set n (some (body.width s.groups)), ?_, ?_⟩ }⟩
  · rw [hg, List.set_cons_succ]
  · dsimp only
    rw [hwidth, hg', moved, Nat.add_right_comm, List.set_cons_succ, Spot.shift,
      List.set_append_right _ _ (Nat.le_add_left _ _), Nat.add_sub_cancel]

lemma sim_expectClose : Sim x Eq (expectClose start) (expectClose start') :=
  (sim_takeIf (.inl (by decide))).bind_eq fun _ =>
    sim_if sim_refuseAt <| sim_pure rfl

/-- A name of the pattern stands for a group of the pattern. -/
lemma Spot.Rel.lookup_names (hrel : x.Rel s s') (hgood : x.Good s) {n : Text}
    (h : s.names.lookup n = some number) : s'.names.lookup n = some (Regex.moved x.shift number) := by
  have hmem : n ∈ s.names.map Prod.fst := by
    obtain ⟨l, l', hl, -⟩ := List.lookup_eq_some_iff.mp h
    simp [hl]
  have hnew : x.names.lookup n = none := List.lookup_eq_none_iff.mpr fun m hm => by
    rw [bne_iff_ne]
    rintro rfl
    exact hgood.names _ hmem (List.mem_map_of_mem hm)
  rw [hrel.names, List.lookup_append, hnew, lookup_map_moved, h]
  rfl

lemma sim_readAsked : Sim x (fun a b => b = moved x.shift a) readAsked readAsked := by
  refine sim_takeName.bind_eq fun name => sim_ite .rfl (fun _ s s' hrel => .reading (.of_good fun hgood => ?_))
    fun _ => ?_
  · cases hlookup : s.names.lookup name with
    | none => exact sim_refuse s s' hrel
    | some number =>
      rw [hrel.lookup_names hgood hlookup]
      have hnumber : Sim x (fun a b => b = moved x.shift a) (pure number) (pure (moved x.shift number)) :=
        sim_pure rfl
      exact hnumber s s' hrel
  · split
    · refine sim_if sim_refuse <| sim_if sim_refuse ?_
      refine sim_place.bind fun _ _ _ => sim_ask fun hx => sim_pure ?_
      rw [hx, moved_zero]
    · exact sim_refuse

lemma sim_skipComment (h : fuel ≤ fuel') : Sim x Eq (skipComment start fuel) (skipComment start' fuel') := by
  induction fuel generalizing fuel' with
  | zero => exact sim_refuseAt
  | succ fuel ih =>
    obtain ⟨fuel', rfl, hle⟩ := exists_fuel h
    refine Sim.take (fun s a t => not_gives_refuseAt) fun token => ?_
    exact sim_if (sim_pure rfl) <| ih hle

/-- What the start of a group says after the groups before the pattern. -/
def GroupKind.renumber (d : Nat) : GroupKind → GroupKind
  | .cond number => .cond (moved d number)
  | .reference r => .reference (r.renumber d)
  | kind => kind

/-- What the starts of a group say. No switch is for the whole pattern. -/
structure Spot.AlikeKind (x : Spot) (kind kind' : GroupKind) : Prop where
  eq : kind' = kind.renumber x.shift
  ne : kind ≠ .nothing true
  usual : ∀ r, kind = .reference r → x.usual = true → r.isUsual (!x.isText) = true

lemma sim_referToName {name : Text} : Sim x x.Alike (referToName name) (referToName name) := by
  refine fun s s' hrel => .reading (.of_good fun hgood => ?_)
  cases hlookup : s.names.lookup name with
  | none => exact sim_refuse s s' hrel
  | some number =>
    rw [hrel.lookup_names hgood hlookup]
    exact sim_referTo s s' hrel

lemma sim_readGroupKind : Sim x x.AlikeKind (readGroupKind start) (readGroupKind start') := by
  have hbar : ∀ c, c ≠ '|' → Sim x Eq (takeIf c) (takeIf c) := fun c hc => sim_takeIf (.inl hc)
  refine (hbar '?' (by decide)).bind_eq fun found => sim_if ?_ ?_
  · exact sim_pure ⟨rfl, nofun, nofun⟩
  refine Sim.take (fun s a t => not_gives_refuse) fun token => ?_
  split
  · next heq => cases heq
  · refine (hbar '<' (by decide)).bind_eq fun found => sim_if ?_ ?_
    · exact sim_takeName.bind_eq fun name => sim_checkName.bind_eq fun _ => sim_pure ⟨rfl, nofun, nofun⟩
    · refine (hbar '=' (by decide)).bind_eq fun found => sim_if ?_ ?_
      · refine sim_takeName.bind_eq fun name => sim_checkName.bind_eq fun _ => sim_referToName.bind ?_
        rintro r _ ⟨rfl, husual⟩
        exact sim_pure ⟨rfl, nofun, by rintro _ ⟨⟩; exact husual⟩
      · exact Sim.take (fun s a t => not_gives_refuse) fun token => sim_refuse
  · exact sim_pure ⟨rfl, nofun, nofun⟩
  · refine fun s s' hrel => .reading ?_
    refine ((sim_skipComment hrel.length_le).bind_eq fun _ => ?_) s s' hrel
    exact sim_pure ⟨rfl, nofun, nofun⟩
  · exact sim_pure ⟨rfl, nofun, nofun⟩
  · exact sim_pure ⟨rfl, nofun, nofun⟩
  · refine Sim.take (fun s a t => not_gives_refuse) fun token => ?_
    split
    · next heq => cases heq
    · exact sim_pure ⟨rfl, nofun, nofun⟩
    · exact sim_pure ⟨rfl, nofun, nofun⟩
    · exact sim_refuse
  · refine sim_readAsked.bind ?_
    rintro number _ rfl
    exact sim_checkBehind.bind_eq fun _ => sim_pure ⟨rfl, nofun, nofun⟩
  · exact sim_pure ⟨rfl, nofun, nofun⟩
  · split
    · refine sim_ite .rfl (fun hc => (sim_readFlags hc).bind ?_) fun _ => sim_refuse
      rintro _ flags ⟨rfl, hne⟩
      cases flags with
      | none => exact absurd rfl hne
      | some flags => exact sim_pure ⟨rfl, nofun, nofun⟩
    · exact sim_refuse

lemma sim_fail {f : RegexFault} : Sim x P (fail f) m' := sim_of_not_gives fun _ _ _ => nofun

lemma sim_readCount : Sim x Eq (readCount digits) (readCount digits) :=
  sim_if (sim_pure rfl) <| sim_if sim_fail <| sim_if sim_fail <| sim_pure rfl

lemma sim_scan {read : Text → Option (α × Text)} {h : read [] = none}
    (hread : ∀ u, read (u ++ x.tail) = (read u).map fun r => (r.1, r.2 ++ x.tail)) :
    Sim x Eq (scan read h) (scan read h) := by
  intro s s' hrel found t ht _
  obtain ⟨u, hu, hu'⟩ := hrel.ahead
  rcases of_gives_scan ht with ⟨hnone, rfl, rfl⟩ | ⟨a, text, next, rest, hsome, hnext, rfl, rfl⟩
  · refine ⟨none, s', gives_scan_none ?_, rfl, hrel⟩
    rw [getD_firstToken? hu] at hnone
    rw [getD_firstToken? hu', hread, hnone]
    rfl
  · obtain ⟨next', rest', hnext'⟩ := Spot.exists_firstToken? (x := x) hnext
    have hsome' : read (s'.next.getD [] ++ s'.rest) = some (a, text ++ x.tail) := by
      rw [getD_firstToken? hu] at hsome
      rw [getD_firstToken? hu', hread, hsome]
      rfl
    exact ⟨some a, _, gives_scan hsome' hnext', rfl, hrel.moved hnext hnext'⟩

lemma digits_tail (u : Text) : (u ++ x.tail).takeWhile Char.isDigit = u.takeWhile Char.isDigit ∧
    (u ++ x.tail).dropWhile Char.isDigit = u.dropWhile Char.isDigit ++ x.tail := by
  have htail : x.tail.takeWhile Char.isDigit = [] ∧ x.tail.dropWhile Char.isDigit = x.tail := by
    unfold Spot.tail
    cases x.after <;> exact ⟨rfl, rfl⟩
  induction u with
  | nil => exact htail
  | cons c u ih =>
    rw [List.cons_append, List.takeWhile_cons, List.takeWhile_cons, List.dropWhile_cons, List.dropWhile_cons]
    split
    · exact ⟨congrArg _ ih.1, ih.2⟩
    · exact ⟨rfl, rfl⟩

lemma closed?_tail (bounds : Text × Text) (u : Text) :
    closed? bounds (u ++ x.tail) = (closed? bounds u).map fun r => (r.1, r.2 ++ x.tail) := by
  cases u with
  | nil =>
    unfold Spot.tail
    cases x.after <;> rfl
  | cons c u =>
    by_cases hc : c = '\x7d'
    · subst hc
      rfl
    · simp [closed?, hc]

lemma splitBounds?_tail (u : Text) :
    splitBounds? (u ++ x.tail) = (splitBounds? u).map fun r => (r.1, r.2 ++ x.tail) := by
  unfold splitBounds?
  rw [(digits_tail u).1, (digits_tail u).2]
  cases u.dropWhile Char.isDigit with
  | nil =>
    unfold Spot.tail
    cases x.after <;> rfl
  | cons c v =>
    by_cases hc : c = ','
    · subst hc
      rw [List.cons_append, bounds?, bounds?, (digits_tail v).1, (digits_tail v).2, closed?_tail]
    · rw [List.cons_append, bounds?.eq_2 _ _ (by simpa using hc), bounds?.eq_2 _ _ (by simpa using hc)]
      exact closed?_tail _ (c :: v)

/-- Whether the next token is a given character other than a bar. -/
lemma Spot.Rel.next_eq_iff (hrel : x.Rel s s') (hc : c ≠ '|') : s'.next = some [c] ↔ s.next = some [c] := by
  cases hs : s.next with
  | some token => rw [(hrel.next_some hs).1]
  | none => rcases (hrel.next_none hs).2 with hs' | hs' <;> simp [hs', hc.symm]

lemma sim_readBounds : Sim x Eq (readBounds c) (readBounds c) := by
  refine sim_if (sim_pure rfl) <| sim_if (sim_pure rfl) <|
    sim_if (sim_pure rfl) <| sim_place.bind fun _ _ _ s s' hrel => .reading ?_
  refine (sim_ite ?_ (fun _ => sim_pure rfl) fun _ => ?_) s s' hrel
  · simpa using (hrel.next_eq_iff (by decide)).symm
  · refine (sim_scan splitBounds?_tail).bind_eq fun found => ?_
    rcases found with _ | ⟨low, high⟩
    · exact sim_pure rfl
    · refine sim_readCount.bind_eq fun least => sim_readCount.bind_eq fun most => ?_
      cases most with
      | none => exact sim_pure rfl
      | some m =>
        refine sim_if ?_ <| sim_pure rfl
        exact sim_bind_of_not_gives fun _ _ _ => not_gives_refuseAt

def Spot.AlikeItems (x : Spot) (l l' : List Regex) : Prop :=
  l' = l.map (renumber x.shift) ∧ (x.usual = true → ∀ r ∈ l, r.isUsual (!x.isText) = true)

lemma Spot.alikeItems_nil (x : Spot) : x.AlikeItems [] [] := ⟨rfl, fun _ => nofun⟩

lemma Spot.AlikeItems.cons {r r' : Regex} (h : x.Alike r r') (hl : x.AlikeItems l l') :
    x.AlikeItems (r :: l) (r' :: l') :=
  ⟨by rw [h.1, hl.1]; rfl, fun hx => List.forall_mem_cons.mpr ⟨h.2 hx, hl.2 hx⟩⟩

lemma sim_readChoice : Sim x Eq readChoice readChoice :=
  (sim_takeIf (.inl (by decide))).bind_eq fun _ => sim_if (sim_pure rfl) <|
    (sim_takeIf (.inl (by decide))).bind_eq fun _ => sim_if (sim_pure rfl) <| sim_pure rfl

lemma sim_repeatLast {here here' : Nat} {bounds : Nat × Option Nat} (h : x.AlikeItems l l') :
    Sim x x.AlikeItems (repeatLast here bounds l) (repeatLast here' bounds l') := by
  obtain ⟨rfl, husual⟩ := h
  cases l with
  | nil => exact sim_refuseAt
  | cons r l =>
    refine sim_ite (by rw [isAnchor_renumber]) (fun _ => sim_refuseAt) fun _ =>
      sim_ite (by rw [isLoop_renumber]) (fun _ => sim_refuseAt) fun _ => sim_readChoice.bind_eq fun choice => ?_
    refine sim_pure ⟨rfl, fun hx => List.forall_mem_cons.mpr ⟨rfl, ?_⟩⟩
    exact (List.forall_mem_cons.mp (husual hx)).2

lemma sim_skipLine (hx : x.inner = true) (h : fuel ≤ fuel') : Sim x Eq (skipLine fuel) (skipLine fuel') := by
  induction fuel generalizing fuel' with
  | zero => exact sim_refuse
  | succ fuel ih =>
    obtain ⟨fuel', rfl, hle⟩ := exists_fuel h
    intro s s' hrel
    cases hs : s.next with
    | none => exact simAt_of_atEnd hx (hrel.next_none hs).1
    | some token =>
      refine (simAt_take hrel hs).bind ?_
      rintro a b ⟨rfl, rfl⟩
      exact sim_if (sim_pure rfl) <| ih hle

lemma alikeItems_unpacked (h : x.AlikeItems l l') :
    x.AlikeItems (l.reverse.flatMap unpacked) (l'.reverse.flatMap unpacked) := by
  obtain ⟨rfl, husual⟩ := h
  refine ⟨?_, fun hx r hr => ?_⟩
  · rw [← List.map_reverse, List.flatMap_map, List.map_flatMap]
    simp only [unpacked_renumber]
  · obtain ⟨s, hs, hr⟩ := List.mem_flatMap.mp hr
    exact isUsual_of_mem_unpacked (husual hx s (List.mem_reverse.mp hs)) hr

def Spot.AlikeAll (x : Spot) (all all' : List (List Regex)) : Prop :=
  all' = all.map (List.map (renumber x.shift)) ∧
    (x.usual = true → ∀ l ∈ all, ∀ r ∈ l, r.isUsual (!x.isText) = true)

/-- What each of the readers that call each other reads of a pattern alone is also read of it among others.
In a group that ignores blanks, a comment at the end hides the bar after the pattern. -/
structure SimReaders (fuel : Nat) : Prop where
  alternatives : ∀ {x : Spot} {verbose : Bool} {fuel' : Nat}, fuel ≤ fuel' → x.inner = true →
    Sim x x.Alike (readAlternatives verbose false fuel) (readAlternatives verbose false fuel')
  further : ∀ {x : Spot} {verbose : Bool} {fuel' : Nat}, fuel ≤ fuel' → x.inner = true →
    Sim x x.AlikeAll (readFurther verbose false fuel) (readFurther verbose false fuel')
  sequence : ∀ {x : Spot} {verbose first first' : Bool} {l l' : List Regex} {fuel' : Nat}, fuel ≤ fuel' →
    (verbose = true → x.inner = true) → x.AlikeItems l l' →
    Sim x x.AlikeItems (readSequence verbose first l fuel) (readSequence verbose first' l' fuel')
  group : ∀ {x : Spot} {verbose : Bool} {start start' : Nat} {kind kind' : GroupKind} {fuel' : Nat},
    fuel ≤ fuel' → x.AlikeKind kind kind' →
    Sim x x.Alike (readGroup verbose start kind fuel) (readGroup verbose start' kind' fuel')

lemma simReaders_alternatives (ih : SimReaders fuel) (h : fuel ≤ fuel') (hx : x.inner = true) :
    Sim x x.Alike (readAlternatives verbose false (fuel + 1)) (readAlternatives verbose false (fuel' + 1)) := by
  rw [readAlternatives, readAlternatives]
  refine (ih.sequence h (fun _ => hx) x.alikeItems_nil).bind ?_
  rintro first _ ⟨rfl, hfirst⟩
  refine (ih.further h hx).bind ?_
  rintro others _ ⟨rfl, hothers⟩
  exact sim_pure ⟨(renumber_ofAlternatives first others).symm,
    fun hx => isUsual_ofAlternatives (List.forall_mem_cons.mpr ⟨hfirst hx, hothers hx⟩)⟩

lemma simReaders_further (ih : SimReaders fuel) (h : fuel ≤ fuel') (hx : x.inner = true) :
    Sim x x.AlikeAll (readFurther verbose false (fuel + 1)) (readFurther verbose false (fuel' + 1)) := by
  rw [readFurther, readFurther]
  refine (sim_takeIf (.inr hx)).bind_eq fun _ => sim_ite .rfl (fun _ s s' hrel => .reading ?_) fun _ =>
    sim_pure ⟨rfl, fun _ => nofun⟩
  refine ((ih.sequence h (fun _ => hx) x.alikeItems_nil).bind ?_) s s' hrel
  rintro l _ ⟨rfl, hl⟩
  refine (ih.further h hx).bind ?_
  rintro all _ ⟨rfl, hall⟩
  exact sim_pure ⟨rfl, fun hx => List.forall_mem_cons.mpr ⟨hl hx, hall hx⟩⟩

lemma simReaders_sequence (ih : SimReaders fuel) {verbose first first' : Bool} (h : fuel ≤ fuel')
    (hverbose : verbose = true → x.inner = true) (hl : x.AlikeItems l l') :
    Sim x x.AlikeItems (readSequence verbose first l (fuel + 1)) (readSequence verbose first' l' (fuel' + 1)) := by
  have hnext : ∀ {r r'}, x.Alike r r' → Sim x x.AlikeItems (readSequence verbose first (r :: l) fuel)
      (readSequence verbose first' (r' :: l') fuel') := fun hr => ih.sequence h hverbose (.cons hr hl)
  have hsame : Sim x x.AlikeItems (readSequence verbose first l fuel) (readSequence verbose first' l' fuel') :=
    ih.sequence h hverbose hl
  have hcode : ∀ n, Sim x x.AlikeItems (do readSequence verbose first (.code (← caseRule) n :: l) fuel)
      (do readSequence verbose first' (.code (← caseRule) n :: l') fuel') := by
    refine fun n => sim_caseRule.bind ?_
    rintro _ rule ⟨rfl, hrule⟩
    exact hnext ⟨rfl, fun hx => by rw [hrule hx]; rfl⟩
  rw [readSequence, readSequence]
  unfold readItem
  refine fun s s' hrel => .reading ?_
  cases hs : s.next with
  | none =>
    have hend := sim_pure (alikeItems_unpacked hl) s s' hrel
    rcases (hrel.next_none hs).2 with hs' | hs' <;> rw [hs'] <;> exact hend
  | some token =>
    rw [(hrel.next_some hs).1]
    dsimp only
    by_cases hstop : (token == ['|'] || token == [')']) = true
    · rw [if_pos hstop, if_pos hstop]
      exact sim_pure (alikeItems_unpacked hl) s s' hrel
    rw [if_neg hstop, if_neg hstop]
    refine (simAt_advance hrel (by simp [hs])).bind fun _ _ _ => ?_
    rcases token with _ | ⟨c, _ | ⟨d, _ | ⟨e, token⟩⟩⟩
    · exact hsame
    · refine sim_if hsame <| sim_ite .rfl (fun hc => ?_) fun _ =>
        sim_if (sim_readSet.bind fun r r' hr => hnext hr) <|
        sim_ite .rfl (fun _ s s' hrel => .reading ?_) fun _ =>
        sim_ite .rfl (fun _ s s' hrel => .reading ?_) fun _ =>
        sim_ite .rfl (fun _ s s' hrel => .reading ?_) fun _ =>
        sim_if (sim_place.bind fun _ _ _ => sim_readBounds.bind_eq fun bounds => ?_) <|
        sim_if (sim_place.bind fun _ _ _ => sim_readGroupKind.bind ?_) <| hcode _
      · have hx := hverbose (Bool.and_eq_true_iff.mp hc).1
        exact (sim_skipLine hx h).bind_eq fun _ => hsame
      · exact hnext ⟨by rw [hrel.flags]; rfl, fun _ => rfl⟩ s s' hrel
      · exact hnext ⟨by rw [hrel.flags]; rfl, fun _ => rfl⟩ s s' hrel
      · exact hnext ⟨by rw [hrel.flags]; rfl, fun _ => rfl⟩ s s' hrel
      · cases bounds with
        | none => exact hcode _
        | some bounds => exact (sim_repeatLast hl).bind fun _ _ hl => ih.sequence h hverbose hl
      · intro kind kind' hkind
        obtain ⟨rfl, hne, husual⟩ := id hkind
        cases kind with
        | nothing flags =>
          cases flags with
          | true => exact absurd rfl hne
          | false => exact fun s s' hrel => .reading (hsame s s' hrel)
        | reference item => exact hnext ⟨rfl, husual item rfl⟩
        | _ => exact (ih.group h hkind).bind fun r r' hr => hnext hr
    · exact sim_readEscape.bind fun r r' hr => hnext hr
    · exact hsame

def Spot.within (x : Spot) (usual : Bool) : Spot := { x with inner := true, usual := usual }

lemma Spot.Rel.within (hrel : x.Rel s s') (h : usual = true → x.usual = true) : (x.within usual).Rel s s' :=
  ⟨hrel.isText, hrel.pattern, hrel.ahead, hrel.whole, hrel.flags, hrel.usual ∘ h, hrel.groups, hrel.names,
    hrel.behindLimit, hrel.asked⟩

/-- What is read in a group of the pattern is followed by the end of the group. -/
lemma SimAt.bind_within {k : α → Read γ} {k' : β → Read δ} (hrel : x.Rel s s')
    (hm : SimAt (x.within usual) s s' P m m') (hk : ∀ a b, P a b → Sim x Q (k a) (k' b))
    (hclose : ∀ a t c u, Gives (k a) t c u → ¬t.AtEnd) : SimAt x s s' Q (m >>= k) (m' >>= k') := by
  intro c u hu hgood
  obtain ⟨a, t, ht, hu⟩ := hu.of_bind
  have hgood' := hgood.of_later hu.later
  have hwithin : (x.within usual).Good t :=
    ⟨hgood'.flags, hgood'.names, hgood'.asked, fun _ => hclose a t c u hu⟩
  obtain ⟨b, t', ht', hab, h⟩ := hm a t ht hwithin
  have hflags := (ht.later.flags hgood'.flags).2
  have hrel' : x.Rel t t' := ⟨h.isText, h.pattern, h.ahead, h.whole, h.flags,
    fun hx => hflags.trans (hrel.usual hx), h.groups, h.names, h.behindLimit, h.asked⟩
  obtain ⟨d, u', hu', hcd, hrel⟩ := hk a b hab t t' hrel' c u hu hgood
  exact ⟨d, u', ht'.bind hu', hcd, hrel⟩

lemma not_atEnd_of_expectClose {k : Unit → Read γ} {c : γ} {t u : Reading}
    (h : Gives (expectClose start >>= k) t c u) : ¬t.AtEnd := by
  rintro ⟨hnext, -⟩
  obtain ⟨_, t₁, h, -⟩ := h.of_bind
  obtain ⟨found, t₂, hfound, h⟩ := h.of_bind
  rw [(of_gives_takeIf hfound).1, hnext] at h
  exact not_gives_refuseAt h

/-- Other switches and another limit are in force in a group only. -/
lemma simAt_within (hrel : x.Rel s s') (h : usual = true → flags = {}) (hm : Sim (x.within usual) P m m') :
    SimAt (x.within false) s s' P (within flags limit m) (within flags (limit.map (· + x.shift)) m') := by
  intro a u hu hgood
  obtain ⟨t, ht, rfl⟩ := of_gives_within hu
  have hrel' : (x.within usual).Rel { s with flags, behindLimit := limit }
      { s' with flags, behindLimit := limit.map (· + x.shift) } :=
    ⟨hrel.isText, hrel.pattern, hrel.ahead, hrel.whole, rfl, h, hrel.groups, hrel.names, rfl, hrel.asked⟩
  obtain ⟨b, t', ht', hab, hr⟩ := hm _ _ hrel' a t ht ⟨hgood.flags, hgood.names, hgood.asked, hgood.inner⟩
  refine ⟨b, _, gives_within ht', hab, hr.isText, hr.pattern, hr.ahead, hr.whole, ?_, nofun, hr.groups,
    hr.names, ?_, hr.asked⟩
  · exact hrel.flags
  · exact hrel.behindLimit

/-- Alternatives up to the end of a group. -/
lemma simReaders_body (ih : SimReaders fuel) (h : fuel ≤ fuel') {k k' : Regex → Read Regex}
    (hk : ∀ r, Sim x x.Alike (k r) (k' (r.renumber x.shift))) :
    Sim x x.Alike (readAlternatives verbose false fuel >>= fun r => expectClose start >>= fun _ => k r)
      (readAlternatives verbose false fuel' >>= fun r => expectClose start' >>= fun _ => k' r) := by
  intro s s' hrel
  refine .bind_within hrel (ih.alternatives (x := x.within false) h rfl s s' (hrel.within nofun)) ?_
    fun _ _ _ _ => not_atEnd_of_expectClose
  rintro r _ ⟨rfl, -⟩
  exact sim_expectClose.bind_eq fun _ => hk r

lemma sim_readElse {m m' : Read (List Regex)} (hx : x.inner = true) (h : Sim x x.AlikeItems m m') :
    Sim x x.AlikeItems (readElse m) (readElse m') := by
  refine (sim_takeIf (.inr hx)).bind_eq fun _ => sim_if (h.bind fun l l' hl => ?_) <|
    sim_pure x.alikeItems_nil
  refine fun s s' hrel => .reading ?_
  cases hs : s.next with
  | none => exact simAt_of_atEnd hx (hrel.next_none hs).1
  | some token =>
    rw [(hrel.next_some hs).1]
    exact sim_ite .rfl (fun _ => sim_refuse) (fun _ => sim_pure hl) s s' hrel

lemma simReaders_group (ih : SimReaders fuel)
    {kind kind' : GroupKind} (h : fuel ≤ fuel') (hkind : x.AlikeKind kind kind') :
    Sim x x.Alike (readGroup verbose start kind (fuel + 1)) (readGroup verbose start' kind' (fuel' + 1)) := by
  obtain ⟨rfl, -, husual⟩ := hkind
  unfold readGroup
  cases kind with
  | plain name =>
    refine sim_openGroup.bind ?_
    rintro number _ ⟨rfl, hne⟩
    refine simReaders_body ih h fun r => (sim_closeGroup hne).bind fun _ _ _ => ?_
    exact sim_pure ⟨rfl, fun _ => rfl⟩
  | switched on off =>
    refine fun s s' hrel => .reading ?_
    rw [hrel.flags, hrel.behindLimit]
    have hflags : (x.usual && (on == {} && off == {})) = true → s.flags.within on off = {} := by
      intro hx
      simp only [Bool.and_eq_true, beq_iff_eq] at hx
      rw [hrel.usual hx.1, hx.2.1, hx.2.2]
      rfl
    refine .bind_within hrel (simAt_within hrel hflags (ih.alternatives h rfl)) ?_
      fun _ _ _ _ => not_atEnd_of_expectClose
    rintro r _ ⟨rfl, hr⟩
    refine sim_expectClose.bind_eq fun _ => sim_pure ?_
    split
    · next hnone => exact ⟨rfl, fun hx => hr (by rw [Spot.within, hx, hnone]; rfl)⟩
    · exact ⟨rfl, fun _ => rfl⟩
  | atomic => exact simReaders_body ih h fun r => sim_pure ⟨rfl, fun _ => rfl⟩
  | ahead negated => exact simReaders_body ih h fun r => sim_pure ⟨rfl, fun _ => rfl⟩
  | behind negated =>
    refine fun s s' hrel => .reading ?_
    obtain ⟨g, hg, hg'⟩ := hrel.groups
    have hlimit : some (s'.behindLimit.getD s'.groups.length) =
        (some (s.behindLimit.getD s.groups.length)).map (· + x.shift) := by
      rw [hrel.behindLimit, hg, hg', Spot.shift]
      cases s.behindLimit with
      | none => simp; omega
      | some limit => rfl
    rw [hrel.flags, hlimit]
    have hbody : Sim (x.within false) (x.within false).Alike (readAlternatives verbose false fuel)
        (readAlternatives verbose false fuel') := ih.alternatives h rfl
    refine .bind_within hrel (simAt_within hrel (by nofun) hbody) ?_
      fun _ _ _ _ => not_atEnd_of_expectClose
    rintro r _ ⟨rfl, -⟩
    refine sim_expectClose.bind_eq fun _ s s' hrel => .reading (sim_pure ⟨?_, fun _ => rfl⟩ s s' hrel)
    obtain ⟨g, hg, hg'⟩ := hrel.groups
    rw [hg, hg']
    exact congrArg (fun w => behind negated w.1 w.2 (r.renumber x.shift)) (width_renumber x.groups g r)
  | cond number =>
    have hbranch : Sim (x.within false) (x.within false).AlikeItems (readSequence verbose false [] fuel)
        (readSequence verbose false [] fuel') := ih.sequence h (fun _ => rfl) (x.within false).alikeItems_nil
    intro s s' hrel
    refine .bind_within hrel (hbranch s s' (hrel.within nofun)) ?_ ?_
    · rintro yes _ ⟨rfl, -⟩ s s' hrel
      refine .bind_within hrel (sim_readElse rfl hbranch s s' (hrel.within nofun)) ?_
        fun _ _ _ _ => not_atEnd_of_expectClose
      rintro no _ ⟨rfl, -⟩
      refine sim_expectClose.bind_eq fun _ => sim_pure ⟨?_, fun _ => rfl⟩
      rw [renumber, renumber_ofList, renumber_ofList]
      rfl
    · intro yes t c u hu hend
      obtain ⟨no, t₁, ht, hu⟩ := hu.of_bind
      exact not_atEnd_of_expectClose hu (ht.later.atEnd hend)
  | nothing flags => exact sim_pure ⟨rfl, fun _ => rfl⟩
  | reference item => exact sim_pure ⟨rfl, husual item rfl⟩

lemma simReaders (fuel : Nat) : SimReaders fuel := by
  induction fuel with
  | zero =>
    refine ⟨fun _ _ => ?_, fun _ _ => ?_, fun _ _ _ => ?_, fun _ _ => ?_⟩
    · rw [readAlternatives]; exact sim_refuse
    · rw [readFurther]; exact sim_refuse
    · rw [readSequence]; exact sim_refuse
    · unfold readGroup; exact sim_refuse
  | succ fuel ih =>
    refine ⟨fun h hx => ?_, fun h hx => ?_, fun h hverbose hl => ?_, fun h hkind => ?_⟩ <;>
      obtain ⟨n, rfl, hn⟩ := exists_fuel h
    · exact simReaders_alternatives ih hn hx
    · exact simReaders_further ih hn hx
    · exact simReaders_sequence ih hn hverbose hl
    · exact simReaders_group ih hn hkind

end

end SourceTidy.Regex
