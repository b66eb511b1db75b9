import Mathlib.Data.List.Infix
import Mathlib.Data.List.TakeWhile
import SourceTidy.Notice.Update
import SourceTidy.Proofs.Utf8

/-!
# Readers of notices

A notice is found by readers that pass some characters at the start of a text. A map of texts that
leaves those characters alone commutes with every such reader. The encoding as bytes is such a map, so
among the bytes of a text the notices with ASCII digits are found.
-/

namespace SourceTidy.Notice

open Text

open Text (isBlank isDecimal)

variable {c : Char} {r y : Text}

variable {g : Text → Text} {accepts p : Char → Bool} {year s rest : Text} {d : Dated}

/-- A reader that reads the same from a text before and after a map. -/
def Reads (g : Text → Text) (take : Text → Option Text) : Prop :=
  ∀ s, take s = none ∧ take (g s) = none ∨
    ∃ x r, s = x ++ r ∧ g s = x ++ g r ∧ take s = some r ∧ take (g s) = some (g r)

namespace Reads

variable {take next : Text → Option Text}

lemma map (h : Reads g take) (s : Text) : take (g s) = (take s).map g := by
  rcases h s with ⟨hs, hg⟩ | ⟨x, r, -, -, hs, hg⟩
  · rw [hs, hg, Option.map_none]
  · rw [hs, hg, Option.map_some]

lemma bind (h : Reads g take) (hnext : Reads g next) : Reads g fun s => (take s).bind next := by
  intro s
  rcases h s with ⟨hs, hg⟩ | ⟨x, r, hx, hgx, hs, hg⟩
  · left
    simp only [hs, hg, Option.bind_none, and_self]
  simp only [hs, hg, Option.bind_some]
  rcases hnext r with hnone | ⟨y, r', hy, hgy, hr, hgr⟩
  · exact .inl hnone
  · exact .inr ⟨x ++ y, r', by rw [hx, hy, List.append_assoc], by rw [hgx, hgy, List.append_assoc],
      hr, hgr⟩

lemma maybe (h : Reads g take) : Reads g fun s => some ((take s).getD s) := by
  intro s
  right
  rcases h s with ⟨hs, hg⟩ | ⟨x, r, hx, hgx, hs, hg⟩
  · exact ⟨[], s, rfl, rfl, by simp [hs], by simp [hg]⟩
  · exact ⟨x, r, hx, hgx, by simp [hs], by simp [hg]⟩

lemma elim {other : Text → Option Text} (h : Reads g take) (hnext : Reads g next)
    (hother : Reads g other) : Reads g fun s => (take s).elim (other s) next := by
  intro s
  rcases h s with ⟨hs, hg⟩ | ⟨x, r, -, -, hs, hg⟩
  · simpa only [hs, hg, Option.elim_none] using hother s
  · simpa only [hs, hg, Option.elim_some, Option.bind_some] using (h.bind hnext) s

lemma before_map (h : Reads g take) (hr : take s = some r) : before (g s) (g r) = before s r := by
  rcases h s with ⟨hs, -⟩ | ⟨x, r', rfl, hgx, hs, -⟩
  · rw [hs] at hr
    cases hr
  · obtain rfl : r' = r := Option.some.inj (hs.symm.trans hr)
    simp [before, hgx]

lemma exists_of_eq_some (h : Reads g take) (hr : take s = some r) : ∃ x, s = x ++ r ∧ g s = x ++ g r := by
  rcases h s with ⟨hs, -⟩ | ⟨x, r', hx, hgx, hs, -⟩
  · rw [hs] at hr
    cases hr
  · obtain rfl : r' = r := Option.some.inj (hs.symm.trans hr)
    exact ⟨x, hx, hgx⟩

end Reads

/-- A map of texts that leaves accepted characters at the start of a text alone and puts none there. -/
structure Passes (accepts : Char → Bool) (g : Text → Text) : Prop where
  cons : ∀ {c s}, accepts c → g (c :: s) = c :: g s
  eq_cons : ∀ {c s r}, accepts c → g s = c :: r → ∃ s', s = c :: s'

namespace Passes

variable (h : Passes accepts g)

include h

lemma append {x : Text} (hx : ∀ c ∈ x, accepts c) (s : Text) : g (x ++ s) = x ++ g s := by
  induction x with
  | nil => rfl
  | cons c x ih =>
    rw [List.forall_mem_cons] at hx
    rw [List.cons_append, h.cons hx.1, ih hx.2, List.cons_append]

lemma eq_append {x r : Text} (hx : ∀ c ∈ x, accepts c) (hg : g s = x ++ r) :
    ∃ s', s = x ++ s' ∧ r = g s' := by
  induction x generalizing s with
  | nil => exact ⟨s, rfl, hg.symm⟩
  | cons c x ih =>
    rw [List.forall_mem_cons] at hx
    obtain ⟨s', rfl⟩ := h.eq_cons hx.1 hg
    rw [h.cons hx.1, List.cons_append, List.cons.injEq] at hg
    obtain ⟨s'', rfl, rfl⟩ := ih hx.2 hg.2
    exact ⟨s'', rfl, rfl⟩

/-- A reader that passes accepted characters which it fixes alone. -/
lemma reads_of_iff {take : Text → Option Text} (passed : Text → Prop)
    (htake : ∀ s r, take s = some r ↔ ∃ x, passed x ∧ s = x ++ r)
    (hpassed : ∀ x, passed x → ∀ c ∈ x, accepts c) : Reads g take := by
  intro s
  rcases hs : take s with _ | r
  · refine .inl ⟨rfl, Option.eq_none_iff_forall_ne_some.mpr fun r hr => ?_⟩
    obtain ⟨x, hx, hg⟩ := (htake _ _).mp hr
    obtain ⟨s', hs', -⟩ := h.eq_append (hpassed x hx) hg
    rw [(htake s s').mpr ⟨x, hx, hs'⟩] at hs
    cases hs
  · obtain ⟨x, hx, rfl⟩ := (htake _ _).mp hs
    have hg := h.append (hpassed x hx) r
    exact .inr ⟨x, r, rfl, hg, rfl, (htake _ _).mpr ⟨x, hx, hg⟩⟩

lemma dropWhile {test : Char → Bool} (htest : ∀ c, test c → accepts c) :
    Reads g fun s => some (s.dropWhile test) := by
  intro s
  have hdropped : ∀ c ∈ s.takeWhile test, accepts c :=
    fun c hc => htest c (List.mem_takeWhile_imp hc)
  have hg : g s = s.takeWhile test ++ g (s.dropWhile test) := by
    rw [← h.append hdropped, List.takeWhile_append_dropWhile]
  have hleft : (g (s.dropWhile test)).dropWhile test = g (s.dropWhile test) := by
    rcases hc : g (s.dropWhile test) with _ | ⟨c, r⟩
    · rfl
    · refine List.dropWhile_cons_of_neg fun htrue => ?_
      obtain ⟨s', hs'⟩ := h.eq_cons (htest c htrue) hc
      have hfirst := List.head?_dropWhile_not test s
      rw [hs', List.head?_cons] at hfirst
      simp [htrue] at hfirst
  have hboth : (g s).dropWhile test = g (s.dropWhile test) := by
    rw [hg, List.dropWhile_append_of_pos fun c hc => List.mem_takeWhile_imp hc, hleft]
  exact .inr ⟨_, _, (List.takeWhile_append_dropWhile).symm, hg, rfl, congrArg some hboth⟩

end Passes

lemma takeChar?_eq_some_iff {test : Char → Bool} : takeChar? test s = some r ↔ ∃ c, test c ∧ s = c :: r := by
  cases s with
  | nil => simp [takeChar?]
  | cons c s =>
    rw [takeChar?]
    split <;> simp_all

lemma after?_eq_some_iff {x r : Text} : after? x s = some r ↔ s = x ++ r := by
  induction x generalizing s with
  | nil => simp [after?, eq_comm]
  | cons c x ih =>
    cases s with
    | nil => simp [after?]
    | cons c' s =>
      rw [after?]
      split
      · next hc => simp_all
      · next hc =>
        simp only [reduceCtorEq, List.cons_append, List.cons.injEq, false_iff, not_and]
        intro heq
        simp [heq] at hc

lemma takeYear?_eq_some_iff : takeYear? p s = some (y, r) ↔ s = y ++ r ∧ y.length = 4 ∧ ∀ c ∈ y, p c := by
  unfold takeYear?
  constructor
  · intro h
    split at h
    · next hcond =>
      cases h
      simp only [Bool.and_eq_true, beq_iff_eq, List.all_eq_true] at hcond
      exact ⟨(List.take_append_drop 4 s).symm, hcond⟩
    · cases h
  · rintro ⟨rfl, hlen, hall⟩
    have htake : (y ++ r).take 4 = y := by rw [← hlen, List.take_left]
    have hdrop : (y ++ r).drop 4 = r := by rw [← hlen, List.drop_left]
    rw [htake, hdrop, if_pos]
    simpa [hlen] using hall

namespace Passes

variable (h : Passes accepts g)

include h

lemma takeChar? {test : Char → Bool} (htest : ∀ c, test c → accepts c) : Reads g (Notice.takeChar? test) := by
  refine h.reads_of_iff (fun x => ∃ c, test c ∧ x = [c]) (fun s r => ?_) ?_
  · rw [takeChar?_eq_some_iff]
    simp
  · rintro - ⟨c, hc, rfl⟩
    simpa using htest c hc

lemma after? {x : Text} (hx : ∀ c ∈ x, accepts c) : Reads g (after? x) :=
  h.reads_of_iff (· = x) (fun s r => by simp [after?_eq_some_iff]) (by simpa using hx)

lemma afterYear? (hp : ∀ c, p c → accepts c) : Reads g fun s => (Notice.takeYear? p s).map (·.2) := by
  refine h.reads_of_iff (fun y => y.length = 4 ∧ ∀ c ∈ y, p c) (fun s r => ?_)
    fun y hy c hc => hp c (hy.2 c hc)
  simp only [Option.map_eq_some_iff, Prod.exists, takeYear?_eq_some_iff]
  constructor
  · rintro ⟨y, r, ⟨hs, hy⟩, rfl⟩
    exact ⟨y, hy, hs⟩
  · rintro ⟨y, hy, hs⟩
    exact ⟨y, r, ⟨hs, hy⟩, rfl⟩

lemma takeYear? (hp : ∀ c, p c → accepts c) (s : Text) :
    Notice.takeYear? p (g s) = (Notice.takeYear? p s).map fun q => (q.1, g q.2) := by
  rcases hs : Notice.takeYear? p s with _ | ⟨y, r⟩
  · have hnone := (h.afterYear? hp).map s
    rw [hs, Option.map_none, Option.map_none, Option.map_eq_none_iff] at hnone
    rw [hnone, Option.map_none]
  · obtain ⟨rfl, hy⟩ := takeYear?_eq_some_iff.mp hs
    exact takeYear?_eq_some_iff.mpr ⟨h.append (fun c hc => hp c (hy.2 c hc)) r, hy⟩

lemma isPrefixOf {x : Text} (hx : ∀ c ∈ x, accepts c) (s : Text) : x.isPrefixOf (g s) = x.isPrefixOf s := by
  rw [Bool.eq_iff_iff, List.isPrefixOf_iff_prefix, List.isPrefixOf_iff_prefix]
  constructor
  · rintro ⟨r, hr⟩
    obtain ⟨s', rfl, -⟩ := h.eq_append hx hr.symm
    exact ⟨s', rfl⟩
  · rintro ⟨r, rfl⟩
    exact ⟨g r, (h.append hx r).symm⟩

end Passes

/-- The characters of a notice other than its initials and its digits. -/
def signs : Text := "opyright \t():,-".toList

/-- A map of texts that leaves the parts of notices alone. An initial may be changed together with
what follows it, but not in brackets. -/
structure Transparent (accepts : Char → Bool) (g : Text → Text) : Prop extends Passes accepts g where
  signs : ∀ c ∈ signs, accepts c
  letter : Reads g fun s => (takeChar? isInitial s).bind (takeChar? (· == ')'))

/-- The rest of a text after the mark, whose initial has been passed. -/
def takeMarkRest? (s : Text) : Option Text :=
  (after? "opyright".toList s).bind fun s => some ((takeLetter? s).getD s)

/-- The rest of a text after the mark and a colon, if there is one. -/
def takeMarked? (s : Text) : Option Text := (takeMarkRest? s).bind fun s => some (skipColon s)

def takeFurther? (s : Text) : Option Text :=
  (takeChar? (· == ',') s).bind fun s => (takeYear? isDecimal s).map (·.2)

/-- The first year of a notice that does not start with the current one, and the rest after all its
years. -/
def takeYears? (year s : Text) : Option (Text × Text) :=
  (takeBlanks? s).bind fun s => if year.isPrefixOf s then none else
    (takeYear? isDecimal s).map fun q => (q.1, skipFurther q.2)

def takeDatedRest? (year s : Text) : Option (Dated × Text) :=
  (takeMarked? s).bind fun marked => (takeYears? year marked).map fun q =>
    ({ mark := before s marked, firstYear := q.1 }, q.2)

lemma takeMark?_cons (c : Char) (s : Text) :
    takeMark? (c :: s) = if isInitial c then takeMarkRest? s else none := by
  simp only [takeMark?, takeWord?, takeChar?]
  split <;> rfl

lemma takeBlanks?_eq (s : Text) : takeBlanks? s =
    (takeChar? isBlank s).bind fun s => some (s.dropWhile isBlank) := by
  cases s with
  | nil => rfl
  | cons c s =>
    simp only [takeBlanks?, takeChar?]
    split <;> rfl

lemma skipYears_succ (n : Nat) (s : Text) :
    skipYears (n + 1) s = ((takeFurther? s).map (skipYears n)).getD s := by
  unfold skipYears takeFurther?
  cases takeChar? (· == ',') s with
  | none => rfl
  | some s' =>
    simp only [Option.bind_some]
    cases takeYear? isDecimal s' <;> rfl

lemma takeFurther?_length (h : takeFurther? s = some r) : r.length < s.length := by
  obtain ⟨s', hs', hr⟩ := Option.bind_eq_some_iff.mp h
  obtain ⟨c, -, rfl⟩ := takeChar?_eq_some_iff.mp hs'
  obtain ⟨⟨y, r'⟩, hy, rfl⟩ := Option.map_eq_some_iff.mp hr
  obtain ⟨rfl, hlen, -⟩ := takeYear?_eq_some_iff.mp hy
  simp only [List.length_cons, List.length_append]
  omega

lemma skipYears_eq_skipYears {n m : Nat} (hn : s.length ≤ n) (hm : s.length ≤ m) :
    skipYears n s = skipYears m s := by
  induction n generalizing m s with
  | zero =>
    obtain rfl : s = [] := List.length_eq_zero_iff.mp (Nat.le_zero.mp hn)
    cases m <;> rfl
  | succ n ih =>
    cases m with
    | zero =>
      obtain rfl : s = [] := List.length_eq_zero_iff.mp (Nat.le_zero.mp hm)
      rfl
    | succ m =>
      rw [skipYears_succ, skipYears_succ]
      rcases hr : takeFurther? s with _ | r
      · rfl
      · have hlt := takeFurther?_length hr
        rw [Option.map_some, Option.map_some, ih (m := m) (by omega) (by omega)]

lemma skipYears_length (s : Text) : some (skipYears s.length s) =
    (takeFurther? s).elim (some s) fun r => some (skipYears r.length r) := by
  rw [skipYears_eq_skipYears (Nat.le_refl _) (Nat.le_succ _), skipYears_succ]
  rcases hr : takeFurther? s with _ | r
  · rfl
  · have hlt := takeFurther?_length hr
    rw [Option.map_some, Option.getD_some, Option.elim_some,
      skipYears_eq_skipYears hlt.le (Nat.le_refl _)]

lemma skipFurther_eq (s : Text) : some (skipFurther s) = (takeChar? (· == '-') s).elim
    ((some (skipYears s.length s)).bind fun s => some ((takeChar? (· == ',') s).getD s))
    (fun s => some (((takeYear? isDecimal s).map (·.2)).getD s)) := by
  unfold skipFurther
  cases takeChar? (· == '-') s <;> rfl

namespace Transparent

variable (h : Transparent accepts g)

include h

lemma takeSign? (hc : c ∈ Notice.signs) : Reads g (takeChar? (· == c)) :=
  h.toPasses.takeChar? fun c' hc' => by
    rw [eq_of_beq hc']
    exact h.signs c hc

lemma takeBlanks? : Reads g Notice.takeBlanks? := by
  have hblank : ∀ c, isBlank c → accepts c := by
    intro c hc
    refine h.signs c ?_
    simp only [isBlank, Bool.or_eq_true, beq_iff_eq] at hc
    rcases hc with rfl | rfl <;> decide
  rw [funext takeBlanks?_eq]
  exact (h.toPasses.takeChar? hblank).bind (h.toPasses.dropWhile hblank)

lemma takeLetter? : Reads g Notice.takeLetter? :=
  h.takeBlanks?.bind ((h.takeSign? (by decide)).bind h.letter)

lemma takeMarkRest? : Reads g Notice.takeMarkRest? :=
  (h.toPasses.after? fun c hc => h.signs c (List.mem_append_left _ hc)).bind h.takeLetter?.maybe

lemma takeMarked? : Reads g Notice.takeMarked? :=
  h.takeMarkRest?.bind (h.takeSign? (by decide)).maybe

section

variable (hdigit : ∀ c, isDecimal c → accepts c)

include hdigit

lemma skipYears : Reads g fun s => some (Notice.skipYears s.length s) := by
  have hfurther : Reads g takeFurther? :=
    (h.takeSign? (by decide)).bind (h.toPasses.afterYear? hdigit)
  intro s
  induction hlen : s.length using Nat.strong_induction_on generalizing s with
  | _ n ih =>
    have hstep := skipYears_length s
    have hgstep := skipYears_length (g s)
    rcases hfurther s with ⟨hs, hg⟩ | ⟨x, r, hx, hgx, hs, hg⟩
    · rw [hs] at hstep
      rw [hg] at hgstep
      exact .inr ⟨[], s, rfl, rfl, hstep, hgstep⟩
    · rw [hs] at hstep
      rw [hg] at hgstep
      rcases ih r.length (hlen ▸ takeFurther?_length hs) r rfl with
        ⟨hnone, -⟩ | ⟨y, r', hy, hgy, hr, hgr⟩
      · cases hnone
      · exact .inr ⟨x ++ y, r', by rw [hx, hy, List.append_assoc],
          by rw [hgx, hgy, List.append_assoc], hstep.trans hr, hgstep.trans hgr⟩

lemma skipFurther : Reads g fun s => some (Notice.skipFurther s) := by
  simp only [skipFurther_eq]
  exact (h.takeSign? (by decide)).elim (h.toPasses.afterYear? hdigit).maybe
    ((h.skipYears hdigit).bind (h.takeSign? (by decide)).maybe)

lemma takeYears? (hyear : ∀ c ∈ year, accepts c) (s : Text) :
    Notice.takeYears? year (g s) = (Notice.takeYears? year s).map fun q => (q.1, g q.2) := by
  have hskip : ∀ s, Notice.skipFurther (g s) = g (Notice.skipFurther s) :=
    fun s => Option.some.inj ((h.skipFurther hdigit).map s)
  unfold Notice.takeYears?
  rw [h.takeBlanks?.map]
  rcases Notice.takeBlanks? s with _ | years
  · rfl
  simp only [Option.map_some, Option.bind_some, h.toPasses.isPrefixOf hyear]
  split
  · rfl
  · simp [h.toPasses.takeYear? hdigit, hskip, Function.comp_def]

/-- A notice is read in the same way from the image of a text. -/
lemma takeDatedRest? (hyear : ∀ c ∈ year, accepts c) (s : Text) :
    Notice.takeDatedRest? year (g s) = (Notice.takeDatedRest? year s).map fun q => (q.1, g q.2) := by
  unfold Notice.takeDatedRest?
  rcases hs : Notice.takeMarked? s with _ | marked
  · simp [h.takeMarked?.map, hs]
  · simp [h.takeMarked?.map, hs, h.takeYears? hdigit hyear, h.takeMarked?.before_map hs,
      Function.comp_def]

end

end Transparent

lemma Passes.transparent (h : Passes accepts g) (hsigns : ∀ c ∈ signs, accepts c)
    (hinitial : ∀ c, isInitial c → accepts c) : Transparent accepts g where
  toPasses := h
  signs := hsigns
  letter := (h.takeChar? hinitial).bind
    (h.takeChar? fun c hc => eq_of_beq hc ▸ hsigns ')' (by decide))

lemma transparent_id : Transparent (fun _ => true) id :=
  Passes.transparent ⟨fun _ => rfl, fun _ hs => ⟨_, hs⟩⟩ (fun _ _ => rfl) fun _ _ => rfl

lemma takeYears?_eq_some_iff {firstYear : Text} : takeYears? year s = some (firstYear, rest) ↔
    ∃ r, takeBlanks? s = some (firstYear ++ r) ∧ ¬year <+: firstYear ++ r ∧ firstYear.length = 4 ∧
      (∀ c ∈ firstYear, isDecimal c) ∧ rest = skipFurther r := by
  unfold takeYears?
  rw [Option.bind_eq_some_iff]
  constructor
  · rintro ⟨years, hyears, h⟩
    split at h
    · cases h
    next hnot =>
    obtain ⟨⟨y, r⟩, hy, heq⟩ := Option.map_eq_some_iff.mp h
    cases heq
    obtain ⟨rfl, hfour⟩ := takeYear?_eq_some_iff.mp hy
    rw [List.isPrefixOf_iff_prefix] at hnot
    exact ⟨r, hyears, hnot, hfour.1, hfour.2, rfl⟩
  · rintro ⟨r, hyears, hnot, hlen, hall, rfl⟩
    refine ⟨_, hyears, ?_⟩
    rw [if_neg (by rwa [List.isPrefixOf_iff_prefix]), takeYear?_eq_some_iff.mpr ⟨rfl, hlen, hall⟩]
    rfl

lemma before_append (x r : Text) : before (x ++ r) r = x := by simp [before]

lemma takeDatedRest?_eq_some_iff : takeDatedRest? year s = some (d, rest) ↔
    ∃ marked, takeMarked? s = some marked ∧ s = d.mark ++ marked ∧
      takeYears? year marked = some (d.firstYear, rest) := by
  unfold takeDatedRest?
  rw [Option.bind_eq_some_iff]
  constructor
  · rintro ⟨marked, hmarked, h⟩
    obtain ⟨⟨y, r⟩, hy, heq⟩ := Option.map_eq_some_iff.mp h
    cases heq
    obtain ⟨x, rfl, -⟩ := transparent_id.takeMarked?.exists_of_eq_some hmarked
    exact ⟨marked, hmarked, by rw [before_append], hy⟩
  · rintro ⟨marked, hmarked, rfl, hy⟩
    refine ⟨marked, hmarked, ?_⟩
    rw [hy, before_append]
    rfl

lemma suffix_of_takeDatedRest? (h : takeDatedRest? year s = some (d, rest)) : rest <:+ s := by
  obtain ⟨marked, -, hs, hyears⟩ := takeDatedRest?_eq_some_iff.mp h
  obtain ⟨r, hblanks, -, -, -, hrest⟩ := takeYears?_eq_some_iff.mp hyears
  obtain ⟨x, hx, -⟩ := transparent_id.takeBlanks?.exists_of_eq_some hblanks
  obtain ⟨y, hy, -⟩ := (transparent_id.skipFurther fun _ _ => rfl).exists_of_eq_some
    (congrArg some hrest.symm)
  exact ⟨d.mark ++ x ++ d.firstYear ++ y, by simp [hs, hx, ← hy]⟩

/-- Whether a text starts with a notice whose initial has been passed. -/
def noticeRest (p : Char → Bool) (s : Text) : Bool :=
  ((takeMarkRest? s).bind takeBlanks?).any fun s => (takeYear? p s).isSome

lemma startsNotice_cons (p : Char → Bool) (c : Char) (s : Text) :
    startsNotice p (c :: s) = (isInitial c && noticeRest p s) := by
  unfold startsNotice noticeRest
  rw [takeMark?_cons]
  cases isInitial c with
  | false => rfl
  | true =>
    simp only [if_true, Bool.true_and]
    cases (takeMarkRest? s).bind takeBlanks? <;> rfl

lemma foundIn_initial (hc : isInitial c) : foundIn p (c :: s) = (noticeRest p s || foundIn p s) := by
  rw [foundIn, startsNotice_cons, hc, Bool.true_and]

lemma foundIn_append_left {x : Text} (hx : ∀ c ∈ x, isInitial c = false) (s : Text) :
    foundIn p (x ++ s) = foundIn p s := by
  induction x with
  | nil => rfl
  | cons c x ih =>
    rw [List.forall_mem_cons] at hx
    rw [List.cons_append, foundIn, startsNotice_cons, hx.1, Bool.false_and, Bool.false_or, ih hx.2]

lemma Transparent.noticeRest (h : Transparent accepts g) (hp : ∀ c, p c → accepts c) (s : Text) :
    noticeRest p (g s) = Notice.noticeRest p s := by
  have hblanks := (h.takeMarkRest?.bind h.takeBlanks?).map s
  unfold Notice.noticeRest
  rw [hblanks]
  cases (Notice.takeMarkRest? s).bind Notice.takeBlanks? with
  | none => rfl
  | some r => simp [h.toPasses.takeYear? hp]

lemma isInitial_of_isBlank (h : isBlank c) : isInitial c = false := by
  simp only [isBlank, Bool.or_eq_true, beq_iff_eq] at h
  rcases h with rfl | rfl <;> rfl

lemma takeBlanks?_append {b t : Text} (hne : b ≠ []) (hb : ∀ c ∈ b, isBlank c)
    (ht : ∀ c ∈ t.head?, isBlank c = false) : takeBlanks? (b ++ t) = some t := by
  obtain ⟨c, b, rfl⟩ := List.exists_cons_of_ne_nil hne
  rw [List.forall_mem_cons] at hb
  have hdrop : t.dropWhile isBlank = t := by
    cases t with
    | nil => rfl
    | cons c t => exact List.dropWhile_cons_of_neg (by simpa using ht c rfl)
  rw [List.cons_append, takeBlanks?, if_pos hb.1, List.dropWhile_append_of_pos hb.2, hdrop]

lemma takeBlanks?_eq_some (h : takeBlanks? s = some r) : ∃ b, b ≠ [] ∧ (∀ c ∈ b, isBlank c) ∧ s = b ++ r := by
  cases s with
  | nil => cases h
  | cons c s =>
    rw [takeBlanks?] at h
    split at h
    · next hc =>
      cases h
      refine ⟨c :: s.takeWhile isBlank, List.cons_ne_nil _ _, ?_, ?_⟩
      · exact List.forall_mem_cons.mpr ⟨hc, fun c' hc' => List.mem_takeWhile_imp hc'⟩
      · rw [List.cons_append, List.takeWhile_append_dropWhile]
    · cases h

/-- A text in which no word starts: an initial in it is followed by a bracket. -/
inductive Quiet : Text → Prop
  | nil : Quiet []
  | cons {c : Char} {x : Text} : isInitial c = false → Quiet x → Quiet (c :: x)
  | letter {c : Char} {x : Text} : isInitial c → Quiet x → Quiet (c :: ')' :: x)

namespace Quiet

variable {x : Text}

lemma append_left (hy : ∀ c ∈ y, isInitial c = false) (h : Quiet x) : Quiet (y ++ x) := by
  induction y with
  | nil => exact h
  | cons c y ih =>
    rw [List.forall_mem_cons] at hy
    exact .cons hy.1 (ih hy.2)

lemma append (h : Quiet x) (hy : Quiet y) : Quiet (x ++ y) := by
  induction h with
  | nil => exact hy
  | cons hc _ ih => exact .cons hc ih
  | letter hc _ ih => exact .letter hc ih

lemma foundIn (h : Quiet x) (p : Char → Bool) (t : Text) : foundIn p (x ++ t) = Notice.foundIn p t := by
  induction h with
  | nil => rfl
  | cons hc _ ih =>
    rw [List.cons_append, Notice.foundIn, startsNotice_cons, hc, Bool.false_and, Bool.false_or, ih]
  | letter hc _ ih =>
    have hrest : ∀ r, noticeRest p (')' :: r) = false := fun _ => rfl
    rw [List.cons_append, List.cons_append, foundIn_initial hc, hrest, Bool.false_or, Notice.foundIn,
      startsNotice_cons, ih]
    rfl

end Quiet

/-- What a mark is after its initial: it is read whatever follows, and no word starts in it. -/
structure Mark (x : Text) : Prop where
  reads : ∀ t, takeLetter? t = none → takeMarkRest? (x ++ t) = some t
  quiet : Quiet x
  first : ∃ x', x = 'o' :: x'

lemma quiet_word {x : Text} (h : Quiet x) : Quiet ("opyright".toList ++ x) :=
  h.append_left (by simp [isInitial])

lemma mark_word : Mark "opyright".toList where
  reads := fun t ht => by
    rw [takeMarkRest?, after?_eq_some_iff.mpr rfl, Option.bind_some, ht, Option.getD_none]
  quiet := quiet_word .nil
  first := ⟨_, rfl⟩

lemma mark_of_takeMarkRest? {m : Text} (h : takeMarkRest? s = some m) : ∃ x, Mark x ∧ s = x ++ m := by
  obtain ⟨s', hs', hm⟩ := Option.bind_eq_some_iff.mp h
  obtain rfl := after?_eq_some_iff.mp hs'
  rcases hletter : takeLetter? s' with _ | m'
  · rw [hletter] at hm
    cases hm
    exact ⟨_, mark_word, rfl⟩
  rw [hletter] at hm
  cases hm
  obtain ⟨s₁, hs₁, hbrackets⟩ := Option.bind_eq_some_iff.mp hletter
  obtain ⟨s₂, hs₂, hinner⟩ := Option.bind_eq_some_iff.mp hbrackets
  obtain ⟨s₃, hs₃, hclose⟩ := Option.bind_eq_some_iff.mp hinner
  obtain ⟨b, hne, hb, rfl⟩ := takeBlanks?_eq_some hs₁
  obtain ⟨_, hopen, rfl⟩ := takeChar?_eq_some_iff.mp hs₂
  obtain ⟨i, hi, rfl⟩ := takeChar?_eq_some_iff.mp hs₃
  obtain ⟨_, hclosed, rfl⟩ := takeChar?_eq_some_iff.mp hclose
  obtain rfl := eq_of_beq hopen
  obtain rfl := eq_of_beq hclosed
  have hread : ∀ t, takeLetter? (b ++ '(' :: i :: ')' :: t) = some t := by
    intro t
    have hblanks : takeBlanks? (b ++ '(' :: i :: ')' :: t) = some ('(' :: i :: ')' :: t) :=
      takeBlanks?_append hne hb (by simp [isBlank])
    rw [takeLetter?, hblanks]
    simp [takeChar?, hi]
  have hquiet : Quiet (b ++ ['(', i, ')']) :=
    .append_left (fun c hc => isInitial_of_isBlank (hb c hc)) (.cons rfl (.letter hi .nil))
  refine ⟨"opyright".toList ++ (b ++ ['(', i, ')']), ⟨fun t ht => ?_, quiet_word hquiet, ?_⟩, ?_⟩
  · rw [List.append_assoc, takeMarkRest?, after?_eq_some_iff.mpr rfl, Option.bind_some]
    simp [hread]
  · exact ⟨_, rfl⟩
  · simp

lemma isInitial_of_isDecimal (h : isDecimal c) : isInitial c = false := by
  rw [Bool.eq_false_iff]
  intro hc
  simp only [isInitial, Bool.or_eq_true, beq_iff_eq] at hc
  rcases hc with rfl | rfl <;> exact absurd h (by decide)

lemma skipColon_cons (h : c ≠ ':') (s : Text) : skipColon (c :: s) = c :: s := by
  rw [skipColon, takeChar?, if_neg (by simpa using h), Option.getD_none]

lemma isBlank_of_isDecimal (h : isDecimal c) : isBlank c = false := by
  rw [Bool.eq_false_iff]
  intro hc
  simp only [isBlank, Bool.or_eq_true, beq_iff_eq] at hc
  rcases hc with rfl | rfl <;> exact absurd h (by decide)

lemma exists_skipColon (s : Text) : ∃ colon, (colon = [] ∨ colon = [':']) ∧ s = colon ++ skipColon s := by
  unfold skipColon
  rcases hs : takeChar? (· == ':') s with _ | r
  · exact ⟨[], .inl rfl, rfl⟩
  · obtain ⟨c, hc, rfl⟩ := takeChar?_eq_some_iff.mp hs
    obtain rfl := eq_of_beq hc
    exact ⟨[':'], .inr rfl, rfl⟩

/-- The parts of a notice up to its first year, whose initial has been passed. -/
structure Parts (d : Dated) (x colon blanks : Text) : Prop where
  mark : Mark x
  colon_cases : colon = [] ∨ colon = [':']
  mark_eq : d.mark = x ++ colon
  blanks_ne : blanks ≠ []
  blank : ∀ c ∈ blanks, isBlank c
  length : d.firstYear.length = 4
  digit : ∀ c ∈ d.firstYear, isDecimal c

namespace Parts

variable {x colon blanks : Text}

lemma space (h : Parts d x colon blanks) : Parts d x colon [' '] :=
  { h with blanks_ne := List.cons_ne_nil _ _, blank := by simp [isBlank] }

lemma firstYear_eq_cons (h : Parts d x colon blanks) : ∃ c y, d.firstYear = c :: y ∧ isDecimal c := by
  obtain ⟨c, y, hy⟩ : ∃ c y, d.firstYear = c :: y :=
    List.exists_cons_of_ne_nil (List.ne_nil_of_length_pos (by rw [h.length]; decide))
  exact ⟨c, y, hy, h.digit c (hy ▸ List.mem_cons_self)⟩

lemma takeBlanks? (h : Parts d x colon blanks) (r : Text) :
    takeBlanks? (blanks ++ (d.firstYear ++ r)) = some (d.firstYear ++ r) := by
  obtain ⟨c, y, hy, hc⟩ := h.firstYear_eq_cons
  refine takeBlanks?_append h.blanks_ne h.blank fun c' hc' => ?_
  rw [hy] at hc'
  cases hc'
  exact isBlank_of_isDecimal hc

lemma takeMarkRest? (h : Parts d x colon blanks) (r : Text) :
    takeMarkRest? (d.mark ++ (blanks ++ (d.firstYear ++ r))) =
      some (colon ++ (blanks ++ (d.firstYear ++ r))) := by
  rw [h.mark_eq, List.append_assoc]
  refine h.mark.reads _ ?_
  rcases h.colon_cases with rfl | rfl
  · obtain ⟨c, y, hy, hc⟩ := h.firstYear_eq_cons
    have hopen : takeChar? (· == '(') (c :: (y ++ r)) = none := by
      rw [takeChar?, if_neg]
      rw [beq_iff_eq]
      rintro rfl
      exact absurd hc (by decide)
    rw [List.nil_append, takeLetter?, h.takeBlanks?, hy, List.cons_append]
    simp [hopen]
  · rfl

lemma takeMarked? (h : Parts d x colon blanks) (r : Text) :
    takeMarked? (d.mark ++ (blanks ++ (d.firstYear ++ r))) = some (blanks ++ (d.firstYear ++ r)) := by
  rw [Notice.takeMarked?, h.takeMarkRest?, Option.bind_some]
  rcases h.colon_cases with rfl | rfl
  · obtain ⟨c, b, rfl⟩ := List.exists_cons_of_ne_nil h.blanks_ne
    have hc : c ≠ ':' := by
      rintro rfl
      exact absurd (h.blank ':' List.mem_cons_self) (by decide)
    rw [List.nil_append, List.cons_append, skipColon_cons hc]
  · rfl

/-- After a colon there is no notice, but its years are brought up to date. -/
lemma noticeRest (h : Parts d x colon blanks) (p : Char → Bool) (r : Text) :
    noticeRest p (d.mark ++ (blanks ++ (d.firstYear ++ r))) = (colon.isEmpty && d.firstYear.all p) := by
  rw [Notice.noticeRest, h.takeMarkRest?, Option.bind_some]
  rcases h.colon_cases with rfl | rfl
  · have hyear : (takeYear? p (d.firstYear ++ r)).isSome = d.firstYear.all p := by
      have htake : (d.firstYear ++ r).take 4 = d.firstYear := by rw [← h.length, List.take_left]
      unfold takeYear?
      rw [htake, h.length]
      cases d.firstYear.all p <;> rfl
    rw [List.nil_append, h.takeBlanks?]
    simpa using hyear
  · rfl

lemma quiet (h : Parts d x colon blanks) : Quiet (d.mark ++ (blanks ++ d.firstYear)) := by
  have hcolon : Quiet colon := by
    rcases h.colon_cases with rfl | rfl
    · exact .nil
    · exact .cons rfl .nil
  have hyears : Quiet (blanks ++ d.firstYear) := by
    rw [← List.append_nil d.firstYear]
    exact .append_left (fun c hc => isInitial_of_isBlank (h.blank c hc))
      (.append_left (fun c hc => isInitial_of_isDecimal (h.digit c hc)) .nil)
  rw [h.mark_eq]
  exact (h.mark.quiet.append hcolon).append hyears

lemma foundIn (h : Parts d x colon blanks) (p : Char → Bool) (r : Text) :
    foundIn p (d.mark ++ (blanks ++ (d.firstYear ++ r))) = Notice.foundIn p r := by
  rw [← h.quiet.foundIn p r, List.append_assoc, List.append_assoc]

end Parts

lemma exists_parts (h : takeDatedRest? year s = some (d, rest)) : ∃ x colon blanks r,
    Parts d x colon blanks ∧ s = d.mark ++ (blanks ++ (d.firstYear ++ r)) ∧
      ¬year <+: d.firstYear ++ r ∧ rest = skipFurther r := by
  obtain ⟨marked, hmarked, hs, hyears⟩ := takeDatedRest?_eq_some_iff.mp h
  obtain ⟨m, hm, hcolon⟩ := Option.bind_eq_some_iff.mp hmarked
  obtain ⟨x, hx, hxm⟩ := mark_of_takeMarkRest? hm
  obtain ⟨colon, hcases, hmcolon⟩ := exists_skipColon m
  obtain ⟨r, hblanks, hnot, hlen, hall, hrest⟩ := takeYears?_eq_some_iff.mp hyears
  obtain ⟨b, hne, hb, hmarkedb⟩ := takeBlanks?_eq_some hblanks
  rw [Option.some.inj hcolon] at hmcolon
  have hmark : d.mark = x ++ colon := by
    rw [hs, hmcolon, ← List.append_assoc] at hxm
    exact List.append_cancel_right hxm
  exact ⟨x, colon, b, r, ⟨hx, hcases, hmark, hne, hb, hlen, hall⟩, hmarkedb ▸ hs, hnot, hrest⟩

lemma foundIn_of_takeChar? (hc : isInitial c = false) (h : takeChar? (· == c) s = some r) :
    foundIn p r = foundIn p s := by
  obtain ⟨c', hc', rfl⟩ := takeChar?_eq_some_iff.mp h
  obtain rfl := eq_of_beq hc'
  exact (foundIn_append_left (x := [c']) (by simpa using hc) r).symm

lemma foundIn_of_takeYear? (h : takeYear? isDecimal s = some (y, r)) : foundIn p r = foundIn p s := by
  obtain ⟨rfl, -, hy⟩ := takeYear?_eq_some_iff.mp h
  exact (foundIn_append_left (fun c hc => isInitial_of_isDecimal (hy c hc)) r).symm

lemma foundIn_skipYears (p : Char → Bool) (n : Nat) (s : Text) : foundIn p (skipYears n s) = foundIn p s := by
  induction n generalizing s with
  | zero => rfl
  | succ n ih =>
    rw [skipYears_succ]
    rcases hr : takeFurther? s with _ | r
    · rfl
    · obtain ⟨s', hs', hyear⟩ := Option.bind_eq_some_iff.mp hr
      obtain ⟨⟨y, r'⟩, hy, rfl⟩ := Option.map_eq_some_iff.mp hyear
      rw [Option.map_some, Option.getD_some, ih, foundIn_of_takeYear? hy,
        foundIn_of_takeChar? rfl hs']

lemma foundIn_skipFurther (p : Char → Bool) (s : Text) : foundIn p (skipFurther s) = foundIn p s := by
  unfold skipFurther
  rcases hdash : takeChar? (· == '-') s with _ | r
  · dsimp only
    rcases hcomma : takeChar? (· == ',') (skipYears s.length s) with _ | r
    · rw [Option.getD_none, foundIn_skipYears]
    · rw [Option.getD_some, foundIn_of_takeChar? rfl hcomma, foundIn_skipYears]
  · dsimp only
    rcases hyear : takeYear? isDecimal r with _ | ⟨y, r'⟩
    · rw [Option.map_none, Option.getD_none, foundIn_of_takeChar? rfl hdash]
    · rw [Option.map_some, Option.getD_some, foundIn_of_takeYear? hyear,
        foundIn_of_takeChar? rfl hdash]

lemma noticeRest_append (hp : ∀ c, p c → isDecimal c) (h : noticeRest p s) (t : Text) :
    noticeRest p (s ++ t) := by
  obtain ⟨years, hyears, hyear⟩ : ∃ years, (takeMarkRest? s).bind takeBlanks? = some years ∧
      (takeYear? p years).isSome := by
    unfold noticeRest at h
    cases hs : (takeMarkRest? s).bind takeBlanks? with
    | none =>
      rw [hs] at h
      cases h
    | some years =>
      rw [hs] at h
      exact ⟨years, rfl, h⟩
  obtain ⟨m, hm, hblanks⟩ := Option.bind_eq_some_iff.mp hyears
  obtain ⟨⟨y, r⟩, hy⟩ := Option.isSome_iff_exists.mp hyear
  obtain ⟨x, hx, rfl⟩ := mark_of_takeMarkRest? hm
  obtain ⟨b, hne, hb, rfl⟩ := takeBlanks?_eq_some hblanks
  obtain ⟨rfl, hlen, hall⟩ := takeYear?_eq_some_iff.mp hy
  have hparts : Parts ⟨x, y⟩ x [] b :=
    ⟨hx, .inl rfl, (List.append_nil x).symm, hne, hb, hlen, fun c hc => hp c (hall c hc)⟩
  have hnotice := hparts.noticeRest p (r ++ t)
  simp only [List.isEmpty_nil, Bool.true_and] at hnotice
  rw [List.append_assoc, List.append_assoc, List.append_assoc, hnotice, List.all_eq_true]
  exact hall

/-- A notice in a text is found there whatever follows. -/
theorem foundIn_append (hp : ∀ c, p c → isDecimal c) (h : foundIn p s) (t : Text) :
    foundIn p (s ++ t) := by
  induction s with
  | nil => cases h
  | cons c s ih =>
    rw [foundIn, startsNotice_cons, Bool.or_eq_true, Bool.and_eq_true] at h
    rw [List.cons_append, foundIn, startsNotice_cons, Bool.or_eq_true, Bool.and_eq_true]
    exact h.imp (fun hs => ⟨hs.1, noticeRest_append hp hs.2 t⟩) ih

/-- The bytes of a text, each as a character. -/
def byteChars (s : Text) : Text := (encode s).map fun b => Char.ofNat b.toNat

lemma byteChars_cons (c : Char) (s : Text) : byteChars (c :: s) =
    (encodeChar c).map (fun b => Char.ofNat b.toNat) ++ byteChars s := by
  rw [byteChars, encode_cons, List.map_append, byteChars]

lemma byteChars_ascii (h : c.toNat < 0x80) (s : Text) : byteChars (c :: s) = c :: byteChars s := by
  rw [byteChars_cons, encodeChar_ascii h]
  simp [toNat_toUInt8 (show c.toNat < 256 by omega)]

lemma high_of_mem {c c' : Char} (h : 0x80 ≤ c.toNat)
    (hc' : c' ∈ (encodeChar c).map fun b => Char.ofNat b.toNat) : 0x80 ≤ c'.toNat := by
  obtain ⟨b, hb, rfl⟩ := List.mem_map.mp hc'
  have hhigh := high_of_mem_encodeChar h hb
  have hlow := b.toNat_lt
  rw [toNat_ofNat (by omega)]
  exact hhigh

lemma transparent_byteChars : Transparent (·.toNat < 0x80) byteChars := by
  refine Passes.transparent ⟨fun hc => byteChars_ascii (of_decide_eq_true hc) _, ?_⟩
    (List.all_eq_true.mp (by decide)) ?_
  · intro c s r hc hs
    rw [decide_eq_true_iff] at hc
    rcases s with _ | ⟨c', s⟩
    · cases hs
    by_cases hc' : c'.toNat < 0x80
    · rw [byteChars_ascii hc'] at hs
      cases hs
      exact ⟨s, rfl⟩
    · obtain ⟨b, bs, hb⟩ : ∃ b bs, encodeChar c' = b :: bs := by
        unfold encodeChar
        dsimp only
        split_ifs <;> exact ⟨_, _, rfl⟩
      have hhigh := @high_of_mem _ c (Nat.le_of_not_lt hc')
      rw [byteChars_cons] at hs
      rw [hb, List.map_cons] at hs hhigh
      cases hs
      exact absurd (hhigh List.mem_cons_self) (Nat.not_le.mpr hc)
  · intro c hc
    simp only [isInitial, Bool.or_eq_true, beq_iff_eq] at hc
    rcases hc with rfl | rfl <;> decide

/-- Among the bytes of a text the notices of the text are found whose digits are ASCII. -/
theorem foundInBytes_encode (s : Text) : foundInBytes (encode s) = foundIn Char.isDigit s := by
  change foundIn Char.isDigit (byteChars s) = foundIn Char.isDigit s
  induction s with
  | nil => rfl
  | cons c s ih =>
    by_cases hc : c.toNat < 0x80
    · have hdigit : ∀ c : Char, c.isDigit → decide (c.toNat < 0x80) := fun c hc =>
        decide_eq_true (Nat.lt_of_le_of_lt (Char.isDigit_iff_toNat.mp hc).2 (by decide))
      rw [byteChars_ascii hc, foundIn, foundIn, startsNotice_cons, startsNotice_cons,
        transparent_byteChars.noticeRest hdigit, ih]
    · have hlow : ∀ c' : Char, 0x80 ≤ c'.toNat → isInitial c' = false := by
        intro c' hc'
        rw [Bool.eq_false_iff]
        intro hinitial
        simp only [isInitial, Bool.or_eq_true, beq_iff_eq] at hinitial
        rcases hinitial with rfl | rfl <;> exact absurd hc' (by decide)
      rw [byteChars_cons, foundIn_append_left fun c' hc' => hlow c' (high_of_mem (by omega) hc'), ih,
        foundIn, startsNotice_cons, hlow c (by omega), Bool.false_and, Bool.false_or]

end SourceTidy.Notice
