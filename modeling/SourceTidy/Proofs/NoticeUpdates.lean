import SourceTidy.Proofs.NoticeReaders

/-!
# Updated notices

The update of the years leaves alone all that the readers of a notice pass, and so does a text put
after a line end. So a second update changes nothing, lines are updated each for itself, and an update
neither makes nor removes a notice.
-/

namespace SourceTidy.Notice

open Text (isBlank isDecimal)

variable {accepts p : Char → Bool} {year s rest : Text} {d : Dated}

lemma updateFrom_eq (year : Text) (n : Nat) (s : Text) : updateFrom year n s = update year (s.drop n) := by
  unfold update
  induction s generalizing n with
  | nil => cases n <;> rfl
  | cons c s ih =>
    cases n with
    | zero => rfl
    | succ n => rw [updateFrom, ih, List.drop_succ_cons]

def updateRest (year s : Text) : Text :=
  (takeDatedRest? year s).elim (update year s) fun q => q.1.updated year ++ update year q.2

lemma takeDated?_append {x : Text} {c : Char} (hc : isInitial c)
    (hx : skipColon (x ++ c :: s) = c :: s) : takeDated? year (x ++ c :: s) =
      (takeDatedRest? year s).map fun q => ({ q.1 with mark := x ++ c :: q.1.mark }, q.2) := by
  unfold takeDated? takeDatedRest? takeMarked? takeYears?
  rw [hx, takeMark?_cons, if_pos hc]
  rcases hm : takeMarkRest? s with _ | m
  · rfl
  have hmarked : takeMarked? s = some (skipColon m) := by rw [takeMarked?, hm]; rfl
  obtain ⟨y, hy, -⟩ := transparent_id.takeMarked?.exists_of_eq_some hmarked
  have hbefore : before (x ++ c :: s) (skipColon m) = x ++ c :: before s (skipColon m) := by
    rw [hy, before_append, ← List.cons_append, ← List.append_assoc, before_append]
  simp only [Option.bind_eq_bind, Option.bind_some]
  cases takeBlanks? (skipColon m) with
  | none => rfl
  | some years =>
    simp only [Option.bind_some]
    split
    · rfl
    · cases takeYear? isDecimal years with
      | none => rfl
      | some q => simp [hbefore]

lemma update_of_dated {c : Char} (h : takeDated? year (c :: s) = some (d, rest)) (hrest : rest <:+ s) :
    update year (c :: s) = d.updated year ++ update year rest := by
  obtain ⟨x, rfl⟩ := hrest
  rw [update, updateFrom, h]
  simp [updateFrom_eq]

lemma update_of_not_dated {c : Char} (h : takeDated? year (c :: s) = none) :
    update year (c :: s) = c :: update year s := by
  rw [update, updateFrom, h]
  rfl

lemma ne_colon_of_isInitial {c : Char} (h : isInitial c) : c ≠ ':' := by
  rintro rfl
  cases h

lemma update_initial {c : Char} (hc : isInitial c) : update year (c :: s) = c :: updateRest year s := by
  have hdated := @takeDated?_append year s [] c hc
    (skipColon_cons (ne_colon_of_isInitial hc) s)
  unfold updateRest
  rcases hs : takeDatedRest? year s with _ | ⟨d, rest⟩
  · rw [hs] at hdated
    exact update_of_not_dated hdated
  · rw [hs] at hdated
    exact update_of_dated hdated (suffix_of_takeDatedRest? hs)

lemma update_colon (year s : Text) : update year (':' :: s) = ':' :: update year s := by
  have hnone : takeMark? s = none → takeDated? year (':' :: s) = none := by
    intro hmark
    have hskip : skipColon (':' :: s) = s := rfl
    rw [takeDated?, hskip, hmark]
    rfl
  cases s with
  | nil => exact update_of_not_dated (hnone rfl)
  | cons c s =>
    cases hc : isInitial c with
    | false =>
      refine update_of_not_dated (hnone ?_)
      rw [takeMark?_cons, hc]
      rfl
    | true =>
      have hdated : takeDated? year (':' :: c :: s) = _ := takeDated?_append (x := [':']) hc rfl
      rw [update_initial hc, updateRest]
      rcases hs : takeDatedRest? year s with _ | ⟨d, rest⟩
      · rw [hs] at hdated
        rw [update_of_not_dated hdated, update_initial hc, updateRest, hs]
      · rw [hs] at hdated
        exact update_of_dated hdated
          ((suffix_of_takeDatedRest? hs).trans (List.suffix_cons c s))

lemma update_cons {c : Char} (hc : isInitial c = false) : update year (c :: s) = c :: update year s := by
  by_cases hcolon : c = ':'
  · rw [hcolon, update_colon]
  · refine update_of_not_dated ?_
    rw [takeDated?, skipColon_cons hcolon, takeMark?_cons, hc]
    rfl

/-- The induction that an update follows: behind a notice whose years are brought up to date it goes on after
the years. -/
lemma update_induction (year : Text) {motive : Text → Prop} (nil : motive [])
    (plain : ∀ c s, isInitial c = false → update year (c :: s) = c :: update year s → motive s → motive (c :: s))
    (undated : ∀ c s, isInitial c → takeDatedRest? year s = none → update year (c :: s) = c :: update year s →
      motive s → motive (c :: s))
    (dated : ∀ c s d rest, isInitial c → takeDatedRest? year s = some (d, rest) →
      update year (c :: s) = c :: (d.updated year ++ update year rest) → motive rest → motive (c :: s))
    (s : Text) : motive s := by
  induction hlen : s.length using Nat.strong_induction_on generalizing s with
  | _ n ih =>
    rcases s with _ | ⟨c, s⟩
    · exact nil
    have hs := ih s.length (by simp [← hlen]) s rfl
    cases hc : isInitial c with
    | false => exact plain c s hc (update_cons hc) hs
    | true =>
      have heq : update year (c :: s) = c :: updateRest year s := update_initial hc
      rw [updateRest] at heq
      rcases hdated : takeDatedRest? year s with _ | ⟨d, rest⟩
      · exact undated c s hc hdated (by rw [heq, hdated]; rfl) hs
      · have hlt := (suffix_of_takeDatedRest? hdated).length_le
        exact dated c s d rest hc hdated (by rw [heq, hdated]; rfl)
          (ih rest.length (by simp [← hlen]; omega) rest rfl)

lemma passes_update (year : Text) : Passes (fun c => !isInitial c) (update year) where
  cons := fun hc => update_cons (by simpa using hc)
  eq_cons := by
    intro c s r hc hs
    rcases s with _ | ⟨c', s⟩
    · cases hs
    cases hc' : isInitial c' with
    | true =>
      rw [update_initial hc'] at hs
      cases hs
      simp [hc'] at hc
    | false =>
      rw [update_cons hc'] at hs
      cases hs
      exact ⟨s, rfl⟩

lemma updated_append (d : Dated) (year t : Text) :
    d.updated year ++ t = d.mark ++ ([' '] ++ (d.firstYear ++ ('-' :: (year ++ t)))) := by
  simp [Dated.updated]

structure IsYear (year : Text) : Prop where
  length : year.length = 4
  digit : ∀ c ∈ year, isDecimal c

lemma IsYear.lf_notMem (h : IsYear year) : '\n' ∉ year := fun hmem => absurd (h.digit _ hmem) (by decide)

/-- An updated notice is read as the one before, and all of it. -/
lemma takeDatedRest?_updated (hyear : IsYear year) (h : takeDatedRest? year s = some (d, rest))
    (t : Text) : takeDatedRest? year (d.updated year ++ t) = some (d, t) := by
  obtain ⟨x, colon, blanks, r, hparts, -, hnot, -⟩ := exists_parts h
  rw [updated_append, takeDatedRest?_eq_some_iff]
  refine ⟨_, hparts.space.takeMarked? _, rfl, takeYears?_eq_some_iff.mpr
    ⟨_, hparts.space.takeBlanks? _, fun hpre => ?_, hparts.length, hparts.digit, ?_⟩⟩
  · have hlen : year.length ≤ d.firstYear.length := by rw [hyear.length, hparts.length]
    have heq : year <+: d.firstYear := List.prefix_of_prefix_length_le hpre (List.prefix_append _ _) hlen
    exact hnot (heq.trans (List.prefix_append _ _))
  · have hlast : takeYear? isDecimal (year ++ t) = some (year, t) :=
      takeYear?_eq_some_iff.mpr ⟨rfl, hyear.length, hyear.digit⟩
    simp [skipFurther, takeChar?, hlast]

lemma transparent_update (year : Text) : Transparent (fun c => !isInitial c) (update year) where
  toPasses := passes_update year
  signs := List.all_eq_true.mp (by decide)
  letter := by
    intro s
    rcases s with _ | ⟨c, s⟩
    · exact .inl ⟨rfl, rfl⟩
    cases hc : isInitial c with
    | false =>
      left
      simp [update_cons hc, takeChar?, hc]
    | true =>
      have hclose : Reads (update year) (takeChar? (· == ')')) :=
        (passes_update year).takeChar? fun c' hc' => by rw [eq_of_beq hc']; rfl
      simp only [update_initial hc, takeChar?, hc, if_true, Option.bind_some]
      unfold updateRest
      rcases hs : takeDatedRest? year s with _ | ⟨d, rest⟩
      · rcases hclose s with hnone | ⟨x, r, hx, hux, hr, hur⟩
        · exact .inl hnone
        · exact .inr ⟨c :: x, r, by rw [hx]; rfl, by rw [Option.elim_none, hux]; rfl, hr, hur⟩
      · obtain ⟨x, colon, blanks, r, hparts, hsr, -⟩ := exists_parts hs
        obtain ⟨x', rfl⟩ := hparts.mark.first
        left
        rw [hsr, Option.elim_some, updated_append, hparts.mark_eq]
        exact ⟨rfl, rfl⟩

lemma not_isInitial_of_isDecimal (c : Char) (h : isDecimal c) : (!isInitial c) = true := by
  rw [isInitial_of_isDecimal h]
  rfl

lemma takeDatedRest?_update (hyear : IsYear year) (h : takeDatedRest? year s = none) :
    takeDatedRest? year (update year s) = none := by
  rw [(transparent_update year).takeDatedRest? not_isInitial_of_isDecimal
    (fun c hc => not_isInitial_of_isDecimal c (hyear.digit c hc)) s, h]
  rfl

/-- A second update changes nothing. -/
theorem update_update (hyear : IsYear year) (s : Text) :
    update year (update year s) = update year s := by
  induction s using update_induction year with
  | nil => rfl
  | plain c s hc hs ih => rw [hs, update_cons hc, ih]
  | undated c s hc hdated hs ih =>
    rw [hs, update_initial hc, updateRest, takeDatedRest?_update hyear hdated, Option.elim_none, ih]
  | dated c s d rest hc hdated hs ih =>
    rw [hs, update_initial hc, updateRest, takeDatedRest?_updated hyear hdated, Option.elim_some, ih]

lemma transparent_line (t : Text) : Transparent (· != '\n') (· ++ '\n' :: t) := by
  refine Passes.transparent ⟨fun _ => rfl, ?_⟩
    (List.all_eq_true.mp (by decide)) ?_
  · intro c s r hc hs
    rcases s with _ | ⟨c', s⟩
    · cases hs
      cases hc
    · cases hs
      exact ⟨s, rfl⟩
  · intro c hc
    simp only [isInitial, Bool.or_eq_true, beq_iff_eq] at hc
    rcases hc with rfl | rfl <;> decide

/-- The years in a line are brought up to date without regard to the lines after it. -/
theorem update_append_line (hyear : '\n' ∉ year) (s t : Text) :
    update year (s ++ '\n' :: t) = update year s ++ '\n' :: update year t := by
  have hdigit : ∀ c, isDecimal c → (c != '\n') = true := by
    intro c hc
    rw [bne_iff_ne]
    rintro rfl
    exact absurd hc (by decide)
  induction s using update_induction year with
  | nil => exact update_cons rfl
  | plain c s hc hs ih => rw [List.cons_append, update_cons hc, ih, hs, List.cons_append]
  | undated c s hc hdated hs ih | dated c s d rest hc hdated hs ih =>
    have hline := (transparent_line t).takeDatedRest? hdigit
      (fun c hc => bne_iff_ne.mpr fun heq => hyear (heq ▸ hc)) s
    rw [List.cons_append, update_initial hc, updateRest, hline, hdated, hs]
    simp [ih]

/-- An update neither makes nor removes a notice. -/
theorem foundIn_update (hyear : ∀ c ∈ year, isInitial c = false) (hp : ∀ c, p c → isDecimal c) (s : Text) :
    foundIn p (update year s) = foundIn p s := by
  induction s using update_induction year with
  | nil => rfl
  | plain c s hc hs ih =>
    rw [hs, foundIn, foundIn, startsNotice_cons, startsNotice_cons, hc, ih]
    rfl
  | undated c s hc hdated hs ih =>
    have hnotice := (transparent_update year).noticeRest (fun c hc => not_isInitial_of_isDecimal c (hp c hc)) s
    rw [hs, foundIn_initial hc, foundIn_initial hc, hnotice, ih]
  | dated c s d rest hc hdated hs ih =>
    obtain ⟨x, colon, blanks, r, hparts, rfl, -, rfl⟩ := exists_parts hdated
    have hdash : ∀ c ∈ '-' :: year, isInitial c = false := List.forall_mem_cons.mpr ⟨rfl, hyear⟩
    rw [hs, foundIn_initial hc, foundIn_initial hc, updated_append, hparts.noticeRest, hparts.space.noticeRest,
      hparts.foundIn, hparts.space.foundIn, ← List.cons_append, foundIn_append_left hdash, ih,
      foundIn_skipFurther]

lemma mem_update {c : Char} (h : c ∈ update year s) : c ∈ s ∨ c ∈ year ∨ c = ' ' ∨ c = '-' := by
  induction s using update_induction year with
  | nil => cases h
  | plain a s _ hs ih | undated a s _ _ hs ih =>
    rw [hs, List.mem_cons] at h
    rw [List.mem_cons, or_assoc]
    exact h.imp_right ih
  | dated a s d rest _ hdated hs ih =>
    rw [hs, List.mem_cons, updated_append] at h
    rw [List.mem_cons, or_assoc]
    refine h.imp_right fun hmem => ?_
    obtain ⟨x, colon, blanks, r, -, hparts, -⟩ := exists_parts hdated
    simp only [List.mem_append, List.mem_cons, List.not_mem_nil, or_false] at hmem
    rcases hmem with hmem | hmem | hmem | hmem | hmem | hmem
    · exact .inl (by simp [hparts, hmem])
    · exact .inr (.inr (.inl hmem))
    · exact .inl (by simp [hparts, hmem])
    · exact .inr (.inr (.inr hmem))
    · exact .inr (.inl hmem)
    · exact (ih hmem).imp_left fun h => (suffix_of_takeDatedRest? hdated).subset h

end SourceTidy.Notice
