import SourceTidy.Proofs.RepeatedUpdates

/-!
# Years that are up to date

An update leaves a text in which every notice reads as the update writes it, and no notice that an
update would still change.
-/

namespace SourceTidy

namespace Notice

variable {year s rest : Text} {d : Dated}

/-- Wherever a text has a notice that an update takes up, it is written as the update writes it. -/
def Current (year s : Text) : Prop :=
  ∀ rest, rest <:+ s → ∀ d after, takeDated? year rest = some (d, after) →
    rest = d.updated year ++ after

lemma current_nil (year : Text) : Current year [] := by
  intro rest hrest d after h
  rw [List.suffix_nil.mp hrest] at h
  cases h

lemma Current.of_head {c : Char} (h : Current year s)
    (hhead : ∀ d after, takeDated? year (c :: s) = some (d, after) → c :: s = d.updated year ++ after) :
    Current year (c :: s) := by
  intro rest hrest
  rcases List.suffix_cons_iff.mp hrest with rfl | hrest
  · exact hhead
  · exact h rest hrest

lemma Current.initial {c : Char} (hc : isInitial c) (h : Current year s)
    (hrest : ∀ d after, takeDatedRest? year s = some (d, after) → s = d.updated year ++ after) :
    Current year (c :: s) := by
  refine h.of_head fun d after hd => ?_
  have hdated : takeDated? year (c :: s) = _ :=
    takeDated?_append (x := []) hc (skipColon_cons (ne_colon_of_isInitial hc) s)
  rw [hd] at hdated
  obtain ⟨⟨d', after'⟩, hd', heq⟩ := Option.map_eq_some_iff.mp hdated.symm
  obtain ⟨rfl, rfl⟩ := Prod.mk.inj heq
  rw [hrest d' after' hd', Dated.updated, Dated.updated]
  rfl

lemma Current.cons {c : Char} (hc : isInitial c = false) (h : Current year s) : Current year (c :: s) := by
  refine h.of_head fun d after hd => ?_
  by_cases hcolon : c = ':'
  · subst hcolon
    rcases s with _ | ⟨i, s⟩
    · cases hd
    cases hi : isInitial i with
    | false =>
      have hskip : skipColon (':' :: i :: s) = i :: s := rfl
      rw [takeDated?, hskip, takeMark?_cons, hi] at hd
      cases hd
    | true =>
      have hbare : takeDated? year (i :: s) = _ :=
        takeDated?_append (x := []) hi (skipColon_cons (ne_colon_of_isInitial hi) s)
      have hdated : takeDated? year (':' :: i :: s) = _ := takeDated?_append (x := [':']) hi rfl
      rw [hd] at hdated
      obtain ⟨⟨d', after'⟩, hd', heq⟩ := Option.map_eq_some_iff.mp hdated.symm
      obtain ⟨rfl, rfl⟩ := Prod.mk.inj heq
      rw [hd'] at hbare
      rw [h _ (List.suffix_refl _) _ _ hbare, Dated.updated, Dated.updated]
      rfl
  · rw [takeDated?, skipColon_cons hcolon, takeMark?_cons, hc] at hd
    cases hd

lemma Quiet.current {x : Text} (hx : Quiet x) (h : Current year s) : Current year (x ++ s) := by
  induction hx with
  | nil => exact h
  | cons hc _ ih => exact ih.cons hc
  | letter hc _ ih =>
    refine (ih.cons rfl).initial hc fun d after hd => ?_
    cases hd

lemma quiet_updated (hyear : IsYear year) (h : takeDatedRest? year s = some (d, rest)) :
    Quiet (d.updated year) := by
  obtain ⟨x, colon, blanks, r, hparts, -⟩ := exists_parts h
  have hlast : Quiet ('-' :: (year ++ [])) :=
    .cons rfl (.append_left (fun c hc => isInitial_of_isDecimal (hyear.digit c hc)) .nil)
  simpa [Dated.updated] using hparts.space.quiet.append hlast

/-- After an update every notice is up to date. -/
theorem current_update (hyear : IsYear year) (s : Text) : Current year (update year s) := by
  induction s using update_induction year with
  | nil => exact current_nil year
  | plain c s hc hs ih =>
    rw [hs]
    exact ih.cons hc
  | undated c s hc hdated hs ih =>
    rw [hs]
    refine ih.initial hc fun d after hd => ?_
    rw [takeDatedRest?_update hyear hdated] at hd
    cases hd
  | dated c s d rest hc hdated hs ih =>
    rw [hs]
    refine ((quiet_updated hyear hdated).current ih).initial hc fun d' after hd => ?_
    rw [takeDatedRest?_updated hyear hdated] at hd
    cases hd
    rfl

end Notice

namespace Updater

open Notice

variable {u : Updater} {y : Int}

/-- An update of the years is complete: a second one changes nothing, and wherever a notice is found in
the updated text, it reads as its mark, a blank, its first year, a hyphen and the current year. -/
theorem updateYears_completes {today : Int} {options : Options} {patterns : Patterns}
    (hu : ofOptions today options patterns = .ok u) (hyear : u.year = .int y)
    (hy : 1000 ≤ y ∧ y ≤ 9999) (s : Text) :
    u.updateYears (u.updateYears s) = u.updateYears s ∧
      ∀ before rest d after, u.updateYears s = before ++ rest →
        takeDated? u.yearText.toList rest = some (d, after) →
        rest = d.mark ++ ' ' :: d.firstYear ++ '-' :: (toString y).toList ++ after := by
  have hmade := made_of_ofOptions hu hyear
  have hdigits : IsYear u.yearText.toList := by
    rw [hmade.yearText]
    exact isYear_toString hy
  refine ⟨update_update hdigits s, fun before rest d after hsplit hd => ?_⟩
  rw [← hmade.yearText]
  exact current_update hdigits s rest ⟨before, hsplit.symm⟩ d after hd

/-- A notice with colons, a letter in brackets, a list of years and a comma that is left over. -/
theorem updateYears_completes_list :
    let u : Updater := { year := .int 2019, yearText := "2019" }
    let text := "/* :Copyright\t(C): \t2010,2011,2012,2013 by us\n".toList
    let rest := ":Copyright\t(C): 2010-2019 by us\n".toList
    u.updateYears text = "/* ".toList ++ rest ∧
      takeDated? u.yearText.toList rest =
        some (⟨":Copyright\t(C):".toList, "2010".toList⟩, " by us\n".toList) ∧
      u.updateYears (u.updateYears text) = u.updateYears text ∧
      rest = ":Copyright\t(C):".toList ++ ' ' :: "2010".toList ++ '-' :: (toString (2019 : Int)).toList ++
        " by us\n".toList := by
  intro u text rest
  have hupdate : u.updateYears text = "/* ".toList ++ rest := by decide +kernel
  have hdated : takeDated? u.yearText.toList rest =
      some (⟨":Copyright\t(C):".toList, "2010".toList⟩, " by us\n".toList) := by decide +kernel
  have hmade : ofOptions 2024 [("year", .int 2019)] Patterns.usual = .ok u := rfl
  obtain ⟨hagain, hreads⟩ := updateYears_completes (y := 2019) hmade rfl (by decide) text
  exact ⟨hupdate, hdated, hagain, hreads _ _ _ _ hupdate hdated⟩

end Updater

end SourceTidy
