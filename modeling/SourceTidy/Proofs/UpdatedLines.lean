import SourceTidy.Proofs.RepeatedUpdates

/-!
# Updates line by line

The notices of a line are found without regard to the other lines, and an update writes no line feed. So it
updates each line of a text for itself, and a line without a notice to update stays as it is.
-/

namespace SourceTidy

namespace Notice

variable {year s : Text}

lemma update_eq_self (h : ∀ rest, rest <:+ s → takeDated? year rest = none) : update year s = s := by
  induction s with
  | nil => rfl
  | cons c s ih =>
    rw [update_of_not_dated (h _ (List.suffix_refl _)),
      ih fun rest hrest => h rest (hrest.trans (List.suffix_cons c s))]

lemma lf_notMem_update (hyear : '\n' ∉ year) (hs : '\n' ∉ s) : '\n' ∉ update year s := by
  intro hmem
  rcases mem_update hmem with hmem | hmem | hmem | hmem
  · exact hs hmem
  · exact hyear hmem
  · cases hmem
  · cases hmem

lemma splitAt_update (hyear : '\n' ∉ year) (s : Text) :
    Text.splitAt '\n' (update year s) = (Text.splitAt '\n' s).map (update year) := by
  induction s using Text.lines_induction with
  | line s hs =>
    rw [Path.splitAt_of_notMem hs, Path.splitAt_of_notMem (lf_notMem_update hyear hs)]
    rfl
  | more s r hs ih =>
    rw [update_append_line hyear, Path.splitAt_append_cons, Path.splitAt_append_cons, List.map_append, ih,
      Path.splitAt_of_notMem hs, Path.splitAt_of_notMem (lf_notMem_update hyear hs)]
    rfl

end Notice

namespace Updater

open Notice

variable {u : Updater} {y : Int}

/-- An update of the years goes line by line, whatever the year: what comes before a line feed and what
comes after it are updated apart. It keeps the number of lines, and every line in which no notice is to be
updated. -/
theorem updateYears_by_lines {today : Int} {options : Options} {patterns : Patterns}
    (hu : ofOptions today options patterns = .ok u) (hyear : u.year = .int y) :
    (∀ a b, u.updateYears (a ++ '\n' :: b) = u.updateYears a ++ '\n' :: u.updateYears b) ∧
      ∀ s, (Text.splitAt '\n' (u.updateYears s)).length = (Text.splitAt '\n' s).length ∧
        ∀ (i : Nat) line, (Text.splitAt '\n' s)[i]? = some line →
          (∀ rest, rest <:+ line → takeDated? (toString y).toList rest = none) →
          (Text.splitAt '\n' (u.updateYears s))[i]? = some line := by
  have hlf : '\n' ∉ (toString y).toList := by
    intro hmem
    rcases Text.mem_toString hmem with hdigit | heq
    · cases hdigit
    · cases heq
  unfold updateYears
  rw [(made_of_ofOptions hu hyear).yearText]
  refine ⟨update_append_line hlf, fun s => ?_⟩
  rw [splitAt_update hlf]
  refine ⟨List.length_map _, fun i line hline hnone => ?_⟩
  rw [List.getElem?_map, hline, Option.map_some, update_eq_self hnone]

/-- In a year before the first one, with a line that ends where the digits of a year are still missing. -/
theorem updateYears_by_lines_of_two :
    let u : Updater := { year := .int (-7), yearText := "-7" }
    let a := "Copyright 2010,".toList
    let b := "Copyright 201".toList
    u.updateYears (a ++ '\n' :: b) = u.updateYears a ++ '\n' :: u.updateYears b ∧
      Text.splitAt '\n' (u.updateYears (a ++ '\n' :: b)) = ["Copyright 2010--7".toList, b] ∧
      (Text.splitAt '\n' (u.updateYears (a ++ '\n' :: b)))[1]? = some b := by
  intro u a b
  have hmade : ofOptions 2024 [("year", .int (-7))] Patterns.usual = .ok u := rfl
  obtain ⟨happend, hlines⟩ := updateYears_by_lines (y := -7) hmade rfl
  refine ⟨happend a b, by decide +kernel, (hlines _).2 1 b (by decide +kernel) fun rest hrest => ?_⟩
  rw [← List.mem_tails] at hrest
  revert rest
  decide +kernel

end Updater

end SourceTidy
