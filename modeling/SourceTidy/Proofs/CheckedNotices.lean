import SourceTidy.Proofs.UpdatedFiles
import SourceTidy.Proofs.UsualConfig

/-!
# Notices for the check

An updater takes the digits of any script for a year, where the check of notices looks for ASCII
digits. So a scan with a template leaves files that pass the check, but for those that have a notice
with other digits only.
-/

namespace SourceTidy.Updater

open Notice

open SourceWalk
open Fixer (Selects)
open Rewriter (Chosen)

variable {u : Updater} {w : World} {notice s : Text}

lemma exists_yearText {today : Int} {options : Options} {patterns : Patterns}
    (h : ofOptions today options patterns = .ok u) : ∃ n : Int, u.yearText = toString n := by
  obtain ⟨-, -, h⟩ := bind_eq_ok h
  obtain ⟨yearText, hdigits, h⟩ := bind_eq_ok h
  cases h
  unfold yearDigits at hdigits
  split at hdigits
  case h_4 => cases hdigits
  all_goals
    obtain ⟨n, -, hn⟩ := map_eq_ok hdigits
    exact ⟨n, hn.symm⟩

lemma isInitial_toString {n : Int} {c : Char} (hc : c ∈ (toString n).toList) : isInitial c = false := by
  rw [Bool.eq_false_iff]
  intro hinitial
  simp only [isInitial, Bool.or_eq_true, beq_iff_eq] at hinitial
  rcases Text.mem_toString hc with hdigit | rfl
  · rcases hinitial with rfl | rfl <;> cases hdigit
  · rcases hinitial with h | h <;> cases h

lemma isDecimal_of_isDigit (c : Char) (h : c.isDigit) : Text.isDecimal c := by
  rw [Text.isDecimal, Text.digitValue?_of_isDigit h]
  rfl

lemma foundIn_datedText {n : Int} (hyear : u.yearText = toString n) {p : Char → Bool}
    (hp : ∀ c, p c → Text.isDecimal c) (s : Text) : foundIn p (u.datedText s) = foundIn p s := by
  unfold datedText
  split
  · refine foundIn_update (fun c hc => isInitial_toString (n := n) ?_) hp s
    rwa [← hyear]
  · rfl

lemma foundIn_textWith {n : Int} (hyear : u.yearText = toString n)
    (hnotice : foundIn Char.isDigit notice = true) (s : Text) :
    foundIn Char.isDigit (u.textWith notice s) = true ↔
      (foundInText s = true → foundIn Char.isDigit s = true) := by
  have htext : foundInText (u.datedText s) = foundInText s :=
    foundIn_datedText hyear (fun _ => id) s
  unfold textWith
  rw [htext]
  split
  · next hfound =>
    rw [foundIn_datedText hyear isDecimal_of_isDigit]
    exact ⟨fun h _ => h, fun h => h hfound⟩
  · next hnone =>
    refine iff_of_true ?_ fun hfound => absurd hfound hnone
    exact foundIn_append isDecimal_of_isDigit hnotice _

lemma examine_notice (s : Text) :
    Check.examine (Text.encode s) .notice = .ok .pass ↔ foundIn Char.isDigit s = true := by
  rw [Check.examine, foundInBytes_encode, Check.verdict]
  split
  · next h => exact iff_of_true rfl h
  · next h => exact iff_of_false (fun heq => by cases heq) h

lemma run_scan_of_notice (hbackup : u.backup.isOn = false)
    (hnotice : u.notice.run w = (.ok (some (CodePoint.ofText notice)), w)) (hp : w.tree.Plain)
    (path : String) :
    ∃ r u' w', (u.scan (.text path)).run w = (.ok (r, u'), w') ∧
      (r = .ok () ↔ ∃ items, SourceTree.Finds u.patterns .text path w items) ∧
      (r = .ok () → ∀ loc s, Selects u.patterns path w loc s →
        w'.tree.bytesAt loc = some (Text.encode (u.textWith notice s))) := by
  obtain ⟨hon, hin⟩ := run_notice_eq_some_iff.mp hnotice
  obtain ⟨v, r, u', w', hframe, hscan, hcase⟩ := u.run_scan_cases w path
  have htree := World.tree_eq_of_frame hframe
  refine ⟨r, u', w', hscan, ?_⟩
  have hprepared : u.preparedIn w.tree = .ok { u with template := some (CodePoint.ofText notice) } := by
    rw [preparedIn, if_pos hon, hin]
    rfl
  rw [hprepared] at hcase
  rcases hcase with ⟨g, hg, -⟩ | ⟨hready, hcase⟩
  · cases hg
  cases hready
  rcases hcase with ⟨g, hsel, rfl, rfl⟩ | ⟨sel, hsel, hrun⟩
  · exact ⟨iff_of_false (fun h => by cases h) (not_finds hsel), fun h => by cases h⟩
  rw [← htree] at hp
  obtain ⟨hreturns, hnew⟩ := Rewriter.fold_ends (gives_of_toText (toText_updateText_of_notice rfl)) hbackup
    (Selection.mode_of_ofPatterns hsel) hp hrun
  refine ⟨hreturns.trans ?_, fun hok loc s hselects => ?_⟩
  · rw [htree]
    exact (finds_iff_noObstacle hsel).symm
  · have hno := hreturns.mp hok
    have hchosen : Chosen v.tree sel (sources (stops v.tree sel path)) loc s := by
      rw [htree] at hno ⊢
      exact (Fixer.selects_iff hsel hno).mp hselects
    obtain ⟨-, -, -, data, mode, hfile, -⟩ := id hchosen
    exact FileTree.bytesAt_eq_some_iff.mpr ⟨_, (hnew hok).new loc s data mode hchosen hfile⟩

/-- A scan with a template that makes a notice returns if the source tree can be searched. A selected
file then passes the check of notices unless it had one before that the check does not find. -/
theorem scan_passes_notice_check_iff {today : Int} {options : Options} {patterns : Patterns}
    (hu : ofOptions today options patterns = .ok u) (hbackup : u.backup.isOn = false)
    (hnotice : u.notice.run w = (.ok (some (CodePoint.ofText notice)), w))
    (hfound : Notice.foundInBytes (Text.encode notice) = true) (hp : w.tree.Plain) (path : String) :
    ∃ r u' w', (u.scan (.text path)).run w = (.ok (r, u'), w') ∧
      (r = .ok () ↔ ∃ items, SourceTree.Finds u.patterns .text path w items) ∧
      (r = .ok () → ∀ loc s, Selects u.patterns path w loc s → ∃ data,
        w'.tree.bytesAt loc = some data ∧ (Check.examine data .notice = .ok .pass ↔
          (Notice.foundInText s = true → Notice.foundInBytes (Text.encode s) = true))) := by
  obtain ⟨n, hyear⟩ := exists_yearText hu
  rw [Notice.foundInBytes_encode] at hfound
  obtain ⟨r, u', w', hscan, hreturns, hbytes⟩ := run_scan_of_notice hbackup hnotice hp path
  refine ⟨r, u', w', hscan, hreturns, fun hok loc s hselects => ⟨_, hbytes hok loc s hselects, ?_⟩⟩
  rw [examine_notice, foundIn_textWith hyear hfound, Notice.foundInBytes_encode]

/-- A file without a notice gets one that the check finds. -/
theorem scan_passes_notice_check_of_none :
    let w : World := { tree := { entries := [(["a.c"], .file [0x78, 0x0a] 0o644),
                                 (["t.txt"], .file (Text.encode "Copyright \x7byear\x7d\n".toList) 0o644)] },
                       year := 2024 }
    let u : Updater := { templatePath := .text "t.txt", year := .int 2019, yearText := "2019",
                         patterns := ⟨.texts ["*.c"], .texts [], .texts []⟩ }
    ∃ u' w' data, (u.scan (.text "a.c")).run w = (.ok (.ok (), u'), w') ∧
      w'.tree.bytesAt ["a.c"] = some data ∧ Check.examine data .notice = .ok .pass := by
  intro w u
  have hp : w.tree.Plain := by decide
  have hin : u.noticeIn w.tree = .ok (CodePoint.ofText "Copyright 2019\n".toList) :=
    noticeIn_of_file rfl (Path.locate_name hp rfl) rfl (by decide) (by decide +kernel)
  have hselects : Selects u.patterns "a.c" w ["a.c"] ['x', '\n'] :=
    Fixer.selects_file rfl ⟨Path.locate_name hp rfl, rfl, rfl, by decide +kernel, rfl⟩
  have hu : ofOptions 2024 [("copyright_template_path", .text "t.txt"), ("year", .int 2019)] u.patterns =
      .ok u := rfl
  obtain ⟨r, u', w', hscan, hreturns, hpass⟩ := scan_passes_notice_check_iff hu rfl
    (run_notice_eq_some_iff.mpr ⟨rfl, hin⟩) (by decide +kernel) hp "a.c"
  obtain rfl : r = .ok () := by
    obtain ⟨items, hitems, -⟩ := hselects
    exact hreturns.mpr ⟨items, hitems⟩
  obtain ⟨data, hdata, hcheck⟩ := hpass rfl _ _ hselects
  exact ⟨u', w', data, hscan, hdata, hcheck.mpr fun h => absurd h (by decide +kernel)⟩

/-- A file with a notice in other digits gets none from the template, and does not pass the check. -/
theorem scan_leaves_notice_in_other_digits :
    let s : Text := "Copyright ٢٠١٨\n".toList
    let w : World := { tree := { entries := [(["a.c"], .file (Text.encode s) 0o644),
                                 (["t.txt"], .file (Text.encode "Copyright \x7byear\x7d\n".toList) 0o644)] },
                       year := 2024 }
    let u : Updater := { templatePath := .text "t.txt", year := .int 2019, yearText := "2019",
                         patterns := ⟨.texts ["*.c"], .texts [], .texts []⟩ }
    Notice.foundInBytes (Text.encode "Copyright 2019\n".toList) = true ∧
    u.notice.run w = (.ok (some (CodePoint.ofText "Copyright 2019\n".toList)), w) ∧
    Selects u.patterns "a.c" w ["a.c"] s ∧
    ∃ u' w' data, (u.scan (.text "a.c")).run w = (.ok (.ok (), u'), w') ∧
      w'.tree.bytesAt ["a.c"] = some data ∧ Check.examine data .notice ≠ .ok .pass := by
  intro s w u
  have hp : w.tree.Plain := by decide
  have hin : u.noticeIn w.tree = .ok (CodePoint.ofText "Copyright 2019\n".toList) :=
    noticeIn_of_file rfl (Path.locate_name hp rfl) rfl (by decide) (by decide +kernel)
  have hnotice := run_notice_eq_some_iff.mpr ⟨rfl, hin⟩
  have hselects : Selects u.patterns "a.c" w ["a.c"] s :=
    Fixer.selects_file rfl ⟨Path.locate_name hp rfl, rfl, rfl, by decide +kernel, by decide +kernel⟩
  obtain ⟨r, u', w', hscan, hreturns, hbytes⟩ := run_scan_of_notice rfl hnotice hp "a.c"
  obtain rfl : r = .ok () := by
    obtain ⟨items, hitems, -⟩ := hselects
    exact hreturns.mpr ⟨items, hitems⟩
  have hfound : Notice.foundInBytes (Text.encode "Copyright 2019\n".toList) = true := by decide +kernel
  have hdata := hbytes rfl _ _ hselects
  refine ⟨hfound, hnotice, hselects, u', w', _, hscan, hdata, ?_⟩
  rw [Ne, examine_notice, foundIn_textWith (n := 2019) rfl (by decide +kernel)]
  exact fun h => absurd (h (by decide +kernel)) (by decide +kernel)

end SourceTidy.Updater
