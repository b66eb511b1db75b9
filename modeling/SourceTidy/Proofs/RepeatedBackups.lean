import SourceTidy.Proofs.BackupScans
import SourceTidy.Proofs.RepeatedUpdates

/-!
# Repeated updates that keep the old files

A second scan finds what the first one has written, and writes it again. If old files are kept, it puts
these files in place of the ones that the first scan has kept, and changes nothing else.
-/

namespace SourceTidy

open SourceTidy.Path FileTree SourceWalk

variable {t t' t'' : FileTree} {sel : Selection} {path e : String} {loc : Location} {w w' : World}

/-- A walk comes to nothing new in a tree with the same directories but to new files. -/
lemma SourceWalk.mem_sources_of_sameDirs {src : Source} {data : Bytes} {mode : Nat} (hp : t.Plain)
    (hd : t.SameDirs t') (hclean : ∀ g, .fault g ∉ stops t sel path) (hsrc : src ∈ sources (stops t' sel path))
    (hloc : locate t' .follow src.path = .ok loc) (hfile : t.get? loc = some (.file data mode)) :
    src ∈ sources (stops t sel path) ∧ locate t .follow src.path = .ok loc := by
  obtain ⟨root, hroot⟩ := locate_of_noFault hclean
  obtain ⟨root', hroot'⟩ := locate_of_mem_sources hsrc
  obtain rfl : root' = root := by
    obtain ⟨entry, hentry⟩ := Option.isSome_iff_exists.mp (locate_isSome hp hroot)
    cases entry with
    | dir m =>
      have hsame := locate_sameDirs hp hd hroot (isDirAt_iff.mpr ⟨m, hentry⟩)
      exact Except.ok.inj (hroot'.symm.trans hsame)
    | file data m =>
      obtain ⟨name, dir, rfl, hleads⟩ := leadsTo_of_file hp hroot hentry
      exact (hleads.sameDirs hp hd (hp.inDir hentry)).eq_of_locate hd.plain (hp.isName hentry) hroot'
    | link target => exact absurd hentry (hp.noLinks _ _)
  obtain ⟨rel, -, hoff, rfl⟩ :=
    (surveys_stops hd.plain hroot' (locate_isSome hd.plain hroot')).offered src hsrc
  obtain rfl := locate_sourceAt hd.plain hroot' hoff hloc
  have hoff' : Offers t sel path root' rel := ⟨⟨data, mode, hfile⟩, hoff.notSkipped, hoff.wanted⟩
  obtain ⟨rels, -, hmem, hrels⟩ := (surveys_stops hp hroot (locate_isSome hp hroot)).sources hclean
  refine ⟨?_, locate_pathTo hp hroot rel hoff'.isSome (locate_eq_ok_iff.mp hloc).2.2.2.1⟩
  rw [hrels]
  exact List.mem_map_of_mem ((hmem rel).mpr ⟨trivial, hoff'⟩)

namespace Rewriter

/-- What the second of two scans makes of the tree that the first one has left: the files that it selects
are kept as they are, and nothing changes but at places for files that are kept. -/
structure ChangesKeptOnly (sel : Selection) (path e : String) (t t' t'' : FileTree) : Prop where
  kept : ∀ loc s, Chosen t' sel (sources (stops t' sel path)) loc s → t''.get? (keptAt e loc) = t'.get? loc
  others : ∀ loc, (∀ loc' s, Chosen t sel (sources (stops t sel path)) loc' s ∨
    Chosen t' sel (sources (stops t' sel path)) loc' s → loc ≠ keptAt e loc') → t''.get? loc = t'.get? loc

lemma Rewrote.again {a a₂ : Rewriter} {formatters formatters₂ : String → Option Formatter}
    {out out₂ : Text → Text} (hp : t.Plain) (hclean : ∀ g, .fault g ∉ stops t sel path)
    (hcalm : Calm t sel path (some e)) (hcalm₂ : Calm t' sel path (some e))
    (h : a.Rewrote formatters (some e) t sel path (sources (stops t sel path)) t')
    (h₂ : a₂.Rewrote formatters₂ (some e) t' sel path (sources (stops t' sel path)) t'')
    (hout : ∀ src s, a.bytes? formatters src s = some (Text.encode (out s)))
    (hout₂ : ∀ src s, a₂.bytes? formatters₂ src s = some (Text.encode (out₂ s)))
    (hcr : ∀ s, '\r' ∉ s → '\r' ∉ out s) (hagain : ∀ s, out₂ (out s) = out s) :
    ChangesKeptOnly sel path e t t' t'' := by
  refine ⟨?_, fun loc hother => ?_⟩
  · intro loc s hchosen
    obtain ⟨src, hsrc, hloc, data, mode, hfile, hwant⟩ := id hchosen
    rw [h₂.old src hsrc loc data mode s ⟨hloc, hfile, hwant⟩ e rfl (hcalm₂ e rfl loc s hchosen), hfile]
  by_cases hchosen : ∃ s, Chosen t' sel (sources (stops t' sel path)) loc s
  · obtain ⟨s, src, hsrc, hloc, data, mode, hfile, hwant⟩ := hchosen
    obtain ⟨s₀, src₀, hsrc₀, hloc₀, data₀, mode₀, hfile₀, hwant₀⟩ :
        ∃ s₀, Chosen t sel (sources (stops t sel path)) loc s₀ := by
      by_contra hnone
      have hsame : t'.get? loc = t.get? loc := by
        refine h.others loc ?_ fun e' he' hkept => ?_
        · rintro loc' s' hc rfl
          exact hnone ⟨s', hc⟩
        · cases he'
          obtain ⟨loc', s', hc, heq⟩ := hcalm.chosen rfl hkept
          exact hother loc' s' (.inl hc) heq
      rw [hfile] at hsame
      obtain ⟨hsrc', hloc'⟩ := mem_sources_of_sameDirs hp h.dirs hclean hsrc hloc hsame.symm
      exact hnone ⟨s, src, hsrc', hloc', data, mode, hsame.symm, hwant⟩
    obtain ⟨bytes₀, hbytes₀, hnew₀⟩ :=
      h.new src₀ hsrc₀ loc data₀ mode₀ s₀ ⟨hloc₀, hfile₀, hwant₀⟩
    obtain ⟨bytes, hbytes, hnew⟩ := h₂.new src hsrc loc data mode s ⟨hloc, hfile, hwant⟩
    cases (hout src₀ s₀).symm.trans hbytes₀
    cases (hout₂ src s).symm.trans hbytes
    have hnew' : t'.get? loc = some (.file (Text.encode (out s₀)) (writtenMode newFileMode)) := hnew₀
    have hsettled : Updater.Settled sel out₂ t' loc :=
      Updater.settled_of_written hcr hagain (Source.cr_notMem_of_wanted hwant₀) hnew'
    rw [hnew, hnew₀, (hsettled data mode s hfile hwant).1]
    rw [hfile, Option.some.injEq, Entry.file.injEq] at hnew₀
    rw [hnew₀.1]
    rfl
  · refine h₂.others loc ?_ fun e' he' hkept => ?_
    · rintro loc' s hc rfl
      exact hchosen ⟨s, hc⟩
    · cases he'
      obtain ⟨loc', s, hc, heq⟩ := hcalm₂.chosen rfl hkept
      exact hother loc' s (.inr hc) heq

end Rewriter

namespace Updater

open Rewriter Selection

variable {u u' : Updater} {y : Int}

lemma bytes?_of_text {out : Text → Text} (h : ∀ s, CodePoint.toText (u.updateText s) = .ok (out s))
    (formatters : String → Option Formatter) (src : Source) (s : Text) :
    u.rewriter.bytes? formatters src s = some (Text.encode (out s)) := by
  change u.rewritten? s = _
  rw [rewritten?, h]
  rfl

section

variable (hbackup : u.backup = .text e) (hne : e ≠ "") (he : '/' ∉ e.toList)
  (hsel : ofPatterns .text u.patterns = .ok sel) (hp : w.tree.Plain)

include hbackup hne he hsel hp

lemma rewrote_of_scan (hapart : Apart w.tree sel path (some e))
    (hrun : (u.scan (.text path)).run w = (.ok (.ok (), u'), w')) :
    u.preparedIn w.tree = .ok u' ∧ u'.rewriter.AllReady w.formatters (some e) w.tree sel path ∧
      u'.rewriter.Rewrote w.formatters (some e) w.tree sel path
        (sources (stops w.tree sel path)) w'.tree := by
  obtain ⟨v, hframe, hreturns⟩ := u.scan_returns_iff hsel w path
  obtain ⟨hready, hfold⟩ := (hreturns u' w').mp hrun
  rw [hbackup] at hfold
  exact ⟨hready, rewrote_of_fold_frame hsel hne he hp hapart hframe hfold⟩

lemma run_scan_of_file {data bytes : Bytes} {mode : Nat} {s : Text} (hoff : u.templatePath.isOn = false)
    (h : Picks w.tree sel .text path loc data mode s) (hnot : w.tree.isDirAt (keptAt e loc) = false)
    (hfits : Fits e path loc) (hbytes : u.rewritten? s = some bytes) :
    Apart w.tree sel path (some e) ∧ ∃ w', (u.scan (.text path)).run w = (.ok (.ok (), u), w') ∧
      w.tree.SameDirs w'.tree ∧ w'.tree.get? loc = some (.file bytes newFileMode) ∧
      w'.tree.get? (keptAt e loc) = some (.file data mode) := by
  have hasks : Asks u.backup (some e) := ⟨hbackup, hne, he⟩
  have hnot' : ∀ e' ∈ some e, w.tree.isDirAt (keptAt e' loc) = false := by
    rintro _ ⟨⟩
    exact hnot
  obtain ⟨v, hframe, hreturns⟩ := u.scan_returns_iff hsel w path
  have htree := World.tree_eq_of_frame hframe
  have hready : u.rewriter.Ready v.formatters (some e) (sourceAt path []) s loc := by
    refine ⟨congrArg Option.isSome hbytes, ?_⟩
    rintro _ ⟨⟩
    exact hfits
  obtain ⟨w', hfold, hd, ⟨bytes', hout, hnew⟩, hold⟩ := run_fold_of_file (a := u.rewriter) (w := v) hasks
    (mode_of_ofPatterns hsel) (htree ▸ hp) (htree ▸ h) (htree ▸ hnot') hready
  cases hbytes.symm.trans hout
  refine ⟨apart_of_file hp h.located h.file hasks hnot', w', ?_, htree ▸ hd, hnew, hold e rfl⟩
  exact (hreturns u w').mpr ⟨by rw [preparedIn, if_neg (ne_true_of_eq_false hoff)], hfold⟩

end

/-- The second of two scans changes nothing if no old files are kept. Otherwise it changes nothing but
the files that are kept, if none is kept under the name of a directory or of a file that the walk comes
to. -/
theorem scan_again_changes_kept_only {today : Int} {options : Options} {patterns : Patterns}
    (hu : ofOptions today options patterns = .ok u) (hyear : u.year = .int y)
    (hy : 1000 ≤ y ∧ y ≤ 9999) (hp : w.tree.Plain)
    (hnotice : ∀ notice, u.notice.run w = (.ok (some (CodePoint.ofText notice)), w) → u.Lasting notice)
    (path : String) :
    (u.backup.isOn = false → ∃ r u' w', (u.scan (.text path)).run w = (.ok (r, u'), w') ∧
      ∀ tool, tool = u ∨ tool = u' → ∀ v : World, v.tree = w'.tree →
        ∃ r₂ u₂ v', (tool.scan (.text path)).run v = (.ok (r₂, u₂), v') ∧ v'.tree = v.tree ∧
          ((u.notice.run v).1 = (u.notice.run w).1 → r₂ = r)) ∧
    ∀ e sel u' w', u.backup = .text e → e ≠ "" → '/' ∉ e.toList →
      ofPatterns .text u.patterns = .ok sel → Apart w.tree sel path (some e) →
      Apart w'.tree sel path (some e) → (u.scan (.text path)).run w = (.ok (.ok (), u'), w') →
      ∀ tool, tool = u ∨ tool = u' → ∀ (v : World) u₂ v', v.tree = w'.tree →
        (tool.scan (.text path)).run v = (.ok (.ok (), u₂), v') →
        ChangesKeptOnly sel path e w.tree w'.tree v'.tree := by
  refine ⟨fun hbackup => scan_again_keeps_tree hu hyear hy hbackup hp hnotice path, ?_⟩
  intro e sel u' w' hbackup hne he hsel hapart hapart' hrun tool htool v u₂ v' hv hrun₂
  obtain ⟨hready, hall, hwrote⟩ := rewrote_of_scan hbackup hne he hsel hp hapart hrun
  obtain ⟨hprepared, hbackup₂, hpatterns₂⟩ : (∀ t, tool.preparedIn t = u.preparedIn t) ∧
      tool.backup = u.backup ∧ tool.patterns = u.patterns := by
    rcases htool with rfl | rfl
    · exact ⟨fun _ => rfl, rfl, rfl⟩
    · exact ⟨preparedIn_of_preparedIn hready, settings_of_preparedIn hready⟩
  rw [← hv] at hapart' hwrote ⊢
  obtain ⟨hready₂, -, hwrote₂⟩ := rewrote_of_scan (hbackup₂.trans hbackup) hne he (hpatterns₂ ▸ hsel)
    hwrote.dirs.plain hapart' hrun₂
  obtain ⟨out, out₂, htext, htext₂, hcr, hagain⟩ := (made_of_ofOptions hu hyear).texts_again hy
    (fun notice hon hin => hnotice notice (run_notice_eq_some_iff.mpr ⟨hon, hin⟩)) hready
    ((hprepared v.tree).symm.trans hready₂)
  exact hwrote.again hp (fun g hg => hall.noObstacle g (.inl hg)) hapart.calm hapart'.calm hwrote₂
    (bytes?_of_text htext _) (bytes?_of_text htext₂ _) hcr hagain

def noticeData (years : String) : Bytes := Text.encode s!"Copyright {years}\n".toList

def oldNoticeWorld : World := { tree := { entries := [(["a.c"], .file (noticeData "2010") 0o644)] }, year := 2019 }

/-- The usual updater of the year 2019, which keeps the old files. -/
def keeping : Updater where
  backup := .text ".bak"
  year := .int 2019
  yearText := "2019"
  patterns := ⟨.texts ["*.c"], .texts [], .texts []⟩

lemma run_scans_of_old_notice :
    let w := oldNoticeWorld
    let u := keeping
    ∃ sel w' w'', ofPatterns .text u.patterns = .ok sel ∧
      (Apart w.tree sel "a.c" (some ".bak") ∧ (u.scan (.text "a.c")).run w = (.ok (.ok (), u), w') ∧
        w.tree.SameDirs w'.tree ∧ w'.tree.get? ["a.c"] = some (.file (noticeData "2010-2019") 0o644) ∧
        w'.tree.get? ["a.c.bak"] = some (.file (noticeData "2010") 0o644)) ∧
      Apart w'.tree sel "a.c" (some ".bak") ∧ (u.scan (.text "a.c")).run w' = (.ok (.ok (), u), w'') ∧
        w''.tree.get? ["a.c.bak"] = some (.file (noticeData "2010-2019") 0o644) := by
  intro w u
  have hp : w.tree.Plain := by decide
  obtain ⟨sel, hsel⟩ : ∃ sel, ofPatterns .text u.patterns = .ok sel := ⟨_, rfl⟩
  obtain ⟨hpicks, hwant'⟩ :
      Picks w.tree sel .text "a.c" ["a.c"] (noticeData "2010") 0o644 "Copyright 2010\n".toList ∧
      Source.wanted sel .text (noticeData "2010-2019") = some "Copyright 2010-2019\n".toList := by
    cases hsel
    exact ⟨⟨locate_name hp rfl, rfl, rfl, rfl, by decide +kernel⟩, by decide +kernel⟩
  have hfits : Fits ".bak" "a.c" ["a.c"] := ⟨by decide, by decide⟩
  obtain ⟨hapart, w', hrun, hd, hnew, hold⟩ := run_scan_of_file (u := u) rfl (by decide) (by decide) hsel
    hp rfl hpicks rfl hfits (show u.rewritten? _ = some (noticeData "2010-2019") by decide +kernel)
  obtain ⟨hapart', w'', hrun', -, -, hold'⟩ := run_scan_of_file (u := u) rfl (by decide) (by decide) hsel
    hd.plain rfl
    { hpicks with located := locate_name hd.plain (by rw [hnew]; rfl), file := hnew, wanted := hwant' }
    (by rw [hd.isDirAt_eq]; rfl) hfits (show u.rewritten? _ = some (noticeData "2010-2019") by decide +kernel)
  exact ⟨sel, w', w'', hsel, ⟨hapart, hrun, hd, hnew, hold⟩, hapart', hrun', hold'⟩

/-- A notice is put at the start of a file once, not twice. A year that was brought up to date stays as it
is where the old file is kept. -/
theorem scan_again_keeps_new_notice :
    (let w : World := { tree := { entries := [(["a.c"], .file [0x78, 0x0a] 0o644),
                                  (["t.txt"], .file (Text.encode "Copyright \x7byear\x7d us\n".toList) 0o644)] },
                        year := 2024 }
     let u : Updater := { templatePath := .text "t.txt", year := .int 2019, yearText := "2019",
                          patterns := ⟨.texts ["*.c"], .texts [], .texts []⟩ }
     ∃ r u' w', (u.scan (.text "a.c")).run w = (.ok (r, u'), w') ∧
       ∃ r₂ u₂ v, (u'.scan (.text "a.c")).run w' = (.ok (r₂, u₂), v) ∧ v.tree = w'.tree) ∧
    let w := oldNoticeWorld
    let u := keeping
    ∃ w' w'', (u.scan (.text "a.c")).run w = (.ok (.ok (), u), w') ∧
      (u.scan (.text "a.c")).run w' = (.ok (.ok (), u), w'') ∧
      w''.tree.get? ["a.c"] = w'.tree.get? ["a.c"] := by
  refine ⟨?_, ?_⟩ <;> intro w u <;> have hp : w.tree.Plain := by decide
  · have hin : u.noticeIn w.tree = .ok (CodePoint.ofText "Copyright 2019 us\n".toList) :=
      noticeIn_of_file rfl (locate_name hp rfl) rfl (by decide) (by decide +kernel)
    have hlasting : u.Lasting "Copyright 2019 us\n".toList := ⟨rfl, by decide +kernel, by decide +kernel⟩
    have hnotice : ∀ notice, u.notice.run w = (.ok (some (CodePoint.ofText notice)), w) →
        u.Lasting notice := by
      intro notice hrun
      have hin' := (run_notice_eq_some_iff.mp hrun).2
      rw [hin] at hin'
      have hsame := congrArg CodePoint.toText (Except.ok.inj hin')
      rw [CodePoint.toText_ofText, CodePoint.toText_ofText] at hsame
      exact Except.ok.inj hsame ▸ hlasting
    obtain ⟨r, u', w', hscan, hagain⟩ := (scan_again_changes_kept_only (u := u) (y := 2019)
      (show ofOptions 2024 [("copyright_template_path", .text "t.txt"), ("year", .int 2019)] u.patterns = .ok u
        from rfl) rfl (by decide) hp hnotice "a.c").1 rfl
    obtain ⟨r₂, u₂, v, hscan₂, htree, -⟩ := hagain u' (.inr rfl) w' rfl
    exact ⟨r, u', w', hscan, r₂, u₂, v, hscan₂, htree⟩
  · obtain ⟨sel, w', w'', hsel, ⟨hapart, hrun, hd, hnew, -⟩, hapart', hrun', -⟩ := run_scans_of_old_notice
    have hnotice : ∀ notice, u.notice.run w = (.ok (some (CodePoint.ofText notice)), w) →
        u.Lasting notice := by
      intro notice hrun
      cases (run_notice_eq_some_iff.mp hrun).1
    have honly := (scan_again_changes_kept_only (u := u) (y := 2019)
      (show ofOptions 2019 [("backup_ext", .text ".bak")] u.patterns = .ok u from rfl) rfl (by decide) hp
      hnotice "a.c").2 ".bak" sel u w' rfl (by decide) (by decide) hsel hapart hapart' hrun u (.inl rfl)
      w' u w'' rfl hrun'
    refine ⟨w', w'', hrun, hrun', honly.others ["a.c"] fun loc s hc => ?_⟩
    obtain rfl : loc = ["a.c"] := by
      rcases hc with ⟨src, hsrc, hloc, -⟩ | ⟨src, hsrc, hloc, -⟩
      · exact eq_of_met hp (locate_name hp rfl) rfl ⟨src, hsrc, hloc⟩
      · exact eq_of_met hd.plain (locate_name hd.plain (by rw [hnew]; rfl)) hnew ⟨src, hsrc, hloc⟩
    decide

/-- The second scan puts what the first one has written in place of the original. -/
theorem scan_again_replaces_backup :
    let w := oldNoticeWorld
    let u := keeping
    ofOptions 2019 [("backup_ext", .text ".bak")] u.patterns = .ok u ∧ w.tree.Plain ∧
    ∃ w' w'', (u.scan (.text "a.c")).run w = (.ok (.ok (), u), w') ∧
      (u.scan (.text "a.c")).run w' = (.ok (.ok (), u), w'') ∧
      w'.tree.get? ["a.c.bak"] = some (.file (noticeData "2010") 0o644) ∧
      w''.tree.get? ["a.c.bak"] = some (.file (noticeData "2010-2019") 0o644) := by
  intro w u
  obtain ⟨sel, w', w'', -, ⟨-, hrun, -, -, hold⟩, -, hrun', hold'⟩ := run_scans_of_old_notice
  exact ⟨rfl, by decide, w', w'', hrun, hrun', hold, hold'⟩

end Updater

end SourceTidy
