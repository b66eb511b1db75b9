import SourceTidy.Proofs.FixedTree
import SourceTidy.Proofs.TemplatedScans

/-!
# Scans that keep the old files

A scan that keeps the old files leaves each of them, with its bytes and permission bits, beside the
file that it has written.
-/

namespace SourceTidy

open Session Selection SourceTree SourceWalk

namespace Fixer

variable {f : Fixer} {fixes : List LineFix} {sel : Selection} {w w' : World} {path : String}

lemma lineFixes_of_scan (h : (f.scan (.text path)).run w = (.ok (), w')) :
    ∃ fixes, f.lineFixes = .ok fixes := by
  obtain ⟨fixes, v, hfixes, -⟩ := run_bind_eq_ok h
  rw [run_lift] at hfixes
  exact ⟨fixes, congrArg Prod.fst hfixes⟩

lemma rewriter_backup (backup : Setting) :
    ({ f with backup := backup } : Fixer).rewriter fixes = f.rewriter fixes := rfl

lemma run_scan_of_file {o : Option String} {loc : Location} {data bytes : Bytes} {mode : Nat} {s : Text}
    (hasks : Rewriter.Asks f.backup o) (hfixes : f.lineFixes = .ok fixes)
    (hsel : ofPatterns .text f.patterns = .ok sel) (hp : w.tree.Plain)
    (h : Picks w.tree sel .text path loc data mode s)
    (hnot : ∀ e ∈ o, w.tree.isDirAt (keptAt e loc) = false) (hfits : ∀ e ∈ o, Path.Fits e path loc)
    (hbytes : f.rewritten? fixes w.formatters (sourceAt path []) s = some bytes) :
    ∃ w', (f.scan (.text path)).run w = (.ok (), w') ∧
      w'.tree.get? loc = some (.file bytes ((f.rewriter fixes).modeAfter o mode)) := by
  have hready : (f.rewriter fixes).Ready w.formatters o (sourceAt path []) s loc :=
    ⟨congrArg Option.isSome hbytes, hfits⟩
  obtain ⟨w', hfold, -, ⟨bytes', hout, hnew⟩, -⟩ :=
    Rewriter.run_fold_of_file hasks (mode_of_ofPatterns hsel) hp h hnot hready
  cases hbytes.symm.trans hout
  exact ⟨w', (run_scan_of_lineFixes hfixes hsel w path).trans hfold, hnew⟩

end Fixer

namespace Updater

variable {u u' : Updater} {sel : Selection} {w w' : World} {path : String}

lemma preparedIn_backup (backup : Setting) (t : FileTree) :
    ({ u with backup := backup } : Updater).preparedIn t =
      (u.preparedIn t).map fun u' => { u' with backup := backup } := by
  unfold preparedIn
  change (if u.templatePath.isOn = true then (u.noticeIn t).map _ else _) = _
  split
  · cases u.noticeIn t <;> rfl
  · rfl

lemma scan_returns_iff (hsel : ofPatterns .text u.patterns = .ok sel) (w : World) (path : String) :
    ∃ v, v.frame = w.frame ∧ ∀ u' w',
      (u.scan (.text path)).run w = (.ok (.ok (), u'), w') ↔ u.preparedIn w.tree = .ok u' ∧
        (fold sel (.text path) () (u'.rewriter.visitor sel u.backup)).run v = (.ok (), w') := by
  obtain ⟨v, r, u₁, w₁, hframe, hscan, hcase⟩ := u.run_scan_cases w path
  refine ⟨v, hframe, fun u' w' => ?_⟩
  rw [hscan]
  rcases hcase with ⟨g, hbad, rfl, rfl, rfl⟩ | ⟨hready, hcase⟩
  · rw [hbad]
    exact iff_of_false (fun h => by cases h) fun h => by cases h.1
  · obtain ⟨hbackup, hpatterns⟩ := settings_of_preparedIn hready
    rw [hpatterns, hsel] at hcase
    rcases hcase with ⟨g, hg, -⟩ | ⟨sel', hsel', hrun⟩
    · cases hg
    cases hsel'
    rw [hbackup] at hrun
    constructor
    · intro h
      cases h
      exact ⟨hready, hrun⟩
    · rintro ⟨hready', hrun'⟩
      cases hready.symm.trans hready'
      cases hrun.symm.trans hrun'
      rfl

end Updater

namespace Rewriter

variable {a : Rewriter} {sel : Selection} {t t' : FileTree} {path e : String} {srcs : List Source}
  {src : Source} {s : Text} {formatters : String → Option Formatter}

/-- Beside what a scan with the given selection has written stand the files that were there before, and
nothing else has changed. -/
structure KeepsOriginals (items : List (Source × Content)) (e : String)
    (out : Source → Text → Option Bytes) (t t' : FileTree) : Prop where
  kept : ∀ src s, (src, .text s) ∈ items → ∃ data mode bytes,
    t.entry src.path = .ok (.file data mode) ∧ t'.entry (src.path ++ e) = .ok (.file data mode) ∧
    out src s = some bytes ∧ t'.entry src.path = .ok (.file bytes newFileMode)
  others : ∀ loc, (∀ src s, (src, .text s) ∈ items → Path.locate t .follow src.path ≠ .ok loc ∧
    Path.locate t' .follow (src.path ++ e) ≠ .ok loc) → t'.get? loc = t.get? loc

lemma mem_found_iff : (src, .text s) ∈ found t sel .text srcs ↔
    src ∈ srcs ∧ ∃ loc data mode, Wanted t sel src loc data mode s := by
  rw [show (src, Content.text s) ∈ found t sel .text srcs ↔ _ from
    mem_found (m := .text)]
  refine and_congr_right fun _ => ⟨?_, ?_⟩
  · rintro ⟨data, hread, hwant⟩
    obtain ⟨loc, mode, hloc, hfile⟩ := FileTree.read_eq_ok_iff.mp hread
    exact ⟨loc, data, mode, hloc, hfile, hwant⟩
  · rintro ⟨loc, data, mode, hloc, hfile, hwant⟩
    exact ⟨data, FileTree.read_of_locate hloc hfile, hwant⟩

lemma Rewrote.located {o : Option String} {loc : Location} {data : Bytes} {mode : Nat}
    (h : a.Rewrote formatters o t sel path srcs t') (hp : t.Plain) (hsrc : src ∈ srcs)
    (hs : Wanted t sel src loc data mode s) : Path.locate t' .follow src.path = .ok loc := by
  obtain ⟨bytes, -, hnew⟩ := h.new src hsrc loc data mode s hs
  obtain ⟨name, dir, rfl, hleads⟩ := Path.leadsTo_of_file hp hs.located hs.file
  have hleads' := hleads.sameDirs hp h.dirs (hp.inDir hs.file)
  exact hleads'.locate h.dirs.plain .follow (by rw [hnew]; rfl)

lemma Rewrote.located_kept {o : Option String} {loc : Location} {data : Bytes} {mode : Nat}
    (h : a.Rewrote formatters o t sel path srcs t') (hp : t.Plain) (hsrc : src ∈ srcs)
    (hs : Wanted t sel src loc data mode s) (he : e ∈ o) (hslash : '/' ∉ e.toList)
    (hnot : ¬Joins t sel path (keptAt e loc)) :
    Path.locate t' .follow (src.path ++ e) = .ok (keptAt e loc) := by
  have hold := h.old src hsrc loc data mode s hs e he hnot
  obtain ⟨name, dir, rfl, hleads⟩ := Path.leadsTo_of_file hp hs.located hs.file
  have hleads' := hleads.sameDirs hp h.dirs (hp.inDir hs.file)
  have hfits := (h.ready src hsrc _ data mode s hs).fits e he
  exact (hleads'.append hslash hfits).locate h.dirs.plain .follow (by
    change (t'.get? (keptAt e (name :: dir))).isSome = true
    rw [hold]
    rfl)

lemma Rewrote.keepsOriginals
    (h : a.Rewrote formatters (some e) t sel path (sources (stops t sel path)) t') (hp : t.Plain)
    (he : '/' ∉ e.toList) (hcalm : Calm t sel path (some e)) :
    KeepsOriginals (found t sel .text (sources (stops t sel path))) e (a.bytes? formatters) t t' := by
  refine ⟨fun src s hmem => ?_, fun loc hother => h.others loc ?_ ?_⟩
  · obtain ⟨hsrc, loc, data, mode, hs⟩ := mem_found_iff.mp hmem
    obtain ⟨bytes, hbytes, hnew⟩ := h.new src hsrc loc data mode s hs
    have hnot := hcalm e rfl loc s (hs.chosen hsrc)
    exact ⟨data, mode, bytes, FileTree.entry_of_locate hs.located hs.file,
      FileTree.entry_of_locate (h.located_kept hp hsrc hs rfl he hnot)
        (h.old src hsrc loc data mode s hs e rfl hnot),
      hbytes, FileTree.entry_of_locate (h.located hp hsrc hs) hnew⟩
  · rintro loc' s ⟨src, hsrc, hloc', data, mode, hfile, hwant⟩ rfl
    exact (hother src s (mem_found_iff.mpr ⟨hsrc, loc, data, mode, hloc', hfile, hwant⟩)).1 hloc'
  · rintro e' he' hkept
    cases he'
    obtain ⟨loc', s, hchosen, rfl⟩ := hcalm.chosen rfl hkept
    obtain ⟨src, hsrc, hloc', data, mode, hfile, hwant⟩ := id hchosen
    have hs : Wanted t sel src loc' data mode s := ⟨hloc', hfile, hwant⟩
    exact (hother src s (mem_found_iff.mpr ⟨hsrc, loc', data, mode, hs⟩)).2
      (h.located_kept hp hsrc hs rfl he (hcalm e rfl loc' s hchosen))

section

variable {p : Patterns} {v w w' : World} (hsel : ofPatterns .text p = .ok sel) (hne : e ≠ "")
  (he : '/' ∉ e.toList) (hp : w.tree.Plain) (hapart : Apart w.tree sel path (some e))
  (hframe : v.frame = w.frame)
  (hrun : (fold sel (.text path) () (a.visitor sel (.text e))).run v = (.ok (), w'))

include hsel hne he hp hapart hframe hrun

lemma rewrote_of_fold_frame : a.AllReady w.formatters (some e) w.tree sel path ∧
    a.Rewrote w.formatters (some e) w.tree sel path (sources (stops w.tree sel path)) w'.tree := by
  have htree := World.tree_eq_of_frame hframe
  have hformatters := World.formatters_eq_of_frame hframe
  have hasks : Asks (.text e) (some e) := ⟨rfl, hne, he⟩
  rw [← htree] at hp hapart
  have hboth := allReady_of_fold hasks (mode_of_ofPatterns hsel) hapart.clear hp hrun
  rwa [htree, hformatters] at hboth

lemma keepsOriginals_of_fold :
    ∃ items, Finds p .text path w items ∧ KeepsOriginals items e (a.bytes? w.formatters) w.tree w'.tree := by
  obtain ⟨hready, hwrote⟩ := rewrote_of_fold_frame hsel hne he hp hapart hframe hrun
  exact ⟨_, (finds_iff hsel).mpr ⟨rfl, hready.noObstacle⟩, hwrote.keepsOriginals hp he hapart.calm⟩

end

end Rewriter

open Rewriter

/-- Scans that return have kept the originals, if no file is kept under the name of a directory or of a
file that the walk comes to. -/
theorem scans_keep_originals {w : World} {path e : String} (hne : e ≠ "") (he : '/' ∉ e.toList)
    (hp : w.tree.Plain) :
    (∀ (f : Fixer) sel w', f.backup = .text e → Selection.ofPatterns .text f.patterns = .ok sel →
      Apart w.tree sel path (some e) → (f.scan (.text path)).run w = (.ok (), w') →
      ∃ fixes items, f.lineFixes = .ok fixes ∧ SourceTree.Finds f.patterns .text path w items ∧
        KeepsOriginals items e (f.rewritten? fixes w.formatters) w.tree w'.tree) ∧
    ∀ (u u' : Updater) sel w', u.backup = .text e → Selection.ofPatterns .text u.patterns = .ok sel →
      Apart w.tree sel path (some e) → (u.scan (.text path)).run w = (.ok (.ok (), u'), w') →
      ∃ items, u.preparedIn w.tree = .ok u' ∧ SourceTree.Finds u.patterns .text path w items ∧
        KeepsOriginals items e (fun _ => u'.rewritten?) w.tree w'.tree := by
  refine ⟨fun f sel w' hbackup hsel hapart hrun => ?_, fun u u' sel w' hbackup hsel hapart hrun => ?_⟩
  · obtain ⟨fixes, hfixes⟩ := Fixer.lineFixes_of_scan hrun
    rw [Fixer.run_scan_of_lineFixes hfixes hsel, hbackup] at hrun
    obtain ⟨items, hitems, hkept⟩ := keepsOriginals_of_fold hsel hne he hp hapart rfl hrun
    exact ⟨fixes, items, hfixes, hitems, hkept⟩
  · obtain ⟨v, hframe, hreturns⟩ := u.scan_returns_iff hsel w path
    obtain ⟨hready, hfold⟩ := (hreturns u' w').mp hrun
    rw [hbackup] at hfold
    obtain ⟨items, hitems, hkept⟩ := keepsOriginals_of_fold hsel hne he hp hapart hframe hfold
    exact ⟨items, hready, hitems, hkept⟩

/-- The scan of a directory with an executable file. -/
theorem scan_keeps_originals_of_directory :
    let w : World := {
      tree := { entries := [(["d"], .dir 0o755), (["a.c", "d"], .file [0x78, 0x20, 0x0a] 0o755),
                (["b.c", "d"], .file [0x79, 0x0a] 0o600)] }
      year := 2024 }
    let f : Fixer := { backup := .text ".bak", patterns := ⟨.texts ["*.c"], .texts [], .texts []⟩ }
    ∃ w', (f.scan (.text "d")).run w = (.ok (), w') ∧
      w'.tree.entry "d/a.c.bak" = .ok (.file [0x78, 0x20, 0x0a] 0o755) ∧
      w'.tree.entry "d/a.c" = .ok (.file [0x78, 0x0a] 0o644) ∧
      w'.tree.entry "d/b.c.bak" = .ok (.file [0x79, 0x0a] 0o600) ∧
      w'.tree.entry "d/b.c" = .ok (.file [0x79, 0x0a] 0o644) := by
  intro w f
  have hp : w.tree.Plain := by decide
  obtain ⟨sel, hsel⟩ : ∃ sel, Selection.ofPatterns .text f.patterns = .ok sel := ⟨_, rfl⟩
  have hfixes : f.lineFixes = .ok [.trim, .tabs 4] := rfl
  let a : String × Bytes × Nat := ("a.c", [0x78, 0x20, 0x0a], 0o755)
  let b : String × Bytes × Nat := ("b.c", [0x79, 0x0a], 0o600)
  have hflat : Flat w.tree sel "d" ["d"] [a, b] := by
    refine ⟨Path.locate_name hp rfl, rfl, ?_, by decide, by decide, by cases hsel; decide +kernel⟩
    rw [FileTree.listedAt_sorted rfl]
    exact List.mergeSort_of_pairwise (by decide)
  have hwanted : Source.wanted sel .text a.2.1 = some ['x', ' ', '\n'] ∧
      Source.wanted sel .text b.2.1 = some ['y', '\n'] := by
    cases hsel
    exact ⟨rfl, rfl⟩
  have hbytes : f.rewritten? [.trim, .tabs 4] w.formatters (sourceAt "d" ["a.c"]) ['x', ' ', '\n'] =
      some [0x78, 0x0a] ∧
      f.rewritten? [.trim, .tabs 4] w.formatters (sourceAt "d" ["b.c"]) ['y', '\n'] =
      some [0x79, 0x0a] := by decide +kernel
  have hapart : Apart w.tree sel "d" (some ".bak") := apart_of_flat hflat hp rfl (by decide)
  have hfits : ∀ name, name = "a.c" ∨ name = "b.c" → ∀ e ∈ some ".bak",
      Path.Fits e (sourceAt "d" [name]).path [name, "d"] := by
    rintro name (rfl | rfl) e he <;> cases he <;> exact ⟨by decide, by decide⟩
  have hready : (f.rewriter [.trim, .tabs 4]).AllReady w.formatters (some ".bak") w.tree sel "d" := by
    refine allReady_of_flat hflat hp ?_
    simp only [List.forall_mem_cons, List.not_mem_nil, false_implies, implies_true, and_true, hwanted]
    refine ⟨fun s hs => ?_, fun s hs => ?_⟩ <;> cases hs
    · exact ⟨congrArg Option.isSome hbytes.1, hfits _ (.inl rfl)⟩
    · exact ⟨congrArg Option.isSome hbytes.2, hfits _ (.inr rfl)⟩
  have hasks : Asks f.backup (some ".bak") := ⟨rfl, by decide, by decide⟩
  obtain ⟨w', hrun⟩ := (fold_returns_iff hasks (mode_of_ofPatterns hsel) hapart.clear hp hapart.calm).mpr hready
  rw [← Fixer.run_scan_of_lineFixes hfixes hsel] at hrun
  obtain ⟨fixes, items, hfixes', hfinds, hkeeps⟩ :=
    (scans_keep_originals (by decide) (by decide) hp).1 f sel w' rfl hsel hapart hrun
  cases hfixes.symm.trans hfixes'
  obtain ⟨rfl, -⟩ := (SourceTree.finds_iff hsel).mp hfinds
  have hkept : ∀ p ∈ [a, b], ∀ s bytes, Source.wanted sel .text p.2.1 = some s →
      f.rewritten? [.trim, .tabs 4] w.formatters (sourceAt "d" [p.1]) s = some bytes →
      w'.tree.entry ((sourceAt "d" [p.1]).path ++ ".bak") = .ok (.file p.2.1 p.2.2) ∧
        w'.tree.entry (sourceAt "d" [p.1]).path = .ok (.file bytes newFileMode) := by
    intro p hmem s bytes hs hout
    obtain ⟨data, mode, bytes', hold, hkept, hout', hnew⟩ := hkeeps.kept (sourceAt "d" [p.1]) s
      (mem_found_iff.mpr ⟨by rw [hflat.sources_eq]; exact List.mem_map_of_mem hmem, _, _, _,
        wanted_of_flat hflat hp hmem hs⟩)
    cases (FileTree.entry_of_locate (hflat.locate_file hp hmem) (hflat.file p hmem)).symm.trans hold
    cases hout.symm.trans hout'
    exact ⟨hkept, hnew⟩
  obtain ⟨hkeptA, hnewA⟩ := hkept a (by simp) _ _ hwanted.1 hbytes.1
  obtain ⟨hkeptB, hnewB⟩ := hkept b (by simp) _ _ hwanted.2 hbytes.2
  exact ⟨w', hrun, hkeptA, hnewA, hkeptB, hnewB⟩

/-- A file that is not selected for what is in it stands where the original is to be kept. Then the walk
comes to the original there, fixes it and moves it on. -/
theorem scan_moves_original_again :
    let w : World := {
      tree := { entries := [(["d"], .dir 0o755), (["a.c", "d"], .file [0x78, 0x20, 0x0a] 0o644),
                (["a.c.bak", "d"], .file [0xff] 0o644)] }
      year := 2024 }
    let f : Fixer := { backup := .text ".bak", patterns := ⟨.texts [], .texts [], .texts []⟩ }
    SourceTree.Finds f.patterns .text "d" w [(sourceAt "d" ["a.c"], .text ['x', ' ', '\n'])] ∧
      ∃ w', (f.scan (.text "d")).run w = (.ok (), w') ∧
        w'.tree.entry "d/a.c.bak" = .ok (.file [0x78, 0x0a] 0o644) := by
  intro w f
  have hp : w.tree.Plain := by decide
  obtain ⟨sel, hsel⟩ : ∃ sel, Selection.ofPatterns .text f.patterns = .ok sel := ⟨_, rfl⟩
  let a : String × Bytes × Nat := ("a.c", [0x78, 0x20, 0x0a], 0o644)
  let b : String × Bytes × Nat := ("a.c.bak", [0xff], 0o644)
  have hflat : Flat w.tree sel "d" ["d"] [a, b] := by
    refine ⟨Path.locate_name hp rfl, rfl, ?_, by decide, by decide, by cases hsel; decide +kernel⟩
    rw [FileTree.listedAt_sorted rfl]
    exact List.mergeSort_of_pairwise (by decide)
  have hwanted : Source.wanted sel .text a.2.1 = some ['x', ' ', '\n'] ∧
      Source.wanted sel .text b.2.1 = none := by
    cases hsel
    exact ⟨rfl, rfl⟩
  refine ⟨(SourceTree.finds_iff hsel).mpr ⟨?_, hflat.not_obstacle hp⟩, ?_⟩
  · rw [hflat.found_eq hp]
    simp [hwanted, SourceTree.Content.of, a]
  have hready : ∀ name, name = "a.c" ∨ name = "a.c.bak" →
      (f.rewriter [.trim, .tabs 4]).Ready w.formatters (some ".bak") (sourceAt "d" [name])
        ['x', ' ', '\n'] [name, "d"] := by
    rintro name (rfl | rfl)
    all_goals
      refine ⟨by decide +kernel, fun e he => ?_⟩
      cases he
      exact ⟨by decide, by decide⟩
  have hbytes : f.rewritten? [.trim, .tabs 4] w.formatters (sourceAt "d" ["a.c.bak"]) ['x', ' ', '\n'] =
      some [0x78, 0x0a] := by decide +kernel
  have hnot : ∀ name, name = "a.c" ∨ name = "a.c.bak" →
      ∀ e ∈ some ".bak", w.tree.isDirAt (keptAt e [name, "d"]) = false := by
    rintro name (rfl | rfl) <;> decide
  have hfixes : f.lineFixes = .ok [.trim, .tabs 4] := rfl
  have hasks : Asks f.backup (some ".bak") := ⟨rfl, by decide, by decide⟩
  have hmode := Selection.mode_of_ofPatterns hsel
  obtain ⟨_, _, heqA, hleadsA⟩ :=
    Path.leadsTo_of_file hp (hflat.locate_file (p := a) hp (by simp)) (hflat.file a (by simp))
  obtain ⟨_, _, heqB, hleadsB⟩ :=
    Path.leadsTo_of_file hp (hflat.locate_file (p := b) hp (by simp)) (hflat.file b (by simp))
  cases heqA
  cases heqB
  have hfold := hflat.run_fold (w := w) rfl rfl ((f.rewriter [.trim, .tabs 4]).visitor sel f.backup) ()
  generalize hv : w.logged .debug ("scanning " ++ Text.quote "d") = v at hfold
  have hvtree : v.tree = w.tree := by rw [← hv, World.logged_tree]
  have hvformatters : v.formatters = w.formatters := by rw [← hv, World.logged_formatters]
  obtain ⟨w₁, hrun₁, hsetup₁, hchanged₁, hwritten₁⟩ :=
    run_visitor_of_ready (a := f.rewriter [.trim, .tabs 4]) (w := v) hasks hmode (hvtree ▸ hp)
      (sourceAt "d" ["a.c"]) rfl (hvtree ▸ hleadsA) (by rw [hvtree]; rfl) hwanted.1
      (hvtree ▸ hnot _ (.inl rfl)) (hvformatters ▸ hready _ (.inl rfl))
  have hd := hvtree ▸ hchanged₁.dirs
  have hformatters₁ := World.formatters_eq_of_setup hsetup₁
  obtain ⟨w₂, hrun₂, -, hchanged₂, hwritten₂⟩ :=
    run_visitor_of_ready (a := f.rewriter [.trim, .tabs 4]) hasks hmode hd.plain
      (sourceAt "d" ["a.c.bak"]) rfl (hleadsB.sameDirs hp hd rfl) (hwritten₁.old ".bak" rfl) hwanted.1
      (fun e he => by rw [hd.isDirAt_eq, hnot _ (.inr rfl) e he])
      (by rw [hformatters₁, hvformatters]; exact hready _ (.inr rfl))
  obtain ⟨bytes, hout, hnew⟩ := hwritten₂.new
  rw [hformatters₁, hvformatters] at hout
  cases hbytes.symm.trans hout
  refine ⟨w₂, ?_, ?_⟩
  · rw [Fixer.run_scan_of_lineFixes hfixes hsel, hfold, List.map_cons, run_replay_source,
      Session.run_bind_ok hrun₁]
    change Prod.map _ _ ((replay _ [.source (sourceAt "d" ["a.c.bak"])] ()).run w₁) = _
    rw [run_replay_source, Session.run_bind_ok hrun₂]
    rfl
  · have hd₂ := hd.trans hchanged₂.dirs
    have hlocB₂ := (hleadsB.sameDirs hp hd₂ rfl).locate hd₂.plain .follow (by rw [hnew]; rfl)
    exact FileTree.entry_of_locate hlocB₂ hnew

end SourceTidy
