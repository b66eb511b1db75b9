import SourceTidy.Proofs.BackupScans

/-!
# Backups and permission bits

A scan that keeps the old files gives each file the same bytes as the scan that keeps nothing. But
it makes new files, so the permission bits are those of new files.
-/

namespace SourceTidy

open SourceTree SourceWalk

namespace Rewriter

variable {a : Rewriter} {sel : Selection} {backup : Setting} {o : Option String} {t t₀ t₁ : FileTree}
  {w : World} {path e : String} {srcs : List Source} {formatters : String → Option Formatter}

/-- The places at which a walk may keep files are free, and no selected file joins the walk when it has
been made anew. -/
structure Unused (t : FileTree) (sel : Selection) (path e : String) : Prop where
  free : ∀ loc, KeepsAt t sel path e loc → t.get? loc = none
  notBack : ∀ loc s, Chosen t sel (sources (stops t sel path)) loc s → ¬Joins t sel path loc

lemma Unused.clear (h : Unused t sel path e) (hp : t.Plain) : Clear t sel path (some e) := by
  refine ⟨fun e' he' loc hkept => ?_, fun e' he' loc hkept => ?_, fun _ _ => h.notBack⟩ <;> cases he'
  · have hnone := h.free loc hkept
    unfold FileTree.isDirAt
    rw [hnone]
  · rintro ⟨src, -, hloc⟩
    have hsome := Path.locate_isSome hp hloc
    rw [h.free loc hkept] at hsome
    cases hsome

lemma allReady_some_iff : a.AllReady formatters (some e) t sel path ↔
    a.AllReady formatters none t sel path ∧ ∀ src ∈ sources (stops t sel path),
      ∀ loc data mode s, Wanted t sel src loc data mode s → Path.Fits e src.path loc := by
  constructor
  · intro h
    refine ⟨⟨h.noObstacle, fun src hsrc loc data mode s hs => ⟨?_, fun e he => (by cases he)⟩⟩,
      fun src hsrc loc data mode s hs => ?_⟩
    · exact (h.ready src hsrc loc data mode s hs).bytes
    · exact (h.ready src hsrc loc data mode s hs).fits e rfl
  · rintro ⟨h, hfits⟩
    refine ⟨h.noObstacle, fun src hsrc loc data mode s hs =>
      ⟨(h.ready src hsrc loc data mode s hs).bytes, fun e' he' => ?_⟩⟩
    cases he'
    exact hfits src hsrc loc data mode s hs

/-- What the scan that keeps nothing and the one that keeps the old files make of a tree: the files that
are selected get the same bytes, with permission bits made from the old ones or those of new files. Other
places that were there are alike. -/
structure OnlyModesDiffer (items : List (Source × Content)) (final : Nat → Nat)
    (t t₀ t₁ : FileTree) : Prop where
  selected : ∀ src s, (src, .text s) ∈ items → ∃ data mode bytes,
    t.entry src.path = .ok (.file data mode) ∧
    t₀.entry src.path = .ok (.file bytes (final (writtenMode mode))) ∧
    t₁.entry src.path = .ok (.file bytes newFileMode)
  others : ∀ loc, (t.get? loc).isSome = true →
    (∀ src s, (src, .text s) ∈ items → Path.locate t .follow src.path ≠ .ok loc) →
    t₁.get? loc = t₀.get? loc

lemma Rewrote.onlyModesDiffer (h₀ : a.Rewrote formatters none t sel path srcs t₀)
    (h₁ : a.Rewrote formatters (some e) t sel path srcs t₁) (hp : t.Plain)
    (hunused : Unused t sel path e) : OnlyModesDiffer (found t sel .text srcs) a.mode t t₀ t₁ := by
  refine ⟨fun src s hmem => ?_, fun loc hsome hother => ?_⟩
  · obtain ⟨hsrc, loc, data, mode, hs⟩ := mem_found_iff.mp hmem
    obtain ⟨bytes₀, hbytes₀, hnew₀⟩ := h₀.new src hsrc loc data mode s hs
    obtain ⟨bytes₁, hbytes₁, hnew₁⟩ := h₁.new src hsrc loc data mode s hs
    cases hbytes₀.symm.trans hbytes₁
    exact ⟨data, mode, bytes₀, FileTree.entry_of_locate hs.located hs.file,
      FileTree.entry_of_locate (h₀.located hp hsrc hs) hnew₀,
      FileTree.entry_of_locate (h₁.located hp hsrc hs) hnew₁⟩
  · have hne : ∀ loc' s, Chosen t sel srcs loc' s → loc ≠ loc' := by
      rintro loc' s ⟨src, hsrc, hloc', data, mode, hfile, hwant⟩ rfl
      exact hother src s (mem_found_iff.mpr ⟨hsrc, loc, data, mode, hloc', hfile, hwant⟩) hloc'
    rw [h₀.others loc hne fun e' he' => (by cases he'), h₁.others loc hne fun e' he' hkept => ?_]
    cases he'
    rw [hunused.free loc hkept] at hsome
    cases hsome

/-- The names and paths under which files are to be kept are within the limits of the system. -/
def AllFit (p : Patterns) (path e : String) (w : World) : Prop :=
  ∀ items, Finds p .text path w items → ∀ src s, (src, .text s) ∈ items →
    ∃ loc, Path.locate w.tree .follow src.path = .ok loc ∧ Path.Fits e src.path loc

/-- How a scan that keeps nothing and the one that keeps the old files compare. Each is given by the
worlds in which it ends when it returns. -/
structure Compared (p : Patterns) (sel : Selection) (path e : String) (w : World) (final : Nat → Nat)
    (ends₀ ends₁ : World → Prop) : Prop where
  returned : (∃ w₁, ends₁ w₁) → (∃ w₀, ends₀ w₀) ∧ AllFit p path e w
  returns : Calm w.tree sel path (some e) → (∃ w₀, ends₀ w₀) → AllFit p path e w → ∃ w₁, ends₁ w₁
  leaves : ∀ w₀ w₁, ends₀ w₀ → ends₁ w₁ → ∃ items, Finds p .text path w items ∧
    OnlyModesDiffer items final w.tree w₀.tree w₁.tree

lemma Compared.of_never {p : Patterns} {final : Nat → Nat} {ends₀ ends₁ : World → Prop}
    (h₀ : ∀ w₀, ¬ends₀ w₀) (h₁ : ∀ w₁, ¬ends₁ w₁) : Compared p sel path e w final ends₀ ends₁ :=
  ⟨fun ⟨w₁, h⟩ => absurd h (h₁ w₁), fun _ ⟨w₀, h⟩ => absurd h (h₀ w₀), fun w₀ _ h => absurd h (h₀ w₀)⟩

lemma allFit_iff {p : Patterns} (hsel : Selection.ofPatterns .text p = .ok sel)
    (hready : a.AllReady formatters none w.tree sel path) :
    AllFit p path e w ↔ ∀ src ∈ sources (stops w.tree sel path), ∀ loc data mode s,
      Wanted w.tree sel src loc data mode s → Path.Fits e src.path loc := by
  refine ⟨fun hfits src hsrc loc data mode s hs => ?_, fun hfits items hfinds src s hmem => ?_⟩
  · obtain ⟨loc', hloc', hfit⟩ := hfits _ ((finds_iff hsel).mpr ⟨rfl, hready.noObstacle⟩)
      src s (mem_found_iff.mpr ⟨hsrc, loc, data, mode, hs⟩)
    cases hs.located.symm.trans hloc'
    exact hfit
  · obtain ⟨rfl, -⟩ := (finds_iff hsel).mp hfinds
    obtain ⟨hsrc, loc, data, mode, hs⟩ := mem_found_iff.mp hmem
    exact ⟨loc, hs.located, hfits src hsrc loc data mode s hs⟩

lemma compared_of_folds {p : Patterns} {v₀ v₁ : World} {ends₀ ends₁ : World → Prop}
    (hsel : Selection.ofPatterns .text p = .ok sel) (hne : e ≠ "") (he : '/' ∉ e.toList)
    (hp : w.tree.Plain) (hunused : Unused w.tree sel path e)
    (hv₀ : v₀.frame = w.frame) (hv₁ : v₁.frame = w.frame)
    (hends₀ : ∀ w₀, ends₀ w₀ ↔ (fold sel (.text path) () (a.visitor sel .none)).run v₀ = (.ok (), w₀))
    (hends₁ : ∀ w₁, ends₁ w₁ ↔ (fold sel (.text path) () (a.visitor sel (.text e))).run v₁ = (.ok (), w₁)) :
    Compared p sel path e w a.mode ends₀ ends₁ := by
  have hmode := Selection.mode_of_ofPatterns hsel
  have hoff : Asks .none none := rfl
  have hasks : Asks (.text e) (some e) := ⟨rfl, hne, he⟩
  have ht₀ := World.tree_eq_of_frame hv₀
  have ht₁ := World.tree_eq_of_frame hv₁
  have hf₀ := World.formatters_eq_of_frame hv₀
  have hf₁ := World.formatters_eq_of_frame hv₁
  have hp₀ : v₀.tree.Plain := ht₀ ▸ hp
  have hp₁ : v₁.tree.Plain := ht₁ ▸ hp
  have hclear : Clear v₁.tree sel path (some e) := ht₁ ▸ hunused.clear hp
  have hnone : Apart v₀.tree sel path none := apart_none
  have hreturns₀ := fold_returns_iff (a := a) hoff hmode hnone.clear hp₀ hnone.calm
  simp only [← hends₀, ht₀, hf₀] at hreturns₀
  have hwrote₁ : ∀ {w₁}, ends₁ w₁ → a.AllReady w.formatters (some e) w.tree sel path ∧
      a.Rewrote w.formatters (some e) w.tree sel path (sources (stops w.tree sel path)) w₁.tree := by
    intro w₁ h₁
    have hboth := allReady_of_fold hasks hmode hclear hp₁ ((hends₁ w₁).mp h₁)
    rwa [ht₁, hf₁] at hboth
  refine ⟨fun ⟨w₁, h₁⟩ => ?_, fun hcalm hreturned hfits => ?_, fun w₀ w₁ h₀ h₁ => ?_⟩
  · obtain ⟨hready, hfits⟩ := allReady_some_iff.mp (hwrote₁ h₁).1
    exact ⟨hreturns₀.mpr hready, (allFit_iff hsel hready).mpr hfits⟩
  · have hready := hreturns₀.mp hreturned
    have hall := allReady_some_iff.mpr ⟨hready, (allFit_iff hsel hready).mp hfits⟩
    rw [← ht₁, ← hf₁] at hall
    obtain ⟨w₁, hrun⟩ := (fold_returns_iff hasks hmode hclear hp₁ (ht₁ ▸ hcalm)).mpr hall
    exact ⟨w₁, (hends₁ w₁).mpr hrun⟩
  · have hwrote₀ := allReady_of_fold hoff hmode hnone.clear hp₀ ((hends₀ w₀).mp h₀)
    rw [ht₀, hf₀] at hwrote₀
    exact ⟨_, (finds_iff hsel).mpr ⟨rfl, hwrote₀.1.noObstacle⟩,
      hwrote₀.2.onlyModesDiffer (hwrote₁ h₁).2 hp hunused⟩

end Rewriter

open Rewriter

/-- Asking for backups changes the permission bits of the files that are written, and nothing else at
places that were there. -/
theorem backups_change_modes_only {w : World} {path e : String} (hne : e ≠ "") (he : '/' ∉ e.toList)
    (hp : w.tree.Plain) :
    (∀ (f : Fixer) sel, Selection.ofPatterns .text f.patterns = .ok sel → Unused w.tree sel path e →
      Compared f.patterns sel path e w f.finalMode
        (fun w₀ => (({ f with backup := .none } : Fixer).scan (.text path)).run w = (.ok (), w₀))
        (fun w₁ => (({ f with backup := .text e } : Fixer).scan (.text path)).run w = (.ok (), w₁))) ∧
    ∀ (u : Updater) sel, Selection.ofPatterns .text u.patterns = .ok sel → Unused w.tree sel path e →
      Compared u.patterns sel path e w id
        (fun w₀ => ∃ u', (({ u with backup := .none } : Updater).scan (.text path)).run w =
          (.ok (.ok (), u'), w₀))
        (fun w₁ => ∃ u', (({ u with backup := .text e } : Updater).scan (.text path)).run w =
          (.ok (.ok (), u'), w₁)) := by
  refine ⟨fun f sel hsel hunused => ?_, fun u sel hsel hunused => ?_⟩
  · cases hfixes : f.lineFixes with
    | error g =>
      have hnever : ∀ (backup : Setting) w', ¬(({ f with backup := backup } : Fixer).scan
          (.text path)).run w = (.ok (), w') := by
        intro backup w' hrun
        obtain ⟨fixes, hfixes'⟩ := Fixer.lineFixes_of_scan hrun
        cases hfixes.symm.trans hfixes'
      exact .of_never (hnever .none) (hnever (.text e))
    | ok fixes =>
      have hscan : ∀ (backup : Setting) w', (({ f with backup := backup } : Fixer).scan
          (.text path)).run w = (.ok (), w') ↔
          (fold sel (.text path) () ((f.rewriter fixes).visitor sel backup)).run w = (.ok (), w') := by
        intro backup w'
        rw [Fixer.run_scan_of_lineFixes (f := { f with backup := backup }) hfixes hsel,
          Fixer.rewriter_backup]
      exact compared_of_folds (a := f.rewriter fixes) hsel hne he hp hunused rfl rfl (hscan .none)
        (hscan (.text e))
  · cases hready : u.preparedIn w.tree with
    | error g =>
      have hnever : ∀ (backup : Setting) w', ¬∃ u', (({ u with backup := backup } : Updater).scan
          (.text path)).run w = (.ok (.ok (), u'), w') := by
        rintro backup w' ⟨u', hrun⟩
        obtain ⟨v, -, hreturns⟩ :=
          ({ u with backup := backup } : Updater).scan_returns_iff hsel w path
        have hprepared := ((hreturns u' w').mp hrun).1
        rw [Updater.preparedIn_backup, hready] at hprepared
        cases hprepared
      exact .of_never (hnever .none) (hnever (.text e))
    | ok u' =>
      have hscan : ∀ backup : Setting, ∃ v, v.frame = w.frame ∧ ∀ w',
          (∃ u'', (({ u with backup := backup } : Updater).scan (.text path)).run w =
            (.ok (.ok (), u''), w')) ↔
          (fold sel (.text path) () (u'.rewriter.visitor sel backup)).run v = (.ok (), w') := by
        intro backup
        obtain ⟨v, hframe, hreturns⟩ :=
          ({ u with backup := backup } : Updater).scan_returns_iff hsel w path
        refine ⟨v, hframe, fun w' => ?_⟩
        simp only [hreturns, Updater.preparedIn_backup, hready]
        constructor
        · rintro ⟨u'', hu'', hrun⟩
          cases hu''
          exact hrun
        · exact fun hrun => ⟨_, rfl, hrun⟩
      obtain ⟨v₀, hv₀, hends₀⟩ := hscan .none
      obtain ⟨v₁, hv₁, hends₁⟩ := hscan (.text e)
      exact compared_of_folds (a := u'.rewriter) hsel hne he hp hunused hv₀ hv₁ hends₀ hends₁

/-- An executable file in a directory gets the same permission bits with and without a backup if they are
fixed. -/
theorem backup_of_fixed_mode_is_alike :
    let w : World := {
      tree := { entries := [(["d"], .dir 0o755), (["a.c", "d"], .file [0x78, 0x20, 0x0a] 0o755)] }
      year := 2024 }
    let f : Fixer := { patterns := ⟨.texts ["*.c"], .texts [], .texts []⟩ }
    ∃ w₀ w₁ bytes, (({ f with backup := .none } : Fixer).scan (.text "d")).run w = (.ok (), w₀) ∧
      (({ f with backup := .text ".bak" } : Fixer).scan (.text "d")).run w = (.ok (), w₁) ∧
      w₀.tree.entry "d/a.c" = .ok (.file bytes 0o644) ∧ w₁.tree.entry "d/a.c" = .ok (.file bytes 0o644) := by
  intro w f
  have hp : w.tree.Plain := by decide
  obtain ⟨sel, hsel⟩ : ∃ sel, Selection.ofPatterns .text f.patterns = .ok sel := ⟨_, rfl⟩
  let a : String × Bytes × Nat := ("a.c", [0x78, 0x20, 0x0a], 0o755)
  have hflat : Flat w.tree sel "d" ["d"] [a] := by
    refine ⟨Path.locate_name hp rfl, rfl, ?_, by decide, by decide, by cases hsel; decide +kernel⟩
    rw [FileTree.listedAt_sorted rfl]
    exact List.mergeSort_of_pairwise (by decide)
  have hwant : Source.wanted sel .text a.2.1 = some ['x', ' ', '\n'] := by
    cases hsel
    rfl
  have hapart : Apart w.tree sel "d" (some ".bak") := apart_of_flat hflat hp rfl (by decide)
  have hunused : Unused w.tree sel "d" ".bak" := by
    refine ⟨fun loc hkept => ?_, hapart.notBack ".bak" rfl⟩
    obtain ⟨loc, s, ⟨src, hsrc, hloc, -⟩, rfl⟩ := hapart.calm.chosen rfl hkept
    obtain ⟨p, hmem, rfl⟩ := exists_of_met hflat hp ⟨src, hsrc, hloc⟩
    obtain rfl := List.mem_singleton.mp hmem
    rfl
  have hcompared := (backups_change_modes_only (by decide) (by decide) hp).1 f sel hsel hunused
  have hready : (f.rewriter [.trim, .tabs 4]).AllReady w.formatters none w.tree sel "d" := by
    refine allReady_of_flat hflat hp (List.forall_mem_singleton.mpr fun s hs => ?_)
    cases hwant.symm.trans hs
    exact ⟨by decide +kernel, fun e he => by cases he⟩
  have hoff : Asks .none none := rfl
  have hnone : Apart w.tree sel "d" none := apart_none
  obtain ⟨w₀, hrun₀⟩ := (fold_returns_iff hoff (Selection.mode_of_ofPatterns hsel) hnone.clear hp
    hnone.calm).mpr hready
  have hfixes : f.lineFixes = .ok [.trim, .tabs 4] := rfl
  replace hrun₀ := (Fixer.run_scan_of_lineFixes hfixes hsel w "d").trans hrun₀
  obtain ⟨w₁, hrun₁⟩ := hcompared.returns hapart.calm ⟨w₀, hrun₀⟩ ((allFit_iff hsel hready).mpr fun src hsrc
    loc data mode s hs => by
      rw [hflat.sources_eq] at hsrc
      obtain rfl := List.mem_singleton.mp hsrc
      cases (hflat.locate_file (p := a) hp (by simp)).symm.trans hs.located
      exact ⟨by decide, by decide⟩)
  obtain ⟨items, hfinds, hdiffer⟩ := hcompared.leaves w₀ w₁ hrun₀ hrun₁
  obtain ⟨rfl, -⟩ := (SourceTree.finds_iff hsel).mp hfinds
  obtain ⟨data, mode, bytes, hold, hnew₀, hnew₁⟩ := hdiffer.selected (sourceAt "d" ["a.c"]) ['x', ' ', '\n']
    (mem_found_iff.mpr ⟨by rw [hflat.sources_eq]; exact List.mem_singleton_self _, _, _, _,
      wanted_of_flat (p := a) hflat hp (by simp) hwant⟩)
  cases (FileTree.entry_of_locate (hflat.locate_file (p := a) hp (by simp)) rfl).symm.trans hold
  exact ⟨w₀, w₁, bytes, hrun₀, hrun₁, hnew₀, hnew₁⟩

/-- An executable file whose permission bits are left alone loses them if a backup is asked for. -/
theorem backup_drops_executable_bits :
    let w : World := { tree := { entries := [(["a.c"], .file [0x78, 0x0a] 0o755)] }, year := 2024 }
    let f : Fixer := { mode := .flag false, patterns := ⟨.texts ["*.c"], .texts [], .texts []⟩ }
    w.tree.get? ["a.c.bak"] = none ∧
    ∃ w₀ w₁, (({ f with backup := .none } : Fixer).scan (.text "a.c")).run w = (.ok (), w₀) ∧
      (({ f with backup := .text ".bak" } : Fixer).scan (.text "a.c")).run w = (.ok (), w₁) ∧
      w₀.tree.get? ["a.c"] = some (.file [0x78, 0x0a] 0o755) ∧
      w₁.tree.get? ["a.c"] = some (.file [0x78, 0x0a] 0o644) := by
  intro w f
  have hp : w.tree.Plain := by decide
  have hloc : Path.locate w.tree .follow "a.c" = .ok ["a.c"] := Path.locate_name hp rfl
  obtain ⟨sel, hsel⟩ : ∃ sel, Selection.ofPatterns .text f.patterns = .ok sel := ⟨_, rfl⟩
  have hpicks : Picks w.tree sel .text "a.c" ["a.c"] [0x78, 0x0a] 0o755 ['x', '\n'] := by
    cases hsel
    exact ⟨hloc, rfl, rfl, rfl, rfl⟩
  have hbytes : f.rewritten? [.trim, .tabs 4] w.formatters (sourceAt "a.c" []) ['x', '\n'] =
      some [0x78, 0x0a] := by decide +kernel
  have hfits : ∀ e ∈ some ".bak", Path.Fits e "a.c" ["a.c"] := by
    intro e he
    cases he
    exact ⟨by decide, by decide⟩
  obtain ⟨w₀, hrun₀, hnew₀⟩ := Fixer.run_scan_of_file (f := { f with backup := .none }) (o := none) rfl rfl
    hsel hp hpicks (by decide) (fun e he => (by cases he)) hbytes
  obtain ⟨w₁, hrun₁, hnew₁⟩ := Fixer.run_scan_of_file (f := { f with backup := .text ".bak" })
    (o := some ".bak") ⟨rfl, by decide, by decide⟩ rfl hsel hp hpicks (by decide) hfits hbytes
  exact ⟨rfl, w₀, w₁, hrun₀, hrun₁, hnew₀, hnew₁⟩

end SourceTidy
