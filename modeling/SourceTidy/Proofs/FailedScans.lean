import SourceTidy.Proofs.BackupScans

/-!
# Scans that fail

All that can fail in the fix of a file does so before the file is written. So a scan that fails on
its way has fixed the files before some point completely, and the others are as they were.
-/

namespace SourceTidy

open Session FileTree SourceWalk SourceTree

namespace Fixer

variable {f : Fixer} {fixes : List LineFix} {sel : Selection} {w w' v v' : World} {path : String}
  {src : Source} {name : String} {dir : Location} {g : Fault} {s : Text}

lemma characters_error (heol : ∀ m, f.eol ≠ .mode m) (h : f.lineBytes? s = none) :
    ∃ g, f.eol.characters = .error g := by
  unfold lineBytes? at h
  cases hv : f.eol with
  | scalar v =>
    cases v with
    | eol e =>
      rw [hv] at h
      cases e <;> cases h
    | mode m => exact absurd hv (heol m)
    | _ => exact ⟨_, rfl⟩
  | list members => exact ⟨_, rfl⟩
  | record fields => exact ⟨_, rfl⟩

lemma run_writeText_unusable (heol : ∀ m, f.eol ≠ .mode m) (h : f.lineBytes? s = none) (path : String)
    (w : World) : ∃ g, (f.writeText path s).run w = (.error g, w) := by
  obtain ⟨g, hg⟩ := characters_error heol h
  exact ⟨g, run_bind_error (by rw [run_lift, hg]) _⟩

lemma tree_of_fixSource_error (heol : ∀ m, f.eol ≠ .mode m) (hp : w.tree.Plain)
    (hknown : src.knownMode = none) (hpath : Path.LeadsTo w.tree src.path name dir)
    (hplace : w.tree.Place name dir) (h : (f.fixSource fixes src s).run w = (.error g, w')) :
    w'.tree = w.tree := by
  rw [fixSource_eq, run_bind_ok (run_log _ _ _)] at h
  generalize hv : w.logged .debug ("fixing " ++ Text.quote src.path) = v at h
  have hframe : v.frame = w.frame := by rw [← hv, World.logged_frame]
  obtain ⟨v', hframe', ⟨s', -, hrun⟩ | ⟨-, g', hrun⟩⟩ := answers_formatted f src (f.fixText fixes s) v
  all_goals have htree : v'.tree = w.tree := World.tree_eq_of_frame (hframe'.trans hframe)
  · rw [run_bind_ok hrun] at h
    rw [← htree] at hp hpath hplace
    rcases run_writeText_cases (f := f) hp hpath hplace s' with ⟨bytes, -, hwrite⟩ | ⟨hnone, -⟩
    · obtain ⟨w₁, -, hmode, -⟩ := run_fixMode_of_written (f := f) hp hknown hpath hplace bytes
        (modeWritten (v'.tree.get? (name :: dir)))
      rw [run_bind_ok hwrite, hmode] at h
      cases h
    · obtain ⟨g₁, hwrite⟩ := run_writeText_unusable heol hnone src.path v'
      rw [run_bind_error hwrite] at h
      cases h
      exact htree
  · rw [run_bind_error hrun] at h
    cases h
    exact htree

lemma tree_of_visitor_error {t : FileTree} (hbackup : f.backup.isOn = false)
    (heol : ∀ m, f.eol ≠ .mode m) (hsel : sel.skippedData.mode = .text) (hp : t.Plain)
    (hd : t.SameDirs v.tree) (hsrc : src ∈ sources (stops t sel path))
    (h : ((f.rewriter fixes).visitor sel f.backup src ()).run v = (.error g, v')) : v'.tree = v.tree := by
  rw [Rewriter.visitor] at h
  cases hread : v.tree.read src.path with
  | error problem =>
    rw [run_bind_error (Source.run_content_error hread)] at h
    cases h
    rfl
  | ok data =>
    obtain ⟨hknown, name, dir, -, -, mode, -, -, hleads, hfile⟩ := source_of_read hp hd hsrc hread
    obtain ⟨u, hrun, hwarned⟩ := Source.run_content hsel hread (World.Warned.refl v)
    have htree : u.tree = v.tree := hwarned.tree_eq
    have hplain := hd.plain
    have hplace := hplain.place hfile
    rw [← htree] at hplain hplace hleads ⊢
    rw [run_bind_ok hrun] at h
    cases hwant : Source.wanted sel .text data with
    | none =>
      rw [hwant] at h
      cases h
    | some s =>
      rw [hwant] at h
      dsimp only at h
      rw [run_bind_ok (run_keepOld hbackup _), run_bind] at h
      rcases hfix : ((f.rewriter fixes).act src s).run u with ⟨r, u'⟩
      rw [hfix] at h
      cases r with
      | ok _ => cases h
      | error g' =>
        cases h
        exact tree_of_fixSource_error heol hplain hknown hleads hplace hfix

/-- The files that a scan has come to before it failed have been fixed, and those that it would have
come to, with all that it does not select, are as they were. -/
structure FixedBefore (f : Fixer) (fixes : List LineFix) (w : World)
    (before after : List (Source × Content)) (t : FileTree) : Prop where
  fixed : ∀ src s, (src, .text s) ∈ before → ∃ data mode bytes,
    w.tree.entry src.path = .ok (.file data mode) ∧ f.rewritten? fixes w.formatters src s = some bytes ∧
    t.entry src.path = .ok (.file bytes (f.finalMode (writtenMode mode)))
  same : ∀ src s, (src, .text s) ∈ after → t.entry src.path = w.tree.entry src.path
  others : ∀ loc, (∀ src s, (src, .text s) ∈ before → Path.locate w.tree .follow src.path ≠ .ok loc) →
    t.get? loc = w.tree.get? loc

lemma fixedBefore_of_rewrote {t : FileTree} {done rest : List Source} (hp : w.tree.Plain)
    (hall : sources (stops w.tree sel path) = done ++ rest)
    (h : (f.rewriter fixes).Rewrote w.formatters none w.tree sel path done t) :
    FixedBefore f fixes w (found w.tree sel .text done) (found w.tree sel .text rest) t where
  fixed src s hmem := by
    obtain ⟨hsrc, loc, data, mode, hs⟩ := Rewriter.mem_found_iff.mp hmem
    obtain ⟨bytes, hbytes, hnew⟩ := h.new src hsrc loc data mode s hs
    exact ⟨data, mode, bytes, entry_of_locate hs.located hs.file, hbytes,
      entry_of_locate (h.located hp hsrc hs) hnew⟩
  same src s hmem := by
    obtain ⟨hsrc, loc, data, mode, hs⟩ := Rewriter.mem_found_iff.mp hmem
    obtain ⟨first, last, rfl⟩ := List.append_of_mem hsrc
    rw [← List.append_assoc] at hall
    have hsame : t.get? loc = w.tree.get? loc := by
      refine h.others loc ?_ fun e he => (by cases he)
      rintro loc' s' ⟨src', hsrc', hloc', -⟩ rfl
      exact locate_ne_of_split hp hall hs.located (List.mem_append_left _ hsrc') hloc'
    obtain ⟨name, dir, rfl, hleads⟩ := Path.leadsTo_of_file hp hs.located hs.file
    have hfile := hsame.trans hs.file
    have hloc := (hleads.sameDirs hp h.dirs (hp.inDir hs.file)).locate h.dirs.plain .follow
      (by rw [hfile]; rfl)
    rw [entry_of_locate hloc hfile, entry_of_locate hs.located hs.file]
  others loc hnot := by
    refine h.others loc ?_ fun e he => (by cases he)
    rintro loc' s ⟨src, hsrc, hloc, data, mode, hfile, hwant⟩ rfl
    exact hnot src s (Rewriter.mem_found_iff.mpr ⟨hsrc, loc, data, mode, hloc, hfile, hwant⟩) hloc

/-- The tree in which a walk has failed: at an obstacle of its own, or at a source that cannot be fixed.
Up to there the sources have been fixed. -/
def Fails (f : Fixer) (fixes : List LineFix) (w : World) (sel : Selection) (path : String) (g : Fault)
    (v : World) : Prop :=
  ∃ before after, found w.tree sel .text (sources (stops w.tree sel path)) = before ++ after ∧
    FixedBefore f fixes w before after v.tree ∧
    (Obstacle w.tree sel path g ∨ ∃ src s rest, after = (src, .text s) :: rest ∧
      f.rewritten? fixes w.formatters src s = none)

lemma fails_of_inOrder {done rest : List Stop} (hp : w.tree.Plain) (hall : stops w.tree sel path = done ++ rest)
    (h : (f.rewriter fixes).InOrder none w sel path done () v) (htree : v'.tree = v.tree)
    (hcause : Obstacle w.tree sel path g ∨ ∃ src rest' s, found w.tree sel .text (sources rest) =
      (src, .text s) :: rest' ∧ f.rewritten? fixes w.formatters src s = none) :
    f.Fails fixes w sel path g v' := by
  have hsources : sources (stops w.tree sel path) = sources done ++ sources rest := by rw [hall, sources_append]
  refine ⟨found w.tree sel .text (sources done), found w.tree sel .text (sources rest), ?_,
    htree ▸ fixedBefore_of_rewrote hp hsources h.wrote, hcause.imp_right ?_⟩
  · rw [hsources]
    exact List.filterMap_append
  · exact fun ⟨src, rest', s, hrest, hnone⟩ => ⟨src, s, rest', hrest, hnone⟩

lemma fixedBefore_of_fold (hbackup : f.backup.isOn = false) (heol : ∀ m, f.eol ≠ .mode m)
    (hp : w.tree.Plain) (hsel : Selection.ofPatterns .text f.patterns = .ok sel)
    (hrun : (fold sel (.text path) () ((f.rewriter fixes).visitor sel f.backup)).run w = (.error g, w')) :
    f.Fails fixes w sel path g w' := by
  have hasks : Rewriter.Asks f.backup none := hbackup
  have hmode := Selection.mode_of_ofPatterns hsel
  have hapart : Rewriter.Apart w.tree sel path none := Rewriter.apart_none
  have hvisits := Rewriter.visits_inOrder (a := f.rewriter fixes) (E := f.Fails fixes w sel path) hasks hmode
    hapart.clear hp
    (fun hall hI => fails_of_inOrder hp hall hI rfl
      (.inl (.inl (hall ▸ List.mem_append_right _ List.mem_cons_self))))
    (fun {done src rest g v v'} hall hI hvisit hunready => by
      have hsrc : src ∈ sources (stops w.tree sel path) := mem_sources.mpr (by simp [hall])
      have htree := tree_of_visitor_error hbackup heol hmode hp hI.sparing.dirs hsrc hvisit
      refine fails_of_inOrder hp hall hI htree ?_
      rcases hunready with ⟨problem, hread, rfl, -⟩ | ⟨loc, data, mode, s, hs, hnot⟩
      · exact .inl (.inr ⟨src, hsrc, problem, hread, rfl⟩)
      · refine .inr ⟨src, found w.tree sel .text (sources rest), s, ?_, ?_⟩
        · simp [sources, found, read_of_locate hs.located hs.file, hs.text, Content.of]
        · by_contra hsome
          exact hnot ⟨Option.isSome_iff_ne_none.mpr hsome, fun e he => by cases he⟩)
    fun _ _ hstir => absurd hapart.calm hstir
  rcases hvisits.fold_lands hp (Rewriter.InOrder.nil hp) with ⟨⟨⟩, v, hok, -⟩ | ⟨g', v, hbad, hfails⟩
  · cases hrun.symm.trans hok
  · cases hrun.symm.trans hbad
    exact hfails

end Fixer

end SourceTidy
