import SourceTidy.Program
import SourceTidy.Proofs.RewrittenFiles

/-!
# Fixed trees

A fixer rewrites files while it walks through the tree. What it leaves is nevertheless told by the
tree at the start: a file that is selected there holds its text fixed once, and nothing else has
changed.
-/

namespace SourceTidy

open Session FileTree Selection SourceTree SourceWalk

open Program (fixPaths)

variable {srcs : List Source} {paths : List String} {path : String} {s : Text}

namespace Fixer

open Rewriter (Chosen chosen_append)

variable {f : Fixer} {fixes : List LineFix} {sel : Selection} {e : Eol} {w : World} {loc : Location}
  {data : Bytes} {mode : Nat}

lemma run_scan_of_lineFixes (hfixes : f.lineFixes = .ok fixes)
    (hsel : ofPatterns .text f.patterns = .ok sel) (w : World) (path : String) :
    (f.scan (.text path)).run w =
      (fold sel (.text path) () ((f.rewriter fixes).visitor sel f.backup)).run w := by
  rw [scan, run_lift_bind hfixes, run_lift_bind hsel]
  rfl

/-- A fixer as the following statements have it: the lines are fixed in a way that can be carried
out, files are written with a line ending and sources are neither formatted nor kept. -/
structure Direct (f : Fixer) (fixes : List LineFix) (sel : Selection) (e : Eol) : Prop where
  lineFixes : f.lineFixes = .ok fixes
  selection : ofPatterns .text f.patterns = .ok sel
  noFormatter : f.formatter.isOn = false
  noBackup : f.backup.isOn = false
  eol : f.eol = .eol e

lemma Direct.gives (hf : f.Direct fixes sel e) : (f.rewriter fixes).Gives (f.fixedBytes fixes e) := by
  intro formatters src s
  have hend : Eol.ofTerminator? e.terminator = some e := by cases e <;> rfl
  have hline : ∀ text, f.lineBytes? text =
      some (Text.encode (Text.writeNewlines e.terminator.toList text)) := by
    intro text
    rw [lineBytes?, hf.eol]
    change (do let e ← Eol.ofTerminator? e.terminator; _) = _
    rw [hend]
    rfl
  change f.rewritten? fixes formatters src s = _
  rw [rewritten?, formatted?, hf.noFormatter]
  exact hline _

/-- A tree as a fixer leaves it that has changed the files at some locations. -/
structure Fixed (f : Fixer) (fixes : List LineFix) (e : Eol) (t : FileTree)
    (chosen : Location → Text → Prop) (t' : FileTree) : Prop where
  shape : t.SameShape t'
  fixed : ∀ loc s, chosen loc s → ∃ mode, t'.get? loc = some (.file (f.fixedBytes fixes e s) mode)
  others : ∀ loc, (∀ s, ¬chosen loc s) → t'.get? loc = t.get? loc

namespace Fixed

variable {t t' t₁ : FileTree} {chosen chosen' : Location → Text → Prop}

protected lemma refl (t : FileTree) : Fixed f fixes e t (Chosen t sel []) t :=
  ⟨SameShape.refl t, fun _ _ ⟨_, hsrc, _⟩ => absurd hsrc List.not_mem_nil, fun _ _ => rfl⟩

lemma congr (h : Fixed f fixes e t chosen t') (hc : ∀ loc s, chosen' loc s ↔ chosen loc s) :
    Fixed f fixes e t chosen' t' := by
  have he : chosen' = chosen := funext fun loc => funext fun s => propext (hc loc s)
  rw [he]
  exact h

lemma chosen_of_same (h : Fixed f fixes e t chosen t') (hp : t.Plain)
    (hsame : t'.get? loc = t.get? loc) : Chosen t' sel srcs loc s ↔ Chosen t sel srcs loc s := by
  simp only [Chosen, Path.locate_sameShape hp h.shape, hsame]

lemma renewed (hf : f.Direct fixes sel e) (hp : t.Plain) {done : List Source}
    (h : Fixed f fixes e t (Chosen t sel srcs) t₁)
    (hnew : (f.rewriter fixes).Renewed (f.fixedBytes fixes e) t₁ sel done t') :
    Fixed f fixes e t (Chosen t sel (srcs ++ done)) t' := by
  refine ⟨h.shape.trans hnew.shape, fun loc s hchosen => ?_, fun loc hnone => ?_⟩
  · by_cases hagain : ∃ s₁, Chosen t₁ sel done loc s₁
    · obtain ⟨s₁, hs₁⟩ := hagain
      obtain ⟨-, -, -, data, mode, hfile, hwant⟩ := id hs₁
      have hbytes : f.fixedBytes fixes e s₁ = f.fixedBytes fixes e s := by
        by_cases hbefore : ∃ s, Chosen t sel srcs loc s
        · obtain ⟨s₀, hs₀⟩ := hbefore
          obtain rfl := hs₀.text_unique hchosen
          obtain ⟨mode₀, hfixed⟩ := h.fixed loc s₀ hs₀
          cases hfile.symm.trans hfixed
          obtain ⟨-, -, -, data₀, mode₀, -, hwant₀⟩ := hs₀
          have hdec := Source.decode_of_wanted hwant
          rw [decode_fixedBytes hf.lineFixes e (Source.cr_notMem_of_wanted hwant₀)] at hdec
          rw [← Except.ok.inj hdec, fixedBytes_fixText hf.lineFixes]
        · have hsame := h.others loc fun s hs => hbefore ⟨s, hs⟩
          rw [((h.chosen_of_same hp hsame).mp hs₁).text_unique hchosen]
      exact ⟨_, hbytes ▸ hnew.new loc s₁ data mode hs₁ hfile⟩
    · rw [hnew.others loc fun s hs => hagain ⟨s, hs⟩]
      by_cases hbefore : ∃ s, Chosen t sel srcs loc s
      · obtain ⟨s₀, hs₀⟩ := hbefore
        obtain rfl := hs₀.text_unique hchosen
        exact h.fixed loc s₀ hs₀
      · have hsame := h.others loc fun s hs => hbefore ⟨s, hs⟩
        rcases chosen_append.mp hchosen with hs | hs
        · exact absurd ⟨s, hs⟩ hbefore
        · exact absurd ⟨s, (h.chosen_of_same hp hsame).mpr hs⟩ hagain
  · have hsame := h.others loc fun s hs => hnone s (chosen_append.mpr (.inl hs))
    rw [hnew.others loc fun s hs => ?_, hsame]
    exact hnone s (chosen_append.mpr (.inr ((h.chosen_of_same hp hsame).mp hs)))

end Fixed

/-- A tree in which some of the given sources have been fixed. -/
def PartlyFixed (f : Fixer) (fixes : List LineFix) (sel : Selection) (e : Eol) (t : FileTree)
    (srcs : List Source) (t' : FileTree) : Prop :=
  ∃ done, (∀ src ∈ done, src ∈ srcs) ∧ Fixed f fixes e t (Chosen t sel done) t'

/-- A scan fixes what it selects in the tree at the start, or an obstacle there ends it. -/
theorem run_scan (hf : f.Direct fixes sel e) {t : FileTree} (hp : t.Plain)
    (hw : Fixed f fixes e t (Chosen t sel srcs) w.tree) (path : String) :
    (∃ w', (f.scan (.text path)).run w = (.ok (), w') ∧
      Fixed f fixes e t (Chosen t sel (srcs ++ sources (stops t sel path))) w'.tree ∧
      w'.verboseNamed = w.verboseNamed ∧ ∀ g, ¬Obstacle t sel path g) ∨
    ∃ g w', (f.scan (.text path)).run w = (.error g, w') ∧ Obstacle t sel path g ∧
      PartlyFixed f fixes sel e t (srcs ++ sources (stops t sel path)) w'.tree := by
  obtain ⟨w', hrun, hsetup, hnew⟩ := Rewriter.run_fold_in_place hf.gives hf.noBackup
    (mode_of_ofPatterns hf.selection) (hw.shape.plain hp) path
  obtain ⟨hending, hpassed⟩ := ends_sameShape hp hw.shape sel path
  rw [hending] at hrun
  rw [hpassed] at hnew
  have hfixed := Fixed.renewed hf hp hw hnew
  rw [run_scan_of_lineFixes hf.lineFixes hf.selection, hrun]
  rcases ending_cases t sel path with ⟨hend, hall, hno⟩ | ⟨g, hend, hg⟩
  · rw [hall] at hfixed
    exact .inl ⟨w', by rw [hend], hfixed, (congrArg World.verboseNamed hsetup :), hno⟩
  · refine .inr ⟨g, w', by rw [hend], hg, _, fun src hsrc => ?_, hfixed⟩
    exact (List.mem_append.mp hsrc).elim (List.mem_append_left _) fun hmem =>
      List.mem_append_right _ (mem_sources.mpr ((List.takeWhile_sublist _).subset (mem_sources.mp hmem)))

/-- The scans of several paths fix what any of them selects in the tree at the start, or an obstacle
there ends them. -/
theorem run_fixPaths (hf : f.Direct fixes sel e) {t : FileTree} (hp : t.Plain)
    (hw : Fixed f fixes e t (Chosen t sel srcs) w.tree) (paths : List String) :
    (∃ w', (fixPaths f (paths.map .text)).run w = (.ok (), w') ∧
      Fixed f fixes e t
        (Chosen t sel (srcs ++ paths.flatMap fun path => sources (stops t sel path))) w'.tree ∧
      ∀ path ∈ paths, ∀ g, ¬Obstacle t sel path g) ∨
    ∃ g w', (fixPaths f (paths.map .text)).run w = (.error g, w') ∧ (∃ path ∈ paths, Obstacle t sel path g) ∧
      PartlyFixed f fixes sel e t
        (srcs ++ paths.flatMap fun path => sources (stops t sel path)) w'.tree := by
  induction paths generalizing srcs w with
  | nil => exact .inl ⟨w, rfl, by simpa using hw, by simp⟩
  | cons path paths ih =>
    have hcons : fixPaths f ((path :: paths).map .text) =
        f.scan (.text path) >>= fun _ => fixPaths f (paths.map .text) := rfl
    rw [hcons]
    rcases run_scan hf hp hw path with
      ⟨v, hrun, hv, -, hno⟩ | ⟨g, v, hrun, hg, done, hdone, hpart⟩
    · rw [run_bind_ok hrun]
      rcases ih hv with ⟨w', hrest, hw', hno'⟩ | ⟨g, w', hrest, ⟨path', hpath', hg⟩, hpart⟩
      · refine .inl ⟨w', hrest, by simpa using hw', fun path' hpath' => ?_⟩
        rcases List.mem_cons.mp hpath' with rfl | hpath'
        · exact hno
        · exact hno' path' hpath'
      · exact .inr ⟨g, w', hrest, ⟨path', List.mem_cons_of_mem _ hpath', hg⟩, by simpa using hpart⟩
    · refine .inr ⟨g, v, run_bind_error hrun _, ⟨path, List.mem_cons_self, hg⟩, done,
        fun src hsrc => ?_, hpart⟩
      rw [List.flatMap_cons, ← List.append_assoc]
      exact List.mem_append_left _ (hdone src hsrc)

/-- The text that a source tree at a path finds at a location. -/
def Selects (p : Patterns) (path : String) (w : World) (loc : Location) (s : Text) : Prop :=
  ∃ items, Finds p .text path w items ∧
    ∃ src, (src, .text s) ∈ items ∧ Path.locate w.tree .follow src.path = .ok loc

lemma selects_iff {p : Patterns} (hsel : ofPatterns .text p = .ok sel)
    (hno : ∀ g, ¬Obstacle w.tree sel path g) {loc : Location} :
    Selects p path w loc s ↔ Chosen w.tree sel (sources (stops w.tree sel path)) loc s := by
  have hmem : ∀ src, (src, Content.text s) ∈
      found w.tree sel .text (sources (stops w.tree sel path)) ↔
      src ∈ sources (stops w.tree sel path) ∧
        ∃ data, w.tree.read src.path = .ok data ∧ Source.wanted sel .text data = some s :=
    fun src => mem_found (m := .text)
  constructor
  · rintro ⟨items, hfind, src, hsrc, hloc⟩
    obtain ⟨rfl, -⟩ := (finds_iff hsel).mp hfind
    obtain ⟨hsrc, data, hread, hwant⟩ := (hmem src).mp hsrc
    obtain ⟨loc', mode, hloc', hfile⟩ := read_eq_ok_iff.mp hread
    rw [hloc] at hloc'
    cases hloc'
    exact ⟨src, hsrc, hloc, data, mode, hfile, hwant⟩
  · rintro ⟨src, hsrc, hloc, data, mode, hfile, hwant⟩
    exact ⟨_, (finds_iff hsel).mpr ⟨rfl, hno⟩, src,
      (hmem src).mpr ⟨hsrc, data, read_of_locate hloc hfile, hwant⟩, hloc⟩

lemma selects_file {p : Patterns} (hsel : ofPatterns .text p = .ok sel)
    (h : Picks w.tree sel .text path loc data mode s) : Selects p path w loc s :=
  ⟨_, finds_file (m := .text) hsel h, _, List.mem_singleton_self _, h.located⟩

lemma direct_of_scan {w' : World} (hformat : f.formatter.isOn = false)
    (hbackup : f.backup.isOn = false) (heol : f.eol = .eol e)
    (h : (f.scan (.text path)).run w = (.ok (), w')) : ∃ fixes sel, f.Direct fixes sel e := by
  obtain ⟨fixes, v₁, hfixes, hscan⟩ := run_bind_eq_ok h
  obtain ⟨sel, v₂, hsel, -⟩ := run_bind_eq_ok hscan
  rw [run_lift] at hfixes hsel
  exact ⟨fixes, sel, congrArg Prod.fst hfixes, congrArg Prod.fst hsel, hformat, hbackup, heol⟩

lemma direct_of_fixPaths {w' : World} (hformat : f.formatter.isOn = false)
    (hbackup : f.backup.isOn = false) (heol : f.eol = .eol e) (hne : paths ≠ [])
    (h : (fixPaths f (paths.map .text)).run w = (.ok (), w')) : ∃ fixes sel, f.Direct fixes sel e := by
  obtain ⟨path, paths, rfl⟩ := List.exists_cons_of_ne_nil hne
  obtain ⟨_, v, hscan, -⟩ := run_bind_eq_ok h
  exact direct_of_scan hformat hbackup heol hscan

lemma Fixed.bytesAt_eq {t t₁ t₂ : FileTree} {chosen₁ chosen₂ : Location → Text → Prop}
    (h₁ : Fixed f fixes e t chosen₁ t₁) (h₂ : Fixed f fixes e t chosen₂ t₂)
    (hc : ∀ loc s, chosen₁ loc s ↔ chosen₂ loc s) (loc : Location) : t₁.bytesAt loc = t₂.bytesAt loc := by
  unfold bytesAt
  by_cases hch : ∃ s, chosen₁ loc s
  · obtain ⟨s, hs⟩ := hch
    obtain ⟨m₁, hm₁⟩ := h₁.fixed loc s hs
    obtain ⟨m₂, hm₂⟩ := h₂.fixed loc s ((hc loc s).mp hs)
    rw [hm₁, hm₂]
  · rw [h₁.others loc fun s hs => hch ⟨s, hs⟩, h₂.others loc fun s hs => hch ⟨s, (hc loc s).mpr hs⟩]

/-- A tree in which the files that the paths select hold their first text fixed once, and all else
is as it was. -/
structure FixedOnce (f : Fixer) (fixes : List LineFix) (e : Eol) (paths : List String) (w : World)
    (t' : FileTree) : Prop where
  selected : ∀ path ∈ paths, ∀ loc s, Selects f.patterns path w loc s →
    ∃ mode, t'.get? loc = some (.file (f.fixedBytes fixes e s) mode)
  others : ∀ loc, (∀ path ∈ paths, ∀ s, ¬Selects f.patterns path w loc s) →
    t'.get? loc = w.tree.get? loc
  samePaths : ∀ loc, (t'.get? loc).isSome = (w.tree.get? loc).isSome

/-- A tree in which every location is as it was, or its file holds its first text fixed once. -/
def FixedOrSame (f : Fixer) (fixes : List LineFix) (e : Eol) (t t' : FileTree) : Prop :=
  ∀ loc, t'.get? loc = t.get? loc ∨ ∃ data mode s mode', t.get? loc = some (.file data mode) ∧
    ReadMode.text.decode data = .ok s ∧ t'.get? loc = some (.file (f.fixedBytes fixes e s) mode')

lemma Fixed.fixedOrSame {t t' : FileTree} (h : Fixed f fixes e t (Chosen t sel srcs) t') :
    FixedOrSame f fixes e t t' := by
  intro loc
  by_cases hch : ∃ s, Chosen t sel srcs loc s
  · obtain ⟨s, hs⟩ := hch
    obtain ⟨mode', hmode'⟩ := h.fixed loc s hs
    obtain ⟨-, -, -, data, mode, hfile, hwant⟩ := hs
    exact .inr ⟨data, mode, s, mode', hfile, Source.decode_of_wanted hwant, hmode'⟩
  · exact .inl (h.others loc fun s hs => hch ⟨s, hs⟩)

lemma run_fixPaths_tree_of_error {g : Fault} (hsel : ofPatterns .text f.patterns = .error g)
    (hfixes : f.lineFixes = .ok fixes) (paths : List String) : ((fixPaths f (paths.map .text)).run w).2 = w := by
  cases paths with
  | nil => rfl
  | cons path paths =>
    have hscan : (f.scan (.text path)).run w = (.error g, w) := by
      rw [scan, hfixes, hsel]
      rfl
    have hcons : fixPaths f ((path :: paths).map .text) =
        f.scan (.text path) >>= fun _ => fixPaths f (paths.map .text) := rfl
    rw [hcons, run_bind_error hscan]

/-- Whatever ends the scans, no file is left half fixed, and nothing else is changed. -/
lemma fixPaths_fixedOrSame (hformat : f.formatter.isOn = false) (hbackup : f.backup.isOn = false)
    (heol : f.eol = .eol e) (hp : w.tree.Plain) (hfixes : f.lineFixes = .ok fixes)
    (paths : List String) : FixedOrSame f fixes e w.tree ((fixPaths f (paths.map .text)).run w).2.tree := by
  cases hsel : ofPatterns .text f.patterns with
  | error g =>
    rw [run_fixPaths_tree_of_error hsel hfixes]
    exact fun _ => .inl rfl
  | ok sel =>
    have hf : f.Direct fixes sel e := ⟨hfixes, hsel, hformat, hbackup, heol⟩
    rcases run_fixPaths hf hp (Fixed.refl w.tree) paths with
      ⟨w', hrun, hfixed, -⟩ | ⟨g, w', hrun, -, done, -, hpart⟩
    · rw [hrun]
      exact hfixed.fixedOrSame
    · rw [hrun]
      exact hpart.fixedOrSame

lemma chosen_flatMap (hsel : ofPatterns .text f.patterns = .ok sel)
    (hno : ∀ path ∈ paths, ∀ g, ¬Obstacle w.tree sel path g) (loc : Location) (s : Text) :
    Chosen w.tree sel ([] ++ paths.flatMap fun path => sources (stops w.tree sel path)) loc s ↔
      ∃ path ∈ paths, Selects f.patterns path w loc s := by
  constructor
  · rintro ⟨src, hsrc, hrest⟩
    obtain ⟨path, hpath, hsrc⟩ := List.mem_flatMap.mp hsrc
    exact ⟨path, hpath, (selects_iff hsel (hno path hpath)).mpr ⟨src, hsrc, hrest⟩⟩
  · rintro ⟨path, hpath, hselect⟩
    obtain ⟨src, hsrc, hrest⟩ := (selects_iff hsel (hno path hpath)).mp hselect
    exact ⟨src, List.mem_flatMap.mpr ⟨path, hpath, hsrc⟩, hrest⟩

/-- Scans of a plain tree: they return exactly if no path meets an obstacle, and leave a tree that
is told by the choice of the paths. -/
lemma fixPaths_direct (hf : f.Direct fixes sel e) (hp : w.tree.Plain) (paths : List String) :
    (∃ w', (fixPaths f (paths.map .text)).run w = (.ok (), w') ∧
      Fixed f fixes e w.tree (fun loc s => ∃ path ∈ paths, Selects f.patterns path w loc s) w'.tree ∧
      ∀ path ∈ paths, ∀ g, ¬Obstacle w.tree sel path g) ∨
    ∃ g w', (fixPaths f (paths.map .text)).run w = (.error g, w') ∧ ∃ path ∈ paths, Obstacle w.tree sel path g := by
  rcases run_fixPaths hf hp (Fixed.refl w.tree) paths with
    ⟨w', hrun, hfixed, hno⟩ | ⟨g, w', hrun, hg, -⟩
  · refine .inl ⟨w', hrun, hfixed.congr fun loc s => ?_, hno⟩
    exact (chosen_flatMap hf.selection hno loc s).symm
  · exact .inr ⟨g, w', hrun, hg⟩

lemma Fixed.fixedOnce {t' : FileTree}
    (h : Fixed f fixes e w.tree (fun loc s => ∃ path ∈ paths, Selects f.patterns path w loc s) t') :
    FixedOnce f fixes e paths w t' where
  selected path hpath loc s hs := h.fixed loc s ⟨path, hpath, hs⟩
  others loc hnone := h.others loc fun s ⟨path, hpath, hs⟩ => hnone path hpath s hs
  samePaths loc := h.shape.get?_isSome loc

/-- Scans of several paths, in any order and however often, return exactly if each path can be
walked through in the tree at the start, which only too long a path of something below it prevents.
Then every file that some path selects at the start holds its text fixed once, everything else is as
it was, and the bytes do not depend on the order and the repetition of the paths. Where they do not
return, every file is as it was or fixed once. -/
theorem fixPaths_fixes_once (hformat : f.formatter.isOn = false) (hbackup : f.backup.isOn = false)
    (heol : f.eol = .eol e) (hp : w.tree.Plain) (paths : List String) :
    ((∃ w', (fixPaths f (paths.map .text)).run w = (.ok (), w')) ↔
      ∀ path ∈ paths, (∃ fixes, f.lineFixes = .ok fixes) ∧
        ∃ items, SourceTree.Finds f.patterns .text path w items) ∧
    (∀ fixes sel g w', f.lineFixes = .ok fixes → Selection.ofPatterns .text f.patterns = .ok sel →
      (∀ path ∈ paths, w.tree.pathExists path = true) → (fixPaths f (paths.map .text)).run w = (.error g, w') →
      ∃ long, g = .path .nameTooLong long ∧ Path.pathLimit ≤ long.utf8ByteSize) ∧
    (∀ fixes, f.lineFixes = .ok fixes →
      FixedOrSame f fixes e w.tree ((fixPaths f (paths.map .text)).run w).2.tree) ∧
    ∀ fixes w', f.lineFixes = .ok fixes → (fixPaths f (paths.map .text)).run w = (.ok (), w') →
      FixedOnce f fixes e paths w w'.tree ∧
      ∀ paths' : List String, (∀ path, path ∈ paths' ↔ path ∈ paths) →
        ∃ w'', (fixPaths f (paths'.map .text)).run w = (.ok (), w'') ∧
          ∀ loc, w''.tree.bytesAt loc = w'.tree.bytesAt loc := by
  refine ⟨⟨?_, ?_⟩, ?_,
    fun fixes hfixes => fixPaths_fixedOrSame hformat hbackup heol hp hfixes paths, ?_⟩
  · rintro ⟨w', hrun⟩ path hpath
    obtain ⟨fixes, sel, hf⟩ :=
      direct_of_fixPaths hformat hbackup heol (List.ne_nil_of_mem hpath) hrun
    rcases fixPaths_direct hf hp paths with ⟨v, -, -, hno⟩ | ⟨g, v, herror, -⟩
    · exact ⟨⟨fixes, hf.lineFixes⟩, _, (SourceTree.finds_iff hf.selection).mpr ⟨rfl, hno path hpath⟩⟩
    · rw [hrun] at herror
      cases herror
  · intro h
    by_cases hne : paths = []
    · exact ⟨w, by rw [hne]; rfl⟩
    obtain ⟨path, hpath⟩ := List.exists_mem_of_ne_nil paths hne
    obtain ⟨⟨fixes, hfixes⟩, items, tree, v, htree, -⟩ := h path hpath
    obtain ⟨sel, hsel, -⟩ := SourceTree.make_eq_ok_iff.mp htree
    have hf : f.Direct fixes sel e := ⟨hfixes, hsel, hformat, hbackup, heol⟩
    rcases fixPaths_direct hf hp paths with ⟨w', hrun, -⟩ | ⟨g, w', -, path', hpath', hg⟩
    · exact ⟨w', hrun⟩
    · obtain ⟨-, items', hfind⟩ := h path' hpath'
      exact absurd hg (((SourceTree.finds_iff hsel).mp hfind).2 g)
  · intro fixes sel g w' hfixes hsel hexist hrun
    have hf : f.Direct fixes sel e := ⟨hfixes, hsel, hformat, hbackup, heol⟩
    rcases fixPaths_direct hf hp paths with ⟨v, hok, -⟩ | ⟨g', v, herror, path, hpath, hg⟩
    · rw [hrun] at hok
      cases hok
    · rw [hrun] at herror
      cases herror
      obtain ⟨loc, entry, hloc, hentry⟩ := FileTree.pathExists_iff.mp (hexist path hpath)
      obtain ⟨rel, -, hlong, rfl⟩ := hg.tooLong hp hloc (by rw [hentry]; rfl)
      exact ⟨_, rfl, hlong⟩
  · intro fixes w' hfixes hrun
    by_cases hne : paths = []
    · subst hne
      cases hrun
      refine ⟨⟨by simp, fun _ _ => rfl, fun _ => rfl⟩, fun paths' hsame => ⟨w, ?_, fun _ => rfl⟩⟩
      obtain rfl : paths' = [] := by simpa [List.eq_nil_iff_forall_not_mem] using hsame
      rfl
    obtain ⟨fixes', sel, hf⟩ := direct_of_fixPaths hformat hbackup heol hne hrun
    obtain rfl : fixes = fixes' := Except.ok.inj (hfixes.symm.trans hf.lineFixes)
    rcases fixPaths_direct hf hp paths with ⟨v, hok, hfixed, hno⟩ | ⟨g, v, herror, -⟩
    · rw [hrun] at hok
      cases hok
      refine ⟨hfixed.fixedOnce, fun paths' hsame => ?_⟩
      rcases fixPaths_direct hf hp paths' with
        ⟨w'', hrun', hfixed', -⟩ | ⟨g, v, -, path, hpath, hg⟩
      · refine ⟨w'', hrun', hfixed'.bytesAt_eq hfixed fun loc s => ?_⟩
        simp only [hsame]
      · exact absurd hg (hno path ((hsame path).mp hpath) g)
    · rw [hrun] at herror
      cases herror

/-- The scans of a file twice in a tree with another one. -/
theorem fixPaths_same_file_twice :
    let w : World := {
      tree := { entries := [(["a.c"], .file [0x78, 0x20, 0x0a] 0o755), (["b.c"], .file [0x79, 0x20, 0x0a] 0o644)] }
      year := 2024 }
    let f : Fixer := { patterns := ⟨.texts ["*.c"], .texts [], .texts []⟩ }
    ∃ w' mode, (fixPaths f [.text "a.c", .text "a.c"]).run w = (.ok (), w') ∧
      w'.tree.get? ["a.c"] = some (.file [0x78, 0x0a] mode) ∧
      w'.tree.get? ["b.c"] = w.tree.get? ["b.c"] := by
  intro w f
  have hp : w.tree.Plain := by decide
  have hfixes : f.lineFixes = .ok [.trim, .tabs 4] := rfl
  have hloc : Path.locate w.tree .follow "a.c" = .ok ["a.c"] := Path.locate_name hp rfl
  obtain ⟨sel, hsel⟩ : ∃ sel, Selection.ofPatterns .text f.patterns = .ok sel := ⟨_, rfl⟩
  have hno : ∀ g, ¬Obstacle w.tree sel "a.c" g := not_obstacle_of_file hp hloc rfl
  have hfinds := (SourceTree.finds_iff hsel).mpr ⟨rfl, hno⟩
  have hselects : Selects f.patterns "a.c" w ["a.c"] ['x', ' ', '\n'] :=
    selects_file rfl ⟨hloc, rfl, rfl, rfl, rfl⟩
  obtain ⟨⟨-, hreturns⟩, -, -, hfixed⟩ :=
    fixPaths_fixes_once (f := f) (e := .native) rfl rfl rfl hp ["a.c", "a.c"]
  obtain ⟨w', hrun⟩ := hreturns (by simpa using ⟨⟨_, hfixes⟩, _, hfinds⟩)
  obtain ⟨honce, -⟩ := hfixed _ w' hfixes hrun
  obtain ⟨mode, hmode⟩ := honce.selected "a.c" List.mem_cons_self ["a.c"] _ hselects
  have hbytes : f.fixedBytes [.trim, .tabs 4] .native ['x', ' ', '\n'] = [0x78, 0x0a] := by
    decide +kernel
  refine ⟨w', mode, hrun, hbytes ▸ hmode, honce.others ["b.c"] ?_⟩
  intro path hpath s hother
  obtain rfl : path = "a.c" := by simpa using hpath
  obtain ⟨src, hsrc, hsloc, -⟩ := (selects_iff hsel hno).mp hother
  obtain ⟨rel, hrel⟩ := below_of_mem_sources hp hloc hsrc hsloc
  exact absurd (congrArg List.getLast? hrel) (by simp)

/-- A directory with a file below it whose path is too long stops the scans, so that a file which a
later path selects is not fixed. -/
theorem fixPaths_stops_at_long_path :
    let w : World := {
      tree := { entries := [(["d"], .dir 0o755), (["a.c", "d"], .file [0x78, 0x20, 0x0a] 0o644),
        (["b.c"], .file [0x79, 0x20, 0x0a] 0o644)] }
      year := 2024 }
    let f : Fixer := { patterns := ⟨.texts [], .texts [], .texts []⟩ }
    ∃ path fixes g w', path.utf8ByteSize = 4095 ∧ w.tree.pathExists path = true ∧
      w.tree.pathExists "b.c" = true ∧ f.lineFixes = .ok fixes ∧
      Selects f.patterns "b.c" w ["b.c"] ['y', ' ', '\n'] ∧
      (fixPaths f [.text path, .text "b.c"]).run w = (.error g, w') ∧
      w'.tree.bytesAt ["b.c"] ≠ some (f.fixedBytes fixes .native ['y', ' ', '\n']) := by
  intro w f
  have hp : w.tree.Plain := by decide
  have hfixes : f.lineFixes = .ok [.trim, .tabs 4] := rfl
  obtain ⟨path, hroot, hsize⟩ : ∃ path, Path.locate w.tree .follow path = .ok ["d"] ∧
      path.utf8ByteSize = 4095 := Path.exists_path_of_size hp rfl (by decide) (by decide)
  obtain ⟨sel, hsel⟩ : ∃ sel, Selection.ofPatterns .text f.patterns = .ok sel := ⟨_, rfl⟩
  have hf : f.Direct [.trim, .tabs 4] sel .native := ⟨hfixes, hsel, rfl, rfl, rfl⟩
  have hlocb : Path.locate w.tree .follow "b.c" = .ok ["b.c"] := Path.locate_name hp rfl
  have hlong : TooLong path ["a.c"] := tooLong_singleton (by rw [hsize]; decide) (by decide)
  have hoffers : Offers w.tree sel path ["d"] ["a.c"] := by
    cases hsel
    exact ⟨⟨_, _, rfl⟩, by simp [tested, Selection.skips], rfl⟩
  obtain ⟨g, hg⟩ := exists_obstacle hp hroot (.inr hoffers) hlong
  rcases run_scan hf hp (Fixed.refl w.tree) path with
    ⟨w', -, -, -, hno⟩ | ⟨g', w', hrun, -, done, hdone, hpart⟩
  · exact absurd hg (hno g)
  have hsame : w'.tree.get? ["b.c"] = w.tree.get? ["b.c"] := by
    refine hpart.others ["b.c"] ?_
    rintro s ⟨src, hsrc, hsloc, -⟩
    obtain ⟨rel, hrel⟩ := below_of_mem_sources hp hroot (by simpa using hdone src hsrc) hsloc
    exact absurd (congrArg List.getLast? hrel) (by simp)
  refine ⟨path, _, g', w', hsize, FileTree.pathExists_iff.mpr ⟨_, _, hroot, rfl⟩,
    FileTree.pathExists_iff.mpr ⟨_, _, hlocb, rfl⟩, hfixes,
    selects_file rfl ⟨hlocb, rfl, rfl, rfl, rfl⟩, Session.run_bind_error hrun _, ?_⟩
  unfold FileTree.bytesAt
  rw [hsame]
  decide +kernel

end Fixer

end SourceTidy
