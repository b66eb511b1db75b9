import SourceTidy.Proofs.CheckRuns
import SourceTidy.Proofs.FixedBytes
import SourceTidy.Proofs.FixedTree
import SourceTidy.Proofs.Tallies

/-!
# Checks of fixed trees

The scan of a checker in a tree that a fixer has left. Every source it meets holds bytes that a fixer
has written, so that it goes to its end and counts nothing that the fixer provides for.
-/

namespace SourceTidy

open Session Check

namespace Checker

open SourceWalk

def mended : List String := ["tabs", "invalid EOL", "trailing spaces", "no eol at eof"]

variable {c : Checker} {e : Eol} {w : World} {data : Bytes} {p : Patterns}

def usualChecks (e : Eol) : List (String × Check) :=
  [("tabs", .tabs), ("invalid EOL", .lineEndings e),
    ("trailing spaces", .trailing (Text.encodeString e.terminator)),
    ("not ascii", .encoding (.text "ascii")), ("no eol at eof", .finalEol),
    ("relative include", .includes), ("no copyright", .notice)]

lemma checkSource_clean {src : Source} {mode : Nat} (hformat : c.formatter.isOn = false)
    (hknown : src.knownMode = none) (hentry : w.tree.entry src.path = .ok (.file data mode))
    (hclean : Clean e data) (h : w.verboseNamed = true ∨ Encoding.isAscii data = true) :
    ∃ names w', (c.checkSource (usualChecks e) src data).run w = (.ok names, w') ∧
      w'.tree = w.tree ∧ w'.verboseNamed = w.verboseNamed ∧ ∀ name ∈ names, name ∉ mended := by
  let I : World → Prop := fun v => v.tree = w.tree ∧ v.verboseNamed = w.verboseNamed
  have hcheck : ∀ {name check v}, check.examine data = .ok v → (v = .pass ∨ name ∉ mended) →
      ((∃ r, v = .fail (some r)) → w.verboseNamed = true) → ∀ u, I u →
      ∃ b u', (fails (some src.path) data check).run u = (.ok b, u') ∧ I u' ∧
        (b = true → name ∉ mended) := by
    rintro name check v hv hname hreport u ⟨htree, hverbose⟩
    obtain ⟨u', htree', hverbose', hrun | ⟨hunnamed, hr, -⟩⟩ := run_fails hv (some src.path) u
    · refine ⟨_, u', hrun, ⟨htree'.trans htree, hverbose'.trans hverbose⟩, fun hfail => ?_⟩
      rcases hname with rfl | hname
      · cases hfail
      · exact hname
    · rw [hverbose, hreport hr] at hunnamed
      cases hunnamed
  have hverdict : ∀ {b}, (∃ r, verdict b = .fail (some r)) → w.verboseNamed = true := by
    rintro b ⟨r, hr⟩
    cases b <;> cases hr
  have htests : ∀ p ∈ c.tests (usualChecks e) src data, ∀ u, I u →
      ∃ b u', p.2.run u = (.ok b, u') ∧ I u' ∧ (b = true → p.1 ∉ mended) := by
    intro p hp
    rw [tests_eq hformat] at hp
    simp only [usualChecks, List.map_cons, List.map_nil, List.mem_append, List.mem_cons,
      List.not_mem_nil, or_false] at hp
    rcases hp with (rfl | rfl | rfl | rfl | rfl | rfl | rfl) | hp
    · exact hcheck hclean.tabs (.inl rfl) nofun
    · exact hcheck hclean.lineEndings (.inl rfl) nofun
    · exact hcheck hclean.trailing (.inl rfl) nofun
    · have hencoding := examine_encoding_ascii data
      split at hencoding
      · exact hcheck hencoding (.inl rfl) nofun
      · next hascii =>
        obtain ⟨r, hr⟩ := hencoding
        exact hcheck hr (.inr (show "not ascii" ∉ mended by decide)) fun _ => h.resolve_right hascii
    · exact hcheck hclean.finalEol (.inl rfl) nofun
    · exact hcheck (v := verdict _) rfl (.inr (show "relative include" ∉ mended by decide))
        hverdict
    · exact hcheck (v := verdict _) rfl (.inr (show "no copyright" ∉ mended by decide)) hverdict
    · rintro u ⟨htree, hverbose⟩
      split at hp
      · rw [List.mem_singleton.mp hp]
        exact ⟨_, u, run_modeFails hknown (htree ▸ hentry), ⟨htree, hverbose⟩,
          fun _ => show "mode (executable bit)" ∉ mended by decide⟩
      · cases hp
  rw [checkSource, run_bind_ok (run_log _ _ w)]
  obtain ⟨names, w', hrun, ⟨htree, hverbose⟩, hnames⟩ := failing_returns (I := I)
    (N := fun name => name ∉ mended) (fun v message hv => by simpa [I] using hv) htests
    (show I (w.logged .debug ("checking " ++ Text.quote src.path)) by simp [I])
  exact ⟨names, w', hrun, htree, hverbose, hnames⟩

lemma checkSource_not_ascii (src : Source) (hclean : Clean e data)
    (hunnamed : w.verboseNamed = false) (hascii : Encoding.isAscii data = false) :
    ∃ w', (c.checkSource (usualChecks e) src data).run w = (.error (.kind .noLevel), w') := by
  obtain ⟨r, hr⟩ : ∃ r, (Check.encoding (.text "ascii")).examine data = .ok (.fail (some r)) := by
    have hencoding := examine_encoding_ascii data
    rwa [if_neg (by simp [hascii])] at hencoding
  rw [checkSource, run_bind_ok (run_log _ _ w)]
  generalize hv : w.logged .debug ("checking " ++ Text.quote src.path) = v
  have hv' : v.verboseNamed = false := by rw [← hv, World.logged_verboseNamed, hunnamed]
  obtain ⟨rest, hrest⟩ : ∃ rest, c.tests (usualChecks e) src data =
      ("tabs", fails (some src.path) data .tabs) ::
      ("invalid EOL", fails (some src.path) data (.lineEndings e)) ::
      ("trailing spaces", fails (some src.path) data (.trailing (Text.encodeString e.terminator))) ::
      ("not ascii", fails (some src.path) data (.encoding (.text "ascii"))) :: rest := ⟨_, rfl⟩
  refine ⟨v, ?_⟩
  rw [hrest, run_failing_passed _ (run_fails_pass hclean.tabs _ v),
    run_failing_passed _ (run_fails_pass hclean.lineEndings _ v),
    run_failing_passed _ (run_fails_pass hclean.trailing _ v),
    run_failing_error _ (run_fails_unnamed hr hv' _)]

variable {sel : Selection} {path : String}

lemma visitor_clean {src : Source} {tally : Tally} (hformat : c.formatter.isOn = false)
    (hfirst : c.failFast.isOn = false) (hmode : sel.skippedData.mode = .binary)
    (hknown : src.knownMode = none) (hread : w.tree.read src.path = .ok data)
    (hwanted : Source.wanted sel .binary data = some data) (hclean : Clean e data)
    (htally : ∀ key ∈ mended, key ∉ tally.map Prod.fst) :
    Lands (fun tally' w' => w'.tree = w.tree ∧ w'.verboseNamed = w.verboseNamed ∧
        (∀ key ∈ mended, key ∉ tally'.map Prod.fst) ∧ (w.verboseNamed = true ∨ Encoding.isAscii data = true))
      (fun g _ => g = .kind .noLevel ∧ w.verboseNamed = false ∧ Encoding.isAscii data = false)
      ((c.visitor (usualChecks e) sel src tally).run w) := by
  obtain ⟨v, hcontent, hwarn⟩ := Source.run_content hmode hread (World.Warned.refl w)
  rw [hwanted] at hcontent
  obtain ⟨loc, mode, hloc, hfile⟩ := FileTree.read_eq_ok_iff.mp hread
  have hentry : v.tree.entry src.path = .ok (.file data mode) := by
    rw [hwarn.tree_eq]
    exact FileTree.entry_of_locate hloc hfile
  by_cases hgood : w.verboseNamed = true ∨ Encoding.isAscii data = true
  · obtain ⟨names, w', hrun, htree, hverbose, hnames⟩ := checkSource_clean (c := c) hformat hknown
      hentry hclean (by rwa [hwarn.verboseNamed_eq])
    have hyield : (c.visitor (usualChecks e) sel src tally).run w =
        (.ok (.yield (Tally.addAll tally names)), w') := by
      rw [visitor, run_bind_ok hcontent]
      refine (run_bind_ok hrun _).trans ?_
      rw [hfirst]
      rfl
    rw [hyield]
    refine ⟨htree.trans hwarn.tree_eq, hverbose.trans hwarn.verboseNamed_eq, ?_, hgood⟩
    intro key hkey hmem
    rcases Tally.mem_keys_addAll.mp hmem with hmem | hmem
    · exact hnames key hmem hkey
    · exact htally key hkey hmem
  · simp only [not_or, Bool.not_eq_true] at hgood
    obtain ⟨w', hrun⟩ := checkSource_not_ascii (c := c) src hclean
      (hwarn.verboseNamed_eq.trans hgood.1) hgood.2
    have herror : (c.visitor (usualChecks e) sel src tally).run w = (.error (.kind .noLevel), w') := by
      rw [visitor, run_bind_ok hcontent]
      exact run_bind_error hrun _
    rw [herror]
    exact ⟨rfl, hgood⟩

/-- A tree in which the sources that a walk meets can be read and are in order. -/
structure Orderly (t : FileTree) (sel : Selection) (path : String) (e : Eol) : Prop where
  noFault : ∀ g, .fault g ∉ stops t sel path
  sources : ∀ src ∈ sources (stops t sel path), src.knownMode = none ∧
    ∃ data, t.read src.path = .ok data ∧ Source.wanted sel .binary data = some data ∧
      Clean e data

def AllAscii (t : FileTree) (srcs : List Source) : Prop :=
  ∀ src ∈ srcs, ∀ data, t.read src.path = .ok data → Encoding.isAscii data = true

lemma Orderly.noObstacle {t : FileTree} (h : Orderly t sel path e) (g : Fault) : ¬Obstacle t sel path g :=
  not_obstacle_of_reads h.noFault (fun src hsrc => (h.sources src hsrc).2.imp fun _ => And.left) g

lemma allAscii_iff (t : FileTree) (sel : Selection) (srcs : List Source) :
    AllAscii t srcs ↔ ∀ src data, (src, .bytes data) ∈
      SourceTree.found t { sel with skippedData := ⟨.binary, none⟩ } .binary srcs →
      Encoding.isAscii data = true := by
  constructor
  · intro h src data hmem
    obtain ⟨hsrc, data', hread, hdata⟩ := (SourceTree.mem_found (m := .binary)).mp hmem
    exact Option.some.inj hdata ▸ h src hsrc data' hread
  · intro h src hsrc data hread
    exact h src data ((SourceTree.mem_found (m := .binary)).mpr ⟨hsrc, data, hread, rfl⟩)

lemma run_scan_orderly (hchecks : c.checklist = .ok (usualChecks e))
    (hformat : c.formatter.isOn = false) (hfirst : c.failFast.isOn = false)
    (hsel : Selection.ofPatterns .binary c.patterns = .ok sel) (ht : Orderly w.tree sel path e) :
    (∃ tally w', (c.scan (.text path)).run w = (.ok tally, w') ∧
      (∀ key ∈ mended, key ∉ tally.map Prod.fst) ∧
      (w.verboseNamed = true ∨ AllAscii w.tree (sources (stops w.tree sel path)))) ∨
    ∃ w', (c.scan (.text path)).run w = (.error (.kind .noLevel), w') ∧ w.verboseNamed = false ∧
      ¬AllAscii w.tree (sources (stops w.tree sel path)) := by
  let I : List Source → Tally → World → Prop := fun done tally v =>
    v.tree = w.tree ∧ v.verboseNamed = w.verboseNamed ∧
      (∀ key ∈ mended, key ∉ tally.map Prod.fst) ∧ (w.verboseNamed = true ∨ AllAscii w.tree done)
  let E : Fault → World → Prop := fun g _ => g = .kind .noLevel ∧ w.verboseNamed = false ∧
    ¬AllAscii w.tree (sources (stops w.tree sel path))
  have hlog : ∀ done tally v, I done tally v → ∀ message, I done tally (v.logged .debug message) := by
    rintro done tally v ⟨htree, hverbose, hrest⟩ message
    exact ⟨by rwa [World.logged_tree], by rwa [World.logged_verboseNamed], hrest⟩
  have hvisit : ∀ done tally v src, src ∈ sources (stops w.tree sel path) → I done tally v →
      Lands (fun tally' v' => I (done ++ [src]) tally' v' ∧ ∃ data, w.tree.read src.path = .ok data)
        E ((c.visitor (usualChecks e) sel src tally).run v) := by
    rintro done tally v src hsrc ⟨htree, hverbose, htally, hdone⟩
    obtain ⟨hknown, data, hread, hwanted, hclean⟩ := ht.sources src hsrc
    have hstep := visitor_clean hformat hfirst (Selection.mode_of_ofPatterns hsel) hknown
      (htree ▸ hread) hwanted hclean htally
    rcases hrun : (c.visitor (usualChecks e) sel src tally).run v with ⟨r, v'⟩
    rw [hrun] at hstep
    match r, hstep with
    | .error g, ⟨hg, hunnamed, hascii⟩ =>
      refine ⟨hg, hverbose ▸ hunnamed, fun hall => ?_⟩
      rw [hall src hsrc data hread] at hascii
      cases hascii
    | .ok (.yield tally'), ⟨htree', hverbose', htally', hgood⟩ =>
      refine ⟨⟨htree'.trans htree, hverbose'.trans hverbose, htally', ?_⟩, data, hread⟩
      rcases hgood with hnamed | hascii
      · exact .inl (hverbose ▸ hnamed)
      refine hdone.imp id fun hdone src' hsrc' data' hread' => ?_
      rcases List.mem_append.mp hsrc' with hmem | hmem
      · exact hdone src' hmem data' hread'
      · rw [List.mem_singleton.mp hmem, hread] at hread'
        exact Except.ok.inj hread' ▸ hascii
  have hstart : I [] [] w := ⟨rfl, rfl, by simp, .inr (by simp [AllAscii])⟩
  rw [run_scan_eq hchecks hsel]
  rcases fold_lands (I := I) (E := E) (fun _ => SameView.of_eq) (keeps_visitor _ sel w.tree) hlog hvisit
      (fun g hg => absurd hg (ht.noFault g)) rfl hstart with
    ⟨tally, w', hrun, ⟨-, -, htally, hgood⟩, -⟩ | ⟨g, w', hrun, rfl, hbad⟩
  · exact .inl ⟨tally, w', hrun, htally, hgood⟩
  · exact .inr ⟨w', hrun, hbad⟩

end Checker

lemma Selection.ofPatterns_read {p : Patterns} {sel : Selection} {m : ReadMode}
    (hdata : p.skippedData.isOn = false) (hsel : ofPatterns m p = .ok sel) (m' : ReadMode) :
    sel.skippedData = ⟨m, none⟩ ∧ ofPatterns m' p = .ok { sel with skippedData := ⟨m', none⟩ } := by
  have hnone : ∀ m, DataPattern.ofSetting m p.skippedData = .ok ⟨m, none⟩ := by
    intro m
    have hmembers : p.skippedData.members .notJoinable = .ok [] := by
      unfold Setting.members
      rw [hdata]
      rfl
    rw [DataPattern.ofSetting, hmembers]
    rfl
  unfold ofPatterns at hsel ⊢
  obtain ⟨names, hnames, hsel⟩ := bind_eq_ok hsel
  obtain ⟨skipped, hskipped, hsel⟩ := bind_eq_ok hsel
  rw [hnone] at hsel
  cases hsel
  rw [hnames, hskipped, hnone]
  exact ⟨rfl, rfl⟩

lemma Selection.ofPatterns_modes {p : Patterns} {sel : Selection} (hdata : p.skippedData.isOn = false)
    (hsel : ofPatterns .text p = .ok sel) : sel.skippedData = ⟨.text, none⟩ ∧
      ofPatterns .binary p = .ok { sel with skippedData := ⟨.binary, none⟩ } :=
  ofPatterns_read hdata hsel .binary

namespace Fixer

open SourceWalk
open Rewriter (Chosen)

variable {f : Fixer} {fixes : List LineFix} {sel : Selection} {e : Eol} {path : String}

lemma stops_of_sameShape {t t' : FileTree} (hp : t.Plain) (h : t.SameShape t') (sel : Selection)
    (pattern : DataPattern) (path : String) :
    stops t' { sel with skippedData := pattern } path = stops t sel path := by
  have hskips : Selection.skips { sel with skippedData := pattern } = sel.skips := rfl
  have hwants : Selection.wants { sel with skippedData := pattern } = sel.wants := rfl
  exact stops_congr hskips hwants (sameView hp h) path

lemma wanted_encode (hnone : sel.skippedData = ⟨.text, none⟩) (x : Text) :
    Source.wanted sel .text (Text.encode x) = some (Text.unifyNewlines x) := by
  rw [Source.wanted, hnone, ReadMode.decode, Text.decodeUtf8_encode]
  rfl

lemma Fixed.orderly (hf : f.Direct fixes sel e) (htrailing : f.trailing.isOn = true)
    (htabs : f.tabSize.isOn = true) (hend : f.finalEol.isOn = true) {t t' : FileTree} (hp : t.Plain)
    (hnone : sel.skippedData = ⟨.text, none⟩) (hno : ∀ g, ¬Obstacle t sel path g)
    (hutf8 : ∀ src ∈ sources (stops t sel path), ∀ data, t.read src.path = .ok data → Text.IsUtf8 data)
    (hfixed : Fixed f fixes e t (Chosen t sel (sources (stops t sel path))) t') :
    Checker.Orderly t' { sel with skippedData := ⟨.binary, none⟩ } path e := by
  have hstops := stops_of_sameShape hp hfixed.shape sel ⟨.binary, none⟩ path
  have hnofault : ∀ g, .fault g ∉ stops t sel path := fun g hg => hno g (.inl hg)
  obtain ⟨root, hroot⟩ := locate_of_noFault hnofault
  refine ⟨by rw [hstops]; exact hnofault, ?_⟩
  rw [hstops]
  intro src hsrc
  obtain ⟨rel, -, -, hrel⟩ :=
    (surveys_stops hp hroot (Path.locate_isSome hp hroot)).offered src hsrc
  refine ⟨by rw [hrel]; rfl, ?_⟩
  cases hread : t.read src.path with
  | error problem => exact absurd (.inr ⟨src, hsrc, problem, hread, rfl⟩) (hno _)
  | ok data =>
    obtain ⟨loc, mode, hloc, hfile⟩ := FileTree.read_eq_ok_iff.mp hread
    obtain ⟨x, rfl⟩ := hutf8 src hsrc data hread
    obtain ⟨mode', hfile'⟩ :=
      hfixed.fixed loc _ ⟨src, hsrc, hloc, _, mode, hfile, wanted_encode hnone x⟩
    have hloc' : Path.locate t' .follow src.path = .ok loc := by
      rw [Path.locate_sameShape hp hfixed.shape, hloc]
    exact ⟨_, FileTree.read_of_locate hloc' hfile', rfl,
      clean_fixedBytes hf.lineFixes htrailing htabs hend e (Text.cr_notMem_unifyNewlines x)⟩

lemma run_scan_file (hf : f.Direct fixes sel e) {w : World} (hp : w.tree.Plain) {loc : Location}
    {data : Bytes} {mode : Nat} (hloc : Path.locate w.tree .follow path = .ok loc)
    (hfile : w.tree.get? loc = some (.file data mode)) :
    ∃ w', (f.scan (.text path)).run w = (.ok (), w') ∧
      Fixed f fixes e w.tree (Chosen w.tree sel (sources (stops w.tree sel path))) w'.tree ∧
      w'.verboseNamed = w.verboseNamed := by
  rcases run_scan hf hp (Fixed.refl w.tree) path with ⟨w', hrun, hfixed, hverbose, -⟩ | ⟨g, -, -, hg, -⟩
  · exact ⟨w', hrun, hfixed, hverbose⟩
  · exact absurd hg (not_obstacle_of_file hp hloc hfile g)

/-- A fixer that trims lines, replaces tabs and ends files leaves a tree in which a checker with the
same patterns and the same line ending finds nothing wrong with tabs, line endings, trailing blanks
and the ends of files, if all selected files were UTF-8. The checker returns if there is a level for
its reports or all selected files are ASCII by then, and only then. -/
theorem check_after_fix {p : Patterns} {n : Int} {mode : Setting} {w w' : World} (hp : w.tree.Plain)
    (hn : n ≠ 0) (hdata : p.skippedData.isOn = false)
    (hutf8 : ∀ items, SourceTree.Finds p .binary path w items →
      ∀ src data, (src, .bytes data) ∈ items → Text.IsUtf8 data)
    (hfix : (scan { tabSize := .int n, mode, eol := .eol e, patterns := p } (.text path)).run w =
      (.ok (), w')) :
    ∃ items, SourceTree.Finds p .binary path w' items ∧
      ((w.verboseNamed = true ∨
          ∀ src data, (src, .bytes data) ∈ items → Encoding.isAscii data = true) →
        ∃ tally w'', (Checker.scan { eol := .eol e, patterns := p } (.text path)).run w' =
            (.ok tally, w'') ∧
          ∀ key ∈ ["tabs", "invalid EOL", "trailing spaces", "no eol at eof"],
            key ∉ tally.map Prod.fst) ∧
      (w.verboseNamed = false →
          (∃ src data, (src, .bytes data) ∈ items ∧ Encoding.isAscii data = false) →
        ∃ w'', (Checker.scan { eol := .eol e, patterns := p } (.text path)).run w' =
          (.error (.kind .noLevel), w'')) := by
  obtain ⟨fixes, sel, hf⟩ := direct_of_scan rfl rfl rfl hfix
  obtain ⟨hnone, hbinary⟩ := Selection.ofPatterns_modes hdata hf.selection
  rcases run_scan hf hp (Fixed.refl w.tree) path with
    ⟨v, hrun, hfixed, hverbose, hno⟩ | ⟨g, v, hrun, -⟩
  swap
  · rw [hfix] at hrun
    cases hrun
  rw [hfix] at hrun
  cases hrun
  rw [List.nil_append] at hfixed
  have hutf8' : ∀ src ∈ sources (stops w.tree sel path), ∀ data, w.tree.read src.path = .ok data →
      Text.IsUtf8 data := by
    have hstops := stops_of_sameShape hp (.refl w.tree) sel ⟨.binary, none⟩ path
    have hno' : ∀ g, ¬Obstacle w.tree { sel with skippedData := ⟨.binary, none⟩ } path g := by
      unfold Obstacle
      rw [hstops]
      exact hno
    intro src hsrc data hread
    rw [← hstops] at hsrc
    refine hutf8 _ ((SourceTree.finds_iff hbinary).mpr ⟨rfl, hno'⟩) src data ?_
    exact (SourceTree.mem_found (m := .binary)).mpr ⟨hsrc, data, hread, rfl⟩
  have horderly : Checker.Orderly w'.tree { sel with skippedData := ⟨.binary, none⟩ } path e :=
    hfixed.orderly hf rfl (by simpa [Setting.isOn, Scalar.isOn] using hn) rfl hp hnone hno hutf8'
  have hascii := Checker.allAscii_iff w'.tree sel
    (sources (stops w'.tree { sel with skippedData := ⟨.binary, none⟩ } path))
  refine ⟨_, (SourceTree.finds_iff hbinary).mpr ⟨rfl, horderly.noObstacle⟩, ?_⟩
  rw [← hverbose]
  rcases Checker.run_scan_orderly (c := { eol := .eol e, patterns := p }) rfl rfl rfl hbinary
      horderly with ⟨tally, w'', hcheck, hkeys, hgood⟩ | ⟨w'', hcheck, hunnamed, hbad⟩
  · refine ⟨fun _ => ⟨tally, w'', hcheck, hkeys⟩, ?_⟩
    rintro hunnamed ⟨src, data, hmem, hnot⟩
    have hall := hascii.mp (hgood.resolve_left (by simp [hunnamed])) src data hmem
    rw [hnot] at hall
    cases hall
  · refine ⟨fun hgood => ?_, fun _ _ => ⟨w'', hcheck⟩⟩
    exact absurd (hascii.mpr (hgood.resolve_left (by simp [hunnamed]))) hbad

/-- A file with a character that is not ASCII, with a tab and without a line feed is fixed, and then
nothing of that is left to be counted. -/
theorem check_after_fix_of_file :
    let w : World := { tree := { entries := [(["a.c"], .file [0xc3, 0xa9, 0x09, 0x78] 0o644)] }, year := 2024 }
    ∃ w' tally w'', (scan {} (.text "a.c")).run w = (.ok (), w') ∧
      (Checker.scan {} (.text "a.c")).run w' = (.ok tally, w'') ∧
      ∀ key ∈ ["tabs", "invalid EOL", "trailing spaces", "no eol at eof"],
        key ∉ tally.map Prod.fst := by
  intro w
  have hp : w.tree.Plain := by decide
  have hloc : Path.locate w.tree .follow "a.c" = .ok ["a.c"] := Path.locate_name hp rfl
  obtain ⟨sel, hsel⟩ : ∃ sel, Selection.ofPatterns .text Patterns.usual = .ok sel := ⟨_, rfl⟩
  have hf : Direct {} [.trim, .tabs 4] sel .native := ⟨rfl, hsel, rfl, rfl, rfl⟩
  obtain ⟨w', hrun, -⟩ := run_scan_file hf hp hloc rfl
  have hutf8 : ∀ items, SourceTree.Finds Patterns.usual .binary "a.c" w items →
      ∀ src data, (src, .bytes data) ∈ items → Text.IsUtf8 data := by
    intro items hfinds src data hmem
    obtain ⟨rfl, -⟩ := (SourceTree.finds_iff rfl).mp hfinds
    obtain ⟨hsrc, data', hread, hdata⟩ := (SourceTree.mem_found (m := .binary)).mp hmem
    rw [eq_of_mem_sources_file hp hloc rfl hsrc] at hread
    have hread' : w.tree.read "a.c" = .ok [0xc3, 0xa9, 0x09, 0x78] := FileTree.read_of_locate hloc rfl
    cases hread.symm.trans hread'
    cases hdata
    exact ⟨['é', '\t', 'x'], by decide⟩
  obtain ⟨items, -, hreturns, -⟩ :=
    check_after_fix (p := .usual) (n := 4) (e := .native) hp (by decide) rfl hutf8 hrun
  obtain ⟨tally, w'', hcheck, hkeys⟩ := hreturns (.inl rfl)
  exact ⟨w', tally, w'', hrun, hcheck, hkeys⟩

/-- Without a level for reports, the check of a fixed file that is not ASCII does not return. -/
theorem check_after_fix_without_level :
    let w : World := {
      tree := { entries := [(["a.c"], .file [0xc3, 0xa9, 0x0a] 0o644)] }
      verboseNamed := false
      year := 2024 }
    ∃ w' w'', (scan {} (.text "a.c")).run w = (.ok (), w') ∧
      (Checker.scan {} (.text "a.c")).run w' = (.error (.kind .noLevel), w'') := by
  intro w
  have hp : w.tree.Plain := by decide
  have hloc : Path.locate w.tree .follow "a.c" = .ok ["a.c"] := Path.locate_name hp rfl
  have hread : w.tree.read "a.c" = .ok [0xc3, 0xa9, 0x0a] := FileTree.read_of_locate hloc rfl
  obtain ⟨sel, hsel⟩ : ∃ sel, Selection.ofPatterns .text Patterns.usual = .ok sel := ⟨_, rfl⟩
  have hf : Direct {} [.trim, .tabs 4] sel .native := ⟨rfl, hsel, rfl, rfl, rfl⟩
  obtain ⟨hnone, hbinary⟩ := Selection.ofPatterns_modes rfl hsel
  obtain ⟨w', hrun, hfixed, hverbose⟩ := run_scan_file hf hp hloc rfl
  have horderly := hfixed.orderly hf rfl rfl rfl hp hnone (not_obstacle_of_file hp hloc rfl) (by
    intro src hsrc data hdata
    rw [eq_of_mem_sources_file hp hloc rfl hsrc] at hdata
    cases hdata.symm.trans hread
    exact ⟨['é', '\n'], by decide⟩)
  rcases Checker.run_scan_orderly (c := {}) rfl rfl rfl hbinary horderly with
    ⟨tally, w'', hcheck, -, hgood⟩ | ⟨w'', hcheck, -⟩
  · have hall := hgood.resolve_left (by rw [hverbose]; decide)
    have hsrc : sourceAt "a.c" [] ∈ sources (stops w.tree sel "a.c") := by
      cases hsel
      rw [stops_file hloc rfl rfl rfl]
      exact List.mem_singleton_self _
    have hwanted : Source.wanted sel .text [0xc3, 0xa9, 0x0a] = some ['é', '\n'] :=
      wanted_encode hnone ['é', '\n']
    obtain ⟨mode, hfile⟩ := hfixed.fixed ["a.c"] ['é', '\n'] ⟨_, hsrc, hloc, _, _, rfl, hwanted⟩
    have hloc' : Path.locate w'.tree .follow "a.c" = .ok ["a.c"] := by
      rw [Path.locate_sameShape hp hfixed.shape, hloc]
    rw [stops_of_sameShape hp hfixed.shape] at hall
    exact absurd (hall _ hsrc _ (FileTree.read_of_locate hloc' hfile)) (by decide +kernel)
  · exact ⟨w', w'', hrun, hcheck⟩

end Fixer

end SourceTidy
