import Mathlib.Data.List.Forall2
import SourceTidy.Proofs.FoundFiles
import SourceTidy.Proofs.Globs
import SourceTidy.Proofs.Utf8

/-!
# The files that patterns select

Which files a source tree finds is said here in terms of the tree, of the globs and of the regular
expressions alone. The files are found in the order in which the directories are read.
-/

namespace SourceTidy

open Text Selection DataPattern

variable {data : Bytes} {rel : List String}

def MatchesSome (globs : List String) (name : String) : Prop :=
  ∃ g ∈ globs, (Glob.ofString g).Matches name.toList

/-- A text holds a match of the alternatives that the given regular expressions are. -/
def HoldsSome (m : ReadMode) (regexes : List String) (s : Text) : Prop :=
  regexes ≠ [] ∧ ∃ r, Regex.ofText (m == .text) ("|".intercalate regexes).toList = .ok r ∧
    r.foundIn s = true

lemma members_texts (texts : List String) (k : KindFault) :
    (Setting.texts texts).members k = .ok (texts.map .text) := by
  cases texts with
  | nil => rfl
  | cons a texts => rfl

lemma globs_texts (globs : List String) : Selection.globs (.texts globs) = .ok (globs.map Glob.ofString) := by
  unfold Selection.globs
  rw [members_texts]
  change (globs.map Scalar.text).mapM glob = _
  induction globs with
  | nil => rfl
  | cons g globs ih =>
    rw [List.map_cons, List.mapM_cons, ih]
    rfl

lemma alternatives_texts (regexes : List String) (n : Nat) :
    alternatives n (regexes.map .text) = .ok regexes := by
  induction regexes generalizing n with
  | nil => rfl
  | cons r regexes ih =>
    rw [List.map_cons, alternatives, ih]
    rfl

lemma any_accepts_iff {globs : List String} {name : String} :
    (globs.map Glob.ofString).any (·.accepts name.toList) = true ↔ MatchesSome globs name := by
  simp [MatchesSome, Glob.accepts_iff]

/-- The characters among which skipped content is looked for. Those of bytes are the ones of their
numbers. -/
def ReadMode.characters : (m : ReadMode) → m.Data → Text
  | .text, s => s
  | .binary, data => decodeLatin1 data

lemma finds_eq_search (p : DataPattern) (m : ReadMode) (d : m.Data) :
    p.finds m d = p.search (m.characters d) := by
  cases m <;> rfl

lemma Text.exists_encodeAscii_iff {s : Text} :
    (∃ data, encodeAscii s = .ok data) ↔ ∀ c ∈ s, c.toNat < 0x80 := by
  unfold encodeAscii
  by_cases h : s.findIdx (fun c => 0x80 ≤ c.toNat) < s.length
  · rw [if_pos h]
    obtain ⟨c, hc, hle⟩ := List.findIdx_lt_length.mp h
    exact iff_of_false nofun fun hall => absurd (hall c hc) (by simpa using hle)
  · rw [if_neg h]
    refine iff_of_true ⟨_, rfl⟩ fun c hc => ?_
    by_contra hle
    exact h (List.findIdx_lt_length.mpr ⟨c, hc, by simpa using hle⟩)

lemma DataPattern.ofSetting_texts_iff {m : ReadMode} {regexes : List String} (h : regexes ≠ [])
    {d : DataPattern} :
    ofSetting m (.texts regexes) = .ok d ↔
      (m = .binary → ∀ c ∈ ("|".intercalate regexes).toList, c.toNat < 0x80) ∧
        ∃ r, Regex.ofText (m == .text) ("|".intercalate regexes).toList = .ok r ∧ d = ⟨m, some r⟩ := by
  have hregex : ((Regex.ofText (m == .text) ("|".intercalate regexes).toList).mapError Fault.regex >>= fun r =>
      pure (⟨m, some r⟩ : DataPattern)) = .ok d ↔
      ∃ r, Regex.ofText (m == .text) ("|".intercalate regexes).toList = .ok r ∧ d = ⟨m, some r⟩ := by
    cases Regex.ofText (m == .text) ("|".intercalate regexes).toList with
    | error f => exact iff_of_false nofun nofun
    | ok r => exact ⟨fun h => ⟨r, rfl, by cases h; rfl⟩, by rintro ⟨_, ⟨⟩, rfl⟩; rfl⟩
  unfold ofSetting
  rw [members_texts]
  change (alternatives 0 (regexes.map .text) >>= _) = _ ↔ _
  rw [alternatives_texts]
  change (if regexes.isEmpty = true then _ else _) = _ ↔ _
  rw [if_neg (by simpa using h)]
  cases m with
  | text => exact hregex.trans ⟨fun h => ⟨nofun, h⟩, And.right⟩
  | binary =>
    have hascii := exists_encodeAscii_iff (s := ("|".intercalate regexes).toList)
    rw [if_pos (by decide), ← hregex]
    cases hencode : encodeAscii ("|".intercalate regexes).toList with
    | error f =>
      refine iff_of_false nofun fun h => ?_
      obtain ⟨data, hdata⟩ := hascii.mpr (h.1 rfl)
      cases hencode.symm.trans hdata
    | ok data => exact ⟨fun h => ⟨fun _ => hascii.mp ⟨data, hencode⟩, h⟩, And.right⟩

lemma search_iff {m : ReadMode} {regexes : List String} {p : DataPattern}
    (h : ofSetting m (.texts regexes) = .ok p) (s : Text) : p.search s = true ↔ HoldsSome m regexes s := by
  by_cases hempty : regexes = []
  · subst hempty
    cases h
    exact iff_of_false Bool.false_ne_true fun hs => hs.1 rfl
  · obtain ⟨-, r, hr, rfl⟩ := (ofSetting_texts_iff hempty).mp h
    exact ⟨fun hs => ⟨hempty, r, hr, hs⟩, fun ⟨_, r', hr', hs⟩ => by
      rw [hr] at hr'
      cases hr'
      exact hs⟩

/-- The members of a list are what a relation gives for lists of components below a directory, one for
each of them, in the order in which a walk takes these ways. -/
def InOrder {α : Type} (t : FileTree) (root : Location) (R : List String → α → Prop)
    (items : List α) : Prop :=
  ∃ rels : List (List String), rels.Pairwise (SourceWalk.Before t root) ∧ List.Forall₂ R rels items ∧
    ∀ rel a, R rel a → rel ∈ rels

lemma inOrder_filterMap {α : Type} {t : FileTree} {root : Location} {R : List String → α → Prop}
    {g : List String → Option α} {rels : List (List String)}
    (hsorted : rels.Pairwise (SourceWalk.Before t root))
    (hR : ∀ rel a, R rel a ↔ rel ∈ rels ∧ g rel = some a) : InOrder t root R (rels.filterMap g) := by
  refine ⟨rels.filter (g · |>.isSome), hsorted.filter _, ?_, fun rel a h => ?_⟩
  · have hsub : ∀ rel ∈ rels, ∀ a, g rel = some a → R rel a :=
      fun rel hrel a ha => (hR rel a).mpr ⟨hrel, ha⟩
    clear hR hsorted
    induction rels with
    | nil => exact List.Forall₂.nil
    | cons rel rels ih =>
      have hrest := ih fun r hr => hsub r (List.mem_cons_of_mem _ hr)
      cases hg : g rel with
      | none => simpa [List.filter_cons, hg] using hrest
      | some a =>
        simpa [List.filter_cons, hg] using ⟨hsub rel List.mem_cons_self a hg, hrest⟩
  · obtain ⟨hrel, ha⟩ := (hR rel a).mp h
    exact List.mem_filter.mpr ⟨hrel, by simp [ha]⟩

namespace SourceTree

open SourceWalk

variable (t : FileTree) (names skipped regexes : List String) (m : ReadMode) (path : String)
  (root : Location)

/-- A file below a path whose name is wanted, and no name on the way to it is skipped. -/
structure Candidate (rel : List String) (data : Bytes) : Prop where
  isFile : ∃ mode, t.get? (rel.reverse ++ root) = some (.file data mode)
  notSkipped : ∀ name ∈ tested path rel, ¬MatchesSome skipped name
  wanted : names = [] ∨ MatchesSome names (rel.getLastD (Path.baseName path))

structure OpenDir (rel : List String) : Prop where
  isDir : t.isDirAt (rel.reverse ++ root) = true
  notSkipped : ∀ name ∈ rel, ¬MatchesSome skipped name

/-- What is read of bytes: they themselves, or the text that they encode, with line feeds only. -/
def Reads : (m : ReadMode) → Bytes → m.Data → Prop
  | .binary, data, d => d = data
  | .text, data, d => ∃ s, data = encode s ∧ d = unifyNewlines s

/-- A selected file, with what is read of it. -/
def Selected (rel : List String) (item : Source × Content) : Prop :=
  ∃ data d, Candidate t names skipped path root rel data ∧ Reads m data d ∧
    ¬HoldsSome m regexes (m.characters d) ∧ item = (sourceAt path rel, Content.of m d)

/-- A file that is left out since it should be a text and is none, with the warning about it. -/
def Refused (rel : List String) (message : String) : Prop :=
  ∃ data u, Candidate t names skipped path root rel data ∧ m = .text ∧
    decodeUtf8 data = .error u ∧ message = (sourceAt path rel).unreadable u

/-- The paths of all directories and files that are met stay below the limit. -/
def Fits : Prop :=
  ∀ rel, OpenDir t skipped root rel ∨ (∃ data, Candidate t names skipped path root rel data) →
    (pathTo path rel).utf8ByteSize < Path.pathLimit

variable {t names skipped regexes m path root}

lemma reads_iff {d : m.Data} : m.decode data = .ok d ↔ Reads m data d := by
  cases m with
  | binary => exact ⟨fun h => (Except.ok.inj h).symm, fun h => congrArg Except.ok (Eq.symm h)⟩
  | text =>
    rw [ReadMode.decode]
    constructor
    · intro h
      cases hdec : decodeUtf8 data with
      | error u => rw [hdec] at h; cases h
      | ok s =>
        rw [hdec] at h
        cases h
        exact ⟨s, (decodeUtf8_eq_ok_iff).mp hdec, rfl⟩
    · rintro ⟨s, rfl, rfl⟩
      rw [decodeUtf8_encode]
      rfl

section

variable {sel : Selection} (hnames : sel.names = names.map Glob.ofString)
  (hskipped : sel.skippedNames = skipped.map Glob.ofString)

include hskipped

lemma skips_eq_false_iff (name : String) : sel.skips name = false ↔ ¬MatchesSome skipped name := by
  rw [skips, hskipped, ← any_accepts_iff, Bool.not_eq_true]

lemma enters_iff : Enters t sel root rel ↔ OpenDir t skipped root rel := by
  constructor
  · rintro ⟨hd, hs⟩
    exact ⟨hd, fun name hname => (skips_eq_false_iff hskipped name).mp (hs name hname)⟩
  · rintro ⟨hd, hs⟩
    exact ⟨hd, fun name hname => (skips_eq_false_iff hskipped name).mpr (hs name hname)⟩

include hnames

lemma offers_iff : Offers t sel path root rel ↔ ∃ data, Candidate t names skipped path root rel data := by
  have hwants : ∀ name, sel.wants name = true ↔ names = [] ∨ MatchesSome names name := by
    intro name
    rw [wants, hnames, Bool.or_eq_true, any_accepts_iff]
    simp
  constructor
  · rintro ⟨⟨data, hfile⟩, hs, hw⟩
    exact ⟨data, hfile, fun name hname => (skips_eq_false_iff hskipped name).mp (hs name hname),
      (hwants _).mp hw⟩
  · rintro ⟨data, hfile, hs, hw⟩
    exact ⟨⟨data, hfile⟩, fun name hname => (skips_eq_false_iff hskipped name).mpr (hs name hname),
      (hwants _).mpr hw⟩

end

lemma selection_of_make {tree : SourceTree}
    (h : make (.text path) (.mode m) ⟨.texts names, .texts skipped, .texts regexes⟩ = .ok tree) :
    tree.path = .text path ∧ tree.mode = .mode m ∧
      tree.selection.names = names.map Glob.ofString ∧
      tree.selection.skippedNames = skipped.map Glob.ofString ∧
      DataPattern.ofSetting m (.texts regexes) = .ok tree.selection.skippedData := by
  obtain ⟨sel, hsel, rfl⟩ := make_eq_ok_iff.mp h
  unfold ofPatterns at hsel
  obtain ⟨wantedGlobs, hwanted, hsel⟩ := bind_eq_ok hsel
  obtain ⟨skippedGlobs, hskipped, hsel⟩ := bind_eq_ok hsel
  obtain ⟨data, hdata, hsel⟩ := bind_eq_ok hsel
  cases hsel
  rw [globs_texts] at hwanted hskipped
  exact ⟨rfl, rfl, (Except.ok.inj hwanted).symm, (Except.ok.inj hskipped).symm, hdata⟩

lemma wanted_iff {sel : Selection} (hdata : ofSetting m (.texts regexes) = .ok sel.skippedData)
    {d : m.Data} : Source.wanted sel m data = some d ↔
      Reads m data d ∧ ¬HoldsSome m regexes (m.characters d) := by
  rw [← reads_iff, Source.wanted]
  cases m.decode data with
  | error u => simp
  | ok d' =>
    have hsearch := search_iff hdata (m.characters d')
    rw [← finds_eq_search] at hsearch
    by_cases hfind : sel.skippedData.finds m d' = true
    · simp only [hfind, if_true, reduceCtorEq, Except.ok.injEq, false_iff]
      rintro ⟨rfl, hno⟩
      exact hno (hsearch.mp hfind)
    · simp only [hfind, Bool.false_eq_true, if_false, Option.some.injEq, Except.ok.injEq]
      refine ⟨fun h => ⟨h, ?_⟩, fun h => h.1⟩
      subst h
      exact fun hs => hfind (hsearch.mpr hs)

lemma warning_iff {src : Source} {message : String} :
    src.warning? m data = some message ↔
      ∃ u, m = .text ∧ decodeUtf8 data = .error u ∧ message = src.unreadable u := by
  cases m with
  | binary => simp [Source.warning?, ReadMode.decode]
  | text =>
    rw [Source.warning?, ReadMode.decode]
    cases decodeUtf8 data with
    | error u => simp [Except.map, eq_comm]
    | ok s => simp [Except.map]

variable {w : World} {tree : SourceTree}

lemma read_candidate (hp : t.Plain) (hroot : Path.locate t .follow path = .ok root)
    (hc : Candidate t names skipped path root rel data)
    (hshort : (pathTo path rel).utf8ByteSize < Path.pathLimit) : t.read (pathTo path rel) = .ok data := by
  obtain ⟨mode, hfile⟩ := hc.isFile
  exact FileTree.read_of_locate (locate_pathTo hp hroot rel (by rw [hfile]; rfl) hshort) hfile

section

variable {rels : List (List String)} (hsorted : rels.Pairwise (Before t root))
  (hmem : ∀ rel, rel ∈ rels ↔ ∃ data, Candidate t names skipped path root rel data)
  (hread : ∀ rel data, Candidate t names skipped path root rel data →
    t.read (sourceAt path rel).path = .ok data)

include hsorted hmem hread

lemma inOrder_found {sel : Selection} (hdata : ofSetting m (.texts regexes) = .ok sel.skippedData) :
    InOrder t root (Selected t names skipped regexes m path root)
      (found t sel m (rels.map (sourceAt path))) := by
  rw [found, List.filterMap_map]
  refine inOrder_filterMap hsorted fun rel item => ?_
  rw [hmem, Function.comp_apply]
  constructor
  · rintro ⟨data, d, hc, hreads, hholds, rfl⟩
    have hwant := (wanted_iff hdata).mpr ⟨hreads, hholds⟩
    exact ⟨⟨data, hc⟩, by simp [hread rel data hc, hwant]⟩
  · rintro ⟨⟨data, hc⟩, hitem⟩
    simp only [hread rel data hc, Option.map_eq_some_iff] at hitem
    obtain ⟨d, hwant, rfl⟩ := hitem
    obtain ⟨hreads, hholds⟩ := (wanted_iff hdata).mp hwant
    exact ⟨data, d, hc, hreads, hholds, rfl⟩

lemma inOrder_warnings :
    InOrder t root (Refused t names skipped m path root) (warnings t m (rels.map (sourceAt path))) := by
  rw [warnings, List.filterMap_map]
  refine inOrder_filterMap hsorted fun rel message => ?_
  rw [hmem, Function.comp_apply]
  constructor
  · rintro ⟨data, u, hc, hu⟩
    exact ⟨⟨data, hc⟩, by simpa only [hread rel data hc] using warning_iff.mpr ⟨u, hu⟩⟩
  · rintro ⟨⟨data, hc⟩, hmessage⟩
    simp only [hread rel data hc] at hmessage
    obtain ⟨u, hu⟩ := warning_iff.mp hmessage
    exact ⟨data, u, hc, hu⟩

end

/-- A source tree finds exactly the selected files: those at and below its path under no skipped
name, with a wanted name, that can be read and hold nothing that is skipped. Each of them is found
once, in depth-first order with the names of a directory in the order in which it is read. Files that
should be texts and are none are left out with a warning. Only a path of a directory or file on the way
that reaches the limit for the length of paths stops it. -/
theorem files_selected_in_order (hp : w.tree.Plain)
    (hmake : make (.text path) (.mode m) ⟨.texts names, .texts skipped, .texts regexes⟩ = .ok tree)
    (hroot : Path.locate w.tree .follow path = .ok root) :
    (Fits w.tree names skipped path root → ∃ items messages w', tree.files.run w = (.ok items, w') ∧
      InOrder w.tree root (Selected w.tree names skipped regexes m path root) items ∧
      InOrder w.tree root (Refused w.tree names skipped m path root) messages ∧
      World.Warned w messages w') ∧
    (¬Fits w.tree names skipped path root → ∃ rel messages w',
      tree.files.run w = (.error (.path .nameTooLong (pathTo path rel)), w') ∧
      Path.pathLimit ≤ (pathTo path rel).utf8ByteSize ∧ World.Warned w messages w') ∧
    (w.tree.lister = .sorted → ∀ rel rel', Before w.tree root rel rel' → rel < rel') := by
  obtain ⟨hpath, hmode, hnames, hskipped, hdata⟩ := selection_of_make hmake
  have hsome := Path.locate_isSome hp hroot
  have hoffers : ∀ rel, Offers w.tree tree.selection path root rel ↔
      ∃ data, Candidate w.tree names skipped path root rel data :=
    fun rel => offers_iff hnames hskipped
  have henters : ∀ rel, Enters w.tree tree.selection root rel ↔ OpenDir w.tree skipped root rel :=
    fun rel => enters_iff hskipped
  have hrun := run_files tree w hpath hmode (DataPattern.mode_of_ofSetting hdata)
  refine ⟨fun hfits => ?_, fun hfits => ?_, fun hsorted rel rel' => Before.lt hp hsorted⟩
  · have hno : ∀ g, ¬Obstacle w.tree tree.selection path g := by
      intro g hg
      obtain ⟨rel, hmet, hlong, -⟩ := hg.tooLong hp hroot hsome
      rw [henters, hoffers] at hmet
      exact absurd (hfits rel hmet) (Nat.not_lt.mpr hlong)
    obtain ⟨rels, hsorted, hmem, hsrc⟩ :=
      (surveys_stops hp hroot hsome).sources fun g hg => hno g (.inl hg)
    have hmem' : ∀ rel, rel ∈ rels ↔ ∃ data, Candidate w.tree names skipped path root rel data := by
      intro rel
      rw [hmem, hoffers, true_and]
    have hread : ∀ rel data, Candidate w.tree names skipped path root rel data →
        w.tree.read (sourceAt path rel).path = .ok data :=
      fun rel data hc => read_candidate hp hroot hc (hfits rel (.inr ⟨data, hc⟩))
    rcases hrun with ⟨w', hrun, hwarn, -⟩ | ⟨g, w', -, hg, -⟩
    · rw [hsrc] at hrun hwarn
      exact ⟨_, _, w', hrun, inOrder_found hsorted hmem' hread hdata,
        inOrder_warnings hsorted hmem' hread, hwarn⟩
    · exact absurd hg (hno g)
  · have hmet : ∃ rel, (Enters w.tree tree.selection root rel ∨
        Offers w.tree tree.selection path root rel) ∧ TooLong path rel := by
      unfold Fits at hfits
      simp only [not_forall, Nat.not_lt, exists_prop] at hfits
      obtain ⟨rel, hmet, hlong⟩ := hfits
      rw [← henters, ← hoffers] at hmet
      exact ⟨rel, hmet, hlong⟩
    obtain ⟨rel, hmet, hlong⟩ := hmet
    obtain ⟨g, hg⟩ := exists_obstacle hp hroot hmet hlong
    rcases hrun with ⟨w', -, -, hno⟩ | ⟨g', w', hrun, hg', messages, hwarn⟩
    · exact absurd hg (hno g)
    · obtain ⟨rel', -, hlong', rfl⟩ := hg'.tooLong hp hroot hsome
      exact ⟨rel', messages, w', hrun, hlong', hwarn⟩

/-- A source tree at a directory with one wanted file, whose paths are short. -/
theorem files_of_small_directory :
    let w : World := {
      tree := { entries := [(["d"], .dir 0o755), (["a.c", "d"], .file [0x78, 0x0d, 0x0a] 0o644)] }
      year := 2024 }
    ∃ tree, make (.text "d") (.mode .text) ⟨.texts ["*.c"], .texts ["b*"], .texts []⟩ = .ok tree ∧
      ∃ items messages w', tree.files.run w = (.ok items, w') ∧
        InOrder w.tree ["d"] (Selected w.tree ["*.c"] ["b*"] [] .text "d" ["d"]) items ∧
        InOrder w.tree ["d"] (Refused w.tree ["*.c"] ["b*"] .text "d" ["d"]) messages ∧
        World.Warned w messages w' := by
  intro w
  have hp : w.tree.Plain := by decide
  have hroot : Path.locate w.tree .follow "d" = .ok ["d"] := Path.locate_name hp rfl
  refine ⟨_, rfl, (files_selected_in_order hp rfl hroot).1 fun rel hmet => ?_⟩
  have hmem : rel.reverse ++ ["d"] ∈ [["d"], ["a.c"] ++ ["d"]] := by
    rcases hmet with hdir | ⟨data, hc⟩
    · obtain ⟨mode, hmode⟩ := FileTree.isDirAt_iff.mp hdir.isDir
      exact FileTree.mem_locations (by simp) hmode
    · obtain ⟨mode, hmode⟩ := hc.isFile
      exact FileTree.mem_locations (by simp) hmode
  have hrel : rel = [] ∨ rel = ["a.c"] := by
    simpa only [List.mem_cons, List.not_mem_nil, or_false, List.append_left_inj,
      List.append_left_eq_self, List.reverse_eq_iff, List.reverse_nil, List.reverse_singleton] using hmem
  rcases hrel with rfl | rfl <;> decide

/-- Below a path that is nearly too long there is a file with too long a path, which is not found. -/
theorem files_stop_at_long_path :
    let w : World := {
      tree := { entries := [(["d"], .dir 0o755), (["a.c", "d"], .file [0x78, 0x0a] 0o644)] }
      year := 2024 }
    ∃ path tree, path.utf8ByteSize = 4095 ∧
      make (.text path) (.mode .text) ⟨.texts [], .texts [], .texts []⟩ = .ok tree ∧
      Path.locate w.tree .follow path = .ok ["d"] ∧
      Selected w.tree [] [] [] .text path ["d"] ["a.c"] (sourceAt path ["a.c"], .text ['x', '\n']) ∧
      ∃ g w', tree.files.run w = (.error g, w') := by
  intro w
  have hp : w.tree.Plain := by decide
  obtain ⟨path, hroot, hsize⟩ : ∃ path, Path.locate w.tree .follow path = .ok ["d"] ∧
      path.utf8ByteSize = 4095 := Path.exists_path_of_size hp rfl (by decide) (by decide)
  obtain ⟨tree, hmake⟩ : ∃ tree, make (.text path) (.mode .text) ⟨.texts [], .texts [], .texts []⟩ =
    .ok tree := ⟨_, rfl⟩
  have hlong : TooLong path ["a.c"] := tooLong_singleton (by rw [hsize]; decide) (by decide)
  have hc : Candidate w.tree [] [] path ["d"] ["a.c"] [0x78, 0x0a] :=
    ⟨⟨0o644, rfl⟩, by simp [MatchesSome], .inl rfl⟩
  refine ⟨path, tree, hsize, hmake, hroot, ⟨_, _, hc, ⟨['x', '\n'], rfl, rfl⟩, fun h => h.1 rfl, rfl⟩, ?_⟩
  obtain ⟨hpath, hmode, hnames, hskipped, hdata⟩ := selection_of_make hmake
  obtain ⟨g, hg⟩ := exists_obstacle hp hroot (.inr ((offers_iff hnames hskipped).mpr ⟨_, hc⟩)) hlong
  rcases run_files tree w hpath hmode (DataPattern.mode_of_ofSetting hdata) with
    ⟨w', -, -, hno⟩ | ⟨g', w', hrun, -⟩
  · exact absurd hg (hno g)
  · exact ⟨g', w', hrun⟩

end SourceTree

end SourceTidy
