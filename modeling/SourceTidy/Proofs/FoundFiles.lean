import SourceTidy.Proofs.PlainWalk
import SourceTidy.SourceTree

/-!
# The files that a source tree finds

The content of a source, as it is read in the course of a walk, and the list of the files that a
source tree finds. A source tree either reads every source that the walk offers, or a directory or a
source that cannot be reached ends the walk.
-/

namespace SourceTidy

open Session SourceTidy.Path World

namespace FileTree

variable {t : FileTree} {path : String} {loc : Location} {data : Bytes} {mode : Nat}

lemma entry_of_locate {e : Entry} (hloc : locate t .follow path = .ok loc)
    (he : t.get? loc = some e) : t.entry path = .ok e := by
  unfold entry
  rw [hloc]
  simp [bind, Except.bind, he]

lemma read_of_locate (hloc : locate t .follow path = .ok loc)
    (hf : t.get? loc = some (.file data mode)) : t.read path = .ok data := by
  unfold read
  rw [entry_of_locate hloc hf]
  rfl

lemma read_of_dir (hloc : locate t .follow path = .ok loc) (hdir : t.isDirAt loc = true) :
    t.read path = .error .isDirectory := by
  obtain ⟨mode, hmode⟩ := isDirAt_iff.mp hdir
  unfold read
  rw [entry_of_locate hloc hmode]
  rfl

lemma read_of_locate_error {problem : PathProblem} (h : locate t .follow path = .error problem) :
    t.read path = .error problem := by
  unfold read entry
  rw [h]
  rfl

lemma read_eq_ok_iff : t.read path = .ok data ↔
    ∃ loc mode, locate t .follow path = .ok loc ∧ t.get? loc = some (.file data mode) := by
  constructor
  · intro h
    unfold read entry at h
    cases hl : locate t .follow path with
    | error problem => rw [hl] at h; cases h
    | ok loc =>
      rw [hl] at h
      cases he : t.get? loc with
      | none => simp [bind, Except.bind, he] at h
      | some e =>
        cases e with
        | file d mode =>
          have hd : d = data := by simpa [bind, Except.bind, he] using h
          exact ⟨loc, mode, rfl, hd ▸ he⟩
        | dir mode => simp [bind, Except.bind, he] at h
        | link target => simp [bind, Except.bind, he] at h
  · rintro ⟨loc, mode, hl, hf⟩
    exact read_of_locate hl hf

lemma pathExists_iff :
    t.pathExists path = true ↔ ∃ loc e, locate t .follow path = .ok loc ∧ t.get? loc = some e := by
  unfold pathExists entry
  cases hl : locate t .follow path with
  | error problem => simp [bind, Except.bind]
  | ok loc => cases he : t.get? loc <;> simp [bind, Except.bind, he]

end FileTree

def DataPattern.finds (p : DataPattern) : (m : ReadMode) → m.Data → Bool
  | .text, s => p.search s
  | .binary, data => p.search (Text.decodeLatin1 data)

lemma DataPattern.foundIn_eq {p : DataPattern} {m : ReadMode} (h : p.mode = m) (data : m.Data) :
    p.foundIn m data = .ok (p.finds m data) := by
  cases m <;> simp [foundIn, finds, h]

lemma DataPattern.mode_of_ofSetting {m : ReadMode} {v : Setting} {p : DataPattern}
    (h : ofSetting m v = .ok p) : p.mode = m := by
  unfold ofSetting at h
  obtain ⟨members, -, h⟩ := bind_eq_ok h
  obtain ⟨items, -, h⟩ := bind_eq_ok h
  by_cases hempty : items.isEmpty = true
  · rw [if_pos hempty] at h
    cases h
    rfl
  · rw [if_neg hempty] at h
    by_cases hbin : (m == .binary) = true
    · rw [if_pos hbin] at h
      obtain ⟨-, -, h⟩ := bind_eq_ok h
      obtain ⟨regex, -, h⟩ := bind_eq_ok h
      cases h
      rfl
    · rw [if_neg hbin] at h
      obtain ⟨regex, -, h⟩ := bind_eq_ok h
      cases h
      rfl

lemma Selection.mode_of_ofPatterns {m : ReadMode} {p : Patterns} {sel : Selection}
    (h : ofPatterns m p = .ok sel) : sel.skippedData.mode = m := by
  unfold ofPatterns at h
  obtain ⟨names, -, h⟩ := bind_eq_ok h
  obtain ⟨skippedNames, -, h⟩ := bind_eq_ok h
  obtain ⟨skippedData, hdata, h⟩ := bind_eq_ok h
  cases h
  exact DataPattern.mode_of_ofSetting hdata

namespace Source

def unreadable (src : Source) (u : Undecodable) : String :=
  "unable to read " ++ Text.quote src.path ++ ": " ++ u.message

def wanted (sel : Selection) (m : ReadMode) (data : Bytes) : Option m.Data :=
  match m.decode data with
  | .error _ => none
  | .ok d => if sel.skippedData.finds m d then none else some d

def warning? (src : Source) (m : ReadMode) (data : Bytes) : Option String :=
  match m.decode data with
  | .error u => some (src.unreadable u)
  | .ok _ => none

end Source

namespace World

def warnings (w : World) : List String :=
  w.log.filterMap fun r => if r.level = .warning then some r.message else none

/-- The world differs from another one at most in what is added to the log, and the added warnings
are the given ones as far as they are kept. -/
structure Warned (w : World) (messages : List String) (w' : World) : Prop where
  rest : ∃ records, w' = { w with log := w.log ++ records }
  warnings : w'.warnings = w.warnings ++ if w.threshold ≤ Level.warning.number then messages else []

end World

namespace World.Warned

variable {w v : World} {messages : List String}

protected lemma refl (w : World) : Warned w [] w := ⟨⟨[], by simp⟩, by simp⟩

lemma tree_eq (h : Warned w messages v) : v.tree = w.tree := by
  obtain ⟨records, rfl⟩ := h.rest
  rfl

lemma verboseNamed_eq (h : Warned w messages v) : v.verboseNamed = w.verboseNamed := by
  obtain ⟨records, rfl⟩ := h.rest
  rfl

lemma logged_debug (h : Warned w messages v) (message : String) :
    Warned w messages (v.logged .debug message) := by
  obtain ⟨records, rfl⟩ := h.rest
  unfold logged
  split
  · refine ⟨⟨records ++ [⟨.debug, message⟩], by simp⟩, ?_⟩
    rw [← h.warnings]
    simp [World.warnings]
  · exact h

lemma logged_warning (h : Warned w messages v) (message : String) :
    Warned w (messages ++ [message]) (v.logged .warning message) := by
  have hw := h.warnings
  obtain ⟨records, rfl⟩ := h.rest
  unfold logged
  split
  · next hkept =>
    refine ⟨⟨records ++ [⟨.warning, message⟩], by simp⟩, ?_⟩
    rw [if_pos hkept] at hw ⊢
    rw [← List.append_assoc, ← hw]
    simp [World.warnings]
  · next hlost =>
    rw [if_neg hlost] at hw
    exact ⟨⟨records, rfl⟩, by rw [if_neg hlost, hw]⟩

end World.Warned

namespace Source

variable {sel : Selection} {m : ReadMode} {src : Source} {w : World} {data : Bytes}

lemma run_content (hmode : sel.skippedData.mode = m) (hread : w.tree.read src.path = .ok data)
    {w₀ : World} {messages : List String} (hw : Warned w₀ messages w) :
    ∃ w', (src.content sel m).run w = (.ok (wanted sel m data), w') ∧
      Warned w₀ (messages ++ (src.warning? m data).toList) w' := by
  have hfile : (readFile src.path).run w = (.ok data, w) := by
    rw [readFile, run_query, hread]
    rfl
  rw [content, run_bind_ok hfile, wanted, warning?]
  cases m.decode data with
  | error u => exact ⟨_, rfl, hw.logged_warning _⟩
  | ok d =>
    have hfound : (lift (sel.skippedData.foundIn m d)).run w =
        (.ok (sel.skippedData.finds m d), w) := by
      rw [run_lift, DataPattern.foundIn_eq hmode]
    simp only [run_bind_ok hfound, Option.toList_none, List.append_nil]
    split
    · exact ⟨_, rfl, hw.logged_debug _⟩
    · exact ⟨_, rfl, hw⟩

lemma run_content_error {problem : PathProblem} (hread : w.tree.read src.path = .error problem) :
    (src.content sel m).run w = (.error (.path problem src.path), w) := by
  have hfile : (readFile src.path).run w = (.error (.path problem src.path), w) := by
    rw [readFile, run_query, hread]
    rfl
  rw [content, run_bind_error hfile]

lemma leaves_mode {γ : Type} {φ : World → γ} (src : Source) : Leaves φ src.mode := by
  unfold mode
  cases src.knownMode with
  | some m => exact .pure m
  | none =>
    refine .bind (.query _ _) fun entry => ?_
    cases entry with
    | file data m => exact .pure m
    | dir m => exact .pure m
    | link target => exact .throw _

lemma leaves_content {γ : Type} {φ : World → γ} (hwarn : ∀ w message, φ (logged w .warning message) = φ w)
    (hskip : ∀ w path, φ (logged w .debug ("skipping " ++ Text.quote path)) = φ w) (src : Source)
    (sel : Selection) (m : ReadMode) : Leaves φ (src.content sel m) := by
  refine .bind (.query _ _) fun data => ?_
  cases m.decode data with
  | error u => exact .bind (.log (hwarn · _)) fun _ => .pure _
  | ok d =>
    refine .bind (.lift _) fun found => ?_
    cases found with
    | false => exact .pure _
    | true => exact .bind (.log (hskip · _)) fun _ => .pure _

end Source

namespace SourceWalk

variable {t : FileTree} {sel : Selection} {path : String} {loc : Location}

/-- What can end a walk that reads every source it meets. -/
def Obstacle (t : FileTree) (sel : Selection) (path : String) (f : Fault) : Prop :=
  .fault f ∈ stops t sel path ∨ ∃ src ∈ sources (stops t sel path), ∃ problem,
    t.read src.path = .error problem ∧ f = .path problem src.path

lemma not_obstacle_of_reads (hclean : ∀ g, .fault g ∉ stops t sel path)
    (hread : ∀ src ∈ sources (stops t sel path), ∃ data, t.read src.path = .ok data) (g : Fault) :
    ¬Obstacle t sel path g := by
  rintro (hg | ⟨src, hsrc, problem, hbad, -⟩)
  · exact hclean g hg
  · obtain ⟨data, hdata⟩ := hread src hsrc
    cases hdata.symm.trans hbad

/-- In a plain tree only the lengths of paths are in the way. -/
lemma Obstacle.tooLong (hp : t.Plain) (hloc : locate t .follow path = .ok loc)
    (hsome : (t.get? loc).isSome = true) {f : Fault} (h : Obstacle t sel path f) :
    ∃ rel, (Enters t sel loc rel ∨ Offers t sel path loc rel) ∧ TooLong path rel ∧
      f = .path .nameTooLong (pathTo path rel) := by
  have hsurvey : Surveys t sel path loc (fun _ => True) (stops t sel path) :=
    surveys_stops hp hloc hsome
  rcases h with hf | ⟨src, hsrc, problem, hread, rfl⟩
  · obtain ⟨rel, -, henter, hlong, hrel⟩ := hsurvey.fault f hf
    exact ⟨rel, .inl henter, hlong, hrel⟩
  · obtain ⟨rel, -, hoff, rfl⟩ := hsurvey.offered src hsrc
    obtain ⟨data, mode, hfile⟩ := hoff.isFile
    by_cases hlong : TooLong path rel
    · have hfail := FileTree.read_of_locate_error (locate_pathTo_long hp hloc rel hoff.isSome hlong)
      have hp' : problem = .nameTooLong := by
        rw [sourceAt] at hread
        exact Except.error.inj (hread.symm.trans hfail)
      exact ⟨rel, .inr hoff, hlong, by rw [hp']; rfl⟩
    · have hread' := FileTree.read_of_locate
        (locate_pathTo hp hloc rel hoff.isSome (Nat.lt_of_not_le hlong)) hfile
      rw [sourceAt, hread'] at hread
      cases hread

lemma locate_of_noFault (h : ∀ g, .fault g ∉ stops t sel path) :
    ∃ root, locate t .follow path = .ok root := by
  cases hloc : locate t .follow path with
  | ok root => exact ⟨root, rfl⟩
  | error problem =>
    have hstops : stops t sel path = [.note ("scanning " ++ Text.quote path),
        .fault (.path problem path)] := by
      rw [stops, pathStops, if_neg (not_isFile_of_error hloc), listingAt_of_error hloc]
    exact absurd (by rw [hstops]; simp) (h (.path problem path))

lemma locate_sourceAt (hp : t.Plain) {root : Location} (hroot : locate t .follow path = .ok root)
    {rel : List String} (hoff : Offers t sel path root rel)
    (hloc : locate t .follow (sourceAt path rel).path = .ok loc) : loc = rel.reverse ++ root := by
  have hshort := (locate_eq_ok_iff.mp hloc).2.2.2.1
  have hrel := locate_pathTo hp hroot rel hoff.isSome hshort
  exact Except.ok.inj (hloc.symm.trans hrel)

lemma locate_ne_of_split (hp : t.Plain) {done rest : List Source} {src src' : Source}
    (hall : sources (stops t sel path) = done ++ src :: rest)
    (hloc : locate t .follow src.path = .ok loc) (hsrc' : src' ∈ done) :
    locate t .follow src'.path ≠ .ok loc := by
  intro hloc'
  have hsrc : src ∈ sources (stops t sel path) := by simp [hall]
  obtain ⟨root, hroot⟩ := locate_of_mem_sources hsrc
  obtain ⟨rels, hsorted, hoffers, -, hrels⟩ :=
    (surveys_stops hp hroot (locate_isSome hp hroot)).ordered
  rw [hrels] at hall
  obtain ⟨before, after, rfl, rfl, hafter⟩ := List.map_eq_append_iff.mp hall
  obtain ⟨rel, after, rfl, rfl, -⟩ := List.map_eq_cons_iff.mp hafter
  obtain ⟨rel', hrel', rfl⟩ := List.mem_map.mp hsrc'
  have hbefore : Before t root rel' rel := (List.pairwise_append.mp hsorted).2.2 rel' hrel' rel List.mem_cons_self
  have hoff := (hoffers rel (by simp)).2
  have hoff' := (hoffers rel' (by simp [hrel'])).2
  have heq := (locate_sourceAt hp hroot hoff' hloc').symm.trans (locate_sourceAt hp hroot hoff hloc)
  rw [List.append_left_inj, List.reverse_inj] at heq
  exact Before.irrefl hp (heq ▸ hbefore)

lemma below_of_mem_sources (hp : t.Plain) {root : Location}
    (hroot : locate t .follow path = .ok root) {src : Source}
    (hsrc : src ∈ sources (stops t sel path)) (hloc : locate t .follow src.path = .ok loc) :
    ∃ rel : List String, loc = rel.reverse ++ root := by
  obtain ⟨rel, -, hoff, rfl⟩ :=
    (surveys_stops hp hroot (locate_isSome hp hroot)).offered src hsrc
  exact ⟨rel, locate_sourceAt hp hroot hoff hloc⟩

lemma exists_obstacle (hp : t.Plain) (hloc : locate t .follow path = .ok loc) {rel : List String}
    (h : Enters t sel loc rel ∨ Offers t sel path loc rel) (hlong : TooLong path rel) :
    ∃ f, Obstacle t sel path f := by
  have hsome : (t.get? loc).isSome = true := isSome_of_below hp rel (h.elim Enters.isSome Offers.isSome)
  have hsurvey : Surveys t sel path loc (fun _ => True) (stops t sel path) :=
    surveys_stops hp hloc hsome
  by_cases hclean : ∀ f, .fault f ∉ stops t sel path
  · rcases h with henter | hoff
    · obtain ⟨f, hf⟩ := hsurvey.tooLong rel trivial henter hlong
      exact ⟨f, .inl hf⟩
    · obtain ⟨rels, -, hmem, hsrc⟩ := hsurvey.sources hclean
      refine ⟨_, .inr ⟨sourceAt path rel, ?_, .nameTooLong, ?_, rfl⟩⟩
      · rw [hsrc]
        exact List.mem_map_of_mem ((hmem rel).mpr ⟨trivial, hoff⟩)
      · exact FileTree.read_of_locate_error (locate_pathTo_long hp hloc rel hoff.isSome hlong)
  · simp only [not_forall, not_not] at hclean
    obtain ⟨f, hf⟩ := hclean
    exact ⟨f, .inl hf⟩

/-- A path leads to a file that is selected, by its name and for what is read of it. -/
structure Picks (t : FileTree) (sel : Selection) (m : ReadMode) (path : String) (loc : Location)
    (data : Bytes) (mode : Nat) (d : m.Data) : Prop where
  located : locate t .follow path = .ok loc
  file : t.get? loc = some (.file data mode)
  notSkipped : sel.skips (baseName path) = false
  named : sel.wants (baseName path) = true
  wanted : Source.wanted sel m data = some d

section

variable {data : Bytes} {mode : Nat} (hp : t.Plain) (hloc : locate t .follow path = .ok loc)
  (hf : t.get? loc = some (.file data mode))

include hp hloc hf

lemma not_obstacle_of_file (f : Fault) : ¬Obstacle t sel path f := by
  intro hobstacle
  obtain ⟨rel, hmet, hlong, -⟩ := hobstacle.tooLong hp hloc (by rw [hf]; rfl)
  obtain rfl := eq_nil_of_file hp hf (hmet.elim Enters.isSome Offers.isSome)
  exact absurd (locate_eq_ok_iff.mp hloc).2.2.2.1 (Nat.not_lt.mpr hlong)

lemma eq_of_mem_sources_file {src : Source} (hsrc : src ∈ sources (stops t sel path)) :
    src = sourceAt path [] := by
  obtain ⟨rel, -, hoff, rfl⟩ := (surveys_stops hp hloc (by rw [hf]; rfl)).offered src hsrc
  rw [eq_nil_of_file hp hf hoff.isSome]

end

lemma Picks.mem_sources {m : ReadMode} {data : Bytes} {mode : Nat} {d : m.Data}
    (h : Picks t sel m path loc data mode d) : sourceAt path [] ∈ sources (stops t sel path) := by
  rw [stops_file h.located h.file h.notSkipped h.named]
  exact List.mem_singleton_self _

/-- A walk that reads every source goes to its end and keeps what each visit keeps, or it comes to a
fault. At its end it has met no obstacle. -/
theorem fold_lands {σ : Type} {visit : Visitor σ} {P : FileTree → Prop}
    (hP : ∀ t', P t' → SameView t t') (hkeeps : Keeps P visit)
    {I : List Source → σ → World → Prop} {E : Fault → World → Prop}
    (hlog : ∀ done s v, I done s v → ∀ message, I done s (v.logged .debug message))
    (hvisit : ∀ done s v src, src ∈ sources (stops t sel path) → I done s v →
      Lands (fun s' v' => I (done ++ [src]) s' v' ∧ ∃ data, t.read src.path = .ok data) E
        ((visit src s).run v))
    (hfault : ∀ g, .fault g ∈ stops t sel path → ∀ done s v, I done s v → E g v)
    {done : List Source} {init : σ} {w : World} (hw : P w.tree) (h : I done init w) :
    (∃ s w', (fold sel (.text path) init visit).run w = (.ok s, w') ∧
      I (done ++ sources (stops t sel path)) s w' ∧ ∀ g, ¬Obstacle t sel path g) ∨
    ∃ g w', (fold sel (.text path) init visit).run w = (.error g, w') ∧ E g w' := by
  let J : List Source → σ → World → Prop := fun srcs s v =>
    I (done ++ srcs) s v ∧ ∀ src ∈ srcs, ∃ data, t.read src.path = .ok data
  have hland : Lands (J ([] ++ sources (stops t sel path))) E
      ((replay visit (stops t sel path) init).run w) := by
    have hstart : J [] init w := ⟨by rwa [List.append_nil], by simp⟩
    refine replay_lands (fun _ _ _ hI message => ⟨hlog _ _ _ hI.1 message, hI.2⟩) ?_
      (fun g hg _ _ _ hI => hfault g hg _ _ _ hI.1) hstart
    rintro srcs s v src hsrc ⟨hI, hread⟩
    have hstep := hvisit _ _ _ _ hsrc hI
    rcases hrun : (visit src s).run v with ⟨r, v'⟩
    rw [hrun] at hstep
    match r, hstep with
    | .error g, hg => exact hg
    | .ok (.yield s'), ⟨hI', hdata⟩ =>
      refine ⟨by rwa [← List.append_assoc], fun src' hsrc' => ?_⟩
      rcases List.mem_append.mp hsrc' with hmem | hmem
      · exact hread src' hmem
      · exact List.mem_singleton.mp hmem ▸ hdata
  rw [run_fold hP hkeeps path init hw]
  rcases hrun : (replay visit (stops t sel path) init).run w with ⟨r, w'⟩
  rw [hrun, List.nil_append] at hland
  match r, hland with
  | .error g, hg => exact .inr ⟨g, w', rfl, hg⟩
  | .ok (.yield s), ⟨hI, hread⟩ =>
    refine .inl ⟨s, w', rfl, hI, ?_⟩
    rintro g (hg | ⟨src, hsrc, problem, hp, -⟩)
    · exact notMem_of_replay_yield hrun g hg
    · obtain ⟨data, hd⟩ := hread src hsrc
      rw [hp] at hd
      cases hd

end SourceWalk

namespace SourceTree

open SourceWalk

variable {tree : SourceTree} {path : String} {m : ReadMode} {w : World}

def found (t : FileTree) (sel : Selection) (m : ReadMode) (srcs : List Source) : List (Source × Content) :=
  srcs.filterMap fun src => match t.read src.path with
    | .ok data => (Source.wanted sel m data).map fun d => (src, Content.of m d)
    | .error _ => none

def warnings (t : FileTree) (m : ReadMode) (srcs : List Source) : List String :=
  srcs.filterMap fun src => match t.read src.path with
    | .ok data => src.warning? m data
    | .error _ => none

def collector (tree : SourceTree) : Visitor (List (Source × Content)) := fun src found => do
  let m ← lift tree.readMode
  match ← src.content tree.selection m with
  | some data => return .yield (found ++ [(src, Content.of m data)])
  | none => return .yield found

lemma files_eq (tree : SourceTree) :
    tree.files = fold tree.selection tree.path [] tree.collector := rfl

section

variable {w₀ : World} {messages : List String} (hmode : tree.mode = .mode m)
  (hdata : tree.selection.skippedData.mode = m)

include hmode hdata

lemma run_collector (src : Source) (items : List (Source × Content)) (hw : Warned w₀ messages w) :
    (∃ data w', w₀.tree.read src.path = .ok data ∧
      (tree.collector src items).run w =
        (.ok (.yield (items ++ found w₀.tree tree.selection m [src])), w') ∧
      Warned w₀ (messages ++ warnings w₀.tree m [src]) w') ∨
    ∃ problem, w₀.tree.read src.path = .error problem ∧
      (tree.collector src items).run w = (.error (.path problem src.path), w) := by
  have hrm : (lift tree.readMode).run w = (.ok m, w) := by
    rw [run_lift, readMode, hmode]
  rw [← hw.tree_eq]
  cases hread : w.tree.read src.path with
  | error problem =>
    refine .inr ⟨problem, rfl, ?_⟩
    rw [collector, run_bind_ok hrm, run_bind_error (Source.run_content_error hread)]
  | ok data =>
    obtain ⟨w', hrun, hwarn⟩ := Source.run_content hdata hread hw
    refine .inl ⟨data, w', rfl, ?_, ?_⟩
    · rw [collector, run_bind_ok hrm, run_bind_ok hrun]
      cases hwant : Source.wanted tree.selection m data <;> simp [found, hread, hwant]
    · rw [warnings, List.filterMap_cons, hread]
      cases hwarning : src.warning? m data <;> simpa [hwarning] using hwarn

lemma keeps_collector (t : FileTree) : Keeps (· = t) tree.collector := by
  rintro src items w rfl
  rcases run_collector hmode hdata src items (Warned.refl w) with
    ⟨data, w', -, hrun, hwarn⟩ | ⟨problem, -, hrun⟩
  · rw [hrun]
    exact hwarn.tree_eq
  · rw [hrun]

end

/-- A source tree finds its files, or something ends the walk. -/
theorem run_files (tree : SourceTree) (w : World) (hpath : tree.path = .text path)
    (hmode : tree.mode = .mode m) (hdata : tree.selection.skippedData.mode = m) :
    (∃ w', tree.files.run w =
        (.ok (found w.tree tree.selection m (sources (stops w.tree tree.selection path))), w') ∧
      Warned w (warnings w.tree m (sources (stops w.tree tree.selection path))) w' ∧
      ∀ f, ¬Obstacle w.tree tree.selection path f) ∨
    ∃ f w', tree.files.run w = (.error f, w') ∧ Obstacle w.tree tree.selection path f ∧
      ∃ messages, Warned w messages w' := by
  let I : List Source → List (Source × Content) → World → Prop := fun done items v =>
    items = found w.tree tree.selection m done ∧ Warned w (warnings w.tree m done) v
  let E : Fault → World → Prop := fun g v =>
    Obstacle w.tree tree.selection path g ∧ ∃ messages, Warned w messages v
  have hstart : I [] [] w := ⟨rfl, Warned.refl w⟩
  have hvisit : ∀ done items v src, src ∈ sources (stops w.tree tree.selection path) →
      I done items v → Lands
        (fun items' v' => I (done ++ [src]) items' v' ∧ ∃ data, w.tree.read src.path = .ok data)
        E ((tree.collector src items).run v) := by
    rintro done items v src hsrc ⟨rfl, hwarn⟩
    rcases run_collector hmode hdata src _ hwarn with ⟨data, v', hd, hrun, hv'⟩ | ⟨problem, hp, hrun⟩
    · rw [hrun]
      exact ⟨⟨by simp [found], by simpa [warnings] using hv'⟩, data, hd⟩
    · rw [hrun]
      exact ⟨.inr ⟨src, hsrc, problem, hp, rfl⟩, _, hwarn⟩
  rw [files_eq, hpath]
  rcases fold_lands (fun _ => SameView.of_eq) (keeps_collector hmode hdata w.tree)
      (fun _ _ _ hI message => ⟨hI.1, hI.2.logged_debug message⟩) hvisit
      (fun g hg _ _ _ hI => ⟨.inl hg, _, hI.2⟩) rfl hstart with
    ⟨items, w', hrun, ⟨rfl, hwarn⟩, hno⟩ | ⟨g, w', hrun, hg⟩
  · exact .inl ⟨w', hrun, hwarn, hno⟩
  · exact .inr ⟨g, w', hrun, hg⟩

lemma make_eq_ok_iff {path : String} {m : ReadMode} {p : Patterns} {tree : SourceTree} :
    make (.text path) (.mode m) p = .ok tree ↔ ∃ sel, Selection.ofPatterns m p = .ok sel ∧
      tree = { path := .text path, mode := .mode m, patterns := p, selection := sel } := by
  constructor
  · intro h
    obtain ⟨m', hm, h⟩ := bind_eq_ok h
    cases hm
    obtain ⟨sel, hsel, h⟩ := bind_eq_ok h
    cases h
    exact ⟨sel, hsel, rfl⟩
  · rintro ⟨sel, hsel, rfl⟩
    change (Selection.ofPatterns m p >>= fun selection => pure _) = _
    rw [hsel]
    rfl

def Finds (p : Patterns) (m : ReadMode) (path : String) (w : World)
    (items : List (Source × Content)) : Prop :=
  ∃ tree w', make (.text path) (.mode m) p = .ok tree ∧ tree.files.run w = (.ok items, w')

lemma finds_iff {p : Patterns} {sel : Selection} (hsel : Selection.ofPatterns m p = .ok sel)
    {items : List (Source × Content)} : Finds p m path w items ↔
      items = found w.tree sel m (sources (stops w.tree sel path)) ∧ ∀ g, ¬Obstacle w.tree sel path g := by
  have hfiles := run_files ⟨.text path, .mode m, p, sel, []⟩ w rfl rfl
    (Selection.mode_of_ofPatterns hsel)
  constructor
  · rintro ⟨tree, w', htree, hrun⟩
    obtain ⟨sel', hsel', rfl⟩ := make_eq_ok_iff.mp htree
    rw [hsel] at hsel'
    cases hsel'
    rcases hfiles with ⟨v, hrun', -, hno⟩ | ⟨g, v, hrun', -⟩
    · rw [hrun'] at hrun
      cases hrun
      exact ⟨rfl, hno⟩
    · rw [hrun'] at hrun
      cases hrun
  · rintro ⟨rfl, hno⟩
    rcases hfiles with ⟨v, hrun, -, -⟩ | ⟨g, v, -, hg, -⟩
    · exact ⟨_, v, make_eq_ok_iff.mpr ⟨sel, hsel, rfl⟩, hrun⟩
    · exact absurd hg (hno g)

lemma finds_file {p : Patterns} {sel : Selection} (hsel : Selection.ofPatterns m p = .ok sel)
    {loc : Location} {data : Bytes} {mode : Nat} {d : m.Data} (h : Picks w.tree sel m path loc data mode d) :
    Finds p m path w [(.ofPath path, Content.of m d)] := by
  have hstops := stops_file h.located h.file h.notSkipped h.named
  have hread : w.tree.read path = .ok data := FileTree.read_of_locate h.located h.file
  refine (finds_iff hsel).mpr ⟨?_, not_obstacle_of_reads ?_ ?_⟩ <;> rw [hstops]
  · simp [sources, found, Source.ofPath, hread, h.wanted]
  · simp
  · simp [sources, Source.ofPath, hread]

lemma mem_found {t : FileTree} {sel : Selection} {srcs : List Source} {src : Source} {d : m.Data} :
    (src, Content.of m d) ∈ found t sel m srcs ↔
      src ∈ srcs ∧ ∃ data, t.read src.path = .ok data ∧ Source.wanted sel m data = some d := by
  have hinj : ∀ d', Content.of m d' = Content.of m d ↔ d' = d := by
    intro d'
    cases m <;> simp [Content.of]
  rw [found, List.mem_filterMap]
  constructor
  · rintro ⟨src', hsrc, hsome⟩
    cases hread : t.read src'.path with
    | error problem => rw [hread] at hsome; cases hsome
    | ok data =>
      rw [hread] at hsome
      obtain ⟨d', hd, heq⟩ := Option.map_eq_some_iff.mp hsome
      obtain ⟨hsrc', hd'⟩ := Prod.mk.inj heq
      exact ⟨hsrc' ▸ hsrc, data, hsrc' ▸ hread, (hinj d').mp hd' ▸ hd⟩
  · rintro ⟨hsrc, data, hread, hd⟩
    exact ⟨src, hsrc, by rw [hread]; simp [hd]⟩

/-- A directory of files with wanted names and short paths, given in the order of their turns. -/
structure Flat (t : FileTree) (sel : Selection) (path : String) (loc : Location)
    (files : List (String × Bytes × Nat)) : Prop where
  located : locate t .follow path = .ok loc
  isDir : t.isDirAt loc = true
  listed : t.listedAt loc = files.map (·.1)
  file : ∀ p ∈ files, t.get? (p.1 :: loc) = some (.file p.2.1 p.2.2)
  short : ∀ p ∈ files, (join path p.1).utf8ByteSize < pathLimit
  wanted : ∀ p ∈ files, sel.skips p.1 = false ∧ sel.wants p.1 = true

namespace Flat

variable {t : FileTree} {sel : Selection} {loc : Location} {files : List (String × Bytes × Nat)}
  {p : String × Bytes × Nat} (h : Flat t sel path loc files)

include h

lemma stops_eq : stops t sel path = .note ("scanning " ++ Text.quote path) ::
    files.map fun p => .source (sourceAt path [p.1]) := by
  rw [stops, pathStops, if_neg (not_isFile_of_dir h.located h.isDir),
    listingAt_of_locate h.located h.isDir, h.listed]
  dsimp only
  rw [List.map_map, List.flatMap_map, List.map_eq_flatMap]
  refine congrArg _ (List.flatMap_congr fun p hp => ?_)
  obtain ⟨hskip, hwant⟩ := h.wanted p hp
  rw [Function.comp_apply, h.file p hp]
  change nameStops t sel _ path (p.1, .file) = _
  rw [nameStops_file, hskip, if_neg Bool.false_ne_true, sourceStop, if_pos hwant]
  rfl

lemma sources_eq : sources (stops t sel path) = files.map fun p => sourceAt path [p.1] := by
  rw [h.stops_eq, sources]
  clear h
  induction files with
  | nil => rfl
  | cons p files ih => rw [List.map_cons, sources, ih, List.map_cons]

omit h in
lemma run_visitNames_files {sel : Selection} {visit : Visitor σ} (enter : String → σ → Session (ForInStep σ))
    (hwanted : ∀ p ∈ files, sel.skips p.1 = false ∧ sel.wants p.1 = true) (s : σ) (w : World) :
    (visitNames sel visit enter path (files.map fun p => (p.1, .known .file)) s).run w =
      (replay visit (files.map fun p => .source (sourceAt path [p.1])) s).run w := by
  induction files generalizing s w with
  | nil => rfl
  | cons p files ih =>
    obtain ⟨hfirst, hrest⟩ := List.forall_mem_cons.mp hwanted
    rw [List.map_cons, List.map_cons, run_visitNames_of_some rfl]
    have hvisit : (visitName sel visit enter path p.1 .file s).run w =
        (replay visit [.source (sourceAt path [p.1])] s).run w := by
      rw [run_visitName_file, hfirst.1, if_neg Bool.false_ne_true, sourceStop, if_pos hfirst.2]
      rfl
    exact run_bind_andThen hvisit fun s' w' _ => ih hrest s' w'

/-- Where the names are all given from the start, the files are visited one by one, whatever the visits
do to the tree. -/
lemma run_fold (htree : w.tree = t) (hsorted : t.lister = .sorted) (visit : Visitor σ) (init : σ) :
    (fold sel (.text path) init visit).run w =
      ((replay visit (files.map fun p => .source (sourceAt path [p.1])) init).run
        (w.logged .debug ("scanning " ++ Text.quote path))).map (·.map outcome) id := by
  subst htree
  rw [← run_replay_note]
  refine run_fold_of_visitPath ?_
  have hgiven : readingAt w.tree path = .ok (files.map fun p => (p.1, .known .file)) := by
    rw [readingAt_of_locate h.located h.isDir, FileTree.turnsAt, hsorted, ← FileTree.listedAt_sorted hsorted,
      h.listed]
    simp only [Lister.sorted, List.map_map]
    refine congrArg _ (List.map_congr_left fun p hp => ?_)
    rw [Function.comp_apply, Function.comp_apply, givenAt, h.file p hp]
    rfl
  have hlisting := run_listing path (w.logged .debug ("scanning " ++ Text.quote path))
  rw [World.logged_tree, hgiven] at hlisting
  rw [visitPath, run_bind_ok (run_get w), if_neg (not_isFile_of_dir h.located h.isDir),
    run_bind_ok (run_log _ _ _), run_bind_ok hlisting, run_replay_note, run_visitNames_files _ h.wanted]

variable (hplain : t.Plain)

include hplain

lemma locate_file (hp : p ∈ files) : locate t .follow (sourceAt path [p.1]).path = .ok (p.1 :: loc) :=
  locate_join hplain h.located (by rw [h.file p hp]; rfl) (h.short p hp)

lemma read_file (hp : p ∈ files) : t.read (sourceAt path [p.1]).path = .ok p.2.1 :=
  FileTree.read_of_locate (h.locate_file hplain hp) (h.file p hp)

lemma found_eq : found t sel m (sources (stops t sel path)) = files.filterMap fun p =>
    (Source.wanted sel m p.2.1).map fun d => (sourceAt path [p.1], Content.of m d) := by
  rw [h.sources_eq, found, List.filterMap_map]
  refine List.filterMap_congr fun p hp => ?_
  rw [Function.comp_apply, h.read_file hplain hp]

lemma not_obstacle : ∀ g, ¬Obstacle t sel path g := by
  refine not_obstacle_of_reads (by simp [h.stops_eq]) fun src hsrc => ?_
  rw [h.sources_eq] at hsrc
  obtain ⟨p, hp, rfl⟩ := List.mem_map.mp hsrc
  exact ⟨_, h.read_file hplain hp⟩

end Flat

end SourceTree

end SourceTidy
