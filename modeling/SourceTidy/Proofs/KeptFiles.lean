import SourceTidy.Proofs.GrowingWalk
import SourceTidy.Proofs.MovedFiles
import SourceTidy.Proofs.Rewriters

/-!
# Walks that write sources anew

A walk that writes its sources anew may keep the old files: each is moved to a longer name in its
directory before a new one is written. The directory may give that name late. If no such name is that of
a directory or of a file that the walk comes to from the start, the walk is told by the tree at the
start.
-/

namespace SourceTidy

open Session SourceTidy.Path FileTree Source

lemma World.Warned.frame_eq {w v : World} {messages : List String} (h : Warned w messages v) :
    v.frame = w.frame := by
  obtain ⟨records, rfl⟩ := h.rest
  rfl

lemma FileTree.read_sameDirs {t t' : FileTree} {path : String} {data : Bytes} (hp : t.Plain)
    (hd : t.SameDirs t') (hread : t.read path = .ok data)
    (hsame : ∀ loc, locate t .follow path = .ok loc → t'.get? loc = t.get? loc) :
    t'.read path = .ok data := by
  obtain ⟨loc, mode, hloc, hfile⟩ := read_eq_ok_iff.mp hread
  have hfile' := (hsame loc hloc).trans hfile
  obtain ⟨name, dir, rfl, hleads⟩ := leadsTo_of_file hp hloc hfile
  have hloc' := (hleads.sameDirs hp hd (hp.inDir hfile)).locate hd.plain .follow (by rw [hfile']; rfl)
  exact read_of_locate hloc' hfile'

lemma Path.locate_of_long {path : String} (h : pathLimit ≤ path.utf8ByteSize) (t t' : FileTree)
    (last : LastStep) : locate t' last path = locate t last path := by
  unfold locate
  rw [if_pos h, if_pos h]

namespace Rewriter

open SourceWalk

variable {a : Rewriter} {sel : Selection} {backup : Setting} {o : Option String} {t t' : FileTree}
  {w w' : World} {path e name : String} {dir loc : Location} {src : Source} {data : Bytes} {mode : Nat}
  {s : Text} {formatters : String → Option Formatter}

def visitor (a : Rewriter) (sel : Selection) (backup : Setting) : Visitor Unit := fun src _ => do
  match ← src.content sel .text with
  | none => return .yield ()
  | some s =>
    keepOld backup src.path
    a.act src s
    return .yield ()

/-- What a setting for backups asks for: nothing, or that old files are kept under names with the given
ending. -/
def Asks (backup : Setting) : Option String → Prop
  | none => backup.isOn = false
  | some e => backup = .text e ∧ e ≠ "" ∧ '/' ∉ e.toList

/-- The permission bits of a file that has been written in place of one that has the given bits. -/
def modeAfter (a : Rewriter) (o : Option String) (mode : Nat) : Nat :=
  if o.isSome then newFileMode else a.mode (writtenMode mode)

/-- A source can be written, and its old file can be kept. -/
structure Ready (a : Rewriter) (formatters : String → Option Formatter) (o : Option String) (src : Source)
    (s : Text) (loc : Location) : Prop where
  bytes : (a.bytes? formatters src s).isSome = true
  fits : ∀ e ∈ o, Fits e src.path loc

structure Written (a : Rewriter) (formatters : String → Option Formatter) (o : Option String)
    (src : Source) (s : Text) (loc : Location) (data : Bytes) (mode : Nat) (t : FileTree) : Prop where
  new : ∃ bytes, a.bytes? formatters src s = some bytes ∧
    t.get? loc = some (.file bytes (a.modeAfter o mode))
  old : ∀ e ∈ o, t.get? (keptAt e loc) = some (.file data mode)

/-- Nothing has changed but a file and what is kept of it. -/
structure ChangedAt (o : Option String) (loc : Location) (t t' : FileTree) : Prop where
  dirs : t.SameDirs t'
  shape : o = none → t.SameShape t'
  others : ∀ loc', loc' ≠ loc → (∀ e ∈ o, loc' ≠ keptAt e loc) → t'.get? loc' = t.get? loc'
  arrived : ∃ new, t'.arrivals = new ++ t.arrivals ∧ ∀ l ∈ new, ∃ e ∈ o, l = loc ∨ l = keptAt e loc

protected lemma ChangedAt.refl (o : Option String) (loc : Location) (hp : t.Plain) : ChangedAt o loc t t :=
  ⟨SameDirs.refl hp, fun _ => SameShape.refl t, fun _ _ _ => rfl, [], rfl,
    fun _ h => absurd h List.not_mem_nil⟩

/-- How a visit to a source can end, where it stands at a file in a tree: with an answer and a tree. -/
inductive Visited (a : Rewriter) (formatters : String → Option Formatter) (o : Option String)
    (sel : Selection) (src : Source) (loc : Location) (data : Bytes) (mode : Nat) (t : FileTree) :
    Except Fault (ForInStep Unit) → FileTree → Prop where
  | unwanted {t' : FileTree} (hwant : wanted sel .text data = none) (htree : t' = t) :
    Visited a formatters o sel src loc data mode t (.ok (.yield ())) t'
  | failed {s : Text} {g : Fault} {t' : FileTree} (hwant : wanted sel .text data = some s)
    (hchanged : ChangedAt o loc t t') (hnot : ¬a.Ready formatters o src s loc) :
    Visited a formatters o sel src loc data mode t (.error g) t'
  | written {s : Text} {t' : FileTree} (hwant : wanted sel .text data = some s)
    (hchanged : ChangedAt o loc t t') (hready : a.Ready formatters o src s loc)
    (hwritten : a.Written formatters o src s loc data mode t') :
    Visited a formatters o sel src loc data mode t (.ok (.yield ())) t'

lemma run_keepOld_ends (hasks : Asks backup o) (hp : w.tree.Plain) (hpath : LeadsTo w.tree path name dir)
    (hfile : w.tree.get? (name :: dir) = some (.file data mode))
    (hnot : ∀ e ∈ o, w.tree.isDirAt (keptAt e (name :: dir)) = false) :
    ((∃ e ∈ o, ¬Fits e path (name :: dir)) ∧
      ∃ g, (keepOld backup path).run w = (.error g, w)) ∨
    (∀ e ∈ o, Fits e path (name :: dir)) ∧ ∃ moved,
      (keepOld backup path).run w = (.ok (), { w with tree := moved }) ∧
      ChangedAt o (name :: dir) w.tree moved ∧ (o = none → moved = w.tree) ∧
      a.mode (modeWritten (moved.get? (name :: dir))) = a.modeAfter o mode ∧
      ∀ e ∈ o, moved.get? (keptAt e (name :: dir)) = some (.file data mode) := by
  cases o with
  | none =>
    refine .inr ⟨fun e he => (by cases he), w.tree, ?_, .refl _ _ hp, fun _ => rfl, ?_,
      fun e he => (by cases he)⟩
    · exact Fixer.run_keepOld hasks path
    · rw [hfile]
      rfl
  | some e =>
    obtain ⟨rfl, hne, he⟩ := hasks
    have hplace := hp.place hfile
    have hloc : name :: dir ≠ [] := List.cons_ne_nil _ _
    have hkept : keptAt e (name :: dir) ≠ name :: dir := keptAt_ne hne hloc
    have hnotDir := hnot e rfl
    rcases run_keepOld_cases hp hpath hfile he hne hnotDir with
      ⟨hfits, herror⟩ | ⟨hfits, hrun⟩
    · exact .inl ⟨⟨e, rfl, hfits⟩, herror⟩
    have hget : ∀ loc', ((w.tree.erase (name :: dir)).add (keptAt e (name :: dir))
        (.file data mode)).get? loc' = if loc' = keptAt e (name :: dir) then some (.file data mode)
          else if loc' = name :: dir then none else w.tree.get? loc' := by
      intro loc'
      have hkeptne : keptAt e (name :: dir) ≠ [] := List.cons_ne_nil _ _
      rw [get?_add _ hkeptne, get?_erase _ hloc]
    refine .inr ⟨fun e' he' => Option.some.inj he' ▸ hfits, _, hrun,
      ⟨?_, fun hnone => (by cases hnone), fun loc' hne hne' => ?_, [keptAt e (name :: dir)], rfl, ?_⟩,
      fun hnone => (by cases hnone), ?_,
      fun e' he' => ?_⟩
    · exact ((SameDirs.refl hp).erase hplace.notDir).add ⟨hfits.isName, hplace.inDir, hnotDir⟩
        data mode
    · rw [hget, if_neg (hne' e rfl), if_neg hne]
    · exact fun l hl => ⟨e, rfl, .inr (List.mem_singleton.mp hl)⟩
    · rw [hget, if_neg (Ne.symm hkept), if_pos rfl]
      exact a.mode_new
    · cases he'
      rw [hget, if_pos rfl]

section

variable (hasks : Asks backup o)

include hasks

lemma run_keep_act (hp : w.tree.Plain) (hknown : src.knownMode = none)
    (hpath : LeadsTo w.tree src.path name dir) (hfile : w.tree.get? (name :: dir) = some (.file data mode))
    (hnot : ∀ e ∈ o, w.tree.isDirAt (keptAt e (name :: dir)) = false) (s : Text) :
    ∃ r w', (keepOld backup src.path >>= fun _ => a.act src s).run w = (r, w') ∧
      w'.setup = w.setup ∧ ChangedAt o (name :: dir) w.tree w'.tree ∧
      ((∃ g, r = .error g) ∧ ¬a.Ready w.formatters o src s (name :: dir) ∨
        r = .ok () ∧ a.Ready w.formatters o src s (name :: dir) ∧
          a.Written w.formatters o src s (name :: dir) data mode w'.tree) := by
  have hplace := hp.place hfile
  have hloc : name :: dir ≠ [] := List.cons_ne_nil _ _
  rcases run_keepOld_ends (a := a) hasks hp hpath hfile hnot with
    ⟨⟨e, he, hfits⟩, g, hkeep⟩ | ⟨hfits, moved, hkeep, hmoved, hsame, hmode, hold⟩
  · exact ⟨_, w, run_bind_error hkeep _, rfl, .refl _ _ hp,
      .inl ⟨⟨g, rfl⟩, fun hready => hfits (hready.fits e he)⟩⟩
  rw [run_bind_ok hkeep]
  have hput : ∀ bytes m, ChangedAt o (name :: dir) w.tree (moved.putFile (name :: dir) bytes m) := by
    refine fun bytes m => ⟨hmoved.dirs.putFile hplace bytes m, fun hnone => ?_, fun loc' hne hne' => ?_, ?_⟩
    · rw [hsame hnone, putFile, hfile]
      exact SameShape.put hfile
    · rw [get?_putFile _ hloc, if_neg hne, hmoved.others loc' hne hne']
    · obtain ⟨new, harrivals, hnew⟩ := hmoved.arrived
      cases o with
      | none =>
        rw [hsame rfl, putFile, hfile]
        exact ⟨[], rfl, fun _ h => absurd h List.not_mem_nil⟩
      | some e =>
        rcases moved.putFile_cases (name :: dir) with heq | heq
        · exact ⟨new, by rw [heq]; exact harrivals, hnew⟩
        · refine ⟨(name :: dir) :: new, by rw [heq, add, harrivals]; rfl, ?_⟩
          exact List.forall_mem_cons.mpr ⟨⟨e, rfl, .inl rfl⟩, hnew⟩
  obtain ⟨w', hsetup, hcase⟩ := a.run_act (w := { w with tree := moved }) s hmoved.dirs.plain hknown
    (hpath.sameDirs hp hmoved.dirs hplace.inDir) (hmoved.dirs.place hplace)
  rcases hcase with ⟨bytes, hbytes, hrun, htree⟩ | ⟨hnone, g, hrun, htree⟩
  · rw [hmode] at htree
    refine ⟨_, w', hrun, hsetup, htree ▸ hput _ _, .inr ⟨rfl, ⟨?_, hfits⟩, ⟨bytes, hbytes, ?_⟩,
      fun e he => ?_⟩⟩
    · rw [hbytes]
      rfl
    · rw [htree, get?_putFile_self _ hloc]
    · have hkept : keptAt e (name :: dir) ≠ name :: dir := by
        cases o with
        | none => cases he
        | some e' =>
          cases he
          exact keptAt_ne hasks.2.1 hloc
      rw [htree, get?_putFile _ hloc, if_neg hkept, hold e he]
  · refine ⟨_, w', hrun, hsetup, ?_, .inl ⟨⟨g, rfl⟩, fun hready => ?_⟩⟩
    · rcases htree with htree | ⟨data', m, htree⟩
      · rw [htree]
        exact hmoved
      · exact htree ▸ hput _ _
    · have hbytes := hready.bytes
      rw [hnone] at hbytes
      cases hbytes

lemma run_visitor_of_file (hsel : sel.skippedData.mode = .text) (hp : w.tree.Plain)
    (hknown : src.knownMode = none) (hpath : LeadsTo w.tree src.path name dir)
    (hfile : w.tree.get? (name :: dir) = some (.file data mode))
    (hnot : ∀ s, wanted sel .text data = some s → ∀ e ∈ o, w.tree.isDirAt (keptAt e (name :: dir)) = false) :
    ∃ r w', (a.visitor sel backup src ()).run w = (r, w') ∧ w'.setup = w.setup ∧
      a.Visited w.formatters o sel src (name :: dir) data mode w.tree r w'.tree := by
  have hread : w.tree.read src.path = .ok data :=
    read_of_locate (hpath.locate hp .follow (by rw [hfile]; rfl)) hfile
  obtain ⟨v, hrun, hwarned⟩ := run_content hsel hread (World.Warned.refl w)
  have htree : v.tree = w.tree := hwarned.tree_eq
  have hsetup : v.setup = w.setup := World.setup_eq_of_frame hwarned.frame_eq
  rw [visitor, run_bind_ok hrun]
  cases hwant : wanted sel .text data with
  | none => exact ⟨_, v, rfl, hsetup, .unwanted hwant htree⟩
  | some s =>
    have hdir := hnot s hwant
    rw [← htree] at hp hpath hfile hdir ⊢
    rw [← World.formatters_eq_of_setup hsetup]
    obtain ⟨r, w', hact, hkept, hchanged, hcase⟩ :=
      run_keep_act (a := a) hasks hp hknown hpath hfile hdir s
    have hstep : (keepOld backup src.path >>= fun _ => a.act src s >>= fun _ =>
        pure (ForInStep.yield ())).run v = (r.map fun _ => .yield (), w') := by
      rw [← bind_assoc, run_bind, hact]
      cases r <;> rfl
    refine ⟨_, w', hstep, hkept.trans hsetup, ?_⟩
    rcases hcase with ⟨⟨g, rfl⟩, hnot⟩ | ⟨rfl, hready, hwritten⟩
    · exact .failed hwant hchanged hnot
    · exact .written hwant hchanged hready hwritten

end

lemma run_visitor_of_ready (hasks : Asks backup o) (hsel : sel.skippedData.mode = .text)
    (hp : w.tree.Plain) (src : Source) (hknown : src.knownMode = none)
    (hpath : LeadsTo w.tree src.path name dir) (hfile : w.tree.get? (name :: dir) = some (.file data mode))
    (hwant : wanted sel .text data = some s) (hnot : ∀ e ∈ o, w.tree.isDirAt (keptAt e (name :: dir)) = false)
    (hready : a.Ready w.formatters o src s (name :: dir)) :
    ∃ w', (a.visitor sel backup src ()).run w = (.ok (.yield ()), w') ∧ w'.setup = w.setup ∧
      ChangedAt o (name :: dir) w.tree w'.tree ∧
      a.Written w.formatters o src s (name :: dir) data mode w'.tree := by
  obtain ⟨r, w', hrun, hsetup, hvisited⟩ :=
    run_visitor_of_file (a := a) hasks hsel hp hknown hpath hfile fun _ _ => hnot
  cases hvisited with
  | unwanted hnone htree => cases hnone.symm.trans hwant
  | failed hs' hchanged hbad =>
    cases hs'.symm.trans hwant
    exact absurd hready hbad
  | written hs' hchanged hready' hwritten =>
    cases hs'.symm.trans hwant
    exact ⟨w', hrun, hsetup, hchanged, hwritten⟩

/-- The text of a file, if the sources among which it is make a walk select it. -/
def Chosen (t : FileTree) (sel : Selection) (srcs : List Source) (loc : Location) (s : Text) : Prop :=
  ∃ src ∈ srcs, locate t .follow src.path = .ok loc ∧
    ∃ data mode, t.get? loc = some (.file data mode) ∧ wanted sel .text data = some s

lemma chosen_append {t : FileTree} {srcs srcs' : List Source} {loc : Location} :
    Chosen t sel (srcs ++ srcs') loc s ↔ Chosen t sel srcs loc s ∨ Chosen t sel srcs' loc s := by
  simp only [Chosen, List.mem_append, or_and_right, exists_or]

/-- A file that a walk comes to, whatever is in it. -/
def Met (t : FileTree) (sel : Selection) (path : String) (loc : Location) : Prop :=
  ∃ src ∈ sources (stops t sel path), locate t .follow src.path = .ok loc

/-- The places at which a walk may keep files: beside those that it selects, and beside kept files that
join it. -/
inductive KeepsAt (t : FileTree) (sel : Selection) (path e : String) : Location → Prop where
  | first {loc : Location} {s : Text} (hchosen : Chosen t sel (sources (stops t sel path)) loc s) :
    KeepsAt t sel path e (keptAt e loc)
  | again {loc : Location} (hkept : KeepsAt t sel path e loc) (hjoins : Joins t sel path loc) :
    KeepsAt t sel path e (keptAt e loc)

/-- No file is kept under the name of a directory or of a file that the walk comes to from the start, and
no selected file joins the walk when it has been made anew. -/
structure Clear (t : FileTree) (sel : Selection) (path : String) (o : Option String) : Prop where
  notDir : ∀ e ∈ o, ∀ loc, KeepsAt t sel path e loc → t.isDirAt loc = false
  notMet : ∀ e ∈ o, ∀ loc, KeepsAt t sel path e loc → ¬Met t sel path loc
  notBack : ∀ e ∈ o, ∀ loc s, Chosen t sel (sources (stops t sel path)) loc s → ¬Joins t sel path loc

/-- No kept file joins the walk. -/
def Calm (t : FileTree) (sel : Selection) (path : String) (o : Option String) : Prop :=
  ∀ e ∈ o, ∀ loc s, Chosen t sel (sources (stops t sel path)) loc s → ¬Joins t sel path (keptAt e loc)

/-- No file that is to be written is kept under the name of a directory or of a file that the walk comes
to from the start. Neither it, when it has been made anew, nor the kept file joins the walk. -/
structure Apart (t : FileTree) (sel : Selection) (path : String) (o : Option String) : Prop where
  notDir : ∀ e ∈ o, ∀ loc s, Chosen t sel (sources (stops t sel path)) loc s →
    t.isDirAt (keptAt e loc) = false
  notMet : ∀ e ∈ o, ∀ loc s, Chosen t sel (sources (stops t sel path)) loc s →
    ¬Met t sel path (keptAt e loc)
  notBack : ∀ e ∈ o, ∀ loc s, Chosen t sel (sources (stops t sel path)) loc s → ¬Joins t sel path loc
  calm : Calm t sel path o

lemma apart_none : Apart t sel path none :=
  ⟨fun e he => (by cases he), fun e he => (by cases he), fun e he => (by cases he), fun e he => (by cases he)⟩

lemma Calm.chosen (h : Calm t sel path o) (he : e ∈ o) (hkept : KeepsAt t sel path e loc) :
    ∃ loc₀ s, Chosen t sel (sources (stops t sel path)) loc₀ s ∧ loc = keptAt e loc₀ := by
  induction hkept with
  | first hchosen => exact ⟨_, _, hchosen, rfl⟩
  | again _ hjoins ih =>
    obtain ⟨loc₀, s, hchosen, rfl⟩ := ih
    exact absurd hjoins (h e he loc₀ s hchosen)

lemma Apart.clear (h : Apart t sel path o) : Clear t sel path o := by
  refine ⟨fun e he loc hkept => ?_, fun e he loc hkept => ?_, h.notBack⟩
  · obtain ⟨loc₀, s, hchosen, rfl⟩ := h.calm.chosen he hkept
    exact h.notDir e he loc₀ s hchosen
  · obtain ⟨loc₀, s, hchosen, rfl⟩ := h.calm.chosen he hkept
    exact h.notMet e he loc₀ s hchosen

/-- A place at which a walk may write: that of a selected file, or of a kept file that joins it. -/
def Writes (t : FileTree) (sel : Selection) (path : String) (o : Option String) (loc : Location) : Prop :=
  (∃ s, Chosen t sel (sources (stops t sel path)) loc s) ∨
    ∃ e ∈ o, KeepsAt t sel path e loc ∧ Joins t sel path loc

lemma Writes.keepsAt (h : Writes t sel path o loc) (he : e ∈ o) : KeepsAt t sel path e (keptAt e loc) := by
  rcases h with ⟨s, hchosen⟩ | ⟨e', he', hkept, hjoins⟩
  · exact .first hchosen
  · cases Option.some.inj (he.symm.trans he')
    exact .again hkept hjoins

/-- A tree with the directories of another one, in which the sources that are not wanted are as they
were. What has come to it was written or kept. -/
structure Sparing (t : FileTree) (sel : Selection) (path : String) (o : Option String)
    (t' : FileTree) : Prop where
  dirs : t.SameDirs t'
  spared : ∀ loc, Met t sel path loc → (∀ s, ¬Chosen t sel (sources (stops t sel path)) loc s) →
    t'.get? loc = t.get? loc
  arrived : ∃ new, t'.arrivals = new ++ t.arrivals ∧ ∀ loc ∈ new, ∃ e ∈ o,
    (∃ s, Chosen t sel (sources (stops t sel path)) loc s) ∨ KeepsAt t sel path e loc

protected lemma Sparing.refl (hp : t.Plain) : Sparing t sel path o t :=
  ⟨SameDirs.refl hp, fun _ _ _ => rfl, [], rfl, fun _ h => absurd h List.not_mem_nil⟩

lemma Sparing.changedAt (h : Sparing t sel path o w.tree) (hclear : Clear t sel path o)
    (hwrites : Writes t sel path o loc) (hchanged : ChangedAt o loc w.tree t') : Sparing t sel path o t' := by
  refine ⟨h.dirs.trans hchanged.dirs, fun loc' hmet hnone => ?_, ?_⟩
  · have hne : loc' ≠ loc := by
      rintro rfl
      rcases hwrites with ⟨s, hchosen⟩ | ⟨e, he, hkept, -⟩
      · exact hnone s hchosen
      · exact hclear.notMet e he loc' hkept hmet
    have hne' : ∀ e ∈ o, loc' ≠ keptAt e loc := by
      rintro e he rfl
      exact hclear.notMet e he _ (hwrites.keepsAt he) hmet
    rw [hchanged.others loc' hne hne', h.spared loc' hmet hnone]
  · obtain ⟨new, harrivals, hnew⟩ := h.arrived
    obtain ⟨new', harrivals', hnew'⟩ := hchanged.arrived
    refine ⟨new' ++ new, by rw [harrivals', harrivals, List.append_assoc],
      List.forall_mem_append.mpr ⟨fun l hl => ?_, hnew⟩⟩
    obtain ⟨e, he, rfl | rfl⟩ := hnew' l hl
    · exact ⟨e, he, hwrites.imp_right fun ⟨e', he', hkept, _⟩ => Option.some.inj (he.symm.trans he') ▸ hkept⟩
    · exact ⟨e, he, .inr (hwrites.keepsAt he)⟩

/-- A source is wanted for the text of the file at its location. -/
structure Wanted (t : FileTree) (sel : Selection) (src : Source) (loc : Location) (data : Bytes)
    (mode : Nat) (s : Text) : Prop where
  located : locate t .follow src.path = .ok loc
  file : t.get? loc = some (.file data mode)
  text : wanted sel .text data = some s

lemma Wanted.unique {loc' : Location} {data' : Bytes} {mode' : Nat} {s' : Text}
    (h : Wanted t sel src loc data mode s) (h' : Wanted t sel src loc' data' mode' s') :
    loc' = loc ∧ data' = data ∧ mode' = mode ∧ s' = s := by
  obtain rfl := Except.ok.inj (h.located.symm.trans h'.located)
  have hfile := h.file.symm.trans h'.file
  rw [Option.some.injEq, Entry.file.injEq] at hfile
  obtain ⟨rfl, rfl⟩ := hfile
  exact ⟨rfl, rfl, rfl, Option.some.inj (h'.text.symm.trans h.text)⟩

lemma Wanted.chosen {srcs : List Source} (h : Wanted t sel src loc data mode s) (hsrc : src ∈ srcs) :
    Chosen t sel srcs loc s :=
  ⟨src, hsrc, h.located, data, mode, h.file, h.text⟩

lemma Visited.changedAt {r : Except Fault (ForInStep Unit)} (hp : t.Plain)
    (h : a.Visited formatters o sel src loc data mode t r t') : ChangedAt o loc t t' := by
  cases h with
  | unwanted _ htree =>
    rw [htree]
    exact .refl o loc hp
  | failed _ hchanged _ => exact hchanged
  | written _ hchanged _ _ => exact hchanged

section

variable (hasks : Asks backup o) (hsel : sel.skippedData.mode = .text) (hclear : Clear t sel path o)
  (hw : Sparing t sel path o w.tree)

include hasks hsel hclear hw

lemma run_visitor_at (hknown : src.knownMode = none) (hleads : LeadsTo w.tree src.path name dir)
    (hfile : w.tree.get? (name :: dir) = some (.file data mode))
    (hwrites : ∀ s, wanted sel .text data = some s → Writes t sel path o (name :: dir)) :
    ∃ r w', (a.visitor sel backup src ()).run w = (r, w') ∧ w'.setup = w.setup ∧
      Sparing t sel path o w'.tree ∧
      a.Visited w.formatters o sel src (name :: dir) data mode w.tree r w'.tree := by
  have hnot : ∀ s, wanted sel .text data = some s → ∀ e ∈ o,
      w.tree.isDirAt (keptAt e (name :: dir)) = false := by
    intro s hwant e he
    rw [hw.dirs.isDirAt_eq]
    exact hclear.notDir e he _ ((hwrites s hwant).keepsAt he)
  obtain ⟨r, w', hrun, hsetup, hvisited⟩ :=
    run_visitor_of_file (a := a) hasks hsel hw.dirs.plain hknown hleads hfile hnot
  refine ⟨r, w', hrun, hsetup, ?_, hvisited⟩
  cases hvisited with
  | unwanted hwant htree =>
    rw [htree]
    exact hw
  | failed hwant hchanged _ => exact hw.changedAt hclear (hwrites _ hwant) hchanged
  | written hwant hchanged _ _ => exact hw.changedAt hclear (hwrites _ hwant) hchanged

lemma run_visitor_sparing (hp : t.Plain) (hsrc : src ∈ sources (stops t sel path)) :
    (∃ problem, w.tree.read src.path = .error problem ∧
      (a.visitor sel backup src ()).run w = (.error (.path problem src.path), w)) ∨
    ∃ loc data₀ mode₀ data mode, locate t .follow src.path = .ok loc ∧
      t.get? loc = some (.file data₀ mode₀) ∧ w.tree.get? loc = some (.file data mode) ∧
      ∃ r w', (a.visitor sel backup src ()).run w = (r, w') ∧ w'.setup = w.setup ∧
        Sparing t sel path o w'.tree ∧
        a.Visited w.formatters o sel src loc data mode w.tree r w'.tree := by
  cases hread : w.tree.read src.path with
  | error problem =>
    exact .inl ⟨problem, rfl, run_bind_error (run_content_error hread) _⟩
  | ok data =>
    obtain ⟨hknown, name, dir, data₀, mode₀, mode, hloc, hfile₀, hleads, hfile⟩ :=
      source_of_read hp hw.dirs hsrc hread
    have hwas : ∀ s, wanted sel .text data = some s →
        ∃ s₀, Chosen t sel (sources (stops t sel path)) (name :: dir) s₀ := by
      intro s hwant
      by_contra hnone
      have hsame := hw.spared (name :: dir) ⟨src, hsrc, hloc⟩ fun s₀ hs₀ => hnone ⟨s₀, hs₀⟩
      rw [hfile, hfile₀] at hsame
      cases hsame
      exact hnone ⟨s, src, hsrc, hloc, _, _, hfile₀, hwant⟩
    exact .inr ⟨name :: dir, data₀, mode₀, data, mode, hloc, hfile₀, hfile,
      run_visitor_at hasks hsel hclear hw hknown hleads hfile fun s hwant => .inl (hwas s hwant)⟩

lemma run_visitor_joined (hknown : src.knownMode = none)
    (hpath : ∀ l, locate w.tree .follow src.path = .ok l → l = loc) (hwrites : Writes t sel path o loc) :
    (∃ g, (a.visitor sel backup src ()).run w = (.error g, w)) ∨
    ∃ data mode r w', (a.visitor sel backup src ()).run w = (r, w') ∧ w'.setup = w.setup ∧
      Sparing t sel path o w'.tree ∧
      a.Visited w.formatters o sel src loc data mode w.tree r w'.tree := by
  cases hread : w.tree.read src.path with
  | error problem => exact .inl ⟨_, run_bind_error (run_content_error hread) _⟩
  | ok data =>
    obtain ⟨loc', mode, hloc', hfile⟩ := read_eq_ok_iff.mp hread
    obtain rfl := hpath loc' hloc'
    obtain ⟨name, dir, rfl, hleads⟩ := leadsTo_of_file hw.dirs.plain hloc' hfile
    exact .inr ⟨data, mode, run_visitor_at hasks hsel hclear hw hknown hleads hfile fun _ _ => hwrites⟩

end

/-- A tree in which those of the given sources that are wanted have been written. A file that is kept
stays as it was unless it joins the walk. -/
structure Rewrote (a : Rewriter) (formatters : String → Option Formatter) (o : Option String)
    (t : FileTree) (sel : Selection) (path : String) (srcs : List Source) (t' : FileTree) : Prop where
  dirs : t.SameDirs t'
  shape : o = none → t.SameShape t'
  read : ∀ src ∈ srcs, ∃ data, t.read src.path = .ok data
  ready : ∀ src ∈ srcs, ∀ loc data mode s, Wanted t sel src loc data mode s →
    a.Ready formatters o src s loc
  new : ∀ src ∈ srcs, ∀ loc data mode s, Wanted t sel src loc data mode s →
    ∃ bytes, a.bytes? formatters src s = some bytes ∧
      t'.get? loc = some (.file bytes (a.modeAfter o mode))
  old : ∀ src ∈ srcs, ∀ loc data mode s, Wanted t sel src loc data mode s → ∀ e ∈ o,
    ¬Joins t sel path (keptAt e loc) → t'.get? (keptAt e loc) = some (.file data mode)
  others : ∀ loc, (∀ loc' s, Chosen t sel srcs loc' s → loc ≠ loc') →
    (∀ e ∈ o, ¬KeepsAt t sel path e loc) → t'.get? loc = t.get? loc

/-- All that a walk comes to can be read, written and kept. -/
structure AllReady (a : Rewriter) (formatters : String → Option Formatter) (o : Option String)
    (t : FileTree) (sel : Selection) (path : String) : Prop where
  noObstacle : ∀ g, ¬Obstacle t sel path g
  ready : ∀ src ∈ sources (stops t sel path), ∀ loc data mode s, Wanted t sel src loc data mode s →
    a.Ready formatters o src s loc

namespace Rewrote

variable {done : List Source}

protected lemma nil (hp : t.Plain) : a.Rewrote formatters o t sel path [] t := by
  refine ⟨SameDirs.refl hp, fun _ => SameShape.refl t, fun _ hsrc => ?_, fun _ hsrc => ?_,
    fun _ hsrc => ?_, fun _ hsrc => ?_, fun _ _ _ => rfl⟩ <;> cases hsrc

lemma unwanted (h : a.Rewrote formatters o t sel path done t')
    (hloc : locate t .follow src.path = .ok loc) (hfile : t.get? loc = some (.file data mode))
    (hwant : wanted sel .text data = none) : a.Rewrote formatters o t sel path (done ++ [src]) t' := by
  have hnone : ∀ loc' data' mode' s, ¬Wanted t sel src loc' data' mode' s := by
    rintro loc' data' mode' s ⟨hloc', hfile', hs⟩
    rw [hloc] at hloc'
    cases hloc'
    rw [hfile] at hfile'
    cases hfile'
    rw [hwant] at hs
    cases hs
  refine ⟨h.dirs, h.shape, List.forall_mem_append.mpr ⟨h.read, ?_⟩, List.forall_mem_append.mpr ⟨h.ready, ?_⟩,
    List.forall_mem_append.mpr ⟨h.new, ?_⟩, List.forall_mem_append.mpr ⟨h.old, ?_⟩,
    fun loc' hother => ?_⟩ <;> try rw [List.forall_mem_singleton]
  · exact ⟨data, read_of_locate hloc hfile⟩
  · exact fun loc' data' mode' s hs => absurd hs (hnone loc' data' mode' s)
  · exact fun loc' data' mode' s hs => absurd hs (hnone loc' data' mode' s)
  · exact fun loc' data' mode' s hs => absurd hs (hnone loc' data' mode' s)
  · exact h.others loc' fun loc'' s hc => hother loc'' s (chosen_append.mpr (.inl hc))

section

variable {t₁ : FileTree} (h : a.Rewrote formatters o t sel path done t₁) (hclear : Clear t sel path o)
  (hsub : ∀ src ∈ done, src ∈ sources (stops t sel path))

include h hclear hsub

/-- What has been written and kept is not touched by a visit elsewhere. -/
lemma apartFrom (hchanged : ChangedAt o loc t₁ t') (hwrites : Writes t sel path o loc)
    (hne : ∀ loc' s, Chosen t sel done loc' s → loc' ≠ loc)
    (hkept : ∀ loc' s, Chosen t sel done loc' s → ∀ e ∈ o, ¬Joins t sel path (keptAt e loc') →
      keptAt e loc' ≠ loc) :
    (∀ src ∈ done, ∀ loc data mode s, Wanted t sel src loc data mode s →
      ∃ bytes, a.bytes? formatters src s = some bytes ∧
        t'.get? loc = some (.file bytes (a.modeAfter o mode))) ∧
    ∀ src ∈ done, ∀ loc data mode s, Wanted t sel src loc data mode s → ∀ e ∈ o,
      ¬Joins t sel path (keptAt e loc) → t'.get? (keptAt e loc) = some (.file data mode) := by
  have hmet : ∀ {src loc' data mode s}, src ∈ done → Wanted t sel src loc' data mode s →
      ∀ e ∈ o, ¬KeepsAt t sel path e loc' :=
    fun hsrc hs e he hkeeps => hclear.notMet e he _ hkeeps ⟨_, hsub _ hsrc, hs.located⟩
  refine ⟨fun src hsrc loc' data mode s hs => ?_, fun src hsrc loc' data mode s hs e he hnot => ?_⟩
  · obtain ⟨bytes, hbytes, hnew⟩ := h.new src hsrc loc' data mode s hs
    refine ⟨bytes, hbytes, ?_⟩
    rw [hchanged.others loc' (hne loc' s (hs.chosen hsrc)) fun e he heq => ?_, hnew]
    exact hmet hsrc hs e he (heq ▸ hwrites.keepsAt he)
  · rw [hchanged.others _ (hkept loc' s (hs.chosen hsrc) e he hnot) fun e' he' heq => ?_,
      h.old src hsrc loc' data mode s hs e he hnot]
    cases Option.some.inj (he.symm.trans he')
    exact hne loc' s (hs.chosen hsrc) (keptAt_injective heq)

lemma wanted (hsrc : Wanted t sel src loc data mode s) (hin : src ∈ sources (stops t sel path))
    (hne : ∀ loc' s', Chosen t sel done loc' s' → loc' ≠ loc)
    (hchanged : ChangedAt o loc t₁ t') (hready : a.Ready formatters o src s loc)
    (hwritten : a.Written formatters o src s loc data mode t') :
    a.Rewrote formatters o t sel path (done ++ [src]) t' := by
  have hwrites : Writes t sel path o loc := .inl ⟨s, hsrc.chosen hin⟩
  obtain ⟨hnew, hold⟩ := h.apartFrom hclear hsub hchanged hwrites hne fun loc' s' hc e he _ heq => by
    obtain ⟨src', hsrc', hloc', hfile'⟩ := hc
    exact hclear.notMet e he _ (.first ⟨src', hsub src' hsrc', hloc', hfile'⟩)
      ⟨src, hin, heq ▸ hsrc.located⟩
  refine ⟨h.dirs.trans hchanged.dirs, fun hnone => (h.shape hnone).trans (hchanged.shape hnone),
    List.forall_mem_append.mpr ⟨h.read, ?_⟩,
    List.forall_mem_append.mpr ⟨h.ready, ?_⟩, List.forall_mem_append.mpr ⟨hnew, ?_⟩,
    List.forall_mem_append.mpr ⟨hold, ?_⟩, fun loc' hnot hnone => ?_⟩ <;> try rw [List.forall_mem_singleton]
  · exact ⟨data, read_of_locate hsrc.located hsrc.file⟩
  · intro loc' data' mode' s' hs'
    obtain ⟨rfl, -, -, rfl⟩ := hsrc.unique hs'
    exact hready
  · intro loc' data' mode' s' hs'
    obtain ⟨rfl, rfl, rfl, rfl⟩ := hsrc.unique hs'
    exact hwritten.new
  · intro loc' data' mode' s' hs' e he _
    obtain ⟨rfl, rfl, rfl, rfl⟩ := hsrc.unique hs'
    exact hwritten.old e he
  · have hhere := hnot loc s (chosen_append.mpr (.inr (hsrc.chosen (List.mem_singleton_self src))))
    rw [hchanged.others loc' hhere fun e he heq => hnone e he (heq ▸ hwrites.keepsAt he)]
    exact h.others loc' (fun loc'' s' hc => hnot loc'' s' (chosen_append.mpr (.inl hc))) hnone

lemma joined (hkept : KeepsAt t sel path e loc) (he : e ∈ o) (hjoins : Joins t sel path loc)
    (hchanged : ChangedAt o loc t₁ t') : a.Rewrote formatters o t sel path done t' := by
  have hwrites : Writes t sel path o loc := .inr ⟨e, he, hkept, hjoins⟩
  have hne : ∀ loc' s, Chosen t sel done loc' s → loc' ≠ loc := by
    rintro loc' s ⟨src, hsrc, hloc, -⟩ rfl
    exact hclear.notMet e he loc' hkept ⟨src, hsub src hsrc, hloc⟩
  obtain ⟨hnew, hold⟩ := h.apartFrom hclear hsub hchanged hwrites hne
    fun loc' s hc e' _ hnot heq => hnot (heq ▸ hjoins)
  refine ⟨h.dirs.trans hchanged.dirs, fun hnone => (h.shape hnone).trans (hchanged.shape hnone), h.read,
    h.ready, hnew, hold, fun loc' hnot hnone => ?_⟩
  rw [hchanged.others loc' (fun heq => hnone e he (heq ▸ hkept)) fun e' he' heq =>
    hnone e' he' (heq ▸ hwrites.keepsAt he')]
  exact h.others loc' hnot hnone

end

end Rewrote

/-- A source that a walk cannot read in a plain tree has too long a path, whatever becomes of the tree. -/
lemma read_error_of_mem_sources (hp : t.Plain) (hsrc : src ∈ sources (stops t sel path))
    {problem : PathProblem} (hread : t.read src.path = .error problem) (t' : FileTree) :
    t'.read src.path = .error problem := by
  obtain ⟨root, hroot⟩ := locate_of_mem_sources hsrc
  obtain ⟨rel, -, hoff, rfl⟩ :=
    (surveys_stops hp hroot (locate_isSome hp hroot)).offered src hsrc
  obtain ⟨data, mode, hfile⟩ := hoff.isFile
  by_cases hlong : TooLong path rel
  · have hloc := locate_pathTo_long hp hroot rel hoff.isSome hlong
    have hloc' := (locate_of_long hlong t t' .follow).trans hloc
    exact (read_of_locate_error hloc').trans ((read_of_locate_error hloc).symm.trans hread)
  · have hloc := locate_pathTo hp hroot rel hoff.isSome (Nat.lt_of_not_le hlong)
    cases hread.symm.trans (read_of_locate hloc hfile)

lemma Rewrote.read_eq {srcs rest : List Source} (h : a.Rewrote formatters o t sel path srcs t')
    (hp : t.Plain) (hclear : Clear t sel path o)
    (hall : sources (stops t sel path) = srcs ++ src :: rest) : t'.read src.path = t.read src.path := by
  have hsrc : src ∈ sources (stops t sel path) := by simp [hall]
  cases hread : t.read src.path with
  | error problem => exact read_error_of_mem_sources hp hsrc hread t'
  | ok data =>
    refine read_sameDirs hp h.dirs hread fun loc hloc => h.others loc ?_ fun e he hkept =>
      hclear.notMet e he loc hkept ⟨src, hsrc, hloc⟩
    rintro loc' s' ⟨src', hsrc', hloc', -⟩ rfl
    exact locate_ne_of_split hp hall hloc hsrc' hloc'

/-- A world that a walk comes to when it has passed the given stops. -/
structure InOrder (a : Rewriter) (o : Option String) (w : World) (sel : Selection) (path : String)
    (done : List Stop) (_ : Unit) (v : World) : Prop where
  passed : ∃ rest, stops w.tree sel path = done ++ rest
  noFault : ∀ f, .fault f ∉ done
  setup : v.setup = w.setup
  sparing : Sparing w.tree sel path o v.tree
  wrote : a.Rewrote w.formatters o w.tree sel path (sources done) v.tree

namespace InOrder

protected lemma nil (hp : w.tree.Plain) : a.InOrder o w sel path [] () w :=
  ⟨⟨_, rfl⟩, fun _ => List.not_mem_nil, rfl, Sparing.refl hp, .nil hp⟩

variable {done rest : List Stop} {s : Unit} {v : World} (h : a.InOrder o w sel path done s v)

include h

lemma logged (message : String) : a.InOrder o w sel path done s (v.logged .debug message) :=
  ⟨h.passed, h.noFault, by rw [World.logged_setup, h.setup], by simpa using h.sparing,
    by simpa using h.wrote⟩

lemma noted {message : String} (hall : stops w.tree sel path = done ++ .note message :: rest) :
    a.InOrder o w sel path (done ++ [.note message]) s v :=
  ⟨⟨rest, by simp [hall]⟩, by simpa using h.noFault, h.setup, h.sparing, by simpa [sources] using h.wrote⟩

lemma mem : ∀ src ∈ sources done, src ∈ sources (stops w.tree sel path) := by
  obtain ⟨rest, hall⟩ := h.passed
  exact fun src hsrc => by simp [hall, hsrc]

end InOrder

/-- A source that cannot be read at the start, or whose file cannot be written or kept. -/
def Unready (a : Rewriter) (o : Option String) (w : World) (sel : Selection) (src : Source) (g : Fault)
    (v v' : World) : Prop :=
  (∃ problem, w.tree.read src.path = .error problem ∧ g = .path problem src.path ∧ v' = v) ∨
    ∃ loc data mode s, Wanted w.tree sel src loc data mode s ∧ ¬a.Ready w.formatters o src s loc

lemma Unready.not_allReady {g : Fault} {v v' : World} (h : a.Unready o w sel src g v v')
    (hsrc : src ∈ sources (stops w.tree sel path)) : ¬a.AllReady w.formatters o w.tree sel path := by
  intro hready
  rcases h with ⟨problem, hread, -⟩ | ⟨loc, data, mode, s, hs, hnot⟩
  · exact hready.noObstacle _ (.inr ⟨src, hsrc, problem, hread, rfl⟩)
  · exact hnot (hready.ready src hsrc loc data mode s hs)

section

variable (hasks : Asks backup o) (hsel : sel.skippedData.mode = .text) (hclear : Clear w.tree sel path o)

include hasks hsel hclear

lemma visitor_rewrites (hp : w.tree.Plain) {done rest : List Stop} {v : World}
    (hall : stops w.tree sel path = done ++ .source src :: rest) (hI : a.InOrder o w sel path done () v) :
    Lands (fun s v' => a.InOrder o w sel path (done ++ [.source src]) s v' ∧ ∀ l, (∀ name loc,
        locate w.tree .follow src.path = .ok (name :: loc) → ∀ n, l ≠ n :: loc) →
          v'.tree.get? l = v.tree.get? l)
      (fun g v' => a.Unready o w sel src g v v') ((a.visitor sel backup src ()).run v) := by
  have hsub := hI.mem
  have hsrc : src ∈ sources (stops w.tree sel path) := by simp [hall, sources]
  have hall' : sources (stops w.tree sel path) = sources done ++ src :: sources rest := by
    simp [hall, sources]
  have hformatters := World.formatters_eq_of_setup hI.setup
  have hother : ∀ loc, locate w.tree .follow src.path = .ok loc →
      ∀ loc' s', Chosen w.tree sel (sources done) loc' s' → loc ≠ loc' := by
    rintro loc hloc loc' s' ⟨src', hsrc', hloc', -⟩ rfl
    exact locate_ne_of_split hp hall' hloc hsrc' hloc'
  rcases run_visitor_sparing (a := a) hasks hsel hclear hI.sparing hp hsrc with
    ⟨problem, hbad, hrun⟩ |
    ⟨loc, data₀, mode₀, data, mode, hloc, hfile₀, hfile, r, v', hrun, hsetup, hv', hvisit⟩
  · rw [hrun]
    exact .inl ⟨problem, (hI.wrote.read_eq hp hclear hall').symm.trans hbad, rfl, rfl⟩
  have hsame := hI.wrote.others loc (hother loc hloc) fun e he hkept =>
    hclear.notMet e he loc hkept ⟨src, hsrc, hloc⟩
  rw [hfile, hfile₀] at hsame
  cases hsame
  have hchanged := hvisit.changedAt hI.sparing.dirs.plain
  have hbeside : ∀ l, (∀ name loc, locate w.tree .follow src.path = .ok (name :: loc) →
      ∀ n, l ≠ n :: loc) → v'.tree.get? l = v.tree.get? l := by
    obtain ⟨name, dir, rfl⟩ := List.exists_cons_of_ne_nil (ne_nil_of_file hfile₀)
    exact fun l hl => hchanged.others l (hl name dir hloc name) fun e _ => hl name dir hloc (name ++ e)
  have hnext : a.Rewrote w.formatters o w.tree sel path (sources done ++ [src]) v'.tree →
      a.InOrder o w sel path (done ++ [.source src]) () v' := fun hwrote =>
    ⟨⟨rest, by simp [hall]⟩, by simpa using hI.noFault, hsetup.trans hI.setup, hv',
      by simpa [sources] using hwrote⟩
  rw [hrun]
  cases hvisit with
  | unwanted hwant htree => exact ⟨hnext (htree ▸ hI.wrote.unwanted hloc hfile₀ hwant), hbeside⟩
  | @failed s _ _ hwant _ hnot =>
    exact .inr ⟨loc, data₀, mode₀, s, ⟨hloc, hfile₀, hwant⟩, hformatters ▸ hnot⟩
  | @written s _ hwant _ hready hwritten =>
    rw [hformatters] at hready hwritten
    exact ⟨hnext (hI.wrote.wanted hclear hsub ⟨hloc, hfile₀, hwant⟩ hsrc
      (fun loc' s' hc => (hother loc hloc loc' s' hc).symm) hchanged hready hwritten), hbeside⟩

lemma visitor_rewrites_joined {done : List Stop} {v : World} (hjoins : Joins w.tree sel path (name :: dir))
    (hknown : src.knownMode = none) (harrived : v.tree.arrivedSince w.tree.arrivals.length (name :: dir) = true)
    (hpath : ∀ l, locate v.tree .follow src.path = .ok l → l = name :: dir)
    (hI : a.InOrder o w sel path done () v) :
    Lands (fun s v' => a.InOrder o w sel path done s v' ∧ ChangedIn dir v.tree v'.tree)
      (fun _ _ => ¬Calm w.tree sel path o) ((a.visitor sel backup src ()).run v) := by
  obtain ⟨new, harrivals, hnew⟩ := hI.sparing.arrived
  obtain ⟨e, he, hcase⟩ := hnew _ ((arrivedSince_iff harrivals).mp harrived)
  have hkept : KeepsAt w.tree sel path e (name :: dir) := hcase.resolve_left fun ⟨s, hchosen⟩ =>
    hclear.notBack e he _ s hchosen hjoins
  have hstir : ¬Calm w.tree sel path o := by
    intro hcalm
    obtain ⟨loc₀, s, hchosen, heq⟩ := hcalm.chosen he hkept
    exact hcalm e he loc₀ s hchosen (heq ▸ hjoins)
  rcases run_visitor_joined (a := a) hasks hsel hclear hI.sparing hknown hpath (.inr ⟨e, he, hkept, hjoins⟩)
    with ⟨g, hrun⟩ | ⟨data, mode, r, v', hrun, hsetup, hv', hvisit⟩
  · rw [hrun]
    exact hstir
  have hchanged := hvisit.changedAt hI.sparing.dirs.plain
  have hnext : a.InOrder o w sel path done () v' ∧ ChangedIn dir v.tree v'.tree :=
    ⟨⟨hI.passed, hI.noFault, hsetup.trans hI.setup, hv',
      hI.wrote.joined hclear hI.mem hkept he hjoins hchanged⟩,
      fun l hl => hchanged.others l (hl name) fun e _ => hl (name ++ e)⟩
  rw [hrun]
  cases hvisit with
  | unwanted _ _ => exact hnext
  | failed _ _ _ => exact hstir
  | written _ _ _ _ => exact hnext

/-- What a walk keeps that rewrites its sources, where the ways in which it can end early are given. -/
lemma visits_inOrder (hp : w.tree.Plain) {E : Fault → World → Prop}
    (hfault : ∀ {done f rest v}, stops w.tree sel path = done ++ .fault f :: rest →
      a.InOrder o w sel path done () v → E f v)
    (hunready : ∀ {done src rest g v v'}, stops w.tree sel path = done ++ .source src :: rest →
      a.InOrder o w sel path done () v → (a.visitor sel backup src ()).run v = (.error g, v') →
      a.Unready o w sel src g v v' → E g v')
    (hstir : ∀ g v, ¬Calm w.tree sel path o → E g v) :
    Visits w.tree sel path (a.visitor sel backup) (a.InOrder o w sel path) E where
  dirs hI := hI.sparing.dirs
  logged := InOrder.logged
  noted hall hI := hI.noted hall
  fault := hfault
  next hall hI := (visitor_rewrites hasks hsel hclear hp hall hI).imp fun _ _ hrun h => hunready hall hI hrun h
  late hjoins hknown harrived hpath hI :=
    (visitor_rewrites_joined hasks hsel hclear hjoins hknown harrived hpath hI).imp fun g v _ => hstir g v

/-- A walk rewrites what it selects in the tree at the start and returns, or something there cannot be
read, written or kept, or kept files join it. -/
theorem run_fold_cases (hp : w.tree.Plain) :
    (∃ w', (fold sel (.text path) () (a.visitor sel backup)).run w = (.ok (), w') ∧
      a.AllReady w.formatters o w.tree sel path ∧ w'.setup = w.setup ∧
      a.Rewrote w.formatters o w.tree sel path (sources (stops w.tree sel path)) w'.tree) ∨
    ∃ g w', (fold sel (.text path) () (a.visitor sel backup)).run w = (.error g, w') ∧
      (Calm w.tree sel path o → ¬a.AllReady w.formatters o w.tree sel path) := by
  have hvisits := visits_inOrder (a := a) hasks hsel hclear hp
    (E := fun _ _ => Calm w.tree sel path o → ¬a.AllReady w.formatters o w.tree sel path)
    (fun hall _ _ hready => hready.noObstacle _
      (.inl (hall ▸ List.mem_append_right _ List.mem_cons_self)))
    (fun hall _ _ h _ => h.not_allReady (by simp [hall, sources])) fun _ _ hstir hcalm => absurd hcalm hstir
  rcases hvisits.fold_lands hp (InOrder.nil hp) with ⟨⟨⟩, w', hrun, hI⟩ | ⟨g, w', hrun, hnot⟩
  · exact .inl ⟨w', hrun, ⟨not_obstacle_of_reads hI.noFault hI.wrote.read, hI.wrote.ready⟩, hI.setup, hI.wrote⟩
  · exact .inr ⟨g, w', hrun, hnot⟩

lemma allReady_of_fold (hp : w.tree.Plain) (hrun : (fold sel (.text path) () (a.visitor sel backup)).run w = (.ok (), w')) :
    a.AllReady w.formatters o w.tree sel path ∧
      a.Rewrote w.formatters o w.tree sel path (sources (stops w.tree sel path)) w'.tree := by
  rcases run_fold_cases (a := a) hasks hsel hclear hp with ⟨w₁, hok, hready, -, hwrote⟩ | ⟨g, w₁, hbad, -⟩
  · cases hrun.symm.trans hok
    exact ⟨hready, hwrote⟩
  · cases hrun.symm.trans hbad

lemma fold_returns_iff (hp : w.tree.Plain) (hcalm : Calm w.tree sel path o) :
    (∃ w', (fold sel (.text path) () (a.visitor sel backup)).run w = (.ok (), w')) ↔
      a.AllReady w.formatters o w.tree sel path := by
  refine ⟨fun ⟨w', hrun⟩ => (allReady_of_fold hasks hsel hclear hp hrun).1, fun hready => ?_⟩
  rcases run_fold_cases (a := a) hasks hsel hclear hp with ⟨w', hrun, -⟩ | ⟨g, w', -, hnot⟩
  · exact ⟨w', hrun⟩
  · exact absurd hready (hnot hcalm)

end

section

variable (hp : t.Plain) (hloc : locate t .follow path = .ok loc)
  (hfile : t.get? loc = some (.file data mode))

include hp hloc hfile

lemma eq_of_met {loc' : Location} (h : Met t sel path loc') : loc' = loc := by
  obtain ⟨src, hsrc, hloc'⟩ := h
  rw [eq_of_mem_sources_file hp hloc hfile hsrc] at hloc'
  exact Except.ok.inj (hloc'.symm.trans hloc)

lemma apart_of_file (hasks : Asks backup o) (hnot : ∀ e ∈ o, t.isDirAt (keptAt e loc) = false) :
    Apart t sel path o := by
  have heq : ∀ loc' s, Chosen t sel (sources (stops t sel path)) loc' s → loc' = loc := by
    rintro loc' s ⟨src, hsrc, hloc', -⟩
    exact eq_of_met hp hloc hfile ⟨src, hsrc, hloc'⟩
  have hjoins : ∀ loc', ¬Joins t sel path loc' := not_joins_of_file hp hloc hfile
  refine ⟨fun e he loc' s hc => heq loc' s hc ▸ hnot e he, fun e he loc' s hc hmet => ?_,
    fun _ _ _ _ _ => hjoins _, fun _ _ _ _ _ => hjoins _⟩
  obtain rfl := heq loc' s hc
  cases o with
  | none => cases he
  | some e' =>
    cases he
    exact keptAt_ne hasks.2.1 (ne_nil_of_file hfile) (eq_of_met hp hloc hfile hmet)

end

lemma run_fold_of_file (hasks : Asks backup o) (hsel : sel.skippedData.mode = .text) (hp : w.tree.Plain)
    (h : Picks w.tree sel .text path loc data mode s) (hnot : ∀ e ∈ o, w.tree.isDirAt (keptAt e loc) = false)
    (hready : a.Ready w.formatters o (sourceAt path []) s loc) :
    ∃ w', (fold sel (.text path) () (a.visitor sel backup)).run w = (.ok (), w') ∧ w.tree.SameDirs w'.tree ∧
      a.Written w.formatters o (sourceAt path []) s loc data mode w'.tree := by
  have hapart : Apart w.tree sel path o := apart_of_file hp h.located h.file hasks hnot
  have hwanted : Wanted w.tree sel (sourceAt path []) loc data mode s := ⟨h.located, h.file, h.wanted⟩
  have hall : a.AllReady w.formatters o w.tree sel path := by
    refine ⟨not_obstacle_of_file hp h.located h.file, fun src hsrc loc' data' mode' s' hs' => ?_⟩
    obtain rfl := eq_of_mem_sources_file hp h.located h.file hsrc
    obtain ⟨rfl, -, -, rfl⟩ := hwanted.unique hs'
    exact hready
  obtain ⟨w', hrun⟩ := (fold_returns_iff hasks hsel hapart.clear hp hapart.calm).mpr hall
  have hwrote := (allReady_of_fold hasks hsel hapart.clear hp hrun).2
  exact ⟨w', hrun, hwrote.dirs, hwrote.new _ h.mem_sources loc data mode s hwanted, fun e he =>
    hwrote.old _ h.mem_sources loc data mode s hwanted e he (hapart.calm e he loc s (hwanted.chosen h.mem_sources))⟩

section

variable {files : List (String × Bytes × Nat)} (h : SourceTree.Flat t sel path loc files) (hp : t.Plain)

include h hp

lemma exists_of_met {loc' : Location} (hmet : Met t sel path loc') : ∃ p ∈ files, loc' = p.1 :: loc := by
  obtain ⟨src, hsrc, hloc⟩ := hmet
  rw [h.sources_eq] at hsrc
  obtain ⟨p, hp', rfl⟩ := List.mem_map.mp hsrc
  exact ⟨p, hp', Except.ok.inj (hloc.symm.trans (h.locate_file hp hp'))⟩

lemma apart_of_flat (hsorted : t.lister = .sorted) (hkept : ∀ e ∈ o, ∀ p ∈ files,
    t.isDirAt ((p.1 ++ e) :: loc) = false ∧ p.1 ++ e ∉ files.map (·.1)) : Apart t sel path o := by
  have hchosen : ∀ loc' s, Chosen t sel (sources (stops t sel path)) loc' s →
      ∃ p ∈ files, loc' = p.1 :: loc := by
    rintro loc' s ⟨src, hsrc, hloc', -⟩
    exact exists_of_met h hp ⟨src, hsrc, hloc'⟩
  have hjoins := not_joins_of_sorted hsorted sel path
  refine ⟨fun e he loc' s hc => ?_, fun e he loc' s hc hmet => ?_, fun _ _ _ _ _ => hjoins _,
    fun _ _ _ _ _ => hjoins _⟩
  · obtain ⟨p, hp', rfl⟩ := hchosen loc' s hc
    exact (hkept e he p hp').1
  · obtain ⟨p, hp', rfl⟩ := hchosen loc' s hc
    obtain ⟨q, hq, heq⟩ := exists_of_met h hp hmet
    exact (hkept e he p hp').2 (List.mem_map.mpr ⟨q, hq, (List.cons.inj heq).1.symm⟩)

lemma wanted_of_flat {p : String × Bytes × Nat} (hp' : p ∈ files) (hs : wanted sel .text p.2.1 = some s) :
    Wanted t sel (sourceAt path [p.1]) (p.1 :: loc) p.2.1 p.2.2 s :=
  ⟨h.locate_file hp hp', h.file p hp', hs⟩

lemma allReady_of_flat (hready : ∀ p ∈ files, ∀ s, wanted sel .text p.2.1 = some s →
    a.Ready formatters o (sourceAt path [p.1]) s (p.1 :: loc)) : a.AllReady formatters o t sel path := by
  refine ⟨h.not_obstacle hp, fun src hsrc loc' data mode s hs => ?_⟩
  rw [h.sources_eq] at hsrc
  obtain ⟨p, hp', rfl⟩ := List.mem_map.mp hsrc
  cases (h.locate_file hp hp').symm.trans hs.located
  cases (h.file p hp').symm.trans hs.file
  exact hready p hp' s hs.text

end

end Rewriter

end SourceTidy
