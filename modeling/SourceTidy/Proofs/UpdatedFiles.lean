import Mathlib.Data.List.Infix
import SourceTidy.Proofs.FixedTree
import SourceTidy.Proofs.TemplatedScans

/-!
# Files that an updater leaves alone

An updater without a template writes every file that it selects, with line feeds. So a file in which
no year is to be brought up to date keeps its bytes exactly if there is no carriage return among
them.
-/

namespace SourceTidy

open Session Selection SourceTree CodePoint

variable {data : Bytes} {s : Text}

lemma Notice.update_of_undated {year s : Text} (h : ∀ rest ∈ s.tails, takeDated? year rest = none) :
    update year s = s := by
  unfold update
  induction s with
  | nil => rfl
  | cons c s ih =>
    rw [List.tails_cons, List.forall_mem_cons] at h
    rw [updateFrom, h.1]
    exact congrArg (c :: ·) (ih h.2)

namespace Text

/-- A carriage return is one byte, which no other character has. -/
lemma cr_mem_encode_iff (s : Text) : 0x0d ∈ encode s ↔ '\r' ∈ s := by
  have hchar : ∀ c, 0x0d ∈ encodeChar c ↔ c = '\r' := fun c => mem_encodeChar_ascii (by decide)
  simp [encode, List.mem_flatMap, hchar]

/-- A file that is read and written again keeps its bytes exactly if it has no carriage return. -/
lemma encode_eq_iff_of_decode (h : ReadMode.decode .text data = .ok s) : encode s = data ↔ 0x0d ∉ data := by
  rw [ReadMode.decode] at h
  obtain ⟨x, hx, rfl⟩ := map_eq_ok h
  obtain rfl := decodeUtf8_eq_ok_iff.mp hx
  rw [cr_mem_encode_iff]
  constructor
  · intro heq hcr
    have hsame : unifyNewlines x = x := by
      have hdec := congrArg decodeUtf8 heq
      rw [decodeUtf8_encode, decodeUtf8_encode] at hdec
      exact Except.ok.inj hdec
    exact cr_notMem_unifyNewlines x (hsame.symm ▸ hcr)
  · intro hcr
    rw [unifyNewlines_of_notMem hcr]

end Text

namespace Updater

open SourceWalk
open Fixer (Selects)
open Rewriter (Chosen)

variable {u : Updater} {sel : Selection} {w w' : World} {path : String} {loc : Location}

/-- No year in a text is to be brought up to date: the updater does not do so, or nowhere in the text
there is a notice whose years it would change. -/
def NothingDue (u : Updater) (s : Text) : Prop :=
  u.update.isOn = false ∨ ∀ rest ∈ s.tails, Notice.takeDated? u.yearText.toList rest = none

instance (u : Updater) (s : Text) : Decidable (u.NothingDue s) := inferInstanceAs (Decidable (_ ∨ _))

/-- An updater as the following statements have it: it has no template and keeps no old files. -/
structure Bare (u : Updater) : Prop where
  noTemplate : u.templatePath.isOn = false
  noNotice : u.template.getD [] = []
  noBackup : u.backup.isOn = false

lemma datedText_of_nothingDue (h : u.NothingDue s) : u.datedText s = s := by
  unfold datedText
  split
  · next hon =>
    rcases h with hoff | hnone
    · rw [hon] at hoff
      cases hoff
    · exact Notice.update_of_undated hnone
  · rfl

lemma Bare.gives (h : u.Bare) : u.rewriter.Gives fun s => Text.encode (u.datedText s) := by
  have hnil : ∀ s, u.textWith [] s = u.datedText s := fun s => ite_self _
  have hnone : u.template.getD [] = CodePoint.ofText [] := h.noNotice
  have htext := gives_of_toText (toText_updateText_of_notice hnone)
  simpa only [hnil] using htext

lemma run_scan (h : u.Bare) (w : World) (path : String) : ∃ v r w', v.tree = w.tree ∧
    (u.scan (.text path)).run w = (.ok (r, u), w') ∧
    ((∃ g, ofPatterns .text u.patterns = .error g ∧ r = .error g ∧ w' = v) ∨
      ∃ sel, ofPatterns .text u.patterns = .ok sel ∧
        (fold sel (.text path) () (u.rewriter.visitor sel u.backup)).run v = (r, w')) := by
  obtain ⟨v, r, u', w', hframe, hscan, hcase⟩ := u.run_scan_cases w path
  have hprepared : u.preparedIn w.tree = .ok u := by rw [preparedIn, h.noTemplate]; rfl
  rw [hprepared] at hcase
  rcases hcase with ⟨g, hg, -⟩ | ⟨hready, hcase⟩
  · cases hg
  · cases hready
    exact ⟨v, r, w', World.tree_eq_of_frame hframe, hscan, hcase⟩

section

variable (h : u.Bare) (hsel : ofPatterns .text u.patterns = .ok sel) (hp : w.tree.Plain)
  {r : Except Fault Unit}
  (hrun : (fold sel (.text path) () (u.rewriter.visitor sel u.backup)).run w = (r, w'))

include h hsel hp hrun

lemma bytesAt_of_nothingDue (hdata : w.tree.bytesAt loc = some data)
    (hcr : 0x0d ∉ data) (hdue : ∀ s, ReadMode.decode .text data = .ok s → u.NothingDue s) :
    w'.tree.bytesAt loc = some data := by
  rw [FileTree.bytesAt_eq_some_iff] at hdata ⊢
  obtain ⟨mode, hfile⟩ := hdata
  obtain ⟨-, hnew⟩ := Rewriter.renewed_of_fold h.gives h.noBackup (mode_of_ofPatterns hsel) hp hrun
  by_cases hchosen : ∃ s, Chosen w.tree sel (sources (passed w.tree (stops w.tree sel path))) loc s
  · obtain ⟨s, hs⟩ := hchosen
    have hdecode : ReadMode.decode .text data = .ok s := by
      obtain ⟨-, -, -, data', mode', hfile', hwant⟩ := hs
      cases hfile.symm.trans hfile'
      exact Source.decode_of_wanted hwant
    have hsame : Text.encode (u.datedText s) = data := by
      rw [datedText_of_nothingDue (hdue s hdecode), (Text.encode_eq_iff_of_decode hdecode).mpr hcr]
    exact ⟨_, hsame ▸ hnew.new loc s data mode hs hfile⟩
  · exact ⟨mode, (hnew.others loc fun s hs => hchosen ⟨s, hs⟩).trans hfile⟩

lemma ends_of_fold : (r = .ok () ↔ ∀ g, ¬Obstacle w.tree sel path g) ∧ (r = .ok () →
    u.rewriter.Renewed (fun s => Text.encode (u.datedText s)) w.tree sel (sources (stops w.tree sel path))
      w'.tree) :=
  Rewriter.fold_ends h.gives h.noBackup (mode_of_ofPatterns hsel) hp hrun

end

lemma finds_iff_noObstacle (hsel : ofPatterns .text u.patterns = .ok sel) :
    (∃ items, Finds u.patterns .text path w items) ↔ ∀ g, ¬Obstacle w.tree sel path g := by
  constructor
  · rintro ⟨items, hfinds⟩
    exact ((finds_iff hsel).mp hfinds).2
  · intro hno
    exact ⟨_, (finds_iff hsel).mpr ⟨rfl, hno⟩⟩

lemma not_finds {g : Fault} (hsel : ofPatterns .text u.patterns = .error g) :
    ¬∃ items, Finds u.patterns .text path w items := by
  rintro ⟨items, tree, -, htree, -⟩
  obtain ⟨sel, hok, -⟩ := make_eq_ok_iff.mp htree
  rw [hsel] at hok
  cases hok

/-- What a scan with the given outcome leaves alone. Files that it need not write anew keep their
bytes also if it is ended by a fault. -/
structure LeavesUndue (u : Updater) (path : String) (w : World) (r : Except Fault Unit) (w' : World) :
    Prop where
  returns : r = .ok () ↔ ∃ items, Finds u.patterns .text path w items
  kept : ∀ loc data, w.tree.bytesAt loc = some data → 0x0d ∉ data →
    (∀ s, ReadMode.decode .text data = .ok s → u.NothingDue s) → w'.tree.bytesAt loc = some data
  selected : ∀ loc s data, Selects u.patterns path w loc s → w.tree.bytesAt loc = some data →
    u.NothingDue s → w'.tree.bytesAt loc = some (Text.encode s) ∧
      (w'.tree.bytesAt loc = some data ↔ 0x0d ∉ data)
  others : r = .ok () → ∀ loc, (∀ s, ¬Selects u.patterns path w loc s) →
    w'.tree.get? loc = w.tree.get? loc

/-- A scan without a template returns if the source tree can be searched. A file in which no year is
to be brought up to date then keeps its bytes exactly if it has no carriage return, and whatever is
not selected stays as it is. -/
theorem scan_keeps_bytes_iff (h : u.Bare) (hp : w.tree.Plain) (path : String) :
    ∃ r w', (u.scan (.text path)).run w = (.ok (r, u), w') ∧ u.LeavesUndue path w r w' := by
  obtain ⟨v, r, w', htree, hscan, hcase⟩ := u.run_scan h w path
  refine ⟨r, w', hscan, ?_⟩
  rcases hcase with ⟨g, hsel, rfl, rfl⟩ | ⟨sel, hsel, hrun⟩
  · have hnone : ¬∃ items, SourceTree.Finds u.patterns .text path w items := not_finds hsel
    refine ⟨iff_of_false (fun hok => by cases hok) hnone, fun loc data hdata _ _ => htree ▸ hdata,
      fun loc s data ⟨items, hfinds, _⟩ => absurd ⟨items, hfinds⟩ hnone, fun hok => by cases hok⟩
  rw [← htree] at hp
  have hfinds : (∃ items, SourceTree.Finds u.patterns .text path w items) ↔
      ∀ g, ¬Obstacle w.tree sel path g := finds_iff_noObstacle hsel
  obtain ⟨hreturns, hnew⟩ := ends_of_fold h hsel hp hrun
  rw [htree, ← hfinds] at hreturns
  have hchosen : (∃ items, SourceTree.Finds u.patterns .text path w items) → ∀ loc s,
      Selects u.patterns path w loc s ↔ Chosen v.tree sel (sources (stops v.tree sel path)) loc s := by
    intro hsome loc s
    rw [htree]
    exact Fixer.selects_iff hsel (hfinds.mp hsome)
  refine ⟨hreturns, fun loc data hdata hcr hdue => ?_, fun loc s data hselects hdata hdue => ?_,
    fun hok loc hnone => ?_⟩
  · exact bytesAt_of_nothingDue h hsel hp hrun (htree ▸ hdata) hcr hdue
  · have hsome : ∃ items, SourceTree.Finds u.patterns .text path w items := by
      obtain ⟨items, hitems, -⟩ := hselects
      exact ⟨items, hitems⟩
    have hch := (hchosen hsome loc s).mp hselects
    obtain ⟨mode, hfile⟩ := FileTree.bytesAt_eq_some_iff.mp hdata
    have hbytes := FileTree.bytesAt_eq_some_iff.mpr
      ⟨_, (hnew (hreturns.mpr hsome)).new loc s data mode hch (htree ▸ hfile)⟩
    rw [datedText_of_nothingDue hdue] at hbytes
    refine ⟨hbytes, ?_⟩
    have hdecode : ReadMode.decode .text data = .ok s := by
      obtain ⟨-, -, -, data', mode', hfile', hwant⟩ := hch
      rw [htree] at hfile'
      cases hfile.symm.trans hfile'
      exact Source.decode_of_wanted hwant
    rw [hbytes, Option.some.injEq]
    exact Text.encode_eq_iff_of_decode hdecode
  · rw [(hnew hok).others loc fun s hs => hnone s ((hchosen (hreturns.mp hok) loc s).mpr hs), htree]

/-- A notice of the current year stays, also where the years of notices are brought up to date. -/
theorem scan_keeps_bytes_of_current_notice :
    let data : Bytes := Text.encode "/* Copyright 2024 us */\n".toList
    let w : World := { tree := { entries := [(["a.c"], .file data 0o644)] }, year := 2024 }
    let u : Updater := { year := .int 2024, yearText := "2024",
                         patterns := ⟨.texts ["*.c"], .texts [], .texts []⟩ }
    ∃ w', (u.scan (.text "a.c")).run w = (.ok (.ok (), u), w') ∧
      w'.tree.bytesAt ["a.c"] = some data := by
  intro data w u
  have hp : w.tree.Plain := by decide
  have hloc : Path.locate w.tree .follow "a.c" = .ok ["a.c"] := Path.locate_name hp rfl
  have hselects : Selects u.patterns "a.c" w ["a.c"] "/* Copyright 2024 us */\n".toList :=
    Fixer.selects_file rfl ⟨hloc, rfl, rfl, rfl, by decide +kernel⟩
  obtain ⟨r, w', hrun, hscan⟩ := scan_keeps_bytes_iff (u := u) ⟨rfl, rfl, rfl⟩ hp "a.c"
  obtain rfl : r = .ok () := by
    obtain ⟨items, hitems, -⟩ := hselects
    exact hscan.returns.mpr ⟨items, hitems⟩
  have hdue : u.NothingDue "/* Copyright 2024 us */\n".toList := by decide +kernel
  exact ⟨w', hrun, (hscan.selected _ _ _ hselects rfl hdue).2.mpr (by decide +kernel)⟩

/-- A file with other line endings is written with line feeds, although the updater says that there
is nothing to do. -/
theorem scan_unifies_line_endings :
    let w : World := { tree := { entries := [(["a.c"], .file [0x78, 0x0d, 0x0a] 0o644)] }, year := 2024 }
    let u : Updater := { year := .int 2024, yearText := "2024", update := .flag false,
                         patterns := ⟨.texts ["*.c"], .texts [], .texts []⟩ }
    ∃ w', (u.scan (.text "a.c")).run w = (.ok (.ok (), u), w') ∧
      Selects u.patterns "a.c" w ["a.c"] ['x', '\n'] ∧ u.NothingDue ['x', '\n'] ∧
      w'.tree.bytesAt ["a.c"] = some [0x78, 0x0a] := by
  intro w u
  have hp : w.tree.Plain := by decide
  have hloc : Path.locate w.tree .follow "a.c" = .ok ["a.c"] := Path.locate_name hp rfl
  have hu : u.Bare := ⟨rfl, rfl, rfl⟩
  have hselects : Selects u.patterns "a.c" w ["a.c"] ['x', '\n'] :=
    Fixer.selects_file rfl ⟨hloc, rfl, rfl, rfl, rfl⟩
  obtain ⟨v, r, w', htree, hscan, ⟨g, hsel, -⟩ | ⟨sel, hsel, hrun⟩⟩ := u.run_scan hu w "a.c"
  · cases hsel
  have hno : ∀ g, ¬Obstacle v.tree sel "a.c" g := by
    rw [htree]
    exact not_obstacle_of_file hp hloc rfl
  rw [← htree] at hp
  obtain ⟨hreturns, hnew⟩ := ends_of_fold hu hsel hp hrun
  obtain rfl : r = .ok () := hreturns.mpr hno
  have hchosen : Chosen v.tree sel (sources (stops v.tree sel "a.c")) ["a.c"] ['x', '\n'] := by
    rw [htree] at hno ⊢
    exact (Fixer.selects_iff hsel hno).mp hselects
  have hfile := (hnew rfl).new _ _ _ 0o644 hchosen (by rw [htree]; rfl)
  exact ⟨w', hscan, hselects, .inl rfl, FileTree.bytesAt_eq_some_iff.mpr ⟨_, hfile⟩⟩

end Updater

end SourceTidy
