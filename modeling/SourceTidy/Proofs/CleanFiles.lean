import SourceTidy.Proofs.FixThenCheck
import SourceTidy.Proofs.UpdatedFiles

/-!
# Fixes of files in order

A fixer leaves the files alone with which a checker is content, with two exceptions: a carriage
return on its own is a line ending for the fixer and none for the checker, and the fixer leaves no
white space before the last line feed.
-/

namespace SourceTidy

open Text

variable {s : Text}

namespace Text

/-- Whether there is a carriage return that no line feed follows. -/
def hasLoneCr : Bytes → Bool
  | [] => false
  | b :: s => (b == cr && s.head? != some lf) || hasLoneCr s

lemma hasLoneCr_append {u : Bytes} (hu : cr ∉ u) (s : Bytes) : hasLoneCr (u ++ s) = hasLoneCr s := by
  induction u with
  | nil => rfl
  | cons b u ih =>
    rw [List.mem_cons, not_or] at hu
    rw [List.cons_append, hasLoneCr, ih hu.2]
    simp [Ne.symm hu.1]

lemma cr_notMem_encodeChar {c : Char} (hc : c ≠ '\r') : cr ∉ encodeChar c :=
  fun h => hc ((mem_encodeChar_ascii (by decide)).mp h)

lemma head?_of_not_hasLoneCr {pre post : Bytes} (h : hasLoneCr (pre ++ cr :: post) = false) :
    post.head? = some lf := by
  induction pre with
  | nil =>
    rw [List.nil_append, hasLoneCr, Bool.or_eq_false_iff] at h
    simpa using h.1
  | cons b pre ih =>
    rw [List.cons_append, hasLoneCr, Bool.or_eq_false_iff] at h
    exact ih h.2

lemma hasLoneCr_written (e : Eol) (hs : '\r' ∉ s) : hasLoneCr (s.flatMap (written e)) = false := by
  induction s with
  | nil => rfl
  | cons c s ih =>
    rw [List.mem_cons, not_or] at hs
    rw [List.flatMap_cons]
    by_cases hc : c = '\n'
    · rw [written, if_pos hc]
      cases e with
      | native => rw [hasLoneCr_append (by decide), ih hs.2]
      | win =>
        change (_ || hasLoneCr ([lf] ++ s.flatMap (written .win))) = false
        rw [hasLoneCr_append (by decide), ih hs.2]
        rfl
    · rw [written, if_neg hc, hasLoneCr_append (cr_notMem_encodeChar (Ne.symm hs.1)), ih hs.2]

def EndsLinesBy : Eol → Text → Prop
  | .native, x => '\r' ∉ x
  | .win, x => (∀ a b, x = a ++ '\r' :: b → b.head? = some '\n') ∧
      ∀ a b, x = a ++ '\n' :: b → a.getLast? = some '\r'

lemma encode_append (s t : Text) : encode (s ++ t) = encode s ++ encode t := List.flatMap_append

lemma head?_encode_eq_lf (h : (encode s).head? = some lf) : s.head? = some '\n' := by
  cases s with
  | nil => cases h
  | cons c s =>
    rw [encode_cons, List.head?_append_of_ne_nil _ (encodeChar_ne_nil c)] at h
    rw [List.head?_cons, (mem_encodeChar_ascii (by decide)).mp (List.mem_of_head? h)]
    rfl

lemma getLast?_encode_eq_cr (h : (encode s).getLast? = some cr) : s.getLast? = some '\r' := by
  rcases List.eq_nil_or_concat s with rfl | ⟨s, c, rfl⟩
  · cases h
  · have hc : encode [c] = encodeChar c := List.append_nil _
    rw [List.concat_eq_append, encode_append, hc,
      List.getLast?_append_of_ne_nil _ (encodeChar_ne_nil c)] at h
    rw [List.concat_eq_append, List.getLast?_concat,
      (mem_encodeChar_ascii (by decide)).mp (List.mem_of_getLast? h)]
    rfl

lemma written_unifyNewlines {e : Eol} {x : Text} (h : EndsLinesBy e x) :
    (unifyNewlines x).flatMap (written e) = encode x := by
  cases e with
  | native =>
    rw [unifyNewlines_of_notMem h]
    refine List.flatMap_congr fun c _ => ?_
    unfold written
    split
    · next hc => rw [hc]; decide
    · rfl
  | win =>
    obtain ⟨hcr, hlf⟩ := h
    have hlast : ∀ {c : Char} {a : Text}, c ≠ '\r' → (c :: a).getLast? = some '\r' →
        a.getLast? = some '\r' := by
      intro c a hc h
      cases a with
      | nil => exact absurd (by simpa using h) hc
      | cons c' a => rwa [List.getLast?_cons_cons] at h
    fun_induction unifyNewlines x with
    | case1 => rfl
    | case2 s ih =>
      have hrest := ih (fun a b hs => hcr ('\r' :: '\n' :: a) b (by rw [hs]; rfl)) fun a b hs => by
        have hall := hlf ('\r' :: '\n' :: a) b (by rw [hs]; rfl)
        rw [List.getLast?_cons_cons] at hall
        exact hlast (by decide) hall
      rw [List.flatMap_cons, hrest]
      rfl
    | case3 c s hno ih =>
      have hcr' : c ≠ '\r' := by
        rintro rfl
        obtain ⟨s', rfl⟩ := List.head?_eq_some_iff.mp (hcr [] s rfl)
        exact hno s' rfl rfl
      have hlf' : c ≠ '\n' := by
        rintro rfl
        cases hlf [] s rfl
      have hrest := ih (fun a b hs => hcr (c :: a) b (by rw [hs]; rfl))
        fun a b hs => hlast hcr' (hlf (c :: a) b (by rw [hs]; rfl))
      rw [if_neg (by simpa using hcr'), List.flatMap_cons, hrest, written, if_neg hlf', encode_cons]

end Text

lemma Fix.trimmed_of_forall (hlf : ∀ a c b, s = a ++ c :: '\n' :: b → isBlank c = false)
    (hlast : ∀ c, s.getLast? = some c → isBlank c = false) : Trimmed s := by
  induction s with
  | nil => trivial
  | cons c s ih =>
    have hrest : Trimmed s := by
      refine ih (fun a c' b hs => hlf (c :: a) c' b (by rw [hs]; rfl)) fun c' hc' => hlast c' ?_
      rw [List.getLast?_cons, hc']
      rfl
    refine ⟨fun hblank => ⟨?_, fun hhead => ?_⟩, hrest⟩
    · rintro rfl
      cases hblank.symm.trans (hlast c rfl)
    · obtain ⟨b, rfl⟩ := List.head?_eq_some_iff.mp hhead
      cases hblank.symm.trans (hlf [] c b rfl)

namespace Check

variable {test : Option UInt8 → Bytes → Option Nat} {e : Eol} {data : Bytes}

lemma not_occurs_of_pass {check : Check} (hloc : Locates check test) {what : String}
    (h : firstOccurrence what test data = .ok .pass) {pre post line : Bytes} (hdata : data = pre ++ post) :
    ¬Occurs check pre post line := by
  intro hocc
  obtain ⟨n, hn, hne, -⟩ := hloc.finds hocc
  unfold firstOccurrence at h
  cases hstart : throughFirst test none data with
  | none =>
    have hnone := throughFirst_eq_none hstart hdata hne
    rw [Option.or_none, hn] at hnone
    cases hnone
  | some start =>
    rw [hstart] at h
    dsimp only at h
    cases hd : decodeUtf8 ((byteLines start).getLastD []) <;> rw [hd] at h <;> cases h

lemma Clean.endsLinesBy {x : Text} (h : Clean e (encode x)) (hlone : hasLoneCr (encode x) = false) :
    EndsLinesBy e x := by
  have hcr : ∀ a b, x = a ++ '\r' :: b → b.head? = some '\n' := by
    rintro a b rfl
    rw [encode_append] at hlone
    exact head?_encode_eq_lf (head?_of_not_hasLoneCr hlone)
  have hends : ∀ {pre post line}, encode x = pre ++ post → ¬Occurs (.lineEndings e) pre post line :=
    not_occurs_of_pass (locates_lineEndings e) h.lineEndings
  cases e with
  | native =>
    intro hmem
    obtain ⟨a, b, rfl⟩ := List.append_of_mem hmem
    obtain ⟨b, rfl⟩ := List.head?_eq_some_iff.mp (hcr a b rfl)
    exact hends (encode_append _ _) (.crlf _ (encode b))
  | win =>
    refine ⟨hcr, fun a b hx => ?_⟩
    subst hx
    by_contra hlast
    exact hends (encode_append _ _)
      (.lf _ (encode b) fun hbytes => hlast (getLast?_encode_eq_cr hbytes))

lemma Clean.settled (h : Clean e (s.flatMap (written e))) (hend : Fix.Ended s) (f : Fixer) : f.Settled s := by
  refine ⟨fun _ => Fix.trimmed_of_forall ?_ ?_, fun _ hmem => ?_, fun _ => hend⟩
  · rintro a c b rfl
    by_contra hblank
    rw [Bool.not_eq_false, isBlank, Bool.or_eq_true, beq_iff_eq, beq_iff_eq] at hblank
    obtain ⟨byte, hbyte, hwritten⟩ : ∃ byte, isBlankByte byte = true ∧ written e c = [byte] := by
      rcases hblank with rfl | rfl
      · exact ⟨0x20, rfl, rfl⟩
      · exact ⟨0x09, rfl, rfl⟩
    have hdata : (a ++ c :: '\n' :: b).flatMap (written e) = a.flatMap (written e) ++
        byte :: (encodeString e.terminator ++ b.flatMap (written e)) := by
      rw [List.flatMap_append, List.flatMap_cons, List.flatMap_cons, hwritten]
      rfl
    exact not_occurs_of_pass (locates_trailing e) h.trailing hdata (.blank _ _ _ hbyte)
  · intro c hc
    obtain ⟨t, rfl, -⟩ := hend
    rw [List.getLast?_concat] at hc
    cases hc
    rfl
  · obtain ⟨a, b, rfl⟩ := List.append_of_mem hmem
    exact not_occurs_of_pass locates_tabs h.tabs List.flatMap_append (.tab _ (b.flatMap (written e)))

end Check

lemma Fixer.fixedBytes_eq_iff {f : Fixer} {fixes : List LineFix} {e : Eol} {data : Bytes}
    (hfixes : f.lineFixes = .ok fixes) (hfinal : f.finalEol.isOn = true) (hclean : Check.Clean e data)
    (hs : ReadMode.text.decode data = .ok s) :
    f.fixedBytes fixes e s = data ↔ hasLoneCr data = false ∧ Fix.Ended s := by
  rw [ReadMode.decode] at hs
  obtain ⟨x, hx, rfl⟩ := map_eq_ok hs
  obtain rfl := decodeUtf8_eq_ok_iff.mp hx
  have hcr := cr_notMem_unifyNewlines x
  constructor
  · intro heq
    have hread := decode_fixedBytes hfixes e hcr
    rw [heq, ReadMode.decode, decodeUtf8_encode] at hread
    have hsame : unifyNewlines x = f.fixText fixes (unifyNewlines x) := Except.ok.inj hread
    constructor
    · rw [← heq, fixedBytes, encode_writeNewlines]
      exact hasLoneCr_written e (cr_notMem_fixText hfixes hcr)
    · rw [hsame]
      exact (settled_fixText hfixes _).ended hfinal
  · rintro ⟨hlone, hend⟩
    have hwritten := written_unifyNewlines (hclean.endsLinesBy hlone)
    rw [← hwritten] at hclean
    rw [fixedBytes, fixText_of_settled hfixes (hclean.settled hend f), encode_writeNewlines, hwritten]

namespace Checker

open SourceWalk

variable {c : Checker} {checks : List (String × Check)} {sel : Selection} {w : World} {path : String}

section

variable (hnone : sel.skippedData = ⟨.binary, none⟩)

include hnone

lemma visitor_yields {src : Source} {tally tally' : Tally} {v v' : World} (hv : v.frame = w.frame)
    (hrun : (c.visitor checks sel src tally).run v = (.ok (.yield tally'), v')) :
    ∃ data, w.tree.read src.path = .ok data ∧ (∀ key ∈ tally.keys, key ∈ tally'.keys) ∧
      (c.failFast.isOn = false ∨ tally' = [] →
        ∀ p ∈ checks, p.1 ∉ tally'.keys → p.2.examine data = .ok .pass) := by
  rw [← World.tree_eq_of_frame hv]
  cases hread : v.tree.read src.path with
  | error problem =>
    rw [visitor, Session.run_bind_error (Source.run_content_error hread)] at hrun
    cases hrun
  | ok data =>
    obtain ⟨u, hcontent, hwarn⟩ := Source.run_content (by rw [hnone]) hread (World.Warned.refl v)
    have hu : u.frame = w.frame := by
      obtain ⟨records, rfl⟩ := hwarn.rest
      exact hv
    have hwanted : Source.wanted sel .binary data = some data := by
      rw [Source.wanted, hnone]
      rfl
    rw [visitor, Session.run_bind_ok hcontent, hwanted] at hrun
    obtain ⟨names, u', hnames, hstep⟩ := Session.run_bind_eq_ok hrun
    have hfailures := run_checkSource c checks src data hu
    rw [hnames] at hfailures
    obtain rfl : tally' = Tally.addAll tally names := by
      change (Except.ok (ite _ _ _), u') = _ at hstep
      split at hstep <;> cases hstep
      rfl
    refine ⟨data, rfl, fun key hkey => Tally.mem_keys_addAll.mpr (.inr hkey), ?_⟩
    intro hall p hp hkey
    rw [Tally.mem_keys_addAll, not_or] at hkey
    refine examine_of_fails (passed_of_failures hfailures.symm (hall.imp_right fun hnil => ?_)
      (List.mem_append_left _ (List.mem_append_left _ (List.mem_map_of_mem hp))) hkey.1)
    refine List.eq_nil_iff_forall_not_mem.mpr fun name hname => ?_
    have hmem : name ∈ (Tally.addAll tally names).keys := Tally.mem_keys_addAll.mpr (.inl hname)
    rw [hnil] at hmem
    cases hmem

omit hnone in
lemma visitor_done {src : Source} {tally tally' : Tally} {v v' : World}
    (hrun : (c.visitor checks sel src tally).run v = (.ok (.done tally'), v')) :
    c.failFast.isOn = true ∧ tally' ≠ [] := by
  obtain ⟨content, u, -, hrest⟩ := Session.run_bind_eq_ok hrun
  cases content with
  | none => cases hrest
  | some data =>
    obtain ⟨names, u', -, hstep⟩ := Session.run_bind_eq_ok hrest
    change (Except.ok (ite _ _ _), u') = _ at hstep
    split at hstep
    · next hstop =>
      cases hstep
      simpa using hstop
    · cases hstep

lemma passes_of_scan (hchecks : c.checklist = .ok checks)
    (hsel : Selection.ofPatterns .binary c.patterns = .ok sel) {tally : Tally} {w' : World}
    (hrun : (c.scan (.text path)).run w = (.ok tally, w')) (hall : c.failFast.isOn = false ∨ tally = []) :
    (∀ g, ¬Obstacle w.tree sel path g) ∧ ∀ src ∈ sources (stops w.tree sel path), ∀ data,
      w.tree.read src.path = .ok data → ∀ p ∈ checks, p.1 ∉ tally.keys → p.2.examine data = .ok .pass := by
  let I : List Source → Tally → World → Prop := fun done tally v => v.frame = w.frame ∧
    ∀ src ∈ done, ∃ data, w.tree.read src.path = .ok data ∧ (c.failFast.isOn = false ∨ tally = [] →
      ∀ p ∈ checks, p.1 ∉ tally.keys → p.2.examine data = .ok .pass)
  have hvisit : ∀ done tally v src tally' v', I done tally v →
      (c.visitor checks sel src tally).run v = (.ok (.yield tally'), v') → I (done ++ [src]) tally' v' := by
    rintro done tally v src tally' v' ⟨hv, hdone⟩ hvis
    have hframe := leaves_visitor World.logged_frame (fun _ _ => rfl) c checks sel src tally v
    rw [hvis] at hframe
    obtain ⟨data, hread, hgrows, hpass⟩ := visitor_yields hnone hv hvis
    refine ⟨hframe.trans hv, fun src' hsrc' => ?_⟩
    rcases List.mem_append.mp hsrc' with hmem | hmem
    · obtain ⟨data', hread', hpass'⟩ := hdone src' hmem
      refine ⟨data', hread', fun hall p hp hkey => hpass' (hall.imp_right fun hnil => ?_) p hp
        (mt (hgrows p.1) hkey)⟩
      subst hnil
      cases tally with
      | nil => rfl
      | cons q tally => cases hgrows q.1 List.mem_cons_self
    · rw [List.mem_singleton.mp hmem]
      exact ⟨data, hread, hpass⟩
  have hlog : ∀ done tally v, I done tally v → ∀ message, I done tally (v.logged .debug message) := by
    rintro done tally v ⟨hv, hdone⟩ message
    exact ⟨(World.logged_frame _ _ _).trans hv, hdone⟩
  rw [run_scan_eq hchecks hsel, run_fold_visitor] at hrun
  rcases hreplay : (replay (c.visitor checks sel) (stops w.tree sel path) []).run w with ⟨r, v⟩
  rw [hreplay] at hrun
  match r, hrun, hreplay with
  | .ok (.done tally'), hrun, hreplay =>
    cases hrun
    obtain ⟨src, s₁, u, hvis⟩ := exists_visit_of_replay_done hreplay
    obtain ⟨hfirst, hne⟩ := visitor_done hvis
    rcases hall with hoff | hnil
    · cases hoff.symm.trans hfirst
    · exact absurd hnil hne
  | .ok (.yield tally'), hrun, hreplay =>
    cases hrun
    have hstart : I [] [] w := ⟨rfl, by simp⟩
    obtain ⟨-, hpass⟩ := replay_yields hlog hvisit hstart hreplay
    rw [List.nil_append] at hpass
    refine ⟨not_obstacle_of_reads (notMem_of_replay_yield hreplay)
      fun src hsrc => (hpass src hsrc).imp fun _ => And.left, ?_⟩
    · intro src hsrc data hread
      obtain ⟨data', hread', hchecked⟩ := hpass src hsrc
      cases hread.symm.trans hread'
      exact hchecked hall

end

structure ChecksMended (c : Checker) (e : Eol) : Prop where
  eol : c.eol = .eol e
  tabs : c.tabs.isOn = true
  lineEndings : c.lineEndings.isOn = true
  trailing : c.trailing.isOn = true
  finalEol : c.finalEol.isOn = true

lemma ChecksMended.clean {e : Eol} (h : c.ChecksMended e) (hchecks : c.checklist = .ok checks)
    {tally : Tally} (hkeys : ∀ key ∈ mended, key ∉ tally.keys) {data : Bytes}
    (hpass : ∀ p ∈ checks, p.1 ∉ tally.keys → p.2.examine data = .ok .pass) : Check.Clean e data := by
  obtain rfl := Except.ok.inj ((checklist_eq h.eol).symm.trans hchecks)
  rw [h.tabs, h.lineEndings, h.trailing, h.finalEol] at hpass
  exact ⟨hpass ("tabs", .tabs) (by simp) (hkeys "tabs" (by decide)),
    hpass ("invalid EOL", .lineEndings e) (by simp) (hkeys "invalid EOL" (by decide)),
    hpass ("trailing spaces", .trailing _) (by simp) (hkeys "trailing spaces" (by decide)),
    hpass ("no eol at eof", .finalEol) (by simp) (hkeys "no eol at eof" (by decide))⟩

lemma run_scan_file {e : Eol} {loc : Location} {data : Bytes} {mode : Nat} (hp : w.tree.Plain)
    (hchecks : c.checklist = .ok (usualChecks e)) (hformat : c.formatter.isOn = false)
    (hfirst : c.failFast.isOn = false) (hsel : Selection.ofPatterns .binary c.patterns = .ok sel)
    (hnone : sel.skippedData = ⟨.binary, none⟩) (hverbose : w.verboseNamed = true)
    (hloc : Path.locate w.tree .follow path = .ok loc) (hfile : w.tree.get? loc = some (.file data mode))
    (hclean : Check.Clean e data) : ∃ tally w', (c.scan (.text path)).run w = (.ok tally, w') ∧
      ∀ key ∈ mended, key ∉ tally.map Prod.fst := by
  have horderly : Orderly w.tree sel path e := by
    refine ⟨fun g hg => not_obstacle_of_file hp hloc hfile g (.inl hg), fun src hsrc => ?_⟩
    rw [eq_of_mem_sources_file hp hloc hfile hsrc]
    refine ⟨rfl, data, FileTree.read_of_locate hloc hfile, ?_, hclean⟩
    rw [Source.wanted, hnone]
    rfl
  rcases run_scan_orderly hchecks hformat hfirst hsel horderly with
    ⟨tally, w', hrun, hkeys, -⟩ | ⟨w', -, hunnamed, -⟩
  · exact ⟨tally, w', hrun, hkeys⟩
  · cases hverbose.symm.trans hunnamed

end Checker

namespace Fixer

open SourceWalk
open Rewriter (Chosen)

/-- A fixer goes through a tree in which a checker with the same patterns and the same line ending counts
nothing that the fixer provides for. A file that it selects keeps its bytes exactly if it has no lone carriage
return and no white space before the line feed at its end, and all other files stay as they are. -/
theorem scan_keeps_clean_iff {c : Checker} {e : Eol} {path : String} {w v : World} {tally : Tally}
    (hp : w.tree.Plain) (hdata : c.patterns.skippedData.isOn = false) (hc : c.ChecksMended e)
    (hcheck : (c.scan (.text path)).run w = (.ok tally, v))
    (hkeys : ∀ key ∈ ["tabs", "invalid EOL", "trailing spaces", "no eol at eof"],
      key ∉ tally.map Prod.fst)
    (hall : c.failFast.isOn = false ∨ tally = []) :
    ∃ w', (scan { eol := .eol e, patterns := c.patterns } (.text path)).run w = (.ok (), w') ∧
      (∀ loc s data, Selects c.patterns path w loc s → w.tree.bytesAt loc = some data →
        (w'.tree.bytesAt loc = some data ↔ Text.hasLoneCr data = false ∧ Fix.Ended s)) ∧
      ∀ loc, (∀ s, ¬Selects c.patterns path w loc s) → w'.tree.get? loc = w.tree.get? loc := by
  have hchecks := Checker.checklist_eq hc.eol
  obtain ⟨sel, hsel⟩ : ∃ sel, Selection.ofPatterns .binary c.patterns = .ok sel := by
    obtain ⟨_, _, _, hscan⟩ := Session.run_bind_eq_ok hcheck
    obtain ⟨sel, _, hlift, _⟩ := Session.run_bind_eq_ok hscan
    rw [Session.run_lift] at hlift
    exact ⟨sel, congrArg Prod.fst hlift⟩
  obtain ⟨hnone, htext⟩ := Selection.ofPatterns_read hdata hsel .text
  obtain ⟨hno, hpass⟩ := Checker.passes_of_scan hnone hchecks hsel hcheck hall
  have hstops := stops_of_sameShape hp (.refl w.tree) sel ⟨.text, none⟩ path
  have hno' : ∀ g, ¬Obstacle w.tree { sel with skippedData := ⟨.text, none⟩ } path g := by
    unfold Obstacle
    rw [hstops]
    exact hno
  have hf : Direct { eol := .eol e, patterns := c.patterns } [.trim, .tabs 4]
      { sel with skippedData := ⟨.text, none⟩ } e := ⟨rfl, htext, rfl, rfl, rfl⟩
  rcases run_scan hf hp (Fixed.refl w.tree) path with ⟨w', hrun, hfixed, -⟩ | ⟨g, -, -, hg, -⟩
  swap
  · exact absurd hg (hno' g)
  rw [List.nil_append] at hfixed
  have hselects : ∀ loc s, Selects c.patterns path w loc s ↔
      Chosen w.tree _ (sources (stops w.tree _ path)) loc s := fun loc s => selects_iff hf.selection hno'
  refine ⟨w', hrun, fun loc s data hs hbytes => ?_, fun loc hnot => ?_⟩
  · have hchosen := (hselects loc s).mp hs
    obtain ⟨mode, hnew⟩ := hfixed.fixed loc s hchosen
    obtain ⟨src, hsrc, hloc, data', mode', hfile, hwanted⟩ := hchosen
    obtain ⟨mode'', hfile'⟩ := FileTree.bytesAt_eq_some_iff.mp hbytes
    cases hfile.symm.trans hfile'
    rw [hstops] at hsrc
    have hclean := hc.clean hchecks hkeys (hpass src hsrc data (FileTree.read_of_locate hloc hfile))
    rw [FileTree.bytesAt_eq_some_iff, hnew,
      ← fixedBytes_eq_iff hf.lineFixes rfl hclean (Source.decode_of_wanted hwanted)]
    constructor
    · rintro ⟨_, heq⟩
      cases heq
      rfl
    · intro heq
      exact ⟨mode, by rw [heq]⟩
  · exact hfixed.others loc fun s hchosen => hnot s ((hselects loc s).mpr hchosen)

/-- A file with two characters for each line ending keeps its bytes. -/
theorem scan_keeps_windows_file :
    let w : World := { tree := { entries := [(["a.c"], .file [0x78, 0x0d, 0x0a] 0o644)] }, year := 2024 }
    ∃ w', (scan { eol := .eol .win } (.text "a.c")).run w = (.ok (), w') ∧
      w'.tree.bytesAt ["a.c"] = some [0x78, 0x0d, 0x0a] := by
  intro w
  let c : Checker := { eol := .eol .win }
  have hp : w.tree.Plain := by decide
  have hloc : Path.locate w.tree .follow "a.c" = .ok ["a.c"] := Path.locate_name hp rfl
  obtain ⟨tally, v, hcheck, hkeys⟩ := Checker.run_scan_file (c := c) (e := .win) hp rfl rfl rfl rfl rfl rfl
    hloc rfl ⟨rfl, rfl, rfl, rfl⟩
  obtain ⟨w', hrun, hkept, -⟩ := scan_keeps_clean_iff (c := c) (e := .win) hp rfl
    ⟨rfl, rfl, rfl, rfl, rfl⟩ hcheck hkeys (.inl rfl)
  have hselects : Selects c.patterns "a.c" w ["a.c"] ['x', '\n'] :=
    selects_file rfl ⟨hloc, rfl, rfl, rfl, rfl⟩
  refine ⟨w', hrun, (hkept _ _ _ hselects rfl).mpr ⟨by decide, ['x'], rfl, ?_⟩⟩
  intro a ha
  cases ha
  decide +kernel

lemma bytesAt_of_usual_scan {w : World} {path : String} {loc : Location} {data : Bytes} {mode : Nat}
    (hp : w.tree.Plain) (hloc : Path.locate w.tree .follow path = .ok loc)
    (hfile : w.tree.get? loc = some (.file data mode)) (hs : Selects Patterns.usual path w loc s) :
    ∃ w', (scan {} (.text path)).run w = (.ok (), w') ∧
      w'.tree.bytesAt loc = some (fixedBytes {} [.trim, .tabs 4] .native s) := by
  obtain ⟨sel, hsel⟩ : ∃ sel, Selection.ofPatterns .text Patterns.usual = .ok sel := ⟨_, rfl⟩
  have hf : Direct {} [.trim, .tabs 4] sel .native := ⟨rfl, hsel, rfl, rfl, rfl⟩
  have hno : ∀ g, ¬Obstacle w.tree sel path g := not_obstacle_of_file hp hloc hfile
  obtain ⟨w', hrun, hfixed, -⟩ := run_scan_file hf hp hloc hfile
  obtain ⟨mode, hnew⟩ := hfixed.fixed _ _ ((selects_iff hsel hno).mp hs)
  exact ⟨w', hrun, FileTree.bytesAt_eq_some_iff.mpr ⟨mode, hnew⟩⟩

/-- The second of two line feeds at the end of a file is no fault for a checker, and a fixer takes it
away. And a checker that stops at its first failure does not come to the missing line feed of a file that
is not in ASCII. -/
theorem scan_changes_clean_file :
    let holding : Bytes → World := fun data => { tree := { entries := [(["a.c"], .file data 0o644)] }, year := 2024 }
    let passes : Checker → World → Prop := fun c w =>
      ∃ tally v, (c.scan (.text "a.c")).run w = (.ok tally, v) ∧
      ∀ key ∈ ["tabs", "invalid EOL", "trailing spaces", "no eol at eof"], key ∉ tally.map Prod.fst
    let becomes : World → Bytes → Prop := fun w data =>
      ∃ w', (scan {} (.text "a.c")).run w = (.ok (), w') ∧ w'.tree.bytesAt ["a.c"] = some data
    (passes {} (holding [0x78, 0x0a, 0x0a]) ∧ becomes (holding [0x78, 0x0a, 0x0a]) [0x78, 0x0a]) ∧
    passes { failFast := .flag true } (holding [0xc3, 0xa9]) ∧
      becomes (holding [0xc3, 0xa9]) [0xc3, 0xa9, 0x0a] := by
  intro holding passes becomes
  have hloc : ∀ {data}, (holding data).tree.Plain →
      Path.locate (holding data).tree .follow "a.c" = .ok ["a.c"] := fun hp => Path.locate_name hp rfl
  constructor
  · have hp : (holding [0x78, 0x0a, 0x0a]).tree.Plain := by decide
    refine ⟨Checker.run_scan_file (c := {}) (e := .native) hp rfl rfl rfl rfl rfl rfl (hloc hp) rfl
      ⟨rfl, rfl, rfl, rfl⟩, ?_⟩
    have hselects : Selects Patterns.usual "a.c" (holding [0x78, 0x0a, 0x0a]) ["a.c"] ['x', '\n', '\n'] :=
      selects_file rfl ⟨hloc hp, rfl, rfl, rfl, rfl⟩
    have hfixed : fixedBytes {} [.trim, .tabs 4] .native ['x', '\n', '\n'] = [0x78, 0x0a] := by
      decide +kernel
    exact hfixed ▸ bytesAt_of_usual_scan hp (hloc hp) rfl hselects
  · have hp : (holding [0xc3, 0xa9]).tree.Plain := by decide
    have hcheck : ((Checker.scan { failFast := .flag true } (.text "a.c")).run (holding [0xc3, 0xa9])).1 =
        .ok [("not ascii", 1)] :=
      (Checker.outcome_scan_file rfl rfl rfl rfl rfl (hloc hp) rfl).trans rfl
    refine ⟨⟨[("not ascii", 1)], _, Prod.ext hcheck rfl, by decide⟩, ?_⟩
    have hselects : Selects Patterns.usual "a.c" (holding [0xc3, 0xa9]) ["a.c"] ['é'] :=
      selects_file rfl ⟨hloc hp, rfl, rfl, rfl, by decide +kernel⟩
    have hfixed : fixedBytes {} [.trim, .tabs 4] .native ['é'] = [0xc3, 0xa9, 0x0a] := by decide +kernel
    exact hfixed ▸ bytesAt_of_usual_scan hp (hloc hp) rfl hselects

end Fixer

end SourceTidy
