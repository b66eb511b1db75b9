import Mathlib.Logic.Relation
import SourceTidy.Proofs.CheckedNotices
import SourceTidy.Proofs.FilledTemplates

/-!
# Updaters in use

The settings of an updater can be changed between its scans. An updater in use scans as a new one
with its settings if the digits of the year and the notice that it keeps do not matter, and for an
updater whose files and template can be anything only then.
-/

namespace SourceTidy

open Text FileTree CodePoint Template

variable {cps : List CodePoint} {p : Patterns}

namespace CodePoint

lemma toText_eq_ok {s : List CodePoint} {x : Text} (h : toText s = .ok x) : x = s.map toChar := by
  unfold toText at h
  dsimp only at h
  split at h
  · cases h
  · exact (Except.ok.inj h).symm

end CodePoint

lemma Notice.update_lone {year : Text} {d : Char} (hd : d ∈ ['0', '1', '2'])
    (h : year.isPrefixOf [d, d, d, d] = false) :
    update year ("Copyright ".toList ++ [d, d, d, d]) =
      "Copyright ".toList ++ [d, d, d, d] ++ '-' :: year := by
  have hdated : takeDated? year ("Copyright ".toList ++ [d, d, d, d]) =
      some (⟨"Copyright".toList, [d, d, d, d]⟩, []) := by
    obtain ⟨hmark, hblanks, hyear⟩ :
        takeMark? (skipColon ("Copyright ".toList ++ [d, d, d, d])) = some (' ' :: [d, d, d, d]) ∧
        takeBlanks? (skipColon (' ' :: [d, d, d, d])) = some [d, d, d, d] ∧
        takeYear? isDecimal [d, d, d, d] = some ([d, d, d, d], []) := by
      simp only [List.mem_cons, List.not_mem_nil, or_false] at hd
      rcases hd with rfl | rfl | rfl <;> decide +kernel
    simp only [takeDated?, hmark, hblanks, h, hyear, Option.bind_eq_bind, Option.bind_some,
      Bool.false_eq_true, if_false]
    rfl
  exact (update_of_dated hdated (List.nil_suffix)).trans (by simp [Dated.updated, update, updateFrom])

namespace Updater

open SourceWalk

variable {u u' v f g : Updater} {w : World} {s : Text}

/-- Two updaters scan alike: whatever the path and the world, the scans have the same outcome and leave
the same world. -/
def ScansAs (u f : Updater) : Prop :=
  ∀ path w, ∃ r u' f' w', (u.scan path).run w = (.ok (r, u'), w') ∧ (f.scan path).run w = (.ok (r, f'), w')

lemma updateTree_congr (hpatterns : u.patterns = f.patterns) (hbackup : u.backup = f.backup)
    (htext : ∀ s, u.updateText s = f.updateText s) (path : Setting) :
    u.updateTree path = f.updateTree path := by
  unfold updateTree updateSource
  simp only [hpatterns, hbackup, htext]

lemma noticeIn_congr (hpath : u.templatePath = f.templatePath) (hyear : u.year = f.year) (t : FileTree) :
    u.noticeIn t = f.noticeIn t := by
  rw [noticeIn, noticeIn, hpath, hyear]

lemma updateText_congr (hupdate : u.update = f.update)
    (hyear : u.update.isOn = true → u.yearText = f.yearText) (htemplate : u.template = f.template)
    (s : Text) : u.updateText s = f.updateText s := by
  have hdated : (if u.update.isOn then u.updateYears s else s) =
      if f.update.isOn then f.updateYears s else s := by
    rw [← hupdate]
    split
    · next hon => rw [updateYears, updateYears, hyear hon]
    · rfl
  rw [updateText, updateText, hdated, htemplate]

lemma scans_of_ready {path : Setting} (hnoted : u.noted w = f.noted w) (hu : u.preparedIn w.tree = .ok u')
    (hf : f.preparedIn w.tree = .ok v) (hsame : u'.updateTree path = v.updateTree path) :
    ∃ r u' f' w', (u.scan path).run w = (.ok (r, u'), w') ∧ (f.scan path).run w = (.ok (r, f'), w') := by
  refine ⟨_, u', v, _, run_scan_ready hu path, ?_⟩
  rw [hsame, hnoted]
  exact run_scan_ready hf path

/-- Updaters with the same settings scan alike if they have the same digits and the same year where they
use them, and the same notice where they do not read it. -/
lemma scansAs_of_eq (hpath : u.templatePath = f.templatePath) (hupdate : u.update = f.update)
    (hpatterns : u.patterns = f.patterns) (hbackup : u.backup = f.backup)
    (hyears : u.update.isOn = true → u.yearText = f.yearText)
    (hon : u.templatePath.isOn = true → u.year = f.year)
    (hoff : u.templatePath.isOn = false → u.template = f.template) : u.ScansAs f := by
  intro path w
  have hnoted : u.noted w = f.noted w := by rw [noted, noted, hpath, hupdate]
  cases hpathOn : u.templatePath.isOn with
  | false =>
    have hu : u.preparedIn w.tree = .ok u := by rw [preparedIn, hpathOn, if_neg Bool.false_ne_true]
    have hf : f.preparedIn w.tree = .ok f := by rw [preparedIn, ← hpath, hpathOn, if_neg Bool.false_ne_true]
    exact scans_of_ready hnoted hu hf
      (updateTree_congr hpatterns hbackup (updateText_congr hupdate hyears (hoff hpathOn)) path)
  | true =>
    have hnotice := noticeIn_congr hpath (hon hpathOn) w.tree
    have hu : u.preparedIn w.tree = (u.noticeIn w.tree).map fun cps => { u with template := some cps } :=
      if_pos hpathOn
    have hf : f.preparedIn w.tree = (u.noticeIn w.tree).map fun cps => { f with template := some cps } := by
      rw [hnotice]
      exact if_pos (hpath ▸ hpathOn)
    cases hin : u.noticeIn w.tree with
    | error g =>
      rw [hin] at hu hf
      exact ⟨_, u, f, _, run_scan_unready hu path, hnoted ▸ run_scan_unready hf path⟩
    | ok cps =>
      rw [hin] at hu hf
      have htext : ∀ s, ({ u with template := some cps } : Updater).updateText s =
          ({ f with template := some cps } : Updater).updateText s := updateText_congr hupdate hyears rfl
      have hsame := updateTree_congr (u := { u with template := some cps })
        (f := { f with template := some cps }) hpatterns hbackup htext path
      exact scans_of_ready hnoted hu hf hsame

def changeable : List String := ["copyright_template_path", "update", "year"]

/-- One use of an updater: a setting is changed, or a scan is made in some world, however it ends. -/
inductive Uses : Updater → Updater → Prop
  | change {u : Updater} {name : String} (h : name ∈ changeable) (v : Setting) : Uses u (u.withSetting name v)
  | scan {u u' : Updater} {path : Setting} {w w' : World} {r : Except Fault Unit}
      (h : (u.scan path).run w = (.ok (r, u'), w')) : Uses u u'

/-- An updater after any number of uses. -/
abbrev Used : Updater → Updater → Prop := Relation.ReflTransGen Uses

/-- What all uses leave as it is. -/
structure Fixed (u u' : Updater) : Prop where
  patterns : u'.patterns = u.patterns
  backup : u'.backup = u.backup
  yearText : u'.yearText = u.yearText

lemma uses_cases (h : Uses u u') : Fixed u u' ∧ (u'.template = u.template ∨
    u.templatePath.isOn = true ∧ ∃ t cps, u.noticeIn t = .ok cps ∧ u'.template = some cps) := by
  cases h with
  | change hname v =>
    simp only [changeable, List.mem_cons, List.not_mem_nil, or_false] at hname
    rcases hname with rfl | rfl | rfl <;> exact ⟨⟨rfl, rfl, rfl⟩, .inl rfl⟩
  | scan hscan =>
    rename_i path w w' r
    cases hready : u.preparedIn w.tree with
    | error g =>
      rw [run_scan_unready hready] at hscan
      cases hscan
      exact ⟨⟨rfl, rfl, rfl⟩, .inl rfl⟩
    | ok v =>
      rw [run_scan_ready hready] at hscan
      cases hscan
      rcases preparedIn_eq_ok hready with ⟨-, rfl⟩ | ⟨hon, cps, hcps, rfl⟩
      · exact ⟨⟨rfl, rfl, rfl⟩, .inl rfl⟩
      · exact ⟨⟨rfl, rfl, rfl⟩, .inr ⟨hon, w.tree, cps, hcps, rfl⟩⟩

lemma Fixed.trans (h : Fixed u v) (h' : Fixed v u') : Fixed u u' :=
  ⟨h'.patterns.trans h.patterns, h'.backup.trans h.backup, h'.yearText.trans h.yearText⟩

lemma Used.fixed (h : Used u u') : Fixed u u' := by
  induction h with
  | refl => exact ⟨rfl, rfl, rfl⟩
  | tail _ huse ih => exact ih.trans (uses_cases huse).1

lemma Used.template_eq (h : Used u u') : u'.template = u.template ∨ ∃ v t cps, Used u v ∧ Used v u' ∧
    v.templatePath.isOn = true ∧ v.noticeIn t = .ok cps ∧ u'.template = some cps := by
  induction h with
  | refl => exact .inl rfl
  | @tail b c hused huse ih =>
    rcases (uses_cases huse).2 with hsame | ⟨hon, t, cps, hcps, htemplate⟩
    · rw [hsame]
      exact ih.imp_right fun ⟨v, t, cps, huv, hvb, hrest⟩ => ⟨v, t, cps, huv, hvb.tail huse, hrest⟩
    · exact .inr ⟨b, t, cps, hused, .single huse, hon, hcps, htemplate⟩

def currentOptions (u : Updater) : Options :=
  [("copyright_template_path", u.templatePath), ("update", u.update), ("year", u.year),
    ("backup_ext", u.backup)]

lemma ofOptions_currentOptions {today : Int} (h : ofOptions today u.currentOptions p = .ok f) :
    f.templatePath = u.templatePath ∧ f.update = u.update ∧ f.backup = u.backup ∧ f.patterns = p ∧
      f.template = some [] ∧ f.year = if u.year = .none then .int today else u.year := by
  obtain ⟨-, -, h⟩ := bind_eq_ok h
  obtain ⟨yearText, -, h⟩ := bind_eq_ok h
  cases h
  refine ⟨rfl, rfl, rfl, rfl, rfl, ?_⟩
  dsimp only
  split
  · next hnone => exact (if_pos hnone).symm
  · next hsome => exact (if_neg hsome).symm

lemma template_of_ofOptions {today : Int} {options : Options}
    (h : ofOptions today options p = .ok u) : u.template = some [] := by
  obtain ⟨-, -, h⟩ := bind_eq_ok h
  obtain ⟨yearText, -, h⟩ := bind_eq_ok h
  cases h
  rfl

/-- What an updater keeps from before does not matter for its next scan: `made` is the updater as it was
made, `now` the one in use and `fresh` a new one with the same settings. -/
structure InStep (made now fresh : Updater) : Prop where
  years : now.update.isOn = true → made.yearText = fresh.yearText
  year : now.templatePath.isOn = true → now.year ≠ .none
  notice : now.templatePath.isOn = false → now.template = some []

lemma run_fold_of_pick {sel : Selection} {path : String} {loc : Location} {data : Bytes} {mode : Nat}
    (u : Updater) (hbackup : u.backup.isOn = false) (hsel : sel.skippedData.mode = .text) (hp : w.tree.Plain)
    (h : Picks w.tree sel .text path loc data mode s) :
    ∃ r w', (fold sel (.text path) () (u.rewriter.visitor sel u.backup)).run w = (r, w') ∧
      ∀ out, toText (u.updateText s) = .ok out ↔ r = .ok () ∧ w'.tree.bytesAt loc = some (encode out) := by
  have hasks : Rewriter.Asks u.backup none := hbackup
  have hbytes : u.rewriter.bytes? w.formatters (sourceAt path []) s =
      (toText (u.updateText s)).toOption.map encode := rfl
  cases htext : toText (u.updateText s) with
  | ok x =>
    rw [htext] at hbytes
    obtain ⟨w', hrun, -, ⟨bytes, hnew, hfile⟩, -⟩ := Rewriter.run_fold_of_file (a := u.rewriter) hasks hsel hp
      h (fun e he => by cases he) ⟨by rw [hbytes]; rfl, fun e he => by cases he⟩
    cases hbytes.symm.trans hnew
    refine ⟨_, w', hrun, fun out => ?_⟩
    rw [bytesAt_eq_some_iff.mpr ⟨_, hfile⟩, Except.ok.injEq, Option.some.injEq]
    refine ⟨fun h => ⟨rfl, congrArg encode h⟩, fun ⟨_, h⟩ => ?_⟩
    have hdecode := congrArg decodeUtf8 h
    rwa [decodeUtf8_encode, decodeUtf8_encode, Except.ok.injEq] at hdecode
  | error problem =>
    rcases Rewriter.run_fold_cases (a := u.rewriter) hasks hsel Rewriter.apart_none.clear hp with
      ⟨-, -, hready, -⟩ | ⟨g, w', hrun, -⟩
    · have hsome := (hready.ready _ h.mem_sources loc data mode s ⟨h.located, h.file, h.wanted⟩).bytes
      rw [hbytes, htext] at hsome
      cases hsome
    · exact ⟨_, w', hrun, fun out => iff_of_false (fun h => by cases h) fun h => by cases h.1⟩

/-- A file and a template, whose names and texts can be anything. -/
def pair (file : String) (s : Text) (template : String) (t : Text) : World :=
  { tree := { entries := [([file], .file (encode s) 0o644), ([template], .file (encode t) 0o644)] }, year := 0 }

/-- An updater that keeps no old files comes to the file with the given name, whatever the file holds,
and reads the template with the other name if it has one. -/
structure ComesTo (u : Updater) (file template : String) : Prop where
  fileName : Path.IsName file
  templateName : Path.IsName template
  ne : file ≠ template
  path : u.templatePath.isOn = true → u.templatePath = .text template
  noBackup : u.backup.isOn = false
  selects : ∃ sel, Selection.ofPatterns .text u.patterns = .ok sel ∧ sel.skips file = false ∧
    sel.wants file = true ∧ sel.skippedData.regex = none

namespace ComesTo

variable {file template : String} {t : Text}

lemma plain (h : u.ComesTo file template) (s t : Text) : (pair file s template t).tree.Plain := by
  rw [plain_iff]
  refine ⟨by simp [pair, h.ne], ?_⟩
  simp only [pair, List.mem_cons, List.not_mem_nil, or_false, forall_eq_or_imp, forall_eq]
  exact ⟨⟨h.fileName, rfl⟩, ⟨h.templateName, rfl⟩⟩

lemma get?_template (h : u.ComesTo file template) (s t : Text) :
    (pair file s template t).tree.get? [template] = some (.file (encode t) 0o644) := by
  have hne : ([template] : Location) ≠ [file] := fun heq => h.ne (List.singleton_inj.mp heq).symm
  simp [pair, get?, lookup_cons_if, hne]

lemma preparedIn (h : u.ComesTo file template) (s : Text) (ht : '\r' ∉ t)
    (hfill : u.templatePath.isOn = true → fill [("year", u.year)] t = .ok cps)
    (hkept : u.templatePath.isOn = false → u.template = some cps) :
    u.preparedIn (pair file s template t).tree = .ok { u with template := some cps } := by
  cases hon : u.templatePath.isOn with
  | false =>
    rw [Updater.preparedIn, hon, if_neg Bool.false_ne_true, ← hkept hon]
  | true =>
    have hfile := h.get?_template s t
    have hloc := Path.locate_name (h.plain s t) (by rw [hfile]; rfl)
    have hpath : u.templatePath.toFile = .ok template := by rw [h.path hon]; rfl
    rw [Updater.preparedIn, if_pos hon, noticeIn_of_file hpath hloc hfile ht (hfill hon)]
    rfl

lemma run_scan (h : u.ComesTo file template) (hs : '\r' ∉ s)
    (hready : u.preparedIn (pair file s template t).tree = .ok { u with template := some cps }) :
    ∃ r u' w', (u.scan (.text file)).run (pair file s template t) = (.ok (r, u'), w') ∧
      ∀ out, toText (({ u with template := some cps } : Updater).updateText s) = .ok out ↔
        r = .ok () ∧ w'.tree.bytesAt [file] = some (encode out) := by
  obtain ⟨sel, hsel, hskip, hwant, hdata⟩ := h.selects
  have hp := h.plain s t
  have hfile : (pair file s template t).tree.get? [file] = some (.file (encode s) 0o644) := by
    simp [pair, get?]
  have hloc := Path.locate_name hp (by rw [hfile]; rfl)
  rw [run_scan_ready hready]
  generalize hv : ({ u with template := some cps } : Updater) = v
  have hsel' : Selection.ofPatterns .text v.patterns = .ok sel := by rw [← hv]; exact hsel
  have hbackup : v.backup.isOn = false := by rw [← hv]; exact h.noBackup
  have htree := World.tree_eq_of_frame (u.noted_frame (pair file s template t))
  generalize u.noted (pair file s template t) = start at htree
  rw [← htree] at hp hfile hloc
  have hname : Path.baseName file = file := by
    have hjoin : Path.join "" file = file := by simp [Path.join]
    have hbase := baseName_join "" h.fileName
    rwa [hjoin] at hbase
  have hwanted : Source.wanted sel .text (encode s) = some s := by
    rw [Source.wanted, ReadMode.decode, decodeUtf8_encode]
    simp [Except.map, unifyNewlines_of_notMem hs, DataPattern.finds, DataPattern.search, hdata]
  obtain ⟨r, w', hrun, hout⟩ := v.run_fold_of_pick hbackup (Selection.mode_of_ofPatterns hsel') hp
    ⟨hloc, hfile, by rwa [hname], by rwa [hname], hwanted⟩
  rw [run_updateTree hsel', hrun]
  exact ⟨r, v, w', rfl, hout⟩

end ComesTo

lemma ScansAs.toText_iff {file template : String} {t : Text} {cps cps' : List CodePoint} (h : u.ScansAs f)
    (hu : u.ComesTo file template) (hf : f.ComesTo file template) (hs : '\r' ∉ s)
    (hready : u.preparedIn (pair file s template t).tree = .ok { u with template := some cps })
    (hready' : f.preparedIn (pair file s template t).tree = .ok { f with template := some cps' })
    (out : Text) :
    toText (({ u with template := some cps } : Updater).updateText s) = .ok out ↔
      toText (({ f with template := some cps' } : Updater).updateText s) = .ok out := by
  obtain ⟨r, u₁, w₁, hrun, hout⟩ := hu.run_scan hs hready
  obtain ⟨r', f₁, w₂, hrun', hout'⟩ := hf.run_scan hs hready'
  obtain ⟨r₀, u₀, f₀, w₀, hsame, hsame'⟩ := h (.text file) (pair file s template t)
  rw [hsame] at hrun
  rw [hsame'] at hrun'
  cases hrun
  cases hrun'
  rw [hout, hout']

lemma updateText_nil (h : u.template = some cps) : u.updateText [] = cps := by
  have hdated : (if u.update.isOn then u.updateYears [] else []) = [] := ite_self _
  have hnone : Notice.foundInText [] = false := rfl
  rw [updateText, hdated, h]
  dsimp only
  rw [hnone, if_neg Bool.false_ne_true]
  exact List.append_nil cps

lemma toText_updateText_nil (hon : u.update.isOn = true) (s : Text) :
    toText (({ u with template := some [] } : Updater).updateText s) = .ok (u.updateYears s) := by
  have hnil : (some [] : Option (List CodePoint)).getD [] = ofText [] := rfl
  rw [toText_updateText_of_notice hnil, textWith, List.nil_append, ite_self, datedText]
  exact congrArg Except.ok (if_pos hon)

lemma exists_digit (a b : Option Char) : ∃ d ∈ ['0', '1', '2'], a ≠ some d ∧ b ≠ some d := by
  by_contra hnone
  simp only [List.mem_cons, List.not_mem_nil, or_false, exists_eq_or_imp, exists_eq_left, not_or, not_and,
    not_not] at hnone
  obtain ⟨h0, h1, h2⟩ := hnone
  by_cases ha : a = some '0' <;> by_cases hb : a = some '1' <;> simp_all

lemma toString_ne_nil (n : Int) : (toString n).toList ≠ [] := by
  cases n with
  | ofNat m =>
    have hdigits : (toString (Int.ofNat m)).toList = Nat.toDigits 10 m := Nat.toList_repr
    rw [hdigits]
    exact Nat.toDigits_ne_nil
  | negSucc m =>
    change ("-" ++ (m + 1).repr).toList ≠ []
    rw [String.toList_append]
    exact List.cons_ne_nil _ _

lemma eq_of_update_eq {y y' : Text} (hy : y ≠ []) (hy' : y' ≠ [])
    (h : ∀ d ∈ ['0', '1', '2'], Notice.update y ("Copyright ".toList ++ [d, d, d, d]) =
      Notice.update y' ("Copyright ".toList ++ [d, d, d, d])) : y = y' := by
  obtain ⟨d, hd, hhead, hhead'⟩ := exists_digit y.head? y'.head?
  have hother : ∀ {x : Text}, x ≠ [] → x.head? ≠ some d → x.isPrefixOf [d, d, d, d] = false := by
    intro x hx hxd
    obtain ⟨c, x, rfl⟩ := List.exists_cons_of_ne_nil hx
    have hc : (c == d) = false := by simpa using hxd
    rw [List.isPrefixOf, hc, Bool.false_and]
  have hsame := h d hd
  rw [Notice.update_lone hd (hother hy hhead), Notice.update_lone hd (hother hy' hhead')] at hsame
  exact List.tail_eq_of_cons_eq (List.append_cancel_left hsame)

/-- A template that writes the kind of the year. -/
def kindTemplate : Text := "\x7byear.__class__\x7d".toList

lemma fill_kindTemplate {v : Setting} {kind : String}
    (h : lookup [("year", v)] "year.__class__".toList = .ok (.kind kind)) :
    fill [("year", v)] kindTemplate = .ok (ofText (shownKind kind).toList) := by
  have hfield : takeField "year.__class__\x7d".toList =
      .ok ({ name := "year.__class__".toList }, []) := rfl
  have hfill : fillFrom [("year", v)] 1 16 ('\x7b' :: "year.__class__\x7d".toList) = _ :=
    fillFrom_field (by decide) (fun t ht => by cases ht)
  rw [hfield, ok_bind] at hfill
  dsimp only at hfill
  rw [h] at hfill
  exact hfill.trans (congrArg Except.ok (List.append_nil _))

section

variable {file template : String} {today : Int} (hc : u.ComesTo file template)
  (hnew : ofOptions today u.currentOptions u.patterns = .ok f) (h : u.ScansAs f)

include hc hnew

lemma ComesTo.fresh : f.ComesTo file template := by
  obtain ⟨hpath, -, hbackup, hpatterns, -⟩ := ofOptions_currentOptions hnew
  refine ⟨hc.fileName, hc.templateName, hc.ne, ?_, ?_, ?_⟩
  · rw [hpath]
    exact hc.path
  · rw [hbackup]
    exact hc.noBackup
  · rw [hpatterns]
    exact hc.selects

include h

/-- An updater without a year fills in a template in another way than a new one, which takes the current
year. -/
lemma ScansAs.year_ne_none (hon : u.templatePath.isOn = true) : u.year ≠ .none := by
  intro hnone
  obtain ⟨hpath, -, -, -, -, hyear⟩ := ofOptions_currentOptions hnew
  rw [if_pos hnone] at hyear
  have hoff : u.templatePath.isOn ≠ false := by rw [hon]; decide
  have hfill : fill [("year", u.year)] kindTemplate =
      .ok (ofText (shownKind "NoneType").toList) := by
    rw [hnone]
    exact fill_kindTemplate rfl
  have hfill' : fill [("year", f.year)] kindTemplate =
      .ok (ofText (shownKind "int").toList) := by
    rw [hyear]
    exact fill_kindTemplate rfl
  have hready := hc.preparedIn [] (by decide) (fun _ => hfill) (fun h => absurd h hoff)
  have hready' := (hc.fresh hnew).preparedIn [] (by decide) (fun _ => hfill')
    (fun h => absurd (hpath ▸ h) hoff)
  have hiff := h.toText_iff hc (hc.fresh hnew) (by decide) hready hready'
    (shownKind "int").toList
  rw [updateText_nil rfl, updateText_nil rfl, toText_ofText, toText_ofText] at hiff
  exact absurd (hiff.mpr rfl) (by decide)

lemma ScansAs.template_eq_nil (hoff : u.templatePath.isOn = false) (hkept : u.template = some cps) :
    cps = [] := by
  obtain ⟨hpath, -, -, -, htemplate, -⟩ := ofOptions_currentOptions hnew
  have hon : u.templatePath.isOn ≠ true := by rw [hoff]; decide
  have hready := hc.preparedIn [] (t := []) (by decide) (fun h => absurd h hon) (fun _ => hkept)
  have hready' := (hc.fresh hnew).preparedIn [] (t := []) (by decide)
    (fun h => absurd (hpath ▸ h) hon) (fun _ => htemplate)
  have hiff := h.toText_iff hc (hc.fresh hnew) (by decide) hready hready' []
  rw [updateText_nil rfl, updateText_nil rfl] at hiff
  exact List.map_eq_nil_iff.mp (toText_eq_ok (hiff.mpr rfl)).symm

lemma ScansAs.yearText_eq (hon : u.update.isOn = true)
    (hnotice : u.templatePath.isOn = false → u.template = some []) (hu : u.yearText.toList ≠ [])
    (hf : f.yearText.toList ≠ []) : u.yearText = f.yearText := by
  obtain ⟨-, hupdate, -, -, htemplate, -⟩ := ofOptions_currentOptions hnew
  refine String.toList_inj.mp (eq_of_update_eq hu hf fun d hd => ?_)
  generalize hs : "Copyright ".toList ++ [d, d, d, d] = s
  have hcr : '\r' ∉ s := by
    rw [← hs]
    simp only [List.mem_cons, List.not_mem_nil, or_false] at hd
    rcases hd with rfl | rfl | rfl <;> decide
  have hready := hc.preparedIn s (t := []) (by decide) (fun _ => rfl) hnotice
  have hready' := (hc.fresh hnew).preparedIn s (t := []) (by decide) (fun _ => rfl) (fun _ => htemplate)
  have hiff := h.toText_iff hc (hc.fresh hnew) hcr hready hready' (f.updateYears s)
  rw [toText_updateText_nil hon, toText_updateText_nil (hupdate ▸ hon)] at hiff
  exact Except.ok.inj (hiff.mpr rfl)

end

lemma InStep.scansAs {today : Int} (hfixed : Fixed u u') (h : InStep u u' f)
    (hnew : ofOptions today u'.currentOptions u'.patterns = .ok f) : u'.ScansAs f := by
  obtain ⟨hpath, hupdate, hbackup, hpatterns, htemplate, hyear⟩ := ofOptions_currentOptions hnew
  refine scansAs_of_eq hpath.symm hupdate.symm hpatterns.symm hbackup.symm (fun hon => ?_) (fun hon => ?_)
    (fun hoff => ?_)
  · rw [hfixed.yearText]
    exact h.years hon
  · rw [hyear, if_neg (h.year hon)]
  · rw [h.notice hoff, htemplate]

lemma yearText_ne_nil {today : Int} {options : Options} (h : ofOptions today options p = .ok u) :
    u.yearText.toList ≠ [] := by
  obtain ⟨n, hn⟩ := exists_yearText h
  rw [hn]
  exact toString_ne_nil n

/-- An updater in use scans as a new one with its settings if the digits and the notice that it keeps do
not matter, and only then if it comes to files of any content. The notice that it keeps is empty or was
read by one of its scans. -/
theorem scan_follows_settings_iff {today today' : Int} {options : Options} {patterns : Patterns}
    (hu : ofOptions today options patterns = .ok u) (hused : Used u u')
    (hnew : ofOptions today' u'.currentOptions u'.patterns = .ok f) :
    Fixed u u' ∧
    (u'.template = some [] ∨ ∃ v t cps, Used u v ∧ Used v u' ∧ v.templatePath.isOn = true ∧
      v.noticeIn t = .ok cps ∧ u'.template = some cps) ∧
    (InStep u u' f → u'.ScansAs f) ∧
    ∀ file template, u'.ComesTo file template → (u'.ScansAs f ↔ InStep u u' f) := by
  have hfixed := hused.fixed
  have hkept := hused.template_eq
  rw [template_of_ofOptions hu] at hkept
  refine ⟨hfixed, hkept, fun h => h.scansAs hfixed hnew, fun file template hc => ?_⟩
  refine ⟨fun h => ?_, fun h => h.scansAs hfixed hnew⟩
  have hnotice : u'.templatePath.isOn = false → u'.template = some [] := by
    intro hoff
    rcases hkept with hnil | ⟨v, t, cps, -, -, -, -, hcps⟩
    · exact hnil
    · rw [hcps, h.template_eq_nil hc hnew hoff hcps]
  refine ⟨fun hon => ?_, h.year_ne_none hc hnew, hnotice⟩
  rw [← hfixed.yearText]
  refine h.yearText_eq hc hnew hon hnotice ?_ (yearText_ne_nil hnew)
  rw [hfixed.yearText]
  exact yearText_ne_nil hu

/-- An updater for templates alone follows a change of the year. -/
theorem scan_follows_changed_year :
    let patterns : Patterns := ⟨.texts ["*.c"], .texts [], .texts []⟩
    ∃ u u' f,
      ofOptions 2024 [("copyright_template_path", .text "t.txt"), ("year", .int 2018)] patterns = .ok u ∧
      Used u u' ∧ u'.year = .int 2019 ∧ u'.update = .flag false ∧
      ofOptions 2024 u'.currentOptions u'.patterns = .ok f ∧ u'.ComesTo "a.c" "t.txt" ∧ u'.ScansAs f := by
  intro patterns
  let u : Updater := { templatePath := .text "t.txt", year := .int 2018, yearText := "2018", patterns }
  let u' := (u.withSetting "year" (.int 2019)).withSetting "update" (.flag false)
  let f : Updater := { u with year := .int 2019, yearText := "2019", update := .flag false }
  have hused : Used u u' :=
    (Relation.ReflTransGen.single (.change (by decide) _)).tail (.change (by decide) _)
  have hnew : ofOptions 2024 u'.currentOptions u'.patterns = .ok f := rfl
  have hin : InStep u u' f := ⟨fun h => (by cases h), fun _ h => (by cases h), fun h => (by cases h)⟩
  have hc : u'.ComesTo "a.c" "t.txt" :=
    ⟨by decide, by decide, by decide, fun _ => rfl, rfl, _, rfl, by decide +kernel, by decide +kernel, rfl⟩
  have hmade : ofOptions 2024 [("copyright_template_path", .text "t.txt"), ("year", .int 2018)] patterns =
    .ok u := rfl
  exact ⟨u, u', f, hmade, hused, rfl, rfl, hnew, hc,
    ((scan_follows_settings_iff hmade hused hnew).2.2.2 _ _ hc).mpr hin⟩

/-- An updater whose year was changed still writes the year with which it was made. -/
theorem scan_writes_first_year :
    let patterns : Patterns := ⟨.texts ["*.c"], .texts [], .texts []⟩
    let w := pair "a.c" "Copyright 2010\n".toList "t.txt" []
    ∃ made now fresh, ofOptions 2024 [("year", .int 2018)] patterns = .ok made ∧ Used made now ∧
      now.year = .int 2019 ∧ ofOptions 2024 now.currentOptions now.patterns = .ok fresh ∧
      (∃ u w', (now.scan (.text "a.c")).run w = (.ok (.ok (), u), w') ∧
        w'.tree.bytesAt ["a.c"] = some (Text.encode "Copyright 2010-2018\n".toList)) ∧
      ∃ u w', (fresh.scan (.text "a.c")).run w = (.ok (.ok (), u), w') ∧
        w'.tree.bytesAt ["a.c"] = some (Text.encode "Copyright 2010-2019\n".toList) := by
  intro patterns w
  let made : Updater := { year := .int 2018, yearText := "2018", patterns }
  let now := made.withSetting "year" (.int 2019)
  let fresh : Updater := { year := .int 2019, yearText := "2019", patterns }
  have hnew : ofOptions 2024 now.currentOptions patterns = .ok fresh := rfl
  have hc : now.ComesTo "a.c" "t.txt" :=
    ⟨by decide, by decide, by decide, fun h => (by cases h), rfl, _, rfl, by decide +kernel,
      by decide +kernel, rfl⟩
  have hscan : ∀ {u : Updater} {out : Text}, u.ComesTo "a.c" "t.txt" → u.templatePath.isOn = false →
      u.template = some [] → CodePoint.toText (u.updateText "Copyright 2010\n".toList) = .ok out →
      ∃ u' w', (u.scan (.text "a.c")).run w = (.ok (.ok (), u'), w') ∧
        w'.tree.bytesAt ["a.c"] = some (Text.encode out) := by
    intro u out hcomes hoff htemplate htext
    have hsame : ({ u with template := some [] } : Updater) = u := by rw [← htemplate]
    have hready : u.preparedIn w.tree = .ok { u with template := some [] } := by
      rw [hsame, preparedIn, hoff, if_neg Bool.false_ne_true]
    obtain ⟨r, u', w', hrun, hout⟩ := hcomes.run_scan (by decide) hready
    obtain ⟨rfl, hbytes⟩ := (hout out).mp (by rw [hsame]; exact htext)
    exact ⟨u', w', hrun, hbytes⟩
  exact ⟨made, now, fresh, rfl, .single (.change (by decide) _), rfl, hnew,
    hscan hc rfl rfl (by decide +kernel), hscan (hc.fresh hnew) rfl rfl (by decide +kernel)⟩

end Updater

end SourceTidy
