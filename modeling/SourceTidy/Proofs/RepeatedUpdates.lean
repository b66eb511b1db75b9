import SourceTidy.Proofs.FilledTemplates
import SourceTidy.Proofs.FixedModes
import SourceTidy.Proofs.TemplatedScans

/-!
# Repeated updates

In a file that an updater has written the years are up to date, and there is a notice if there is
one to put at its start. So a second scan writes the bytes that are there already.
-/

namespace SourceTidy

open FileTree Notice

variable {loc : Location} {v w' : World}

lemma writtenMode_writtenMode (mode : Nat) : writtenMode (writtenMode mode) = writtenMode mode := by
  have howner : ¬(writtenMode mode &&& 0o4000 != 0) = true := by
    rw [ownerBit_iff, ← testBit_iff, (writtenMode_bits mode).2]
    decide
  have hgroup : ¬(writtenMode mode &&& 0o2010 == 0o2010) = true := by
    unfold writtenMode
    dsimp only
    generalize (if (mode &&& 0o4000 != 0) = true then mode - 0o4000 else mode) = owned
    split
    · next hset =>
      intro hgroup
      have hten := (testBit_iff owned 10).mp (testBit_of_groupBits hset).1
      have hten' := (testBit_iff _ 10).mp (testBit_of_groupBits hgroup).1
      omega
    · next hset => exact hset
  generalize writtenMode mode = written at howner hgroup
  rw [writtenMode, if_neg howner]
  exact if_neg hgroup

lemma Notice.isYear_toString {y : Int} (hy : 1000 ≤ y ∧ y ≤ 9999) : IsYear (toString y).toList := by
  obtain ⟨n, rfl⟩ := Int.eq_ofNat_of_zero_le (show 0 ≤ y by omega)
  have hdigits : (toString (n : Int)).toList = Nat.toDigits 10 n := Nat.toList_repr
  have hle : (Nat.toDigits 10 n).length ≤ 4 :=
    (Nat.length_toDigits_le_iff (by decide) (by decide)).mpr (by omega)
  have hge : ¬(Nat.toDigits 10 n).length ≤ 3 := by
    rw [Nat.length_toDigits_le_iff (by decide) (by decide)]
    omega
  rw [hdigits]
  refine ⟨by omega, fun c hc => ?_⟩
  rw [Text.isDecimal, Text.digitValue?_of_isDigit (Text.isDigit_of_mem_toDigits hc)]
  rfl

namespace Updater

open SourceWalk

variable {u u' : Updater} {t : FileTree} {w : World} {y : Int} {notice s : Text}

lemma datedText_datedText (hyear : IsYear u.yearText.toList) (s : Text) :
    u.datedText (u.datedText s) = u.datedText s := by
  unfold datedText
  split
  · exact update_update hyear s
  · rfl

lemma cr_notMem_datedText (hyear : IsYear u.yearText.toList) (hs : '\r' ∉ s) : '\r' ∉ u.datedText s := by
  unfold datedText
  split
  · intro hmem
    rcases mem_update hmem with hmem | hmem | hmem | hmem
    · exact hs hmem
    · exact absurd (hyear.digit _ hmem) (by decide)
    · cases hmem
    · cases hmem
  · exact hs

/-- A notice for the start of files that scans leave as it is: it stands on lines of its own, is found
as a notice and has no year that is to be brought up to date. -/
structure Lasting (u : Updater) (notice : Text) : Prop where
  line : notice.getLast? = some '\n'
  found : foundInText notice = true
  current : u.updateYears notice = notice

lemma Lasting.datedText_append (hyear : IsYear u.yearText.toList) (h : u.Lasting notice)
    (s : Text) : u.datedText (notice ++ u.datedText s) = notice ++ u.datedText s := by
  obtain ⟨x, rfl⟩ := List.getLast?_eq_some_iff.mp h.line
  unfold datedText
  split
  · have hx : u.updateYears x = x := by
      have hcurrent := h.current
      rw [updateYears, update_append_line hyear.lf_notMem] at hcurrent
      exact List.append_cancel_right hcurrent
    have hs : u.updateYears (u.updateYears s) = u.updateYears s := update_update hyear s
    have hline : u.updateYears (x ++ '\n' :: u.updateYears s) =
        u.updateYears x ++ '\n' :: u.updateYears (u.updateYears s) :=
      update_append_line hyear.lf_notMem _ _
    rw [List.append_assoc, List.singleton_append, hline, hx, hs]
  · rfl

/-- A text that was written stays as it is, whatever notice the second scan has for files that have
none. -/
lemma textWith_textWith (hyear : IsYear u.yearText.toList) {notice' : Text}
    (h : notice = [] ∧ notice' = [] ∨ u.Lasting notice) (s : Text) :
    u.textWith notice' (u.textWith notice s) = u.textWith notice s := by
  have hstays : ∀ x, u.datedText x = x → (notice' = [] ∨ foundInText x = true) →
      u.textWith notice' x = x := by
    intro x hx hfound
    rw [textWith, hx]
    rcases hfound with rfl | hfound
    · exact ite_self x
    · rw [if_pos hfound]
  by_cases hfound : foundInText (u.datedText s) = true
  · have htext : u.textWith notice s = u.datedText s := if_pos hfound
    rw [htext]
    exact hstays _ (datedText_datedText hyear s) (.inr hfound)
  · have htext : u.textWith notice s = notice ++ u.datedText s := if_neg hfound
    rw [htext]
    rcases h with ⟨rfl, rfl⟩ | h
    · exact hstays _ (datedText_datedText hyear s) (.inl rfl)
    · exact hstays _ (h.datedText_append hyear s)
        (.inr (foundIn_append (fun _ => id) h.found _))

lemma cr_notMem_textWith (hyear : IsYear u.yearText.toList) (hnotice : '\r' ∉ notice)
    (hs : '\r' ∉ s) : '\r' ∉ u.textWith notice s := by
  have hdated := cr_notMem_datedText hyear hs
  unfold textWith
  split
  · exact hdated
  · exact cr_notMem_append hnotice hdated

/-- At a location nothing is written but what is there. -/
def Settled (sel : Selection) (out : Text → Text) (t : FileTree) (loc : Location) : Prop :=
  ∀ data mode s, t.get? loc = some (.file data mode) → Source.wanted sel .text data = some s →
    Text.encode (out s) = data ∧ writtenMode mode = mode

section

variable {sel : Selection} {out out' : Text → Text} (hcr : ∀ s, '\r' ∉ s → '\r' ∉ out s)
  (hagain : ∀ s, out' (out s) = out s)

include hcr hagain

lemma settled_of_written {mode : Nat} (hs : '\r' ∉ s)
    (h : t.get? loc = some (.file (Text.encode (out s)) (writtenMode mode))) : Settled sel out' t loc := by
  intro data mode' s' hfile hwant
  rw [h] at hfile
  cases hfile
  have hdecode := Source.decode_of_wanted hwant
  rw [ReadMode.decode, Text.decodeUtf8_encode] at hdecode
  have hsame : out s = s' := by
    rw [← Text.unifyNewlines_of_notMem (hcr s hs)]
    exact Except.ok.inj hdecode
  rw [← hsame, hagain]
  exact ⟨rfl, writtenMode_writtenMode mode⟩

omit hcr hagain in
/-- A walk that finds only what it would write itself changes nothing. -/
lemma eq_of_settled {a : Rewriter} {srcs : List Source} {t' : FileTree} (hp : t.Plain) (hmode : a.mode = id)
    (h : a.Renewed (fun s => Text.encode (out s)) t sel srcs t')
    (hset : ∀ loc s, Rewriter.Chosen t sel srcs loc s → Settled sel out t loc) : t' = t := by
  refine h.shape.eq_of_get? hp fun loc => ?_
  by_cases hchosen : ∃ s, Rewriter.Chosen t sel srcs loc s
  · obtain ⟨s, hs⟩ := hchosen
    obtain ⟨-, -, -, data, mode, hfile, hwant⟩ := id hs
    obtain ⟨hdata, hkept⟩ := hset loc s hs data mode s hfile hwant
    rw [h.new loc s data mode hs hfile, hmode, hdata, id, hkept, hfile]
  · exact h.others loc fun s hs => hchosen ⟨s, hs⟩

/-- A second walk ends as the first one, and changes nothing. -/
lemma fold_again {a a₂ : Rewriter} {backup backup₂ : Setting} {path : String} {r : Except Fault Unit}
    (hgives : a.Gives fun s => Text.encode (out s)) (hgives₂ : a₂.Gives fun s => Text.encode (out' s))
    (hmode : a.mode = id) (hmode₂ : a₂.mode = id) (hbackup : backup.isOn = false)
    (hbackup₂ : backup₂.isOn = false) (hsel : sel.skippedData.mode = .text) (hp : w.tree.Plain)
    (hrun : (fold sel (.text path) () (a.visitor sel backup)).run w = (r, w')) (hv : v.tree = w'.tree) :
    ∃ v', (fold sel (.text path) () (a₂.visitor sel backup₂)).run v = (r, v') ∧ v'.tree = v.tree := by
  obtain ⟨rfl, hnew⟩ := Rewriter.renewed_of_fold hgives hbackup hsel hp hrun
  rw [← hv] at hnew
  have hpv := hnew.shape.plain hp
  obtain ⟨v', hrun₂, -, hnew₂⟩ := Rewriter.run_fold_in_place hgives₂ hbackup₂ hsel hpv path
  obtain ⟨hending, hpassed⟩ := ends_sameShape hp hnew.shape sel path
  rw [hending] at hrun₂
  rw [hpassed] at hnew₂
  refine ⟨v', hrun₂, eq_of_settled hpv hmode₂ hnew₂ fun loc s hs => ?_⟩
  by_cases hchosen : ∃ s₀, Rewriter.Chosen w.tree sel (sources (passed w.tree (stops w.tree sel path))) loc s₀
  · obtain ⟨s₀, hs₀⟩ := hchosen
    obtain ⟨-, -, -, data, mode, hfile, hwant⟩ := id hs₀
    have hwritten := hnew.new loc s₀ data mode hs₀ hfile
    rw [hmode, id] at hwritten
    exact settled_of_written hcr hagain (Source.cr_notMem_of_wanted hwant) hwritten
  · have hsame := hnew.others loc fun s₀ hs₀ => hchosen ⟨s₀, hs₀⟩
    obtain ⟨src, hsrc, hloc, data, mode, hfile, hwant⟩ := hs
    rw [Path.locate_sameShape hp hnew.shape] at hloc
    exact absurd ⟨s, src, hsrc, hloc, data, mode, hsame ▸ hfile, hwant⟩ hchosen

end

/-- An updater as it is made: the notice that it puts at the start of files is that of its template. -/
structure Made (u : Updater) (y : Int) : Prop where
  year : u.year = .int y
  yearText : u.yearText = toString y
  template : u.template = some []

lemma made_of_ofOptions {today : Int} {options : Options} {patterns : Patterns}
    (h : ofOptions today options patterns = .ok u) (hyear : u.year = .int y) : u.Made y := by
  obtain ⟨-, -, h⟩ := bind_eq_ok h
  obtain ⟨yearText, hdigits, h⟩ := bind_eq_ok h
  cases h
  dsimp only at hyear
  rw [hyear] at hdigits
  cases hdigits
  exact ⟨hyear, rfl, rfl⟩

lemma exists_text_of_noticeIn (hyear : u.year = .int y) (hy : 1000 ≤ y ∧ y ≤ 9999)
    {cps : List CodePoint} (h : u.noticeIn t = .ok cps) :
    ∃ notice, cps = CodePoint.ofText notice ∧ '\r' ∉ notice := by
  obtain ⟨file, data, s, -, -, hs, hfill⟩ := noticeIn_eq_ok_iff.mp h
  rw [hyear] at hfill
  have hcr : '\r' ∉ s := by
    obtain ⟨x, -, rfl⟩ := map_eq_ok hs
    exact Text.cr_notMem_unifyNewlines x
  exact Template.exists_text_of_fill ⟨by omega, by omega, by omega⟩ hcr hfill

lemma Made.texts (h : u.Made y) (hy : 1000 ≤ y ∧ y ≤ 9999) (hready : u.preparedIn t = .ok u') :
    ∃ notice, '\r' ∉ notice ∧ (∀ s, CodePoint.toText (u'.updateText s) = .ok (u.textWith notice s)) ∧
      (u.templatePath.isOn = false ∧ notice = [] ∨
        u.templatePath.isOn = true ∧ u.noticeIn t = .ok (CodePoint.ofText notice)) := by
  rcases preparedIn_eq_ok hready with ⟨hoff, rfl⟩ | ⟨hon, cps, hnotice, rfl⟩
  · have htemplate : u'.template.getD [] = CodePoint.ofText [] := by rw [h.template]; rfl
    exact ⟨[], List.not_mem_nil, toText_updateText_of_notice htemplate, .inl ⟨hoff, rfl⟩⟩
  · obtain ⟨notice, rfl, hcr⟩ := exists_text_of_noticeIn h.year hy hnotice
    exact ⟨notice, hcr, toText_updateText_of_notice rfl, .inr ⟨hon, hnotice⟩⟩

/-- What a second scan writes for a text that the first one has written is that text. -/
lemma Made.texts_again {u₂ : Updater} {t₂ : FileTree} (h : u.Made y) (hy : 1000 ≤ y ∧ y ≤ 9999)
    (hnotice : ∀ notice, u.templatePath.isOn = true → u.noticeIn t = .ok (CodePoint.ofText notice) →
      u.Lasting notice)
    (hready : u.preparedIn t = .ok u') (hready₂ : u.preparedIn t₂ = .ok u₂) :
    ∃ out out₂ : Text → Text, (∀ s, CodePoint.toText (u'.updateText s) = .ok (out s)) ∧
      (∀ s, CodePoint.toText (u₂.updateText s) = .ok (out₂ s)) ∧ (∀ s, '\r' ∉ s → '\r' ∉ out s) ∧
      ∀ s, out₂ (out s) = out s := by
  have hdigits : IsYear u.yearText.toList := by
    rw [h.yearText]
    exact isYear_toString hy
  obtain ⟨notice, hcr, htext, hfrom⟩ := h.texts hy hready
  obtain ⟨notice₂, -, htext₂, hfrom₂⟩ := h.texts hy hready₂
  have hstays : notice = [] ∧ notice₂ = [] ∨ u.Lasting notice := by
    rcases hfrom with ⟨hoff, rfl⟩ | ⟨hon, hin⟩
    · rcases hfrom₂ with ⟨-, rfl⟩ | ⟨hon, -⟩
      · exact .inl ⟨rfl, rfl⟩
      · rw [hoff] at hon
        cases hon
    · exact .inr (hnotice notice hon hin)
  exact ⟨_, _, htext, htext₂, fun s => cr_notMem_textWith hdigits hcr, textWith_textWith hdigits hstays⟩

/-- The second of two scans changes nothing, and ends as the first one if its template still makes the
same notice. -/
lemma scan_again_keeps_tree {today : Int} {options : Options} {patterns : Patterns}
    (hu : ofOptions today options patterns = .ok u) (hyear : u.year = .int y)
    (hy : 1000 ≤ y ∧ y ≤ 9999) (hbackup : u.backup.isOn = false) (hp : w.tree.Plain)
    (hnotice : ∀ notice, u.notice.run w = (.ok (some (CodePoint.ofText notice)), w) → u.Lasting notice)
    (path : String) :
    ∃ r u' w', (u.scan (.text path)).run w = (.ok (r, u'), w') ∧
      ∀ tool, tool = u ∨ tool = u' → ∀ v : World, v.tree = w'.tree →
        ∃ r₂ u₂ v', (tool.scan (.text path)).run v = (.ok (r₂, u₂), v') ∧ v'.tree = v.tree ∧
          ((u.notice.run v).1 = (u.notice.run w).1 → r₂ = r) := by
  have hmade := made_of_ofOptions hu hyear
  obtain ⟨w₁, r, u', w', hframe, hscan, hcase⟩ := u.run_scan_cases w path
  have hw₁ := World.tree_eq_of_frame hframe
  refine ⟨r, u', w', hscan, fun tool htool v hv => ?_⟩
  have hprepared : ∀ t, tool.preparedIn t = u.preparedIn t := by
    intro t
    rcases htool with rfl | rfl
    · rfl
    · rcases hcase with ⟨g, -, -, rfl, -⟩ | ⟨hready, -⟩
      · rfl
      · exact preparedIn_of_preparedIn hready t
  obtain ⟨v₁, r₂, u₂, v', hframe₂, hscan₂, hcase₂⟩ := tool.run_scan_cases v path
  have hv₁ := World.tree_eq_of_frame hframe₂
  rw [hprepared] at hcase₂
  refine ⟨r₂, u₂, v', hscan₂, ?_⟩
  rcases hcase with ⟨g, hready, rfl, rfl, rfl⟩ | ⟨hready, ⟨g, hsel, rfl, rfl⟩ | ⟨sel, hsel, hrun⟩⟩
  · have htree : v.tree = w.tree := hv.trans hw₁
    rw [htree, hready] at hcase₂
    rcases hcase₂ with ⟨g', hg, rfl, -, rfl⟩ | ⟨hok, -⟩
    · cases hg
      exact ⟨hv₁, fun _ => rfl⟩
    · cases hok
  · have htree : v.tree = w.tree := hv.trans hw₁
    rw [htree, hready] at hcase₂
    rcases hcase₂ with ⟨g', hg, -⟩ | ⟨hok, hcase₂⟩
    · cases hg
    cases hok
    rw [hsel] at hcase₂
    rcases hcase₂ with ⟨g', hg, rfl, rfl⟩ | ⟨sel, hsel₂, -⟩
    · cases hg
      exact ⟨hv₁, fun _ => rfl⟩
    · cases hsel₂
  · rw [← hw₁] at hp
    rcases hcase₂ with ⟨g, hready₂, -, -, rfl⟩ | ⟨hready₂, hcase₂⟩
    · refine ⟨hv₁, fun hsame => ?_⟩
      rw [preparedIn_congr hsame, hready] at hready₂
      cases hready₂
    have hsel₂ : Selection.ofPatterns .text u₂.patterns = .ok sel := by
      rw [(settings_of_preparedIn hready₂).2, ← (settings_of_preparedIn hready).2, hsel]
    rw [hsel₂] at hcase₂
    rcases hcase₂ with ⟨g, hg, -⟩ | ⟨sel₂, hsel₂', hrun₂⟩
    · cases hg
    cases hsel₂'
    obtain ⟨out, out₂, htext, htext₂, hcr, hagain⟩ := hmade.texts_again hy
      (fun notice hon hin => hnotice notice (run_notice_eq_some_iff.mpr ⟨hon, hin⟩)) hready hready₂
    obtain ⟨v'', hrun', htree⟩ := fold_again hcr hagain (gives_of_toText htext) (gives_of_toText htext₂)
      rfl rfl ((settings_of_preparedIn hready).1 ▸ hbackup) ((settings_of_preparedIn hready₂).1 ▸ hbackup)
      (Selection.mode_of_ofPatterns hsel) hp hrun (hv₁.trans hv)
    rw [hrun₂] at hrun'
    cases hrun'
    exact ⟨htree.trans hv₁, fun _ => rfl⟩

end Updater

end SourceTidy
