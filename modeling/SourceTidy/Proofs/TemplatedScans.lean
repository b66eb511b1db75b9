import SourceTidy.Proofs.NoticeUpdates
import SourceTidy.Proofs.RewrittenFiles

/-!
# Scans with a template

A scan of an updater reads the template anew, which changes nothing, and then walks through the tree.
What it writes is the text of a file with its years brought up to date, after the notice made from the
template if there is no notice in it.
-/

namespace SourceTidy

lemma CodePoint.toText_ofText (s : Text) : toText (ofText s) = .ok s := by
  have hnone : (ofText s).findIdx isSurrogate = (ofText s).length := by
    rw [List.findIdx_eq_length]
    intro x hx
    obtain ⟨c, -, rfl⟩ := List.mem_map.mp hx
    rfl
  have hback : (ofText s).map toChar = s := by
    rw [ofText, List.map_map]
    exact List.map_id s
  unfold toText
  rw [hnone]
  dsimp only
  rw [if_neg (Nat.lt_irrefl _), hback]

namespace Updater

open Session SourceWalk

variable {u u' : Updater} {t : FileTree} {w : World} {cps : List CodePoint} {notice : Text}

/-- The notice made from the template in a tree. -/
def noticeIn (u : Updater) (t : FileTree) : Except Fault (List CodePoint) := do
  let file ← u.templatePath.toFile
  let data ← (t.read file).mapError (.path · file)
  let s ← (ReadMode.decode .text data).mapError .undecodable
  (Template.fill [("year", u.year)] s).mapError .template

def preparedIn (u : Updater) (t : FileTree) : Except Fault Updater :=
  if u.templatePath.isOn then (u.noticeIn t).map fun notice => { u with template := some notice }
  else .ok u

lemma noticeIn_eq_ok_iff : u.noticeIn t = .ok cps ↔
    ∃ file data s, u.templatePath.toFile = .ok file ∧ t.read file = .ok data ∧
      ReadMode.decode .text data = .ok s ∧ Template.fill [("year", u.year)] s = .ok cps := by
  constructor
  · intro h
    obtain ⟨file, hfile, h⟩ := bind_eq_ok h
    obtain ⟨data, hread, h⟩ := bind_eq_ok h
    obtain ⟨s, hs, h⟩ := bind_eq_ok h
    exact ⟨file, data, s, hfile, eq_ok_of_mapError hread, eq_ok_of_mapError hs, eq_ok_of_mapError h⟩
  · rintro ⟨file, data, s, hfile, hread, hs, hfill⟩
    rw [noticeIn, hfile, ok_bind, hread]
    change (ReadMode.decode .text data).mapError Fault.undecodable >>= _ = _
    rw [hs]
    change (Template.fill [("year", u.year)] s).mapError Fault.template = _
    rw [hfill]
    rfl

lemma noticeIn_of_file {file : String} {loc : Location} {s : Text} {mode : Nat}
    (hpath : u.templatePath.toFile = .ok file) (hloc : Path.locate t .follow file = .ok loc)
    (hfile : t.get? loc = some (.file (Text.encode s) mode)) (hcr : '\r' ∉ s)
    (hfill : Template.fill [("year", u.year)] s = .ok cps) : u.noticeIn t = .ok cps := by
  refine noticeIn_eq_ok_iff.mpr ⟨file, _, s, hpath, FileTree.read_of_locate hloc hfile, ?_, hfill⟩
  rw [ReadMode.decode, Text.decodeUtf8_encode]
  exact congrArg Except.ok (Text.unifyNewlines_of_notMem hcr)

lemma run_notice (hon : u.templatePath.isOn = true) (w : World) :
    u.notice.run w = ((u.noticeIn w.tree).map some, w) := by
  unfold notice noticeIn
  rw [hon, if_pos rfl, run_bind, run_lift]
  cases u.templatePath.toFile with
  | error g => rfl
  | ok file =>
    have hread : (readFile file).run w = ((w.tree.read file).mapError (.path · file), w) :=
      run_query _ _ _
    dsimp only
    rw [ok_bind, run_bind, hread]
    cases (w.tree.read file).mapError (Fault.path · file) with
    | error g => rfl
    | ok data =>
      dsimp only
      rw [ok_bind, run_bind, run_lift]
      cases (ReadMode.decode .text data).mapError Fault.undecodable with
      | error g => rfl
      | ok s =>
        dsimp only
        rw [ok_bind, run_bind, run_lift]
        cases (Template.fill [("year", u.year)] s).mapError Fault.template <;> rfl

lemma run_notice_eq_some_iff : u.notice.run w = (.ok (some cps), w) ↔
    u.templatePath.isOn = true ∧ u.noticeIn w.tree = .ok cps := by
  cases hon : u.templatePath.isOn with
  | false =>
    have hnone : u.notice.run w = (.ok none, w) := by
      rw [notice, hon]
      rfl
    rw [hnone]
    exact iff_of_false (fun h => by cases h) fun h => by cases h.1
  | true =>
    rw [run_notice hon]
    constructor
    · intro h
      obtain ⟨cps', hin, heq⟩ := map_eq_ok (congrArg Prod.fst h)
      exact ⟨rfl, hin.trans (congrArg Except.ok (Option.some.inj heq))⟩
    · rintro ⟨-, hin⟩
      rw [hin]
      rfl

lemma preparedIn_eq_ok (h : u.preparedIn t = .ok u') :
    u.templatePath.isOn = false ∧ u' = u ∨
      u.templatePath.isOn = true ∧ ∃ cps, u.noticeIn t = .ok cps ∧ u' = { u with template := some cps } := by
  unfold preparedIn at h
  split at h
  · next hon =>
    obtain ⟨cps, hcps, rfl⟩ := map_eq_ok h
    exact .inr ⟨hon, cps, hcps, rfl⟩
  · next hoff =>
    cases h
    exact .inl ⟨eq_false_of_ne_true hoff, rfl⟩

lemma settings_of_preparedIn (h : u.preparedIn t = .ok u') :
    u'.backup = u.backup ∧ u'.patterns = u.patterns := by
  rcases preparedIn_eq_ok h with ⟨-, rfl⟩ | ⟨-, cps, -, rfl⟩ <;> exact ⟨rfl, rfl⟩

lemma preparedIn_of_preparedIn (h : u.preparedIn t = .ok u') (t' : FileTree) :
    u'.preparedIn t' = u.preparedIn t' := by
  rcases preparedIn_eq_ok h with ⟨-, rfl⟩ | ⟨hon, cps, -, rfl⟩
  · rfl
  · rw [preparedIn, preparedIn, if_pos hon, if_pos hon]
    rfl

lemma preparedIn_congr {v w : World} (h : (u.notice.run v).1 = (u.notice.run w).1) :
    u.preparedIn v.tree = u.preparedIn w.tree := by
  unfold preparedIn
  split
  · next hon =>
    rw [run_notice hon, run_notice hon] at h
    have hsame : u.noticeIn v.tree = u.noticeIn w.tree := by
      cases hv : u.noticeIn v.tree <;> cases hw : u.noticeIn w.tree <;> rw [hv, hw] at h <;> cases h <;> rfl
    rw [hsame]
  · rfl

lemma run_prepare (u : Updater) (w : World) : u.prepare.run w = (u.preparedIn w.tree, w) := by
  unfold prepare preparedIn
  split
  · next hon =>
    rw [loadTemplate, run_bind, run_notice hon]
    cases u.noticeIn w.tree <;> rfl
  · rfl

/-- The world in which a scan begins its work. It has a record if the settings leave nothing to do. -/
def noted (u : Updater) (w : World) : World :=
  if !u.templatePath.isOn && !u.update.isOn then
    w.logged .info "nothing to do: update=False and no template to add"
  else w

lemma noted_frame (u : Updater) (w : World) : (u.noted w).frame = w.frame := by
  unfold noted
  split
  · exact World.logged_frame w _ _
  · rfl

lemma run_scan_eq (u : Updater) (w : World) (path : Setting) : (u.scan path).run w =
    (u.afterPreparing (·.updateTree path)).run (u.noted w) := by
  unfold scan noted
  dsimp only
  split
  · exact run_bind_ok (run_log _ _ _) _
  · rfl

lemma run_attempt_prepare (u : Updater) (w : World) :
    (attempt u.prepare).run (u.noted w) = (.ok (u.preparedIn w.tree), u.noted w) := by
  rw [run_attempt, run_prepare, World.tree_eq_of_frame (u.noted_frame w)]

lemma run_scan_unready {g : Fault} (h : u.preparedIn w.tree = .error g) (path : Setting) :
    (u.scan path).run w = (.ok (.error g, u), u.noted w) := by
  rw [run_scan_eq, afterPreparing, run_bind_ok (run_attempt_prepare u w), h]
  rfl

lemma run_scan_ready (h : u.preparedIn w.tree = .ok u') (path : Setting) :
    (u.scan path).run w = (.ok (((u'.updateTree path).run (u.noted w)).1, u'),
      ((u'.updateTree path).run (u.noted w)).2) := by
  rw [run_scan_eq, afterPreparing, run_bind_ok (run_attempt_prepare u w), h]
  dsimp only
  rw [run_bind_ok (run_attempt _ _)]
  rfl

lemma run_updateTree {sel : Selection} (hsel : Selection.ofPatterns .text u.patterns = .ok sel) (path : String) :
    (u.updateTree (.text path)).run w =
      (fold sel (.text path) () (u.rewriter.visitor sel u.backup)).run w := by
  rw [updateTree, run_lift_bind hsel]
  rfl

/-- A scan reads the template, makes the selection and walks through the tree. The first of these that
fails ends it. -/
lemma run_scan_cases (u : Updater) (w : World) (path : String) : ∃ v r u' w', v.frame = w.frame ∧
    (u.scan (.text path)).run w = (.ok (r, u'), w') ∧
    ((∃ g, u.preparedIn w.tree = .error g ∧ r = .error g ∧ u' = u ∧ w' = v) ∨
      u.preparedIn w.tree = .ok u' ∧
        ((∃ g, Selection.ofPatterns .text u'.patterns = .error g ∧ r = .error g ∧ w' = v) ∨
          ∃ sel, Selection.ofPatterns .text u'.patterns = .ok sel ∧
            (fold sel (.text path) () (u'.rewriter.visitor sel u'.backup)).run v = (r, w'))) := by
  cases hready : u.preparedIn w.tree with
  | error g =>
    exact ⟨_, _, _, _, u.noted_frame w, run_scan_unready hready _, .inl ⟨g, rfl, rfl, rfl, rfl⟩⟩
  | ok u' =>
    refine ⟨_, _, _, _, u.noted_frame w, run_scan_ready hready _, .inr ⟨rfl, ?_⟩⟩
    cases hsel : Selection.ofPatterns .text u'.patterns with
    | error g =>
      rw [updateTree, hsel]
      exact .inl ⟨g, rfl, rfl, rfl⟩
    | ok sel => exact .inr ⟨sel, rfl, (run_updateTree hsel path).symm⟩

def datedText (u : Updater) (s : Text) : Text := if u.update.isOn then u.updateYears s else s

/-- The text of a file after the update, where the notice for files that have none is given. -/
def textWith (u : Updater) (notice s : Text) : Text :=
  if Notice.foundInText (u.datedText s) then u.datedText s else notice ++ u.datedText s

lemma toText_updateText_of_notice (h : u.template.getD [] = CodePoint.ofText notice) (s : Text) :
    CodePoint.toText (u.updateText s) = .ok (u.textWith notice s) := by
  have htext : u.updateText s = CodePoint.ofText (u.textWith notice s) := by
    unfold updateText textWith datedText
    dsimp only
    generalize (if u.update.isOn = true then u.updateYears s else s) = dated
    cases htemplate : u.template with
    | none =>
      rw [htemplate, Option.getD_none] at h
      obtain rfl : notice = [] := List.map_eq_nil_iff.mp h.symm
      rw [List.nil_append, ite_self]
    | some cps =>
      rw [htemplate, Option.getD_some] at h
      subst h
      dsimp only
      split
      · rfl
      · exact (List.map_append ..).symm
  rw [htext, CodePoint.toText_ofText]

lemma gives_of_toText {out : Text → Text} (h : ∀ s, CodePoint.toText (u.updateText s) = .ok (out s)) :
    u.rewriter.Gives fun s => Text.encode (out s) := by
  intro formatters src s
  change u.rewritten? s = _
  rw [rewritten?, h]
  rfl

end Updater

end SourceTidy
