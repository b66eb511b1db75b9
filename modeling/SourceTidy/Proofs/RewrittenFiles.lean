import Mathlib.Data.List.TakeWhile
import SourceTidy.Proofs.KeptFiles

/-!
# Walks that write files anew in their places

Where no old files are kept and every text can be written, a walk keeps the shape of the tree. It then
writes what is selected in the tree at the start, up to the first obstacle there.
-/

namespace SourceTidy

open FileTree SourceWalk SourceTidy.Path Source

variable {t t' : FileTree} {sel : Selection} {path : String} {loc : Location} {s : Text} {w w' : World}

namespace FileTree

def bytesAt (t : FileTree) (loc : Location) : Option Bytes :=
  match t.get? loc with
  | some (.file data _) => some data
  | _ => none

lemma bytesAt_eq_some_iff {data : Bytes} :
    t.bytesAt loc = some data ↔ ∃ mode, t.get? loc = some (.file data mode) := by
  unfold bytesAt
  cases t.get? loc with
  | none => simp
  | some entry => cases entry <;> simp [eq_comm]

lemma SameShape.read_error (hp : t.Plain) (h : t.SameShape t') {problem : PathProblem} :
    t'.read path = .error problem ↔ t.read path = .error problem := by
  have hloc' : locate t' .follow path = locate t .follow path := locate_sameShape hp h .follow path
  cases hloc : locate t .follow path with
  | error problem' => rw [read_of_locate_error (hloc'.trans hloc), read_of_locate_error hloc]
  | ok loc =>
    obtain ⟨entry, hentry⟩ := Option.isSome_iff_exists.mp (locate_isSome hp hloc)
    cases entry with
    | file data mode =>
      obtain ⟨data', mode', hfile⟩ := (h.file_iff loc).mpr ⟨data, mode, hentry⟩
      rw [read_of_locate (hloc'.trans hloc) hfile, read_of_locate hloc hentry]
      simp
    | dir mode =>
      have hdir : t.isDirAt loc = true := isDirAt_iff.mpr ⟨mode, hentry⟩
      rw [read_of_dir (hloc'.trans hloc) (by rw [h.isDirAt_eq, hdir]), read_of_dir hloc hdir]
    | link target => exact absurd hentry (hp.noLinks loc target)

end FileTree

namespace Source

lemma decode_of_wanted {m : ReadMode} {data : Bytes} {d : m.Data} (h : wanted sel m data = some d) :
    m.decode data = .ok d := by
  unfold wanted at h
  cases hd : m.decode data with
  | error u => rw [hd] at h; cases h
  | ok d' =>
    rw [hd] at h
    dsimp only at h
    split at h
    · cases h
    · rw [Option.some.inj h]

lemma cr_notMem_of_wanted {data : Bytes} (h : wanted sel .text data = some s) : '\r' ∉ s := by
  have hd := decode_of_wanted h
  rw [ReadMode.decode] at hd
  cases hdec : Text.decodeUtf8 data with
  | error u => rw [hdec] at hd; cases hd
  | ok x =>
    rw [hdec] at hd
    cases hd
    exact Text.cr_notMem_unifyNewlines x

end Source

namespace SourceWalk

/-- The fault with which a walk ends that does not get past a stop. -/
def Stop.obstacle? (t : FileTree) : Stop → Option Fault
  | .note _ => none
  | .fault g => some g
  | .source src =>
    match t.read src.path with
    | .error problem => some (.path problem src.path)
    | .ok _ => none

lemma obstacle?_source_eq_some_iff {src : Source} {g : Fault} : (Stop.source src).obstacle? t = some g ↔
    ∃ problem, t.read src.path = .error problem ∧ g = .path problem src.path := by
  cases hread : t.read src.path <;> simp [Stop.obstacle?, hread, @eq_comm _ g]

lemma obstacle?_sameShape (hp : t.Plain) (h : t.SameShape t') : Stop.obstacle? t' = Stop.obstacle? t := by
  funext stop
  cases stop with
  | note message => rfl
  | fault g => rfl
  | source src =>
    refine Option.ext fun g => ?_
    simp only [obstacle?_source_eq_some_iff, h.read_error hp]

/-- The stops up to the first obstacle. -/
def passed (t : FileTree) (stops : List Stop) : List Stop :=
  stops.takeWhile fun stop => (stop.obstacle? t).isNone

/-- How a walk past the stops ends. -/
def ending (t : FileTree) (stops : List Stop) : Except Fault Unit :=
  (stops.findSome? (Stop.obstacle? t)).elim (.ok ()) .error

section

variable {done rest : List Stop} {stop : Stop} {g : Fault} (hdone : ∀ stop ∈ done, stop.obstacle? t = none)

include hdone

lemma passed_of_clear : passed t done = done :=
  List.takeWhile_eq_self_iff.mpr fun stop hstop => by rw [hdone stop hstop]; rfl

lemma ending_of_clear : ending t done = .ok () := by
  rw [ending, List.findSome?_eq_none_iff.mpr hdone]
  rfl

lemma passed_append (h : stop.obstacle? t = some g) : passed t (done ++ stop :: rest) = done := by
  rw [passed, List.takeWhile_append_of_pos fun stop hstop => by rw [hdone stop hstop]; rfl,
    List.takeWhile_cons_of_neg (by rw [h]; exact Bool.false_ne_true), List.append_nil]

lemma ending_append (h : stop.obstacle? t = some g) : ending t (done ++ stop :: rest) = .error g := by
  rw [ending, List.findSome?_append, List.findSome?_eq_none_iff.mpr hdone, Option.none_or,
    List.findSome?_cons, h]
  rfl

end

lemma ending_cases (t : FileTree) (sel : Selection) (path : String) :
    ending t (stops t sel path) = .ok () ∧ passed t (stops t sel path) = stops t sel path ∧
      (∀ g, ¬Obstacle t sel path g) ∨
    ∃ g, ending t (stops t sel path) = .error g ∧ Obstacle t sel path g := by
  rw [ending]
  cases hfind : (stops t sel path).findSome? (Stop.obstacle? t) with
  | none =>
    have hall := List.findSome?_eq_none_iff.mp hfind
    refine .inl ⟨rfl, passed_of_clear hall, ?_⟩
    rintro g (hg | ⟨src, hsrc, hbad⟩)
    · cases hall _ hg
    · have hnone := hall _ (mem_sources.mp hsrc)
      rw [obstacle?_source_eq_some_iff.mpr hbad] at hnone
      cases hnone
  | some g =>
    obtain ⟨stop, hstop, hg⟩ := List.exists_of_findSome?_eq_some hfind
    refine .inr ⟨g, rfl, ?_⟩
    cases stop with
    | note message => cases hg
    | fault g' =>
      cases hg
      exact .inl hstop
    | source src => exact .inr ⟨src, mem_sources.mpr hstop, obstacle?_source_eq_some_iff.mp hg⟩

lemma ends_sameShape (hp : t.Plain) (h : t.SameShape t') (sel : Selection) (path : String) :
    ending t' (stops t' sel path) = ending t (stops t sel path) ∧
      passed t' (stops t' sel path) = passed t (stops t sel path) := by
  unfold ending passed
  rw [stops_congr rfl rfl (sameView hp h) path, obstacle?_sameShape hp h]
  exact ⟨rfl, rfl⟩

end SourceWalk

namespace Rewriter

variable {a : Rewriter} {backup : Setting} {formatters : String → Option Formatter} {done : List Stop}
  {srcs : List Source} {src : Source} {data : Bytes} {mode : Nat}

lemma Chosen.text_unique {srcs' : List Source} {s' : Text} (h : Chosen t sel srcs loc s)
    (h' : Chosen t sel srcs' loc s') : s = s' := by
  obtain ⟨-, -, -, data, mode, hf, hs⟩ := h
  obtain ⟨-, -, -, data', mode', hf', hs'⟩ := h'
  cases hf.symm.trans hf'
  exact Option.some.inj (hs.symm.trans hs')

lemma InOrder.clear {o : Option String} {v : World} (h : a.InOrder o w sel path done () v) :
    ∀ stop ∈ done, stop.obstacle? w.tree = none := by
  intro stop hstop
  cases stop with
  | note message => rfl
  | fault g => exact absurd hstop (h.noFault g)
  | source src =>
    obtain ⟨data, hread⟩ := h.wrote.read src (mem_sources.mpr hstop)
    rw [Stop.obstacle?, hread]

/-- The bytes that a source gets are made of its text alone. -/
def Gives (a : Rewriter) (out : Text → Bytes) : Prop :=
  ∀ formatters src s, a.bytes? formatters src s = some (out s)

/-- A tree in which the given sources have been written in their places. -/
structure Renewed (a : Rewriter) (out : Text → Bytes) (t : FileTree) (sel : Selection) (srcs : List Source)
    (t' : FileTree) : Prop where
  shape : t.SameShape t'
  new : ∀ loc s data mode, Chosen t sel srcs loc s → t.get? loc = some (.file data mode) →
    t'.get? loc = some (.file (out s) (a.mode (writtenMode mode)))
  others : ∀ loc, (∀ s, ¬Chosen t sel srcs loc s) → t'.get? loc = t.get? loc

lemma Rewrote.renewed {out : Text → Bytes} (h : a.Rewrote formatters none t sel path srcs t')
    (hgives : a.Gives out) : a.Renewed out t sel srcs t' := by
  refine ⟨h.shape rfl, fun loc s data mode hchosen hfile => ?_, fun loc hnone => ?_⟩
  · obtain ⟨src, hsrc, hloc, data', mode', hfile', hwant⟩ := hchosen
    cases hfile.symm.trans hfile'
    obtain ⟨bytes, hbytes, hnew⟩ := h.new src hsrc loc data mode s ⟨hloc, hfile, hwant⟩
    cases (hgives _ _ _).symm.trans hbytes
    exact hnew
  · exact h.others loc (fun loc' s hchosen heq => hnone s (heq ▸ hchosen)) fun e he => by cases he

section

variable {out : Text → Bytes} (hgives : a.Gives out) (hbackup : backup.isOn = false)
  (hsel : sel.skippedData.mode = .text) (hp : w.tree.Plain)

include hgives hbackup hsel hp

/-- A walk that gives each source the bytes made of its text writes up to the first obstacle, which ends
it. -/
theorem run_fold_in_place (path : String) :
    ∃ w', (fold sel (.text path) () (a.visitor sel backup)).run w =
        (ending w.tree (stops w.tree sel path), w') ∧ w'.setup = w.setup ∧
      a.Renewed out w.tree sel (sources (passed w.tree (stops w.tree sel path))) w'.tree := by
  let E : Fault → World → Prop := fun g v => ending w.tree (stops w.tree sel path) = .error g ∧
    a.InOrder none w sel path (passed w.tree (stops w.tree sel path)) () v
  have hend : ∀ {done stop rest g v}, stops w.tree sel path = done ++ stop :: rest →
      a.InOrder none w sel path done () v → stop.obstacle? w.tree = some g → E g v := by
    intro done stop rest g v hall hI hstop
    refine ⟨hall ▸ ending_append hI.clear hstop, ?_⟩
    rwa [hall, passed_append hI.clear hstop]
  have hasks : Asks backup none := hbackup
  have hvisits := visits_inOrder (a := a) hasks hsel apart_none.clear hp (E := E)
    (fun hall hI => hend hall hI rfl)
    (fun hall hI _ hunready => by
      rcases hunready with ⟨problem, hread, hg, rfl⟩ | ⟨loc, data, mode, s, -, hnot⟩
      · exact hend hall hI (obstacle?_source_eq_some_iff.mpr ⟨problem, hread, hg⟩)
      · exact absurd ⟨by rw [hgives]; rfl, fun e he => by cases he⟩ hnot)
    fun _ _ hstir => absurd (fun e he => by cases he) hstir
  rcases hvisits.fold_lands hp (InOrder.nil hp) with ⟨⟨⟩, w', hrun, hI⟩ | ⟨g, w', hrun, hg, hI⟩
  · refine ⟨w', by rw [hrun, ending_of_clear hI.clear], hI.setup, ?_⟩
    rw [passed_of_clear hI.clear]
    exact hI.wrote.renewed hgives
  · exact ⟨w', by rw [hrun, hg], hI.setup, hI.wrote.renewed hgives⟩

lemma renewed_of_fold {r : Except Fault Unit}
    (hrun : (fold sel (.text path) () (a.visitor sel backup)).run w = (r, w')) :
    r = ending w.tree (stops w.tree sel path) ∧
      a.Renewed out w.tree sel (sources (passed w.tree (stops w.tree sel path))) w'.tree := by
  obtain ⟨v, hfold, -, hnew⟩ := run_fold_in_place hgives hbackup hsel hp path
  cases hrun.symm.trans hfold
  exact ⟨rfl, hnew⟩

lemma fold_ends {r : Except Fault Unit}
    (hrun : (fold sel (.text path) () (a.visitor sel backup)).run w = (r, w')) :
    (r = .ok () ↔ ∀ g, ¬Obstacle w.tree sel path g) ∧
      (r = .ok () → a.Renewed out w.tree sel (sources (stops w.tree sel path)) w'.tree) := by
  obtain ⟨rfl, hnew⟩ := renewed_of_fold hgives hbackup hsel hp hrun
  rcases ending_cases w.tree sel path with ⟨hend, hall, hno⟩ | ⟨g, hend, hg⟩
  · exact ⟨iff_of_true hend hno, fun _ => hall ▸ hnew⟩
  · have hnot : ending w.tree (stops w.tree sel path) ≠ .ok () := by
      rw [hend]
      exact fun hok => by cases hok
    exact ⟨iff_of_false hnot fun hno => hno g hg, fun hok => absurd hok hnot⟩

end

end Rewriter

end SourceTidy
