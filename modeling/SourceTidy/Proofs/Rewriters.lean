import SourceTidy.Proofs.AlikeRuns
import SourceTidy.Proofs.FixedText
import SourceTidy.Proofs.FoundFiles
import SourceTidy.Proofs.SameDirs
import SourceTidy.Updater

/-!
# Rewriters

Fixers and updaters write sources anew. A rewriter says what is common to them: the bytes that it
gives a source depend on the text of the source and the installed formatters only, and it changes
nothing but the place of the source.
-/

namespace SourceTidy

open Session Text World Formatting

namespace World

variable {w w' : World}

lemma formatters_eq_of_frame (h : w'.frame = w.frame) : w'.formatters = w.formatters :=
  (congrArg formatters h :)

/-- What is left of a world without its tree, the log and the record of calls. -/
def setup (w : World) : World := { w.frame with tree := {} }

lemma setup_eq_of_frame (h : w'.frame = w.frame) : w'.setup = w.setup := by rw [setup, h, setup]

@[simp] lemma logged_setup (w : World) (level : Level) (message : String) :
    (w.logged level message).setup = w.setup :=
  setup_eq_of_frame (logged_frame w level message)

lemma formatters_eq_of_setup (h : w'.setup = w.setup) : w'.formatters = w.formatters :=
  (congrArg formatters h :)

end World

namespace Session

variable {α β : Type} {w : World}

/-- A session that returns the given answer, or fails where there is none. It changes nothing but the
log and the record of calls. -/
def Answers (x : Session α) (w : World) (answer : Option α) : Prop :=
  ∃ w', w'.frame = w.frame ∧
    ((∃ a, answer = some a ∧ x.run w = (.ok a, w')) ∨ answer = none ∧ ∃ g, x.run w = (.error g, w'))

namespace Answers

protected lemma pure (a : α) (w : World) : Answers (pure a) w (some a) :=
  ⟨w, rfl, .inl ⟨a, rfl, rfl⟩⟩

protected lemma throw (f : Fault) (w : World) : Answers (throw f : Session α) w none :=
  ⟨w, rfl, .inr ⟨rfl, f, rfl⟩⟩

protected lemma lift (r : Except Fault α) (w : World) : Answers (lift r) w r.toOption := by
  cases r with
  | error f => exact .throw f w
  | ok a => exact .pure a w

protected lemma bind {x : Session α} {g : α → Session β} {a : Option α} {b : α → Option β}
    (hx : Answers x w a) (hg : ∀ a w', w'.frame = w.frame → Answers (g a) w' (b a)) :
    Answers (x >>= g) w (a.bind b) := by
  obtain ⟨v, hv, ⟨a, rfl, hrun⟩ | ⟨rfl, f, hrun⟩⟩ := hx
  · obtain ⟨w', hw', hcase⟩ := hg a v hv
    exact ⟨w', hw'.trans hv, by rwa [run_bind_ok hrun]⟩
  · exact ⟨v, hv, .inr ⟨rfl, f, run_bind_error hrun g⟩⟩

end Answers

end Session

namespace Fixer

open Session (Answers)

def program? : Setting → Option String
  | .text name => some name
  | _ => none

def output? : FormatterReply → Option Bytes
  | .done code output => if code = 0 then some output else none
  | .interrupted => none

/-- What the formatting program makes of the text of a source, if it is to be formatted. -/
def formatted? (f : Fixer) (formatters : String → Option Formatter) (src : Source) (s : Text) : Option Text :=
  if f.formatter.isOn && isCode src.name then do
    let name ← program? f.formatter
    let formatter ← formatters name
    let output ← output? (formatter.format [name, "-assume-filename=" ++ src.path, "-style=file"]
      (encode s))
    (decodeUtf8 output).toOption
  else some s

lemma answers_programName (v : Setting) (w : World) : Answers (Formatting.programName v) w (program? v) := by
  cases v with
  | scalar v =>
    cases v with
    | text name => exact .pure name w
    | _ => exact .throw _ w
  | list members => exact .throw _ w
  | record fields => exact .throw _ w

lemma answers_call (command : List String) (input : Option Bytes) (w : World) :
    Answers (call command input) w (w.formatters (command.headD "")) := by
  refine ⟨{ w with calls := w.calls ++ [⟨command, input⟩] }, rfl, ?_⟩
  have hmodify : (modify fun w => { w with calls := w.calls ++ [⟨command, input⟩] } : Session Unit).run w =
      (.ok (), { w with calls := w.calls ++ [⟨command, input⟩] }) := rfl
  rw [call, run_bind_ok hmodify, run_bind_ok (run_get _)]
  dsimp only
  cases w.formatters (command.headD "") with
  | none => exact .inr ⟨rfl, _, rfl⟩
  | some formatter => exact .inl ⟨formatter, rfl, rfl⟩

/-- The exit code and the output of a formatter that was not interrupted. -/
def ended? : FormatterReply → Option (Int × Bytes)
  | .done code output => some (code, output)
  | .interrupted => none

lemma answers_reply (r : FormatterReply) (w : World) : Answers (reply r) w (ended? r) := by
  cases r with
  | done code output => exact .pure _ w
  | interrupted => exact .throw _ w

lemma answers_check (r : Run) (w : World) : Answers r.check w (if r.code = 0 then some () else none) := by
  unfold Run.check
  by_cases hcode : r.code = 0
  · rw [if_pos hcode, if_neg (by simpa using hcode)]
    exact .pure () w
  · rw [if_neg hcode, if_pos (by simpa using hcode)]
    exact .throw _ w

lemma answers_formatText {f : Fixer} (src : Source) (s : Text) (w : World) :
    Answers (f.formatText src s) w (do
      let name ← program? f.formatter
      let formatter ← w.formatters name
      let output ← output? (formatter.format [name, "-assume-filename=" ++ src.path, "-style=file"]
        (encode s))
      (decodeUtf8 output).toOption) := by
  have hformat : Answers (format f.formatter src.path (encode s)) w
      ((program? f.formatter).bind fun name => (w.formatters name).bind fun formatter =>
        (ended? (formatter.format [name, "-assume-filename=" ++ src.path, "-style=file"]
          (encode s))).bind fun q =>
            some ⟨[name, "-assume-filename=" ++ src.path, "-style=file"], q.1, q.2⟩) := by
    refine (answers_programName f.formatter w).bind fun name v hv => ?_
    have hcall := answers_call [name, "-assume-filename=" ++ src.path, "-style=file"]
      (some (encode s)) v
    rw [World.formatters_eq_of_frame hv] at hcall
    exact hcall.bind fun formatter v' _ => (answers_reply _ v').bind fun q v'' _ => .pure _ v''
  have hall := hformat.bind fun run v _ => (answers_check run v).bind fun _ v' _ =>
    Answers.lift ((decodeUtf8 run.output).mapError .undecodable) v'
  refine Eq.mp (congrArg _ ?_) hall
  cases program? f.formatter with
  | none => rfl
  | some name =>
    simp only [Option.bind_eq_bind, Option.bind_some]
    cases w.formatters name with
    | none => rfl
    | some formatter =>
      simp only [Option.bind_some]
      cases formatter.format [name, "-assume-filename=" ++ src.path, "-style=file"] (encode s) with
      | interrupted => rfl
      | done code output =>
        simp only [output?, ended?, Option.bind_some]
        by_cases hcode : code = 0
        · rw [if_pos hcode, if_pos hcode, Option.bind_some, Option.bind_some]
          cases decodeUtf8 output <;> rfl
        · rw [if_neg hcode, if_neg hcode]
          rfl

lemma answers_formatted (f : Fixer) (src : Source) (s : Text) (w : World) :
    Answers (if f.formatter.isOn && isCode src.name then f.formatText src s else pure s) w
      (f.formatted? w.formatters src s) := by
  unfold formatted?
  split
  · exact answers_formatText src s w
  · exact .pure s w

end Fixer

/-- The permission bits of a file that is written where an entry stands, or nothing. -/
def modeWritten : Option Entry → Nat
  | some (.file _ mode) => writtenMode mode
  | _ => newFileMode

lemma FileTree.write_of_locate {t : FileTree} {path : String} {loc : Location}
    (hloc : Path.locate t .create path = .ok loc) (hnot : t.isDirAt loc = false) (data : Bytes) :
    t.write path data = .ok (t.putFile loc data (modeWritten (t.get? loc))) := by
  unfold FileTree.write FileTree.putFile
  rw [hloc, ok_bind]
  cases he : t.get? loc with
  | none => rfl
  | some e =>
    cases e with
    | file data' mode => rfl
    | dir mode =>
      rw [FileTree.isDirAt_iff.mpr ⟨mode, he⟩] at hnot
      cases hnot
    | link target => rfl

def World.putFile (w : World) (loc : Location) (data : Bytes) (mode : Nat) : World :=
  { w with tree := w.tree.putFile loc data mode }

lemma Session.run_writeFile {w : World} {path name : String} {dir : Location} (hp : w.tree.Plain)
    (h : Path.LeadsTo w.tree path name dir) (hplace : w.tree.Place name dir) (data : Bytes) :
    (writeFile path data).run w =
      (.ok (), w.putFile (name :: dir) data (modeWritten (w.tree.get? (name :: dir)))) :=
  run_change_ok (FileTree.write_of_locate (h.locate_create hp hplace) hplace.notDir data)

/-- A way to write sources anew. -/
structure Rewriter where
  /-- Writes a source with the given text. -/
  act : Source → Text → Session Unit
  /-- The bytes that a source with the given text gets. -/
  bytes? : (String → Option Formatter) → Source → Text → Option Bytes
  /-- What is made of the permission bits when the source has been written. -/
  mode : Nat → Nat
  mode_new : mode newFileMode = newFileMode
  run_act : ∀ {w : World} {src : Source} {name : String} {dir : Location} (s : Text), w.tree.Plain →
    src.knownMode = none → Path.LeadsTo w.tree src.path name dir → w.tree.Place name dir →
    ∃ w', w'.setup = w.setup ∧
      ((∃ bytes, bytes? w.formatters src s = some bytes ∧ (act src s).run w = (.ok (), w') ∧
          w'.tree = w.tree.putFile (name :: dir) bytes
            (mode (modeWritten (w.tree.get? (name :: dir))))) ∨
        bytes? w.formatters src s = none ∧ ∃ g, (act src s).run w = (.error g, w') ∧
          (w'.tree = w.tree ∨ ∃ data m, w'.tree = w.tree.putFile (name :: dir) data m))

def Updater.rewritten? (u : Updater) (s : Text) : Option Bytes :=
  (CodePoint.toText (u.updateText s)).toOption.map encode

def Updater.rewriter (u : Updater) : Rewriter where
  act := u.updateSource
  bytes? _ _ := u.rewritten?
  mode := id
  mode_new := rfl
  run_act := by
    intro w src name dir s hp _ hpath hplace
    rw [Updater.updateSource, run_bind_ok (run_log _ _ _)]
    generalize hv : w.logged .debug ("updating " ++ quote src.path) = v
    have htree : v.tree = w.tree := by rw [← hv, logged_tree]
    have hsetup : v.setup = w.setup := by rw [← hv, logged_setup]
    rw [← htree] at hp hpath hplace ⊢
    unfold Updater.rewritten?
    cases hs : CodePoint.toText (u.updateText s) with
    | ok s' =>
      have hwrite := run_writeFile hp hpath hplace (encode s')
      exact ⟨v.putFile _ _ _, hsetup, .inl ⟨_, rfl, hwrite, rfl⟩⟩
    | error problem =>
      have hwrite := run_writeFile hp hpath hplace []
      exact ⟨v.putFile _ _ _, hsetup, .inr ⟨rfl, _, run_bind_ok hwrite _, .inr ⟨_, _, rfl⟩⟩⟩

def World.put (w : World) (loc : Location) (e : Entry) : World := { w with tree := w.tree.put loc e }

namespace Fixer

def finalMode (f : Fixer) (mode : Nat) : Nat :=
  if f.mode.isOn && Source.isExecutable mode then mode ^^^ executableBits else mode

def lineBytes? (f : Fixer) (s : Text) : Option Bytes := do
  let terminator ← f.eol.characters.toOption
  let e ← Eol.ofTerminator? terminator
  return encode (writeNewlines e.terminator.toList s)

def rewritten? (f : Fixer) (fixes : List LineFix) (formatters : String → Option Formatter) (src : Source)
    (s : Text) : Option Bytes :=
  (f.formatted? formatters src (f.fixText fixes s)).bind f.lineBytes?

variable {f : Fixer} {w : World} {src : Source} {name : String} {dir : Location}

lemma run_keepOld {backup : Setting} (h : backup.isOn = false) (path : String) :
    (keepOld backup path).run w = (.ok (), w) := by
  unfold keepOld
  rw [h]
  rfl

lemma run_fixMode {loc : Location} {data : Bytes} {mode : Nat} (hloc : Path.locate w.tree .follow src.path = .ok loc)
    (hf : w.tree.get? loc = some (.file data mode)) :
    (fixMode src).run w = (.ok (), if Source.isExecutable (src.knownMode.getD mode) then
      w.put loc (.file data (src.knownMode.getD mode ^^^ executableBits)) else w) := by
  have hmode : src.mode.run w = (.ok (src.knownMode.getD mode), w) := by
    unfold Source.mode
    cases src.knownMode with
    | some m => rfl
    | none =>
      have hq : (query src.path (·.entry src.path)).run w = (.ok (.file data mode), w) := by
        rw [run_query, FileTree.entry_of_locate hloc hf]
        rfl
      rw [run_bind_ok hq]
      rfl
  rw [fixMode, run_bind_ok hmode]
  split
  · refine run_change_ok ?_
    unfold FileTree.setMode
    rw [hloc]
    simp [bind, Except.bind, hf]
  · rfl

lemma run_writeText_cases (hp : w.tree.Plain) (hpath : Path.LeadsTo w.tree src.path name dir)
    (hplace : w.tree.Place name dir) (s : Text) :
    (∃ bytes, f.lineBytes? s = some bytes ∧ (f.writeText src.path s).run w =
      (.ok (), w.putFile (name :: dir) bytes (modeWritten (w.tree.get? (name :: dir))))) ∨
    f.lineBytes? s = none ∧ ∃ g w', (f.writeText src.path s).run w = (.error g, w') ∧
      (w' = w ∨ ∃ data m, w' = w.putFile (name :: dir) data m) := by
  rw [writeText, run_bind, run_lift, lineBytes?]
  cases f.eol.characters with
  | error g => exact .inr ⟨rfl, g, w, rfl, .inl rfl⟩
  | ok terminator =>
    simp only [Except.toOption, Option.bind_eq_bind, Option.bind_some]
    cases Eol.ofTerminator? terminator with
    | some e =>
      have hwrite := run_writeFile hp hpath hplace
        (encode (writeNewlines e.terminator.toList s))
      exact .inl ⟨_, rfl, hwrite⟩
    | none =>
      have hwrite := run_writeFile hp hpath hplace []
      exact .inr ⟨rfl, _, _, run_bind_ok hwrite _, .inr ⟨_, _, rfl⟩⟩

lemma run_fixMode_of_written (hp : w.tree.Plain) (hknown : src.knownMode = none)
    (hpath : Path.LeadsTo w.tree src.path name dir) (hplace : w.tree.Place name dir) (bytes : Bytes)
    (m : Nat) : ∃ w', w'.setup = w.setup ∧
      (if f.mode.isOn then fixMode src else pure ()).run (w.putFile (name :: dir) bytes m) =
        (.ok (), w') ∧
      w'.tree = w.tree.putFile (name :: dir) bytes (f.finalMode m) := by
  have hd : w.tree.SameDirs (w.putFile (name :: dir) bytes m).tree :=
    (FileTree.SameDirs.refl hp).putFile hplace bytes m
  have hfile : (w.putFile (name :: dir) bytes m).tree.get? (name :: dir) = some (.file bytes m) :=
    FileTree.get?_putFile_self _ (List.cons_ne_nil _ _) _ _
  have hloc := (hpath.sameDirs hp hd hplace.inDir).locate hd.plain .follow (by rw [hfile]; rfl)
  unfold finalMode
  cases f.mode.isOn with
  | false => exact ⟨w.putFile _ _ _, rfl, rfl, rfl⟩
  | true =>
    refine ⟨_, ?_, run_fixMode hloc hfile, ?_⟩
    · split <;> rfl
    · rw [hknown, Option.getD_none, Bool.true_and]
      split
      · exact FileTree.putFile_put _ _ _ _ _ _
      · rfl

/-- The steps of a fix: the text is formatted and written, and the permission bits are seen to. -/
lemma fixSource_eq (f : Fixer) (fixes : List LineFix) (src : Source) (s : Text) :
    f.fixSource fixes src s = log .debug ("fixing " ++ quote src.path) >>= fun _ =>
      (if f.formatter.isOn && isCode src.name then f.formatText src (f.fixText fixes s)
        else pure (f.fixText fixes s)) >>= fun s =>
      f.writeText src.path s >>= fun _ => if f.mode.isOn then fixMode src else pure () := by
  unfold fixSource
  dsimp only
  cases f.formatter.isOn && isCode src.name <;> rfl

def rewriter (f : Fixer) (fixes : List LineFix) : Rewriter where
  act := f.fixSource fixes
  bytes? := f.rewritten? fixes
  mode := f.finalMode
  mode_new := by
    unfold finalMode
    cases f.mode.isOn <;> rfl
  run_act := by
    intro w src name dir s hp hknown hpath hplace
    rw [fixSource_eq, run_bind_ok (run_log _ _ _)]
    generalize hv : w.logged .debug ("fixing " ++ quote src.path) = v
    have hframe : v.frame = w.frame := by rw [← hv, logged_frame]
    obtain ⟨v', hframe', hcase⟩ := answers_formatted f src (f.fixText fixes s) v
    have htree : v'.tree = w.tree := tree_eq_of_frame (hframe'.trans hframe)
    have hsetup : v'.setup = w.setup := setup_eq_of_frame (hframe'.trans hframe)
    rw [formatters_eq_of_frame hframe] at hcase
    unfold rewritten?
    rcases hcase with ⟨s', hs', hrun⟩ | ⟨hnone, g, hrun⟩
    · rw [hs', run_bind_ok hrun, Option.bind_some]
      rw [← htree] at hp hpath hplace ⊢
      rcases run_writeText_cases (f := f) hp hpath hplace s' with
        ⟨bytes, hbytes, hwrite⟩ | ⟨hnone, g, w', hwrite, hw'⟩
      · obtain ⟨w', hkept, hmode, htree'⟩ := run_fixMode_of_written (f := f) hp hknown hpath hplace bytes
          (modeWritten (v'.tree.get? (name :: dir)))
        exact ⟨w', hkept.trans hsetup, .inl ⟨bytes, hbytes, (run_bind_ok hwrite _).trans hmode, htree'⟩⟩
      · refine ⟨w', ?_, .inr ⟨hnone, g, run_bind_error hwrite _, ?_⟩⟩
        · rcases hw' with rfl | ⟨data, m, rfl⟩ <;> exact hsetup
        · rcases hw' with rfl | ⟨data, m, rfl⟩
          · exact .inl rfl
          · exact .inr ⟨data, m, rfl⟩
    · rw [hnone, run_bind_error hrun]
      exact ⟨v', hsetup, .inr ⟨rfl, g, rfl, .inl htree⟩⟩

end Fixer

end SourceTidy
