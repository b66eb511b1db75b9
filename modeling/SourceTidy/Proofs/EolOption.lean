import SourceTidy.Proofs.ConfiguredTools
import SourceTidy.Proofs.RereadLines
import SourceTidy.Proofs.SystemWords

/-!
# Line endings by name

A line ending can be asked for by its name, on the command line of the fixer and in a configuration. A
configuration hands the line ending to the fixer, and the command line only its name, which the fixer
does not take. So nothing is fixed when the option is given.
-/

namespace SourceTidy

open Config Patterns

namespace Session

variable {α β : Type}

def Fails (x : Session α) : Prop := ∀ w a w', x.run w ≠ (.ok a, w')

lemma Fails.lift {r : Except Fault α} (h : ∀ a, r ≠ .ok a) : Fails (lift r) := by
  intro w a w' hrun
  rw [run_lift] at hrun
  exact h a (Prod.mk.inj hrun).1

lemma Fails.bind {x : Session α} (h : Fails x) (g : α → Session β) : Fails (x >>= g) := by
  intro w b w' hrun
  obtain ⟨a, v, ha, -⟩ := run_bind_eq_ok hrun
  exact h w a v ha

lemma Fails.bind_right (x : Session α) {g : α → Session β} (h : ∀ a, Fails (g a)) : Fails (x >>= g) := by
  intro w b w' hrun
  obtain ⟨a, v, -, hb⟩ := run_bind_eq_ok hrun
  exact h a v b w' hb

end Session

lemma Eol.mem_byName {name : String} {e : Eol} (h : Eol.ofName? name = some e) : (name, e) ∈ Eol.byName := by
  obtain ⟨before, after, hnames, -⟩ := List.lookup_eq_some_iff.mp h
  rw [hnames]
  exact List.mem_append_right _ List.mem_cons_self

lemma Setting.toEol_name {name : String} {e : Eol} (h : Eol.ofName? name = some e) :
    (Setting.text name).toEol = .error (.value (.notEol (.text name))) := by
  have hall : ∀ x ∈ Eol.byName, (Setting.text x.1).toEol = .error (.value (.notEol (.text x.1))) := by
    decide
  exact hall _ (Eol.mem_byName h)

lemma Fixer.ofOptions_eq_error {options : Options} {p : Patterns} {n : Int} {f : Fault}
    (hknown : options.map Prod.fst ⊆ optionNames) (htabs : options.get "tabsize" (.int 4) = .int n)
    (heol : (options.get "eol" (.eol .native)).toEol = .error f) : ofOptions options p = .error f := by
  rw [ofOptions, Options.check_of_known hknown, ok_bind, htabs, heol]
  rfl

namespace Program

open Request Session Grammar

variable {w : World} {line line' : List String} {values values' : Values} {ini : Ini} {p : Patterns}
  {name : String} {e : Eol}

section

variable (hname : values.value "eol" = .text name) (he : Eol.ofName? name = some e)

include hname he

lemma fixer_ne_ok (formatter : Setting) (p : Patterns) (f : Fixer) : fixer values formatter p ≠ .ok f := by
  intro h
  obtain ⟨_, _, h⟩ := bind_eq_ok h
  obtain ⟨_, _, h⟩ := bind_eq_ok h
  obtain ⟨e', heol, _⟩ := bind_eq_ok h
  change (values.value "eol").toEol = .ok e' at heol
  rw [hname, Setting.toEol_name he] at heol
  cases heol

lemma fails_equip (p : Patterns) : Fails (equip .fix values p) :=
  .bind_right _ fun _ => .bind_right _ fun _ => .bind_right _ fun formatter =>
    .bind (.lift (fixer_ne_ok hname he formatter _)) _

end

lemma eol_assigned {v : Values} (h : readProgram w.year true ("fix" :: line) = .ok (.fix, v))
    (hname : (withLevel v).value "eol" = .text name) :
    "eol" ∈ (commandGrammar w.year .fix).assigned line := by
  by_contra hnot
  have hungiven : ∀ a ∈ (commandGrammar w.year .fix).given line, a.target ≠ "eol" :=
    fun a ha hta => hnot (hta ▸ List.mem_map_of_mem (List.mem_append_left _ ha))
  rw [value_of_ungiven (c := .fix) h (by decide) (by decide) hungiven, initialValues_commandGrammar]
    at hname
  cases hname

lemma prepare_ne_ok (h : request (plainCall .fix line) w.year = .ok (.fix, values))
    (hname : values.value "eol" = .text name) (he : Eol.ofName? name = some e) (x : Exit ⊕ Task)
    (w' : World) : (prepare (plainCall .fix line) .fix values).run (started w) ≠ (.ok x, w') := by
  intro hrun
  obtain ⟨v, hv, rfl⟩ := request_eq_ok_iff.mp h
  obtain ⟨_, u, hlevel, hmain⟩ := run_bind_eq_ok hrun
  have hyear : u.year = w.year := by
    cases hn : levelOf ((withLevel v).value "loglevel") with
    | error f => cases (run_setLevel_error hn _).symm.trans hlevel
    | ok n =>
      cases (run_setLevel_ok hn _).symm.trans hlevel
      rfl
  split at hmain
  · obtain ⟨task, _, hequip, _⟩ := run_bind_eq_ok hmain
    exact fails_equip hname he _ _ _ _ hequip
  · obtain ⟨result, u', hconfigure, htask⟩ := run_bind_eq_ok hmain
    obtain ⟨ini, p, known, -, -, hknown, hwords⟩ := configure_eq_ok hconfigure
    obtain ⟨values', hread, hsame⟩ := read_known_assigned hv
      (proper_commandOptions (c := .fix) hknown)
      (lookup_leftTarget_commandOptions (c := .fix) hknown) (eol_assigned hv hname)
    rw [hyear] at hwords
    rcases hwords with ⟨_, hexit, _⟩ | ⟨c', values'', hok, rfl⟩
    · cases hread.symm.trans hexit
    · cases hread.symm.trans hok
      obtain ⟨task, _, hequip, _⟩ := run_bind_eq_ok htask
      have hname' : values'.value "eol" = .text name := by
        rw [Values.value, hsame]
        exact hname
      exact fails_equip hname' he _ _ _ _ hequip

lemma leaves_prepare (call : Call) (c : Command) (values : Values) :
    Leaves World.tree (prepare call c values) := by
  have hlevel : ∀ v, Leaves World.tree (setLevel v) := by
    intro v
    rw [setLevel_eq]
    exact .bind (.lift _) fun n => .modify fun _ => rfl
  have hequip := leaves_equip World.logged_tree (fun _ _ => rfl)
  have hread : ∀ path, Leaves World.tree (readConfig path) := by
    intro path
    unfold readConfig
    split
    · exact .bind (.query _ _) fun _ => .lift _
    · exact .throw _
  have hconfigure : ∀ path, Leaves World.tree (configure call c path) := by
    refine fun path => .bind (hread path) fun ini => .bind (.lift _) fun p => .bind (.lift _)
      fun known => .get_bind fun w => ?_
    split
    · exact .pure _
    · exact .throw _
    · exact .bind (hlevel _) fun _ => .pure _
  refine .bind (hlevel _) fun _ => ?_
  split
  · exact .bind (hequip c values _) fun _ => .pure _
  · refine .bind (hconfigure _) fun result => ?_
    split
    · exact .pure _
    · exact .bind (hequip _ _ _) fun _ => .pure _

lemma execute_of_prepare_fault {call : Call} {c : Command} {f : Fault} {w' : World}
    (hrequest : request call w.year = .ok (c, values))
    (hprepare : (prepare call c values).run (started w) = (.error f, w')) :
    (execute call w).ending = .returned (exitCode f) ∧ (execute call w).world.tree = w.tree := by
  have hobey : (obey call c values).run (started w) = (.error f, w') := by
    rw [obey, run_bind_error hprepare]
  have htree : w'.tree = w.tree := by
    have hleaves := leaves_prepare call c values (started w)
    rw [hprepare] at hleaves
    exact hleaves
  rw [execute_of_obey_fault hrequest hobey]
  exact ⟨rfl, (reported_tree _ _).trans htree⟩

lemma run_prepare_eol (h : request (plainCall .fix line) w.year = .ok (.fix, values))
    (hname : values.value "eol" = .text name) (he : Eol.ofName? name = some e)
    (hline : ∀ a ∈ (commandGrammar w.year .fix).given line, a.target = "eol") :
    (prepare (plainCall .fix line) .fix values).run (started w) =
      (.error (.value (.notEol (.text name))), ready w Level.info.number usual) := by
  have hline' := fun a ha => List.mem_singleton.mpr (hline a ha)
  obtain ⟨hconfig, hundemanding⟩ := undemanding_of_line h hline' (by decide)
  have hvalue := fun {t} => value_of_line (t := t) h hline'
  have hn : levelOf (values.value "loglevel") = .ok Level.info.number := by
    rw [hvalue (by decide)]
    rfl
  have htabs : values.value "tabsize" = .int 4 := by
    rw [hvalue (by decide)]
    rfl
  have hfixer : fixer values (.flag false) usual =
      .error (.value (.notEol (.text name))) := by
    refine Fixer.ofOptions_eq_error ?_ htabs ?_
    · exact (by decide : (["clang_format", "tabsize", "fix_trailing", "fix_eof", "fix_mode", "eol",
        "backup_ext"] : List String) ⊆ Fixer.optionNames)
    · exact (congrArg Setting.toEol hname).trans (Setting.toEol_name he)
  rw [prepare, run_bind_ok (run_setLevel_ok hn _), hconfig]
  exact run_bind_error (run_equip_fix hundemanding hfixer) _

/-- A configuration that names the line ending for the fixer and says nothing else on it, with the
usual patterns. -/
structure SetsEol (ini : Ini) (name : String) : Prop where
  hasSection : ini.hasSection "fix" = true
  eol : value ini "fix" "eol" = .ok name
  only : ∀ option, option ≠ "eol" → ini.hasOption "fix" option = false
  patterns : patterns ini = .ok usual

lemma SetsEol.optional_eq (h : SetsEol ini name) (he : Eol.ofName? name = some e)
    {r : Config.Reader} (hr : r ∈ Config.readers .fix) :
    Config.optional ini "fix" r = .ok (if r.1 = "eol" then some (.eol e) else none) := by
  have hupper : ∀ x ∈ Eol.byName, Text.str (Text.toUpper x.1.toList) = x.1 := by decide
  have heol : Config.eol ini "fix" "eol" = .ok (.eol e) := by
    unfold Config.eol
    rw [h.eol, ok_bind]
    dsimp only
    rw [hupper _ (Eol.mem_byName he), he]
    rfl
  by_cases hname : r.1 = "eol"
  · obtain rfl : r = ("eol", Config.eol) := by
      simp only [Config.readers_fix, Config.sharedReaders, List.cons_append, List.nil_append,
        List.mem_cons, List.not_mem_nil, or_false] at hr
      rcases hr with rfl | rfl | rfl | rfl | rfl
      · exact absurd hname (by decide)
      · rfl
      all_goals exact absurd hname (by decide)
    rw [Config.optional, if_pos (hasOption_of_value h.eol)]
    dsimp only
    rw [heol]
    rfl
  · rw [Config.optional, h.only r.1 hname, if_neg Bool.false_ne_true, if_neg hname]

lemma SetsEol.fixEnds (h : SetsEol ini name) (he : Eol.ofName? name = some e)
    (hconfigured : Configured w .fix line values ini)
    (hline : ∀ a ∈ (commandGrammar w.year .fix).given line, a.target = "config") {level : Option Nat}
    (hlevel : Config.level true ini = .ok level) : FixEnds (execute (plainCall .fix line) w)
      ((fixPaths { eol := .eol e, patterns := usual } (paths values)).run
        (ready w (level.getD Level.info.number) Patterns.usual)) := by
  have hkept : keptOption ini .fix = .ok [] := by
    change backup ini "fix" = .ok []
    rw [backup, h.only "backup" (by decide)]
    rfl
  obtain ⟨known, hknown⟩ := exists_commandOptions (c := .fix) (by decide) h.hasSection
    (fun r hr => ⟨_, h.optional_eq he hr⟩) hkept hlevel
  have hget : ∀ t ∈ (readers .fix).map Prod.fst,
      known.lookup t = if t = "eol" then some (.eol e) else none := by
    refine List.forall_mem_map.mpr fun r hr => ?_
    have hread := lookup_commandOptions (c := .fix) hknown h.hasSection hr
    exact Except.ok.inj (hread.symm.trans (h.optional_eq he hr))
  have hunknown : ∀ t ∈ ["fix_eof", "backup"], known.lookup t = none := by
    intro t ht
    refine lookup_commandOptions_of_notMem (c := .fix) hknown ?_
    revert t
    decide
  have honly : ConfiguredOnly w .fix line values ini usual known level :=
    ⟨hconfigured, hline, h.patterns, hknown, hlevel,
      by rw [hget _ (by decide), if_neg (by decide)]; decide⟩
  have hcomes := honly.comes_fix (n := 4) (e := e) (by rw [Options.get, hget _ (by decide)]; rfl)
    (by rw [Options.get, hget _ (by decide)]; rfl)
  have hends := fixEnds_of_comes hcomes
  simp only [Options.get, hget "fix_trailing" (by decide), hget "fix_mode" (by decide),
    hunknown "fix_eof" (by decide), hunknown "backup" (by decide),
    configLevel_of_section (c := .fix) h.hasSection] at hends
  exact hends

lemma exitCode_ne_zero (f : Fault) : exitCode f ≠ 0 := by
  unfold exitCode
  split
  · decide
  · decide

/-- A line ending that is asked for by its name on the command line of the fixer is refused: the program
fails and changes no file, whatever else it is asked for. The same name in a configuration makes the
program fix with the line ending. -/
theorem eol_option_refused (h : request (plainCall .fix line) w.year = .ok (.fix, values))
    (hname : values.value "eol" = .text name) (he : Eol.ofName? name = some e) :
    (∃ code, code ≠ 0 ∧ (execute (plainCall .fix line) w).ending = .returned code) ∧
      (execute (plainCall .fix line) w).world.tree = w.tree ∧
      ((∀ a ∈ (commandGrammar w.year .fix).given line, a.target = "eol") →
        (execute (plainCall .fix line) w).ending = .returned failureCode) ∧
      ∀ line' values' ini level, Configured w .fix line' values' ini → SetsEol ini name →
        (∀ a ∈ (commandGrammar w.year .fix).given line', a.target = "config") →
        Config.level true ini = .ok level → paths values' = paths values →
        FixEnds (execute (plainCall .fix line') w)
          ((fixPaths { eol := .eol e, patterns := Patterns.usual } (paths values)).run
            (ready w (level.getD Level.info.number) Patterns.usual)) := by
  obtain ⟨f, w', hprepare⟩ : ∃ f w', (prepare (plainCall .fix line) .fix values).run (started w) =
      (.error f, w') := by
    rcases hrun : (prepare (plainCall .fix line) .fix values).run (started w) with ⟨r, w'⟩
    cases r with
    | error f => exact ⟨f, w', rfl⟩
    | ok x => exact absurd hrun (prepare_ne_ok h hname he x w')
  obtain ⟨hending, htree⟩ := execute_of_prepare_fault h hprepare
  refine ⟨⟨exitCode f, exitCode_ne_zero f, hending⟩, htree, fun hline => ?_,
    fun line' values' ini level hconfigured hsets hline' hlevel hpaths => ?_⟩
  · exact (execute_of_prepare_fault h (run_prepare_eol h hname he hline)).1
  · rw [← hpaths]
    exact hsets.fixEnds he hconfigured hline' hlevel

def eolText : String :=
  "[fix]\neol = WIN\n[path_patterns]\n1 = *.[ch]\n2 = *.[ch]pp\n3 = *.[ch]xx\n4 = *.txt\n5 = *.cmake\n" ++
  "6 = *.sh\n7 = *.bash\n8 = *.bat\n9 = *.xsd\n10 = *.xml\n[skip_path_patterns]\n1 = .*\n"

def eolIni : Ini := ⟨[], [("fix", [("eol", "WIN")]),
  ("path_patterns", [("1", "*.[ch]"), ("2", "*.[ch]pp"), ("3", "*.[ch]xx"), ("4", "*.txt"),
    ("5", "*.cmake"), ("6", "*.sh"), ("7", "*.bash"), ("8", "*.bat"), ("9", "*.xsd"), ("10", "*.xml")]),
  ("skip_path_patterns", [("1", ".*")])]⟩

lemma setsEol_eolIni : SetsEol eolIni "WIN" where
  hasSection := rfl
  eol := rfl
  only option hoption := by
    change ((List.lookup option [("eol", "WIN")]).or none).isSome = false
    rw [List.lookup_cons, beq_eq_false_iff_ne.mpr hoption]
    rfl
  patterns := rfl

/-- A file keeps its line endings and the program fails. -/
theorem eol_option_refused_for_windows :
    (execute (plainCall .fix ["--eol", "WIN", "a.c"]) (iniWorld eolText "a.c" [0x78])).ending =
        .returned failureCode ∧
      (execute (plainCall .fix ["--eol", "WIN", "a.c"]) (iniWorld eolText "a.c" [0x78])).world.tree =
        (iniWorld eolText "a.c" [0x78]).tree := by
  have haccepted : request (plainCall .fix ["--eol", "WIN", "a.c"]) (iniWorld eolText "a.c" [0x78]).year =
      .ok (.fix, lineValues .fix ["--eol", "WIN", "a.c"]) := rfl
  obtain ⟨-, htree, hending, -⟩ := eol_option_refused haccepted rfl (by decide : _ = some .win)
  exact ⟨hending (by decide), htree⟩

/-- By the same name, a line ending is refused on the command line and taken from a configuration. -/
theorem eol_by_option_not_as_by_config :
    let w := iniWorld eolText "a.c" [0x78]
    (execute (plainCall .fix ["--eol", "WIN", "a.c"]) w).ending = .returned failureCode ∧
      (execute (plainCall .fix ["--eol", "WIN", "a.c"]) w).world.tree.get? ["a.c"] =
        some (.file [0x78] 0o644) ∧
      (execute (plainCall .fix ["-c", "c.ini", "a.c"]) w).ending = .returned 0 ∧
      (execute (plainCall .fix ["-c", "c.ini", "a.c"]) w).world.tree.get? ["a.c"] =
        some (.file [0x78, 0x0d, 0x0a] 0o644) := by
  intro w
  have hp : w.tree.Plain := by decide
  have hini : Config.ofFile "c.ini" (Text.encode eolText.toList) = .ok eolIni := by decide +kernel
  have hconfigured : Configured w .fix ["-c", "c.ini", "a.c"]
      (lineValues .fix ["-c", "c.ini", "a.c"]) eolIni := configured_iniWorld rfl rfl hp hini
  have haccepted : request (plainCall .fix ["--eol", "WIN", "a.c"]) w.year =
      .ok (.fix, lineValues .fix ["--eol", "WIN", "a.c"]) := rfl
  have hprepare := run_prepare_eol haccepted rfl (by decide : _ = some .win) (by decide)
  obtain ⟨hending, htree⟩ := execute_of_prepare_fault haccepted hprepare
  have hends := setsEol_eolIni.fixEnds (by decide : _ = some .win) hconfigured (by decide) rfl
  have hloc : Path.locate w.tree .follow "a.c" = .ok ["a.c"] := Path.locate_name hp rfl
  obtain ⟨sel, hsel⟩ : ∃ sel, Selection.ofPatterns .text Patterns.usual = .ok sel := ⟨_, rfl⟩
  have hpicks : SourceWalk.Picks w.tree sel .text "a.c" ["a.c"] [0x78] 0o644 ['x'] := by
    cases hsel
    exact ⟨hloc, rfl, rfl, rfl, rfl⟩
  have hdirect : Fixer.Direct { eol := .eol .win, patterns := Patterns.usual } [.trim, .tabs 4] sel .win :=
    ⟨rfl, hsel, rfl, rfl, rfl⟩
  obtain ⟨w', hrun, hfile⟩ := run_fixPaths_file (n := Level.info.number) (p := Patterns.usual) hdirect rfl
    hp hpicks
  refine ⟨hending, ?_, ?_, ?_⟩
  · rw [htree]
    rfl
  · exact hends.ending.trans (congrArg (fun x => endingOf _ x.1) hrun)
  · rw [hends.tree]
    refine (congrArg (fun x => x.2.tree.get? ["a.c"]) hrun).trans (hfile.trans ?_)
    decide +kernel

end Program

end SourceTidy
