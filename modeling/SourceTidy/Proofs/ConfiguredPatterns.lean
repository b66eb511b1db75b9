import SourceTidy.Proofs.ConfiguredTools

/-!
# The patterns of a configuration

The patterns that select files come from three sections of a configuration. A section that is not there
stands for an empty list, and not for the patterns that are used without a configuration. So a
configuration without these sections selects every file.
-/

namespace SourceTidy

variable {options : Options} {name : String}

lemma Checker.patterns_of_ofOptions {p : Patterns} {c : Checker} (h : ofOptions options p = .ok c) :
    c.patterns = p := by
  unfold ofOptions at h
  dsimp only at h
  split at h
  · cases h
  obtain ⟨lineLimit, -, h⟩ := bind_eq_ok h
  obtain ⟨eol, -, h⟩ := bind_eq_ok h
  split at h
  · cases h
  · cases h
    rfl

lemma Fixer.patterns_of_ofOptions {p : Patterns} {f : Fixer} (h : ofOptions options p = .ok f) :
    f.patterns = p := by
  obtain ⟨-, -, h⟩ := bind_eq_ok h
  obtain ⟨tabSize, -, h⟩ := bind_eq_ok h
  obtain ⟨eol, -, h⟩ := bind_eq_ok h
  cases h
  rfl

lemma Updater.patterns_of_ofOptions {year : Int} {p : Patterns} {u : Updater}
    (h : ofOptions year options p = .ok u) : u.patterns = p := by
  obtain ⟨-, -, h⟩ := bind_eq_ok h
  obtain ⟨yearText, -, h⟩ := bind_eq_ok h
  cases h
  rfl

namespace Config

variable {ini : Ini} {p : Patterns}

/-- What a configuration says on a list of patterns: the values of its section, and nothing without
the section. -/
def Lists (ini : Ini) (name : String) (list : Setting) : Prop :=
  if ini.hasSection name then ∃ values, ini.values name = .ok values ∧ list = .texts values
  else list = .texts []

lemma Lists.eq_nil {list : Setting} (h : Lists ini name list)
    (hsection : ini.hasSection name = false) : list = .texts [] := by
  rwa [Lists, hsection, if_neg Bool.false_ne_true] at h

lemma Lists.eq_values {list : Setting} {values : List String} (h : Lists ini name list)
    (hsection : ini.hasSection name = true) (hvalues : ini.values name = .ok values) :
    list = .texts values := by
  rw [Lists, if_pos hsection] at h
  obtain ⟨values', hvalues', rfl⟩ := h
  cases hvalues.symm.trans hvalues'
  rfl

lemma lists_of_sectionValues {values : List String} (h : sectionValues ini name = .ok values) :
    Lists ini name (.texts values) := by
  unfold sectionValues at h
  unfold Lists
  split at h
  · next hsection =>
    rw [if_pos hsection]
    exact ⟨values, eq_ok_of_mapError h, rfl⟩
  · next hsection =>
    cases h
    rw [if_neg hsection]

lemma lists_of_patterns (h : patterns ini = .ok p) : Lists ini "path_patterns" p.names ∧
    Lists ini "skip_path_patterns" p.skippedNames ∧ Lists ini "skip_data_patterns" p.skippedData := by
  obtain ⟨names, hnames, h⟩ := bind_eq_ok h
  obtain ⟨skippedNames, hskippedNames, h⟩ := bind_eq_ok h
  obtain ⟨skippedData, hskippedData, h⟩ := bind_eq_ok h
  cases h
  exact ⟨lists_of_sectionValues hnames, lists_of_sectionValues hskippedNames,
    lists_of_sectionValues hskippedData⟩

end Config

/-- A selection that leaves no file out. -/
structure Selection.All (mode : ReadMode) (sel : Selection) : Prop where
  wants : ∀ name, sel.wants name = true
  skips : ∀ name, sel.skips name = false
  foundIn : ∀ data, sel.skippedData.foundIn mode data = .ok false

lemma Selection.all_of_empty (mode : ReadMode) :
    ∃ sel, ofPatterns mode Config.noPatterns = .ok sel ∧ sel.All mode := by
  refine ⟨⟨[], [], ⟨mode, none⟩⟩, rfl, fun _ => rfl, fun _ => rfl, fun data => ?_⟩
  cases mode <;> rfl

namespace Program

open Request Session Grammar

variable {w : World} {c : Command} {line : List String} {values : Values} {ini : Ini} {p : Patterns}
  {task : Task}

def Task.patterns : Task → Option Patterns
  | .check c _ => some c.patterns
  | .fix f _ => some f.patterns
  | .update u _ => some u.patterns
  | .dumpConfig => none

lemma patterns_of_equip {w' : World} (hc : c ≠ .dumpConfig) (hnames : values.value "path_patterns" = .none)
    (hskipped : values.value "skip_path_patterns" = .none)
    (h : (equip c values p).run w = (.ok task, w')) : task.patterns = some p := by
  rw [equip, choosePatterns_of_none hnames hskipped, pure_bind] at h
  obtain ⟨-, w₁, -, h⟩ := run_bind_eq_ok h
  obtain ⟨formatter, w₂, -, h⟩ := run_bind_eq_ok h
  cases c with
  | check =>
    obtain ⟨checker, w₃, hchecker, h⟩ := run_bind_eq_ok h
    cases h
    rw [run_lift, Program.checker] at hchecker
    exact congrArg some (Checker.patterns_of_ofOptions (Prod.mk.inj hchecker).1)
  | fix =>
    obtain ⟨fixer, w₃, hfixer, h⟩ := run_bind_eq_ok h
    cases h
    rw [run_lift] at hfixer
    exact congrArg some (Fixer.patterns_of_ofOptions (Prod.mk.inj hfixer).1)
  | updateCopyright =>
    rw [run_bind_ok (run_get w₂)] at h
    obtain ⟨updater, w₃, hupdater, h⟩ := run_bind_eq_ok h
    cases h
    rw [run_lift] at hupdater
    exact congrArg some (Updater.patterns_of_ofOptions (Prod.mk.inj hupdater).1)
  | dumpConfig => exact absurd rfl hc

lemma Configured.prepare_eq_ok {w' : World} (h : Configured w c line values ini)
    (hprepare : (prepare (plainCall c line) c values).run (started w) = (.ok (.inr task), w')) :
    ∃ p known values' v, Config.patterns ini = .ok p ∧
      Config.commandOptions true ini (.text c.name) = .ok known ∧
      Reread w.year c line known values values' ∧ (equip c values' p).run v = (.ok task, w') := by
  obtain ⟨path, data, hconfig, hread, hfile⟩ := h.file
  obtain ⟨v, hv, rfl⟩ := request_eq_ok_iff.mp h.accepted
  cases hn : levelOf ((withLevel v).value "loglevel") with
  | error f =>
    rw [prepare, run_bind_error (run_setLevel_error hn _)] at hprepare
    cases hprepare
  | ok n =>
    let u : World := { started w with threshold := n }
    rw [prepare, run_bind_ok (run_setLevel_ok hn _), hconfig] at hprepare
    obtain ⟨result, w₁, hconfigure, hprepare⟩ := run_bind_eq_ok hprepare
    have hini : (readConfig (.text path)).run u = (.ok ini, u) := run_readConfig hread hfile
    rw [configure, run_bind_ok hini] at hconfigure
    obtain ⟨p, w₂, hlift, hconfigure⟩ := run_bind_eq_ok hconfigure
    obtain ⟨hpatterns, rfl⟩ := Prod.mk.inj (hlift.symm.trans (run_lift _ _))
    obtain ⟨known, w₃, hlift', hconfigure⟩ := run_bind_eq_ok hconfigure
    obtain ⟨hknown, rfl⟩ := Prod.mk.inj (hlift'.symm.trans (run_lift _ _))
    obtain ⟨values', hvalues, hreread⟩ := read_known
      (Config.proper_commandOptions hknown.symm)
      (Config.lookup_leftTarget_commandOptions hknown.symm) hv
    have hyear : u.year = w.year := rfl
    have hline : (plainCall c line).systemLine = c.name :: line := rfl
    rw [run_bind_ok (run_get u), hyear, hline, hvalues] at hconfigure
    obtain ⟨-, w₄, -, hconfigure⟩ := run_bind_eq_ok hconfigure
    cases hconfigure
    obtain ⟨task', w₅, hequip, hprepare⟩ := run_bind_eq_ok hprepare
    cases hprepare
    exact ⟨p, known, values', w₁, hpatterns.symm, hknown.symm, hreread, hequip⟩

/-- A list of patterns without a section in the configuration is empty, not the usual one. So when
there is no section for patterns at all, every file is selected. -/
theorem config_patterns_of_sections {w' : World} (h : Configured w c line values ini)
    (hungiven : ∀ a ∈ (commandGrammar w.year c).given line,
      a.target ≠ "path_patterns" ∧ a.target ≠ "skip_path_patterns")
    (hcomes : Comes (plainCall c line) w task w') :
    ∃ p, task.patterns = some p ∧
      Config.Lists ini "path_patterns" p.names ∧
      Config.Lists ini "skip_path_patterns" p.skippedNames ∧
      Config.Lists ini "skip_data_patterns" p.skippedData ∧
      ((∀ name ∈ Config.patternSections, ini.hasSection name = false) →
        ∀ mode, ∃ sel, Selection.ofPatterns mode p = .ok sel ∧ sel.All mode) := by
  obtain ⟨c', values₁, hrequest, hprepare⟩ := hcomes
  cases h.accepted.symm.trans hrequest
  obtain ⟨p, known, values', v, hpatterns, hknown, hreread, hequip⟩ := h.prepare_eq_ok hprepare
  have hc : c ≠ .dumpConfig := Config.ne_dumpConfig_of_options hknown
  have hnone : ∀ t ∈ ["path_patterns", "skip_path_patterns"], values'.value t = .none := by
    intro t ht
    have hother : t ≠ "command" ∧ t ≠ "paths" ∧ t ≠ "loglevel" := by
      revert t
      decide
    have hinitial : ((commandGrammar 0 c).initialValues []).value t = .none := by
      cases c <;> revert t <;> decide
    have hunknown : known.lookup t = none := by
      refine Config.lookup_commandOptions_of_notMem hknown ?_
      cases c <;> revert t <;> decide
    rw [hreread.value_eq hother.1 hother.2.1 hother.2.2, hunknown, hinitial]
    · rfl
    · intro a ha hta
      rcases List.mem_pair.mp ht with rfl | rfl
      · exact (hungiven a ha).1 hta
      · exact (hungiven a ha).2 hta
  have htask : task.patterns = some p :=
    patterns_of_equip hc (hnone _ (by decide)) (hnone _ (by decide)) hequip
  obtain ⟨hnames, hskippedNames, hskippedData⟩ := Config.lists_of_patterns hpatterns
  refine ⟨p, htask, hnames, hskippedNames, hskippedData, fun hsections mode => ?_⟩
  have hp : p = Config.noPatterns := calc
    p = ⟨p.names, p.skippedNames, p.skippedData⟩ := rfl
    _ = ⟨.texts [], .texts [], .texts []⟩ := by
      rw [hnames.eq_nil (hsections _ (by decide)), hskippedNames.eq_nil (hsections _ (by decide)),
        hskippedData.eq_nil (hsections _ (by decide))]
  rw [hp]
  exact Selection.all_of_empty mode

def hiddenText : String := "[skip_path_patterns]\nhidden = .*\n"

/-- With one section for patterns, the other lists are empty. -/
theorem config_patterns_of_one_section :
    ∃ task w', Comes (plainCall .check ["-c", "c.ini", "a.c"]) (iniWorld hiddenText "a.c" [0x78]) task
        w' ∧ task.patterns = some ⟨.texts [], .texts [".*"], .texts []⟩ := by
  have hp : (iniWorld hiddenText "a.c" [0x78]).tree.Plain := by decide
  have hini : Config.ofFile "c.ini" (Text.encode hiddenText.toList) =
      .ok ⟨[], [("skip_path_patterns", [("hidden", ".*")])]⟩ := by decide +kernel
  have hconfigured : Configured (iniWorld hiddenText "a.c" [0x78]) .check ["-c", "c.ini", "a.c"]
      (lineValues .check ["-c", "c.ini", "a.c"]) _ := configured_iniWorld rfl rfl hp hini
  have hpatterns : Config.patterns ⟨[], [("skip_path_patterns", [("hidden", ".*")])]⟩ =
      .ok ⟨.texts [], .texts [".*"], .texts []⟩ := rfl
  have hvalues : Ini.values ⟨[], [("skip_path_patterns", [("hidden", ".*")])]⟩ "skip_path_patterns" =
      .ok [".*"] := rfl
  have hcomes := ConfiguredOnly.comes_check ⟨hconfigured, by decide, hpatterns, rfl, rfl, by decide⟩ rfl
  obtain ⟨p, htask, hnames, hskippedNames, hskippedData, -⟩ :=
    config_patterns_of_sections hconfigured (by decide) hcomes
  refine ⟨_, _, hcomes, htask.trans (congrArg some ?_)⟩
  calc p = ⟨p.names, p.skippedNames, p.skippedData⟩ := rfl
    _ = ⟨.texts [], .texts [".*"], .texts []⟩ := by
      rw [hnames.eq_nil rfl, hskippedNames.eq_values rfl hvalues, hskippedData.eq_nil rfl]

def bareText : String := "[logging]\n"

/-- Without sections for patterns, a file is fixed that the usual patterns leave out. -/
theorem config_without_patterns_fixes_all :
    let w := iniWorld bareText "a.py" [0x78, 0x20, 0x0a]
    let values := lineValues .fix ["-c", "c.ini", "a.py"]
    ∃ ini task w' p, Configured w .fix ["-c", "c.ini", "a.py"] values ini ∧
      (∀ name ∈ Config.patternSections, ini.hasSection name = false) ∧
      (∀ a ∈ (commandGrammar w.year .fix).given ["-c", "c.ini", "a.py"],
        a.target ≠ "path_patterns" ∧ a.target ≠ "skip_path_patterns") ∧
      Comes (plainCall .fix ["-c", "c.ini", "a.py"]) w task w' ∧ task.patterns = some p ∧
      p.names ≠ Patterns.usual.names ∧
      (∃ sel, Selection.ofPatterns .text Patterns.usual = .ok sel ∧ sel.wants "a.py" = false) ∧
      (execute (plainCall .fix ["-c", "c.ini", "a.py"]) w).world.tree.get? ["a.py"] =
        some (.file [0x78, 0x0a] 0o644) := by
  intro w values
  have hp : w.tree.Plain := by decide
  have hini : Config.ofFile "c.ini" (Text.encode bareText.toList) = .ok ⟨[], [("logging", [])]⟩ := by
    decide +kernel
  have hconfigured : Configured w .fix ["-c", "c.ini", "a.py"] values _ :=
    configured_iniWorld rfl rfl hp hini
  have hcomes := ConfiguredOnly.comes_fix ⟨hconfigured, by decide, rfl, rfl, rfl, by decide⟩ rfl rfl
  have hloc : Path.locate w.tree .follow "a.py" = .ok ["a.py"] := Path.locate_name hp rfl
  obtain ⟨w'', hrun, hfile⟩ := run_fixPaths_file (n := Level.info.number) (p := Config.noPatterns)
    (f := { backup := .flag false, patterns := Config.noPatterns }) (e := .native)
    ⟨rfl, rfl, rfl, rfl, rfl⟩ rfl hp ⟨hloc, rfl, rfl, rfl, rfl⟩
  refine ⟨_, _, _, _, hconfigured, by decide, by decide, hcomes, rfl, by decide, ⟨_, rfl, rfl⟩, ?_⟩
  rw [(fixEnds_of_comes hcomes).tree]
  refine (congrArg (fun x => x.2.tree.get? ["a.py"]) hrun).trans (hfile.trans ?_)
  decide +kernel

end Program

end SourceTidy
