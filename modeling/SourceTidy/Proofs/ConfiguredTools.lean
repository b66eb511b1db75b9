import SourceTidy.Proofs.ConfiguredRuns
import SourceTidy.Proofs.FirstFailure
import SourceTidy.Proofs.FixedModes

/-!
# Tools with the settings of a configuration

A command line with a configuration and no other option sets the program to work with the checker or
the fixer of the configuration, but not with all of their settings.
-/

namespace SourceTidy

def Config.noPatterns : Patterns := ⟨.texts [], .texts [], .texts []⟩

namespace Options

lemma find?_unknown {names : List String} {options : Options} (h : options.map Prod.fst ⊆ names) :
    options.find? (fun o => !names.contains o.1) = none :=
  List.find?_eq_none.mpr fun o ho => by simpa using h (List.mem_map_of_mem ho)

lemma check_of_known {title : String} {names : List String} {options : Options}
    (h : options.map Prod.fst ⊆ names) : options.check title names = .ok () := by
  rw [check, find?_unknown h]

end Options

namespace Fixer

variable {options : Options} {p : Patterns} {n : Int} {e : Eol}

lemma ofOptions_eq_ok (hknown : options.map Prod.fst ⊆ optionNames)
    (htabs : options.get "tabsize" (.int 4) = .int n) (heol : options.get "eol" (.eol .native) = .eol e) :
    ofOptions options p = .ok {
      tabSize := .int n
      trailing := options.get "fix_trailing" (.flag true)
      finalEol := options.get "fix_eof" (.flag true)
      mode := options.get "fix_mode" (.flag true)
      formatter := options.get "clang_format" (.flag false)
      eol := .eol e
      backup := options.get "backup_ext" .none
      patterns := p } := by
  rw [ofOptions, Options.check_of_known hknown, ok_bind, htabs, heol]
  rfl

end Fixer

namespace Checker

variable {options : Options} {p : Patterns} {n : Int} {e : Eol}

lemma ofOptions_eq_ok (hknown : options.map Prod.fst ⊆ optionNames)
    (hlimit : options.get "maxlinelen" (.int 0) = .int n) (heol : options.get "eol" (.eol .native) = .eol e) :
    ofOptions options p = .ok {
      failFast := options.get "failfast" (.flag false)
      patterns := p
      tabs := .flag (options.get "check_tabs" (.flag true)).isOn
      lineEndings := .flag (options.get "check_eol" (.flag true)).isOn
      trailing := .flag (options.get "check_trailing" (.flag true)).isOn
      encodable := .flag (options.get "check_encoding" (.flag true)).isOn
      finalEol := .flag (options.get "check_eol_at_eof" (.flag true)).isOn
      includes := .flag (options.get "check_relative_include" (.flag true)).isOn
      notice := .flag (options.get "check_copyright" (.flag true)).isOn
      mode := .flag (options.get "check_mode" (.flag true)).isOn
      formatter := options.get "clang_format" (.flag false)
      lineLimit := .int n
      eol := .eol e
      encoding := options.get "encoding" (.text "ascii") } := by
  have hown : options.any (·.1 == Options.ownName) = false := by
    rw [List.any_eq_false]
    intro o ho hself
    have hname : Options.ownName ∈ optionNames :=
      beq_iff_eq.mp hself ▸ hknown (List.mem_map_of_mem ho)
    exact absurd hname (by decide)
  unfold ofOptions
  dsimp only
  rw [hown, if_neg Bool.false_ne_true, hlimit, heol, Options.find?_unknown hknown]
  rfl

end Checker

namespace Config

variable {ini : Ini} {settings : Options}

def fixerReaders : List Reader :=
  [("tabsize", number), ("eol", eol), ("fix_trailing", flag), ("fix_eof", flag), ("fix_mode", flag)]

def fixerSettings (ini : Ini) : Except Fault Options := do
  let options ← present ini "fix" fixerReaders
  return options ++ (← backup ini "fix")

lemma fixerSettings_eq_ok (h : fixerSettings ini = .ok settings) :
    ∃ options kept, present ini "fix" fixerReaders = .ok options ∧ backup ini "fix" = .ok kept ∧
      settings = options ++ kept := by
  obtain ⟨options, hoptions, h⟩ := bind_eq_ok h
  obtain ⟨kept, hkept, h⟩ := bind_eq_ok h
  cases h
  exact ⟨options, kept, hoptions, hkept, rfl⟩

lemma lookup_fixerSettings (h : fixerSettings ini = .ok settings) {r : Reader}
    (hr : r ∈ fixerReaders) : optional ini "fix" r = .ok (settings.lookup r.1) := by
  obtain ⟨options, kept, hoptions, hkept, rfl⟩ := fixerSettings_eq_ok h
  have hother : ∀ t ∈ fixerReaders.map Prod.fst, t ≠ "backup_ext" := by decide
  have hnone : kept.lookup r.1 = none := lookup_of_notMem fun hkey =>
    hother _ (List.mem_map_of_mem hr) (List.mem_singleton.mp ((keys_backup hkept).subset hkey))
  rw [lookup_present hoptions (by decide) hr, List.lookup_append, hnone, Option.or_none]

lemma keys_fixerSettings (h : fixerSettings ini = .ok settings) :
    (settings.map Prod.fst).Sublist (fixerReaders.map Prod.fst ++ ["backup_ext"]) := by
  obtain ⟨options, kept, hoptions, hkept, rfl⟩ := fixerSettings_eq_ok h
  rw [List.map_append]
  exact (keys_present hoptions).append (keys_backup hkept)

lemma getD_optional_number {name option : String} {v : Option Setting}
    (h : optional ini name (option, number) = .ok v) (n : Int) : ∃ m, v.getD (.int n) = .int m := by
  unfold optional at h
  split at h
  · obtain ⟨s, hs, rfl⟩ := map_eq_ok h
    obtain ⟨text, -, hs⟩ := bind_eq_ok hs
    obtain ⟨m, -, hs⟩ := bind_eq_ok hs
    cases hs
    exact ⟨m, rfl⟩
  · cases h
    exact ⟨n, rfl⟩

lemma getD_optional_eol {name option : String} {v : Option Setting}
    (h : optional ini name (option, eol) = .ok v) (e : Eol) : ∃ e', v.getD (.eol e) = .eol e' := by
  unfold optional at h
  split at h
  · obtain ⟨s, hs, rfl⟩ := map_eq_ok h
    obtain ⟨text, -, hs⟩ := bind_eq_ok hs
    dsimp only at hs
    split at hs
    · next e' _ =>
      cases hs
      exact ⟨e', rfl⟩
    · cases hs
  · cases h
    exact ⟨e, rfl⟩

/-- The settings of a fixer that the program takes from a configuration. -/
def sharedReaders : List Reader :=
  [("tabsize", number), ("eol", eol), ("fix_trailing", flag), ("fix_mode", flag)]

lemma mem_fixerReaders_of_shared {r : Reader} (h : r ∈ sharedReaders) : r ∈ fixerReaders := by
  simp only [sharedReaders, List.mem_cons, List.not_mem_nil, or_false] at h
  rcases h with rfl | rfl | rfl | rfl <;> simp [fixerReaders]

lemma readers_fix : readers .fix = sharedReaders ++ [("clang_format", text)] := rfl

lemma exists_fixOptions {formatter : Option Setting} {lv : Option Nat}
    (hsection : ini.hasSection "fix" = true) (hsettings : fixerSettings ini = .ok settings)
    (hformatter : optional ini "fix" ("clang_format", text) = .ok formatter)
    (hlevel : level true ini = .ok lv) :
    ∃ known, commandOptions true ini (.text "fix") = .ok known ∧
      known.lookup "clang_format" = formatter ∧
      ∀ t ∈ sharedReaders.map Prod.fst, known.lookup t = settings.lookup t := by
  obtain ⟨options, kept, -, hkept, -⟩ := fixerSettings_eq_ok hsettings
  have hread : ∀ r ∈ sharedReaders, optional ini "fix" r = .ok (settings.lookup r.1) :=
    fun r hr => lookup_fixerSettings hsettings (mem_fixerReaders_of_shared hr)
  obtain ⟨known, hknown⟩ : ∃ known, commandOptions true ini (.text "fix") = .ok known := by
    refine exists_commandOptions (c := .fix) (by decide) hsection (fun r hr => ?_) hkept hlevel
    rw [readers_fix] at hr
    rcases List.mem_append.mp hr with hr | hr
    · exact ⟨_, hread r hr⟩
    · exact ⟨_, List.mem_singleton.mp hr ▸ hformatter⟩
  have hlookup : ∀ r ∈ sharedReaders ++ [("clang_format", text)],
      optional ini "fix" r = .ok (known.lookup r.1) :=
    fun r hr => lookup_commandOptions (c := .fix) hknown hsection (readers_fix ▸ hr)
  refine ⟨known, hknown, ?_, List.forall_mem_map.mpr fun r hr => ?_⟩
  · have hlast := hlookup ("clang_format", text) (List.mem_append_right _ List.mem_cons_self)
    exact Except.ok.inj (hlast.symm.trans hformatter)
  · exact Except.ok.inj ((hlookup r (List.mem_append_left _ hr)).symm.trans (hread r hr))

lemma exists_checkOptions {lv : Option Nat} (hsection : ini.hasSection "check" = true)
    (hsettings : present ini "check" (readers .check) = .ok settings) (hlevel : level true ini = .ok lv) :
    ∃ known, commandOptions true ini (.text "check") = .ok known ∧
      ∀ t ∈ (readers .check).map Prod.fst, known.lookup t = settings.lookup t := by
  have hread : ∀ r ∈ readers .check, optional ini "check" r = .ok (settings.lookup r.1) :=
    fun r hr => lookup_present hsettings (by decide) hr
  obtain ⟨known, hknown⟩ : ∃ known, commandOptions true ini (.text "check") = .ok known :=
    exists_commandOptions (c := .check) (by decide) hsection (fun r hr => ⟨_, hread r hr⟩) rfl hlevel
  refine ⟨known, hknown, List.forall_mem_map.mpr fun r hr => ?_⟩
  have hlookup := lookup_commandOptions (c := .check) hknown hsection hr
  exact Except.ok.inj (hlookup.symm.trans (hread r hr))

end Config

namespace Program

open Request Session Grammar

variable {w : World} {c : Command} {line : List String} {values values' : Values} {ini : Ini}
  {p : Patterns} {known : Options} {level : Option Nat}

/-- The world in which a task is performed: the log has its level and says which patterns select
files. -/
def ready (w : World) (n : Nat) (p : Patterns) : World :=
  ((logPatterns p).run { started w with threshold := n }).2

@[simp] lemma ready_tree (w : World) (n : Nat) (p : Patterns) : (ready w n p).tree = w.tree :=
  leaves_logPatterns World.logged_tree p _

lemma choosePatterns_of_none (hnames : values.value "path_patterns" = .none)
    (hskipped : values.value "skip_path_patterns" = .none) (p : Patterns) :
    choosePatterns values p = pure p := by
  unfold choosePatterns
  rw [hnames, hskipped]
  rfl

/-- The settings with which no formatting program is asked for. -/
def noFormatter : List Setting := [.none, .flag false, .text "False"]

lemma chooseFormatter_of_mem {v : Setting} (h : v ∈ noFormatter) :
    chooseFormatter v = pure (.flag false) := by
  simp only [noFormatter, List.mem_cons, List.not_mem_nil, or_false] at h
  rcases h with rfl | rfl | rfl <;> rfl

/-- The values of a configuration that say nothing on patterns and on a formatting program. -/
structure Undemanding (values : Values) : Prop where
  names : values.value "path_patterns" = .none
  skippedNames : values.value "skip_path_patterns" = .none
  formatter : values.value "clang_format" ∈ noFormatter

lemma value_of_line {targets : List String} (h : request (plainCall c line) w.year = .ok (c, values))
    (hline : ∀ a ∈ (commandGrammar w.year c).given line, a.target ∈ targets) {t : String}
    (ht : t ∉ "command" :: "paths" :: targets) :
    values.value t = (withLevel ((commandGrammar 0 c).initialValues [])).value t := by
  obtain ⟨v, hv, rfl⟩ := request_eq_ok_iff.mp h
  obtain ⟨hcommand, hpaths, hother⟩ : t ≠ "command" ∧ t ≠ "paths" ∧ t ∉ targets := by simpa using ht
  rw [← initialValues_commandGrammar w.year]
  exact value_of_ungiven hv hcommand hpaths fun a ha hta => hother (hta ▸ hline a ha)

/-- The targets of the options that switch single checks. -/
def checkTargets : List String :=
  ["check_tabs", "check_eol", "check_trailing", "check_encoding", "check_eol_at_eof",
   "check_relative_include", "check_copyright", "check_mode"]

lemma checker_eq_ok {n : Int} {fast : Setting} {g : String → Bool}
    (hlimit : values.value "maxlinelen" = .int n) (hfast : values.value "failfast" = fast)
    (hon : ∀ t ∈ checkTargets, (values.value t).isOn = g t) (p : Patterns) :
    Program.checker values (.flag false) p = .ok {
      failFast := fast
      patterns := p
      tabs := .flag (g "check_tabs")
      lineEndings := .flag (g "check_eol")
      trailing := .flag (g "check_trailing")
      encodable := .flag (g "check_encoding")
      finalEol := .flag (g "check_eol_at_eof")
      includes := .flag (g "check_relative_include")
      notice := .flag (g "check_copyright")
      mode := .flag (g "check_mode")
      lineLimit := .int n } := by
  rw [← hfast, ← hon "check_tabs" (by decide), ← hon "check_eol" (by decide),
    ← hon "check_trailing" (by decide), ← hon "check_encoding" (by decide),
    ← hon "check_eol_at_eof" (by decide), ← hon "check_relative_include" (by decide),
    ← hon "check_copyright" (by decide), ← hon "check_mode" (by decide)]
  have hknown : (["clang_format", "check_tabs", "check_eol", "check_trailing", "check_encoding",
      "check_eol_at_eof", "check_relative_include", "check_copyright", "check_mode", "maxlinelen",
      "failfast"] : List String) ⊆ Checker.optionNames := by decide
  unfold checker
  refine (Checker.ofOptions_eq_ok (n := n) (e := .native) ?_ ?_ ?_).trans rfl
  · exact hknown
  · exact hlimit
  · rfl

lemma undemanding_of_line {targets : List String} (h : request (plainCall c line) w.year = .ok (c, values))
    (hline : ∀ a ∈ (commandGrammar w.year c).given line, a.target ∈ targets)
    (hother : ∀ t ∈ ["config", "path_patterns", "skip_path_patterns", "clang_format"], t ∉ targets) :
    values.value "config" = .none ∧ Undemanding values := by
  have hnone : ∀ t ∈ ["config", "path_patterns", "skip_path_patterns", "clang_format"],
      values.value t = .none := by
    intro t ht
    have hne : t ∉ ["command", "paths"] := by revert t; decide
    rw [value_of_line h hline (by simpa [hother t ht] using hne)]
    cases c <;> revert t <;> decide
  exact ⟨hnone _ (by decide), hnone _ (by decide), hnone _ (by decide), by rw [hnone _ (by decide)]; decide⟩

section

variable (h : Undemanding values) {n : Nat}

include h

lemma run_equip_check {r : Except Fault Checker} (hr : checker values (.flag false) p = r) :
    (equip .check values p).run { started w with threshold := n } =
      (r.map (.check · (paths values)), ready w n p) := by
  have hlog : (logPatterns p).run { started w with threshold := n } = (.ok (), ready w n p) := rfl
  rw [equip, choosePatterns_of_none h.names h.skippedNames, pure_bind, run_bind_ok hlog,
    chooseFormatter_of_mem h.formatter, pure_bind, hr]
  cases r <;> rfl

lemma run_equip_fix {r : Except Fault Fixer} (hr : fixer values (.flag false) p = r) :
    (equip .fix values p).run { started w with threshold := n } =
      (r.map (.fix · (paths values)), ready w n p) := by
  have hlog : (logPatterns p).run { started w with threshold := n } = (.ok (), ready w n p) := rfl
  rw [equip, choosePatterns_of_none h.names h.skippedNames, pure_bind, run_bind_ok hlog,
    chooseFormatter_of_mem h.formatter, pure_bind, hr]
  cases r <;> rfl

end

def configLevel (ini : Ini) (c : Command) (level : Option Nat) : Nat :=
  (if ini.hasSection c.name then level else none).getD Level.info.number

lemma configLevel_of_section (h : ini.hasSection c.name = true) (level : Option Nat) :
    configLevel ini c level = level.getD Level.info.number := by
  rw [configLevel, if_pos h]

/-- A line that names a configuration and has no other option, with what the program takes from the
configuration. -/
structure ConfiguredOnly (w : World) (c : Command) (line : List String) (values : Values) (ini : Ini)
    (p : Patterns) (known : Options) (level : Option Nat) : Prop extends Configured w c line values ini where
  only : ∀ a ∈ (commandGrammar w.year c).given line, a.target = "config"
  patterns : Config.patterns ini = .ok p
  options : Config.commandOptions true ini (.text c.name) = .ok known
  level : Config.level true ini = .ok level
  formatter : (known.lookup "clang_format").getD .none ∈ noFormatter

lemma ConfiguredOnly.comes (h : ConfiguredOnly w c line values ini p known level) :
    ∃ values', paths values' = paths values ∧ Undemanding values' ∧
      (∀ t, t ∉ ["command", "paths", "loglevel", "config"] → values'.value t =
        (known.lookup t).getD (((commandGrammar 0 c).initialValues []).value t)) ∧
      ∀ task w', (equip c values' p).run { started w with threshold := configLevel ini c level } =
        (.ok task, w') → Comes (plainCall c line) w task w' := by
  have hungiven : ∀ t, t ≠ "config" →
      ∀ a ∈ (commandGrammar w.year c).given line, a.target ≠ t :=
    fun t ht a ha hta => ht (hta.symm.trans (h.only a ha))
  obtain ⟨values', hreread, hprepare⟩ :=
    h.run_prepare (hungiven _ (by decide)) h.patterns h.options h.level
  have hvalue : ∀ t, t ∉ ["command", "paths", "loglevel", "config"] → values'.value t =
      (known.lookup t).getD (((commandGrammar 0 c).initialValues []).value t) := by
    intro t ht
    obtain ⟨hcommand, hpaths, hlevel, hconfig⟩ :
        t ≠ "command" ∧ t ≠ "paths" ∧ t ≠ "loglevel" ∧ t ≠ "config" := by simpa using ht
    exact hreread.value_eq hcommand hpaths hlevel (hungiven t hconfig)
  have hunknown : ∀ t ∈ ["paths", "path_patterns", "skip_path_patterns"], known.lookup t = none := by
    intro t ht
    refine Config.lookup_commandOptions_of_notMem h.options ?_
    cases c <;> revert t <;> decide
  have hnone : ∀ t ∈ ["path_patterns", "skip_path_patterns", "clang_format"],
      ((commandGrammar 0 c).initialValues []).value t = .none := by
    cases c <;> decide
  refine ⟨values', ?_, ⟨?_, ?_, ?_⟩, hvalue, fun task w' hequip => ?_⟩
  · unfold paths
    rw [hreread.unknown _ (by decide) (hunknown _ (by decide))]
  · rw [hvalue _ (by decide), hunknown _ (by decide), hnone _ (by decide)]
    rfl
  · rw [hvalue _ (by decide), hunknown _ (by decide), hnone _ (by decide)]
    rfl
  · rw [hvalue _ (by decide), hnone _ (by decide)]
    exact h.formatter
  · refine ⟨c, values, h.accepted, ?_⟩
    rw [hprepare]
    exact run_bind_ok hequip _

lemma ConfiguredOnly.comes_fix {n : Int} {e : Eol} (h : ConfiguredOnly w .fix line values ini p known level)
    (htabs : known.get "tabsize" (.int 4) = .int n) (heol : known.get "eol" (.eol .native) = .eol e) :
    Comes (plainCall .fix line) w (.fix {
        tabSize := .int n
        trailing := known.get "fix_trailing" (.flag true)
        finalEol := known.get "fix_eof" (.flag true)
        mode := known.get "fix_mode" (.flag true)
        eol := .eol e
        backup := known.get "backup" (.flag false)
        patterns := p } (paths values))
      (ready w (configLevel ini .fix level) p) := by
  obtain ⟨values', hpaths, hundemanding, hvalue, hcomes⟩ := h.comes
  rw [← hpaths]
  refine hcomes _ _ (run_equip_fix (r := .ok _) hundemanding ?_)
  have hget : ∀ t ∈ ["tabsize", "eol", "fix_trailing", "fix_eof", "fix_mode", "backup"],
      values'.value t = known.get t (((commandGrammar 0 .fix).initialValues []).value t) := by
    intro t ht
    refine hvalue t ?_
    revert t
    decide
  unfold fixer
  rw [Fixer.ofOptions_eq_ok (n := n) (e := e)]
  · congr 2
    · exact hget "fix_trailing" (by decide)
    · exact hget "fix_eof" (by decide)
    · exact hget "fix_mode" (by decide)
    · exact hget "backup" (by decide)
  · exact (by decide : (["clang_format", "tabsize", "fix_trailing", "fix_eof", "fix_mode", "eol",
      "backup_ext"] : List String) ⊆ Fixer.optionNames)
  · exact (hget "tabsize" (by decide)).trans htabs
  · exact (hget "eol" (by decide)).trans heol

lemma ConfiguredOnly.comes_check {n : Int} (h : ConfiguredOnly w .check line values ini p known level)
    (hlimit : known.get "maxlinelen" (.int 0) = .int n) :
    Comes (plainCall .check line) w (.check {
        failFast := known.get "failfast" (.flag false)
        patterns := p
        tabs := .flag (known.get "check_tabs" (.flag true)).isOn
        lineEndings := .flag (known.get "check_eol" (.flag true)).isOn
        trailing := .flag (known.get "check_trailing" (.flag true)).isOn
        encodable := .flag (known.get "check_encoding" (.flag true)).isOn
        finalEol := .flag (known.get "check_eol_at_eof" (.flag true)).isOn
        includes := .flag (known.get "check_relative_include" (.flag true)).isOn
        notice := .flag (known.get "check_copyright" (.flag true)).isOn
        mode := .flag (known.get "check_mode" (.flag true)).isOn
        lineLimit := .int n } (paths values))
      (ready w (configLevel ini .check level) p) := by
  obtain ⟨values', hpaths, hundemanding, hvalue, hcomes⟩ := h.comes
  rw [← hpaths]
  refine hcomes _ _ (run_equip_check (r := .ok _) hundemanding ?_)
  have hget : ∀ t ∈ "failfast" :: "maxlinelen" :: checkTargets,
      values'.value t = known.get t (((commandGrammar 0 .check).initialValues []).value t) := by
    intro t ht
    refine hvalue t ?_
    revert t
    decide
  refine checker_eq_ok (g := fun t => (known.get t (.flag true)).isOn)
    ((hget "maxlinelen" (by decide)).trans hlimit) (hget "failfast" (by decide)) (fun t ht => ?_) p
  have hinitial : ((commandGrammar 0 .check).initialValues []).value t = .flag true := by
    revert t
    decide
  rw [hget t (.tail _ (.tail _ ht)), hinitial]

def endingOf {α : Type} (answer : α → Ending) : Except Fault α → Ending
  | .ok a => answer a
  | .error f => .returned (exitCode f)

structure FixEnds (o : Outcome) (x : Except Fault Unit × World) : Prop where
  ending : o.ending = endingOf (fun _ => .returned 0) x.1
  tree : o.world.tree = x.2.tree
  calls : o.world.calls = x.2.calls

lemma fixEnds_of_comes {call : Call} {f : Fixer} {paths : List Setting} {v : World}
    (h : Comes call w (.fix f paths) v) : FixEnds (execute call w) ((fixPaths f paths).run v) := by
  rcases hrun : (fixPaths f paths).run v with ⟨r, v'⟩
  cases r with
  | ok u =>
    have hperform : (perform (.fix f paths)).run v = (.ok (.returned 0, ""), v') := by
      rw [perform, run_bind_ok hrun]
      rfl
    rw [execute_of_perform h hperform]
    exact ⟨rfl, rfl, rfl⟩
  | error g =>
    have hperform : (perform (.fix f paths)).run v = (.error g, v') := by
      rw [perform, run_bind_error hrun]
    rw [execute_of_fault h hperform]
    exact ⟨rfl, by simp, by simp⟩

/-- An outcome of the program that is the end of checking some paths: the answer tells whether
something is not in order below any of them, and the log says how often in all. -/
structure CheckEnds (o : Outcome) (x : Except Fault (List Tally) × World) : Prop where
  ending : o.ending = endingOf (fun tallies => .answered (tallies.any fun t => !t.isEmpty)) x.1
  tree : o.world.tree = x.2.tree
  calls : o.world.calls = x.2.calls
  log : ∀ tallies, x.1 = .ok tallies → o.world =
    x.2.logged (verdict (tallies.foldl Tally.merge [])).level
      (verdict (tallies.foldl Tally.merge [])).message
  output : o.output = printedLog o.world.log

lemma total_eq (c : Checker) (paths : List Setting) :
    total c paths = paths.mapM c.scan >>= fun tallies => pure (tallies.foldl Tally.merge []) := by
  have hfold : ∀ t, paths.foldlM (fun tally path => return Tally.merge tally (← c.scan path)) t =
      (paths.mapM c.scan >>= fun tallies => pure (tallies.foldl Tally.merge t) : Session Tally) := by
    induction paths with
    | nil => intro t; rfl
    | cons path paths ih =>
      intro t
      rw [List.foldlM_cons, List.mapM_cons]
      simp only [bind_assoc, pure_bind, ih, List.foldl_cons]
  exact hfold []

lemma execute_check_of_fault {call : Call} {c : Checker} {paths : List Setting} {v v' : World} {g : Fault}
    (h : Comes call w (.check c paths) v) (hrun : (paths.mapM c.scan).run v = (.error g, v')) :
    execute call w = ⟨.returned (exitCode g), printedLog (reported g v').log ++ "", "", reported g v'⟩ := by
  have htotal : (total c paths).run v = (.error g, v') := by
    rw [total_eq, run_bind_error hrun]
  have hcheck : (checkPaths c paths).run v = (.error g, v') := by
    rw [checkPaths, run_bind_error htotal]
  refine execute_of_fault h ?_
  rw [perform, run_bind_error hcheck]

lemma checkEnds_of_comes {call : Call} {c : Checker} {paths : List Setting} {v : World}
    (h : Comes call w (.check c paths) v) : CheckEnds (execute call w) ((paths.mapM c.scan).run v) := by
  rcases hrun : (paths.mapM c.scan).run v with ⟨r, v'⟩
  cases r with
  | ok tallies =>
    have htotal : (total c paths).run v = (.ok (tallies.foldl Tally.merge []), v') := by
      rw [total_eq, run_bind_ok hrun]
      rfl
    have hany : (!(tallies.foldl Tally.merge []).isEmpty) = tallies.any fun t => !t.isEmpty := by
      rw [Tally.isEmpty_foldl_merge, List.isEmpty_nil, Bool.true_and, List.not_all_eq_any_not]
    rw [execute_of_perform h (run_checkPaths htotal), hany]
    refine ⟨rfl, by simp, by simp, fun tallies' htallies => ?_, by simp⟩
    cases htallies
    rfl
  | error g =>
    rw [execute_check_of_fault h hrun]
    exact ⟨rfl, by simp, by simp, fun _ htallies => (by cases htallies), by simp⟩

/-- The fixer of a configuration does the work, but for two of its settings: it ends files with a line
feed and keeps no old files, whatever the configuration says on that. -/
theorem fix_with_config_settings {settings : Options} {formatter : Option Setting}
    (h : Configured w .fix line values ini)
    (hline : ∀ a ∈ (commandGrammar w.year .fix).given line, a.target = "config")
    (hsection : ini.hasSection "fix" = true)
    (hsettings : Config.fixerSettings ini = .ok settings)
    (hformatter : Config.optional ini "fix" ("clang_format", Config.text) = .ok formatter)
    (hoff : formatter.getD .none ∈ noFormatter) (hpatterns : Config.patterns ini = .ok p)
    (hlevel : Config.level true ini = .ok level) :
    ∃ f, Fixer.ofOptions settings p = .ok f ∧
      FixEnds (execute (plainCall .fix line) w)
        ((fixPaths { f with finalEol := .flag true, backup := .none } (paths values)).run
          (ready w (level.getD Level.info.number) p)) := by
  obtain ⟨known, hknown, hprogram, hsame⟩ :=
    Config.exists_fixOptions hsection hsettings hformatter hlevel
  have hget : ∀ t ∈ Config.sharedReaders.map Prod.fst, ∀ v, known.get t v = settings.get t v := by
    intro t ht v
    rw [Options.get, Options.get, hsame t ht]
  have hunknown : ∀ t ∈ ["fix_eof", "backup"], ∀ v, known.get t v = v := by
    intro t ht v
    have hnone : known.lookup t = none := by
      refine Config.lookup_commandOptions_of_notMem (c := .fix) hknown ?_
      revert t
      decide
    rw [Options.get, hnone]
    rfl
  have htabsReader : ("tabsize", Config.number) ∈ Config.fixerReaders := by simp [Config.fixerReaders]
  have heolReader : ("eol", Config.eol) ∈ Config.fixerReaders := by simp [Config.fixerReaders]
  obtain ⟨n, htabs⟩ :=
    Config.getD_optional_number (Config.lookup_fixerSettings hsettings htabsReader) 4
  obtain ⟨e, heol⟩ := Config.getD_optional_eol (Config.lookup_fixerSettings hsettings heolReader) .native
  have honly : ConfiguredOnly w .fix line values ini p known level :=
    ⟨h, hline, hpatterns, hknown, hlevel, by rwa [hprogram]⟩
  have hcomes := honly.comes_fix ((hget _ (by decide) _).trans htabs) ((hget _ (by decide) _).trans heol)
  have hends := fixEnds_of_comes hcomes
  rw [hget "fix_trailing" (by decide), hget "fix_mode" (by decide), hunknown "fix_eof" (by decide),
    hunknown "backup" (by decide), configLevel_of_section (c := .fix) hsection] at hends
  have hkeys := (Config.keys_fixerSettings hsettings).subset
  have hnone : settings.lookup "clang_format" = none :=
    Config.lookup_of_notMem fun hmem => absurd (hkeys hmem) (by decide)
  refine ⟨_, Fixer.ofOptions_eq_ok (List.Subset.trans hkeys (by decide)) htabs heol, ?_⟩
  dsimp only
  rw [Options.get.eq_def settings "clang_format", hnone]
  exact hends

def fixText : String := "[fix]\ntabsize = 8\neol = WIN\nfix_mode = no\nfix_eof = no\nbackup = yes\n"

/-- Line endings, tabs and modes are fixed as the configuration says, ends of files are not. -/
theorem fix_with_settings_for_text : ∃ f : Fixer, f.tabSize = .int 8 ∧ f.eol = .eol .win ∧
    f.mode = .flag false ∧ f.finalEol = .flag false ∧ f.backup = .text ".bak" ∧
    FixEnds (execute (plainCall .fix ["-c", "c.ini", "a.c"]) (iniWorld fixText "a.c" [0x78]))
      ((fixPaths { f with finalEol := .flag true, backup := .none } [.text "a.c"]).run
        (ready (iniWorld fixText "a.c" [0x78]) Level.info.number f.patterns)) := by
  have hp : (iniWorld fixText "a.c" [0x78]).tree.Plain := by decide
  have hini : Config.ofFile "c.ini" (Text.encode fixText.toList) = .ok ⟨[], [("fix",
      [("tabsize", "8"), ("eol", "WIN"), ("fix_mode", "no"), ("fix_eof", "no"), ("backup", "yes")])]⟩ := by
    decide +kernel
  have hconfigured : Configured (iniWorld fixText "a.c" [0x78]) .fix ["-c", "c.ini", "a.c"]
      (lineValues .fix ["-c", "c.ini", "a.c"]) _ := configured_iniWorld rfl rfl hp hini
  obtain ⟨f, hf, hends⟩ := fix_with_config_settings hconfigured (by decide) rfl rfl rfl (by decide) rfl rfl
  cases hf
  exact ⟨_, rfl, rfl, rfl, rfl, rfl, hends⟩

lemma run_fixPaths_file {f : Fixer} {fixes : List LineFix} {sel : Selection} {e : Eol} {path : String}
    {loc : Location} {data : Bytes} {mode n : Nat} {s : Text} (hf : f.Direct fixes sel e)
    (hmode : f.mode.isOn = true) (hp : w.tree.Plain)
    (h : SourceWalk.Picks w.tree sel .text path loc data mode s) :
    ∃ w', (fixPaths f [.text path]).run (ready w n p) = (.ok (), w') ∧
      w'.tree.get? loc = some (.file (f.fixedBytes fixes e s) (flippedMode mode)) := by
  rw [← ready_tree w n p] at hp h
  obtain ⟨w', hrun, -, hfixed⟩ := Fixer.scan_flips_file hf hmode hp h
  exact ⟨w', run_bind_ok hrun _, hfixed⟩

def openEndText : String := "[fix]\nfix_eof = no\n"

/-- The fixer of a configuration leaves the end of a file as it is, and the program does not. -/
theorem config_end_of_file_ignored :
    let w := iniWorld openEndText "a.c" [0x78]
    let values := lineValues .fix ["-c", "c.ini", "a.c"]
    ∃ ini settings p f w', Configured w .fix ["-c", "c.ini", "a.c"] values ini ∧
      Config.fixerSettings ini = .ok settings ∧ Config.patterns ini = .ok p ∧
      Fixer.ofOptions settings p = .ok f ∧
      (fixPaths f (paths values)).run (ready w Level.info.number p) = (.ok (), w') ∧
      w'.tree.get? ["a.c"] = some (.file [0x78] 0o644) ∧
      (execute (plainCall .fix ["-c", "c.ini", "a.c"]) w).world.tree.get? ["a.c"] =
        some (.file [0x78, 0x0a] 0o644) := by
  intro w values
  have hp : w.tree.Plain := by decide
  have hini : Config.ofFile "c.ini" (Text.encode openEndText.toList) =
      .ok ⟨[], [("fix", [("fix_eof", "no")])]⟩ := by decide +kernel
  have hconfigured : Configured w .fix ["-c", "c.ini", "a.c"] values _ :=
    configured_iniWorld rfl rfl hp hini
  have hloc : Path.locate w.tree .follow "a.c" = .ok ["a.c"] := Path.locate_name hp rfl
  obtain ⟨sel, hsel⟩ : ∃ sel, Selection.ofPatterns .text Config.noPatterns = .ok sel := ⟨_, rfl⟩
  have hpicks : SourceWalk.Picks w.tree sel .text "a.c" ["a.c"] [0x78] 0o644 ['x'] := by
    cases hsel
    exact ⟨hloc, rfl, rfl, rfl, rfl⟩
  have hfix : ∀ f : Fixer, f.Direct [.trim, .tabs 4] sel .native → f.mode.isOn = true →
      ∃ w', (fixPaths f (paths values)).run (ready w Level.info.number Config.noPatterns) = (.ok (), w') ∧
        w'.tree.get? ["a.c"] =
          some (.file (f.fixedBytes [.trim, .tabs 4] .native ['x']) (flippedMode 0o644)) :=
    fun f hf hmode => run_fixPaths_file hf hmode hp hpicks
  obtain ⟨w', hrun, hfile⟩ := hfix { finalEol := .flag false, patterns := Config.noPatterns }
    ⟨rfl, hsel, rfl, rfl, rfl⟩ rfl
  obtain ⟨w'', hrun', hfile'⟩ := hfix { backup := .flag false, patterns := Config.noPatterns }
    ⟨rfl, hsel, rfl, rfl, rfl⟩ rfl
  have hends := fixEnds_of_comes (ConfiguredOnly.comes_fix ⟨hconfigured, by decide, rfl, rfl, rfl, by decide⟩ rfl rfl)
  refine ⟨_, _, _, _, w', hconfigured, rfl, rfl, rfl, hrun, ?_, ?_⟩
  · rw [hfile]
    decide +kernel
  · rw [hends.tree]
    refine (congrArg (fun x => x.2.tree.get? ["a.c"]) hrun').trans (hfile'.trans ?_)
    decide +kernel

/-- The checker of a configuration does the work, but for two of its settings: it takes the native line
ending and ASCII for right, whatever the configuration says on that. -/
theorem check_with_config_settings {settings : Options} (h : Configured w .check line values ini)
    (hline : ∀ a ∈ (commandGrammar w.year .check).given line, a.target = "config")
    (hsection : ini.hasSection "check" = true)
    (hsettings : Config.present ini "check" (Config.readers .check) = .ok settings)
    (hoff : settings.get "clang_format" (.flag false) = .flag false)
    (hpatterns : Config.patterns ini = .ok p) (hlevel : Config.level true ini = .ok level) :
    ∃ c, Checker.ofOptions settings p = .ok c ∧
      CheckEnds (execute (plainCall .check line) w)
        (((paths values).mapM
            (Checker.scan { c with eol := .eol .native, encoding := .text "ascii" })).run
          (ready w (level.getD Level.info.number) p)) := by
  obtain ⟨known, hknown, hsame⟩ := Config.exists_checkOptions hsection hsettings hlevel
  have hget : ∀ t ∈ (Config.readers .check).map Prod.fst, ∀ v, known.get t v = settings.get t v := by
    intro t ht v
    rw [Options.get, Options.get, hsame t ht]
  have hformatter : (known.lookup "clang_format").getD .none ∈ noFormatter := by
    rw [hsame _ (by decide)]
    unfold Options.get at hoff
    cases hlookup : settings.lookup "clang_format" with
    | none => decide
    | some v =>
      rw [hlookup] at hoff
      cases hoff
      decide
  have hlimitReader : ("maxlinelen", Config.number) ∈ Config.readers .check := by simp [Config.readers]
  have heolReader : ("eol", Config.eol) ∈ Config.readers .check := by simp [Config.readers]
  obtain ⟨n, hlimit⟩ :=
    Config.getD_optional_number (Config.lookup_present hsettings (by decide) hlimitReader) 0
  obtain ⟨e, heol⟩ :=
    Config.getD_optional_eol (Config.lookup_present hsettings (by decide) heolReader) .native
  have honly : ConfiguredOnly w .check line values ini p known level :=
    ⟨h, hline, hpatterns, hknown, hlevel, hformatter⟩
  have hcomes := honly.comes_check ((hget _ (by decide) _).trans hlimit)
  have hends := checkEnds_of_comes hcomes
  rw [hget "failfast" (by decide), hget "check_tabs" (by decide), hget "check_eol" (by decide),
    hget "check_trailing" (by decide), hget "check_encoding" (by decide),
    hget "check_eol_at_eof" (by decide), hget "check_relative_include" (by decide),
    hget "check_copyright" (by decide), hget "check_mode" (by decide),
    configLevel_of_section (c := .check) hsection] at hends
  have hkeys := (Config.keys_present hsettings).subset
  refine ⟨_, Checker.ofOptions_eq_ok (List.Subset.trans hkeys (by decide)) hlimit heol, ?_⟩
  dsimp only
  rw [hoff]
  exact hends

def checkText : String := "[check]\neol = WIN\nencoding = utf-8\ncheck_copyright = no\nmaxlinelen = 80\n"

/-- Lines are measured as the configuration says, their endings and characters are not taken as in it. -/
theorem check_with_settings_for_text : ∃ c : Checker, c.notice = .flag false ∧ c.lineLimit = .int 80 ∧
    c.eol = .eol .win ∧ c.encoding = .text "utf-8" ∧
    CheckEnds (execute (plainCall .check ["-c", "c.ini", "a.c"]) (iniWorld checkText "a.c" [0x78]))
      (([.text "a.c"].mapM (Checker.scan { c with eol := .eol .native, encoding := .text "ascii" })).run
        (ready (iniWorld checkText "a.c" [0x78]) Level.info.number c.patterns)) := by
  have hp : (iniWorld checkText "a.c" [0x78]).tree.Plain := by decide
  have hini : Config.ofFile "c.ini" (Text.encode checkText.toList) = .ok ⟨[], [("check",
      [("eol", "WIN"), ("encoding", "utf-8"), ("check_copyright", "no"), ("maxlinelen", "80")])]⟩ := by
    decide +kernel
  have hconfigured : Configured (iniWorld checkText "a.c" [0x78]) .check ["-c", "c.ini", "a.c"]
      (lineValues .check ["-c", "c.ini", "a.c"]) _ := configured_iniWorld rfl rfl hp hini
  obtain ⟨c, hc, hends⟩ := check_with_config_settings hconfigured (by decide) rfl rfl rfl rfl rfl
  cases hc
  exact ⟨_, rfl, rfl, rfl, rfl, hends⟩

lemma run_mapM_scan_file {c : Checker} {checks : List (String × Check)} {sel : Selection} {path : String}
    {loc : Location} {data : Bytes} {mode n : Nat} (names : List String)
    (hchecks : c.thorough.checklist = .ok checks)
    (hsel : Selection.ofPatterns .binary c.patterns = .ok sel) (hn : w.tree.Named)
    (h : SourceWalk.Picks w.tree sel .binary path loc data mode data)
    (hnames : (Checker.failures false (ready w n p)
      (c.thorough.tests checks (.ofPath path) data)).map (Tally.addAll []) = .ok (names.map (·, 1))) :
    ∃ tally w', ([.text path].mapM c.thorough.scan).run (ready w n p) = (.ok [tally], w') ∧
      (tally = [] ↔ names = []) := by
  rw [← ready_tree w n p] at hn h
  have hfinds := SourceTree.finds_file (m := .binary) hsel h
  have hcheck : ∀ q ∈ [(Source.ofPath path, SourceTree.Content.bytes data)],
      ((c.thorough.checkFile (.text q.1.path)).run (ready w n p)).1 = .ok (names.map (·, 1)) := by
    rw [List.forall_mem_singleton]
    exact (Checker.run_checkFile hchecks (FileTree.read_of_locate h.located h.file)).trans hnames
  obtain ⟨tally, w', hrun, -, hcounts⟩ := Checker.run_scan_selected (v := ready w n p) rfl hchecks hn rfl
    ⟨hfinds, fun q hq => ⟨_, _, Prod.ext (hcheck q hq) rfl⟩⟩
  refine ⟨tally, w', ?_, ?_⟩
  · rw [List.mapM_cons, run_bind_ok hrun]
    rfl
  · rw [hcounts.eq_nil_iff hcheck, List.forall_mem_singleton]

/-- A configuration for sources that are not of the native kind. -/
def foreignText : String :=
  "[check]\neol = WIN\nencoding = utf-8\ncheck_copyright = no\ncheck_mode = no\n"

/-- The checker of a configuration finds nothing in a file, and the program does. -/
theorem config_eol_and_encoding_ignored :
    let w := iniWorld foreignText "a.c" [0xc3, 0xa9, 0x0d, 0x0a]
    let values := lineValues .check ["-c", "c.ini", "a.c"]
    ∃ ini settings p c w', Configured w .check ["-c", "c.ini", "a.c"] values ini ∧
      Config.present ini "check" (Config.readers .check) = .ok settings ∧
      Config.patterns ini = .ok p ∧ Checker.ofOptions settings p = .ok c ∧
      ((paths values).mapM c.scan).run (ready w Level.info.number p) = (.ok [[]], w') ∧
      (execute (plainCall .check ["-c", "c.ini", "a.c"]) w).ending = .answered true := by
  intro w values
  have hp : w.tree.Plain := by decide
  have hn : w.tree.Named := FileTree.named_of_entries (by decide)
  have hini : Config.ofFile "c.ini" (Text.encode foreignText.toList) = .ok ⟨[], [("check",
      [("eol", "WIN"), ("encoding", "utf-8"), ("check_copyright", "no"), ("check_mode", "no")])]⟩ := by
    decide +kernel
  have hconfigured : Configured w .check ["-c", "c.ini", "a.c"] values _ :=
    configured_iniWorld rfl rfl hp hini
  have hloc : Path.locate w.tree .follow "a.c" = .ok ["a.c"] := Path.locate_name hp rfl
  let tool : Checker := { notice := .flag false, mode := .flag false, patterns := Config.noPatterns }
  obtain ⟨tally, w', hrun, hnil⟩ := run_mapM_scan_file
    (c := { tool with eol := .eol .win, encoding := .text "utf-8" }) (n := Level.info.number)
    (p := Config.noPatterns) [] rfl rfl hn ⟨hloc, rfl, rfl, rfl, rfl⟩ rfl
  obtain ⟨tally', w'', hrun', hnil'⟩ := run_mapM_scan_file (c := tool) (n := Level.info.number)
    (p := Config.noPatterns) ["invalid EOL", "not ascii"] rfl rfl hn ⟨hloc, rfl, rfl, rfl, rfl⟩ rfl
  have hends :=
    checkEnds_of_comes (ConfiguredOnly.comes_check ⟨hconfigured, by decide, rfl, rfl, rfl, by decide⟩ rfl)
  obtain rfl : tally = [] := hnil.mpr rfl
  refine ⟨_, _, _, _, w', hconfigured, rfl, rfl, rfl, hrun, ?_⟩
  rw [hends.ending]
  refine (congrArg (fun x => endingOf _ x.1) hrun').trans ?_
  have hfull : tally'.isEmpty = false :=
    List.isEmpty_eq_false_iff.mpr fun hempty => absurd (hnil'.mp hempty) (List.cons_ne_nil _ _)
  simp [endingOf, hfull]

end Program

end SourceTidy
