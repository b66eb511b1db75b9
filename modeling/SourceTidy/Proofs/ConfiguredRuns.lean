import SourceTidy.Proofs.ConfigOptions
import SourceTidy.Proofs.GivenOptions
import SourceTidy.Proofs.NeutralConfig

/-!
# Runs with a configuration

When a command line names a configuration, its words are read a second time over the options that the
configuration gives. The values after that are those of the words, and for targets that no word writes
to those of the configuration.
-/

namespace SourceTidy

open Config

open Grammar

namespace Request

variable {year : Int} {c : Command} {line : List String} {values known : Values} {t : String}

lemma target_of_nameless {a : Argument} (h : a ∈ (commandGrammar year c).nameless) : a.target = "paths" := by
  cases c <;> cases h <;> rfl

lemma value_of_ungiven (h : readProgram year true (c.name :: line) = .ok (c, values))
    (hcommand : t ≠ "command") (hpaths : t ≠ "paths")
    (hungiven : ∀ a ∈ (commandGrammar year c).given line, a.target ≠ t) :
    (withLevel values).value t = (withLevel ((commandGrammar year c).initialValues [])).value t := by
  obtain ⟨all, v, -, hread, rfl, -⟩ := readProgram_eq_ok_iff.mp h
  have hlookup : v.lookup t = ((commandGrammar year c).initialValues []).lookup t :=
    lookup_readSome hread (fun a ha => target_of_nameless ha ▸ hpaths.symm) hungiven
  refine value_withLevel_congr ?_
  rw [value_programValues (proper_readSome hread) c hcommand, Values.value, hlookup]
  rfl

/-- The values of a line that was read again over known ones. -/
structure Reread (year : Int) (c : Command) (line : List String) (known values values' : Values) :
    Prop where
  unknown : ∀ t, t ≠ "command" → known.lookup t = none → values'.value t = values.value t
  ungiven : ∀ t, t ≠ "command" → t ≠ "paths" →
    (∀ a ∈ (commandGrammar year c).given line, a.target ≠ t) →
    values'.value t = (withLevel ((commandGrammar year c).initialValues known)).value t

lemma read_known (hknown : known.Proper) (hleft : known.lookup leftTarget = none)
    (h : readProgram year true (c.name :: line) = .ok (c, values)) :
    ∃ values', read year true (c.name :: line) (c.name :: line) (some known) = .ok (c, values') ∧
      Reread year c line known (withLevel values) values' := by
  obtain ⟨all, v, -, hread, rfl, -⟩ := readProgram_eq_ok_iff.mp h
  obtain ⟨⟨v', left⟩, hread', hwritten, hsame⟩ := follows_readSome hknown line programName _ hread
  obtain rfl : left = [] := hsame
  obtain ⟨words, -, hwords, -, -⟩ := readSome_eq_ok_iff.mp hread
  refine ⟨_, read_some_eq_ok h (readOver_of_none hleft hread'), fun t ht hnone => ?_,
    fun t ht hpaths hungiven => ?_⟩
  · have hsame : v'.lookup t = v.lookup t := by
      rcases hwritten.same t with hsame | ⟨hv, hv'⟩
      · exact hsame
      · rw [hv, hv', lookup_initialValues, hnone, Option.none_or]
    refine value_withLevel_congr ?_
    rw [value_put_of_ne ht, hsame, value_programValues hwritten.proper c ht]
    rfl
  · have hlookup : v'.lookup t = ((commandGrammar year c).initialValues known).lookup t := by
      refine lookup_readSome hread' (fun a ha => target_of_nameless ha ▸ hpaths.symm) fun a ha => ?_
      rw [given_named hwords] at ha
      exact hungiven a ha
    refine value_withLevel_congr ?_
    rw [value_put_of_ne ht, hlookup]
    rfl

lemma Reread.value_eq {values' : Values} (h : Reread year c line known values values')
    (hcommand : t ≠ "command") (hpaths : t ≠ "paths") (hlevel : t ≠ "loglevel")
    (hungiven : ∀ a ∈ (commandGrammar year c).given line, a.target ≠ t) :
    values'.value t = (known.lookup t).getD (((commandGrammar 0 c).initialValues []).value t) := by
  rw [h.ungiven t hcommand hpaths hungiven, value_withLevel_of_ne hlevel, Values.value,
    lookup_initialValues, initialValues_commandGrammar]
  cases known.lookup t <;> rfl

end Request

namespace Program

open Request Session

variable {w : World} {c : Command} {line : List String} {values : Values} {ini : Ini} {p : Patterns}
  {known : Options}

/-- A command line that is accepted and names a configuration, with the values that it gives. -/
structure Configured (w : World) (c : Command) (line : List String) (values : Values) (ini : Ini) : Prop where
  accepted : request (plainCall c line) w.year = .ok (c, values)
  file : ∃ path data, values.value "config" = .text path ∧ w.tree.read path = .ok data ∧
    ofFile path data = .ok ini

lemma levelOf_initialValues (hc : c ≠ .dumpConfig) (year : Int) {known : Values} {level : Option Nat}
    (hlevel : known.lookup "loglevel" = level.map fun n => .int n) :
    levelOf ((withLevel ((commandGrammar year c).initialValues known)).value "loglevel") =
      .ok (level.getD Level.info.number) := by
  have hvalue : ((commandGrammar year c).initialValues known).value "loglevel" =
      (level.map fun n => Setting.int n).getD (.text Level.info.name) := by
    rw [Values.value, lookup_initialValues, hlevel, (lookup_level year hc).1]
    cases level <;> rfl
  rw [value_withLevel, hvalue]
  cases level <;> rfl

lemma lookup_level_known (hknown : commandOptions true ini (.text c.name) = .ok known)
    {level : Option Nat} (hlevel : Config.level true ini = .ok level) :
    known.lookup "loglevel" = (if ini.hasSection c.name then level else none).map fun n => .int n := by
  split
  · next hsection => exact lookup_level_commandOptions hknown hsection hlevel
  · next hsection =>
    rw [commandOptions_eq (ne_dumpConfig_of_options hknown), if_neg hsection] at hknown
    cases hknown
    rfl

section

variable {level : Option Nat} (h : Configured w c line values ini)
  (hungiven : ∀ a ∈ (commandGrammar w.year c).given line, a.target ≠ "loglevel")
  (hpatterns : patterns ini = .ok p) (hknown : commandOptions true ini (.text c.name) = .ok known)
  (hlevel : Config.level true ini = .ok level)

include h hungiven hpatterns hknown hlevel

lemma Configured.run_prepare :
    ∃ values', Reread w.year c line known values values' ∧
      (prepare (plainCall c line) c values).run (started w) =
        (do return .inr (← equip c values' p) : Session (Exit ⊕ Task)).run { started w with
          threshold := (if ini.hasSection c.name then level else none).getD Level.info.number } := by
  obtain ⟨path, data, hconfig, hread, hfile⟩ := h.file
  obtain ⟨v, hv, rfl⟩ := request_eq_ok_iff.mp h.accepted
  have hc : c ≠ .dumpConfig := ne_dumpConfig_of_options hknown
  have hn : levelOf ((withLevel v).value "loglevel") = .ok Level.info.number := by
    have hnone : List.lookup "loglevel" ([] : Values) =
        Option.map (fun n : Nat => Setting.int n) none := rfl
    rw [value_of_ungiven hv (by decide) (by decide) hungiven]
    exact levelOf_initialValues hc w.year hnone
  obtain ⟨values', hread', hreread⟩ := read_known (proper_commandOptions hknown)
    (lookup_leftTarget_commandOptions hknown) hv
  have hn' := levelOf_initialValues hc w.year (lookup_level_known hknown hlevel)
  rw [← hreread.ungiven _ (by decide) (by decide) hungiven] at hn'
  exact ⟨values', hreread, run_prepare_config (w := started w) (plainCall c line) hconfig hn hread
    hfile hpatterns hknown hread' hn'⟩

lemma Configured.threshold_prepare :
    ((prepare (plainCall c line) c values).run (started w)).2.threshold =
      (if ini.hasSection c.name then level else none).getD Level.info.number := by
  obtain ⟨values', -, hprepare⟩ := h.run_prepare hungiven hpatterns hknown hlevel
  have hleaves : Leaves World.threshold
      (do return .inr (← equip c values' p) : Session (Exit ⊕ Task)) :=
    .bind (leaves_equip World.logged_threshold (fun _ _ => rfl) c values' p) fun _ => .pure _
  rw [hprepare, hleaves]

end

lemma hasOption_of_value {sectionName option text : String}
    (h : value ini sectionName option = .ok text) : ini.hasOption sectionName option = true := by
  unfold value Ini.get at h
  unfold Ini.hasOption
  split at h
  · split at h <;> cases h
  · next value hraw => rw [hraw]; rfl

lemma level_of_value {name : String} {n : Nat} (hlogging : ini.hasSection "logging" = true)
    (hname : value ini "logging" "loglevel" = .ok name)
    (hn : Level.threshold? true name = some n) : level true ini = .ok (some n) := by
  rw [level, if_pos (by rw [hlogging, hasOption_of_value hname]; rfl), hname, ok_bind, hn]
  rfl

/-- The level that a configuration names is the one of the log if the command has a section in the
configuration, too. Otherwise the log has its usual level. -/
theorem config_level_with_command_section {name : String} {n : Nat}
    (h : Configured w c line values ini)
    (hungiven : ∀ a ∈ (commandGrammar w.year c).given line, a.target ≠ "loglevel")
    (hpatterns : Config.patterns ini = .ok p)
    (hknown : Config.commandOptions true ini (.text c.name) = .ok known)
    (hlogging : ini.hasSection "logging" = true)
    (hname : Config.value ini "logging" "loglevel" = .ok name)
    (hn : Level.threshold? true name = some n) :
    ((prepare (plainCall c line) c values).run (started w)).2.threshold =
      if ini.hasSection c.name then n else Level.info.number := by
  rw [h.threshold_prepare hungiven hpatterns hknown (level_of_value hlogging hname hn)]
  split <;> rfl

/-- A world with a configuration file next to a source. -/
def iniWorld (text name : String) (data : Bytes) : World where
  tree := { entries := [(["c.ini"], .file (Text.encode text.toList) 0o644), ([name], .file data 0o644)] }
  year := 2024

def lineValues (c : Command) (line : List String) : Values :=
  match request (plainCall c line) 2024 with
  | .ok (_, values) => values
  | .error _ => []

lemma configured_iniWorld {text name : String} {data : Bytes}
    (haccepted : request (plainCall c line) 2024 = .ok (c, values))
    (hconfig : values.value "config" = .text "c.ini") (hp : (iniWorld text name data).tree.Plain)
    (hini : ofFile "c.ini" (Text.encode text.toList) = .ok ini) :
    Configured (iniWorld text name data) c line values ini :=
  ⟨haccepted, "c.ini", _, hconfig, FileTree.read_of_locate (Path.locate_name hp rfl) rfl, hini⟩

def fixLevelText : String := "[logging]\nloglevel = %(usual)s\nusual = ERROR\n[fix]\ntabsize = 8\n"

/-- With a section for the fixer, its log has the level of the configuration. -/
theorem config_level_for_fixer :
    ((prepare (plainCall .fix ["-c", "c.ini", "a.c"]) .fix (lineValues .fix ["-c", "c.ini", "a.c"])).run
      (started (iniWorld fixLevelText "a.c" [0x78]))).2.threshold = Level.error.number := by
  have hp : (iniWorld fixLevelText "a.c" [0x78]).tree.Plain := by decide
  have hini : Config.ofFile "c.ini" (Text.encode fixLevelText.toList) = .ok ⟨[],
      [("logging", [("loglevel", "%(usual)s"), ("usual", "ERROR")]), ("fix", [("tabsize", "8")])]⟩ := by
    decide +kernel
  have hconfigured : Configured (iniWorld fixLevelText "a.c" [0x78]) .fix ["-c", "c.ini", "a.c"]
      (lineValues .fix ["-c", "c.ini", "a.c"]) _ := configured_iniWorld rfl rfl hp hini
  exact config_level_with_command_section hconfigured (by decide) rfl rfl rfl rfl rfl

def levelText : String := "[logging]\nloglevel = ERROR\n"

/-- Without a section for the checker, its log does not have the level of the configuration. -/
theorem config_level_lost_without_section :
    ∃ ini, Configured (iniWorld levelText "a.c" [0x78, 0x0a]) .check ["-c", "c.ini", "a.c"]
        (lineValues .check ["-c", "c.ini", "a.c"]) ini ∧
      (∀ a ∈ (commandGrammar 2024 .check).given ["-c", "c.ini", "a.c"], a.target ≠ "loglevel") ∧
      Config.level true ini = .ok (some Level.error.number) ∧
      ((prepare (plainCall .check ["-c", "c.ini", "a.c"]) .check
        (lineValues .check ["-c", "c.ini", "a.c"])).run
          (started (iniWorld levelText "a.c" [0x78, 0x0a]))).2.threshold = Level.info.number := by
  have hp : (iniWorld levelText "a.c" [0x78, 0x0a]).tree.Plain := by decide
  have hini : Config.ofFile "c.ini" (Text.encode levelText.toList) =
      .ok ⟨[], [("logging", [("loglevel", "ERROR")])]⟩ := by decide +kernel
  have hconfigured : Configured (iniWorld levelText "a.c" [0x78, 0x0a]) .check ["-c", "c.ini", "a.c"]
      (lineValues .check ["-c", "c.ini", "a.c"]) _ := configured_iniWorld rfl rfl hp hini
  exact ⟨_, hconfigured, by decide, rfl, hconfigured.threshold_prepare (by decide) rfl rfl rfl⟩

end Program

end SourceTidy
