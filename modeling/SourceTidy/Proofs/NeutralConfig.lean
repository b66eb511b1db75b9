import SourceTidy.Proofs.CommandLines
import SourceTidy.Proofs.SteadyRuns
import SourceTidy.Proofs.UsualConfig

/-!
# The usual configuration is neutral

The program can be told to read the configuration that it prints itself. It then does what it does
without a configuration: the answer, the tree and the calls of formatters are the same, and only the
log can differ.
-/

namespace SourceTidy

open Config Level Values

open Grammar

variable {data : Bytes} {n : Nat} {v : Setting} {t : String}

namespace Request

variable {year : Int} {c : Command} {path : String} {line : List String}

lemma value_withLevel (values : Values) (t : String) :
    (withLevel values).value t = if t = "loglevel" ∧ values.value t = .none
      then .int warning.number else values.value t := by
  rw [Values.value, lookup_withLevel]
  split
  · rfl
  · rfl

lemma value_withLevel_congr {values values' : Values} (h : values'.value t = values.value t) :
    (withLevel values').value t = (withLevel values).value t := by
  rw [value_withLevel, value_withLevel, h]

lemma value_withLevel_of_ne {values : Values} (ht : t ≠ "loglevel") :
    (withLevel values).value t = values.value t := by
  rw [value_withLevel, if_neg fun h => ht h.1]

lemma value_put_of_ne {v : Values} {t' : String} (ht : t ≠ t') (x : Setting) :
    (v.put t' x).value t = (v.lookup t).getD .none := by
  rw [Values.value, Values.lookup_put_of_ne ht]

lemma value_programValues {v : Values} (hv : v.Proper) (c : Command)
    (ht : t ≠ "command") : (programValues c v).value t = v.value t := by
  have hother : List.lookup t [("command", Setting.text c.name)] = none := by
    rw [List.lookup_cons, beq_eq_false_iff_ne.mpr ht]
    rfl
  rw [Values.value, programValues, Values.lookup_putAll _ hv, hother, Option.or_none]
  rfl

/-- The targets that the usual configuration gives other values than the grammar of the command. -/
def changedTargets : Command → List String
  | .check => ["clang_format", "eol", "encoding", "loglevel"]
  | .fix => ["clang_format", "loglevel"]
  | .updateCopyright => ["year", "loglevel"]
  | .dumpConfig => []

/-- The usual configuration says of all other targets what holds without it. -/
lemma lookup_usualOptions (ht : t ∉ changedTargets c) (h : (usualOptions year c).lookup t = some v) :
    ((commandGrammar year c).initialValues []).lookup t = some v := by
  have hmem : (t, v) ∈ usualOptions year c := by
    obtain ⟨l, l', hsplit, -⟩ := List.lookup_eq_some_iff.mp h
    rw [hsplit]
    exact List.mem_append_right _ List.mem_cons_self
  rw [initialValues_commandGrammar]
  cases c with
  | check =>
    exact (by decide : ∀ p ∈ usualOptions 0 .check, p.1 ∉ changedTargets .check →
      ((commandGrammar 0 .check).initialValues []).lookup p.1 = some p.2) (t, v) hmem ht
  | fix =>
    exact (by decide : ∀ p ∈ usualOptions 0 .fix, p.1 ∉ changedTargets .fix →
      ((commandGrammar 0 .fix).initialValues []).lookup p.1 = some p.2) (t, v) hmem ht
  | updateCopyright =>
    have hchanged : t ≠ "year" ∧ t ≠ "loglevel" := by simpa [changedTargets] using ht
    have hupdate : (t, v) = ("update", .flag true) := by
      rw [usualOptions] at hmem
      simp only [List.mem_append, List.mem_singleton] at hmem
      rcases hmem with (hmem | hmem) | hmem
      · exact hmem
      · split at hmem
        · cases hmem
        · exact absurd (Prod.mk.inj (List.mem_singleton.mp hmem)).1 hchanged.1
      · exact absurd (Prod.mk.inj hmem).1 hchanged.2
    cases hupdate
    decide
  | dumpConfig => cases hmem

lemma lookup_configured (ht : t ∉ changedTargets c) :
    ((commandGrammar year c).initialValues (usualOptions year c)).lookup t =
      ((commandGrammar year c).initialValues []).lookup t := by
  rw [lookup_initialValues]
  cases h : (usualOptions year c).lookup t with
  | none => rfl
  | some v => rw [lookup_usualOptions ht h]; rfl

lemma classify_configName (hc : c ≠ .dumpConfig) : (commandGrammar year c).classify "-c" =
    .ok (.option { argument := some Commands.configOption, isLong := false }) := by
  cases c with
  | check => rfl
  | fix => rfl
  | updateCopyright => rfl
  | dumpConfig => exact absurd rfl hc

lemma ne_hyphens_of_value (h : (commandGrammar year c).classify path = .ok .value) : path ≠ "--" := by
  rintro rfl
  cases c <;> cases h

lemma words_config {all : List Word} (hall : Commands.program.words line = .ok all)
    (hpath : (commandGrammar year c).classify path = .ok .value) :
    ∃ all', Commands.program.words ("-c" :: path :: line) = .ok all' := by
  obtain ⟨kind, hkind⟩ := classify_program hpath
  have hname : Commands.program.classify "-c" =
      .ok (.option { argument := none, isLong := false }) := rfl
  rw [words, if_neg (by decide), hname, words, if_neg (by simpa using ne_hyphens_of_value hpath),
    hkind, hall]
  exact ⟨_, rfl⟩

lemma follows_config (hc : c ≠ .dumpConfig)
    (hpath : (commandGrammar year c).classify path = .ok .value) {preset : Values}
    (hpreset : preset.Proper) (program : String) :
    Follows (fun x x' => Written ((commandGrammar year c).initialValues [])
        (((commandGrammar year c).initialValues preset).put "config" (.text path)) x.1 x'.1 ∧ x'.2 = x.2)
      ((commandGrammar year c).readSome noCommand [] line)
      (((commandGrammar year c).named program).readSome noCommand preset ("-c" :: path :: line)) :=
  follows_readSome_cons (by decide) (classify_configName hc) rfl rfl (ne_hyphens_of_value hpath) hpath
    rfl hpreset line program

/-- A line that is accepted is accepted with the option for a configuration, too, and no other value
differs. -/
lemma readProgram_config (hc : c ≠ .dumpConfig)
    (hpath : (commandGrammar year c).classify path = .ok .value) {values : Values}
    (h : readProgram year true (c.name :: line) = .ok (c, values)) :
    ∃ values', readProgram year true (c.name :: "-c" :: path :: line) = .ok (c, values') ∧
      (∀ t, t ≠ "config" → values'.value t = values.value t) ∧
      (values'.value "config" = values.value "config" ∨ values'.value "config" = .text path) := by
  obtain ⟨all, v, hall, hread, rfl, hcommand⟩ := readProgram_eq_ok_iff.mp h
  obtain ⟨all', hall'⟩ := words_config hall hpath
  obtain ⟨⟨v', left⟩, hread', hwritten, hleft⟩ := follows_config hc hpath proper_nil
    (commandGrammar year c).program _ hread
  obtain rfl : left = [] := hleft
  have hother : ∀ t, t ≠ "config" → v'.lookup t = v.lookup t := by
    intro t ht
    rcases hwritten.same t with hsame | ⟨hold, hold'⟩
    · exact hsame
    · rw [hold, hold', lookup_put_of_ne ht]
  have hvalue : ∀ t, v'.lookup t = v.lookup t →
      (programValues c v').value t = (programValues c v).value t := by
    intro t ht
    rw [Values.value, Values.value, programValues, programValues,
      lookup_putAll _ hwritten.proper, lookup_putAll _ hwritten.proper', ht]
  have hconfig : (programValues c v').value "config" = (programValues c v).value "config" ∨
      (programValues c v').value "config" = .text path := by
    rcases hwritten.same "config" with hsame | ⟨-, hnew⟩
    · exact .inl (hvalue _ hsame)
    · rw [lookup_put_self] at hnew
      rw [value_programValues hwritten.proper' c (by decide), Values.value, hnew]
      exact .inr rfl
  refine ⟨programValues c v', readProgram_eq_ok_iff.mpr ⟨all', v', hall', hread', rfl, ?_⟩,
    fun t ht => hvalue t (hother t ht), hconfig⟩
  rw [commandOf, hvalue _ (hother _ (by decide))]
  exact hcommand

lemma proper_usualOptions (year : Int) (c : Command) : Proper (usualOptions year c) := by
  cases c with
  | check => exact (by decide : ((usualOptions 0 .check).map Prod.fst).Nodup)
  | fix => exact (by decide : ((usualOptions 0 .fix).map Prod.fst).Nodup)
  | updateCopyright =>
    unfold usualOptions
    dsimp only
    split
    · exact (by decide : ["update", "loglevel"].Nodup)
    · exact (by decide : ["update", "year", "loglevel"].Nodup)
  | dumpConfig => exact proper_nil

/-- What values that differ in the configuration still have in common. -/
structure Neutral (year : Int) (c : Command) (values values' : Values) : Prop where
  same : ∀ t, t ∉ "command" :: "config" :: changedTargets c → values'.value t = values.value t
  level : values'.value "loglevel" = values.value "loglevel" ∨
    values.value "loglevel" = .text info.name ∧
      values'.value "loglevel" = .int warning.number
  formatter : values'.value "clang_format" = values.value "clang_format" ∨
    values.value "clang_format" = .none ∧
      (values'.value "clang_format" = .flag false ∨ values'.value "clang_format" = .text "False")
  year : c = .updateCopyright → values'.value "year" = values.value "year" ∨
    values.value "year" = .none ∧ values'.value "year" = .int year

lemma lookup_level (year : Int) (hc : c ≠ .dumpConfig) :
    ((commandGrammar year c).initialValues []).lookup "loglevel" = some (.text info.name) ∧
      (usualOptions year c).lookup "loglevel" = some (.int warning.number) := by
  rw [initialValues_commandGrammar]
  cases c with
  | check => exact ⟨by decide, rfl⟩
  | fix => exact ⟨by decide, rfl⟩
  | updateCopyright =>
    refine ⟨by decide, ?_⟩
    unfold usualOptions
    dsimp only
    split <;> rfl
  | dumpConfig => exact absurd rfl hc

lemma lookup_formatter (year : Int) (c : Command) :
    (usualOptions year c).lookup "clang_format" = none ∨
      ((commandGrammar year c).initialValues []).lookup "clang_format" = some .none ∧
        ((usualOptions year c).lookup "clang_format" = some (.flag false) ∨
          (usualOptions year c).lookup "clang_format" = some (.text "False")) := by
  rw [initialValues_commandGrammar]
  cases c with
  | check => exact .inr ⟨by decide, .inl rfl⟩
  | fix => exact .inr ⟨by decide, .inr rfl⟩
  | updateCopyright =>
    refine .inl ?_
    unfold usualOptions
    dsimp only
    split <;> rfl
  | dumpConfig => exact .inl rfl

lemma lookup_year (year : Int) : (usualOptions year .updateCopyright).lookup "year" = none ∨
    ((commandGrammar year .updateCopyright).initialValues []).lookup "year" = some .none ∧
      (usualOptions year .updateCopyright).lookup "year" = some (.int year) := by
  rw [initialValues_commandGrammar]
  unfold usualOptions
  dsimp only
  split
  · exact .inl rfl
  · exact .inr ⟨by decide, rfl⟩

lemma lookup_leftTarget (year : Int) (c : Command) : (usualOptions year c).lookup leftTarget = none := by
  cases c with
  | check => rfl
  | fix => rfl
  | updateCopyright =>
    unfold usualOptions
    dsimp only
    split <;> rfl
  | dumpConfig => rfl

lemma read_config (hc : c ≠ .dumpConfig)
    (hpath : (commandGrammar year c).classify path = .ok .value) {values : Values}
    (h : readProgram year true (c.name :: line) = .ok (c, values)) :
    ∃ values', read year true (c.name :: "-c" :: path :: line) (c.name :: "-c" :: path :: line)
        (some (usualOptions year c)) = .ok (c, values') ∧
      Neutral year c (withLevel values) values' := by
  obtain ⟨values₁, hprogram, -, -⟩ := readProgram_config hc hpath h
  obtain ⟨all, v, hall, hread, rfl, hcommand⟩ := readProgram_eq_ok_iff.mp h
  obtain ⟨⟨v', left⟩, hread', hwritten, hleft⟩ := follows_config hc hpath (proper_usualOptions year c)
    programName _ hread
  obtain rfl : left = [] := hleft
  refine ⟨_, read_some_eq_ok hprogram (readOver_of_none (lookup_leftTarget year c) hread'), ?_⟩
  have hold : ∀ t, t ≠ "command" → (programValues c v).value t = (v.lookup t).getD .none :=
    fun t ht => value_programValues hwritten.proper c ht
  have hnew := fun t (ht : t ≠ "command") => value_put_of_ne (v := v') ht (.text c.name)
  have hinitial : ∀ t, t ≠ "config" → v'.lookup t = v.lookup t ∨
      v.lookup t = ((commandGrammar year c).initialValues []).lookup t ∧
        v'.lookup t = ((usualOptions year c).lookup t).or
          (((commandGrammar year c).initialValues []).lookup t) := by
    intro t ht
    refine (hwritten.same t).imp_right fun hboth => ⟨hboth.1, ?_⟩
    rw [hboth.2, lookup_put_of_ne ht, lookup_initialValues]
  have hagree : ∀ t, t ≠ "command" → v'.lookup t = v.lookup t →
      (withLevel (v'.put "command" (.text c.name))).value t = (withLevel (programValues c v)).value t :=
    fun t ht hlookup => value_withLevel_congr (by rw [hold t ht, hnew t ht, hlookup])
  refine ⟨fun t ht => ?_, ?_, ?_, fun hc => ?_⟩
  · obtain ⟨hcommand, hconfig, hchanged⟩ : t ≠ "command" ∧ t ≠ "config" ∧ t ∉ changedTargets c := by
      simpa using ht
    refine hagree t hcommand ?_
    rcases hinitial t hconfig with hsame | ⟨hv, hv'⟩
    · exact hsame
    · rw [hv, hv', ← lookup_initialValues, lookup_configured hchanged]
  · rcases hinitial "loglevel" (by decide) with hsame | ⟨hv, hv'⟩
    · exact .inl (hagree _ (by decide) hsame)
    · obtain ⟨hinfo, hwarning⟩ := lookup_level year hc
      rw [hinfo] at hv
      rw [hwarning] at hv'
      refine .inr ⟨?_, ?_⟩
      · rw [value_withLevel, hold _ (by decide), hv]
        rfl
      · rw [value_withLevel, hnew _ (by decide), hv']
        rfl
  · rcases hinitial "clang_format" (by decide) with hsame | ⟨hv, hv'⟩
    · exact .inl (hagree _ (by decide) hsame)
    · rcases lookup_formatter year c with hnone | ⟨hnone, hoff⟩
      · rw [hnone, Option.none_or, ← hv] at hv'
        exact .inl (hagree _ (by decide) hv')
      · rw [hnone] at hv
        rw [value_withLevel_of_ne (by decide), value_withLevel_of_ne (by decide), hold _ (by decide),
          hnew _ (by decide), hv, hv']
        exact .inr ⟨rfl, hoff.imp (fun hoff => by rw [hoff]; rfl) fun hoff => by rw [hoff]; rfl⟩
  · subst hc
    rcases hinitial "year" (by decide) with hsame | ⟨hv, hv'⟩
    · exact .inl (hagree _ (by decide) hsame)
    · rcases lookup_year year with hnone | ⟨hnone, hyear⟩
      · rw [hnone, Option.none_or, ← hv] at hv'
        exact .inl (hagree _ (by decide) hv')
      · rw [hnone] at hv
        rw [hyear] at hv'
        rw [value_withLevel_of_ne (by decide), value_withLevel_of_ne (by decide), hold _ (by decide),
          hnew _ (by decide), hv, hv']
        exact .inr ⟨rfl, rfl⟩

end Request

namespace Session

lemma run_bind_congr {α β γ : Type} {φ : World → γ} {x : Session α} {g g' : α → Session β} {w : World}
    (hx : Leaves φ x) (hg : ∀ a w', φ w' = φ w → (g' a).run w' = (g a).run w') :
    (x >>= g').run w = (x >>= g).run w := by
  have hleaves := hx w
  rw [run_bind, run_bind]
  rcases hrun : x.run w with ⟨r, w'⟩
  rw [hrun] at hleaves
  cases r with
  | error f => rfl
  | ok a => exact hg a w' hleaves

end Session

namespace Program

open Request Session

variable {w : World} {c : Command} {call : Call} {path : String} {line : List String}
  {values values' : Values}

lemma choosePatterns_congr (hnames : values'.value "path_patterns" = values.value "path_patterns")
    (hskipped : values'.value "skip_path_patterns" = values.value "skip_path_patterns")
    (p : Patterns) : choosePatterns values' p = choosePatterns values p := by
  unfold choosePatterns
  rw [hnames, hskipped]

lemma chooseFormatter_neutral {year : Int} (h : Neutral year c values values') :
    chooseFormatter (values'.value "clang_format") = chooseFormatter (values.value "clang_format") := by
  rcases h.formatter with heq | ⟨hnone, hoff | hoff⟩
  · rw [heq]
  · rw [hnone, hoff]
    rfl
  · rw [hnone, hoff]
    rfl

lemma pick_congr {targets : List (String × String)}
    (h : ∀ p ∈ targets, values'.value p.2 = values.value p.2) : pick values' targets = pick values targets :=
  List.map_congr_left fun p hp => congrArg (Prod.mk p.1) (h p hp)

lemma checker_neutral {year : Int} (h : Neutral year .check values values') (formatter : Setting)
    (p : Patterns) : checker values' formatter p = checker values formatter p := by
  unfold checker
  dsimp only
  rw [pick_congr fun p hp => h.same p.2 ((by decide : ∀ p ∈ _, p.2 ∉ _) p hp)]

lemma fixer_neutral {year : Int} (h : Neutral year .fix values values') (formatter : Setting)
    (p : Patterns) : fixer values' formatter p = fixer values formatter p := by
  unfold fixer
  dsimp only
  rw [pick_congr fun p hp => h.same p.2 ((by decide : ∀ p ∈ _, p.2 ∉ _) p hp)]

lemma updater_neutral {year : Int} (h : Neutral year .updateCopyright values values') (p : Patterns) :
    updater year values' p = updater year values p := by
  have htemplate := h.same "copyright_template_path" (by decide)
  have hupdate := h.same "update" (by decide)
  have hbackup := h.same "backup" (by decide)
  unfold updater pick
  simp only [List.map_cons, List.map_nil, htemplate, hupdate, hbackup]
  rcases h.year rfl with heq | ⟨hnone, hyear⟩
  · rw [heq]
  · rw [hnone, hyear]
    rfl

section

variable {γ : Type} {φ : World → γ}

lemma leaves_choosePatterns (values : Values) (p : Patterns) : Leaves φ (choosePatterns values p) :=
  .of_matches fun _ => matches_choosePatterns values p

variable (hlog : ∀ w level message, φ (World.logged w level message) = φ w)

include hlog

lemma leaves_logPatterns (p : Patterns) : Leaves φ (logPatterns p) :=
  .bind (.log (hlog · _ _)) fun _ => .bind (.log (hlog · _ _)) fun _ => .log (hlog · _ _)

variable (hcall : ∀ w call, φ { w with calls := w.calls ++ [call] } = φ w)

include hcall

lemma leaves_chooseFormatter (v : Setting) : Leaves φ (chooseFormatter v) := by
  have hversion : ∀ program, Leaves φ (Formatting.version program) := fun program =>
    .bind (.of_matches fun _ => Formatting.matches_programName program) fun _ => .bind (.call hcall _ _) fun _ =>
      .bind (.reply _) fun _ => .pure _
  have hcheck : ∀ run : Formatting.Run, Leaves φ run.check :=
    fun run => .of_matches fun _ => Formatting.matches_run_check run
  unfold chooseFormatter
  split
  · exact .pure _
  · exact .pure _
  · exact .pure _
  · exact .bind (hversion _) fun run => .bind (hcheck run) fun _ => .bind (.lift _) fun _ =>
      .bind (.log (hlog · _ _)) fun _ => .pure _

lemma leaves_equip (c : Command) (values : Values) (p : Patterns) : Leaves φ (equip c values p) := by
  refine .bind (leaves_choosePatterns values p) fun p => .bind (leaves_logPatterns hlog p) fun _ =>
    .bind (leaves_chooseFormatter hlog hcall _) fun formatter => ?_
  cases c with
  | check => exact .bind (.lift _) fun _ => .pure _
  | fix => exact .bind (.lift _) fun _ => .pure _
  | updateCopyright => exact .get_bind fun w => .bind (.lift _) fun _ => .pure _
  | dumpConfig => exact .pure _

end

lemma run_equip_neutral (h : Neutral w.year c values values') (p : Patterns) :
    (equip c values' p).run w = (equip c values p).run w := by
  have hpatterns := choosePatterns_congr (h.same "path_patterns" (by cases c <;> decide))
    (h.same "skip_path_patterns" (by cases c <;> decide)) p
  have hpaths : paths values' = paths values := by
    unfold paths
    rw [h.same "paths" (by cases c <;> decide)]
  unfold equip
  rw [hpatterns, chooseFormatter_neutral h, hpaths]
  have hchoose : Leaves World.year (choosePatterns values p) := leaves_choosePatterns values p
  refine run_bind_congr hchoose fun p w₁ h₁ => ?_
  refine run_bind_congr (leaves_logPatterns World.logged_year p) fun _ w₂ h₂ => ?_
  refine run_bind_congr (leaves_chooseFormatter World.logged_year (fun _ _ => rfl) _)
    fun formatter w₃ h₃ => ?_
  cases c with
  | check => rw [checker_neutral h]
  | fix => rw [fixer_neutral h]
  | updateCopyright =>
    have hyear : w₃.year = w.year := h₃.trans (h₂.trans h₁)
    rw [run_bind_ok (run_get w₃), run_bind_ok (run_get w₃), hyear, updater_neutral h]
  | dumpConfig => rfl

def levelOf (v : Setting) : Except Fault Nat :=
  match v with
  | .int n => .ok n.toNat
  | .text name =>
    match threshold? true name with
    | some n => .ok n
    | none => .error (.value (.unknownLevel name))
  | v => .error (.kind (.notLevel v.shown))

lemma setLevel_eq (v : Setting) :
    setLevel v = (do let n ← lift (levelOf v); modify fun w => { w with threshold := n }) := by
  match v with
  | .text name =>
    unfold setLevel levelOf
    dsimp only
    cases threshold? true name <;> rfl
  | .int _ | .none | .flag _ | .real _ | .eol _ | .mode _ | .list _ | .record _ => rfl

lemma run_setLevel_ok (h : levelOf v = .ok n) (w : World) :
    (setLevel v).run w = (.ok (), { w with threshold := n }) := by
  rw [setLevel_eq, h]
  rfl

lemma run_setLevel_error {f : Fault} (h : levelOf v = .error f) (w : World) :
    (setLevel v).run w = (.error f, w) := by
  rw [setLevel_eq, h]
  rfl

lemma levelOf_neutral {year : Int} (h : Neutral year c values values')
    (hn : levelOf (values.value "loglevel") = .ok n) :
    ∃ n', levelOf (values'.value "loglevel") = .ok n' ∧ (n' ≤ debug.number ↔ n ≤ debug.number) := by
  rcases h.level with heq | ⟨hinfo, hwarning⟩
  · exact ⟨n, by rw [heq, hn], Iff.rfl⟩
  · rw [hinfo] at hn
    cases hn
    exact ⟨warning.number, by rw [hwarning]; rfl, by decide⟩

def work (c : Command) (values : Values) (p : Patterns) : Session (Exit ⊕ (Ending × String)) := do
  let task ← equip c values p
  return .inr (← perform task)

lemma steady_work {before before' : List FormatterCall} (c : Command) (values : Values) (p : Patterns) :
    Steady before before' (work c values p) :=
  .bind (steady_equip c values p) fun task => .bind (steady_perform task) fun _ => .pure _

lemma run_work_neutral (h : Neutral w.year c values values') (p : Patterns) :
    (work c values' p).run w = (work c values p).run w := by
  rw [work, work, run_bind, run_bind, run_equip_neutral h]

lemma run_obey_of_prepare {p : Patterns} {w' : World}
    (h : (prepare call c values).run w =
      (do return .inr (← equip c values' p) : Session (Exit ⊕ Task)).run w') :
    (obey call c values).run w = (work c values' p).run w' := by
  rw [obey, run_bind, h, run_bind, work, run_bind]
  rcases (equip c values' p).run w' with ⟨r, v⟩
  cases r <;> rfl

lemma run_obey_error {f : Fault} (hn : levelOf (values.value "loglevel") = .error f) (w : World) :
    (obey call c values).run w = (.error f, w) := by
  have hprepare : (prepare call c values).run w = (.error f, w) := by
    rw [prepare, run_bind_error (run_setLevel_error hn _)]
  rw [obey, run_bind_error hprepare]

lemma run_obey_none (hconfig : values.value "config" = .none)
    (hn : levelOf (values.value "loglevel") = .ok n) (w : World) :
    (obey call c values).run w = (work c values Patterns.usual).run { w with threshold := n } := by
  refine run_obey_of_prepare ?_
  rw [prepare, run_bind_ok (run_setLevel_ok hn w), hconfig]

lemma run_readConfig {ini : Ini} (hread : w.tree.read path = .ok data)
    (hfile : ofFile path data = .ok ini) : (readConfig (.text path)).run w = (.ok ini, w) := by
  have hdata : (readFile path).run w = (.ok data, w) := by
    rw [readFile, run_query, hread]
    rfl
  rw [readConfig, run_bind_ok hdata, run_lift, hfile]

lemma run_prepare_config (call : Call) {n n' : Nat} {ini : Ini} {p : Patterns}
    {known : Values} (hconfig : values.value "config" = .text path)
    (hn : levelOf (values.value "loglevel") = .ok n) (hread : w.tree.read path = .ok data)
    (hfile : ofFile path data = .ok ini) (hpatterns : patterns ini = .ok p)
    (hknown : commandOptions true ini (.text c.name) = .ok known)
    (hvalues : Request.read w.year true call.systemLine call.systemLine (some known) = .ok (c, values'))
    (hn' : levelOf (values'.value "loglevel") = .ok n') :
    (prepare call c values).run w =
      (do return .inr (← equip c values' p) : Session (Exit ⊕ Task)).run { w with threshold := n' } := by
  let v : World := { w with threshold := n }
  have hini : (readConfig (.text path)).run v = (.ok ini, v) := run_readConfig hread hfile
  have hconfigure : (configure call c (.text path)).run v =
      (.ok (.inr (c, values', p)), { w with threshold := n' }) := by
    have hyear : v.year = w.year := rfl
    rw [configure, run_bind_ok hini, run_lift_bind hpatterns, run_lift_bind hknown, run_bind_ok (run_get v),
      hyear, hvalues]
    exact run_bind_ok (run_setLevel_ok hn' v) _
  rw [prepare, run_bind_ok (run_setLevel_ok hn w), hconfig]
  exact run_bind_ok hconfigure _

/-- Two runs come to the same, whatever stands in the log. -/
structure SameRun (x x' : Except Fault (Exit ⊕ (Ending × String)) × World) : Prop where
  result : x'.1 = x.1
  alike : World.Alike Eq [] [] x.2 x'.2

lemma SameRun.report {call' : Call}
    (h : SameRun ((obey call c values).run w) ((obey call' c values').run w)) :
    SameRun ((obeyOrReport call c values).run w) ((obeyOrReport call' c values').run w) := by
  rcases hrun : (obey call c values).run w with ⟨r, v⟩
  rcases hrun' : (obey call' c values').run w with ⟨r', v'⟩
  rw [hrun, hrun'] at h
  obtain ⟨rfl, halike⟩ := h
  have hattempt : (attempt (obey call c values)).run w = (.ok r', v) := by rw [run_attempt, hrun]
  have hattempt' : (attempt (obey call' c values')).run w = (.ok r', v') := by rw [run_attempt, hrun']
  rw [obeyOrReport, obeyOrReport, run_bind_ok hattempt, run_bind_ok hattempt']
  cases r' with
  | ok result => exact ⟨rfl, halike⟩
  | error f =>
    obtain ⟨hout, hleft⟩ := (Matches.bind (steady_reportFault f) fun _ => .pure _) v v' halike
    exact ⟨hout, hleft⟩

def outcome : Except Fault (Exit ⊕ (Ending × String)) × World → Outcome
  | (.ok (.inl e), w) => ⟨.exited e.code, printedLog w.log ++ e.output, e.errors, w⟩
  | (.ok (.inr (ending, text)), w) => ⟨ending, printedLog w.log ++ text, "", w⟩
  | (.error f, w) => ⟨.returned failureCode, printedLog w.log, f.message ++ "\n", w⟩

lemma execute_of_request (h : request call w.year = .ok (c, values)) :
    execute call w = outcome ((obeyOrReport call c values).run (started w)) := by
  have hyear : (started w).year = w.year := rfl
  rw [execute, hyear, h]
  rfl

/-- Two outcomes that differ in what is printed only. -/
structure SameButLog (o o' : Outcome) : Prop where
  ending : o'.ending = o.ending
  tree : o'.world.tree = o.world.tree
  calls : o'.world.calls = o.world.calls

lemma sameButLog_execute {call' : Call} (hrequest : request call w.year = .ok (c, values))
    (hrequest' : request call' w.year = .ok (c, values'))
    (h : SameRun ((obey call c values).run (started w)) ((obey call' c values').run (started w))) :
    SameButLog (execute call w) (execute call' w) := by
  have hreport := h.report
  rw [execute_of_request hrequest, execute_of_request hrequest']
  rcases hrun : (obeyOrReport call c values).run (started w) with ⟨x, u⟩
  rcases hrun' : (obeyOrReport call' c values').run (started w) with ⟨x', u'⟩
  rw [hrun, hrun'] at hreport
  obtain ⟨rfl, halike⟩ := hreport
  obtain ⟨made, hmade, hmade'⟩ := halike.calls
  match x' with
  | .ok (.inl e) => exact ⟨rfl, halike.tree.symm, hmade'.trans hmade.symm⟩
  | .ok (.inr (ending, text)) => exact ⟨rfl, halike.tree.symm, hmade'.trans hmade.symm⟩
  | .error f => exact ⟨rfl, halike.tree.symm, hmade'.trans hmade.symm⟩

def plainCall (c : Command) (line : List String) : Call := ⟨[], c.name :: line⟩

def configCall (c : Command) (path : String) (line : List String) : Call :=
  ⟨[], c.name :: "-c" :: path :: line⟩

lemma request_eq_ok_iff {words : List String} {year : Int} :
    request ⟨[], words⟩ year = .ok (c, values) ↔
      ∃ v, readProgram year true words = .ok (c, v) ∧ values = withLevel v :=
  read_none_eq_ok_iff words

lemma request_eq_error {words : List String} {year : Int} {e : RequestStop}
    (h : readProgram year true words = .error e) : request ⟨[], words⟩ year = .error e := by
  have hrequest : request ⟨[], words⟩ year = Request.read year true words words none := rfl
  rw [hrequest, Request.read, h]
  rfl

lemma request_configCall (hc : c ≠ .dumpConfig) (hpath : (commandGrammar w.year c).classify path = .ok .value)
    (h : request (plainCall c line) w.year = .ok (c, values)) :
    ∃ values', request (configCall c path line) w.year = .ok (c, values') ∧
      (∀ t, t ≠ "config" → values'.value t = values.value t) ∧
      (values'.value "config" = values.value "config" ∨ values'.value "config" = .text path) := by
  obtain ⟨v, hv, rfl⟩ := request_eq_ok_iff.mp h
  obtain ⟨v', hv', hsame, hconfig⟩ := readProgram_config hc hpath hv
  refine ⟨withLevel v', request_eq_ok_iff.mpr ⟨v', hv', rfl⟩,
    fun t ht => value_withLevel_congr (hsame t ht), ?_⟩
  rwa [value_withLevel_of_ne (by decide), value_withLevel_of_ne (by decide)]

lemma sameRun_work {n n' : Nat} (h : Neutral w.year c values values')
    (hdebug : n' ≤ debug.number ↔ n ≤ debug.number) :
    SameRun ((work c values Patterns.usual).run { started w with threshold := n })
      ((work c values' Patterns.usual).run { started w with threshold := n' }) := by
  have halike : World.Alike Eq [] [] { started w with threshold := n }
      { started w with threshold := n' } := ⟨rfl, rfl, rfl, rfl, hdebug, [], rfl, rfl⟩
  have hsame : (work c values' Patterns.usual).run { started w with threshold := n' } =
      (work c values Patterns.usual).run { started w with threshold := n' } :=
    run_work_neutral (w := { started w with threshold := n' }) h _
  rw [hsame]
  obtain ⟨hout, hleft⟩ := steady_work c values Patterns.usual _ _ halike
  exact ⟨hout, hleft⟩

lemma sameButLog_configCall (hc : c ≠ .dumpConfig)
    (hyear : c = .updateCopyright → w.year.natAbs < 10 ^ Text.digitLimit)
    (hread : w.tree.read path = .ok data) (hfile : ofFile path data = .ok (usualIni w.year))
    (hpath : (commandGrammar w.year c).classify path = .ok .value)
    (haccepted : request (plainCall c line) w.year = .ok (c, values))
    (hnone : values.value "config" = .none) :
    SameButLog (execute (plainCall c line) w) (execute (configCall c path line) w) := by
  obtain ⟨values₁, hrequest, hsame, hconfig⟩ := request_configCall hc hpath haccepted
  have hlevel : values₁.value "loglevel" = values.value "loglevel" := hsame _ (by decide)
  refine sameButLog_execute haccepted hrequest ?_
  cases hn : levelOf (values.value "loglevel") with
  | error f =>
    rw [run_obey_error hn, run_obey_error ((congrArg levelOf hlevel).trans hn)]
    exact ⟨rfl, rfl, rfl, rfl, rfl, Iff.rfl, [], rfl, rfl⟩
  | ok n =>
    rw [run_obey_none hnone hn]
    have hn₁ : levelOf (values₁.value "loglevel") = .ok n := by rw [hlevel, hn]
    rcases hconfig with hconfig | hconfig
    · rw [run_obey_none (hconfig.trans hnone) hn₁]
      refine sameRun_work ⟨fun t ht => hsame t ?_, .inl hlevel, .inl (hsame _ (by decide)),
        fun _ => .inl (hsame _ (by decide))⟩ Iff.rfl
      rintro rfl
      exact ht (by simp)
    · obtain ⟨v, hv, rfl⟩ := request_eq_ok_iff.mp haccepted
      obtain ⟨values₂, hread₂, hneutral⟩ := read_config hc hpath hv
      obtain ⟨n₂, hn₂, hdebug⟩ := levelOf_neutral hneutral hn
      have hprepare := run_prepare_config (w := started w) (configCall c path line) hconfig hn₁ hread
        hfile (patterns_usualIni _) (commandOptions_usualIni _ hc hyear) hread₂ hn₂
      rw [run_obey_of_prepare hprepare]
      exact sameRun_work hneutral hdebug

/-- A result with which the program does not leave as if its words were refused. -/
def Regular (r : Except Fault (Exit ⊕ (Ending × String))) : Prop :=
  ∀ x, r = .ok x → ∃ ending text, x = .inr (ending, text) ∧ ∀ k, ending ≠ .exited k

lemma regular_perform {task : Task} {ending : Ending} {text : String} {w' : World}
    (h : (perform task).run w = (.ok (ending, text), w')) (k : Nat) : ending ≠ .exited k := by
  cases task with
  | check checker paths =>
    obtain ⟨e, v, hcheck, h⟩ := run_bind_eq_ok h
    cases h
    obtain ⟨tally, v', -, hcheck⟩ := run_bind_eq_ok hcheck
    obtain ⟨_, v'', -, hcheck⟩ := run_bind_eq_ok hcheck
    cases hcheck
    nofun
  | fix fixer paths =>
    obtain ⟨_, v, -, h⟩ := run_bind_eq_ok h
    cases h
    nofun
  | update updater paths =>
    obtain ⟨_, v, -, h⟩ := run_bind_eq_ok h
    cases h
    nofun
  | dumpConfig =>
    obtain ⟨_, v, -, h⟩ := run_bind_eq_ok h
    cases h
    nofun

lemma regular_work (c : Command) (values : Values) (p : Patterns) (w : World) :
    Regular ((work c values p).run w).1 := by
  intro x hx
  have hrun : (work c values p).run w = (.ok x, ((work c values p).run w).2) := Prod.ext hx rfl
  obtain ⟨task, v, -, hrun⟩ := run_bind_eq_ok hrun
  obtain ⟨⟨ending, text⟩, v', hperform, hrun⟩ := run_bind_eq_ok hrun
  cases hrun
  exact ⟨ending, text, rfl, regular_perform hperform⟩

lemma ending_ne_exited (haccepted : request call w.year = .ok (c, values))
    (hnone : values.value "config" = .none) (k : Nat) : (execute call w).ending ≠ .exited k := by
  have hobey : Regular ((obey call c values).run (started w)).1 := by
    cases hn : levelOf (values.value "loglevel") with
    | error f =>
      rw [run_obey_error hn]
      exact fun x hx => by cases hx
    | ok n =>
      rw [run_obey_none hnone hn]
      exact regular_work _ _ _ _
  rw [execute_of_request haccepted]
  rcases hrun : (obey call c values).run (started w) with ⟨r, v⟩
  rw [hrun] at hobey
  have hattempt : (attempt (obey call c values)).run (started w) = (.ok r, v) := by
    rw [run_attempt, hrun]
  rw [obeyOrReport, run_bind_ok hattempt]
  cases r with
  | ok x =>
    obtain ⟨ending, text, rfl, hending⟩ := hobey x rfl
    exact hending k
  | error f =>
    rw [run_bind_ok (run_reportFault f v)]
    exact fun hending => by cases hending

lemma exited_configCall (hc : c ≠ .dumpConfig)
    (hpath : (commandGrammar w.year c).classify path ≠ .ok .value) (line : List String) :
    ∃ k, (execute (configCall c path line) w).ending = .exited k := by
  obtain ⟨e, he⟩ : ∃ e,
      (commandGrammar w.year c).readSome noCommand [] ("-c" :: path :: line) = .error e :=
    readSome_cons_error (by decide) (classify_configName hc) rfl hpath [] line
  obtain ⟨e', he'⟩ := readProgram_eq_error he
  have hrequest : request (configCall c path line) w.year = .error (.exit e') := request_eq_error he'
  have hyear : (started w).year = w.year := rfl
  refine ⟨e'.code, ?_⟩
  rw [execute, hyear, hrequest]

/-- The printed configuration changes nothing but the log, for any accepted command line that names
no other one, unless the command takes its path for an option. -/
theorem usual_config_neutral_iff {printing : World} (hc : c ≠ .dumpConfig)
    (hyear : c = .updateCopyright → w.year.natAbs < 10 ^ Text.digitLimit)
    (hprinting : printing.year = w.year)
    (hfile : w.tree.read path = .ok (Text.encode (execute dumpCall printing).output.toList))
    (haccepted : request (plainCall c line) w.year = .ok (c, values))
    (hnone : values.value "config" = .none) :
    SameButLog (execute (plainCall c line) w) (execute (configCall c path line) w) ↔
      (commandGrammar w.year c).classify path = .ok .value := by
  have hini : Config.ofFile path (Text.encode (execute dumpCall printing).output.toList) =
      .ok (Config.usualIni w.year) := by
    rw [output_dumpCall, hprinting, Text.str, String.toList_ofList]
    exact Config.ofFile_usualIni w.year path
  constructor
  · intro hsame
    by_contra hpath
    obtain ⟨k, hk⟩ := exited_configCall hc hpath line
    exact ending_ne_exited haccepted hnone k (hsame.ending.symm.trans hk)
  · intro hpath
    exact sameButLog_configCall hc hyear hfile hini hpath haccepted hnone

/-- A world with the configuration printed in its year, next to a source. -/
def configWorld (name : String) : World where
  tree := { entries := [([name], .file (Text.encode (execute dumpCall { year := 2024 }).output.toList) 0o644),
    (["a.c"], .file [0x78, 0x0a] 0o644)] }
  year := 2024

/-- The year of the configuration is the one that an updater takes without it. The name of the file
looks like a negative number, which no option does. -/
theorem usual_config_neutral_for_updater :
    SameButLog (execute (plainCall .updateCopyright ["-b", "a.c"]) (configWorld "-1"))
      (execute (configCall .updateCopyright "-1" ["-b", "a.c"]) (configWorld "-1")) := by
  have hp : (configWorld "-1").tree.Plain := by decide
  have hfile : (configWorld "-1").tree.read "-1" =
      .ok (Text.encode (execute dumpCall { year := 2024 }).output.toList) :=
    FileTree.read_of_locate (Path.locate_name hp rfl) rfl
  have hyear : (2024 : Int).natAbs < 10 ^ Text.digitLimit :=
    Nat.lt_of_lt_of_le (by decide : 2024 < 10 ^ 4) (Nat.pow_le_pow_right (by decide) (by decide))
  have haccepted : request (plainCall .updateCopyright ["-b", "a.c"]) (configWorld "-1").year =
      .ok (.updateCopyright, _) := rfl
  exact (usual_config_neutral_iff (by decide) (fun _ => hyear) rfl hfile haccepted rfl).mpr rfl

/-- A file whose name the command takes for an option cannot be named as a configuration. -/
theorem usual_config_refused_as_option :
    (configWorld "-x").tree.read "-x" =
        .ok (Text.encode (execute dumpCall (configWorld "-x")).output.toList) ∧
      (∃ values, request (plainCall .check ["a.c"]) (configWorld "-x").year = .ok (.check, values) ∧
        values.value "config" = .none) ∧
      (∀ k, (execute (plainCall .check ["a.c"]) (configWorld "-x")).ending ≠ .exited k) ∧
      (execute (configCall .check "-x" ["a.c"]) (configWorld "-x")).ending = .exited 2 := by
  have hp : (configWorld "-x").tree.Plain := by decide
  have hread : (configWorld "-x").tree.read "-x" =
      .ok (Text.encode (execute dumpCall { year := 2024 }).output.toList) :=
    FileTree.read_of_locate (Path.locate_name hp rfl) rfl
  have hyear : (configWorld "-x").year = 2024 := rfl
  have hdump : (execute dumpCall (configWorld "-x")).output =
      (execute dumpCall { year := 2024 }).output := by
    rw [output_dumpCall, output_dumpCall, hyear]
  have haccepted : request (plainCall .check ["a.c"]) (configWorld "-x").year = .ok (.check, _) := rfl
  refine ⟨by rw [hread, hdump], ⟨_, haccepted, rfl⟩, ending_ne_exited haccepted rfl, ?_⟩
  rfl

end Program

end SourceTidy
