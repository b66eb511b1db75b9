import SourceTidy.Proofs.AssignedTargets

/-!
# Lines that are read again

A line that the program accepts is accepted again over known values, unless these hold words that
are left over. A target that the line assigns has the value of the line then, and any other target
its known value.
-/

namespace SourceTidy

variable {use : OptionUse} {word : String}

namespace Grammar

variable {g : Grammar} {a : Argument} {r r' : Reading} {readCommand : CommandReader}

lemma mem_options_of_option? {name : String} (h : g.option? name = some a) : a ∈ g.options :=
  List.mem_of_find?_eq_some h

lemma mem_options_of_candidates {word : Text} {name : String}
    (h : (name, use) ∈ g.candidates word) (ha : use.argument = some a) : a ∈ g.options := by
  unfold candidates at h
  split at h
  · split at h
    obtain ⟨n, -, heq⟩ := List.mem_map.mp h
    cases heq
    exact mem_options_of_option? ha
  · obtain ⟨n, -, heq⟩ := List.mem_map.mp h
    cases heq
    exact mem_options_of_option? ha
  · cases h

lemma mem_options_of_classify
    (h : g.classify word = .ok (.option use)) (ha : use.argument = some a) : a ∈ g.options := by
  unfold classify at h
  split at h
  · split at h
    dsimp only at h
    split at h
    · next b _ hb =>
      cases h
      cases ha
      exact mem_options_of_option? hb
    · next b _ hb =>
      cases h
      cases ha
      obtain ⟨-, -, hb⟩ := Option.bind_eq_some_iff.mp hb
      exact mem_options_of_option? hb
    · split at h
      · next name _ hone =>
        cases h
        have hmem : (name, use) ∈ g.candidates word.toList := hone ▸ List.mem_singleton_self _
        exact mem_options_of_candidates hmem ha
      · split at h
        · cases h
        · cases h
          cases ha
      · cases h
  · cases h

lemma joinedOptions_subset (ha : a ∈ g.options) (isLong : Bool) (joined : Text) :
    g.joinedOptions a isLong joined ⊆ g.options := by
  induction joined generalizing a isLong with
  | nil => simpa [joinedOptions] using ha
  | cons c more ih =>
    unfold joinedOptions
    split
    · simpa using ha
    · split
      · next next hnext => exact List.cons_subset.mpr ⟨ha, ih (mem_options_of_option? hnext) false⟩
      · simpa using ha

lemma wordOptions_head (ha : use.argument = some a) :
    ∃ others, g.wordOptions (.option use) = a :: others := by
  unfold wordOptions
  dsimp only
  rw [ha]
  cases use.joined with
  | none => exact ⟨[], rfl⟩
  | some joined =>
    cases joined with
    | nil => exact ⟨[], rfl⟩
    | cons c more =>
      dsimp only
      unfold joinedOptions
      split
      · exact ⟨[], rfl⟩
      · split <;> exact ⟨_, rfl⟩

lemma wordOptions_subset {kind : WordKind} (h : g.classify word = .ok kind) :
    g.wordOptions kind ⊆ g.options := by
  unfold wordOptions
  split
  · split
    · next b hb _ => simpa using mem_options_of_classify h hb
    · next b joined hb _ => exact joinedOptions_subset (mem_options_of_classify h hb) _ _
    · exact List.nil_subset _
  · exact List.nil_subset _

lemma given_subset (g : Grammar) (line : List String) : g.given line ⊆ g.options := by
  unfold given
  split
  · next all hall =>
    induction line generalizing all with
    | nil =>
      cases hall
      exact List.nil_subset _
    | cons word rest ih =>
      rw [words] at hall
      split at hall
      · cases hall
        intro a ha
        simp [wordOptions] at ha
      · obtain ⟨kind, hkind, hall⟩ := bind_eq_ok hall
        obtain ⟨more, hmore, hall⟩ := bind_eq_ok hall
        cases hall
        rw [List.flatMap_cons, List.append_subset]
        exact ⟨wordOptions_subset hkind, ih more hmore⟩
  · exact List.nil_subset _

lemma left_readOption {rest : List Word} {result : Reading × List Word}
    (h : g.readOption r use word rest = .ok result) : r.left <+: result.1.left := by
  unfold readOption at h
  split at h
  · cases h
    exact List.prefix_append _ _
  · obtain ⟨group, -, h⟩ := bind_eq_ok h
    obtain ⟨r₁, hr₁, h⟩ := bind_eq_ok h
    obtain ⟨values, rfl⟩ := exists_values_of_uses hr₁
    cases h
    exact List.prefix_rfl

lemma left_readNameless {all : List Word} {result : Reading × List Word}
    (h : g.readNameless readCommand r all = .ok result) : result.1.left = r.left := by
  unfold readNameless at h
  split at h
  · obtain ⟨r₁, hr₁, h⟩ := bind_eq_ok h
    cases h
    unfold obeyNameless at hr₁
    dsimp only at hr₁
    split at hr₁
    · obtain ⟨v, -, hr₁⟩ := bind_eq_ok hr₁
      obtain ⟨x, -, hr₁⟩ := bind_eq_ok hr₁
      cases hr₁
      rfl
    · cases hr₁; rfl
  · cases h; rfl

lemma Reading.left_pass (r : Reading) (all rest : List Word) : r.left <+: (r.pass all rest).1.left := by
  rcases r.pass_cases all rest with ⟨h, -⟩ | h
  · exact h ▸ List.prefix_rfl
  · exact h ▸ List.prefix_append _ _

lemma ReadsTo.left {all : List Word} (h : g.ReadsTo readCommand r all r') : r.left <+: r'.left := by
  induction h with
  | done r => exact List.prefix_rfl
  | option hread _ ih => exact (left_readOption hread).trans ih
  | value _ hread _ ih =>
    rw [← left_readNameless hread]
    exact (Reading.left_pass _ _ _).trans ih

lemma mem_choices_of_convert {v : Setting} (h : g.convert a word = .ok v)
    (hnumber : a.isNumber = false) (hchoices : a.choices ≠ []) : word ∈ a.choices := by
  unfold convert at h
  rw [hnumber, if_neg Bool.false_ne_true] at h
  split at h
  · cases h
  · next hchoice => simpa [hchoices] using hchoice

/-- The first word names a command if no word is left over, and no option can stand before it. -/
lemma ReadsTo.convert {kind : WordKind} {more : List Word}
    (h : g.ReadsTo readCommand r ((kind, word) :: more) r') (ha : r.nameless = some a)
    (harity : a.arity = .command)
    (hstop : ∀ use b, kind = .option use → use.argument = some b → ∀ r word, ∃ e, g.obey r b word = .error e)
    (hleft : r'.left = []) : ∃ v, g.convert a word = .ok v := by
  cases h with
  | @option _ _ _ use _ _ _ hread hnext =>
    have hkept := List.prefix_nil.mp (hleft ▸ hnext.left)
    unfold readOption at hread
    split at hread
    · cases hread
      simp at hkept
    · next b hb =>
      obtain ⟨group, hgroup, hread⟩ := bind_eq_ok hread
      obtain ⟨r₂, huses, -⟩ := bind_eq_ok hread
      obtain ⟨first, others, hfirst⟩ : ∃ first others, group.uses = (b, first) :: others := by
        obtain ⟨options, hoptions⟩ := wordOptions_head (g := g) hb
        rw [← optionGroup_options hb hgroup] at hoptions
        obtain ⟨use', others, huse, rfl, -⟩ := List.map_eq_cons_iff.mp hoptions
        exact ⟨use'.2, others, huse⟩
      rw [hfirst, List.foldlM_cons] at huses
      obtain ⟨r₃, hobey, -⟩ := bind_eq_ok huses
      obtain ⟨e, he⟩ := hstop use b rfl hb r first
      cases he.symm.trans hobey
  | value hword hread hnext =>
    unfold readNameless at hread
    rw [ha] at hread
    split at hread
    · next b _ _ hb _ =>
      cases hb
      obtain ⟨r₂, hobey, -⟩ := bind_eq_ok hread
      have hcommand : (a.arity == .command) = true := by rw [harity]; rfl
      rw [hcommand, if_pos rfl, List.map_cons] at hobey
      unfold obeyNameless at hobey
      rw [harity] at hobey
      obtain ⟨v, hv, -⟩ := bind_eq_ok hobey
      exact ⟨v, hv⟩
    · cases hread
      have hkept := List.prefix_nil.mp (hleft ▸ hnext.left)
      unfold Reading.pass at hkept
      rw [if_neg (by simp)] at hkept
      simp [show kind.isOption = false from hword] at hkept

end Grammar

namespace Request

open Grammar

variable {year : Int} {named : Bool} {c c' : Command} {line argv : List String}
  {values values' known : Values} {t : String}

lemma obey_program {b : Argument} (hb : b ∈ Commands.program.options) (r : Reading)
    (word : Option String) : ∃ e, Commands.program.obey r b word = .error e := by
  have hoptions : Commands.program.options.map (·.deed) =
      [.help, .version (programName ++ " v" ++ programVersion)] := rfl
  have hdeed : b.deed ∈ Commands.program.options.map (·.deed) := List.mem_map_of_mem hb
  rw [hoptions, List.mem_cons, List.mem_singleton] at hdeed
  unfold obey
  rcases hdeed with hdeed | hdeed
  · rw [hdeed]
    exact ⟨_, rfl⟩
  · rw [hdeed]
    exact ⟨_, rfl⟩

lemma command_notMem_targets (year : Int) (c : Command) :
    "command" ∉ (commandGrammar year c).options.map (·.target) := by
  have hcontains : ((commandGrammar year c).options.map (·.target)).contains "command" = false := by
    cases c <;> rfl
  simpa using hcontains

lemma lookup_command {x : Values × List String}
    (h : (commandGrammar year c).readSome noCommand [] line = .ok x) : x.1.lookup "command" = none := by
  rw [lookup_readSome h]
  · rw [initialValues_commandGrammar]
    cases c <;> decide
  · intro a ha
    cases c <;> cases ha <;> decide
  · intro a ha hcommand
    exact command_notMem_targets year c
      (hcommand ▸ List.mem_map_of_mem (given_subset _ line ha))

lemma lookup_programValues {v : Values} (hv : v.Proper) (c : Command) (t : String) :
    (programValues c v).lookup t = (v.lookup t).or (if t = "command" then some (.text c.name) else none) := by
  rw [programValues, Values.lookup_putAll _ hv, List.lookup_cons]
  by_cases ht : t = "command"
  · rw [if_pos ht, ht, beq_self_eq_true]
  · rw [if_neg ht, beq_eq_false_iff_ne.mpr ht]
    rfl

lemma commandOf_programValues {x : Values × List String}
    (h : (commandGrammar year c).readSome noCommand [] line = .ok x) :
    commandOf (programValues c x.1) = some c := by
  have hvalue : (programValues c x.1).value "command" = .text c.name := by
    rw [Values.value, lookup_programValues (proper_readSome h), lookup_command h]
    rfl
  rw [commandOf, hvalue]
  cases c <;> rfl

lemma readProgram_begins (h : readProgram year named argv = .ok (c, values)) :
    named = true ∧ ∃ line, argv = c.name :: line := by
  cases named with
  | false => cases h
  | true =>
    refine ⟨rfl, ?_⟩
    obtain ⟨hsome, hcommand⟩ := readProgram_eq_ok_iff_readSome.mp h
    obtain ⟨all, r, hall, hr, hconcluded⟩ := readSome_eq_ok_iff.mp hsome
    obtain ⟨hvalues, -⟩ := concluded_eq_ok hconcluded
    obtain ⟨rfl, hleft⟩ := Prod.mk.inj hvalues
    cases argv with
    | nil =>
      cases hall
      cases hr
      cases hcommand
    | cons word rest =>
      obtain ⟨kind, more, rfl, hkind⟩ : ∃ kind more, all = (kind, word) :: more ∧
          ∀ use, kind = .option use → Commands.program.classify word = .ok kind := by
        rw [words] at hall
        split at hall
        · cases hall
          exact ⟨_, _, rfl, fun use huse => by cases huse⟩
        · obtain ⟨kind, hkind, hall⟩ := bind_eq_ok hall
          obtain ⟨more, -, hall⟩ := bind_eq_ok hall
          cases hall
          exact ⟨kind, more, rfl, fun _ _ => hkind⟩
      obtain ⟨v, hv⟩ := hr.convert rfl rfl
        (fun use b huse hb => obey_program (mem_options_of_classify (huse ▸ hkind use huse) hb))
        (List.append_eq_nil_iff.mp hleft.symm).1
      obtain ⟨c', -, rfl⟩ := List.mem_map.mp (mem_choices_of_convert hv rfl (by decide))
      obtain ⟨-, v, -, hread, hvalues, hcommand⟩ := readProgram_eq_ok_iff.mp h
      rw [hvalues, commandOf_programValues hread] at hcommand
      cases hcommand
      exact ⟨rest, rfl⟩

lemma lookup_withLevel_congr (h : values'.lookup t = values.lookup t) :
    (withLevel values').lookup t = (withLevel values).lookup t := by
  rw [lookup_withLevel, lookup_withLevel, Values.value, Values.value, h]

lemma lookup_withLevel_known {targets : List String}
    (h : values'.lookup t = if t ∈ targets then values.lookup t
      else (known.lookup t).or (values.lookup t))
    (hlevel : known.lookup "loglevel" ≠ some .none) :
    (withLevel values').lookup t = if t ∈ targets then (withLevel values).lookup t
      else (known.lookup t).or ((withLevel values).lookup t) := by
  by_cases ht : t ∈ targets
  · rw [if_pos ht] at h ⊢
    exact lookup_withLevel_congr h
  · rw [if_neg ht] at h ⊢
    cases hk : known.lookup t with
    | none =>
      rw [hk, Option.none_or] at h
      exact lookup_withLevel_congr h
    | some u =>
      rw [hk, Option.some_or] at h
      rw [lookup_withLevel, Values.value, h, if_neg]
      · rfl
      · rintro ⟨rfl, hnone⟩
        exact hlevel (hk.trans (congrArg some hnone))

lemma arity_of_nameless {a : Argument} (h : a ∈ (commandGrammar year c).nameless) : a.arity = .many := by
  cases c <;> cases h <;> rfl

def assignedTargets (year : Int) : List String → List String
  | [] => []
  | name :: line =>
    match Command.ofName? name with
    | some c => "command" :: (commandGrammar year c).assigned line
    | none => []

lemma assignedTargets_name (year : Int) (c : Command) (line : List String) :
    assignedTargets year (c.name :: line) = "command" :: (commandGrammar year c).assigned line := by
  cases c <;> rfl

lemma lookup_reread {v v' : Values} (hknown : known.Proper)
    (h : (commandGrammar year c).readSome noCommand [] line = .ok (v, []))
    (h' : ((commandGrammar year c).named programName).readSome noCommand known line = .ok (v', []))
    (t : String) :
    (v'.put "command" (.text c.name)).lookup t =
      if t ∈ assignedTargets year (c.name :: line) then (programValues c v).lookup t
      else (known.lookup t).or ((programValues c v).lookup t) := by
  rw [assignedTargets_name, lookup_programValues (proper_readSome h)]
  by_cases hcommand : t = "command"
  · rw [hcommand, if_pos List.mem_cons_self, Values.lookup_put_self, lookup_command h, if_pos rfl]
    rfl
  · rw [Values.lookup_put_of_ne hcommand, if_neg hcommand, Option.or_none]
    by_cases hassigned : t ∈ (commandGrammar year c).assigned line
    · rw [if_pos (List.mem_cons_of_mem _ hassigned)]
      exact lookup_of_assigned (fun _ => arity_of_nameless) hknown h h' hassigned
    · have htargets : ∀ a ∈ (commandGrammar year c).given line ++
          (commandGrammar year c).nameless.toList, a.target ≠ t :=
        fun a ha hta => hassigned (hta ▸ List.mem_map_of_mem ha)
      obtain ⟨hgiven, hnameless⟩ := List.forall_mem_append.mp htargets
      obtain ⟨all, -, hall, -, -⟩ := readSome_eq_ok_iff.mp h
      have hold := lookup_readSome h (fun a ha => hnameless a (Option.mem_toList.mpr ha)) hgiven
      have hnew := lookup_readSome h' (fun a ha => hnameless a (Option.mem_toList.mpr ha))
        fun a ha => hgiven a (given_named hall programName ▸ ha)
      rw [if_neg (by simp [hcommand, hassigned])]
      exact hnew.trans ((lookup_initialValues _ known t).trans (congrArg _ hold.symm))

lemma read_known_assigned {v : Values} (h : readProgram year true (c.name :: line) = .ok (c, v))
    (hknown : known.Proper) (hleft : known.lookup leftTarget = none)
    (ht : t ∈ (commandGrammar year c).assigned line) :
    ∃ values', read year true (c.name :: line) (c.name :: line) (some known) = .ok (c, values') ∧
      values'.lookup t = (withLevel v).lookup t := by
  obtain ⟨all, v, -, hread, rfl, -⟩ := readProgram_eq_ok_iff.mp h
  obtain ⟨⟨v', left⟩, hread', -, hsame⟩ := follows_readSome hknown line programName _ hread
  obtain rfl : left = [] := hsame
  refine ⟨_, read_some_eq_ok h (readOver_of_none hleft hread'), lookup_withLevel_congr ?_⟩
  rw [lookup_reread hknown hread hread', assignedTargets_name, if_pos (List.mem_cons_of_mem _ ht)]

lemma proper_withoutLeft (h : known.Proper) : (withoutLeft known).Proper :=
  h.sublist (List.filter_sublist.map Prod.fst)

lemma lookup_withoutLeft (known : Values) (ht : t ≠ leftTarget) :
    (withoutLeft known).lookup t = known.lookup t := by
  unfold withoutLeft
  induction known with
  | nil => rfl
  | cons p known ih =>
    rw [List.filter_cons, List.lookup_cons]
    split
    · rw [List.lookup_cons, ih]
    · next hleft =>
      have hp : p.1 = leftTarget := by simpa using hleft
      rw [ih, hp, beq_eq_false_iff_ne.mpr ht]

lemma withoutLeft_of_none (h : known.lookup leftTarget = none) : withoutLeft known = known := by
  rw [List.lookup_eq_none_iff] at h
  refine List.filter_eq_self.mpr fun p hp => ?_
  have hne : leftTarget ≠ p.1 := by simpa using h p hp
  simpa using hne.symm

/-- The line is refused if the known values hold words that are left over. -/
lemma readOver_eq_ok_iff {g : Grammar} {v' : Values}
    (h : g.readSome noCommand (withoutLeft known) line = .ok (v', [])) :
    readOver g known line = .ok values ↔
      (∀ held, known.lookup leftTarget = some held → held.items = .ok []) ∧ values = v' := by
  cases hleft : known.lookup leftTarget with
  | none =>
    rw [withoutLeft_of_none hleft] at h
    rw [readOver_of_none hleft h]
    simp [eq_comm]
  | some held =>
    rw [readOver, hleft]
    dsimp only
    rw [h]
    cases hitems : held.items with
    | error f => simp [Except.mapError, bind, Except.bind, hitems]
    | ok items =>
      cases items with
      | nil => simp [Except.mapError, bind, Except.bind, pure, Except.pure, hitems, eq_comm]
      | cons item items =>
        cases hwords : DataPattern.alternatives 0 (item :: items) with
        | error f => simp [Except.mapError, bind, Except.bind, hitems, hwords]
        | ok words =>
          simp [Except.mapError, bind, Except.bind, hitems, hwords, throw, throwThe,
            MonadExceptOf.throw]

/-- A line that was accepted is accepted again over known values exactly if these hold no word that is
left over. A target that the line assigns then has the same value as before. Any other one has its
known value, or the same as before if there is none. -/
theorem read_known_precedence (h : read year named argv argv none = .ok (c, values))
    (hknown : known.Proper) (hlevel : known.lookup "loglevel" ≠ some .none) :
    ((∃ values', read year named argv argv (some known) = .ok (c, values')) ↔
      ∀ held, known.lookup leftTarget = some held → held.items = .ok []) ∧
    ∀ c' values', read year named argv argv (some known) = .ok (c', values') → c' = c ∧
      ∀ t, values'.lookup t = if t ∈ assignedTargets year argv then values.lookup t
        else ((withoutLeft known).lookup t).or (values.lookup t) := by
  obtain ⟨v₀, hprogram, rfl⟩ := (read_none_eq_ok_iff argv).mp h
  obtain ⟨rfl, line, rfl⟩ := readProgram_begins hprogram
  obtain ⟨all, v, -, hread, rfl, -⟩ := readProgram_eq_ok_iff.mp hprogram
  have hproper := proper_withoutLeft hknown
  obtain ⟨⟨v', left⟩, hread', -, hleft⟩ := follows_readSome hproper line programName _ hread
  obtain rfl : left = [] := hleft
  have hover : ∀ x, readOver (Commands.grammar year programName c) known line = .ok x ↔ _ :=
    fun x => readOver_eq_ok_iff hread'
  rw [read_some_eq hprogram]
  refine ⟨⟨?_, fun hheld => ?_⟩, fun c' values' hnew => ?_⟩
  · rintro ⟨values', hnew⟩
    obtain ⟨x, hx, -⟩ := map_eq_ok hnew
    exact ((hover x).mp hx).1
  · rw [(hover v').mpr ⟨hheld, rfl⟩]
    exact ⟨_, rfl⟩
  · obtain ⟨x, hx, heq⟩ := map_eq_ok hnew
    obtain ⟨-, rfl⟩ := (hover x).mp hx
    cases heq
    refine ⟨rfl, fun t => lookup_withLevel_known (lookup_reread hproper hread hread' t) ?_⟩
    rwa [lookup_withoutLeft known (by decide)]

def rereadLine : List String := ["fix", "--tab=8", "-bq", "fix", "--", "-v"]

def rereadValues : Values :=
  match read 2024 true rereadLine rereadLine none with
  | .ok (_, values) => values
  | .error _ => []

def rereadKnown : Values :=
  [("tabsize", .int 2), ("fix_mode", .flag false), ("paths", .texts ["a.c"]), ("other", .text "x")]

/-- The size of tabs and the paths are those of the line, the rest that is known stays. -/
theorem read_known_precedence_for_fixer :
    ∃ values', read 2024 true rereadLine rereadLine (some rereadKnown) = .ok (.fix, values') ∧
      values'.lookup "tabsize" = some (.int 8) ∧ values'.lookup "fix_mode" = some (.flag false) ∧
      values'.lookup "paths" = some (.texts ["fix", "-v"]) ∧
      values'.lookup "other" = some (.text "x") ∧
      values'.lookup "fix_trailing" = some (.flag true) := by
  have hvalues : read 2024 true rereadLine rereadLine none = .ok (.fix, rereadValues) := rfl
  have hproper : rereadKnown.Proper := (by decide : (rereadKnown.map Prod.fst).Nodup)
  have hassigned : assignedTargets 2024 rereadLine =
      ["command", "tabsize", "backup", "loglevel", "paths"] := by decide
  obtain ⟨hexists, hlookup⟩ := read_known_precedence hvalues hproper (by decide)
  have hnone : rereadKnown.lookup leftTarget = none := rfl
  obtain ⟨values', hread⟩ := hexists.mpr fun held hheld => by
    cases hnone.symm.trans hheld
  have hvalue := (hlookup _ _ hread).2
  rw [hassigned] at hvalue
  exact ⟨values', hread, (hvalue _).trans rfl, (hvalue _).trans rfl, (hvalue _).trans rfl,
    (hvalue _).trans rfl, (hvalue _).trans rfl⟩

/-- Known values can hold words that are left over. The line is then refused. -/
theorem read_known_refused :
    (∃ values, read 2024 true ["check", "a.c"] ["check", "a.c"] none = .ok (.check, values)) ∧
      ∀ c values, read 2024 true ["check", "a.c"] ["check", "a.c"]
        (some [(leftTarget, .texts ["x"])]) ≠ .ok (c, values) := by
  refine ⟨⟨_, rfl⟩, fun c values h => ?_⟩
  have hrefused : (read 2024 true ["check", "a.c"] ["check", "a.c"]
      (some [(leftTarget, .texts ["x"])])).isOk = false := rfl
  rw [h] at hrefused
  cases hrefused

end Request

end SourceTidy
