import SourceTidy.Proofs.CommandLines

/-!
# The options on a command line

Which options stand on a command line is told by its words alone. Reading the line changes the
targets of these options and that of the argument without a name; all other targets keep the values
that they had before.
-/

namespace SourceTidy

variable {all rest : List Word} {group : OptionGroup}

namespace Grammar

variable {g : Grammar} {a : Argument} {r r' : Reading} {t : String}

/-- The options that stand together in a word, for the first of them and the text joined to it: its
value, or further short names. -/
def joinedOptions (g : Grammar) (a : Argument) (isLong : Bool) : Text → List Argument
  | [] => [a]
  | c :: more =>
    if a.arity != .none then [a]
    else match isLong, g.option? (Text.str ['-', c]) with
      | false, some next => a :: joinedOptions g next false more
      | _, _ => [a]

def wordOptions (g : Grammar) : WordKind → List Argument
  | .option use =>
    match use.argument, use.joined with
    | some a, none => [a]
    | some a, some joined => g.joinedOptions a use.isLong joined
    | none, _ => []
  | _ => []

def given (g : Grammar) (line : List String) : List Argument :=
  match g.words line with
  | .ok all => all.flatMap fun word => g.wordOptions word.1
  | .error _ => []

/-- Short names can stand together, and the last one can have its value behind it. -/
example : ((Commands.grammar 2024 "" .fix).given ["-bqc", "c.ini", "--tab=8", "a.c", "--", "-v"]).map
    (·.target) = ["backup", "loglevel", "config", "tabsize"] := by decide

/-- A reading after which a target still has its value. -/
structure Reading.Spares (t : String) (r r' : Reading) : Prop where
  value : r'.values.lookup t = r.values.lookup t
  nameless : ∀ a ∈ r'.nameless, a ∈ r.nameless

namespace Reading.Spares

variable {r₁ r₂ r₃ : Reading}

lemma refl (t : String) (r : Reading) : Spares t r r := ⟨rfl, fun _ h => h⟩

lemma trans (h : Spares t r₁ r₂) (h' : Spares t r₂ r₃) : Spares t r₁ r₃ :=
  ⟨h'.value.trans h.value, fun a ha => h.nameless a (h'.nameless a ha)⟩

end Reading.Spares

lemma spares_obey {word : Option String} (h : g.obey r a word = .ok r') (ht : a.target ≠ t) :
    r.Spares t r' := by
  unfold obey at h
  split at h
  · cases h
  · cases h
  · cases h
    exact ⟨Values.lookup_put_of_ne ht.symm, fun _ h => h⟩
  · obtain ⟨v, -, h⟩ := bind_eq_ok h
    cases h
    exact ⟨Values.lookup_put_of_ne ht.symm, fun _ h => h⟩

lemma spares_uses {uses : List (Argument × Option String)}
    (h : uses.foldlM (fun r (a, word) => g.obey r a word) r = .ok r')
    (ht : ∀ a ∈ uses.map Prod.fst, a.target ≠ t) : r.Spares t r' := by
  induction uses generalizing r with
  | nil =>
    cases h
    exact .refl t _
  | cons use uses ih =>
    rw [List.foldlM_cons] at h
    obtain ⟨r₁, hr₁, h⟩ := bind_eq_ok h
    obtain ⟨huse, huses⟩ := List.forall_mem_cons.mp ht
    exact (spares_obey hr₁ huse).trans (ih h huses)

lemma lastOfGroup_options (h : g.lastOfGroup a rest = .ok group) : group.uses.map Prod.fst = [a] := by
  obtain ⟨taken, -, h⟩ := bind_eq_ok h
  cases h
  rfl

lemma groupWith_options {isLong : Bool} {joined : Text} (h : g.groupWith rest a isLong joined = .ok group) :
    group.uses.map Prod.fst = g.joinedOptions a isLong joined := by
  induction joined generalizing a isLong group with
  | nil =>
    rw [groupWith] at h
    split at h
    · cases h; rfl
    · cases h
  | cons c more ih =>
    unfold groupWith at h
    unfold joinedOptions
    split at h
    · next harity =>
      cases h
      rw [if_pos harity]
      rfl
    · next harity =>
      rw [if_neg harity]
      generalize g.option? (Text.str ['-', c]) = found at h ⊢
      cases isLong with
      | true => cases found <;> cases h
      | false =>
        cases found with
        | none => cases h
        | some next =>
          dsimp only at h ⊢
          split at h
          · next hlast =>
            obtain ⟨group', hgroup, rfl⟩ := map_eq_ok h
            rw [List.isEmpty_iff.mp hlast]
            exact congrArg (a :: ·) (lastOfGroup_options hgroup)
          · obtain ⟨group', hgroup, rfl⟩ := map_eq_ok h
            exact congrArg (a :: ·) (ih hgroup)

lemma optionGroup_options {use : OptionUse}
    (ha : use.argument = some a) (h : g.optionGroup a use rest = .ok group) :
    group.uses.map Prod.fst = g.wordOptions (.option use) := by
  unfold optionGroup at h
  unfold wordOptions
  dsimp only
  rw [ha]
  split at h
  · next hjoined =>
    rw [hjoined]
    exact lastOfGroup_options h
  · next joined hjoined =>
    rw [hjoined]
    exact groupWith_options h

/-- A word writes only to the targets of the options that it holds. -/
lemma spares_readOption {use : OptionUse} {word : String}
    {result : Reading × List Word} (h : g.readOption r use word rest = .ok result)
    (ht : ∀ a ∈ g.wordOptions (.option use), a.target ≠ t) : r.Spares t result.1 := by
  unfold readOption at h
  split at h
  · cases h
    exact ⟨rfl, fun _ h => h⟩
  · next a ha =>
    obtain ⟨group, hgroup, h⟩ := bind_eq_ok h
    obtain ⟨r₁, hr₁, h⟩ := bind_eq_ok h
    cases h
    exact spares_uses hr₁ fun b hb => ht b (optionGroup_options ha hgroup ▸ hb)

lemma spares_readNameless {result : Reading × List Word}
    (h : g.readNameless noCommand r all = .ok result) (ht : ∀ a ∈ r.nameless, a.target ≠ t) :
    r.Spares t result.1 := by
  unfold readNameless at h
  split at h
  · next a _ _ ha _ =>
    obtain ⟨r₁, hr₁, h⟩ := bind_eq_ok h
    cases h
    have hput : ∀ v, (r.values.put a.target v).lookup t = r.values.lookup t :=
      fun v => Values.lookup_put_of_ne (ht a ha).symm
    unfold obeyNameless at hr₁
    dsimp only at hr₁
    split at hr₁
    · obtain ⟨v, -, hr₁⟩ := bind_eq_ok hr₁
      cases hr₁
      exact ⟨hput _, fun _ h => by cases h⟩
    · cases hr₁
      exact ⟨hput _, fun _ h => by cases h⟩
  · cases h
    exact .refl t _

lemma Reading.spares_pass (t : String) (r : Reading) (all rest : List Word) :
    r.Spares t (r.pass all rest).1 :=
  ⟨by rw [r.pass_values], fun a ha => by rwa [r.pass_nameless] at ha⟩

/-- Words write only to the targets of their options and of the argument without a name. -/
lemma ReadsTo.spares (h : g.ReadsTo noCommand r all r') (hnameless : ∀ a ∈ r.nameless, a.target ≠ t)
    (ht : ∀ word ∈ all, ∀ a ∈ g.wordOptions word.1, a.target ≠ t) : r.Spares t r' := by
  induction h with
  | done r => exact .refl t r
  | option hread _ ih =>
    obtain ⟨hword, hrest⟩ := List.forall_mem_cons.mp ht
    have hstep := spares_readOption hread hword
    exact hstep.trans (ih (fun a ha => hnameless a (hstep.nameless a ha))
      fun word hw => hrest word ((readOption_suffix hread).subset hw))
  | @value r r₁ _ word more rest _ hread _ ih =>
    have hstep := (spares_readNameless hread hnameless).trans (r₁.spares_pass t (word :: more) rest)
    obtain ⟨count, hcount⟩ := readNameless_drop hread
    obtain rfl : rest = (word :: more).drop count := hcount
    exact hstep.trans (ih (fun a ha => hnameless a (hstep.nameless a ha)) fun word hw =>
      ht word (List.mem_of_mem_drop ((r₁.pass_suffix _ _).subset hw)))

/-- A line leaves the target of no option on it and not of the argument without a name as it is. -/
lemma lookup_readSome {preset : Values} {line : List String} {x : Values × List String}
    (h : g.readSome noCommand preset line = .ok x) (hnameless : ∀ a ∈ g.nameless, a.target ≠ t)
    (ht : ∀ a ∈ g.given line, a.target ≠ t) : x.1.lookup t = (g.initialValues preset).lookup t := by
  obtain ⟨all, r, hall, hr, hconcluded⟩ := readSome_eq_ok_iff.mp h
  have hwords : ∀ word ∈ all, ∀ a ∈ g.wordOptions word.1, a.target ≠ t := by
    intro word hword a ha
    refine ht a ?_
    rw [given, hall]
    exact List.mem_flatMap.mpr ⟨word, hword, ha⟩
  have hvalue := (hr.spares hnameless hwords).value
  rw [(concluded_eq_ok hconcluded).1, hvalue]

lemma wordOptions_named (program : String) (kind : WordKind) :
    (g.named program).wordOptions kind = g.wordOptions kind := by
  have hoption : (g.named program).option? = g.option? := rfl
  have hjoined : ∀ a isLong joined,
      (g.named program).joinedOptions a isLong joined = g.joinedOptions a isLong joined := by
    intro a isLong joined
    induction joined generalizing a isLong with
    | nil => rfl
    | cons c more ih => simp only [joinedOptions, hoption, ih]
  cases kind with
  | value => rfl
  | hyphens => rfl
  | option use => simp only [wordOptions, hjoined]

lemma given_named {line : List String} (h : g.words line = .ok all) (program : String) :
    (g.named program).given line = g.given line := by
  rw [given, given, h, words_named h program]
  simp only [wordOptions_named]

end Grammar

end SourceTidy
