import SourceTidy.Proofs.GivenOptions

/-!
# The targets that a command line assigns

A line that is accepted assigns the targets of its options and that of the argument without a name.
Their values are then those of the line, whatever was there before.
-/

namespace SourceTidy

variable {all rest : List Word} {use : OptionUse} {name : String} {word : Word}

lemma Values.Written.agree {start start' values values' : Values} {t : String}
    (h : Values.Written start start' values values') (ht : start'.lookup t = start.lookup t) :
    values'.lookup t = values.lookup t := by
  rcases h.same t with hsame | ⟨hvalues, hvalues'⟩
  · exact hsame
  · rw [hvalues', hvalues, ht]

namespace Grammar

variable {g : Grammar} {a : Argument} {r r' r₁ : Reading} {start start' : Values} {t : String}

lemma Reading.Alike.restart (h : Reading.Alike start start' r r') : Reading.Alike r.values r'.values r r' :=
  ⟨.refl h.values.proper h.values.proper', h.left, h.leftByCommand, h.nameless⟩

lemma takeValue_options {taken : Option String × List Word}
    (h : g.takeValue a rest = .ok taken) (hmem : word ∈ rest) (hword : word.1.isOption = true) :
    word ∈ taken.2 := by
  unfold takeValue at h
  split at h
  · cases h; exact hmem
  · cases h
    rcases List.mem_cons.mp hmem with rfl | hmem
    · cases hword
    · exact hmem
  · cases h; exact hmem
  · cases h

lemma readOption_options {result : Reading × List Word} (h : g.readOption r use name rest = .ok result)
    (hmem : word ∈ rest) (hword : word.1.isOption = true) : word ∈ result.2 := by
  rcases readOption_rest h with hrest | ⟨last, taken, htaken, hrest⟩
  · rwa [hrest]
  · rw [hrest]
    exact takeValue_options htaken hmem hword

lemma mem_drop_takeWhile (hmem : word ∈ all) (hword : word.1.isOption = true) :
    word ∈ all.drop (all.takeWhile (!·.1.isOption)).length := by
  induction all with
  | nil => cases hmem
  | cons first rest ih =>
    cases hfirst : first.1.isOption with
    | true => simpa [List.takeWhile_cons, hfirst] using hmem
    | false =>
      rcases List.mem_cons.mp hmem with rfl | hmem
      · rw [hfirst] at hword
        cases hword
      · simpa [List.takeWhile_cons, hfirst] using ih hmem

lemma options_of_mem_wordOptions {kind : WordKind} (h : a ∈ g.wordOptions kind) : kind.isOption = true := by
  cases kind with
  | value => cases h
  | hyphens => cases h
  | option use => rfl

lemma exists_values_of_uses {uses : List (Argument × Option String)}
    (h : uses.foldlM (fun r (a, word) => g.obey r a word) r = .ok r') : ∃ values, r' = { r with values } := by
  induction uses generalizing r with
  | nil => cases h; exact ⟨_, rfl⟩
  | cons use uses ih =>
    rw [List.foldlM_cons] at h
    obtain ⟨r₁, hr₁, h⟩ := bind_eq_ok h
    obtain ⟨values, rfl⟩ := ih h
    unfold obey at hr₁
    dsimp only at hr₁
    split at hr₁
    · cases hr₁
    · cases hr₁
    · cases hr₁; exact ⟨_, rfl⟩
    · obtain ⟨v, -, hr₁⟩ := bind_eq_ok hr₁
      cases hr₁
      exact ⟨_, rfl⟩

lemma nameless_readOption {result : Reading × List Word} (h : g.readOption r use name rest = .ok result) :
    result.1.nameless = r.nameless := by
  unfold readOption at h
  split at h
  · cases h; rfl
  · obtain ⟨group, -, h⟩ := bind_eq_ok h
    obtain ⟨r₁, hr₁, h⟩ := bind_eq_ok h
    obtain ⟨values, rfl⟩ := exists_values_of_uses hr₁
    cases h
    rfl

/-- A target that words write to: that of an option in them, or that of the argument without a name
if it is not left in the end. -/
def Writes (g : Grammar) (all : List Word) (r r₁ : Reading) (t : String) : Prop :=
  (∃ word ∈ all, ∃ a ∈ g.wordOptions word.1, a.target = t) ∨
    ∃ a, r.nameless = some a ∧ r₁.nameless ≠ some a ∧ a.target = t

lemma Writes.of_option {result : Reading × List Word} (h : g.Writes ((.option use, name) :: rest) r r₁ t)
    (hread : g.readOption r use name rest = .ok result) :
    (∃ a ∈ g.wordOptions (.option use), a.target = t) ∨ g.Writes result.2 result.1 r₁ t := by
  rcases h with ⟨word, hmem, a, ha, hta⟩ | ⟨a, ha, hread', hta⟩
  · rcases List.mem_cons.mp hmem with rfl | hmem
    · exact .inl ⟨a, ha, hta⟩
    · have hrest := readOption_options hread hmem (options_of_mem_wordOptions ha)
      exact .inr (.inl ⟨word, hrest, a, ha, hta⟩)
  · exact .inr (.inr ⟨a, (nameless_readOption hread).trans ha, hread', hta⟩)

lemma Writes.pass (h : g.Writes rest r r₁ t) (all : List Word) :
    g.Writes (r.pass all rest).2 (r.pass all rest).1 r₁ t := by
  rcases r.pass_cases all rest with ⟨hpass, -⟩ | hpass
  · rw [hpass]
    exact h
  · rw [hpass]
    rcases h with ⟨word, hmem, a, ha, hta⟩ | hnameless
    · exact .inl ⟨word, mem_drop_takeWhile hmem (options_of_mem_wordOptions ha), a, ha, hta⟩
    · exact .inr hnameless

lemma readNameless_cases {result : Reading × List Word} (hmany : ∀ a ∈ r.nameless, a.arity = .many)
    (h : g.readNameless noCommand r all = .ok result) :
    result = (r, all) ∨ result.1.nameless = none ∧
      result.2 = all.drop (all.takeWhile (!·.1.isOption)).length := by
  unfold readNameless at h
  split at h
  · next a _ _ ha _ =>
    have harity : (a.arity == .command) = false := by rw [hmany a ha]; rfl
    obtain ⟨r₂, hr₂, h⟩ := bind_eq_ok h
    rw [harity, if_neg Bool.false_ne_true] at h
    cases h
    refine .inr ⟨?_, rfl⟩
    unfold obeyNameless at hr₂
    dsimp only at hr₂
    split at hr₂
    · obtain ⟨v, -, hr₂⟩ := bind_eq_ok hr₂
      cases hr₂
      rfl
    · cases hr₂; rfl
  · cases h
    exact .inl rfl

lemma Writes.of_nameless {result : Reading × List Word}
    (h : g.Writes all r r₁ t) (hmany : ∀ a ∈ r.nameless, a.arity = .many)
    (hread : g.readNameless noCommand r all = .ok result) :
    (∃ a, r.nameless = some a ∧ result.1.nameless = none ∧ a.target = t) ∨
      g.Writes result.2 result.1 r₁ t := by
  rcases readNameless_cases hmany hread with rfl | ⟨hnone, hrest⟩
  · exact .inr h
  · rcases h with ⟨word, hmem, a, ha, hta⟩ | ⟨a, ha, -, hta⟩
    · refine .inr (.inl ⟨word, ?_, a, ha, hta⟩)
      rw [hrest]
      exact mem_drop_takeWhile hmem (options_of_mem_wordOptions ha)
    · exact .inl ⟨a, ha, hnone, hta⟩

lemma agree_obey (r r' : Reading) (word : Option String) (program : String) :
    Follows (fun x x' => x'.values.lookup a.target = x.values.lookup a.target) (g.obey r a word)
      ((g.named program).obey r' a word) :=
  follows_obey_of_put (fun _ => by rw [Values.lookup_put_self, Values.lookup_put_self]) word program

lemma agree_uses (h : Reading.Alike start start' r r') {uses : List (Argument × Option String)}
    (ht : ∃ a ∈ uses.map Prod.fst, a.target = t) (program : String) :
    Follows (fun x x' => x'.values.lookup t = x.values.lookup t)
      (uses.foldlM (fun r (a, word) => g.obey r a word) r)
      (uses.foldlM (fun r (a, word) => (g.named program).obey r a word) r') := by
  induction uses generalizing r r' with
  | nil => simp at ht
  | cons use uses ih =>
    intro x hx
    rw [List.foldlM_cons] at hx ⊢
    obtain ⟨r₂, hr₂, hx⟩ := bind_eq_ok hx
    obtain ⟨r₂', hr₂', halike⟩ := follows_obey h use.1 use.2 program _ hr₂
    change ∃ b, ((g.named program).obey r' use.1 use.2 >>= _) = Except.ok b ∧ _
    rw [hr₂', ok_bind]
    by_cases hrest : ∃ a ∈ uses.map Prod.fst, a.target = t
    · exact ih halike hrest x hx
    · have htarget : use.1.target = t := by
        obtain ⟨a, ha, hta⟩ := ht
        rcases List.mem_cons.mp ha with rfl | ha
        · exact hta
        · exact absurd ⟨a, ha, hta⟩ hrest
      obtain ⟨b, hb, hagree⟩ := agree_obey r r' use.2 program _ hr₂
      cases hr₂'.symm.trans hb
      obtain ⟨x', hx', hfinal⟩ := follows_uses halike.restart uses program x hx
      exact ⟨x', hx', hfinal.values.agree (htarget ▸ hagree)⟩

lemma agree_readOption (h : Reading.Alike start start' r r')
    (ht : ∃ a ∈ g.wordOptions (.option use), a.target = t) (name : String) (rest : List Word)
    (program : String) :
    Follows (fun x x' => x'.1.values.lookup t = x.1.values.lookup t) (g.readOption r use name rest)
      ((g.named program).readOption r' use name rest) := by
  unfold readOption
  split
  · next hnone =>
    simp [wordOptions, hnone] at ht
  · next a ha =>
    intro x hx
    obtain ⟨group, hgroup, hx⟩ := bind_eq_ok hx
    obtain ⟨r₂, hr₂, hx⟩ := bind_eq_ok hx
    cases hx
    obtain ⟨r₂', hr₂', hagree⟩ := agree_uses h (optionGroup_options ha hgroup ▸ ht) program r₂ hr₂
    rw [optionGroup_named hgroup, ok_bind, hr₂']
    exact ⟨_, rfl, hagree⟩

lemma agree_readNameless (h : Reading.Alike start start' r r') (ha : r.nameless = some a)
    (all : List Word) (program : String) :
    Follows (fun x x' => x.1.nameless = none → x'.1.values.lookup a.target = x.1.values.lookup a.target)
      (g.readNameless noCommand r all) ((g.named program).readNameless noCommand r' all) := by
  have hput : ∀ v, (r'.values.put a.target v).lookup a.target =
      (r.values.put a.target v).lookup a.target := by
    intro v
    rw [Values.lookup_put_self, Values.lookup_put_self]
  unfold readNameless
  rw [h.nameless, ha]
  split
  · next b _ _ hb _ =>
    cases hb
    refine .bind (Q := fun x x' => x'.values.lookup a.target = x.values.lookup a.target) ?_
      fun _ _ hr => .ok fun _ => hr
    unfold obeyNameless
    dsimp only
    split
    · refine .bind (Q := Eq) (fun v hv => ⟨v, convert_named hv program, rfl⟩) fun _ _ _ => ?_
      exact .ok (hput _)
    · exact .ok (hput _)
  · refine .ok fun hnone => ?_
    rw [ha] at hnone
    cases hnone

lemma readNameless_many {result : Reading × List Word} (hmany : ∀ a ∈ r.nameless, a.arity = .many)
    (h : g.readNameless noCommand r all = .ok result) : ∀ a ∈ result.1.nameless, a.arity = .many := by
  rcases readNameless_cases hmany h with rfl | ⟨hnone, -⟩
  · exact hmany
  · intro a ha
    cases hnone.symm.trans ha

lemma ReadsTo.agree_rest (hr : g.ReadsTo noCommand r rest r₁) (h : Reading.Alike start start' r r')
    (hagree : r'.values.lookup t = r.values.lookup t) (program : String) :
    ∃ r₁', (g.named program).ReadsTo noCommand r' rest r₁' ∧ r₁'.values.lookup t = r₁.values.lookup t := by
  obtain ⟨r₁', hr', hfinal⟩ := hr.follows h.restart program
  exact ⟨r₁', hr', hfinal.values.agree hagree⟩

lemma ReadsTo.agree (hr : g.ReadsTo noCommand r all r₁) (h : Reading.Alike start start' r r')
    (hmany : ∀ a ∈ r.nameless, a.arity = .many) (ht : g.Writes all r r₁ t) (program : String) :
    ∃ r₁', (g.named program).ReadsTo noCommand r' all r₁' ∧ r₁'.values.lookup t = r₁.values.lookup t := by
  induction hr generalizing r' with
  | done r =>
    rcases ht with ⟨word, hmem, -⟩ | ⟨a, ha, hread, -⟩
    · cases hmem
    · exact absurd ha hread
  | @option r r₂ r₁ use word rest rest₂ hread hnext ih =>
    obtain ⟨⟨r₂', rest'⟩, hread', h₂, hsame⟩ := follows_readOption h use word rest program _ hread
    obtain rfl : rest' = rest₂ := hsame
    have hlater : ∃ r₁', (g.named program).ReadsTo noCommand r₂' rest' r₁' ∧
        r₁'.values.lookup t = r₁.values.lookup t := by
      rcases ht.of_option hread with hword | hlater
      · obtain ⟨x, hx, hagree⟩ := agree_readOption h hword _ _ program _ hread
        cases hread'.symm.trans hx
        exact hnext.agree_rest h₂ hagree program
      · exact ih h₂ (by rwa [nameless_readOption hread]) hlater
    obtain ⟨r₁', hr', hagree⟩ := hlater
    exact ⟨r₁', .option hread' hr', hagree⟩
  | @value r r₂ r₁ word more rest hword hread hnext ih =>
    obtain ⟨⟨r₂', rest'⟩, hread', h₂, hsame⟩ := follows_readNameless h _ program _ hread
    obtain rfl : rest' = rest := hsame
    obtain ⟨halike, hrest⟩ := h₂.pass (word :: more) rest'
    have hlater : ∃ r₁', (g.named program).ReadsTo noCommand (r₂'.pass (word :: more) rest').1
        (r₂.pass (word :: more) rest').2 r₁' ∧ r₁'.values.lookup t = r₁.values.lookup t := by
      rcases ht.of_nameless hmany hread with ⟨a, ha, hnone, rfl⟩ | hlater
      · obtain ⟨x, hx, hagree⟩ := agree_readNameless h ha _ program _ hread
        cases hread'.symm.trans hx
        refine hnext.agree_rest halike ?_ program
        rw [r₂'.pass_values, r₂.pass_values]
        exact hagree hnone
      · refine ih halike ?_ (hlater.pass _)
        rw [r₂.pass_nameless]
        exact readNameless_many hmany hread
    obtain ⟨r₁', hr', hagree⟩ := hlater
    exact ⟨r₁', .value hword hread' (hrest ▸ hr'), hagree⟩

def assigned (g : Grammar) (line : List String) : List String :=
  (g.given line ++ g.nameless.toList).map (·.target)

lemma lookup_of_assigned {preset : Values} {line : List String} {program : String}
    {x x' : Values × List String} (hmany : ∀ a ∈ g.nameless, a.arity = .many)
    (hpreset : preset.Proper) (h : g.readSome noCommand [] line = .ok x)
    (h' : (g.named program).readSome noCommand preset line = .ok x') (ht : t ∈ g.assigned line) :
    x'.1.lookup t = x.1.lookup t := by
  obtain ⟨all, r, hall, hr, hconcluded⟩ := readSome_eq_ok_iff.mp h
  obtain ⟨all', r', hall', hr', hconcluded'⟩ := readSome_eq_ok_iff.mp h'
  cases hall'.symm.trans (words_named hall program)
  obtain ⟨rfl, hread⟩ := concluded_eq_ok hconcluded
  obtain ⟨rfl, -⟩ := concluded_eq_ok hconcluded'
  have hwrites : g.Writes all { values := g.initialValues [], nameless := g.nameless } r t := by
    obtain ⟨a, ha, rfl⟩ := List.mem_map.mp ht
    rcases List.mem_append.mp ha with hgiven | hnameless
    · rw [given, hall] at hgiven
      obtain ⟨word, hword, ha⟩ := List.mem_flatMap.mp hgiven
      exact .inl ⟨word, hword, a, ha, rfl⟩
    · have ha : g.nameless = some a := Option.mem_toList.mp hnameless
      exact .inr ⟨a, ha, fun hleft => hread a hleft (hmany a ha), rfl⟩
  have hfresh := Reading.Alike.fresh (proper_initialValues g Values.proper_nil)
    (proper_initialValues g hpreset) g.nameless
  obtain ⟨r₁', hr₁', hagree⟩ := hr.agree hfresh hmany hwrites program
  cases hr₁'.unique hr'
  exact hagree

end Grammar

end SourceTidy
