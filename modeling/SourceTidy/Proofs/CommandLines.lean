import Mathlib.Data.List.Nodup
import SourceTidy.CommandLine.Request
import SourceTidy.Proofs.SessionRun

/-!
# Readings of command lines

A command line is read over values that are there already. What the words write does not depend on
these values, nor on the name of the program. So two readings of the same words have written the same
when they come to an end.
-/

namespace SourceTidy

open Values Commands

variable {isLong : Bool} {c : Command} {readCommand : CommandReader} {year : Int}
  {line : List String} {all rest : List Word} {group : OptionGroup} {name word : String}
  {preset : Values}

/-- The second computation has a result if the first one has, and the results are related. -/
def Follows {ε α β : Type} (Q : α → β → Prop) (x : Except ε α) (x' : Except ε β) : Prop :=
  ∀ a, x = .ok a → ∃ b, x' = .ok b ∧ Q a b

namespace Follows

variable {ε α β γ δ : Type} {Q : α → β → Prop} {P : γ → δ → Prop}

lemma ok {a : α} {b : β} (h : Q a b) : Follows Q (.ok a : Except ε α) (.ok b) := by
  intro a' ha
  cases ha
  exact ⟨b, rfl, h⟩

lemma error (e : ε) (x' : Except ε β) : Follows Q (.error e) x' := fun _ h => by cases h

lemma bind {x : Except ε α} {x' : Except ε β} {f : α → Except ε γ} {f' : β → Except ε δ}
    (hx : Follows Q x x') (hf : ∀ a b, Q a b → Follows P (f a) (f' b)) : Follows P (x >>= f) (x' >>= f') := by
  intro c hc
  obtain ⟨a, rfl, ha⟩ := bind_eq_ok hc
  obtain ⟨b, rfl, hab⟩ := hx a rfl
  exact hf a b hab c ha

end Follows

namespace Values

variable {values values' start start' : Values} {target : String} {v : Setting}

lemma lookup_put (values : Values) (target : String) (v : Setting) (t : String) :
    (values.put target v).lookup t = if t = target then some v else values.lookup t := by
  induction values with
  | nil =>
    rw [put, List.lookup_cons]
    by_cases h : t = target
    · rw [if_pos h, h, beq_self_eq_true]
    · rw [if_neg h, (beq_eq_false_iff_ne).mpr h]
  | cons p values ih =>
    obtain ⟨n, u⟩ := p
    rw [put]
    by_cases hn : n = target
    · subst hn
      rw [if_pos (beq_self_eq_true n), List.lookup_cons, List.lookup_cons]
      by_cases h : t = n
      · rw [if_pos h, h, beq_self_eq_true]
      · rw [if_neg h, (beq_eq_false_iff_ne).mpr h]
    · rw [if_neg (by simpa using hn), List.lookup_cons, List.lookup_cons, ih]
      by_cases h : t = target
      · have hne : (t == n) = false := beq_eq_false_iff_ne.mpr fun htn => hn (htn.symm.trans h)
        rw [if_pos h, if_pos h, hne]
      · rw [if_neg h, if_neg h]

lemma lookup_put_self : (values.put target v).lookup target = some v := by
  rw [lookup_put, if_pos rfl]

lemma lookup_put_of_ne {t : String} (h : t ≠ target) : (values.put target v).lookup t = values.lookup t := by
  rw [lookup_put, if_neg h]

def Proper (values : Values) : Prop := (values.map Prod.fst).Nodup

lemma proper_nil : Proper [] := List.nodup_nil

lemma mem_keys_put {t : String} (h : t ∈ (values.put target v).map Prod.fst) :
    t = target ∨ t ∈ values.map Prod.fst := by
  induction values with
  | nil => exact .inl (List.mem_singleton.mp h)
  | cons p values ih =>
    obtain ⟨n, u⟩ := p
    rw [put] at h
    split at h
    · exact .inr h
    · rcases List.mem_cons.mp h with rfl | h
      · exact .inr List.mem_cons_self
      · exact (ih h).imp_right (List.mem_cons_of_mem _)

lemma Proper.put (h : values.Proper) (target : String) (v : Setting) : (values.put target v).Proper := by
  induction values with
  | nil => exact List.nodup_singleton _
  | cons p values ih =>
    obtain ⟨n, u⟩ := p
    obtain ⟨hn, hvalues⟩ := List.nodup_cons.mp h
    rw [Values.put]
    split
    · exact h
    · next hne =>
      refine List.nodup_cons.mpr ⟨fun hmem => ?_, ih hvalues⟩
      rcases mem_keys_put hmem with heq | hmem
      · exact hne (by simpa using heq)
      · exact hn hmem

lemma lookup_offer (values : Values) (target : String) (v : Setting) (t : String) :
    (values.offer target v).lookup t = (values.lookup t).or (if t = target then some v else none) := by
  have hnew : List.lookup t [(target, v)] = if t = target then some v else none := by
    rw [List.lookup_cons]
    by_cases h : t = target
    · rw [if_pos h, h, beq_self_eq_true]
    · rw [if_neg h, beq_eq_false_iff_ne.mpr h]
      rfl
  unfold offer
  split
  · next hsome =>
    by_cases h : t = target
    · rw [h]
      obtain ⟨u, hu⟩ := Option.isSome_iff_exists.mp hsome
      rw [hu]
      rfl
    · rw [if_neg h, Option.or_none]
  · rw [List.lookup_append, hnew]

lemma Proper.offer (h : values.Proper) (target : String) (v : Setting) : (values.offer target v).Proper := by
  unfold Values.offer
  split
  · exact h
  · next hnone =>
    rw [Bool.not_eq_true, Option.isSome_eq_false_iff, Option.isNone_iff_eq_none,
      List.lookup_eq_none_iff] at hnone
    unfold Proper
    rw [List.map_append, List.nodup_append]
    refine ⟨h, List.nodup_singleton _, fun t ht t' ht' heq => ?_⟩
    obtain ⟨p, hp, rfl⟩ := List.mem_map.mp ht
    rw [List.map_singleton, List.mem_singleton] at ht'
    have hne : target ≠ p.1 := by simpa using hnone p hp
    exact hne (heq.trans ht').symm

lemma lookup_putAll (values : Values) {others : Values} (h : others.Proper) (t : String) :
    (values.putAll others).lookup t = (others.lookup t).or (values.lookup t) := by
  induction others generalizing values with
  | nil => rfl
  | cons p others ih =>
    obtain ⟨n, u⟩ := p
    obtain ⟨hn, hothers⟩ := List.nodup_cons.mp h
    have hrest := ih (values.put n u) hothers
    rw [putAll, List.foldl_cons, List.lookup_cons]
    rw [putAll] at hrest
    rw [hrest, lookup_put]
    by_cases ht : t = n
    · have hnone : others.lookup n = none := by
        rw [List.lookup_eq_none_iff]
        intro p hp
        have hmem : p.1 ∈ others.map Prod.fst := List.mem_map_of_mem hp
        simpa using fun heq : n = p.1 => hn (heq ▸ hmem)
      rw [ht, hnone, if_pos rfl, beq_self_eq_true]
      rfl
    · rw [if_neg ht, beq_eq_false_iff_ne.mpr ht]

/-- Values that the same writing has made of two others: a target has the same new value in both, or
still those it had. -/
structure Written (start start' values values' : Values) : Prop where
  same : ∀ t, values'.lookup t = values.lookup t ∨
    (values.lookup t = start.lookup t ∧ values'.lookup t = start'.lookup t)
  proper : values.Proper
  proper' : values'.Proper

lemma Written.refl (h : start.Proper) (h' : start'.Proper) : Written start start' start start' :=
  ⟨fun _ => .inr ⟨rfl, rfl⟩, h, h'⟩

lemma Written.put (h : Written start start' values values') (target : String) (v : Setting) :
    Written start start' (values.put target v) (values'.put target v) := by
  refine ⟨fun t => ?_, h.proper.put _ _, h.proper'.put _ _⟩
  rw [lookup_put, lookup_put]
  split
  · exact .inl rfl
  · exact h.same t

end Values

namespace Grammar

def named (g : Grammar) (program : String) : Grammar := { g with program }

variable {g : Grammar} {a : Argument}

lemma classify_named {kind : WordKind} (h : g.classify word = .ok kind) (program : String) :
    (g.named program).classify word = .ok kind := by
  have hoption : (g.named program).option? = g.option? := rfl
  have hcandidates : (g.named program).candidates = g.candidates := rfl
  unfold classify at h ⊢
  rw [hoption, hcandidates]
  split at h
  · split at h
    dsimp only at h ⊢
    split at h
    · exact h
    · exact h
    · split at h
      · exact h
      · exact h
      · cases h
  · exact h

lemma words_named (h : g.words line = .ok all) (program : String) :
    (g.named program).words line = .ok all := by
  induction line generalizing all with
  | nil => exact h
  | cons word rest ih =>
    rw [words] at h ⊢
    split at h
    · next hyphens => rwa [if_pos hyphens]
    · next hother =>
      obtain ⟨kind, hkind, h⟩ := bind_eq_ok h
      obtain ⟨more, hmore, h⟩ := bind_eq_ok h
      rw [if_neg hother, classify_named hkind, ih hmore]
      exact h

lemma convert_named {v : Setting} (h : g.convert a word = .ok v) (program : String) :
    (g.named program).convert a word = .ok v := by
  unfold convert at h ⊢
  split at h
  · next hnumber =>
    rw [if_pos hnumber]
    split at h
    · exact h
    · cases h
  · next hnumber =>
    rw [if_neg hnumber]
    split at h
    · cases h
    · next hchoice => rwa [if_neg hchoice]

lemma optionValue_named {word : Option String} {v : Setting} (h : g.optionValue a word = .ok v)
    (program : String) : (g.named program).optionValue a word = .ok v := by
  unfold optionValue at h ⊢
  split at h
  · exact h
  · exact convert_named h program
  · exact h

lemma takeValue_named {taken : Option String × List Word}
    (h : g.takeValue a rest = .ok taken) (program : String) :
    (g.named program).takeValue a rest = .ok taken := by
  unfold takeValue at h ⊢
  split at h
  · exact h
  · exact h
  · exact h
  · cases h

lemma lastOfGroup_named (h : g.lastOfGroup a rest = .ok group) (program : String) :
    (g.named program).lastOfGroup a rest = .ok group := by
  obtain ⟨taken, htaken, h⟩ := bind_eq_ok h
  rw [lastOfGroup, takeValue_named htaken]
  exact h

lemma groupWith_named {joined : Text} (h : g.groupWith rest a isLong joined = .ok group) (program : String) :
    (g.named program).groupWith rest a isLong joined = .ok group := by
  have hoption : (g.named program).option? = g.option? := rfl
  induction joined generalizing a isLong group with
  | nil =>
    rw [groupWith] at h ⊢
    split at h
    · next harity => rwa [if_pos harity]
    · cases h
  | cons c more ih =>
    unfold groupWith at h ⊢
    rw [hoption]
    split at h
    · next harity => rwa [if_pos harity]
    · next harity =>
      rw [if_neg harity]
      split at h
      · split at h
        · next hlast =>
          obtain ⟨group', hgroup, rfl⟩ := map_eq_ok h
          rw [if_pos hlast, lastOfGroup_named hgroup]
          rfl
        · next hlast =>
          obtain ⟨group', hgroup, rfl⟩ := map_eq_ok h
          rw [if_neg hlast, ih hgroup]
          rfl
      · cases h

lemma optionGroup_named {use : OptionUse} (h : g.optionGroup a use rest = .ok group) (program : String) :
    (g.named program).optionGroup a use rest = .ok group := by
  unfold optionGroup at h ⊢
  split at h
  · exact lastOfGroup_named h program
  · exact groupWith_named h program

/-- Two readings that have written the same to the values with which they began. -/
structure Reading.Alike (start start' : Values) (r r' : Reading) : Prop where
  values : Written start start' r.values r'.values
  left : r'.left = r.left
  leftByCommand : r'.leftByCommand = r.leftByCommand
  nameless : r'.nameless = r.nameless

variable {start start' : Values} {r r' : Reading}

lemma follows_obey_of_put {P : Reading → Reading → Prop} {a : Argument} (hput : ∀ v,
      P { r with values := r.values.put a.target v } { r' with values := r'.values.put a.target v })
    (word : Option String) (program : String) :
    Follows P (g.obey r a word) ((g.named program).obey r' a word) := by
  unfold obey
  split
  · exact .error _ _
  · exact .error _ _
  · exact .ok (hput _)
  · refine .bind (Q := Eq) (fun v hv => ⟨v, optionValue_named hv program, rfl⟩) ?_
    rintro v _ rfl
    exact .ok (hput v)

lemma follows_obey (h : Reading.Alike start start' r r') (a : Argument) (word : Option String)
    (program : String) :
    Follows (Reading.Alike start start') (g.obey r a word) ((g.named program).obey r' a word) :=
  follows_obey_of_put (fun _ => ⟨h.values.put _ _, h.left, h.leftByCommand, h.nameless⟩) word program

lemma follows_uses (h : Reading.Alike start start' r r') (uses : List (Argument × Option String))
    (program : String) :
    Follows (Reading.Alike start start') (uses.foldlM (fun r (a, word) => g.obey r a word) r)
      (uses.foldlM (fun r (a, word) => (g.named program).obey r a word) r') := by
  induction uses generalizing r r' with
  | nil => exact .ok h
  | cons use uses ih =>
    rw [List.foldlM_cons, List.foldlM_cons]
    exact .bind (follows_obey h use.1 use.2 program) fun _ _ => ih

lemma follows_readOption (h : Reading.Alike start start' r r') (use : OptionUse) (word : String)
    (rest : List Word) (program : String) :
    Follows (fun x x' => Reading.Alike start start' x.1 x'.1 ∧ x'.2 = x.2)
      (g.readOption r use word rest) ((g.named program).readOption r' use word rest) := by
  unfold readOption
  split
  · exact .ok ⟨⟨h.values, congrArg (· ++ [word]) h.left, h.leftByCommand, h.nameless⟩, rfl⟩
  · refine .bind (Q := Eq) (fun group hgroup => ⟨group, optionGroup_named hgroup program, rfl⟩) ?_
    rintro group _ rfl
    exact .bind (follows_uses h group.uses program) fun _ _ hr => .ok ⟨hr, rfl⟩

lemma follows_obeyNameless (h : Reading.Alike start start' r r') (a : Argument)
    (taken : List String) (program : String) :
    Follows (Reading.Alike start start') (g.obeyNameless noCommand r a taken)
      ((g.named program).obeyNameless noCommand r' a taken) := by
  unfold obeyNameless
  dsimp only
  split
  · refine .bind (Q := Eq) (fun v hv => ⟨v, convert_named hv program, rfl⟩) fun _ _ _ => ?_
    exact .ok ⟨h.values.put _ _, h.left, rfl, rfl⟩
  · exact .ok ⟨h.values.put _ _, h.left, h.leftByCommand, rfl⟩

lemma follows_readNameless (h : Reading.Alike start start' r r') (all : List Word) (program : String) :
    Follows (fun x x' => Reading.Alike start start' x.1 x'.1 ∧ x'.2 = x.2)
      (g.readNameless noCommand r all) ((g.named program).readNameless noCommand r' all) := by
  unfold readNameless
  rw [h.nameless]
  split
  · exact .bind (follows_obeyNameless h _ _ program) fun _ _ hr => .ok ⟨hr, rfl⟩
  · exact .ok ⟨h, rfl⟩

lemma takeValue_suffix {taken : Option String × List Word} (h : g.takeValue a rest = .ok taken) :
    taken.2 <:+ rest := by
  unfold takeValue at h
  split at h
  · cases h; exact List.suffix_rfl
  · cases h; exact List.suffix_cons _ _
  · cases h; exact List.suffix_rfl
  · cases h

lemma groupWith_rest {joined : Text} (h : g.groupWith rest a isLong joined = .ok group) :
    group.rest = rest ∨ ∃ last taken, g.takeValue last rest = .ok taken ∧ group.rest = taken.2 := by
  induction joined generalizing a isLong group with
  | nil =>
    rw [groupWith] at h
    split at h
    · cases h; exact .inl rfl
    · cases h
  | cons c more ih =>
    unfold groupWith at h
    split at h
    · cases h; exact .inl rfl
    · split at h
      · split at h
        · obtain ⟨group', hgroup, rfl⟩ := map_eq_ok h
          obtain ⟨taken, htaken, hlast⟩ := bind_eq_ok hgroup
          cases hlast
          exact .inr ⟨_, taken, htaken, rfl⟩
        · obtain ⟨group', hgroup, rfl⟩ := map_eq_ok h
          exact (ih hgroup :)
      · cases h

lemma readOption_rest {use : OptionUse} {result : Reading × List Word}
    (h : g.readOption r use word rest = .ok result) :
    result.2 = rest ∨ ∃ last taken, g.takeValue last rest = .ok taken ∧ result.2 = taken.2 := by
  unfold readOption at h
  split at h
  · cases h; exact .inl rfl
  · obtain ⟨group, hgroup, h⟩ := bind_eq_ok h
    obtain ⟨r₁, -, h⟩ := bind_eq_ok h
    cases h
    unfold optionGroup at hgroup
    split at hgroup
    · obtain ⟨taken, htaken, hlast⟩ := bind_eq_ok hgroup
      cases hlast
      exact .inr ⟨_, taken, htaken, rfl⟩
    · exact groupWith_rest hgroup

lemma readOption_suffix {use : OptionUse}
    {result : Reading × List Word} (h : g.readOption r use word rest = .ok result) : result.2 <:+ rest := by
  rcases readOption_rest h with hrest | ⟨last, taken, htaken, hrest⟩
  · exact hrest ▸ List.suffix_rfl
  · rw [hrest]
    exact takeValue_suffix htaken

lemma readNameless_drop {result : Reading × List Word} (h : g.readNameless readCommand r all = .ok result) :
    ∃ count, result.2 = all.drop count := by
  unfold readNameless at h
  split at h
  · obtain ⟨r₁, -, h⟩ := bind_eq_ok h
    cases h
    exact ⟨_, rfl⟩
  · cases h
    exact ⟨0, rfl⟩

/-- Where reading goes on after the argument without a name: at what follows it if it took words and
options are left, and else at the next option, with the values before it left over. -/
def Reading.pass (r : Reading) (all rest : List Word) : Reading × List Word :=
  if rest.length < all.length && rest.any (·.1.isOption) then (r, rest)
  else ({ r with left := r.left ++ (rest.takeWhile (!·.1.isOption)).map (·.2) },
    rest.drop (rest.takeWhile (!·.1.isOption)).length)

lemma Reading.pass_cases (r : Reading) (all rest : List Word) :
    r.pass all rest = (r, rest) ∧ rest.length < all.length ∨
      r.pass all rest = ({ r with left := r.left ++ (rest.takeWhile (!·.1.isOption)).map (·.2) },
        rest.drop (rest.takeWhile (!·.1.isOption)).length) := by
  unfold pass
  split
  · next hmore =>
    rw [Bool.and_eq_true, decide_eq_true_eq] at hmore
    exact .inl ⟨rfl, hmore.1⟩
  · exact .inr rfl

lemma Reading.pass_suffix (r : Reading) (all rest : List Word) : (r.pass all rest).2 <:+ rest := by
  rcases r.pass_cases all rest with ⟨h, -⟩ | h
  · exact h ▸ List.suffix_rfl
  · exact h ▸ List.drop_suffix _ _

lemma Reading.pass_values (r : Reading) (all rest : List Word) : (r.pass all rest).1.values = r.values := by
  rcases r.pass_cases all rest with ⟨h, -⟩ | h
  · rw [h]
  · rw [h]

lemma Reading.pass_nameless (r : Reading) (all rest : List Word) :
    (r.pass all rest).1.nameless = r.nameless := by
  rcases r.pass_cases all rest with ⟨h, -⟩ | h
  · rw [h]
  · rw [h]

lemma Reading.Alike.pass (h : Reading.Alike start start' r r') (all rest : List Word) :
    Reading.Alike start start' (r.pass all rest).1 (r'.pass all rest).1 ∧
      (r'.pass all rest).2 = (r.pass all rest).2 := by
  unfold Reading.pass
  split
  · exact ⟨h, rfl⟩
  · exact ⟨⟨h.values, congrArg (· ++ _) h.left, h.leftByCommand, h.nameless⟩, rfl⟩

lemma pass_length {word : Word} {more rest : List Word} {r₁ : Reading} (hword : word.1.isOption = false)
    (h : g.readNameless readCommand r (word :: more) = .ok (r₁, rest)) :
    (r₁.pass (word :: more) rest).2.length < (word :: more).length := by
  rcases r₁.pass_cases (word :: more) rest with ⟨hpass, hlt⟩ | hpass
  · rw [hpass]
    exact hlt
  · obtain ⟨count, hcount⟩ := readNameless_drop h
    obtain rfl : rest = (word :: more).drop count := hcount
    rw [hpass]
    cases count with
    | zero =>
      rw [List.drop_zero, List.takeWhile_cons_of_pos (by simp [hword])]
      simp only [List.length_cons, List.drop_succ_cons, List.length_drop]
      omega
    | succ count =>
      simp only [List.length_drop, List.length_cons]
      omega

/-- How a reading ends after words that are read one step after the other. -/
inductive ReadsTo (g : Grammar) (readCommand : CommandReader) : Reading → List Word → Reading → Prop
  | done (r : Reading) : ReadsTo g readCommand r [] r
  | option {r r₁ r' : Reading} {use : OptionUse} {word : String} {rest rest₁ : List Word}
      (hread : g.readOption r use word rest = .ok (r₁, rest₁))
      (hnext : ReadsTo g readCommand r₁ rest₁ r') :
      ReadsTo g readCommand r ((.option use, word) :: rest) r'
  | value {r r₁ r' : Reading} {word : Word} {more rest : List Word} (hword : word.1.isOption = false)
      (hread : g.readNameless readCommand r (word :: more) = .ok (r₁, rest))
      (hnext : ReadsTo g readCommand (r₁.pass (word :: more) rest).1
        (r₁.pass (word :: more) rest).2 r') :
      ReadsTo g readCommand r (word :: more) r'

lemma readWords_value {word : Word} (hword : word.1.isOption = false)
    (fuel : Nat) (r : Reading) (more : List Word) :
    g.readWords readCommand (fuel + 1) r (word :: more) =
      (g.readNameless readCommand r (word :: more)).bind fun x =>
        g.readWords readCommand fuel (x.1.pass (word :: more) x.2).1 (x.1.pass (word :: more) x.2).2 := by
  rw [readWords.eq_def]
  dsimp only
  split
  · next heq => cases heq
  · next heq =>
    cases heq
    cases hword
  · refine congrArg (Except.bind _) (funext fun x => ?_)
    unfold Reading.pass
    split <;> rfl

lemma readWords_eq_ok_iff {fuel : Nat} (hfuel : all.length < fuel) :
    g.readWords readCommand fuel r all = .ok r' ↔ g.ReadsTo readCommand r all r' := by
  induction fuel generalizing r all with
  | zero => omega
  | succ fuel ih =>
    rcases all with _ | ⟨word, rest⟩
    · constructor
      · intro h
        cases h
        exact .done _
      · intro h
        cases h
        rfl
    cases hword : word.1.isOption with
    | false =>
      rw [readWords_value hword]
      constructor
      · intro h
        obtain ⟨⟨r₁, rest₁⟩, hread, h⟩ := bind_eq_ok h
        have hlength := pass_length hword hread
        exact .value hword hread ((ih (by omega)).mp h)
      · intro h
        cases h with
        | option hread hnext => cases hword
        | value _ hread hnext =>
          have hlength := Nat.lt_of_lt_of_le (pass_length hword hread) (Nat.le_of_lt_succ hfuel)
          rw [hread]
          exact (ih hlength).mpr hnext
    | true =>
      obtain ⟨kind, word⟩ := word
      cases kind with
      | value => cases hword
      | hyphens => cases hword
      | option use =>
        rw [List.length_cons] at hfuel
        rw [readWords]
        constructor
        · intro h
          obtain ⟨⟨r₁, rest₁⟩, hread, h⟩ := bind_eq_ok h
          have hlength : rest₁.length ≤ rest.length := (readOption_suffix hread).length_le
          exact .option hread ((ih (by omega)).mp h)
        · intro h
          cases h with
          | option hread hnext =>
            have hlength := Nat.lt_of_le_of_lt (readOption_suffix hread).length_le
              (Nat.lt_of_succ_lt_succ hfuel)
            rw [hread]
            exact (ih hlength).mpr hnext
          | value hvalue => cases hvalue

lemma ReadsTo.unique {r₁ r₂ : Reading}
    (h₁ : g.ReadsTo readCommand r all r₁) (h₂ : g.ReadsTo readCommand r all r₂) : r₁ = r₂ := by
  rw [← readWords_eq_ok_iff (Nat.lt_succ_self _)] at h₁ h₂
  exact Except.ok.inj (h₁.symm.trans h₂)

lemma ReadsTo.follows {r₁ : Reading} (hr : g.ReadsTo noCommand r all r₁)
    (h : Reading.Alike start start' r r') (program : String) :
    ∃ r₁', (g.named program).ReadsTo noCommand r' all r₁' ∧ Reading.Alike start start' r₁ r₁' := by
  induction hr generalizing r' with
  | done r => exact ⟨r', .done r', h⟩
  | option hread _ ih =>
    obtain ⟨⟨r₂', rest'⟩, hread', h₂, hsame⟩ := follows_readOption h _ _ _ program _ hread
    obtain rfl : rest' = _ := hsame
    obtain ⟨r₁', hr', h₁⟩ := ih h₂
    exact ⟨r₁', .option hread' hr', h₁⟩
  | value hword hread _ ih =>
    obtain ⟨⟨r₂', rest'⟩, hread', h₂, hsame⟩ := follows_readNameless h _ program _ hread
    obtain rfl : rest' = _ := hsame
    obtain ⟨halike, hrest⟩ := h₂.pass _ rest'
    obtain ⟨r₁', hr', h₁⟩ := ih halike
    exact ⟨r₁', .value hword hread' (hrest ▸ hr'), h₁⟩

lemma proper_initialValues (g : Grammar) (h : preset.Proper) : (g.initialValues preset).Proper := by
  unfold initialValues
  induction g.arguments generalizing preset with
  | nil => exact h
  | cons a arguments ih =>
    rw [List.foldl_cons]
    refine ih ?_
    split
    · exact h.offer _ _
    · exact h

lemma lookup_initialValues (g : Grammar) (preset : Values) (t : String) :
    (g.initialValues preset).lookup t = (preset.lookup t).or ((g.initialValues []).lookup t) := by
  unfold initialValues
  induction g.arguments generalizing preset with
  | nil => simp
  | cons a arguments ih =>
    rw [List.foldl_cons, List.foldl_cons]
    cases a.initial with
    | none => exact ih preset
    | some v =>
      dsimp only
      rw [ih (preset.offer a.target v), ih (offer a.target v []), lookup_offer,
        lookup_offer, Option.or_assoc]
      rfl

lemma initialValues_congr {g g' : Grammar}
    (h : g'.arguments.map (fun a => (a.target, a.initial)) =
      g.arguments.map fun a => (a.target, a.initial)) (preset : Values) :
    g'.initialValues preset = g.initialValues preset := by
  have hpairs : ∀ g : Grammar, g.initialValues preset =
      (g.arguments.map fun a => (a.target, a.initial)).foldl 
        (fun (values : Values) p => p.2.elim values (values.offer p.1)) preset := by
    intro g
    rw [List.foldl_map, initialValues]
    refine congrArg (List.foldl · preset g.arguments) ?_
    funext values a
    cases a.initial with
    | none => rfl
    | some v => rfl
  rw [hpairs, hpairs, h]

lemma readOption_one {v : Setting} (hone : a.arity = .one) (hstore : a.deed = .store)
    (hword : word ≠ "--") (hv : g.convert a word = .ok v) (r : Reading) (isLong : Bool)
    (name : String) (rest : List Word) :
    g.readOption r { argument := some a, isLong := isLong } name ((.value, word) :: rest) =
      .ok ({ r with values := r.values.put a.target v }, rest) := by
  have htake : g.takeValue a ((.value, word) :: rest) = .ok (some word, rest) := by
    unfold takeValue
    rw [hone]
  have hgiven : g.optionValue a (some word) = .ok v := by
    unfold optionValue
    split
    · next heq => exact absurd (Option.some.inj heq) hword
    · next heq => rwa [← Option.some.inj heq]
    · next heq => cases heq
  have hobey : g.obey r a (some word) = .ok { r with values := r.values.put a.target v } := by
    unfold obey
    rw [hstore]
    dsimp only
    rw [hgiven]
    rfl
  unfold readOption optionGroup lastOfGroup
  dsimp only
  rw [htake, ok_bind]
  change [(a, some word)].foldlM (fun r x => g.obey r x.1 x.2) r >>= _ = _
  rw [List.foldlM_cons, hobey]
  rfl

/-- The values and the words that are left over when all words have been read. -/
def concluded (g : Grammar) (r : Reading) : Except Exit (Values × List String) :=
  match r.nameless with
  | some a =>
    if a.arity == .many then
      .error (g.refusal ("the following arguments are required: " ++ a.messageName))
    else .ok (r.values, r.left ++ r.leftByCommand)
  | none => .ok (r.values, r.left ++ r.leftByCommand)

lemma concluded_eq_ok {r : Reading} {x : Values × List String} (h : g.concluded r = .ok x) :
    x = (r.values, r.left ++ r.leftByCommand) ∧ ∀ a ∈ r.nameless, a.arity ≠ .many := by
  unfold concluded at h
  split at h
  · next a ha =>
    split at h
    · cases h
    · next harity =>
      cases h
      refine ⟨rfl, fun b hb hmany => harity ?_⟩
      cases ha.symm.trans hb
      rw [hmany]
      rfl
  · next hnone =>
    cases h
    refine ⟨rfl, fun b hb => ?_⟩
    cases hnone.symm.trans hb

lemma readSome_of_words (h : g.words line = .ok all) (preset : Values) :
    g.readSome readCommand preset line = (g.readWords readCommand (all.length + 1)
      { values := g.initialValues preset, nameless := g.nameless } all).bind g.concluded := by
  unfold readSome
  rw [h, ok_bind]
  refine congrArg (Except.bind _) (funext fun r => ?_)
  unfold concluded
  cases r.nameless with
  | none => rfl
  | some a =>
    dsimp only
    split <;> rfl

lemma readSome_eq_ok_iff {x : Values × List String} :
    g.readSome readCommand preset line = .ok x ↔ ∃ all r, g.words line = .ok all ∧
      g.ReadsTo readCommand { values := g.initialValues preset, nameless := g.nameless } all r ∧
      g.concluded r = .ok x := by
  constructor
  · intro h
    obtain ⟨all, hall, -⟩ := bind_eq_ok h
    rw [readSome_of_words hall] at h
    obtain ⟨r, hr, hx⟩ := bind_eq_ok h
    exact ⟨all, r, hall, (readWords_eq_ok_iff (Nat.lt_succ_self _)).mp hr, hx⟩
  · rintro ⟨all, r, hall, hr, hx⟩
    rw [readSome_of_words hall, (readWords_eq_ok_iff (Nat.lt_succ_self _)).mpr hr]
    exact hx

lemma Reading.Alike.fresh {v v' : Values} (hv : v.Proper) (hv' : v'.Proper) (n : Option Argument) :
    Reading.Alike v v' { values := v, nameless := n } { values := v', nameless := n } :=
  ⟨.refl hv hv', rfl, rfl, rfl⟩

lemma follows_concluded (h : Reading.Alike start start' r r') (program : String) :
    Follows (fun x x' => Written start start' x.1 x'.1 ∧ x'.2 = x.2) (g.concluded r)
      ((g.named program).concluded r') := by
  have hleft : r'.left ++ r'.leftByCommand = r.left ++ r.leftByCommand := by
    rw [h.left, h.leftByCommand]
  unfold concluded
  rw [h.nameless]
  split
  · split
    · exact .error _ _
    · exact .ok ⟨h.values, hleft⟩
  · exact .ok ⟨h.values, hleft⟩

lemma follows_readSome (hpreset : preset.Proper) (line : List String) (program : String) :
    Follows (fun x x' => Written (g.initialValues []) (g.initialValues preset) x.1 x'.1 ∧ x'.2 = x.2)
      (g.readSome noCommand [] line) ((g.named program).readSome noCommand preset line) := by
  intro x hx
  obtain ⟨all, r, hall, hr, hconcluded⟩ := readSome_eq_ok_iff.mp hx
  obtain ⟨r', hr', halike⟩ := hr.follows (.fresh (proper_initialValues g proper_nil)
    (proper_initialValues g hpreset) g.nameless) program
  obtain ⟨x', hx', hwritten⟩ := follows_concluded halike program _ hconcluded
  exact ⟨x', readSome_eq_ok_iff.mpr ⟨all, r', words_named hall program, hr', hx'⟩, hwritten⟩

lemma proper_readSome {x : Values × List String} (h : g.readSome noCommand [] line = .ok x) : x.1.Proper := by
  obtain ⟨x', -, hwritten, -⟩ := follows_readSome proper_nil line g.program x h
  exact hwritten.proper

lemma follows_readSome_cons {v : Setting} (hname : name ≠ "--")
    (hoption : g.classify name = .ok (.option { argument := some a, isLong := isLong }))
    (hone : a.arity = .one) (hstore : a.deed = .store) (hword : word ≠ "--")
    (hvalue : g.classify word = .ok .value) (hv : g.convert a word = .ok v) (hpreset : preset.Proper)
    (line : List String) (program : String) :
    Follows (fun x x' => Written (g.initialValues [])
        ((g.initialValues preset).put a.target v) x.1 x'.1 ∧ x'.2 = x.2)
      (g.readSome noCommand [] line)
      ((g.named program).readSome noCommand preset (name :: word :: line)) := by
  intro x hx
  obtain ⟨all, r, hall, hr, hconcluded⟩ := readSome_eq_ok_iff.mp hx
  have hwords : (g.named program).words (name :: word :: line) =
      .ok ((.option { argument := some a, isLong := isLong }, name) :: (.value, word) :: all) := by
    rw [words, words, if_neg (by simpa using hname), if_neg (by simpa using hword),
      classify_named hoption, classify_named hvalue, words_named hall]
    rfl
  obtain ⟨r', hr', halike⟩ := hr.follows (.fresh (proper_initialValues g proper_nil)
    ((proper_initialValues g hpreset).put a.target v) g.nameless) program
  obtain ⟨x', hx', hwritten⟩ := follows_concluded halike program _ hconcluded
  have hread := readOption_one hone hstore hword (convert_named hv program)
    { values := g.initialValues preset, nameless := g.nameless } isLong name all
  exact ⟨x', readSome_eq_ok_iff.mpr ⟨_, r', hwords, .option hread hr', hx'⟩, hwritten⟩

lemma readSome_cons_error (hname : name ≠ "--")
    (hoption : g.classify name = .ok (.option { argument := some a, isLong := isLong }))
    (hone : a.arity = .one) (hword : g.classify word ≠ .ok .value) (preset : Values)
    (line : List String) : ∃ e, g.readSome readCommand preset (name :: word :: line) = .error e := by
  unfold readSome
  rw [words, if_neg (by simpa using hname), hoption]
  cases hall : g.words (word :: line) with
  | error e => exact ⟨e, rfl⟩
  | ok all =>
    obtain ⟨kind, more, rfl, hkind⟩ : ∃ kind more, all = (kind, word) :: more ∧ kind ≠ .value := by
      rw [words] at hall
      split at hall
      · cases hall
        exact ⟨_, _, rfl, nofun⟩
      · obtain ⟨kind, hclass, hall⟩ := bind_eq_ok hall
        obtain ⟨more, -, hall⟩ := bind_eq_ok hall
        cases hall
        exact ⟨kind, more, rfl, fun heq => hword (heq ▸ hclass)⟩
    have htake : g.takeValue a ((kind, word) :: more) =
        .error (g.refuseArgument a "expected one argument") := by
      unfold takeValue
      rw [hone]
      cases kind with
      | value => exact absurd rfl hkind
      | hyphens => rfl
      | option use => rfl
    have hread : ∀ r, g.readOption r { argument := some a, isLong := isLong } name
        ((kind, word) :: more) = .error (g.refuseArgument a "expected one argument") := by
      intro r
      unfold readOption optionGroup lastOfGroup
      dsimp only
      rw [htake]
      rfl
    refine ⟨g.refuseArgument a "expected one argument", ?_⟩
    rw [ok_bind, ok_bind]
    change g.readWords readCommand _ _ ((.option _, name) :: (kind, word) :: more) >>= _ = _
    rw [readWords, hread]
    rfl

lemma read_eq_ok_iff {preset values : Values} :
    g.read readCommand preset line = .ok values ↔ g.readSome readCommand preset line = .ok (values, []) := by
  unfold read
  constructor
  · intro h
    obtain ⟨⟨values', left⟩, hsome, h⟩ := bind_eq_ok h
    dsimp only at h
    split at h
    · next hleft =>
      cases h
      rw [hsome, List.isEmpty_iff.mp hleft]
    · cases h
  · intro h
    rw [h]
    rfl

lemma words_map_snd (h : g.words line = .ok all) : all.map (·.2) = line := by
  induction line generalizing all with
  | nil => cases h; rfl
  | cons word rest ih =>
    rw [words] at h
    split at h
    · cases h
      rw [List.map_cons, List.map_map]
      exact congrArg (word :: ·) (List.map_id rest)
    · obtain ⟨kind, -, h⟩ := bind_eq_ok h
      obtain ⟨more, hmore, h⟩ := bind_eq_ok h
      cases h
      rw [List.map_cons, ih hmore]

lemma readNameless_command {v : Setting} (hnameless : r.nameless = some a)
    (harity : a.arity = .command) (hname : g.convert a name = .ok v) (all : List Word) :
    g.readNameless readCommand r ((.value, name) :: all) =
      (readCommand name (all.map (·.2))).map fun x =>
        ({ r with
          values := (r.values.put a.target (.text name)).putAll x.1
          leftByCommand := x.2
          nameless := none }, []) := by
  have hdrop : ((WordKind.value, name) :: all).dropWhile (·.1 == .hyphens) =
      (.value, name) :: all :=
    List.dropWhile_cons_of_neg (by decide : ¬(WordKind.value == .hyphens) = true)
  have hcommand : (a.arity == .command) = true := by simpa using harity
  unfold readNameless obeyNameless
  rw [hnameless, hdrop]
  dsimp only
  rw [hcommand, if_pos rfl, List.map_cons, harity]
  dsimp only
  rw [hname, ok_bind, List.drop_length]
  cases readCommand name (all.map (·.2)) <;> rfl

lemma candidates_of_value (h : g.classify word = .ok .value) : g.candidates word.toList = [] := by
  unfold classify at h
  split at h
  · split at h
    dsimp only at h
    split at h
    · cases h
    · cases h
    · split at h
      · cases h
      · assumption
      · cases h
  · next hother =>
    unfold candidates
    split
    · next heq => exact absurd heq (hother _ _)
    · next heq => exact absurd heq (hother _ _)
    · rfl

lemma classify_of_candidates (h : (g.candidates word.toList).length ≤ 1) :
    ∃ kind, g.classify word = .ok kind := by
  unfold classify
  split
  · split
    dsimp only
    split
    · exact ⟨_, rfl⟩
    · exact ⟨_, rfl⟩
    · split
      · exact ⟨_, rfl⟩
      · split <;> exact ⟨_, rfl⟩
      · next hone hnil =>
        match hmany : g.candidates word.toList with
        | [] => exact absurd hmany hnil
        | [use] => exact absurd hmany (hone _ _)
        | _ :: _ :: _ =>
          rw [hmany] at h
          simp at h
  · exact ⟨_, rfl⟩

end Grammar

namespace Request

open Grammar

def commandGrammar (year : Int) (c : Command) : Grammar :=
  Commands.grammar year (programName ++ " " ++ c.name) c

lemma initialValues_commandGrammar (year : Int) (c : Command) (preset : Values) :
    (commandGrammar year c).initialValues preset = (commandGrammar 0 c).initialValues preset := by
  refine initialValues_congr ?_ preset
  cases c with
  | check => rfl
  | fix => rfl
  | updateCopyright =>
    change (Commands.updateArguments year).map _ = (Commands.updateArguments 0).map _
    simp only [updateArguments, List.map_append, List.map_cons]
  | dumpConfig => rfl

lemma commandReader_name (year : Int) (c : Command) (line : List String) :
    commandReader year c.name line = (commandGrammar year c).readSome noCommand [] line := by
  have hname : Command.ofName? c.name = some c := by cases c <;> rfl
  rw [commandReader, hname]
  rfl

lemma classify_name (c : Command) : program.classify c.name = .ok .value := by
  cases c <;> rfl

lemma readSome_program (h : program.words line = .ok all) (year : Int) (c : Command) :
    program.readSome (commandReader year) [] (c.name :: line) =
      ((commandGrammar year c).readSome noCommand [] line).map fun x =>
        (putAll [("command", .text c.name)] x.1, x.2) := by
  have hname : c.name ≠ "--" := by cases c <;> decide
  have hwords : program.words (c.name :: line) = .ok ((.value, c.name) :: all) := by
    rw [words, if_neg (by simpa using hname), classify_name, h]
    rfl
  obtain ⟨a, hnameless, harity, htarget, hconvert⟩ : ∃ a, program.nameless = some a ∧
      a.arity = .command ∧ a.target = "command" ∧
      program.convert a c.name = .ok (.text c.name) :=
    ⟨_, rfl, rfl, rfl, by cases c <;> rfl⟩
  have hread : ∀ r : Reading, r.nameless = some a →
      program.readNameless (commandReader year) r ((.value, c.name) :: all) =
        ((commandGrammar year c).readSome noCommand [] line).map fun x =>
          ({ r with
            values := (r.values.put "command" (.text c.name)).putAll x.1
            leftByCommand := x.2
            nameless := none }, []) := by
    intro r hr
    rw [readNameless_command hr harity hconvert, words_map_snd h, commandReader_name, htarget]
  rw [readSome.eq_def program, hwords, ok_bind, hnameless, readWords.eq_def]
  dsimp only
  rw [hread _ rfl]
  cases (commandGrammar year c).readSome noCommand [] line with
  | error e => rfl
  | ok x => rfl

lemma words_of_readSome {x : Values × List String}
    (h : program.readSome (commandReader year) [] (c.name :: line) = .ok x) :
    ∃ all, program.words line = .ok all := by
  have hname : c.name ≠ "--" := by cases c <;> decide
  obtain ⟨words', hwords, -⟩ := bind_eq_ok h
  rw [words, if_neg (by simpa using hname)] at hwords
  obtain ⟨kind, -, hwords⟩ := bind_eq_ok hwords
  obtain ⟨all, hall, -⟩ := bind_eq_ok hwords
  exact ⟨all, hall⟩

lemma classify_program (h : (commandGrammar year c).classify word = .ok .value) :
    ∃ kind, program.classify word = .ok kind := by
  have hshort : "-h" ∈ (commandGrammar year c).optionNames := by cases c <;> exact List.mem_cons_self
  have hlong : "--help" ∈ (commandGrammar year c).optionNames := by
    cases c <;> exact List.mem_cons_of_mem _ List.mem_cons_self
  have hfew : ∀ p : String → Bool, (∀ n ∈ (commandGrammar year c).optionNames, ¬p n = true) →
      (program.optionNames.filter p).length ≤ 1 := by
    intro p hp
    have hnames : program.optionNames = "-h" :: "--help" :: ["--version"] := rfl
    rw [hnames, List.filter_cons_of_neg (hp _ hshort), List.filter_cons_of_neg (hp _ hlong)]
    exact List.length_filter_le _ _
  have hnone := candidates_of_value h
  refine classify_of_candidates ?_
  unfold candidates at hnone ⊢
  split at hnone
  · split at hnone
    rw [List.map_eq_nil_iff, List.filter_eq_nil_iff] at hnone
    rw [List.length_map]
    exact hfew _ hnone
  · rw [List.map_eq_nil_iff, List.filter_eq_nil_iff] at hnone
    rw [List.length_map]
    exact hfew _ hnone
  · exact Nat.zero_le _

def programValues (c : Command) (values : Values) : Values :=
  putAll [("command", .text c.name)] values

def commandOf (values : Values) : Option Command :=
  match values.value "command" with
  | .text name => Command.ofName? name
  | _ => none

lemma readProgram_eq_ok_iff_readSome {values : Values} :
    readProgram year true line = .ok (c, values) ↔
      program.readSome (commandReader year) [] line = .ok (values, []) ∧ commandOf values = some c := by
  rw [← read_eq_ok_iff]
  unfold readProgram commandOf
  constructor
  · intro h
    obtain ⟨values', hvalues, h⟩ := bind_eq_ok h
    have hprogram := eq_ok_of_mapError hvalues
    split at h
    · next name hname =>
      split at h
      · next c hc =>
        cases h
        rw [hname]
        exact ⟨hprogram, hc⟩
      · cases h
    · cases h
  · rintro ⟨hprogram, hcommand⟩
    split at hcommand
    · next name hname =>
      rw [hprogram]
      change (match values.value "command" with
        | .text name => _
        | _ => _) = _
      rw [hname]
      dsimp only
      rw [hcommand]
      rfl
    · cases hcommand

lemma readProgram_eq_ok_iff {c c' : Command} {values : Values} :
    readProgram year true (c.name :: line) = .ok (c', values) ↔
      ∃ all v, program.words line = .ok all ∧
        (commandGrammar year c).readSome noCommand [] line = .ok (v, []) ∧
        values = programValues c v ∧ commandOf values = some c' := by
  rw [readProgram_eq_ok_iff_readSome]
  constructor
  · rintro ⟨hsome, hcommand⟩
    obtain ⟨all, hall⟩ := words_of_readSome hsome
    rw [readSome_program hall] at hsome
    obtain ⟨⟨v, left⟩, hv, heq⟩ := map_eq_ok hsome
    cases heq
    exact ⟨all, v, hall, hv, rfl, hcommand⟩
  · rintro ⟨all, v, hall, hv, rfl, hcommand⟩
    rw [readSome_program hall, hv]
    exact ⟨rfl, hcommand⟩

lemma readProgram_eq_error {e : Exit} (h : (commandGrammar year c).readSome noCommand [] line = .error e) :
    ∃ e', readProgram year true (c.name :: line) = .error (.exit e') := by
  obtain ⟨e', he'⟩ : ∃ e', program.readSome (commandReader year) [] (c.name :: line) =
      .error e' := by
    cases hread : program.readSome (commandReader year) [] (c.name :: line) with
    | error e' => exact ⟨e', rfl⟩
    | ok x =>
      obtain ⟨all, hall⟩ := words_of_readSome hread
      rw [readSome_program hall, h] at hread
      cases hread
  refine ⟨e', ?_⟩
  unfold readProgram Grammar.read
  rw [he']
  rfl

lemma lookup_withLevel (values : Values) (t : String) :
    (withLevel values).lookup t = if t = "loglevel" ∧ values.value t = .none
      then some (.int Level.warning.number) else values.lookup t := by
  unfold withLevel
  split
  · next hnone =>
    rw [Values.lookup_put]
    by_cases ht : t = "loglevel"
    · rw [if_pos ht, if_pos ⟨ht, by rw [ht, hnone]⟩]
    · rw [if_neg ht, if_neg fun h => ht h.1]
  · next hsome =>
    rw [if_neg]
    rintro ⟨rfl, hnone⟩
    exact hsome hnone

lemma read_none_eq_ok_iff {named : Bool} {values : Values} (systemLine : List String) :
    read year named line systemLine none = .ok (c, values) ↔
      ∃ v, readProgram year named line = .ok (c, v) ∧ values = withLevel v := by
  unfold read
  constructor
  · intro h
    obtain ⟨⟨c', v⟩, hv, h⟩ := bind_eq_ok h
    cases h
    exact ⟨v, hv, rfl⟩
  · rintro ⟨v, hv, rfl⟩
    rw [hv]
    rfl

lemma readOver_of_none {g : Grammar} {preset values : Values} (hleft : preset.lookup leftTarget = none)
    (h : g.readSome noCommand preset line = .ok (values, [])) : readOver g preset line = .ok values := by
  rw [readOver, hleft]
  dsimp only
  rw [read_eq_ok_iff.mpr h]
  rfl

lemma read_some_eq {v : Values}
    (hprogram : readProgram year true (c.name :: line) = .ok (c, v)) (known : Values) :
    read year true (c.name :: line) (c.name :: line) (some known) =
      (readOver (Commands.grammar year programName c) known line).map fun v' =>
        (c, withLevel (v'.put "command" (.text c.name))) := by
  have hgrammar : grammar year true none c = .ok (Commands.grammar year programName c) := by
    rw [grammar, Bool.not_true, Bool.and_false]
    rfl
  have hmem : (c.name :: line).contains c.name = true := by simp
  unfold read
  rw [hprogram, ok_bind]
  dsimp only
  rw [hgrammar, ok_bind, hmem, List.erase_cons_head]
  cases readOver (Commands.grammar year programName c) known line <;> rfl

lemma read_some_eq_ok {known v v' : Values} (hprogram : readProgram year true (c.name :: line) = .ok (c, v))
    (hcommand : readOver (Commands.grammar year programName c) known line = .ok v') :
    read year true (c.name :: line) (c.name :: line) (some known) =
      .ok (c, withLevel (v'.put "command" (.text c.name))) := by
  rw [read_some_eq hprogram, hcommand]
  rfl

end Request

end SourceTidy
