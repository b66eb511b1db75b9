import SourceTidy.Pattern.Regex.Reader
import SourceTidy.Pattern.Regex.Search
import Mathlib.Data.List.Basic

/-!
# Groups after other groups

An expression after other groups has other numbers for its own, and matches where it does alone.
Several expressions that are joined by bars match where one of them does, unless switches are on.
-/

namespace SourceTidy

variable {all others : List (List Regex)} {first : List Regex} {members : List SetMember}
  {r s : Regex} {step step' : Step}

namespace Regex

/-- The number of a group after so many other groups. Number zero is not one of a group. -/
def moved (d : Nat) : Nat → Nat
  | 0 => 0
  | n + 1 => n + 1 + d

lemma moved_injective (d : Nat) : Function.Injective (moved d) := by
  intro m n h
  cases m <;> cases n <;> simp [moved] at h ⊢ <;> omega

def renumber (d : Nat) : Regex → Regex
  | seq r s => seq (r.renumber d) (s.renumber d)
  | alt r s => alt (r.renumber d) (s.renumber d)
  | loop least most choice body => loop least most choice (body.renumber d)
  | group number body => group (number.map (moved d)) (body.renumber d)
  | switched body => switched (body.renumber d)
  | atomic body => atomic (body.renumber d)
  | ahead negated body => ahead negated (body.renumber d)
  | behind negated least most body => behind negated least most (body.renumber d)
  | again rule number => again rule (moved d number)
  | ifGroup number yes no => ifGroup (moved d number) (yes.renumber d) (no.renumber d)
  | r => r

variable {d : Nat}

lemma getD_moved {α : Type} (a : α) (before groups : List α) (n : Nat) :
    (a :: (before ++ groups)).getD (moved before.length n) a = (a :: groups).getD n a := by
  cases n with
  | zero => rfl
  | succ n => simp [moved, List.getD_eq_getElem?_getD, Nat.add_right_comm, List.getElem?_append_right]

lemma width_renumber (before groups : List (Option (Nat × Nat))) (r : Regex) :
    (r.renumber before.length).width (none :: (before ++ groups)) = r.width (none :: groups) := by
  induction r with
  | again rule number => rw [renumber, width, width, getD_moved]
  | _ => simp_all only [renumber, width]

lemma problem?_renumber (template : Bool) (r : Regex) :
    (r.renumber d).problem? template = r.problem? template := by
  induction r with
  | loop least most choice body ih => rw [renumber, problem?, problem?, ih]
  | _ => simp_all only [renumber, problem?]

lemma isAnchor_renumber (r : Regex) : (r.renumber d).isAnchor = r.isAnchor := by cases r <;> rfl

lemma isLoop_renumber (r : Regex) : (r.renumber d).isLoop = r.isLoop := by cases r <;> rfl

lemma isPlain_renumber (r : Regex) : (r.renumber d).isPlain = r.isPlain := by cases r <;> rfl

lemma parts_renumber (r : Regex) : (r.renumber d).parts = r.parts.map (renumber d) := by
  induction r with
  | seq r s _ ih => simp [renumber, parts, ih]
  | _ => rfl

lemma unpacked_renumber (r : Regex) : (r.renumber d).unpacked = r.unpacked.map (renumber d) := by
  cases r with
  | group number body =>
    cases number with
    | none => exact parts_renumber body
    | some n => rfl
  | _ => rfl

lemma ofList_cons (r s : Regex) (l : List Regex) :
    ofList (r :: s :: l) = seq r (ofList (s :: l)) := rfl

lemma renumber_ofList (l : List Regex) : (ofList l).renumber d = ofList (l.map (renumber d)) := by
  induction l with
  | nil => rfl
  | cons r l ih =>
    cases l with
    | nil => rfl
    | cons s l => rw [ofList_cons, renumber, ih]; rfl

lemma singleSet?_renumber (l : List Regex) : singleSet? (l.map (renumber d)) = singleSet? l := by
  rcases l with _ | ⟨r, _ | ⟨s, l⟩⟩
  · rfl
  · cases r <;> rfl
  · cases r with
    | set rule negated members => cases negated <;> rfl
    | _ => rfl

lemma unionSet?_cons (l m : List Regex) (all : List (List Regex)) :
    unionSet? (l :: m :: all) = (singleSet? l).bind fun s => (unionSet? (m :: all)).bind fun u =>
      if s.1 == u.1 then some (s.1, s.2 ++ u.2) else none := rfl

lemma unionSet?_renumber (all : List (List Regex)) :
    unionSet? (all.map (List.map (renumber d))) = unionSet? all := by
  induction all with
  | nil => rfl
  | cons l all ih =>
    cases all with
    | nil => exact singleSet?_renumber l
    | cons m all =>
      rw [List.map_cons, List.map_cons, unionSet?_cons, ← List.map_cons, ih, singleSet?_renumber,
        unionSet?_cons]

lemma renumber_alternatives (all : List (List Regex)) :
    (alternatives all).renumber d = alternatives (all.map (List.map (renumber d))) := by
  induction all with
  | nil => rfl
  | cons l all ih =>
    cases all with
    | nil => exact renumber_ofList l
    | cons m all => rw [alternatives, renumber, renumber_ofList, ih]; rfl; nofun

lemma renumber_chosen (all : List (List Regex)) :
    (branch.chosen all).renumber d = branch.chosen (all.map (List.map (renumber d))) := by
  rw [branch.chosen, branch.chosen, unionSet?_renumber]
  cases unionSet? all with
  | none => exact renumber_alternatives all
  | some set => rfl

lemma renumber_eq_iff (h : r.isPlain) : s.renumber d = r.renumber d ↔ s = r := by
  refine ⟨fun heq => ?_, congrArg _⟩
  cases r <;> cases s <;> simp_all [renumber, isPlain, (moved_injective d).eq_iff]

lemma branch_renumber (first : List Regex) (others : List (List Regex)) :
    branch (first.map (renumber d)) (others.map (List.map (renumber d))) =
      (branch first others).map (renumber d) := by
  induction first generalizing others with
  | nil => rw [branch, List.map_singleton, renumber_chosen]; rfl
  | cons r first ih =>
    have hall : (r.isPlain && (others.map (List.map (renumber d))).all (·.head? == some (r.renumber d))) =
        (r.isPlain && others.all (·.head? == some r)) := by
      cases hplain : r.isPlain with
      | false => rfl
      | true =>
        rw [Bool.true_and, Bool.true_and, List.all_map]
        refine congrArg (others.all ·) (funext fun l => ?_)
        cases l with
        | nil => rfl
        | cons s l => simp [renumber_eq_iff hplain]
    have htails : (others.map (List.map (renumber d))).map List.tail =
        (others.map List.tail).map (List.map (renumber d)) := by
      simp
    rw [List.map_cons, branch, branch, isPlain_renumber, hall, htails, ih]
    split
    · rfl
    · rw [List.map_singleton, renumber_chosen]
      rfl

lemma ofAlternatives_cons (first m : List Regex) (others : List (List Regex)) :
    ofAlternatives first (m :: others) = ofList (branch first (m :: others)) := rfl

lemma renumber_ofAlternatives (first : List Regex) (others : List (List Regex)) :
    (ofAlternatives first others).renumber d =
      ofAlternatives (first.map (renumber d)) (others.map (List.map (renumber d))) := by
  cases others with
  | nil => exact renumber_ofList first
  | cons l others => rw [ofAlternatives_cons, renumber_ofList, ← branch_renumber]; rfl

end Regex

namespace Cursor

def renumber (d : Nat) (c : Cursor) : Cursor := { c with groups := c.groups.map fun g => (Regex.moved d g.1, g.2) }

variable {d : Nat}

lemma pass_renumber (test : Char → Bool) (c : Cursor) :
    (c.renumber d).pass test = (c.pass test).map (renumber d) := by
  obtain ⟨before, after, position, size, groups⟩ := c
  cases after with
  | nil => rfl
  | cons a s =>
    simp only [pass, renumber]
    split <;> rfl

lemma back_renumber (n : Nat) (c : Cursor) : (c.renumber d).back n = (c.back n).map (renumber d) := by
  induction n generalizing c with
  | zero => rfl
  | succ n ih =>
    obtain ⟨before, after, position, size, groups⟩ := c
    cases before with
    | nil => rfl
    | cons a s => exact ih ⟨s, a :: after, position - 1, size, groups⟩

lemma passText_renumber (rule : CaseRule) (s : Text) (c : Cursor) :
    (c.renumber d).passText rule s = (c.passText rule s).map (renumber d) := by
  induction s generalizing c with
  | nil => rfl
  | cons a s ih =>
    rw [passText, passText, pass_renumber]
    cases c.pass fun b => rule.fold b == rule.fold a with
    | none => rfl
    | some c => exact ih c

lemma lookup_renumber (c : Cursor) (n : Nat) :
    (c.renumber d).groups.lookup (Regex.moved d n) = c.groups.lookup n := by
  have h : ∀ groups : List (Nat × Text),
      (groups.map fun g => (Regex.moved d g.1, g.2)).lookup (Regex.moved d n) = groups.lookup n := by
    intro groups
    induction groups with
    | nil => rfl
    | cons g groups ih =>
      have hkey : (Regex.moved d n == Regex.moved d g.1) = (n == g.1) := by
        simp [(Regex.moved_injective d).eq_iff]
      rw [List.map_cons, List.lookup_cons, List.lookup_cons, ih, hkey]
  exact h c.groups

end Cursor

namespace Regex

variable {d : Nat}

/-- Steps that go on in the same way before and after other groups. -/
def SameStep (d : Nat) (step step' : Step) : Prop :=
  ∀ c k k', (∀ c : Cursor, k' (c.renumber d) = (k c).map (Cursor.renumber d)) →
    step' (c.renumber d) k' = (step c k).map (Cursor.renumber d)

lemma SameStep.once (h : SameStep d step step') : SameStep d (once step) (once step') := by
  intro c k k' hk
  rw [Regex.once, Regex.once, h c some some fun _ => rfl]
  cases step c some with
  | none => rfl
  | some c => exact hk c

lemma SameStep.repeatMost (h : SameStep d step step') (fuel least : Nat) (most last : Option Nat) :
    SameStep d (repeatMost step fuel least most last) (repeatMost step' fuel least most last) := by
  induction fuel generalizing least most last with
  | zero => exact fun c k k' hk => hk c
  | succ fuel ih =>
    intro c k k' hk
    cases least with
    | succ least => exact h c _ _ fun c => ih least _ _ c k k' hk
    | zero =>
      have hstep := h c _ (fun c' => Regex.repeatMost step' fuel 0 (most.map (· - 1)) (some c.position) c' k')
        fun c' => ih 0 _ _ c' k k' hk
      have hposition : (c.renumber d).position = c.position := rfl
      rw [Regex.repeatMost, Regex.repeatMost, hposition]
      split
      · exact hk c
      · rw [hstep, hk c]
        generalize step c _ = done
        cases done <;> rfl

lemma SameStep.repeatFewest (h : SameStep d step step') (fuel least : Nat) (most last : Option Nat) :
    SameStep d (repeatFewest step fuel least most last) (repeatFewest step' fuel least most last) := by
  induction fuel generalizing least most last with
  | zero => exact fun c k k' hk => hk c
  | succ fuel ih =>
    intro c k k' hk
    cases least with
    | succ least => exact h c _ _ fun c => ih least _ _ c k k' hk
    | zero =>
      have hstep := h c _ (fun c' => Regex.repeatFewest step' fuel 0 (most.map (· - 1)) (some c.position) c' k')
        fun c' => ih 0 _ _ c' k k' hk
      have hposition : (c.renumber d).position = c.position := rfl
      rw [Regex.repeatFewest, Regex.repeatFewest, hposition, hk c]
      cases k c with
      | some done => rfl
      | none =>
        rw [Option.map_none]
        dsimp only
        split
        · rfl
        · exact hstep

lemma sameStep_pass (test : Char → Bool) :
    SameStep d (fun c k => (c.pass test).bind k) (fun c k => (c.pass test).bind k) := by
  intro c k k' hk
  dsimp only
  rw [Cursor.pass_renumber]
  cases c.pass test with
  | none => rfl
  | some c => exact hk c

lemma note_renumber (number : Option Nat) (start stop : Cursor) :
    Cursor.note (number.map (moved d)) (start.renumber d) (stop.renumber d) =
      (Cursor.note number start stop).renumber d := by
  cases number <;> rfl

lemma sameStep_look (negated : Bool) (found : Option Cursor) :
    SameStep d (look negated found) (look negated (found.map (Cursor.renumber d))) := by
  intro c k k' hk
  rcases found with _ | c' <;> cases negated
  exacts [rfl, hk c, hk { c with groups := c'.groups }, rfl]

lemma sameStep_run (r : Regex) : SameStep d (run r) (run (r.renumber d)) := by
  induction r with
  | empty => exact fun c k k' hk => hk c
  | code rule n => exact sameStep_pass _
  | anyChar lineFeed => exact sameStep_pass _
  | set rule negated members => exact sameStep_pass _
  | anchor a =>
    intro c k k' hk
    change (if c.meets a then _ else _) = Option.map _ (if c.meets a then _ else _)
    split
    · exact hk c
    · rfl
  | seq r s ihr ihs => exact fun c k k' hk => ihr c _ _ fun c => ihs c k k' hk
  | alt r s ihr ihs =>
    intro c k k' hk
    rw [renumber, run, run, ihr c k k' hk, ihs c k k' hk]
    cases run r c k <;> rfl
  | loop least most choice body ih =>
    cases choice with
    | most => exact fun c => ih.repeatMost _ _ _ _ c
    | fewest => exact fun c => ih.repeatFewest _ _ _ _ c
    | mostKept => exact fun c => (ih.once.repeatMost _ _ _ _).once c
  | group number body ih =>
    refine fun c k k' hk => ih c _ _ fun c' => ?_
    rw [note_renumber]
    exact hk _
  | switched body ih => exact ih
  | atomic body ih => exact ih.once
  | ahead negated body ih =>
    intro c k k' hk
    rw [renumber, run, run, ih c some some fun _ => rfl]
    exact sameStep_look negated _ c k k' hk
  | behind negated least most body ih =>
    intro c k k' hk
    have hback : ((c.renumber d).back least).bind (fun c' => run (body.renumber d) c' some) =
        ((c.back least).bind fun c' => run body c' some).map (Cursor.renumber d) := by
      rw [Cursor.back_renumber]
      cases c.back least with
      | none => rfl
      | some c' => exact ih c' some some fun _ => rfl
    rw [renumber, run, run, hback]
    exact sameStep_look negated _ c k k' hk
  | again rule number =>
    intro c k k' hk
    rw [renumber, run, run, Cursor.lookup_renumber]
    cases c.groups.lookup number with
    | none => rfl
    | some s =>
      dsimp only
      rw [Cursor.passText_renumber]
      cases c.passText rule s with
      | none => rfl
      | some c => exact hk c
  | ifGroup number yes no ihyes ihno =>
    intro c k k' hk
    rw [renumber, run, run, Cursor.lookup_renumber]
    split
    · exact ihyes c k k' hk
    · exact ihno c k k' hk

/-- Whether an expression matches at a place. -/
def MatchesAt (c : Cursor) (r : Regex) : Prop := (run r c some).isSome

lemma matchesAt_renumber {c : Cursor} (hc : c.groups = []) (r : Regex) :
    MatchesAt c (r.renumber d) ↔ MatchesAt c r := by
  have hcursor : c.renumber d = c := by
    obtain ⟨before, after, position, size, groups⟩ := c
    cases hc
    rfl
  have hrun := sameStep_run (d := d) r c some some fun _ => rfl
  rw [hcursor] at hrun
  rw [MatchesAt, MatchesAt, hrun, Option.isSome_map]

/-- Whether the characters and sets of a sequence are those of a whole pattern without switches. -/
def isUsual (ascii : Bool) : Regex → Bool
  | code rule _ => rule == .exact
  | set rule _ members => rule == .exact && members.map (·.within ascii) == members
  | seq r s => r.isUsual ascii && s.isUsual ascii
  | group none body => body.isUsual ascii
  | _ => true

variable {ascii : Bool}

lemma isUsual_renumber (r : Regex) : (r.renumber d).isUsual ascii = r.isUsual ascii := by
  induction r with
  | seq r s ihr ihs => rw [renumber, isUsual, isUsual, ihr, ihs]
  | group number body ih =>
    cases number with
    | none => exact ih
    | some n => rfl
  | _ => rfl

lemma isUsual_of_mem_parts (h : r.isUsual ascii) (hs : s ∈ r.parts) : s.isUsual ascii := by
  induction r with
  | empty => cases hs
  | seq r r' _ ih =>
    obtain ⟨hr, hr'⟩ := Bool.and_eq_true_iff.mp h
    rcases List.mem_cons.mp hs with rfl | hs
    · exact hr
    · exact ih hr' hs
  | _ => rw [List.mem_singleton.mp hs]; exact h

lemma isUsual_of_mem_unpacked (h : r.isUsual ascii) (hs : s ∈ r.unpacked) : s.isUsual ascii := by
  cases r with
  | group number body =>
    cases number with
    | none => exact isUsual_of_mem_parts (r := body) h hs
    | some n => rw [List.mem_singleton.mp hs]; exact h
  | _ => rw [List.mem_singleton.mp hs]; exact h

lemma isUsual_ofList {l : List Regex} (h : ∀ r ∈ l, r.isUsual ascii) : (ofList l).isUsual ascii := by
  induction l with
  | nil => rfl
  | cons r l ih =>
    obtain ⟨hr, hl⟩ := List.forall_mem_cons.mp h
    cases l with
    | nil => exact hr
    | cons s l => exact Bool.and_eq_true_iff.mpr ⟨hr, ih hl⟩

lemma run_ofList_cons (r : Regex) (l : List Regex) (c : Cursor) (k : Cursor → Option Cursor) :
    run (ofList (r :: l)) c k = run r c fun c' => run (ofList l) c' k := by
  cases l <;> rfl

lemma exists_run_of_isPlain (h : r.isPlain) (c : Cursor) :
    ∃ found : Option Cursor, ∀ k, run r c k = found.bind k := by
  cases r with
  | code rule n => exact ⟨_, fun _ => rfl⟩
  | anyChar lineFeed => exact ⟨_, fun _ => rfl⟩
  | set rule negated members => exact ⟨_, fun _ => rfl⟩
  | anchor a =>
    refine ⟨if c.meets a then some c else none, fun k => ?_⟩
    rw [run]
    split <;> rfl
  | again rule number =>
    refine ⟨(c.groups.lookup number).bind fun s => c.passText rule s, fun k => ?_⟩
    rw [run]
    cases c.groups.lookup number <;> rfl
  | _ => cases h

lemma run_exactSet (members : List SetMember) (c : Cursor) (k : Cursor → Option Cursor) :
    run (set .exact false members) c k = (c.pass fun a => members.any (SetMember.contains a)).bind k := by
  have haccepts : accepts .exact false members = fun a => members.any (SetMember.contains a) := by
    funext a
    exact Bool.bne_false _
  rw [run, haccepts]

/-- What the set that stands for an alternative of one character says about it. -/
structure Single (ascii : Bool) (l : List Regex) (rule : CaseRule) (members : List SetMember) : Prop where
  rule : rule = .exact
  usual : members.map (·.within ascii) = members
  run : ∀ c k, run (ofList l) c k = (c.pass fun a => members.any (SetMember.contains a)).bind k
  problem? : (ofList l).problem? false = none

lemma single_of_singleSet? {l : List Regex} {rule : CaseRule}
    (h : singleSet? l = some (rule, members)) (hl : ∀ r ∈ l, r.isUsual ascii) :
    Single ascii l rule members := by
  unfold singleSet? at h
  split at h
  · cases h
    have hrule : rule = .exact := beq_iff_eq.mp (hl _ List.mem_cons_self)
    subst hrule
    refine ⟨rfl, rfl, fun c k => ?_, rfl⟩
    simp only [List.any_cons, List.any_nil, Bool.or_false]
    rfl
  · cases h
    obtain ⟨hrule, hmembers⟩ := Bool.and_eq_true_iff.mp (hl _ List.mem_cons_self)
    have hrule : rule = .exact := beq_iff_eq.mp hrule
    subst hrule
    exact ⟨rfl, beq_iff_eq.mp hmembers, run_exactSet members, rfl⟩
  · cases h

lemma isSome_pass_any_append (members more : List SetMember) (c : Cursor) (k : Cursor → Option Cursor) :
    ((c.pass fun a => (members ++ more).any (SetMember.contains a)).bind k).isSome ↔
      ((c.pass fun a => members.any (SetMember.contains a)).bind k).isSome ∨
        ((c.pass fun a => more.any (SetMember.contains a)).bind k).isSome := by
  obtain ⟨before, after, position, size, groups⟩ := c
  cases after with
  | nil => simp [Cursor.pass]
  | cons a s =>
    simp only [Cursor.pass, List.any_append]
    cases members.any (SetMember.contains a) <;> cases more.any (SetMember.contains a) <;> simp

/-- The set that stands for alternatives of one character each matches where one of them does. -/
lemma union_of_unionSet? {rule : CaseRule}
    (h : unionSet? all = some (rule, members)) (hall : ∀ l ∈ all, ∀ r ∈ l, r.isUsual ascii) :
    rule = .exact ∧ members.map (·.within ascii) = members ∧
      (∀ c k, ((c.pass fun a => members.any (SetMember.contains a)).bind k).isSome ↔
        ∃ l ∈ all, (run (ofList l) c k).isSome) ∧ ∀ l ∈ all, (ofList l).problem? false = none := by
  induction all generalizing rule members with
  | nil => cases h
  | cons l all ih =>
    obtain ⟨hl, hall⟩ := List.forall_mem_cons.mp hall
    cases all with
    | nil =>
      have hsingle := single_of_singleSet? h hl
      refine ⟨hsingle.rule, hsingle.usual, fun c k => ?_, List.forall_mem_singleton.mpr hsingle.problem?⟩
      simp [hsingle.run]
    | cons m all =>
      rw [unionSet?_cons] at h
      obtain ⟨⟨rule₁, members₁⟩, h₁, h⟩ := Option.bind_eq_some_iff.mp h
      obtain ⟨⟨rule₂, members₂⟩, h₂, h⟩ := Option.bind_eq_some_iff.mp h
      have hsingle := single_of_singleSet? h₁ hl
      obtain ⟨-, husual, hrun, hproblem⟩ := ih h₂ hall
      dsimp only at h
      split at h
      · cases h
        refine ⟨hsingle.rule, ?_, fun c k => ?_, List.forall_mem_cons.mpr ⟨hsingle.problem?, hproblem⟩⟩
        · rw [List.map_append, hsingle.usual, husual]
        · rw [isSome_pass_any_append, hrun, ← hsingle.run]
          simp only [List.exists_mem_cons_iff]
      · cases h

lemma isSome_run_alternatives (h : all ≠ []) (c : Cursor) (k : Cursor → Option Cursor) :
    (run (alternatives all) c k).isSome ↔ ∃ l ∈ all, (run (ofList l) c k).isSome := by
  induction all with
  | nil => exact absurd rfl h
  | cons l all ih =>
    cases all with
    | nil => simp [alternatives]
    | cons m all =>
      have halt : alternatives (l :: m :: all) = alt (ofList l) (alternatives (m :: all)) := rfl
      rw [halt, run, List.exists_mem_cons_iff, ← ih (List.cons_ne_nil _ _)]
      cases run (ofList l) c k <;> simp

lemma isSome_run_chosen (h : all ≠ [])
    (hall : ∀ l ∈ all, ∀ r ∈ l, r.isUsual ascii) (c : Cursor) (k : Cursor → Option Cursor) :
    (run (branch.chosen all) c k).isSome ↔ ∃ l ∈ all, (run (ofList l) c k).isSome := by
  unfold branch.chosen
  cases hunion : unionSet? all with
  | none => exact isSome_run_alternatives h c k
  | some union =>
    obtain ⟨rule, members⟩ := union
    obtain ⟨rfl, -, hrun, -⟩ := union_of_unionSet? hunion hall
    rw [← hrun, ← run_exactSet]

lemma exists_branch (first : List Regex) (others : List (List Regex)) :
    ∃ start rest, branch first others = start ++ [branch.chosen rest] ∧
      first :: others = rest.map (start ++ ·) ∧ ∀ r ∈ start, r.isPlain := by
  induction first generalizing others with
  | nil => exact ⟨[], [] :: others, by rw [branch]; rfl, by simp, nofun⟩
  | cons r first ih =>
    rw [branch]
    split
    · next hr =>
      obtain ⟨hplain, hheads⟩ := Bool.and_eq_true_iff.mp hr
      obtain ⟨start, rest, hbranch, hrest, hstart⟩ := ih (others.map List.tail)
      refine ⟨r :: start, rest, by rw [hbranch]; rfl, ?_, List.forall_mem_cons.mpr ⟨hplain, hstart⟩⟩
      have hothers : others = (others.map List.tail).map (r :: ·) := by
        rw [List.map_map]
        refine (List.map_id _).symm.trans (List.map_congr_left fun l hl => ?_)
        have hhead : l.head? = some r := by simpa using List.all_eq_true.mp hheads l hl
        obtain ⟨l', rfl⟩ := List.head?_eq_some_iff.mp hhead
        rfl
      have hcons : (r :: first) :: others = (first :: others.map List.tail).map (r :: ·) := by
        rw [List.map_cons, ← hothers]
      rw [hcons, hrest, List.map_map]
      rfl
    · exact ⟨[], (r :: first) :: others, rfl, by simp, nofun⟩

lemma isSome_run_start {start : List Regex} {rest : List (List Regex)} (hrest : rest ≠ [])
    (hstart : ∀ r ∈ start, r.isPlain) (h : ∀ l ∈ rest, ∀ r ∈ l, r.isUsual ascii) (c : Cursor)
    (k : Cursor → Option Cursor) : (run (ofList (start ++ [branch.chosen rest])) c k).isSome ↔
      ∃ l ∈ rest, (run (ofList (start ++ l)) c k).isSome := by
  induction start generalizing c with
  | nil => exact isSome_run_chosen hrest h c k
  | cons r start ih =>
    obtain ⟨hplain, hstart⟩ := List.forall_mem_cons.mp hstart
    obtain ⟨found, hfound⟩ := exists_run_of_isPlain hplain c
    simp only [List.cons_append, run_ofList_cons, hfound]
    cases found with
    | none => simp
    | some c' => exact ih hstart c'

lemma isSome_run_branch
    (h : ∀ l ∈ first :: others, ∀ r ∈ l, r.isUsual ascii) (c : Cursor) (k : Cursor → Option Cursor) :
    (run (ofList (branch first others)) c k).isSome ↔ ∃ l ∈ first :: others, (run (ofList l) c k).isSome := by
  obtain ⟨start, rest, hbranch, hrest, hstart⟩ := exists_branch first others
  have hne : rest ≠ [] := by
    rintro rfl
    exact absurd hrest (List.cons_ne_nil _ _)
  rw [hrest] at h
  rw [hbranch, hrest, isSome_run_start hne hstart fun l hl r hr =>
    h _ (List.mem_map_of_mem hl) r (List.mem_append_right _ hr)]
  simp

lemma matchesAt_ofAlternatives (h : ∀ l ∈ first :: others, ∀ r ∈ l, r.isUsual ascii) (c : Cursor) :
    MatchesAt c (ofAlternatives first others) ↔ ∃ l ∈ first :: others, MatchesAt c (ofList l) := by
  cases others with
  | nil => simp [ofAlternatives]
  | cons l others => exact isSome_run_branch h c some

lemma problem?_ofList (l : List Regex) :
    (ofList l).problem? false = none ↔ ∀ r ∈ l, r.problem? false = none := by
  induction l with
  | nil => simp [ofList, problem?]
  | cons r l ih =>
    cases l with
    | nil => simp [ofList]
    | cons s l => rw [ofList_cons, problem?, List.forall_mem_cons, ← ih, Option.orElse_eq_or, Option.or_eq_none_iff]

lemma problem?_chosen (hall : ∀ l ∈ all, ∀ r ∈ l, r.isUsual ascii) :
    (branch.chosen all).problem? false = none ↔ ∀ l ∈ all, (ofList l).problem? false = none := by
  unfold branch.chosen
  cases hunion : unionSet? all with
  | some union =>
    obtain ⟨rule, members⟩ := union
    obtain ⟨-, -, -, hproblem⟩ := union_of_unionSet? hunion hall
    exact ⟨fun _ => hproblem, fun _ => rfl⟩
  | none =>
    clear hunion hall
    induction all with
    | nil => exact ⟨fun _ => nofun, fun _ => rfl⟩
    | cons l all ih =>
      cases all with
      | nil => simp [alternatives]
      | cons m all =>
        have halt : alternatives (l :: m :: all) = alt (ofList l) (alternatives (m :: all)) := rfl
        dsimp only at ih ⊢
        rw [halt, problem?, Option.orElse_eq_or, Option.or_eq_none_iff, List.forall_mem_cons, ih]

lemma problem?_of_isPlain (h : r.isPlain) : r.problem? false = none := by
  cases r with
  | code | anyChar | set | anchor | again => rfl
  | _ => cases h

lemma problem?_branch (h : ∀ l ∈ first :: others, ∀ r ∈ l, r.isUsual ascii) :
    (ofList (branch first others)).problem? false = none ↔
      ∀ l ∈ first :: others, (ofList l).problem? false = none := by
  obtain ⟨start, rest, hbranch, hrest, hstart⟩ := exists_branch first others
  rw [hrest] at h ⊢
  rw [hbranch, problem?_ofList, List.forall_mem_append, List.forall_mem_singleton,
    problem?_chosen fun l hl r hr => h _ (List.mem_map_of_mem hl) r (List.mem_append_right _ hr)]
  simp only [problem?_ofList, List.forall_mem_map, List.forall_mem_append]
  have hplain : ∀ r ∈ start, r.problem? false = none := fun r hr => problem?_of_isPlain (hstart r hr)
  exact ⟨fun h l hl => ⟨hplain, h.2 l hl⟩, fun h => ⟨hplain, fun l hl => (h l hl).2⟩⟩

lemma problem?_ofAlternatives (h : ∀ l ∈ first :: others, ∀ r ∈ l, r.isUsual ascii) :
    (ofAlternatives first others).problem? false = none ↔
      ∀ l ∈ first :: others, (ofList l).problem? false = none := by
  cases others with
  | nil => simp [ofAlternatives]
  | cons l others => exact problem?_branch h

lemma isUsual_ofAlternatives (h : ∀ l ∈ first :: others, ∀ r ∈ l, r.isUsual ascii) :
    (ofAlternatives first others).isUsual ascii := by
  cases others with
  | nil => exact isUsual_ofList (h first List.mem_cons_self)
  | cons m others =>
    obtain ⟨start, rest, hbranch, hrest, -⟩ := exists_branch first (m :: others)
    rw [hrest, List.forall_mem_map] at h
    obtain ⟨l, hl, -⟩ : ∃ l ∈ rest, start ++ l = first := List.mem_map.mp (hrest ▸ List.mem_cons_self)
    have husual : ∀ l ∈ rest, ∀ r ∈ l, r.isUsual ascii :=
      fun l hl r hr => h l hl r (List.mem_append_right _ hr)
    rw [ofAlternatives_cons, hbranch]
    refine isUsual_ofList (List.forall_mem_append.mpr ⟨fun r hr => h l hl r (List.mem_append_left _ hr), ?_⟩)
    rw [List.forall_mem_singleton, branch.chosen]
    cases hunion : unionSet? rest with
    | some union =>
      obtain ⟨rule, members⟩ := union
      obtain ⟨rfl, hwithin, -⟩ := union_of_unionSet? hunion husual
      simpa [isUsual] using hwithin
    | none =>
      rcases rest with _ | ⟨l, _ | ⟨m, rest⟩⟩
      · rfl
      · exact isUsual_ofList (husual l List.mem_cons_self)
      · rfl

lemma startSet?_ofList (r : Regex) (l : List Regex) : (ofList (r :: l)).startSet? = r.startSet? := by
  cases l <;> rfl

lemma guarded_of_usual (h : ∀ negated members, r.startSet? = some (negated, members) →
    members.map (·.within ascii) = members) : r.guarded ascii = r := by
  unfold guarded
  cases hset : r.startSet? with
  | none => rfl
  | some start =>
    obtain ⟨negated, members⟩ := start
    exact if_pos (h negated members hset)

lemma within_of_startSet? (hplain : r.isPlain) (h : r.isUsual ascii) {negated : Bool}
    (hset : r.startSet? = some (negated, members)) : members.map (·.within ascii) = members := by
  cases r with
  | set rule negated members =>
    rw [startSet?] at hset
    split at hset
    · cases hset
    · cases hset
      exact beq_iff_eq.mp (Bool.and_eq_true_iff.mp h).2
  | code | anyChar | anchor | again => cases hset
  | _ => cases hplain

/-- A search for alternatives looks for what they start with as it is. -/
lemma guarded_ofAlternatives {first m : List Regex}
    (h : ∀ l ∈ first :: m :: others, ∀ r ∈ l, r.isUsual ascii) :
    (ofAlternatives first (m :: others)).guarded ascii = ofAlternatives first (m :: others) := by
  obtain ⟨start, rest, hbranch, hrest, hstart⟩ := exists_branch first (m :: others)
  rw [ofAlternatives_cons, hbranch]
  refine guarded_of_usual fun negated members hset => ?_
  cases start with
  | cons r start =>
    rw [List.cons_append, startSet?_ofList] at hset
    obtain ⟨l, -, hl⟩ : ∃ l ∈ rest, r :: start ++ l = first :=
      List.mem_map.mp (hrest ▸ List.mem_cons_self)
    refine within_of_startSet? (hstart r List.mem_cons_self) (h first List.mem_cons_self r ?_) hset
    rw [← hl]
    exact List.mem_cons_self
  | nil =>
    have hall : rest = first :: m :: others := by simpa using hrest.symm
    rw [List.nil_append, startSet?_ofList, hall] at hset
    unfold branch.chosen at hset
    cases hunion : unionSet? (first :: m :: others) with
    | none =>
      rw [hunion] at hset
      cases hset
    | some union =>
      obtain ⟨rule, union⟩ := union
      obtain ⟨rfl, husual, -⟩ := union_of_unionSet? hunion h
      rw [hunion] at hset
      exact within_of_startSet? rfl (by simpa [isUsual] using husual) hset

lemma foundFrom_iff {all : List Regex} (h : ∀ c : Cursor, c.groups = [] →
      (MatchesAt c r ↔ ∃ s ∈ all, MatchesAt c s)) (fuel : Nat) {c : Cursor} (hc : c.groups = []) :
    foundFrom r fuel c ↔ ∃ s ∈ all, foundFrom s fuel c := by
  induction fuel generalizing c with
  | zero => exact h c hc
  | succ fuel ih =>
    have hpass : ∀ c', c.pass (fun _ => true) = some c' → c'.groups = [] := by
      intro c' hc'
      unfold Cursor.pass at hc'
      split at hc'
      · cases hc'
      · cases hc'
        exact hc
    simp only [foundFrom, Bool.or_eq_true]
    have hmatch := h c hc
    unfold MatchesAt at hmatch
    rw [hmatch]
    cases hnext : c.pass fun _ => true with
    | none => simp
    | some c' =>
      dsimp only
      rw [ih (hpass c' hnext)]
      grind

lemma foundIn_iff {all : List Regex} (h : ∀ c : Cursor, c.groups = [] →
      (MatchesAt c r ↔ ∃ s ∈ all, MatchesAt c s)) (s : Text) :
    r.foundIn s ↔ ∃ q ∈ all, q.foundIn s :=
  foundFrom_iff h s.length rfl

end Regex

end SourceTidy
