import SourceTidy.Pattern.Regex.Basic
import SourceTidy.Pattern.Regex.Flags
import SourceTidy.Pattern.Regex.Problem
import SourceTidy.Text.Identifier

/-!
# Tokens of regular expressions

A pattern is read token by token, where a token is a character or a backslash with the character
after it. The reader always looks one token ahead, so a backslash at the end of a pattern is
reported as soon as the token before it is taken.
-/

namespace SourceTidy.Regex

structure Reading where
  pattern : Text
  isText : Bool
  next : Option Text := none
  /-- The text after the next token. -/
  rest : Text := pattern
  wholeFlags : RegexFlags := {}
  flags : RegexFlags := {}
  /-- The widths of the numbered groups; a group that is still open has none. Number zero is the
  whole pattern. -/
  groups : List (Option (Nat × Nat)) := [none]
  names : List (Text × Nat) := []
  /-- Within a look behind, the number of groups before it. -/
  behindLimit : Option Nat := none
  /-- Groups that are asked for by number, with the places of the questions. -/
  asked : List (Nat × Nat) := []

namespace Reading

def AtEnd (s : Reading) : Prop := s.next = none ∧ s.rest = []

/-- What stays true when reading goes on from one state to another one. -/
structure Later (s t : Reading) : Prop where
  atEnd : s.AtEnd → t.AtEnd
  flags : t.wholeFlags = {} → s.wholeFlags = {} ∧ t.flags = s.flags
  behindLimit : t.behindLimit = s.behindLimit
  names : s.names.map Prod.fst ⊆ t.names.map Prod.fst
  asked : t.asked = [] → s.asked = []

theorem Later.refl (s : Reading) : s.Later s :=
  ⟨id, fun h => ⟨h, rfl⟩, rfl, fun _ h => h, id⟩

theorem Later.trans {s t u : Reading} (h : s.Later t) (h' : t.Later u) : s.Later u where
  atEnd := h'.atEnd ∘ h.atEnd
  flags hu :=
    have ⟨ht, hflags⟩ := h'.flags hu
    ⟨(h.flags ht).1, hflags.trans (h.flags ht).2⟩
  behindLimit := h'.behindLimit.trans h.behindLimit
  names _ hn := h'.names (h.names hn)
  asked := h.asked ∘ h'.asked

theorem Later.moved {s : Reading} {next : Option Text} {rest : Text}
    (h : s.AtEnd → ({ s with next, rest } : Reading).AtEnd) : s.Later { s with next, rest } :=
  ⟨h, fun h => ⟨h, rfl⟩, rfl, fun _ h => h, id⟩

end Reading

open Reading

def Read (α : Type) : Type := (s : Reading) → Except RegexFault { r : α × Reading // s.Later r.2 }

instance : Monad Read where
  pure a s := .ok ⟨(a, s), .refl s⟩
  bind m f s :=
    match m s with
    | .error e => .error e
    | .ok ⟨(a, t), h⟩ => (f a t).map fun r => ⟨r.1, h.trans r.2⟩

def reading : Read Reading := fun s => .ok ⟨(s, s), .refl s⟩

def fail {α : Type} (f : RegexFault) : Read α := fun _ => .error f

def change (f : Reading → Reading) (h : ∀ s : Reading, s.Later (f s)) : Read Unit :=
  fun s => .ok ⟨((), f s), h s⟩

/-- Reads with other switches and another limit, which then are those of before again. -/
def within {α : Type} (flags : RegexFlags) (behindLimit : Option Nat) (m : Read α) : Read α := fun s =>
  match m { s with flags, behindLimit } with
  | .error e => .error e
  | .ok ⟨(a, t), h⟩ => .ok ⟨(a, { t with flags := s.flags, behindLimit := s.behindLimit }),
      h.atEnd, fun ht => ⟨(h.flags ht).1, rfl⟩, rfl, h.names, h.asked⟩

def place : Read Nat := do
  let r ← reading
  return r.pattern.length - r.rest.length - (r.next.getD []).length

def refuseAt {α : Type} (what : RegexProblem) (position : Nat) : Read α := do
  fail (.problem (← reading).pattern what (some position))

/-- Refuses the pattern for a problem a number of characters before the next token. -/
def refuse {α : Type} (what : RegexProblem) (offset : Nat) : Read α := do
  refuseAt what ((← place) - offset)

/-- The first token of a text and what follows it, unless the text is a backslash. -/
def firstToken? : Text → Option (Option Text × Text)
  | [] => some (none, [])
  | ['\\'] => none
  | '\\' :: c :: s => some (some ['\\', c], s)
  | c :: s => some (some [c], s)

/-- Reads something off the text that is ahead, and looks at the token after it. -/
def scan {α : Type} (read : Text → Option (α × Text)) (h : read [] = none) : Read (Option α) := fun s =>
  match hread : read (s.next.getD [] ++ s.rest) with
  | none => .ok ⟨(none, s), .refl s⟩
  | some (a, text) =>
    match firstToken? text with
    | none => refuseAt .escapeAtEnd (s.pattern.length - 1) s
    | some (next, rest) =>
      have hmoved : s.AtEnd → ({ s with next, rest } : Reading).AtEnd := fun ⟨hnext, hrest⟩ => by
        rw [hnext, hrest] at hread
        exact absurd (h.symm.trans hread) nofun
      .ok ⟨(some a, { s with next, rest }), .moved hmoved⟩

def advance : Read Unit := fun s =>
  match hs : firstToken? s.rest with
  | none => refuseAt .escapeAtEnd (s.pattern.length - 1) s
  | some (next, rest) =>
    have hmoved : s.AtEnd → ({ s with next, rest } : Reading).AtEnd := fun ⟨_, hrest⟩ => by
      rw [hrest] at hs
      cases hs
      exact ⟨rfl, rfl⟩
    .ok ⟨((), { s with next, rest }), .moved hmoved⟩

def take : Read (Option Text) := do
  let token := (← reading).next
  advance
  return token

def takeIf (c : Char) : Read Bool := do
  if (← reading).next == some [c] then
    advance
    return true
  else
    return false

def takeWhile (test : Char → Bool) : Nat → Read Text
  | 0 => return []
  | n + 1 => do
    match (← reading).next with
    | some [c] =>
      if test c then
        advance
        return c :: (← takeWhile test n)
      else return []
    | _ => return []

def takeUntil (terminator : Char) (what : String) (taken : Text) : Nat → Read Text
  | 0 => refuse (.missingName what) 0
  | fuel + 1 => do
    match ← take with
    | none =>
      if taken.isEmpty then refuse (.missingName what) 0
      else refuse (.unterminatedName terminator) taken.length
    | some token =>
      if token == [terminator] then
        if taken.isEmpty then refuse (.missingName what) 1 else return taken
      else takeUntil terminator what (taken ++ token) fuel

def takeName (terminator : Char) (what : String) : Read Text := do
  takeUntil terminator what [] ((← reading).pattern.length + 1)

def checkName (name : Text) : Read Unit := do
  if !Text.isIdentifier name then refuse (.badGroupName name) (name.length + 1)

/-- Whether characters are told apart by their ASCII properties only. -/
def asciiOnly : Read Bool := do
  let r ← reading
  return !r.isText || r.flags.ascii

def caseRule : Read CaseRule := do
  let r ← reading
  if !r.flags.ignoreCase then return .exact
  else if r.flags.locale then return .eitherAscii
  else return if ← asciiOnly then .ascii else .any

end SourceTidy.Regex
