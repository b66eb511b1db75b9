import SourceTidy.Pattern.Regex.Basic

/-!
# Searching for regular expressions

A search tries the places of a text from the left. At each place the alternatives of the expression
are tried in order, and what follows decides whether a way of matching is kept.
-/

namespace SourceTidy

/-- A place in a text: what is before it, in reverse, and after it, the numbers of characters before it
and in all, and what the groups have matched, the latest first. -/
structure Cursor where
  before : Text
  after : Text
  position : Nat
  size : Nat
  groups : List (Nat × Text) := []

namespace Cursor

def ofText (s : Text) : Cursor := { before := [], after := s, position := 0, size := s.length }

def pass (test : Char → Bool) (c : Cursor) : Option Cursor :=
  match c.after with
  | [] => none
  | a :: s =>
    if test a then
      some { c with before := a :: c.before, after := s, position := c.position + 1 }
    else none

def back : Nat → Cursor → Option Cursor
  | 0, c => some c
  | n + 1, c =>
    match c.before with
    | [] => none
    | a :: s => back n { c with before := s, after := a :: c.after, position := c.position - 1 }

def meets (c : Cursor) : Anchor → Bool
  | .start anyLine => c.before.isEmpty || (anyLine && c.before.head? == some '\n')
  | .stop anyLine =>
    c.after.isEmpty || c.after == ['\n'] || (anyLine && c.after.head? == some '\n')
  | .textEnd => c.after.isEmpty
  | .wordEdge negated asciiOnly =>
    let isWord := fun a : Option Char => match a with
      | some a => CharClass.word.contains asciiOnly a
      | none => false
    let edge := isWord c.before.head? != isWord c.after.head?
    !(c.before.isEmpty && c.after.isEmpty) && (edge != negated)

def passText (rule : CaseRule) : Text → Cursor → Option Cursor
  | [], c => some c
  | a :: s, c => (c.pass fun b => rule.fold b == rule.fold a).bind (passText rule s)

def note (number : Option Nat) (start stop : Cursor) : Cursor :=
  match number with
  | none => stop
  | some n =>
    { stop with
      groups := (n, start.after.take (stop.position - start.position)) :: stop.groups }

end Cursor

namespace Regex

/-- A way to match something and go on. -/
abbrev Step := Cursor → (Cursor → Option Cursor) → Option Cursor

/-- Repeats a step at least `least` and at most `most` times, as often as possible first. Beyond the
least number, no repetition is made at the place `last` of the one before it. -/
def repeatMost (step : Step) : Nat → Nat → Option Nat → Option Nat → Step
  | 0, _, _, _, c, k => k c
  | fuel + 1, least + 1, most, last, c, k =>
    step c fun c' => repeatMost step fuel least (most.map (· - 1)) last c' k
  | fuel + 1, 0, most, last, c, k =>
    if most == some 0 || last == some c.position then k c
    else
      match step c fun c' =>
        repeatMost step fuel 0 (most.map (· - 1)) (some c.position) c' k with
      | some done => some done
      | none => k c

def repeatFewest (step : Step) : Nat → Nat → Option Nat → Option Nat → Step
  | 0, _, _, _, c, k => k c
  | fuel + 1, least + 1, most, last, c, k =>
    step c fun c' => repeatFewest step fuel least (most.map (· - 1)) last c' k
  | fuel + 1, 0, most, last, c, k =>
    match k c with
    | some done => some done
    | none =>
      if most == some 0 || last == some c.position then none
      else step c fun c' =>
        repeatFewest step fuel 0 (most.map (· - 1)) (some c.position) c' k

/-- A step that is made in its first way only. -/
def once (step : Step) : Step := fun c k => (step c some).bind k

/-- Goes on from a place if something was found, or was not found, around it. -/
def look (negated : Bool) (found : Option Cursor) : Step := fun c k =>
  match found, negated with
  | some c', false => k { c with groups := c'.groups }
  | none, true => k c
  | _, _ => none

def run : Regex → Step
  | empty, c, k => k c
  | code rule n, c, k => (c.pass (rule.same n)).bind k
  | anyChar lineFeed, c, k => (c.pass fun a => lineFeed || a != '\n').bind k
  | set rule negated members, c, k =>
    (c.pass (accepts rule negated members)).bind k
  | anchor a, c, k => if c.meets a then k c else none
  | seq r s, c, k => run r c fun c' => run s c' k
  | alt r s, c, k =>
    match run r c k with
    | some done => some done
    | none => run s c k
  | loop least most choice body, c, k =>
    let bound := least + c.size + 3
    match choice with
    | .most => repeatMost (run body) bound least most none c k
    | .fewest => repeatFewest (run body) bound least most none c k
    | .mostKept => once (repeatMost (once (run body)) bound least most none) c k
  | group number body, c, k => run body c fun c' => k (Cursor.note number c c')
  | switched body, c, k => run body c k
  | atomic body, c, k => once (run body) c k
  | ahead negated body, c, k => look negated (run body c some) c k
  | behind negated least _ body, c, k =>
    look negated ((c.back least).bind fun c' => run body c' some) c k
  | again rule number, c, k =>
    match c.groups.lookup number with
    | none => none
    | some s => (c.passText rule s).bind k
  | ifGroup number yes no, c, k =>
    if (c.groups.lookup number).isSome then run yes c k else run no c k

/-- Whether an expression is found at the place or, within the given number of characters, after
it. -/
def foundFrom (r : Regex) : Nat → Cursor → Bool
  | 0, c => (run r c some).isSome
  | fuel + 1, c =>
    (run r c some).isSome ||
      match c.pass fun _ => true with
      | some c' => foundFrom r fuel c'
      | none => false

def foundIn (r : Regex) (s : Text) : Bool := foundFrom r s.length (Cursor.ofText s)

end Regex

end SourceTidy
