import SourceTidy.Pattern.Regex.Escape

/-!
# Sets in regular expressions

A set lists characters, ranges of them and classes between brackets. It can be negated.
-/

namespace SourceTidy.Regex

def readMember (token : Text) : Read SetMember :=
  match token with
  | ['\\', c] => readSetEscape c
  | c :: _ => return .code c.toNat
  | [] => return .code 0x20

def refuseRange {α : Type} (a b : Text) : Read α :=
  refuse (.badRange a b) (a.length + 1 + b.length)

/-- The members of a set up to its closing bracket, in reverse. -/
def readMembers (start : Nat) (members : List SetMember) : Nat → Read (List SetMember)
  | 0 => refuseAt .unterminatedSet start
  | fuel + 1 => do
    match ← take with
    | none => refuseAt .unterminatedSet start
    | some token =>
      if token == [']'] && !members.isEmpty then return members
      else
        let first ← readMember token
        if ← takeIf '-' then
          match ← take with
          | none => refuseAt .unterminatedSet start
          | some token' =>
            if token' == [']'] then return .code 0x2d :: first :: members
            else
              let last ← readMember token'
              match first, last with
              | .code a, .code b =>
                if b < a then refuseRange token token'
                else readMembers start (.range a b :: members) fuel
              | _, _ => refuseRange token token'
        else readMembers start (first :: members) fuel

def readSet : Read Regex := do
  let start := (← place) - 1
  let negated ← takeIf '^'
  let members ← readMembers start [] ((← reading).pattern.length + 1)
  let rule ← caseRule
  match negated, members.reverse.eraseDups with
  | false, [.code n] => return .code rule n
  | _, members => return .set rule negated members

end SourceTidy.Regex
