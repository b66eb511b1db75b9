import SourceTidy.Pattern.Regex.Escape
import SourceTidy.Text.Integer
import SourceTidy.Text.Letter

/-!
# Groups in regular expressions

What follows an opening parenthesis can name the group, make it a condition or a look at the text
around it, turn switches on and off, or make it a comment.
-/

namespace SourceTidy.Regex

/-- The switches turned on, from the given letter up to a character that ends them, and that
character. -/
def readOn (on : RegexFlags) (c : Char) : Nat → Read (RegexFlags × Char)
  | 0 => refuse .missingFlagEnd 0
  | fuel + 1 => do
    let isText := (← reading).isText
    if isText && c == 'L' then refuse .localeFlag 0
    else if !isText && c == 'u' then refuse .unicodeFlag 0
    else
      let flag := (RegexFlags.ofLetter? c).getD {}
      let on := on.union flag
      if flag.hasKind && on.kinds != 1 then refuse .incompatibleFlags 0
      else
        match ← take with
        | none => refuse .missingFlagEnd 0
        | some [d] =>
          if d == ')' || d == '-' || d == ':' then return (on, d)
          else if (RegexFlags.ofLetter? d).isSome then readOn on d fuel
          else refuse (if Text.isLetter d then .unknownFlag else .missingFlagEnd) 1
        | some token => refuse .missingFlagEnd token.length

def readOff (off : RegexFlags) (c : Char) : Nat → Read RegexFlags
  | 0 => refuse .missingColon 0
  | fuel + 1 => do
    let flag := (RegexFlags.ofLetter? c).getD {}
    if flag.hasKind then refuse .switchOffTypeFlag 0
    else
      let off := off.union flag
      match ← take with
      | none => refuse .missingColon 0
      | some [d] =>
        if d == ':' then return off
        else if (RegexFlags.ofLetter? d).isSome then readOff off d fuel
        else refuse (if Text.isLetter d then .unknownFlag else .missingColon) 1
      | some token => refuse .missingColon token.length

def readOffAfter (stop : Char) : Read RegexFlags := do
  if stop == '-' then
    match ← take with
    | none => refuse .missingFlag 0
    | some [d] =>
      if (RegexFlags.ofLetter? d).isSome then readOff {} d ((← reading).pattern.length + 1)
      else refuse (if Text.isLetter d then .unknownFlag else .missingFlag) 1
    | some token => refuse .missingFlag token.length
  else return {}

def switchOn (on : RegexFlags) : Read Unit :=
  change (fun r => { r with wholeFlags := r.wholeFlags.union on, flags := r.flags.union on }) fun r =>
    ⟨id, fun h => ⟨(RegexFlags.eq_none_of_union h).1,
      (RegexFlags.eq_none_of_union h).2 ▸ r.flags.union_none⟩, rfl, fun _ h => h, id⟩

/-- The switches at the start of a group, from their first letter: none if they are for the whole
pattern, else those turned on and those turned off. -/
def readFlags (c : Char) : Read (Option (RegexFlags × RegexFlags)) := do
  let fuel := (← reading).pattern.length + 1
  let (on, stop) ← (if c == '-' then pure ({}, c) else readOn {} c fuel : Read (RegexFlags × Char))
  if stop == ')' then
    switchOn on
    return none
  else if on.template then refuse .switchOnGlobalFlag 1
  else
    let off ← readOffAfter stop
    if off.template then refuse .switchOffGlobalFlag 1
    else if on.meets off then refuse .switchBoth 1
    else return some (on, off)

def nameGroup (number : Nat) : Option Text → Read Unit
  | none => return
  | some n => do
    match (← reading).names.lookup n with
    | some former => refuse (.redefinedGroup n number former) (n.length + 1)
    | none =>
      change (fun r => { r with names := r.names ++ [(n, number)] }) fun _ =>
        ⟨id, fun h => ⟨h, rfl⟩, rfl, by simp, id⟩

def openGroup (name : Option Text) : Read Nat := do
  let number := (← reading).groups.length
  nameGroup number name
  change (fun r => { r with groups := r.groups ++ [none] }) fun _ =>
    ⟨id, fun h => ⟨h, rfl⟩, rfl, fun _ h => h, id⟩
  return number

def closeGroup (number : Nat) (body : Regex) : Read Unit :=
  change (fun r => { r with groups := r.groups.set number (some (body.width r.groups)) }) fun _ =>
    ⟨id, fun h => ⟨h, rfl⟩, rfl, fun _ h => h, id⟩

def expectClose (start : Nat) : Read Unit := do
  if !(← takeIf ')') then refuseAt .unterminatedGroup start

def groupLimit : Nat := 1073741823

def readAsked : Read Nat := do
  let name ← takeName ')' "group name"
  if Text.isIdentifier name then
    match (← reading).names.lookup name with
    | some number => return number
    | none => refuse (.unknownGroupName name) (name.length + 1)
  else
    match Text.integer? name with
    | some (.ofNat number) =>
      if number == 0 then refuse .badGroupNumber (name.length + 1)
      else if groupLimit ≤ number then refuse (.invalidGroup number) (name.length + 1)
      else
        ask number ((← place) - (name.length + 1))
        return number
    | _ => refuse (.badGroupName name) (name.length + 1)

def referToName (name : Text) : Read Regex := do
  match (← reading).names.lookup name with
  | none => refuse (.unknownGroupName name) (name.length + 1)
  | some number => referTo number (name.length + 1)

inductive GroupKind where
  | plain (name : Option Text)
  | switched (on off : RegexFlags)
  | atomic
  | ahead (negated : Bool)
  | behind (negated : Bool)
  | cond (number : Nat)
  /-- No group after all: a comment, or switches for the whole pattern. -/
  | nothing (flags : Bool)
  | reference (r : Regex)

def skipComment (start : Nat) : Nat → Read Unit
  | 0 => refuseAt .unterminatedComment start
  | fuel + 1 => do
    match ← take with
    | none => refuseAt .unterminatedComment start
    | some token => if token == [')'] then return else skipComment start fuel

def readGroupKind (start : Nat) : Read GroupKind := do
  if !(← takeIf '?') then return .plain none
  else
    match ← take with
    | none => refuse .unexpectedEnd 0
    | some ['P'] =>
      if ← takeIf '<' then
        let name ← takeName '>' "group name"
        checkName name
        return .plain (some name)
      else if ← takeIf '=' then
        let name ← takeName ')' "group name"
        checkName name
        return .reference (← referToName name)
      else
        match ← take with
        | none => refuse .unexpectedEnd 0
        | some token => refuse (.unknownExtension ('P' :: token)) (token.length + 2)
    | some [':'] => return .switched {} {}
    | some ['#'] =>
      skipComment start ((← reading).pattern.length + 1)
      return .nothing false
    | some ['='] => return .ahead false
    | some ['!'] => return .ahead true
    | some ['<'] =>
      match ← take with
      | none => refuse .unexpectedEnd 0
      | some ['='] => return .behind false
      | some ['!'] => return .behind true
      | some token => refuse (.unknownExtension ('<' :: token)) (token.length + 2)
    | some ['('] => do
      let number ← readAsked
      checkBehind number
      return .cond number
    | some ['>'] => return .atomic
    | some token =>
      match token with
      | [c] =>
        if c == '-' || (RegexFlags.ofLetter? c).isSome then
          match ← readFlags c with
          | none => return .nothing true
          | some (on, off) => return .switched on off
        else refuse (.unknownExtension token) (token.length + 1)
      | _ => refuse (.unknownExtension token) (token.length + 1)

end SourceTidy.Regex
