import SourceTidy.Pattern.Regex.CharSet
import SourceTidy.Pattern.Regex.Group

/-!
# Reading regular expressions

A pattern is a list of alternatives, each of them a sequence of items that can be repeated. Groups
hold patterns of their own.
-/

namespace SourceTidy.Regex

def repetitionLimit : Nat := 4294967295

def readCount (digits : Text) : Read (Option Nat) := do
  if digits.isEmpty then return none
  else
    let n := digitsIn 10 digits
    if Text.digitLimit < digits.length then fail (.tooManyDigits digits.length)
    else if repetitionLimit ≤ n then fail .repetitionTooLarge else return some n

def closed? (bounds : Text × Text) : Text → Option ((Text × Text) × Text)
  | '\x7d' :: rest => some (bounds, rest)
  | _ => none

/-- The digits of the two numbers of a repetition, and the text after its closing brace, from the text
after the first number. -/
def bounds? (low : Text) : Text → Option ((Text × Text) × Text)
  | ',' :: s => closed? (low, s.takeWhile Char.isDigit) (s.dropWhile Char.isDigit)
  | s => closed? (low, low) s

def splitBounds? (s : Text) : Option ((Text × Text) × Text) :=
  bounds? (s.takeWhile Char.isDigit) (s.dropWhile Char.isDigit)

/-- The numbers of a repetition, after its first character; none if a brace starts no
repetition. -/
def readBounds (c : Char) : Read (Option (Nat × Option Nat)) := do
  if c == '?' then return some (0, some 1)
  else if c == '*' then return some (0, none)
  else if c == '+' then return some (1, none)
  else
    let here ← place
    if (← reading).next == some ['\x7d'] then return none
    else
      match ← scan splitBounds? rfl with
      | some (low, high) =>
        let least ← readCount low
        let most ← readCount high
        match most with
        | some m => if m < least.getD 0 then refuseAt .leastAboveMost here
        | none => pure ()
        return some (least.getD 0, most)
      | none => return none

def readChoice : Read Choice := do
  if ← takeIf '?' then return .fewest
  else if ← takeIf '+' then return .mostKept
  else return .most

def repeatLast (here : Nat) (bounds : Nat × Option Nat) (items : List Regex) : Read (List Regex) := do
  match items with
  | [] => refuseAt .nothingToRepeat (here - 1)
  | item :: items =>
    if item.isAnchor then refuseAt .nothingToRepeat (here - 1)
    else if item.isLoop then refuseAt .multipleRepeat (here - 1)
    else
      return .loop bounds.1 bounds.2 (← readChoice) item :: items

def skipLine : Nat → Read Unit
  | 0 => refuse .unexpectedEnd 0
  | fuel + 1 => do
    match ← take with
    | none => return
    | some token => if token == ['\n'] then return else skipLine fuel

/-- The most characters that a look behind goes back. -/
def behindReach : Nat := 4294967295

/-- Why an expression that was read cannot be used, by the first of its parts that cannot. A plain
template has no repetitions. -/
def problem? (template : Bool) : Regex → Option RegexProblem
  | loop _ _ choice body =>
    if template then some (.loopInTemplate choice) else body.problem? template
  | behind _ least most body =>
    if behindReach < least then some .lookBehindTooFar
    else if least != most then some .lookBehindWidth
    else body.problem? template
  | seq r s | alt r s | ifGroup _ r s => (r.problem? template).orElse fun _ => s.problem? template
  | group _ body | switched body | atomic body | ahead _ body => body.problem? template
  | _ => none

/-- The set with which an expression starts, if none of its members has counterparts. -/
def startSet? : Regex → Option (Bool × List SetMember)
  | seq r _ => r.startSet?
  | group _ body | switched body => body.startSet?
  | set rule negated members =>
    let hasEquals := fun m : SetMember => match m with
      | .code n => rule.hasEquals n
      | .range first last => (SetMember.planeEnd ≤ last && rule != .exact) || rule.hasEqualsIn first last
      | .named .. => false
    if members.any hasEquals then none else some (negated, members)
  | _ => none

/-- A search looks for the characters of the set with which an expression starts, and takes its classes
for those of the whole pattern. -/
def guarded (asciiOnly : Bool) (r : Regex) : Regex :=
  match r.startSet? with
  | none => r
  | some (negated, members) =>
    let sought := members.map (·.within asciiOnly)
    if sought = members then r else .seq (.ahead false (.set .exact negated sought)) r

def readElse (branch : Read (List Regex)) : Read (List Regex) := do
  if ← takeIf '|' then
    let no ← branch
    if (← reading).next == some ['|'] then refuse .tooManyBranches 0 else return no
  else return []

/-- The next expression, and with `more` those after it; those read so far are given in reverse. Switches
for the whole pattern may come only at its very start. -/
def readItem (verbose first : Bool) (items : List Regex) (more : Bool → List Regex → Read (List Regex))
    (readGroup : Nat → GroupKind → Read Regex) (fuel : Nat) : Read (List Regex) := do
  match (← reading).next with
  | none => return items.reverse.flatMap unpacked
  | some token =>
    if token == ['|'] || token == [')'] then return items.reverse.flatMap unpacked
    else
      advance
      match token with
      | [_, c] =>
        let item ← readEscape c
        more verbose (item :: items)
      | [c] =>
        if verbose && (c == ' ' || (0x09 ≤ c.toNat && c.toNat ≤ 0x0d)) then
          more verbose items
        else if verbose && c == '#' then
          skipLine fuel
          more verbose items
        else if c == '[' then
          let item ← readSet
          more verbose (item :: items)
        else if c == '.' then
          more verbose (.anyChar (← reading).flags.dotAll :: items)
        else if c == '^' then
          more verbose (.anchor (.start (← reading).flags.multiline) :: items)
        else if c == '$' then
          more verbose (.anchor (.stop (← reading).flags.multiline) :: items)
        else if c == '?' || c == '*' || c == '+' || c == '\x7b' then
          let here ← place
          match ← readBounds c with
          | none => more verbose (.code (← caseRule) c.toNat :: items)
          | some bounds =>
            let items ← repeatLast here bounds items
            more verbose items
        else if c == '(' then
          let start := (← place) - 1
          match ← readGroupKind start with
          | .nothing flags =>
            if flags && (!first || !items.isEmpty) then refuseAt .lateFlags start
            else
              let whole := (← reading).wholeFlags.verbose
              let verbose := if flags then whole else verbose
              more verbose items
          | .reference item => more verbose (item :: items)
          | kind =>
            let item ← readGroup start kind
            more verbose (item :: items)
        else
          more verbose (.code (← caseRule) c.toNat :: items)
      | _ => more verbose items

mutual

def readAlternatives (verbose top : Bool) : Nat → Read Regex
  | 0 => refuse .unexpectedEnd 0
  | fuel + 1 => do
    let first ← readSequence verbose top [] fuel
    return ofAlternatives first (← readFurther verbose top fuel)

def readFurther (verbose top : Bool) : Nat → Read (List (List Regex))
  | 0 => refuse .unexpectedEnd 0
  | fuel + 1 => do
    if ← takeIf '|' then
      let whole := (← reading).wholeFlags.verbose
      let verbose := if top then whole else verbose
      let next ← readSequence verbose false [] fuel
      return next :: (← readFurther verbose top fuel)
    else return []

def readSequence (verbose first : Bool) (items : List Regex) : Nat → Read (List Regex)
  | 0 => refuse .unexpectedEnd 0
  | fuel + 1 =>
    readItem verbose first items (fun verbose items => readSequence verbose first items fuel)
      (fun start kind => readGroup verbose start kind fuel) fuel

def readGroup (verbose : Bool) (start : Nat) (kind : GroupKind) : Nat → Read Regex
  | 0 => refuse .unexpectedEnd 0
  | fuel + 1 => do
    match kind with
    | .plain name =>
      let number ← openGroup name
      let body ← readAlternatives verbose false fuel
      expectClose start
      closeGroup number body
      return .group (some number) body
    | .switched on off =>
      let r ← reading
      let body ← within (r.flags.within on off) r.behindLimit
        (readAlternatives ((verbose || on.verbose) && !off.verbose) false fuel)
      expectClose start
      return if on == {} && off == {} then .group none body else .switched body
    | .atomic =>
      let body ← readAlternatives verbose false fuel
      expectClose start
      return .atomic body
    | .ahead negated =>
      let body ← readAlternatives verbose false fuel
      expectClose start
      return .ahead negated body
    | .behind negated =>
      let r ← reading
      let body ← within r.flags (some (r.behindLimit.getD r.groups.length))
        (readAlternatives verbose false fuel)
      expectClose start
      let (least, most) := body.width (← reading).groups
      return .behind negated least most body
    | .cond number =>
      let yes ← readSequence verbose false [] fuel
      let no ← readElse (readSequence verbose false [] fuel)
      expectClose start
      return .ifGroup number (ofList yes) (ofList no)
    | .nothing _ => return .empty
    | .reference item => return item

end

def checkWhole (body : Regex) : Read Unit := do
  let r ← reading
  if r.isText && r.wholeFlags.ascii && r.wholeFlags.unicode then fail (.flagConflict false)
  else if !r.isText && r.wholeFlags.locale && r.wholeFlags.ascii then fail (.flagConflict true)
  else if r.next.isSome then refuse .unbalanced 0
  else
    match r.asked.find? fun a => r.groups.length ≤ a.1 with
    | some (number, position) => refuseAt (.invalidGroup number) position
    | none =>
      match body.problem? r.wholeFlags.template with
      | some what => fail (.problem r.pattern what none)
      | none => return

def readPattern : Read Regex := do
  advance
  let body ← readAlternatives false true (4 * (← reading).pattern.length + 4)
  checkWhole body
  return body

def readText (isText : Bool) (pattern : Text) : Except RegexFault (Regex × Reading) :=
  (·.1) <$> readPattern { pattern, isText }

def ofText (isText : Bool) (pattern : Text) : Except RegexFault Regex := do
  let (r, s) ← readText isText pattern
  return r.guarded (!isText || s.wholeFlags.ascii)

end SourceTidy.Regex
