import SourceTidy.CommandLine.Help
import SourceTidy.Text.Digit

/-!
# Reading command lines

A command line is read from the left. Options can be given by the beginning of a long name, several
short names can stand together, and a value can be joined to its option. Two hyphens end the
options.
-/

namespace SourceTidy.Grammar

def refuseArgument (g : Grammar) (a : Argument) (message : String) : Exit :=
  g.refusal ("argument " ++ a.messageName ++ ": " ++ message)

structure OptionUse where
  argument : Option Argument
  isLong : Bool
  /-- A text joined to the name, with an equals sign or without. -/
  joined : Option Text := none
  deriving DecidableEq, Repr

inductive WordKind where
  | value
  | hyphens
  | option (use : OptionUse)
  deriving DecidableEq, Repr

abbrev Word := WordKind × String

namespace WordKind

def isOption : WordKind → Bool
  | option _ => true
  | _ => false

end WordKind

def cutAtEquals (s : Text) : Text × Option Text :=
  match s.dropWhile (· != '=') with
  | _ :: rest => (s.takeWhile (· != '='), some rest)
  | [] => (s, none)

/-- Whether the characters of a negative number follow a hyphen. A line feed can follow them. -/
def isNumberText (s : Text) : Bool :=
  let s := if s.getLast? == some '\n' then s.dropLast else s
  let rest := s.dropWhile Text.isDecimal
  match rest with
  | [] => !s.isEmpty
  | '.' :: places => !places.isEmpty && places.all Text.isDecimal
  | _ => false

/-- The options that a word can stand for: that of a short name and a value joined to it, or those with a
long name that begins so. -/
def candidates (g : Grammar) (word : Text) : List (String × OptionUse) :=
  match word with
  | '-' :: '-' :: _ =>
    let (name, value) := cutAtEquals word
    (g.optionNames.filter fun n => name.isPrefixOf n.toList).map fun n =>
      (n, { argument := g.option? n, isLong := true, joined := value })
  | '-' :: c :: rest =>
    (g.optionNames.filter fun n => n.toList == ['-', c]).map fun n =>
      (n, { argument := g.option? n, isLong := false, joined := some rest })
  | _ => []

/-- What a word is when no two hyphens stand before it. -/
def classify (g : Grammar) (word : String) : Except Exit WordKind :=
  match word.toList with
  | '-' :: c :: rest =>
    let isLong := c == '-'
    let (name, value) := cutAtEquals word.toList
    match g.option? word, value.bind fun _ => g.option? (Text.str name) with
    | some a, _ => .ok (.option { argument := some a, isLong })
    | none, some a => .ok (.option { argument := some a, isLong, joined := value })
    | none, none =>
      match g.candidates word.toList with
      | [(_, use)] => .ok (.option use)
      | [] =>
        if isNumberText (c :: rest) || word.toList.contains ' ' then .ok .value
        else .ok (.option { argument := none, isLong })
      | several =>
        .error (g.refusal ("ambiguous option: " ++ word ++ " could match " ++
          ", ".intercalate (several.map (·.1))))
  | _ => .ok .value

/-- The words of a command line. After two hyphens there are only values. -/
def words (g : Grammar) : List String → Except Exit (List Word)
  | [] => .ok []
  | word :: rest => do
    if word == "--" then return (.hyphens, word) :: rest.map fun w => (.value, w)
    let kind ← g.classify word
    return (kind, word) :: (← words g rest)

abbrev CommandReader := String → List String → Except Exit (Values × List String)

structure Reading where
  values : Values
  /-- Words that no argument takes. -/
  left : List String := []
  leftByCommand : List String := []
  nameless : Option Argument
  deriving DecidableEq, Repr

def convert (g : Grammar) (a : Argument) (word : String) : Except Exit Setting :=
  if a.isNumber then
    match Text.integer? word.toList with
    | some n => .ok (.int n)
    | none => .error (g.refuseArgument a ("invalid int value: " ++ Text.quote word))
  else if !a.choices.isEmpty && !a.choices.contains word then
    .error (g.refuseArgument a ("invalid choice: " ++ Text.quote word ++ " (choose from " ++
      ", ".intercalate (a.choices.map Text.quote) ++ ")"))
  else .ok (.text word)

/-- The value of an option. Two hyphens are no value, and leave an option that needs one with an
empty list. -/
def optionValue (g : Grammar) (a : Argument) (word : Option String) : Except Exit Setting :=
  match word with
  | some "--" => .ok (if a.arity == .optional then a.fallback else .texts [])
  | some word => g.convert a word
  | none => .ok a.fallback

def obey (g : Grammar) (r : Reading) (a : Argument) (word : Option String) : Except Exit Reading := do
  match a.deed with
  | .help => throw { code := 0, output := g.help }
  | .version text => throw { code := 0, output := text ++ "\n" }
  | .put v => return { r with values := r.values.put a.target v }
  | .store => return { r with values := r.values.put a.target (← g.optionValue a word) }

def takeValue (g : Grammar) (a : Argument) (rest : List Word) : Except Exit (Option String × List Word) :=
  match a.arity, rest with
  | .none, _ => .ok (none, rest)
  | _, (.value, word) :: rest => .ok (some word, rest)
  | .optional, _ => .ok (none, rest)
  | _, _ => .error (g.refuseArgument a "expected one argument")

structure OptionGroup where
  uses : List (Argument × Option String)
  rest : List Word

def OptionGroup.cons (a : Argument) (group : OptionGroup) : OptionGroup :=
  { group with uses := (a, none) :: group.uses }

def lastOfGroup (g : Grammar) (a : Argument) (rest : List Word) : Except Exit OptionGroup := do
  let (word, rest) ← g.takeValue a rest
  return { uses := [(a, word)], rest }

/-- The group of an option to which a text is joined: its value, or further short names. -/
def groupWith (g : Grammar) (rest : List Word) (a : Argument) (isLong : Bool) :
    Text → Except Exit OptionGroup
  | [] =>
    if a.arity != .none then .ok { uses := [(a, some "")], rest }
    else .error (g.refuseArgument a "ignored explicit argument ''")
  | c :: more =>
    if a.arity != .none then .ok { uses := [(a, some (Text.str (c :: more)))], rest }
    else match isLong, g.option? (Text.str ['-', c]) with
      | false, some next =>
        if more.isEmpty then (g.lastOfGroup next rest).map (OptionGroup.cons a)
        else (groupWith g rest next false more).map (OptionGroup.cons a)
      | _, _ =>
        .error (g.refuseArgument a ("ignored explicit argument " ++ Text.str (Text.quoteText (c :: more))))

def optionGroup (g : Grammar) (a : Argument) (use : OptionUse) (rest : List Word) : Except Exit OptionGroup :=
  match use.joined with
  | none => g.lastOfGroup a rest
  | some joined => g.groupWith rest a use.isLong joined

def readOption (g : Grammar) (r : Reading) (use : OptionUse) (word : String) (rest : List Word) :
    Except Exit (Reading × List Word) := do
  match use.argument with
  | none => return ({ r with left := r.left ++ [word] }, rest)
  | some a =>
    let group ← g.optionGroup a use rest
    let r ← group.uses.foldlM (fun r (a, word) => g.obey r a word) r
    return (r, group.rest)

def obeyNameless (g : Grammar) (readCommand : CommandReader) (r : Reading) (a : Argument)
    (taken : List String) : Except Exit Reading := do
  let r := { r with nameless := none }
  match a.arity, taken with
  | .command, name :: rest =>
    let _ ← g.convert a name
    let (values, left) ← readCommand name rest
    return { r with
      values := (r.values.put a.target (.text name)).putAll values
      leftByCommand := left }
  | _, taken => return { r with values := r.values.put a.target (.texts (taken.erase "--")) }

def readNameless (g : Grammar) (readCommand : CommandReader) (r : Reading) (all : List Word) :
    Except Exit (Reading × List Word) := do
  match r.nameless, all.dropWhile (·.1 == .hyphens) with
  | some a, (.value, _) :: _ =>
    let taken := if a.arity == .command then all else all.takeWhile (!·.1.isOption)
    let r ← g.obeyNameless readCommand r a (taken.map (·.2))
    return (r, all.drop taken.length)
  | _, _ => return (r, all)

/-- Reads words. The counter bounds the number of steps, of which each takes a word. -/
def readWords (g : Grammar) (readCommand : CommandReader) : Nat → Reading → List Word →
    Except Exit Reading
  | 0, r, _ => .ok r
  | fuel + 1, r, all =>
    match all with
    | [] => .ok r
    | (.option use, word) :: rest => do
      let (r, rest) ← g.readOption r use word rest
      readWords g readCommand fuel r rest
    | all => do
      let (r, rest) ← g.readNameless readCommand r all
      if rest.length < all.length && rest.any (·.1.isOption) then
        readWords g readCommand fuel r rest
      else
        let values := rest.takeWhile (!·.1.isOption)
        readWords g readCommand fuel { r with left := r.left ++ values.map (·.2) } (rest.drop values.length)

/-- The values before a command line is read. Those that are there already stay. -/
def initialValues (g : Grammar) (preset : Values) : Values :=
  g.arguments.foldl (fun values a =>
    match a.initial with
    | some v => values.offer a.target v
    | none => values) preset

def readSome (g : Grammar) (readCommand : CommandReader) (preset : Values) (line : List String) :
    Except Exit (Values × List String) := do
  let all ← g.words line
  let r ← g.readWords readCommand (all.length + 1)
    { values := g.initialValues preset, nameless := g.nameless } all
  match r.nameless with
  | some a =>
    if a.arity == .many then
      throw (g.refusal ("the following arguments are required: " ++ a.messageName))
  | none => pure ()
  return (r.values, r.left ++ r.leftByCommand)

def read (g : Grammar) (readCommand : CommandReader) (preset : Values) (line : List String) :
    Except Exit Values := do
  let (values, left) ← g.readSome readCommand preset line
  if left.isEmpty then return values
  else throw (g.refusal ("unrecognized arguments: " ++ " ".intercalate left))

def noCommand : CommandReader := fun _ _ => .ok ([], [])

end SourceTidy.Grammar
