import SourceTidy.Template.Layout

/-!
# Templates

A template is text with fields in braces. A field names a value and may ask for a part of it, for a
conversion and for a layout; a doubled brace stands for one brace.
-/

namespace SourceTidy

structure TemplateField where
  name : Text
  conversion : Option Char := none
  spec : Text := []
  deriving DecidableEq, Repr

namespace Template

/-- The name of a field and what ends it, for a text that follows an opening brace. A bracket in a
name runs up to its closing bracket. -/
def takeName (inBracket : Bool) (name : Text) : Text → Except TemplateFault (Text × Option Char × Text)
  | [] => .ok (name.reverse, none, [])
  | c :: s =>
    if inBracket then takeName (c != ']') (c :: name) s
    else if c == '\x7b' then .error .openInName
    else if c == '\x7d' || c == ':' || c == '!' then .ok (name.reverse, some c, s)
    else takeName (c == '[') (c :: name) s

/-- The layout of a field, up to the brace that closes the field, and the text after it. -/
def takeSpec (depth : Nat) (spec : Text) : Text → Except TemplateFault (Text × Text)
  | [] => .error .unmatchedOpen
  | c :: s =>
    if c == '\x7b' then takeSpec (depth + 1) (c :: spec) s
    else if c == '\x7d' then
      match depth with
      | 0 => .ok (spec.reverse, s)
      | depth + 1 => takeSpec depth (c :: spec) s
    else takeSpec depth (c :: spec) s

/-- The conversion with a given sign. A NUL asks for none. -/
def conversion? (c : Char) : Option Char := if c.toNat == 0 then none else some c

def takeField (s : Text) : Except TemplateFault (TemplateField × Text) := do
  let (name, stop, s) ← takeName false [] s
  match stop with
  | some '\x7d' => .ok ({ name }, s)
  | some ':' =>
    let (spec, s) ← takeSpec 0 [] s
    .ok ({ name, spec }, s)
  | some _ =>
    match s with
    | [] => .error .missingConversion
    | c :: '\x7d' :: s => .ok ({ name, conversion := conversion? c }, s)
    | c :: ':' :: s =>
      let (spec, s) ← takeSpec 0 [] s
      .ok ({ name, conversion := conversion? c, spec }, s)
    | [_] => .error .unmatchedOpen
    | _ => .error .colonExpected
  | none => .error .closeExpected

/-- A value in a template: a setting, or a kind of settings. -/
inductive Part where
  | setting (v : Setting)
  | kind (name : String)
  deriving DecidableEq, Repr

def isEnumeration (kind : String) : Bool := kind == "Eol" || kind == "Mode"

def shownKind (kind : String) : String :=
  "<" ++ (if isEnumeration kind then "enum" else "class") ++ " '" ++ kind ++ "'>"

def members (kind : String) : List (String × Setting) :=
  if kind == "Eol" then Eol.byName.map fun (name, e) => (name, .eol e)
  else if kind == "Mode" then [("BINARY", .mode .binary), ("TEXT", .mode .text)]
  else []

def properties (v : Setting) : List (String × Setting) :=
  match v with
  | .int n => [("real", .int n), ("imag", .int 0), ("numerator", .int n), ("denominator", .int 1)]
  | .flag b =>
    let n : Int := if b then 1 else 0
    [("real", .int n), ("imag", .int 0), ("numerator", .int n), ("denominator", .int 1)]
  | .real x => [("real", .real x), ("imag", .real (.zero false))]
  | .eol e =>
    [("name", .text e.name), ("value", .text e.terminator), ("_name_", .text e.name),
      ("_value_", .text e.terminator)]
  | .mode m =>
    [("name", .text m.name), ("value", .text m.letters), ("_name_", .text m.name),
      ("_value_", .text m.letters)]
  | _ => []

def property (p : Part) (name : Text) : Except TemplateFault Part :=
  let asked := Text.str name
  match p with
  | .setting v =>
    match (properties v).lookup asked with
    | some w => .ok (.setting w)
    | none =>
      if asked == "__class__" then .ok (.kind v.kind)
      else if ((members v.kind).lookup asked).isSome then .error (.noMember v.kind name)
      else .error (.noAttribute v.kind name)
  | .kind kind =>
    if asked == "__name__" || asked == "__qualname__" then .ok (.setting (.text kind))
    else match (members kind).lookup asked with
      | some v => .ok (.setting v)
      | none =>
        if isEnumeration kind then .error (.noMemberNamed name)
        else .error (.noKindAttribute kind name)

/-- The number that a text spells in digits, if it does. Too many digits at its start are a fault in
any case. -/
def index? (s : Text) : Except TemplateFault (Option Nat) :=
  let digits := s.takeWhile Text.isDecimal
  let n := Text.digitsValue digits
  if Layout.sizeLimit ≤ n then .error .tooManyDigits
  else if s.isEmpty || digits.length < s.length then .ok none
  else .ok (some n)

/-- An item of a value: by its number in a text or a list, by its name in a record. -/
def item (p : Part) (name : Text) : Except TemplateFault Part := do
  let index ← index? name
  match p, index with
  | .setting (.text s), some i =>
    match s.toList[i]? with
    | some c => return .setting (.text c.toString)
    | none => throw .noCharacterAt
  | .setting (.text _), none => throw .keyInText
  | .setting (.list members), some i =>
    match members[i]? with
    | some v => return .setting (.scalar v)
    | none => throw .noItemAt
  | .setting (.list _), none => throw .keyInList
  | .setting (.record _), some i => throw (.noSuchNumber i)
  | .setting (.record fields), none =>
    match fields.lookup (Text.str name) with
    | some v => return .setting (.scalar v)
    | none => throw (.noSuchField name)
  | .setting v, _ => throw (.notSubscriptable v.kind)
  | .kind kind, index =>
    match index, (members kind).lookup (Text.str name) with
    | none, some v => return .setting v
    | none, none =>
      if isEnumeration kind then throw (.noSuchField name) else throw (.kindNotSubscriptable kind)
    | some i, _ =>
      if isEnumeration kind then throw (.noSuchNumber i) else throw (.kindNotSubscriptable kind)

/-- Follows the parts that a field asks for: properties after a point and items in brackets. -/
def follow (p : Part) : Nat → Text → Except TemplateFault Part
  | 0, _ => .ok p
  | _ + 1, [] => .ok p
  | fuel + 1, c :: s =>
    if c == '.' then
      let name := s.takeWhile fun c => c != '.' && c != '['
      if name.isEmpty then .error .emptyAttribute
      else do follow (← property p name) fuel (s.drop name.length)
    else if c == '[' then
      let name := s.takeWhile (· != ']')
      match s.drop name.length with
      | [] => .error .missingBracket
      | _ :: rest =>
        if name.isEmpty then .error .emptyAttribute
        else do follow (← item p name) fuel rest
    else .error .strayAfterBracket

/-- The value that a field asks for. There are no values by number. -/
def lookup (values : List (String × Setting)) (name : Text) : Except TemplateFault Part := do
  let first := name.takeWhile fun c => c != '.' && c != '['
  let rest := name.drop first.length
  match ← index? first with
  | some i => throw (.noSuchIndex i)
  | none =>
    if first.isEmpty then throw (.noSuchIndex 0)
    else match values.lookup (Text.str first) with
      | some v => follow (.setting v) name.length rest
      | none => throw (.noSuchField first)

def plain : Part → String
  | .setting v => v.plain
  | .kind kind => shownKind kind

def shown : Part → String
  | .setting v => v.shown
  | .kind kind => shownKind kind

def convert (c : Char) (p : Part) : Except TemplateFault Part :=
  let text := fun s => .ok (.setting (.text s))
  if c == 's' then text (plain p)
  else if c == 'r' then text (shown p)
  else if c == 'a' then
    text (String.join ((shown p).toList.map fun c =>
      if c.toNat < 0x80 then c.toString else Text.escapeCode c.toNat))
  else .error (.unknownConversion c)

def lay (p : Part) (spec : Text) : Except TemplateFault (List CodePoint) :=
  match p with
  | .setting v => Layout.lay v spec
  | .kind kind =>
    if spec.isEmpty then .ok (CodePoint.ofText (shownKind kind).toList)
    else .error (.noFormat (if isEnumeration kind then "EnumType" else "type"))

/-- Fills in a template. The depth says how far a layout may itself hold fields. -/
def fillFrom (values : List (String × Setting)) (depth : Nat) :
    Nat → Text → Except TemplateFault (List CodePoint)
  | 0, _ => .ok []
  | _ + 1, [] => .ok []
  | fuel + 1, c :: s => do
    if c == '\x7d' then
      match s with
      | '\x7d' :: s => return .char '\x7d' :: (← fillFrom values depth fuel s)
      | _ => .error .singleClose
    else if c == '\x7b' then
      match s with
      | [] => .error .singleOpen
      | '\x7b' :: s => return .char '\x7b' :: (← fillFrom values depth fuel s)
      | s =>
        let (field, rest) ← takeField s
        let value ← lookup values field.name
        let value ← match field.conversion with
          | some c => convert c value
          | none => .ok value
        let spec ←
          if field.spec.contains '\x7b' then
            match depth with
            | 0 => .error .tooDeep
            | depth + 1 => (·.map CodePoint.toChar) <$> fillFrom values depth fuel field.spec
          else .ok field.spec
        let laid ← lay value spec
        return laid ++ (← fillFrom values depth fuel rest)
    else return .char c :: (← fillFrom values depth fuel s)

def fill (values : List (String × Setting)) (template : Text) : Except TemplateFault (List CodePoint) :=
  fillFrom values 1 template.length template

end Template

end SourceTidy
