import SourceTidy.Text.Case
import SourceTidy.Text.Quoted
import SourceTidy.Text.Space

/-!
# Settings files

A settings file has sections with named options, in the order in which they were written. Options of
the section `DEFAULT` are options of every section.
-/

namespace SourceTidy

abbrev IniSection := List (String × String)

structure Ini where
  defaults : IniSection := []
  sections : List (String × IniSection) := []
  deriving DecidableEq, Repr

inductive IniFault where
  | missingHeader (source : String) (number : Nat) (line : String)
  | unreadable (source : String) (lines : List (Nat × String))
  | sectionExists (name : String)
  | duplicateSection (source : String) (number : Nat) (name : String)
  | duplicateOption (source : String) (number : Nat) (sectionName name : String)
  | noSection (name : String)
  | noOption (sectionName name : String)
  | unknownReference (sectionName name raw reference : String)
  | badReference (sectionName name : String) (rest : String)
  | strayPercent (sectionName name : String) (rest : String)
  | tooDeep (sectionName name raw : String)
  | badValue (value : String) (position : Nat)
  deriving DecidableEq, Repr

namespace IniFault

def category : IniFault → String
  | missingHeader .. => "MissingSectionHeaderError"
  | unreadable .. => "ParsingError"
  | sectionExists _ | duplicateSection .. => "DuplicateSectionError"
  | duplicateOption .. => "DuplicateOptionError"
  | noSection _ => "NoSectionError"
  | noOption .. => "NoOptionError"
  | unknownReference .. => "InterpolationMissingOptionError"
  | badReference .. | strayPercent .. => "InterpolationSyntaxError"
  | tooDeep .. => "InterpolationDepthError"
  | badValue .. => "ValueError"

def depthLimit : Nat := 10

def lineNumber (n : Nat) : String := "[line " ++ Text.padLeft 2 (toString n) ++ "]"

def message : IniFault → String
  | missingHeader source number line =>
    "File contains no section headers.\nfile: " ++ Text.quote source ++ ", line: " ++
      toString number ++ "\n" ++ Text.quote line
  | unreadable source lines =>
    "Source contains parsing errors: " ++ Text.quote source ++
      String.join (lines.map fun l => "\n\t" ++ lineNumber l.1 ++ ": " ++ Text.quote l.2)
  | sectionExists name => "Section " ++ Text.quote name ++ " already exists"
  | duplicateSection source number name =>
    "While reading from " ++ Text.quote source ++ " " ++ lineNumber number ++ ": section " ++
      Text.quote name ++ " already exists"
  | duplicateOption source number sectionName name =>
    "While reading from " ++ Text.quote source ++ " " ++ lineNumber number ++ ": option " ++
      Text.quote name ++ " in section " ++ Text.quote sectionName ++ " already exists"
  | noSection name => "No section: " ++ Text.quote name
  | noOption sectionName name =>
    "No option " ++ Text.quote name ++ " in section: " ++ Text.quote sectionName
  | unknownReference sectionName name raw reference =>
    "Bad value substitution: option " ++ Text.quote name ++ " in section " ++
      Text.quote sectionName ++ " contains an interpolation key " ++ Text.quote reference ++
      " which is not a valid option name. Raw value: " ++ Text.quote raw
  | badReference _ _ rest => "bad interpolation variable reference " ++ Text.quote rest
  | strayPercent _ _ rest =>
    "'%' must be followed by '%' or '(', found: " ++ Text.quote rest
  | tooDeep sectionName name raw =>
    "Recursion limit exceeded in value substitution: option " ++ Text.quote name ++
      " in section " ++ Text.quote sectionName ++
      " contains an interpolation key which cannot be substituted in " ++ toString depthLimit ++
      " steps. Raw value: " ++ Text.quote raw
  | badValue value position =>
    "invalid interpolation syntax in " ++ Text.quote value ++ " at position " ++ toString position

end IniFault

namespace Ini

/-- The section whose options are options of every section. -/
def defaultName : String := "DEFAULT"

def optionName (name : String) : String := String.ofList (Text.toLower name.toList)

/-- Writes a value for a name in a list of pairs: in place, or at the end. -/
def putPair {α : Type} (name : String) (value : α) : List (String × α) → List (String × α)
  | [] => [(name, value)]
  | (n, v) :: rest => if n == name then (n, value) :: rest else (n, v) :: putPair name value rest

/-- Whether there is a section. The one for defaults does not count. -/
def hasSection (ini : Ini) (name : String) : Bool := (ini.sections.lookup name).isSome

def options (ini : Ini) (sectionName : String) : IniSection :=
  let own := (ini.sections.lookup sectionName).getD []
  own ++ ini.defaults.filter fun d => (own.lookup d.1).isNone

def raw? (ini : Ini) (sectionName name : String) : Option String :=
  (((ini.sections.lookup sectionName).getD []).lookup name).or (ini.defaults.lookup name)

def hasOption (ini : Ini) (sectionName name : String) : Bool :=
  (ini.raw? sectionName name).isSome

/-- The name in a reference, for a text that follows a percent sign and a parenthesis, and the text
after the reference. -/
def takeReference? (s : Text) : Option (Text × Text) :=
  let name := s.takeWhile (· != ')')
  if name.isEmpty then none
  else match s.drop name.length with
    | ')' :: 's' :: rest => some (name, rest)
    | _ => none

/-- Replaces the references in a value. The values referred to go through `nested`. -/
def expandWith (ini : Ini) (sectionName name : String) (nested : Text → Except IniFault Text) :
    Nat → Text → Except IniFault Text
  | 0, _ => .ok []
  | _ + 1, [] => .ok []
  | fuel + 1, c :: s => do
    if c != '%' then return c :: (← expandWith ini sectionName name nested fuel s)
    else match s with
      | '%' :: s => return '%' :: (← expandWith ini sectionName name nested fuel s)
      | '(' :: s =>
        match takeReference? s with
        | none => .error (.badReference sectionName name (Text.str ('%' :: '(' :: s)))
        | some (reference, rest) =>
          let reference := optionName (Text.str reference)
          match ini.raw? sectionName reference with
          | none =>
            .error (.unknownReference sectionName name ((ini.raw? sectionName name).getD "") reference)
          | some value =>
            let value ← if value.toList.contains '%' then nested value.toList else .ok value.toList
            return value ++ (← expandWith ini sectionName name nested fuel rest)
      | s => .error (.strayPercent sectionName name (Text.str ('%' :: s)))

def expand (ini : Ini) (sectionName name : String) : Nat → Text → Except IniFault Text
  | 0, _ => .error (.tooDeep sectionName name ((ini.raw? sectionName name).getD ""))
  | depth + 1, value =>
    expandWith ini sectionName name (expand ini sectionName name depth) value.length value

def get (ini : Ini) (sectionName name : String) : Except IniFault String :=
  match ini.raw? sectionName name with
  | none =>
    if ini.hasSection sectionName then .error (.noOption sectionName name)
    else .error (.noSection sectionName)
  | some value => Text.str <$> expand ini sectionName name IniFault.depthLimit value.toList

def values (ini : Ini) (sectionName : String) : Except IniFault (List String) :=
  (ini.options sectionName).mapM fun option => ini.get sectionName option.1

def addSection (ini : Ini) (name : String) : Except IniFault Ini :=
  if ini.hasSection name then .error (.sectionExists name)
  else .ok { ini with sections := ini.sections ++ [(name, [])] }

/-- A value without escaped percent signs and without references. -/
def bareValue : Nat → Text → Text
  | 0, _ => []
  | _ + 1, [] => []
  | fuel + 1, c :: s =>
    if c != '%' then c :: bareValue fuel s
    else match s with
      | '(' :: s' =>
        match takeReference? s' with
        | some (_, rest) => bareValue fuel rest
        | none => c :: bareValue fuel s
      | s => c :: bareValue fuel s

def checkValue (value : String) : Except IniFault Unit :=
  let bare := Text.replaceAll ['%', '%'] [] value.toList
  let bare := bareValue bare.length bare
  if bare.contains '%' then .error (.badValue value (bare.findIdx (· == '%'))) else .ok ()

def set (ini : Ini) (sectionName name value : String) : Except IniFault Ini := do
  checkValue value
  let name := optionName name
  if sectionName.isEmpty || sectionName == defaultName then
    return { ini with defaults := putPair name value ini.defaults }
  else match ini.sections.lookup sectionName with
    | none => .error (.noSection sectionName)
    | some options =>
      return { ini with sections := putPair sectionName (putPair name value options) ini.sections }

def loadSection (ini : Ini) (sectionName : String) (options : IniSection) : Except IniFault Ini :=
  let ini :=
    if sectionName == defaultName || ini.hasSection sectionName then ini
    else { ini with sections := ini.sections ++ [(sectionName, [])] }
  options.foldlM (fun ini option => ini.set sectionName option.1 option.2) ini

def load (ini : Ini) (sections : List (String × IniSection)) : Except IniFault Ini :=
  sections.foldlM (fun ini s => ini.loadSection s.1 s.2) ini

/-- A section as it is written: further lines of a value are indented. -/
def writeSection (name : String) (options : IniSection) : Text :=
  ("[" ++ name ++ "]\n").toList ++
    options.flatMap (fun option =>
      option.1.toList ++ " = ".toList ++
        option.2.toList.flatMap (fun c => if c == '\n' then ['\n', '\t'] else [c]) ++ ['\n']) ++
    ['\n']

def write (ini : Ini) : Text :=
  (if ini.defaults.isEmpty then [] else writeSection defaultName ini.defaults) ++
    ini.sections.flatMap fun s => writeSection s.1 s.2

end Ini

end SourceTidy
