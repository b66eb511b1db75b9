import SourceTidy.Text.Quoted

/-!
# Faults of templates

Why a template cannot be filled in.
-/

namespace SourceTidy

inductive TemplateFault where
  | singleClose
  | singleOpen
  | openInName
  | missingConversion
  | colonExpected
  | unmatchedOpen
  | closeExpected
  | tooDeep
  | tooManyDigits
  | noSuchIndex (index : Nat)
  | noSuchField (name : Text)
  | emptyAttribute
  | missingBracket
  | strayAfterBracket
  | noAttribute (kind : String) (name : Text)
  /-- A name of another value of the same enumeration. -/
  | noMember (kind : String) (name : Text)
  | noKindAttribute (kind : String) (name : Text)
  | noMemberNamed (name : Text)
  | notSubscriptable (kind : String)
  | kindNotSubscriptable (kind : String)
  | noCharacterAt
  | noItemAt
  | keyInText
  | keyInList
  | noSuchNumber (index : Nat)
  | unknownConversion (c : Char)
  | missingPrecision
  | invalidSpec (spec : Text) (kind : String)
  | twoSeparators
  | separatorWith (separator code : Char)
  | spaceInText
  | signInText
  | zeroInText
  | alternateInText
  | insetInText
  | unknownCode (code : Char) (kind : String)
  | precisionInInteger
  | zeroInInteger
  | signWithChar
  | alternateWithChar
  | noSuchChar
  | notCharNumber
  | integerTooLarge
  | precisionTooLarge
  | outOfMemory
  | noFormat (kind : String)
  deriving DecidableEq, Repr

namespace TemplateFault

/-- A character as such, or by its number if it lies outside the given limit or is a control
character or a space. -/
def showCode (limit : Nat) (c : Char) : String :=
  if 0x20 < c.toNat && c.toNat < limit then c.toString
  else "\\x" ++ String.ofList (Nat.toDigits 16 c.toNat)

def category : TemplateFault → String
  | noSuchIndex _ | noCharacterAt | noItemAt => "IndexError"
  | noSuchField _ | noSuchNumber _ => "KeyError"
  | noAttribute .. | noMember .. | noKindAttribute .. | noMemberNamed _ => "AttributeError"
  | notSubscriptable _ | kindNotSubscriptable _ | keyInText | keyInList | noFormat _ => "TypeError"
  | noSuchChar | notCharNumber | integerTooLarge => "OverflowError"
  | outOfMemory => "MemoryError"
  | _ => "ValueError"

def message : TemplateFault → String
  | singleClose => "Single '\x7d' encountered in format string"
  | singleOpen => "Single '\x7b' encountered in format string"
  | openInName => "unexpected '\x7b' in field name"
  | missingConversion => "end of string while looking for conversion specifier"
  | colonExpected => "expected ':' after conversion specifier"
  | unmatchedOpen => "unmatched '\x7b' in format spec"
  | closeExpected => "expected '\x7d' before end of string"
  | tooDeep => "Max string recursion exceeded"
  | tooManyDigits => "Too many decimal digits in format string"
  | noSuchIndex i =>
    "Replacement index " ++ toString i ++ " out of range for positional args tuple"
  | noSuchField name => Text.quote (Text.str name)
  | emptyAttribute => "Empty attribute in format string"
  | missingBracket => "Missing ']' in format string"
  | strayAfterBracket => "Only '.' or '[' may follow ']' in format field specifier"
  | noAttribute kind name => "'" ++ kind ++ "' object has no attribute '" ++ Text.str name ++ "'"
  | noMember kind name =>
    "<enum '" ++ kind ++ "'> member has no attribute " ++ Text.quote (Text.str name)
  | noKindAttribute kind name =>
    "type object '" ++ kind ++ "' has no attribute '" ++ Text.str name ++ "'"
  | noMemberNamed name => Text.str name
  | kindNotSubscriptable kind => "type '" ++ kind ++ "' is not subscriptable"
  | notSubscriptable kind => "'" ++ kind ++ "' object is not subscriptable"
  | noCharacterAt => "string index out of range"
  | noItemAt => "list index out of range"
  | keyInText => "string indices must be integers, not 'str'"
  | keyInList => "list indices must be integers or slices, not str"
  | noSuchNumber i => toString i
  | unknownConversion c => "Unknown conversion specifier " ++ showCode 0x7f c
  | missingPrecision => "Format specifier missing precision"
  | invalidSpec spec kind =>
    "Invalid format specifier '" ++ Text.str spec ++ "' for object of type '" ++ kind ++ "'"
  | twoSeparators => "Cannot specify both ',' and '_'."
  | separatorWith separator code =>
    "Cannot specify '" ++ separator.toString ++ "' with '" ++ showCode 0x80 code ++ "'."
  | spaceInText => "Space not allowed in string format specifier"
  | signInText => "Sign not allowed in string format specifier"
  | zeroInText => "Negative zero coercion (z) not allowed in string format specifier"
  | alternateInText => "Alternate form (#) not allowed in string format specifier"
  | insetInText => "'=' alignment not allowed in string format specifier"
  | unknownCode code kind =>
    "Unknown format code '" ++ showCode 0x80 code ++ "' for object of type '" ++ kind ++ "'"
  | precisionInInteger => "Precision not allowed in integer format specifier"
  | zeroInInteger => "Negative zero coercion (z) not allowed in integer format specifier"
  | signWithChar => "Sign not allowed with integer format specifier 'c'"
  | alternateWithChar => "Alternate form (#) not allowed with integer format specifier 'c'"
  | noSuchChar => "%c arg not in range(0x110000)"
  | notCharNumber => "Python int too large to convert to C long"
  | integerTooLarge => "int too large to convert to float"
  | precisionTooLarge => "precision too big"
  | outOfMemory => ""
  | noFormat kind => "unsupported format string passed to " ++ kind ++ ".__format__"

end TemplateFault

end SourceTidy
