import SourceTidy.FileTree.Path
import SourceTidy.Formatter
import SourceTidy.Ini.Basic
import SourceTidy.Pattern.Regex.Problem
import SourceTidy.Setting
import SourceTidy.Template.Problem
import SourceTidy.Text.Encoding.Basic

/-!
# Faults

Everything that can stop an operation. A fault is its cause, which `Fault.message` puts into words.
-/

namespace SourceTidy

/-- A setting of a kind with which an operation cannot work. Kinds are given by name. -/
inductive KindFault where
  | textToBytes
  | linesOfBytes
  | textPatternOnBytes
  | bytesPatternOnText
  | bytesToTextFile
  | notText (kind : String)
  | notCount (kind : String)
  | notNumber (kind : String)
  | notYear (kind : String)
  | notLength (kind : String)
  | notEncodingName (kind : String)
  | notProgram (kind : String)
  | notList (kind : String)
  | notJoinable
  | notJoinableItem (index : Nat) (kind : String)
  | noPattern (kind : String)
  | notPath (kind : String)
  | unknownOption (title name : String)
  | leftOption (name : String)
  /-- An option with the name that a tool has for itself. -/
  | ownOption (title : String)
  /-- A level of the log that is not registered. -/
  | noLevel
  | notLevel (shown : String)
  deriving DecidableEq, Repr

inductive ValueFault where
  | notEol (v : Setting)
  | notReadMode (v : Setting)
  | unexpectedEol (v : Setting)
  | illegalNewline (s : String)
  | invalidOpenMode (letters : String)
  | notInteger (s : String)
  | tooManyDigits (digits : Nat)
  | notANumber
  | notBoolean (s : String)
  | notLevel (s : String)
  | unknownLevel (s : String)
  | unexpectedCommand (v : Setting)
  /-- An argument that is not on the command line. -/
  | missingArgument
  deriving DecidableEq, Repr

inductive FileNumberFault where
  /-- No file with the number is open. Some messages show the number. -/
  | notOpen (shown : Option Int)
  | negative
  | tooGreat
  | tooSmall
  deriving DecidableEq, Repr

inductive Fault where
  | path (problem : PathProblem) (path : String)
  | linking (problem : PathProblem) (target path : String)
  /-- A file that would be moved over another one in a directory. -/
  | destinationExists (path : String)
  | noDirectory (path : String)
  | fileNumber (f : FileNumberFault)
  | undecodable (u : Undecodable)
  | unencodable (u : Text.Unencodable)
  | unknownEncoding (name : String)
  | notTextEncoding (name : String)
  | encoding (name : String) (f : EncodingFault)
  | nullInEncoding
  | regex (f : RegexFault)
  | kind (f : KindFault)
  | value (f : ValueFault)
  | noProperty (owner name : String)
  | noEolName (name : String)
  | template (f : TemplateFault)
  | ini (f : IniFault)
  | countTooLarge
  | infiniteInteger
  | outOfMemory
  | formatterFailed (command : List String) (code : Int)
  | interrupted
  /-- The log lacks a level that the command line offers. -/
  | levelNotRegistered
  deriving DecidableEq, Repr

namespace PathProblem

def category : PathProblem → String
  | notFound => "FileNotFoundError"
  | notDirectory => "NotADirectoryError"
  | isDirectory => "IsADirectoryError"
  | occupied => "FileExistsError"
  | tooManyLinks | nameTooLong => "OSError"
  | nullInPath => "ValueError"

/-- The problem in words, with what it concerns if the system reports it. -/
def message (p : PathProblem) (what : String) : String :=
  match p.code? with
  | some n => "[Errno " ++ toString n ++ "] " ++ p.description ++ ": " ++ what
  | none => p.description

end PathProblem

namespace KindFault

def message : KindFault → String
  | textToBytes => "can't concat str to bytes"
  | linesOfBytes => "initial_value must be str or None, not bytes"
  | textPatternOnBytes => "cannot use a string pattern on a bytes-like object"
  | bytesPatternOnText => "cannot use a bytes pattern on a string-like object"
  | bytesToTextFile => "write() argument must be str, not bytes"
  | notText kind => "can only concatenate str (not \"" ++ kind ++ "\") to str"
  | notCount kind => "can't multiply sequence by non-int of type '" ++ kind ++ "'"
  | notNumber kind =>
    "int() argument must be a string, a bytes-like object or a real number, not '" ++ kind ++ "'"
  | notYear kind => "%d format: a real number is required, not " ++ kind
  | notLength kind => "'>' not supported between instances of 'int' and '" ++ kind ++ "'"
  | notEncodingName kind =>
    "decode() argument 'encoding' must be str, not " ++ (if kind == "NoneType" then "None" else kind)
  | notProgram kind => "expected str, bytes or os.PathLike object, not " ++ kind
  | notList kind => "'" ++ kind ++ "' object is not iterable"
  | notJoinable => "can only join an iterable"
  | notJoinableItem index kind =>
    "sequence item " ++ toString index ++ ": expected str instance, " ++ kind ++ " found"
  | noPattern kind => "object of type '" ++ kind ++ "' has no len()"
  | notPath kind => "stat: path should be string, bytes, os.PathLike or integer, not " ++ kind
  | unknownOption title name =>
    title ++ ".__init__() got an unexpected keyword argument '" ++ name ++ "'"
  | leftOption name => "__init__() got an unexpected keyword argument " ++ Text.quote name
  | ownOption title => title ++ ".__init__() got multiple values for argument 'self'"
  | noLevel => "level must be an integer"
  | notLevel shown => "Level not an integer or a valid string: " ++ shown

end KindFault

namespace ValueFault

def quotedLimit : Nat := 200

def message : ValueFault → String
  | notEol v => v.shown ++ " is not a valid Eol"
  | notReadMode v => v.shown ++ " is not a valid Mode"
  | unexpectedEol v => "unexpected end of line: " ++ v.shown
  | illegalNewline s => "illegal newline value: " ++ s
  | invalidOpenMode letters => "invalid mode: '" ++ letters ++ "'"
  | notInteger s =>
    "invalid literal for int() with base 10: " ++ String.ofList ((Text.quote s).toList.take quotedLimit)
  | tooManyDigits digits => Text.tooManyDigits digits
  | notANumber => "cannot convert float NaN to integer"
  | notBoolean s => "Not a boolean: " ++ s
  | notLevel s => "invalid log level: " ++ Text.quote s
  | unknownLevel s => "Unknown level: " ++ Text.quote s
  | unexpectedCommand v => "unexpected command: " ++ v.shown
  | missingArgument => "list.remove(x): x not in list"

end ValueFault

namespace FileNumberFault

def category : FileNumberFault → String
  | notOpen _ => "OSError"
  | negative => "ValueError"
  | tooGreat | tooSmall => "OverflowError"

def message : FileNumberFault → String
  | notOpen shown =>
    "[Errno 9] Bad file descriptor" ++
      match shown with
      | some n => ": " ++ toString n
      | none => ""
  | negative => "negative file descriptor"
  | tooGreat => "fd is greater than maximum"
  | tooSmall => "fd is less than minimum"

end FileNumberFault

namespace Fault

def category : Fault → String
  | path problem _ | linking problem _ _ => problem.category
  | destinationExists _ => "Error"
  | noDirectory _ => "FileNotFoundError"
  | fileNumber f => f.category
  | undecodable _ => "UnicodeDecodeError"
  | unencodable _ => "UnicodeEncodeError"
  | unknownEncoding _ | notTextEncoding _ => "LookupError"
  | encoding .. => "UnicodeError"
  | nullInEncoding => "ValueError"
  | regex (.problem ..) => "error"
  | regex .repetitionTooLarge => "OverflowError"
  | regex (.flagConflict _) | regex (.tooManyDigits _) => "ValueError"
  | kind _ => "TypeError"
  | value _ => "ValueError"
  | noProperty .. => "AttributeError"
  | noEolName _ => "KeyError"
  | template f => f.category
  | ini f => f.category
  | countTooLarge | infiniteInteger => "OverflowError"
  | outOfMemory => "MemoryError"
  | formatterFailed .. => "CalledProcessError"
  | interrupted => "KeyboardInterrupt"
  | levelNotRegistered => "AssertionError"

def message : Fault → String
  | path problem p => problem.message (Text.quote p)
  | linking problem target p => problem.message (Text.quote target ++ " -> " ++ Text.quote p)
  | destinationExists p => "Destination path '" ++ p ++ "' already exists"
  | noDirectory p => "Directory does not exist: " ++ p
  | fileNumber f => f.message
  | undecodable u => u.message
  | unencodable u => u.message
  | unknownEncoding name => "unknown encoding: " ++ name
  | notTextEncoding name =>
    "'" ++ name ++ "' is not a text encoding; use codecs.decode() to handle arbitrary codecs"
  | encoding name f =>
    "decoding with '" ++ name ++ "' codec failed (UnicodeError: " ++ f.message ++ ")"
  | nullInEncoding => "embedded null character"
  | regex f => f.message
  | kind f => f.message
  | value f => f.message
  | noProperty owner name => "'" ++ owner ++ "' object has no attribute '" ++ name ++ "'"
  | noEolName name => Text.quote name
  | template f => f.message
  | ini f => f.message
  | countTooLarge => "cannot fit 'int' into an index-sized integer"
  | infiniteInteger => "cannot convert float infinity to integer"
  | outOfMemory => ""
  | formatterFailed command code => Formatter.failure command code
  | interrupted => ""
  | levelNotRegistered => ""

end Fault

end SourceTidy
