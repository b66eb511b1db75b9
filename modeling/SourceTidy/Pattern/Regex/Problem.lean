import SourceTidy.Pattern.Regex.Basic
import SourceTidy.Text.Integer
import SourceTidy.Text.Quoted

/-!
# Faults of regular expressions

Why a text is not a regular expression, and where.
-/

namespace SourceTidy

inductive RegexProblem where
  | escapeAtEnd
  | badEscape (escape : Text)
  | incompleteEscape (escape : Text)
  | octalTooLarge (escape : Text)
  | missingBrace
  | undefinedName (name : Text)
  | missingName (what : String)
  | unterminatedName (terminator : Char)
  | badGroupName (name : Text)
  | badGroupNumber
  | unknownGroupName (name : Text)
  | redefinedGroup (name : Text) (number former : Nat)
  | openGroup
  | groupInLookBehind
  | invalidGroup (number : Nat)
  | unterminatedSet
  | badRange (first last : Text)
  | nothingToRepeat
  | multipleRepeat
  | leastAboveMost
  | unexpectedEnd
  | unknownExtension (text : Text)
  | unterminatedComment
  | unterminatedGroup
  | tooManyBranches
  | lateFlags
  | unknownFlag
  | missingFlagEnd
  | missingFlag
  | missingColon
  | localeFlag
  | unicodeFlag
  | incompatibleFlags
  | switchOnGlobalFlag
  | switchOffGlobalFlag
  | switchOffTypeFlag
  | switchBoth
  | unbalanced
  | lookBehindWidth
  | lookBehindTooFar
  | loopInTemplate (choice : Choice)
  deriving DecidableEq, Repr

inductive RegexFault where
  /-- A problem in a pattern, at a place in it unless it concerns the whole. -/
  | problem (pattern : Text) (what : RegexProblem) (position : Option Nat)
  | repetitionTooLarge
  | tooManyDigits (digits : Nat)
  | flagConflict (locale : Bool)
  deriving DecidableEq, Repr

namespace RegexProblem

def message : RegexProblem → String
  | escapeAtEnd => "bad escape (end of pattern)"
  | badEscape e => "bad escape " ++ Text.str e
  | incompleteEscape e => "incomplete escape " ++ Text.str e
  | octalTooLarge e => "octal escape value " ++ Text.str e ++ " outside of range 0-0o377"
  | missingBrace => "missing \x7b"
  | undefinedName n => "undefined character name " ++ Text.quote (Text.str n)
  | missingName what => "missing " ++ what
  | unterminatedName c => "missing " ++ c.toString ++ ", unterminated name"
  | badGroupName n => "bad character in group name " ++ Text.quote (Text.str n)
  | badGroupNumber => "bad group number"
  | unknownGroupName n => "unknown group name " ++ Text.quote (Text.str n)
  | redefinedGroup n number former =>
    "redefinition of group name " ++ Text.quote (Text.str n) ++ " as group " ++ toString number ++
      "; was group " ++ toString former
  | openGroup => "cannot refer to an open group"
  | groupInLookBehind => "cannot refer to group defined in the same lookbehind subpattern"
  | invalidGroup n => "invalid group reference " ++ toString n
  | unterminatedSet => "unterminated character set"
  | badRange a b => "bad character range " ++ Text.str a ++ "-" ++ Text.str b
  | nothingToRepeat => "nothing to repeat"
  | multipleRepeat => "multiple repeat"
  | leastAboveMost => "min repeat greater than max repeat"
  | unexpectedEnd => "unexpected end of pattern"
  | unknownExtension e => "unknown extension ?" ++ Text.str e
  | unterminatedComment => "missing ), unterminated comment"
  | unterminatedGroup => "missing ), unterminated subpattern"
  | tooManyBranches => "conditional backref with more than two branches"
  | lateFlags => "global flags not at the start of the expression"
  | unknownFlag => "unknown flag"
  | missingFlagEnd => "missing -, : or )"
  | missingFlag => "missing flag"
  | missingColon => "missing :"
  | localeFlag => "bad inline flags: cannot use 'L' flag with a str pattern"
  | unicodeFlag => "bad inline flags: cannot use 'u' flag with a bytes pattern"
  | incompatibleFlags => "bad inline flags: flags 'a', 'u' and 'L' are incompatible"
  | switchOnGlobalFlag => "bad inline flags: cannot turn on global flag"
  | switchOffGlobalFlag => "bad inline flags: cannot turn off global flag"
  | switchOffTypeFlag => "bad inline flags: cannot turn off flags 'a', 'u' and 'L'"
  | switchBoth => "bad inline flags: flag turned on and off"
  | unbalanced => "unbalanced parenthesis"
  | lookBehindWidth => "look-behind requires fixed-width pattern"
  | lookBehindTooFar => "looks too much behind"
  | loopInTemplate choice => "internal: unsupported template operator " ++ choice.title

end RegexProblem

namespace RegexFault

/-- The place of a problem in words: its position and, in a pattern of several lines, its line and
column. -/
def place (pattern : Text) (position : Nat) : String :=
  let head := pattern.take position
  let line := (head.filter (· == '\n')).length + 1
  let column := (head.reverse.takeWhile (· != '\n')).length + 1
  " at position " ++ toString position ++
    if pattern.contains '\n' then
      " (line " ++ toString line ++ ", column " ++ toString column ++ ")"
    else ""

def message : RegexFault → String
  | problem pattern what (some position) => what.message ++ place pattern position
  | problem _ what none => what.message
  | repetitionTooLarge => "the repetition number is too large"
  | tooManyDigits digits => Text.tooManyDigits digits
  | flagConflict false => "ASCII and UNICODE flags are incompatible"
  | flagConflict true => "ASCII and LOCALE flags are incompatible"

end RegexFault

end SourceTidy
