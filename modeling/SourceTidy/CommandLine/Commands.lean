import SourceTidy.CommandLine.Grammar
import SourceTidy.Eol
import SourceTidy.Formatting
import SourceTidy.Log
import SourceTidy.Selection
import SourceTidy.Text.Paragraph

/-!
# Commands

The commands of the program and the grammars of their command lines.
-/

namespace SourceTidy

def programName : String := "fmtcheck"

def programVersion : String := "1.5.0.dev0"

inductive Command where
  | check
  | fix
  | updateCopyright
  | dumpConfig
  deriving DecidableEq, Repr

namespace Command

def name : Command → String
  | check => "check"
  | fix => "fix"
  | updateCopyright => "update-copyright"
  | dumpConfig => "dumpcfg"

def all : List Command := [check, fix, updateCopyright, dumpConfig]

def ofName? (s : String) : Option Command := all.find? (·.name == s)

def description : Command → String
  | check =>
    "Check the conformity of source code to basic standards.\n\n
     Available checks include: end of line (EOL) consistency, presence of trailing spaces at the
     end of a source code line, presence of tabs, conformity to the ASCII encoding, maximum line
     length, presence of an End Of Line (EOL) character before the End Of File (EOF), presence of a
     copyright statement is source files, file permissions (source files shall not be executable),
     formatting according clang-format standards.\n\n
     By default the tool prints how many files fail the check, for each of the selected checks."
  | fix =>
    "Fix basic formatting issues.\n\n
     Available fixes include: end of line (EOL) consistency, trailing spaces removal, substitution
     of tabs with spaces, ensuring that an End Of Line (EOL) character is always present before the
     End Of File (EOF), file permissions (source files shall not be executable), reformat according
     to clang-format standards."
  | updateCopyright =>
    "Update or add the copyright statement is source files.\n\n
     The copyright statement in source files is updated to the current year (if not differently
     specified by the user).\n\n
     If a source file does not have a copyright statement it can be added by providing a suiteble
     template."
  | dumpConfig =>
    "Dump to screen the default configuration (in .INI format).\n\n
     The dumped configuration can be used to write a custom configuration file and avoid to pass
     options via command line."

def summary (c : Command) : String := Text.str (Text.summary c.description.toList)

end Command

namespace Commands

def switchOff (name target help : String) : Argument where
  names := [name]
  target := target
  arity := .none
  deed := .put (.flag false)
  initial := some (.flag true)
  help := help

def putting (names : List String) (target : String) (v : Setting) (initial : Setting)
    (heading help : String) : Argument where
  names := names
  target := target
  arity := .none
  deed := .put v
  initial := some initial
  heading := heading
  help := help

def helpOption : Argument where
  names := ["-h", "--help"]
  target := "help"
  arity := .none
  deed := .help
  initial := none
  help := "show this help message and exit"

def backupOption : Argument :=
  putting ["-b", "--backup"] "backup" (.text ".bak") (.flag false) "backup"
    "backup original file contents on a file with the same name + \".bak\". Default no backup is
     performed."

def levelOptions : List Argument := [
  { names := ["--loglevel"]
    target := "loglevel"
    initial := some (.text Level.info.name)
    choices := Level.all.map (·.name)
    heading := "logging"
    help := "logging level (default: INFO)" },
  putting ["-q", "--quiet"] "loglevel" (.text Level.error.name) .none "logging"
    "suppress standard output messages, only errors are printed to screen",
  putting ["-v", "--verbose"] "loglevel" (.text Level.info.name) .none "logging"
    "print verbose output messages",
  putting ["-V", "--very-verbose"] "loglevel" (.text Level.verbose.name) .none "logging"
    "print more verbose output messages (also prints offending lines)",
  putting ["-d", "--debug"] "loglevel" (.text Level.debug.name) .none "logging"
    "print debug messages"]

def patternOptions : List Argument := [
  { names := ["--patterns"]
    target := "path_patterns"
    heading := "source tree scanning"
    help := "comma separated list of glob pattern to scan. Default: " ++
      ",".intercalate Patterns.usualNames },
  { names := ["--skip"]
    target := "skip_path_patterns"
    heading := "source tree scanning"
    help := "comma separated list of glob pattern to skip. Default: " ++
      ",".intercalate Patterns.usualSkippedNames },
  putting ["--no-skip"] "skip_path_patterns" (.texts []) .none "source tree scanning"
    "skip no file during the scanning of the directory tree"]

def configOption : Argument where
  names := ["-c", "--config"]
  target := "config"
  heading := "config"
  help := "path to the configuration file"

def paths : Argument where
  target := "paths"
  arity := .many
  label := some "PATH"
  heading := "positional arguments"
  help := "root of the source tree to scan"

def walkArguments : List Argument := levelOptions ++ patternOptions ++ [configOption, paths]

def formatterOption (help : String) : Argument where
  names := ["--clang-format"]
  target := "clang_format"
  arity := .optional
  fallback := .text Formatting.usualProgram
  label := some "CLANG-FORMAT EXECUTABLE"
  help := help ++ " The path to the \"clang-format\" executable can be optionally specified. Please
    remember to use the \"--\" separator before positional arguments."

def checkArguments : List Argument := [
  helpOption,
  switchOff "--no-tabs" "check_tabs"
    "disable checks on the presence of tabs in the source code (default: False)",
  switchOff "--no-eol" "check_eol"
    "disable checks on the EOL consistency (default: False). N.B. the system EOL is used as
     reference",
  switchOff "--no-trailing" "check_trailing"
    "disable checks on trailing spaces i.e. white spaces at the end of line (default: False)",
  switchOff "--no-encoding" "check_encoding"
    "disable checks on text encoding: source code that is not pure ASCII is considered not valid
     (default: False)",
  switchOff "--no-eof" "check_eol_at_eof"
    "disable checks on the presence of an EOL character at the end of the file (default: False)",
  switchOff "--no-relative-include" "check_relative_include"
    "disable checks on the presence of C/C++ \"#include\" statements with relative path (default:
     False)",
  switchOff "--no-copyright" "check_copyright"
    "disable checks on the presence of the copyright line is source files (default: False)",
  switchOff "--no-mode" "check_mode"
    "disable checks on file mode bits i.e. permissions (default: False)",
  formatterOption "checks formatting with clang-format (default: not check).",
  { names := ["-l", "--line-length"]
    target := "maxlinelen"
    initial := some (.int 0)
    isNumber := true
    help := "set the maximum line length, if not set (default) disable checks on line length" },
  putting ["-f", "--failfast"] "failfast" (.flag true) (.flag false) "options"
    "exit immediately as soon as a check fails"] ++ walkArguments

def fixArguments : List Argument := [
  helpOption,
  { names := ["--eol"]
    target := "eol"
    initial := some (.eol .native)
    choices := Eol.byName.map (·.1)
    help := "output end of line (default: native)" },
  { names := ["--tabsize"]
    target := "tabsize"
    initial := some (.int 4)
    isNumber := true
    help := "specify the number of blanks to be used to replace each tab (default: 4). To disable
      tab substitution set tab size to 0" },
  switchOff "--no-trailing" "fix_trailing"
    "do not fix trailing spaces i.e. white spaces at the end of line (default: False)",
  switchOff "--no-eof" "fix_eof"
    "do not fix missing EOL characters at the end of the file (default: False)",
  switchOff "--no-mode" "fix_mode"
    "do not fix file mode bits i.e. permissions (default: False)",
  formatterOption "fix formatting using clang-format (default: disabled).",
  backupOption] ++ walkArguments

def updateArguments (currentYear : Int) : List Argument := [
  helpOption,
  { names := ["-t", "--template"]
    target := "copyright_template_path"
    help := "copyright statement template file. The specification of a template is the only way to
      enable the function that adds a copyright statement in source file where it is missing.
      Please note that it is possible to specify only one template, and it shall contain valid code
      (or comments) for all files it is applied to. For this reason it is not always possible to
      add the copyright template to files written in different languages (e.g. C++ and Pyhton),
      otherwise the operation will produce invalid source files. All the occurrences of the marker
      \"\x7byear\x7d\" in the template will be replaced by the specified year." },
  switchOff "--no-update" "update"
    "disable the update of the date in existing copyright lines (default: False)",
  { names := ["-y", "--year"]
    target := "year"
    isNumber := true
    help := "specify the last year covered by the copyright (default: " ++ toString currentYear ++
      ")" },
  backupOption] ++ walkArguments

def dumpArguments : List Argument := [
  helpOption,
  putting ["-d", "--debug"] "loglevel" (.int Level.debug.number) .none "options"
    "enable debug output"]

def arguments (currentYear : Int) : Command → List Argument
  | .check => checkArguments
  | .fix => fixArguments
  | .updateCopyright => updateArguments currentYear
  | .dumpConfig => dumpArguments

def grammar (currentYear : Int) (program : String) (c : Command) : Grammar where
  program := program
  description := some c.description
  arguments := arguments currentYear c

def program : Grammar where
  program := programName
  description := some
    "Ensure the source code conformity to basic formatting standards. The tool provides
     sub-commands to \"check\" the conformity of all files in a source tree to basic formatting
     standards, to \"fix\" common formatting mistakes, and also to set and update the copyright
     statement (\"update-copyright\" sub-command) in source files."
  arguments := [
    helpOption,
    { names := ["--version"]
      target := "version"
      arity := .none
      deed := .version (programName ++ " v" ++ programVersion)
      initial := none
      help := "show program's version number and exit" },
    { target := "command"
      arity := .command
      choices := Command.all.map (·.name)
      heading := "sub-commands"
      commands := Command.all.map fun c => (c.name, c.summary) }]
  closing := some "Copyright (C) 2017-2019 Antonio Valentino"

end Commands

end SourceTidy
