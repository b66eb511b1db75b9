import SourceTidy.Text.Quoted

/-!
# Source code formatters

A formatter is a program that is asked for its version or for formatted source code. All that is
known of one is how it answers.
-/

namespace SourceTidy

inductive FormatterReply where
  | done (code : Int) (output : Bytes)
  | interrupted
  deriving DecidableEq, Repr

structure Formatter where
  version : FormatterReply
  format : List String → Bytes → FormatterReply

structure FormatterCall where
  command : List String
  input : Option Bytes
  deriving DecidableEq, Repr

namespace Formatter

def replacing (version : FormatterReply) (code : Int) (output : Option Bytes)
    (replacements : List (Bytes × Bytes)) : Formatter where
  version := version
  format _ data :=
    .done code (replacements.foldl (fun s r => Text.replaceAll r.1 r.2 s) (output.getD data))

def interrupting (version : FormatterReply) : Formatter where
  version := version
  format _ _ := .interrupted

def signalNames : List (Nat × String) :=
  [(1, "SIGHUP"), (2, "SIGINT"), (3, "SIGQUIT"), (4, "SIGILL"), (5, "SIGTRAP"), (6, "SIGABRT"),
    (7, "SIGBUS"), (8, "SIGFPE"), (9, "SIGKILL"), (10, "SIGUSR1"), (11, "SIGSEGV"),
    (12, "SIGUSR2"), (13, "SIGPIPE"), (14, "SIGALRM"), (15, "SIGTERM"), (16, "SIGSTKFLT"),
    (17, "SIGCHLD"), (18, "SIGCONT"), (19, "SIGSTOP"), (20, "SIGTSTP"), (21, "SIGTTIN"),
    (22, "SIGTTOU"), (23, "SIGURG"), (24, "SIGXCPU"), (25, "SIGXFSZ"), (26, "SIGVTALRM"),
    (27, "SIGPROF"), (28, "SIGWINCH"), (29, "SIGIO"), (30, "SIGPWR"), (31, "SIGSYS"),
    (34, "SIGRTMIN"), (64, "SIGRTMAX")]

/-- How a command failed, in words. A negative exit code is that of a signal. -/
def failure (command : List String) (code : Int) : String :=
  let head := "Command '" ++ Text.quoteList command ++ "' "
  if code < 0 then
    match signalNames.lookup code.natAbs with
    | some name =>
      head ++ "died with <Signals." ++ name ++ ": " ++ toString code.natAbs ++ ">."
    | none => head ++ "died with unknown signal " ++ toString code.natAbs ++ "."
  else head ++ "returned non-zero exit status " ++ toString code ++ "."

end Formatter

end SourceTidy
