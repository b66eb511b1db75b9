import SourceTidy.Setting

/-!
# Grammars of command lines

A grammar says which arguments a command takes: options, which have names, and at most one argument
without a name.
-/

namespace SourceTidy

inductive Arity where
  | none
  | one
  | optional
  | many
  /-- The name of a command and all that follows. -/
  | command
  deriving DecidableEq, Repr

inductive Deed where
  | store
  | put (v : Setting)
  | help
  | version (text : String)
  deriving DecidableEq, Repr

structure Argument where
  names : List String := []
  target : String
  arity : Arity := .one
  deed : Deed := .store
  /-- The value of the target before the command line is read, if it has one. -/
  initial : Option Setting := some .none
  /-- The value that stands for one that is left out. -/
  fallback : Setting := .none
  label : Option String := none
  choices : List String := []
  isNumber : Bool := false
  help : String := ""
  heading : String := "options"
  commands : List (String × String) := []
  deriving DecidableEq, Repr

namespace Argument

def isOption (a : Argument) : Bool := !a.names.isEmpty

def messageName (a : Argument) : String :=
  if a.isOption then "/".intercalate a.names else a.label.getD a.target

end Argument

structure Grammar where
  program : String
  description : Option String := none
  arguments : List Argument
  closing : Option String := none
  deriving DecidableEq, Repr

namespace Grammar

def options (g : Grammar) : List Argument := g.arguments.filter (·.isOption)

def nameless (g : Grammar) : Option Argument := g.arguments.find? (!·.isOption)

def optionNames (g : Grammar) : List String := g.options.flatMap (·.names)

def option? (g : Grammar) (name : String) : Option Argument :=
  g.options.find? (·.names.contains name)

end Grammar

abbrev Values := List (String × Setting)

namespace Values

def put (target : String) (v : Setting) : Values → Values
  | [] => [(target, v)]
  | (t, u) :: rest => if t == target then (t, v) :: rest else (t, u) :: put target v rest

def offer (target : String) (v : Setting) (values : Values) : Values :=
  if (values.lookup target).isSome then values else values ++ [(target, v)]

def putAll (values : Values) (others : Values) : Values :=
  others.foldl (fun values p => put p.1 p.2 values) values

def value (values : Values) (target : String) : Setting := (values.lookup target).getD .none

end Values

/-- The end of a program before it did its work: an exit code and what is printed. -/
structure Exit where
  code : Nat
  output : String := ""
  errors : String := ""
  deriving DecidableEq, Repr

end SourceTidy
