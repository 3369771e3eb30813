import Cabinet.Column.Type
import Cabinet.Number.Reading
import Cabinet.Value

/-!
Arguments of commands: what a word may stand for, which words a command takes, and by which flags
it is varied.
-/

namespace Cabinet.CommandLine

/-- Why reading ends early: help is asked for, or there is a mistake. -/
inductive Exit where
  | help
  | mistake
  deriving DecidableEq, Repr

def Exit.status : Exit → Nat
  | help => 0
  | mistake => 2

inductive ArgumentKind where
  | text
  | integer
  | visibility
  | type
  deriving DecidableEq, Repr

inductive Argument where
  | text (s : String)
  | integer (n : Int)
  | truth (b : Bool)
  deriving DecidableEq, Repr

/-- Arguments by the names of their places. A place that takes many words has many arguments. -/
abbrev Arguments := Fields (List Argument)

/-- The argument that a word is. -/
def ArgumentKind.read? : ArgumentKind → String → Option Argument
  | text, s => some (.text s)
  | integer, s => (Text.integer? s.toList).map .integer
  | visibility, s =>
    if s = "hidden" then some (.truth true)
    else if s = "visible" then some (.truth false)
    else none
  | type, s => if (ColumnType.ofLabel? s).isSome then some (.text s) else none

namespace Argument

def text? : Argument → Option String
  | text s => some s
  | _ => none

def integer? : Argument → Option Int
  | integer n => some n
  | _ => none

end Argument

namespace Arguments

/-- The texts of a place. -/
def texts (args : Arguments) (name : String) : List String :=
  ((args.get? name).getD []).filterMap Argument.text?

def text? (args : Arguments) (name : String) : Option String :=
  (args.texts name).head?

def text (args : Arguments) (name : String) : String :=
  (args.text? name).getD ""

def integer? (args : Arguments) (name : String) : Option Int :=
  (((args.get? name).getD []).filterMap Argument.integer?).head?

def integer (args : Arguments) (name : String) : Int :=
  (args.integer? name).getD 0

/-- Whether a flag is set. -/
def isSet (args : Arguments) (name : String) : Bool :=
  args.get? name == some [.truth true]

/-- Adds an argument after those of a place. -/
def add (name : String) (a : Argument) (args : Arguments) : Arguments :=
  args.put name (((args.get? name).getD []) ++ [a])

end Arguments

/-- How many words a place takes: one, any number, at least one, or all that follow, whatever they
look like. -/
inductive Arity where
  | one
  | any
  | some
  | rest
  deriving DecidableEq, Repr

/-- A place for words. -/
structure Slot where
  name : String
  kind : ArgumentKind := .text
  arity : Arity := .one
  deriving DecidableEq, Repr

/-- A flag, with its letter if it has one. A flag with a kind takes a word of that kind. -/
structure Flag where
  name : String
  letter? : Option Char := none
  kind? : Option ArgumentKind := none
  deriving DecidableEq, Repr

/-- Asks for help; every command knows it. -/
def helpFlag : Flag where
  name := "help"
  letter? := some 'h'

end Cabinet.CommandLine
