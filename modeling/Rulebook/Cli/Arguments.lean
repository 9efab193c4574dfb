/-
**Arguments of a command.**

After the name of a command come options and operands, in any order.  An option has a name after
two hyphens and perhaps a letter after one; its value follows an equals sign or is the next
argument, and after the letter it may follow at once.  After an argument of two hyphens there are
operands only.

Main definitions:

* `Rulebook.Cli.Parameter`, `Rulebook.Cli.Arity` — the options of a command;
* `Rulebook.Cli.Arguments`, `Rulebook.Cli.Arguments.read?` — what was given, and reading it.
-/

import Rulebook.Text.Search

set_option autoImplicit false

namespace Rulebook.Cli

/-- How many values an option takes. -/
inductive Arity where
  /-- None: it is there or not. -/
  | switch
  /-- One, and it is given once at most. -/
  | once
  /-- One each time that it is given. -/
  | many
  deriving DecidableEq, Repr

/-- An option of a command. -/
structure Parameter where
  /-- The name after two hyphens. -/
  name : String
  /-- How many values it takes. -/
  arity : Arity
  /-- The letter after one hyphen. -/
  letter : Option Char := none
  deriving DecidableEq, Repr

/-- The options and operands that were given. -/
structure Arguments where
  /-- The options by name with their values, which are empty for switches. -/
  options : List (String × String)
  /-- The operands. -/
  operands : List String
  deriving DecidableEq, Repr

/-! ### One argument -/

/-- What an argument is. -/
inductive Argument where
  /-- The end of the options. -/
  | separator
  /-- An option by its name, perhaps with its value. -/
  | named (name : String) (value : Option String)
  /-- An option by its letter, perhaps with its value. -/
  | lettered (letter : Char) (value : Option String)
  /-- An operand. -/
  | operand
  deriving DecidableEq, Repr

/-- The value after a letter, which may have an equals sign in front. -/
def valueAfterLetter : List Char → Option String
  | [] => none
  | '=' :: value => some (String.ofList value)
  | value => some (String.ofList value)

/-- What an argument is. -/
def Argument.ofText (text : String) : Argument :=
  match text.toList with
  | ['-', '-'] => .separator
  | '-' :: '-' :: rest =>
    match Text.splitFirst ['='] rest with
    | some (name, value) => .named (String.ofList name) (some (String.ofList value))
    | none => .named (String.ofList rest) none
  | '-' :: letter :: rest => .lettered letter (valueAfterLetter rest)
  | _ => .operand

/-- The option of an argument, and the value that stands in it. -/
def Argument.option? (parameters : List Parameter) (argument : Argument) :
    Option (Parameter × Option String) :=
  match argument with
  | .named name value => (parameters.find? (·.name == name)).map fun p => (p, value)
  | .lettered letter value => (parameters.find? (·.letter == some letter)).map fun p => (p, value)
  | _ => none

/-! ### All arguments -/

namespace Arguments

/-- One more option in front. -/
def withOption (name value : String) (given : Arguments) : Arguments :=
  { given with options := (name, value) :: given.options }

/-- One more operand in front. -/
def withOperand (text : String) (given : Arguments) : Arguments :=
  { given with operands := text :: given.operands }

/-- Reads arguments, whether or not options are repeated. -/
def readAll? (parameters : List Parameter) : List String → Option Arguments
  | [] => some ⟨[], []⟩
  | text :: rest =>
    match Argument.ofText text with
    | .separator => some ⟨[], rest⟩
    | .operand => (readAll? parameters rest).map (withOperand text)
    | argument =>
      match argument.option? parameters with
      | none => none
      | some (p, some value) =>
        if p.arity = .switch then none else (readAll? parameters rest).map (withOption p.name value)
      | some (p, none) =>
        if p.arity = .switch then (readAll? parameters rest).map (withOption p.name "")
        else
          match rest with
          | [] => none
          | value :: rest =>
            if Argument.ofText value = .operand then
              (readAll? parameters rest).map (withOption p.name value)
            else none

/-- The values of an option, in order. -/
def values (given : Arguments) (name : String) : List String :=
  (given.options.filter fun option => option.1 == name).map Prod.snd

/-- The value of an option. -/
def value? (given : Arguments) (name : String) : Option String := (given.values name).head?

/-- Whether an option is given. -/
def has (given : Arguments) (name : String) : Bool := !(given.values name).isEmpty

/-- Whether an option is given as often as it may be. -/
def respects (given : Arguments) (p : Parameter) : Bool :=
  p.arity == .many || decide ((given.values p.name).length ≤ 1)

/-- Reads arguments; none if they do not fit the options of the command. -/
def read? (parameters : List Parameter) (texts : List String) : Option Arguments :=
  (readAll? parameters texts).filter fun given => parameters.all given.respects

/-- A path that is the value of an option or else of a variable of the environment; none if it is
given but empty. -/
def path? (given : Arguments) (environment : List (String × String)) (name : String)
    (key : Option String) : Option (Option String) :=
  match (given.value? name).or (key.bind fun k => environment.lookup k) with
  | some "" => none
  | path => some path

end Arguments

end Rulebook.Cli
