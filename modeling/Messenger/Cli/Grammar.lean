/-
What a command line may say.

A grammar is a tree of commands.  A command has options, which are given by name in any order, and
either operands, which are given in their order, or parts, of which one has to be named.  Every
command knows how to ask for help, and one that has parts has the part `help` besides.
-/

namespace Messenger.Cli

/-- What an option stands for. -/
inductive OptionKind where
  /-- Said or not, once. -/
  | switch
  /-- Said any number of times. -/
  | counter
  /-- Said once, with a value that passes the check. -/
  | value (check : String → Bool)
  | help
  | version

/-- An option: the name under which it is looked up is its long name. -/
structure OptionSpec where
  name : String
  short : Option Char := none
  kind : OptionKind

/-- An operand; one that takes many words takes all that come, or none. -/
structure Operand where
  name : String
  many : Bool := false
  check : String → Bool := fun _ => true

inductive Grammar where
  | command (name about : String) (options : List OptionSpec) (operands : List Operand)
      (parts : List Grammar)

namespace Grammar

def name : Grammar → String
  | command name _ _ _ _ => name

def about : Grammar → String
  | command _ about _ _ _ => about

def options : Grammar → List OptionSpec
  | command _ _ options _ _ => options

def operands : Grammar → List Operand
  | command _ _ _ operands _ => operands

def parts : Grammar → List Grammar
  | command _ _ _ _ parts => parts

def helpPart : String := "help"

def hasParts (grammar : Grammar) : Bool := !grammar.parts.isEmpty

def part? (grammar : Grammar) (name : String) : Option Grammar :=
  grammar.parts.find? (·.name = name)

def long? (grammar : Grammar) (name : String) : Option OptionSpec :=
  grammar.options.find? (·.name = name)

def short? (grammar : Grammar) (letter : Char) : Option OptionSpec :=
  grammar.options.find? (·.short = some letter)

def usage (grammar : Grammar) : String :=
  let word (s : String) : String := "  " ++ s ++ "\n"
  let option (o : OptionSpec) : String :=
    word (match o.short with
      | some letter => "-" ++ letter.toString ++ ", --" ++ o.name
      | none => "--" ++ o.name)
  let operand (o : Operand) : String :=
    if o.many then " [" ++ o.name ++ "]..." else " <" ++ o.name ++ ">"
  let part (g : Grammar) : String := word (g.name ++ "  " ++ g.about)
  let rest := if grammar.hasParts then " <COMMAND>" else String.join (grammar.operands.map operand)
  grammar.about ++ "\n\nUsage: " ++ grammar.name ++ " [OPTIONS]" ++ rest ++ "\n\n"
    ++ String.join (grammar.parts.map part) ++ "\nOptions:\n"
    ++ String.join (grammar.options.map option)

end Grammar

end Messenger.Cli
