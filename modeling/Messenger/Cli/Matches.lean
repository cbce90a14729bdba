/-
Reading a command line by a grammar.

The words are read from left to right.  A word after `--` is always an operand.  Before it, a word
that begins with two dashes is a long option, perhaps with its value after an equals sign; a word
that begins with one dash is a row of letters, and the first letter that wants a value takes the
rest of the row or, if there is none, the next word.  A word that names a part of the command
begins that part, and what follows belongs to it.

What has been said of an option or operand is taken in when the next one begins, and that is when
it is checked; so of two faults the one that is taken in first counts, and a request for help counts
unless a fault has been taken in before it.
-/
import Messenger.Cli.Grammar

namespace Messenger.Cli

inductive Stop where
  | misuse
  | help (command : Grammar)
  | version

/-- What has been said of a command: its name, and the values of its options and operands in
order; an option without a value has an empty one. -/
structure Said where
  command : String
  values : List (String × String) := []

def Said.get (said : Said) (name : String) : List String :=
  (said.values.filter (·.1 = name)).map (·.2)

inductive Pending where
  | option (spec : OptionSpec) (value : Option String)
  | operand (spec : Operand) (value : String)

/-- How far the words of a command have been read. -/
structure Reading where
  said : Said
  pending : Option Pending := none
  /-- The operands that have not been said. -/
  operands : List Operand
  /-- Whether `--` has been said. -/
  literal : Bool := false

namespace Reading

def start (grammar : Grammar) : Reading where
  said := { command := grammar.name }
  operands := grammar.operands

def note (reading : Reading) (name value : String) : Reading :=
  { reading with
    said := { reading.said with values := reading.said.values ++ [(name, value)] } }

/-- Takes in what may be said once. -/
def noteOnce (reading : Reading) (name value : String) : Except Stop Reading :=
  if (reading.said.get name).isEmpty then .ok (reading.note name value) else .error .misuse

def take (grammar : Grammar) (reading : Reading) (spec : OptionSpec) (value : Option String) :
    Except Stop Reading :=
  match spec.kind, value with
  | .switch, none => reading.noteOnce spec.name ""
  | .counter, none => .ok (reading.note spec.name "")
  | .value check, some value =>
    if check value then reading.noteOnce spec.name value else .error .misuse
  | .help, none => .error (.help grammar)
  | .version, none => .error .version
  | _, _ => .error .misuse

def flush (grammar : Grammar) (reading : Reading) : Except Stop Reading :=
  let rest := { reading with pending := none }
  match reading.pending with
  | none => .ok rest
  | some (.option spec value) => rest.take grammar spec value
  | some (.operand spec value) =>
    if spec.check value then .ok (rest.note spec.name value) else .error .misuse

/-- Begins an option; its value may follow at once or be the next word. -/
def openOption (grammar : Grammar) (reading : Reading) (spec : OptionSpec)
    (attached : Option String) : Except Stop Reading := do
  let reading ← reading.flush grammar
  match spec.kind, attached with
  | .value _, none => return { reading with pending := some (.option spec none) }
  | _, _ => reading.take grammar spec attached

/-- Reads a row of letters. -/
def letters (grammar : Grammar) (reading : Reading) : List Char → Except Stop Reading
  | [] => .ok reading
  | letter :: rest =>
    match grammar.short? letter with
    | none => .error .misuse
    | some spec =>
      match spec.kind with
      | .value _ =>
        let attached := match rest with
          | [] => none
          | '=' :: value => some (String.ofList value)
          | value => some (String.ofList value)
        reading.openOption grammar spec attached
      | _ => do (← reading.openOption grammar spec none).letters grammar rest

def long (grammar : Grammar) (reading : Reading) (word : List Char) : Except Stop Reading :=
  let name := String.ofList (word.takeWhile (· ≠ '='))
  let attached := match word.dropWhile (· ≠ '=') with
    | [] => none
    | _ :: value => some (String.ofList value)
  match grammar.long? name with
  | none => .error .misuse
  | some spec => reading.openOption grammar spec attached

def operand (grammar : Grammar) (reading : Reading) (word : String) : Except Stop Reading := do
  match reading.operands with
  | [] => throw .misuse
  | spec :: rest =>
    let reading ← reading.flush grammar
    return { reading with
      pending := some (.operand spec word)
      operands := if spec.many then spec :: rest else rest }

/-- Reads a word that names no part. -/
def word (grammar : Grammar) (reading : Reading) (word : String) : Except Stop Reading :=
  if reading.literal then reading.operand grammar word
  else match word.toList with
    | ['-', '-'] => .ok { reading with literal := true }
    | '-' :: '-' :: name => reading.long grammar name
    | '-' :: first :: rest => reading.letters grammar (first :: rest)
    | _ => match reading.pending with
      | some (.option spec none) => .ok { reading with pending := some (.option spec (some word)) }
      | _ => reading.operand grammar word

/-- Whether the next word is the value of an option. -/
def wantsValue (reading : Reading) : Bool :=
  match reading.pending with
  | some (.option _ none) => true
  | _ => false

/-- Whether the next word may name a part. -/
def seesParts (reading : Reading) : Bool := !reading.literal && !reading.wantsValue

/-- The end of a command: everything has been said that has to be. -/
def close (grammar : Grammar) (reading : Reading) (inner : List Said) : Except Stop (List Said) := do
  let reading ← reading.flush grammar
  if grammar.hasParts && inner.isEmpty then throw .misuse
  if reading.operands.any (!·.many) then throw .misuse
  return reading.said :: inner

end Reading

/-- The command that is to be explained. -/
def explained (grammar : Grammar) : List String → Stop
  | [] => .help grammar
  | word :: rest =>
    match grammar.part? word with
    | some part => explained part rest
    | none =>
      if grammar.hasParts && word = Grammar.helpPart && rest.isEmpty then .help grammar else .misuse

/-- Reads the rest of the words of a command. -/
def readWords (grammar : Grammar) (reading : Reading) : List String → Except Stop (List Said)
  | [] => reading.close grammar []
  | word :: rest =>
    if reading.seesParts && grammar.hasParts && word = Grammar.helpPart then
      .error (explained grammar rest)
    else match if reading.seesParts then grammar.part? word else none with
      | some part => do
        let inner ← readWords part (.start part) rest
        reading.close grammar inner
      | none => do readWords grammar (← reading.word grammar word) rest

/-- What the words say: the command, its part, the part of that, and so on. -/
def Grammar.read (grammar : Grammar) (words : List String) : Except Stop (List Said) :=
  readWords grammar (.start grammar) words

end Messenger.Cli
