/-
The commands of the program, and the grammar of its command line.
-/
import Messenger.Cli.Matches
import Messenger.Ids

namespace Messenger.Cli

inductive Command where
  | init (identity : String) (server : Option String) (noEncryption : Bool)
  | info
  | send (peer text : String)
  | queueList (all : Bool)
  | queueRetry (id : MessageId)
  | queueRetryAll
  | queueScan (peer : Option String) (force : Bool)
  | threadList
  | threadShow (peer : String)
  | groupCreate (group : String) (people : List String) (subject : Option String)
  | groupAdd (group : String) (people : List String)
  | groupRemove (group : String) (people : List String)
  | groupLeave (group : String)
  | groupList
  | contactAdd (number : String) (name lookupKey : Option String)
  | contactBook
  | contactList
deriving DecidableEq

/-- A command with what holds for all commands: where the data is kept, and whether listings are
written for programs to read. -/
structure Invocation where
  dataDir : Option String
  json : Bool
  command : Command
deriving DecidableEq

/-- The digits of a decimal number that may have a sign, and whether it is negative. -/
def signed (cs : List Char) : Bool × List Char :=
  match cs with
  | '-' :: digits => (true, digits)
  | '+' :: digits => (false, digits)
  | digits => (false, digits)

def decimal (digits : List Char) : Nat :=
  digits.foldl (fun n c => n * 10 + (c.toNat - '0'.toNat)) 0

def int64? (s : String) : Option Int :=
  let (negative, digits) := signed s.toList
  if digits.isEmpty || !digits.all Char.isDigit then none
  else
    let n := decimal digits
    if negative then if n ≤ 1 <<< 63 then some (-n) else none
    else if n < 1 <<< 63 then some n else none

/-! ## The grammar -/

def versionText : String := "courier 0.1.0\n"

def anyText : OptionKind := .value fun _ => true

def commonOptions : List OptionSpec :=
  [{ name := "data-dir", short := some 'd', kind := .value (· ≠ "") },
    { name := "json", kind := .switch },
    { name := "help", short := some 'h', kind := .help }]

def leaf (name about : String) (operands : List Operand) (options : List OptionSpec) : Grammar :=
  .command name about (options ++ commonOptions) operands []

def branch (name about : String) (parts : List Grammar) : Grammar :=
  .command name about commonOptions [] parts

def peopleOperand : Operand := { name := "members", many := true }

def subjectOption : OptionSpec := { name := "subject", short := some 's', kind := anyText }

def queueGrammar : Grammar :=
  branch "queue" "Outbound queue management"
    [leaf "list" "List outbound messages that are not yet delivered" []
        [{ name := "all", kind := .switch }],
      leaf "retry" "Reset a message to sending and resend everything pending for its peer"
        [{ name := "id", check := fun s => (int64? s).isSome }] [],
      leaf "retry-all" "Release every message held for review" [] [],
      leaf "scan" "Run a resend scan and print its plan" []
        [{ name := "peer", kind := anyText }, { name := "force", kind := .switch }]]

def threadGrammar : Grammar :=
  branch "thread" "Conversation threads"
    [leaf "list" "List threads" [] [],
      leaf "show" "Show the messages of a thread" [{ name := "peer" }] []]

def groupGrammar : Grammar :=
  branch "group" "Group management"
    [leaf "create" "Create a group and queue its create command"
        [{ name := "group" }, peopleOperand] [subjectOption],
      leaf "add" "Add members to a group" [{ name := "group" }, peopleOperand] [],
      leaf "remove" "Remove members from a group" [{ name := "group" }, peopleOperand] [],
      leaf "leave" "Leave a group" [{ name := "group" }] [],
      leaf "list" "List groups" [] []]

def contactGrammar : Grammar :=
  branch "contact" "Address book and synced contacts"
    [leaf "add" "Add a local address book entry" [{ name := "number" }]
        [{ name := "name", short := some 'n', kind := anyText },
          { name := "lookup-key", kind := anyText }],
      leaf "book" "List address book entries" [] [],
      leaf "list" "List synced contacts" [] []]

def programGrammar : Grammar :=
  .command "courier" "Courier - outbound message queue and contact store"
    (commonOptions ++
      [{ name := "verbose", short := some 'v', kind := .counter },
        { name := "version", short := some 'V', kind := .version }])
    []
    [leaf "init" "Write the client configuration" [{ name := "identity" }]
        [{ name := "server", short := some 's', kind := anyText },
          { name := "no-encryption", kind := .switch }],
      leaf "info" "Show configuration and store statistics" [] [],
      leaf "send" "Queue a text message to a peer" [{ name := "peer" }, { name := "text" }] [],
      queueGrammar, threadGrammar, groupGrammar, contactGrammar]

/-! ## From words to commands -/

namespace Said

/-- The value of something said at most once. -/
def value? (said : Said) (name : String) : Option String := (said.get name).getLast?

/-- The value of something that has been said. -/
def value (said : Said) (name : String) : String := (said.value? name).getD ""

def has (said : Said) (name : String) : Bool := !(said.get name).isEmpty

end Said

/-- The command of a part, by the names of the commands that lead to it. -/
def Command.ofSaid? (path : List String) (said : Said) : Option Command :=
  match path with
  | ["init"] => some (.init (said.value "identity") (said.value? "server") (said.has "no-encryption"))
  | ["info"] => some .info
  | ["send"] => some (.send (said.value "peer") (said.value "text"))
  | ["queue", "list"] => some (.queueList (said.has "all"))
  | ["queue", "retry"] => (int64? (said.value "id")).map fun n => .queueRetry ⟨n⟩
  | ["queue", "retry-all"] => some .queueRetryAll
  | ["queue", "scan"] => some (.queueScan (said.value? "peer") (said.has "force"))
  | ["thread", "list"] => some .threadList
  | ["thread", "show"] => some (.threadShow (said.value "peer"))
  | ["group", "create"] =>
    some (.groupCreate (said.value "group") (said.get "members") (said.value? "subject"))
  | ["group", "add"] => some (.groupAdd (said.value "group") (said.get "members"))
  | ["group", "remove"] => some (.groupRemove (said.value "group") (said.get "members"))
  | ["group", "leave"] => some (.groupLeave (said.value "group"))
  | ["group", "list"] => some .groupList
  | ["contact", "add"] =>
    some (.contactAdd (said.value "number") (said.value? "name") (said.value? "lookup-key"))
  | ["contact", "book"] => some .contactBook
  | ["contact", "list"] => some .contactList
  | _ => none

/-- What the words ask for.  Where the data is kept may be said at any place; the last one counts. -/
def Invocation.ofWords (words : List String) : Except Stop Invocation := do
  let said ← programGrammar.read words
  match said.getLast?.bind (Command.ofSaid? ((said.drop 1).map (·.command))) with
  | none => throw .misuse
  | some command =>
    return {
      dataDir := (said.filterMap (·.value? "data-dir")).getLast?
      json := said.any (·.has "json")
      command }

end Messenger.Cli
