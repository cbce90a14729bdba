/-
One run of the program on its directory.

The directory holds the settings, as text, and the store.  A run reads both, does what it is asked
to do, and leaves both behind; what it prints is a text, and a run that fails prints nothing but
the cause.  There is no connection, so messages are queued and never delivered.
-/
import Messenger.Cli.Command
import Messenger.Cli.Listing
import Messenger.Json.Printer
import Messenger.Json.Reader
import Messenger.Json.Records
import Messenger.Outbox.Service

namespace Messenger.Cli

/-- What the program keeps between runs. -/
structure Directory where
  config : Option String := none
  store : Store := ∅

/-- What surrounds a run: where its directory is, the time, and names for outgoing messages. -/
structure Surroundings where
  path : String
  now : Int
  serverId : Nat → String

inductive Problem where
  | refused (cause : Failure)
  | invalidConfig (path : String)
  | noThread (peer : Identity)
  | noIdentity

def Problem.message : Problem → String
  | .refused cause => cause.message
  | .invalidConfig path => "parsing " ++ path
  | .noThread peer => "No thread with " ++ peer.text
  | .noIdentity => "Self identity not configured, run `courier init` first"

/-- What a run leaves, and what it prints. -/
structure Report where
  directory : Directory
  result : Except Problem String

def join (directory file : String) : String :=
  if directory.isEmpty || directory.toList.getLast? = some '/' then directory ++ file
  else directory ++ "/" ++ file

def configFile : String := "config.json"

/-- Where the data is kept unless the command line says otherwise. -/
def defaultDirectory (home : String) : String := join (join home ".courier") "data"

def Surroundings.configPath (around : Surroundings) : String := join around.path configFile

/-- The settings of a directory; those that hold when nothing is said, if there are none. -/
def Directory.settings? (directory : Directory) : Option Settings :=
  match directory.config with
  | none => some {}
  | some text => (Json.parse? text).bind Settings.ofJson?

def identities (raw : List String) : List Identity := raw.map .of

/-! ## Runs -/

/-- A run on a directory whose settings are known. -/
structure Run where
  around : Surroundings
  settings : Settings
  directory : Directory
  json : Bool

namespace Run

def store (run : Run) : Store := run.directory.store

def host (run : Run) : Host where
  settings := run.settings
  now := run.around.now
  serverId := run.around.serverId

/-- The run after a change of the store. -/
def withStore (run : Run) (store : Store) : Run :=
  { run with directory := { run.directory with store } }

/-- Ends a run that has changed nothing since. -/
def print (run : Run) (text : String) : Report := ⟨run.directory, .ok text⟩

def fail (run : Run) (problem : Problem) : Report := ⟨run.directory, .error problem⟩

/-- Ends a run with a listing, for programs or for people. -/
def listing (run : Run) (toJson : α → Json) (rows : List α → String) (items : List α) : Report :=
  run.print (if run.json then (Json.list toJson items).pretty ++ "\n" else rows items)

/-- Asks something of the outbox and prints what comes of it. -/
def ask (run : Run) (request : Outbox.Request) (print : Run → Outbox.Answer → String) : Report :=
  let service : Outbox.Service := { outbox := { store := run.store } }
  let outcome := service.request run.host request
  let run := run.withStore outcome.outbox.store
  match outcome.result with
  | .ok answer => run.print (print run answer)
  | .error cause => run.fail (.refused cause)

/-- The number in an answer. -/
def numberOf : Outbox.Answer → String
  | .message id => toString id.val
  | .count n => toString n
  | .arrived (some id) => toString id.val
  | .arrived none | .done | .planned _ => ""

/-- A line around the number in an answer. -/
def numbered (before after : String) (_ : Run) (answer : Outbox.Answer) : String :=
  before ++ numberOf answer ++ after ++ "\n"

def info (run : Run) : Report :=
  let outgoing := run.store.queryMessages .outgoing
  let waiting := outgoing.countP fun m => !m.status.isAcknowledged
  let self := (run.settings.selfIdentity.map (·.text)).getD "(not configured, run `courier init`)"
  run.print (lines
    (["Courier v0.1.0", "", "Identity:", "  Self: " ++ self,
        "  Server: " ++ run.settings.endpointServer.getD "(none)", "",
        "Data directory: " ++ run.around.path,
        "Threads: " ++ toString run.store.threads.size,
        "Groups: " ++ toString run.store.groups.size,
        "Outgoing messages: " ++ toString outgoing.length ++ " (" ++ toString waiting ++ " waiting)",
        "Synced contacts: " ++ toString run.store.contacts.size]
      ++ if run.store.resyncPending then ["Contact sync: interrupted, will resync"] else []))

def send (run : Run) (peer : Identity) (text : String) : Report :=
  let ensured := run.store.ensureThread peer false
  (run.withStore ensured.store).ask (.sendText ensured.value.id text none) fun run answer =>
    let status : Status := match answer with
      | .message id => ((run.store.message? id).map (·.status)).getD .sending
      | _ => .sending
    "Queued message " ++ numberOf answer ++ " to " ++ peer.text ++ " (" ++ status.name ++ ")\n"

def queueList (run : Run) (all : Bool) : Report :=
  let messages := (run.store.queryMessages .outgoing).filter fun m => all || !m.status.isAcknowledged
  run.listing Message.toJson (fun ms => linesOr "Queue is empty" (ms.map queueRow)) messages

def dispatchJson : Dispatch → Json
  | .send id => .record [("send", id.toJson)]
  | .upload id => .record [("upload", id.toJson)]

def skippedJson (skipped : MessageId × SkipReason) : Json :=
  .record [("id", skipped.1.toJson), ("reason", .str (skipReasonLabel skipped.2))]

def planJson (plan : Plan) : Json :=
  .record [("deleted", .list MessageId.toJson plan.delete),
    ("dispatch", .list dispatchJson plan.dispatch), ("skipped", .list skippedJson plan.skipped)]

def queueScan (run : Run) (peer : Option Identity) (force : Bool) : Report :=
  run.ask (.resend { peer, forcePending := force }) fun run answer =>
    match answer with
    | .planned plan => if run.json then (planJson plan).pretty ++ "\n" else lines (planRows plan)
    | _ => ""

def threadShow (run : Run) (peer : Identity) : Report :=
  match run.store.threadForPeer? peer with
  | none => run.fail (.noThread peer)
  | some thread =>
    run.listing Message.toJson (fun ms => lines (ms.map messageRow))
      (run.store.queryMessages (({} : Query).inThread thread.id))

def groupCreate (run : Run) (group : Identity) (people : List Identity) (subject : Option String) :
    Report :=
  if run.settings.selfIdentity.isNone then run.fail .noIdentity
  else run.ask (.createGroup group people subject)
    (numbered ("Created group " ++ group.text ++ " (command message ") ")")

def contactAdd (run : Run) (number : String) (displayName lookupKey : Option String) : Report :=
  let entry : AddressBookEntry := ⟨number, lookupKey.getD number, displayName⟩
  (run.withStore (run.store.addAddressBookEntry entry).store).print
    ("Added " ++ number ++ " to the address book\n")

def init (run : Run) (identity : Identity) (server : Option String) (noEncryption : Bool) : Report :=
  let settings := { run.settings with
    selfIdentity := some identity
    endpointServer := server
    encryptionEnabled := !noEncryption }
  ⟨{ run.directory with config := some settings.toJson.pretty },
    .ok ("Configuration written to " ++ run.around.configPath ++ "\n")⟩

def perform (run : Run) : Command → Report
  | .init identity server noEncryption => run.init (.of identity) server noEncryption
  | .info => run.info
  | .send peer text => run.send (.of peer) text
  | .queueList all => run.queueList all
  | .queueRetry id => run.ask (.retryMessage id) (numbered "Retried " " message(s)")
  | .queueRetryAll => run.ask .retryAll (numbered "Released " " message(s)")
  | .queueScan peer force => run.queueScan (peer.map .of) force
  | .threadList =>
    run.listing Thread.toJson (fun ts => linesOr "No threads" (ts.map threadRow))
      run.store.threads.values
  | .threadShow peer => run.threadShow (.of peer)
  | .groupCreate group people subject => run.groupCreate (.of group) (identities people) subject
  | .groupAdd group people =>
    run.ask (.addGroupMembers (.of group) (identities people)) (numbered "Queued add command " "")
  | .groupRemove group people =>
    run.ask (.removeGroupMembers (.of group) (identities people))
      (numbered "Queued remove command " "")
  | .groupLeave group => run.ask (.leaveGroup (.of group)) (numbered "Queued part command " "")
  | .groupList =>
    run.listing Group.toJson (fun gs => linesOr "No groups" (gs.map groupRow)) run.store.groups.values
  | .contactAdd number name lookupKey => run.contactAdd number name lookupKey
  | .contactBook =>
    run.listing AddressBookEntry.toJson (fun es => lines (es.map addressBookRow))
      run.store.syncCandidates
  | .contactList =>
    run.listing Contact.toJson (fun cs => linesOr "No synced contacts" (cs.map contactRow))
      run.store.contacts.values

end Run

def runCommand (around : Surroundings) (json : Bool) (command : Command) (directory : Directory) :
    Report :=
  match directory.settings? with
  | none => ⟨directory, .error (.invalidConfig around.configPath)⟩
  | some settings => Run.perform { around, settings, directory, json } command

end Messenger.Cli
