/-
Actions of the outbox.

An action reads its surroundings (`Host`), works on the outbox, publishes events, causes changes
of the store to be announced, and signals the person at the device.  It may fail on the way, and
what it did before stays done.  Every access to the store goes through `look`, `commit` or
`commit?`, where the host can make it fail.  An action sees one time, however often it looks at the
clock.  What it reports to a log is left out.
-/
import Messenger.Cipher
import Messenger.Event
import Messenger.Settings
import Messenger.Store.Call
import Messenger.Store.Contacts
import Messenger.Store.Groups
import Messenger.Store.Messages

namespace Messenger

/-- What the person at the device is asked or told. -/
inductive Signal where
  | askPaused (peer : Identity)
  | updateNotifications (thread : ThreadId)
  | playIncomingSound
deriving DecidableEq

/-- What surrounds an action: the settings, the encryption, which conversations are paused, the
time, the names for outgoing messages in the order in which they are used, and the failures of
the store. -/
structure Host where
  settings : Settings
  cipher : Cipher := .plain
  paused : Identity → Bool := fun _ => false
  now : Int := 0
  serverId : Nat → String
  fault : StoreCall → Option Failure := fun _ => none

/-- The state of the outbox: what is stored, the state of the connection, whether a server for
files is known, and how many names for messages have been used. -/
structure Outbox where
  store : Store := ∅
  connected : Bool := false
  uploadService : Bool := false
  issued : Nat := 0

/-- An event that was published, and what was stored at that moment. -/
structure Publication where
  event : Event
  store : Store

/-- An outbox together with what has come out of it so far. -/
structure Outbox.Run extends Outbox where
  publications : List Publication := []
  changes : List Change := []
  signals : List Signal := []

/-- A step of work on an outbox. -/
abbrev Action := ReaderT Host (EStateM Failure Outbox.Run)

/-- What an action leaves. -/
structure Outbox.Outcome (α : Type) where
  result : Except Failure α
  outbox : Outbox
  publications : List Publication
  changes : List Change
  signals : List Signal

def Outbox.Outcome.events (outcome : Outbox.Outcome α) : List Event :=
  outcome.publications.map (·.event)

namespace Action

def run (action : Action α) (host : Host) (outbox : Outbox) : Outbox.Outcome α :=
  match ReaderT.run action host { outbox with } with
  | .ok a r => ⟨.ok a, r.toOutbox, r.publications, r.changes, r.signals⟩
  | .error f r => ⟨.error f, r.toOutbox, r.publications, r.changes, r.signals⟩

def fail (failure : Failure) : Action α := throw failure

def outbox : Action Outbox := return (← get).toOutbox

def setConnected (connected : Bool) : Action Unit := modify ({ · with connected })

/-- Remembers whether a server for files is known. -/
def setUploadService (uploadService : Bool) : Action Unit := modify ({ · with uploadService })

def publish (event : Event) : Action Unit :=
  modify fun run => { run with publications := run.publications ++ [⟨event, run.store⟩] }

def signal (signal : Signal) : Action Unit :=
  modify fun run => { run with signals := run.signals ++ [signal] }

/-- The next unused name for an outgoing message. -/
def issueServerId : Action String := do
  let count := (← get).issued
  modify ({ · with issued := count + 1 })
  return (← read).serverId count

/-- Fails if the host makes this use of the store fail. -/
def reach (call : StoreCall) : Action Unit := do
  match (← read).fault call with
  | some failure => fail failure
  | none => pure ()

def look (call : StoreCall) (f : Store → α) : Action α := do
  reach call
  return f (← get).store

/-- Takes over what a write leaves. -/
def accept (committed : Committed α) : Action α := do
  modify fun run =>
    { run with store := committed.store, changes := run.changes ++ committed.changes }
  return committed.value

def commit (call : StoreCall) (f : Store → Committed α) : Action α := do
  reach call
  accept (f (← get).store)

/-- Writes to the store, which may refuse. -/
def commit? (call : StoreCall) (f : Store → Except Failure (Committed α)) : Action α := do
  reach call
  match f (← get).store with
  | .ok committed => accept committed
  | .error failure => fail failure

/-- Goes on whether or not the action fails. -/
def attempt (action : Action α) : Action Unit :=
  try discard action catch _ => pure ()

end Action

end Messenger
