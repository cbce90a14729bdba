/-
A round of contact discovery.

A round asks the server which of our candidates are on our roster, in batches; then it asks for
presences, public keys and the blocklist of all of them.  A person who is subscribed both ways
although the roster did not match them is looked up on the server, and if the server does not
know them any more the subscription is ended.  The round is over when every batch is answered, the
blocklist is there, and either nobody was matched or there are at least as many keys as
presences and no look-up is open; or when the connection is lost.

Every answer quotes the request it belongs to.  An answer that quotes another request, or that
comes in the wrong phase, changes nothing.
-/
import Messenger.Batches
import Messenger.Event
import Messenger.Table

namespace Messenger.Discovery

/-- How far a round has come. -/
inductive Phase where
  | init
  | awaitingRosterMatch
  | awaitingDetails
  | done
  | unavailable
deriving DecidableEq, Inhabited

def Phase.isFinished : Phase → Bool
  | .done | .unavailable => true
  | _ => false

/-- What a round has learned about one person. -/
structure Finding where
  identity : Identity
  status : Option String := none
  timestamp : Option Int := none
  rosterName : Option String := none
  publicKey : Option Octets := none
  blocked : Bool := false
  presence : Bool := false
  matched : Bool := false
  discarded : Bool := false
deriving DecidableEq

/-- What a presence adds to what is known; what it does not tell is kept. -/
def Finding.updated (finding : Finding) (presence : Presence) : Finding :=
  { finding with
    status := presence.status <|> finding.status
    timestamp := presence.timestamp <|> finding.timestamp
    rosterName := presence.rosterName <|> finding.rosterName }

inductive Outcome where
  | completed (findings : List Finding)
  | unavailable
deriving DecidableEq

structure Round where
  presenceId : RequestId
  keyId : RequestId
  blocklistId : RequestId
  /-- The name for the next request. -/
  nextId : RequestId
  phase : Phase := .init
  candidates : List Identity
  batchSize : Nat
  openBatches : List RequestId := []
  findings : Table Identity Finding := ∅
  matchedCount : Nat := 0
  presenceCount : Nat := 0
  keyCount : Nat := 0
  blocklistReceived : Bool := false
  openChecks : List (RequestId × Identity) := []
  unsubscribed : List Identity := []

/-- What one event makes of a round: its new state, the requests it publishes, and the outcome if
this is where the round ends. -/
structure Progress where
  round : Round
  published : List Event := []
  outcome : Option Outcome := none

namespace Round

/-- A round whose requests have names from the given one on. -/
def start (candidates : List Identity) (batchSize : Nat) (first : RequestId) : Round where
  presenceId := first
  keyId := ⟨first.val + 1⟩
  blocklistId := ⟨first.val + 2⟩
  nextId := ⟨first.val + 3⟩
  candidates
  batchSize

/-- What is known about a person, perhaps nothing yet. -/
def finding (round : Round) (identity : Identity) : Finding :=
  (round.findings.get? identity).getD { identity }

def note (round : Round) (finding : Finding) : Round :=
  { round with findings := round.findings.put finding.identity finding }

def rosterComplete (round : Round) : Bool := round.phase ≠ .init && round.openBatches.isEmpty

/-- Whether the round has all it waits for. -/
def isComplete (round : Round) : Bool :=
  round.rosterComplete && round.blocklistReceived
    && (round.matchedCount = 0
      || (round.presenceCount ≤ round.keyCount && round.openChecks.isEmpty))

def allFindings (round : Round) : List Finding := round.findings.values

/-- Ends the round if it has all it waits for. -/
def settle (round : Round) (published : List Event) : Progress :=
  if round.isComplete then
    ⟨{ round with phase := .done }, published, some (.completed round.allFindings)⟩
  else ⟨round, published, none⟩

/-- The request for the blocklist, unless it is there already. -/
def blocklistRequests (round : Round) : List Event :=
  if round.blocklistReceived then [] else [.blocklistRequest round.blocklistId]

/-- Goes on to the details once the last batch is answered, unless there is nothing to ask. -/
def onRosterComplete (round : Round) : Round × List Event :=
  if round.matchedCount = 0 && round.blocklistReceived then (round, [])
  else
    ({ round with phase := .awaitingDetails },
      [.presenceRequest round.presenceId, .publicKeyRequest round.keyId]
        ++ round.blocklistRequests)

/-- Goes on if no batch is open. -/
def afterRoster (round : Round) : Round × List Event :=
  if round.openBatches.isEmpty then round.onRosterComplete else (round, [])

/-- Gives each batch the next name. -/
def nameBatches (first : RequestId) : List (List Identity) → List (RequestId × List Identity)
  | [] => []
  | batch :: rest => (first, batch) :: nameBatches ⟨first.val + 1⟩ rest

def batchRequest (batch : RequestId × List Identity) : Event := .rosterMatchRequest batch.1 batch.2

/-- There is a connection: ask about the candidates. -/
def onConnected (round : Round) : Round × List Event :=
  if round.phase = .init then
    let named := nameBatches round.nextId (batches round.batchSize round.candidates)
    let asked := { round with
      phase := .awaitingRosterMatch
      candidates := []
      openBatches := named.map Prod.fst
      nextId := ⟨round.nextId.val + named.length⟩ }
    let (round, requests) := asked.afterRoster
    (round, named.map batchRequest ++ requests)
  else (round, [])

def noteMatch (round : Round) (identity : Identity) : Round :=
  let finding := round.finding identity
  if finding.matched then round
  else
    { round.note { finding with matched := true } with matchedCount := round.matchedCount + 1 }

/-- A batch is answered. -/
def onRosterMatch (round : Round) (batch : RequestId) (matched : List Identity) :
    Round × List Event :=
  if round.openBatches.contains batch then
    let answered := { round with openBatches := round.openBatches.filter (· ≠ batch) }
    (matched.foldl noteMatch answered).afterRoster
  else (round, [])

/-- Asks the server whether it knows a person. -/
def check (round : Round) (identity : Identity) : Round × List Event :=
  ({ round with
      nextId := ⟨round.nextId.val + 1⟩
      openChecks := round.openChecks ++ [(round.nextId, identity)] },
    [.lastActivityRequest round.nextId identity])

def onPresence (round : Round) (presence : Presence) : Round × List Event :=
  if presence.request = round.presenceId && round.phase = .awaitingDetails then
    let finding := (round.finding presence.identity).updated presence
    if finding.presence then (round.note finding, [])
    else
      let round := { round.note { finding with presence := true } with
        presenceCount := round.presenceCount + 1 }
      if !finding.matched && presence.bothSubscribed then round.check presence.identity
      else (round, [])
  else (round, [])

/-- A public key has come; it counts if something is known about its owner. -/
def onPublicKey (round : Round) (request : RequestId) (identity : Identity) (key : Octets) :
    Round :=
  if request = round.keyId && round.phase = .awaitingDetails then
    match round.findings.get? identity with
    | some finding =>
      { round.note { finding with publicKey := some key } with keyCount := round.keyCount + 1 }
    | none => round
  else round

/-- Notes that a person is blocked, if something is known about them. -/
def noteBlocked (round : Round) (identity : Identity) : Round :=
  match round.findings.get? identity with
  | some finding => round.note { finding with blocked := true }
  | none => round

/-- The blocklist has come; it is taken even before it was asked for. -/
def onBlocklist (round : Round) (request : RequestId) (blocked : List Identity) : Round :=
  if request = round.blocklistId then
    blocked.foldl noteBlocked { round with blocklistReceived := true }
  else round

/-- Gives up a person whom the server does not know, and ends the subscription, once. -/
def discard (round : Round) (identity : Identity) : Round × List Event :=
  let round := round.note { round.finding identity with discarded := true }
  if round.unsubscribed.contains identity then (round, [])
  else
    ({ round with unsubscribed := round.unsubscribed ++ [identity] },
      [.unsubscribeRequest identity])

/-- A look-up is answered, for the person about whom it asked. -/
def onLastActivity (round : Round) (request : RequestId) (notFound : Bool) : Round × List Event :=
  match round.openChecks.lookup request with
  | none => (round, [])
  | some identity =>
    let round := { round with openChecks := round.openChecks.filter (·.1 ≠ request) }
    if notFound then round.discard identity else (round, [])

/-- What an event does to a round that is not over, and what it makes it publish; `none` for
events that are none of its business. -/
def react (round : Round) : Event → Option (Round × List Event)
  | .connected => some round.onConnected
  | .rosterMatch batch matched => some (round.onRosterMatch batch matched)
  | .presence presence => some (round.onPresence presence)
  | .publicKey request identity key => some (round.onPublicKey request identity key, [])
  | .blocklist request blocked =>
    if round.phase = .init then none else some (round.onBlocklist request blocked, [])
  | .lastActivity request _ notFound => some (round.onLastActivity request notFound)
  | _ => none

def abandon (round : Round) : Progress :=
  ⟨{ round with phase := .unavailable }, [], some .unavailable⟩

def step (round : Round) (event : Event) : Progress :=
  if round.phase.isFinished then ⟨round, [], none⟩
  else if event = .disconnected then round.abandon
  else match round.react event with
    | some (round, published) => round.settle published
    | none => ⟨round, [], none⟩

end Round

end Messenger.Discovery
