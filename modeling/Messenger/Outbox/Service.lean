/-
The outbox as a service: requests with their answers, and events from the bus.

A request to a service that has stopped fails; an event that comes after the service has stopped
or no longer listens is lost.  An event that cannot be handled fails silently.
-/
import Messenger.Outbox.Handling

namespace Messenger.Outbox

/-- What can be asked of the outbox. -/
inductive Request where
  | sendText (thread : ThreadId) (text : String) (inReplyTo : Option MessageId)
  | sendLocation (thread : ThreadId) (location : Location)
  | sendBinary (thread : ThreadId) (binary : Binary)
  | createGroup (group : Identity) (people : List Identity) (subject : Option String)
  | addGroupMembers (group : Identity) (people : List Identity)
  | removeGroupMembers (group : Identity) (people : List Identity)
  | setGroupSubject (group : Identity) (subject : String)
  | leaveGroup (group : Identity)
  | retryMessage (id : MessageId)
  | retryMessagesTo (peer : Identity)
  | retryAll
  | replySubscription (thread : ThreadId) (action : PrivacyAction)
  | incoming (message : InboundMessage)
  | resend (options : ScanOptions)

inductive Answer where
  | message (id : MessageId)
  | count (n : Nat)
  | done
  | arrived (id : Option MessageId)
  | planned (plan : Plan)
deriving DecidableEq

def perform : Request → Action Answer
  | .sendText thread text inReplyTo => .message <$> sendText thread text inReplyTo
  | .sendLocation thread location => .message <$> sendLocation thread location
  | .sendBinary thread binary => .message <$> sendBinary thread binary
  | .createGroup group people subject => .message <$> createGroup group people subject
  | .addGroupMembers group people => .message <$> addGroupMembers group people
  | .removeGroupMembers group people => .message <$> removeGroupMembers group people
  | .setGroupSubject group subject => .message <$> setGroupSubject group subject
  | .leaveGroup group => .message <$> leaveGroup group
  | .retryMessage id => .count <$> retryMessage id
  | .retryMessagesTo peer => .count <$> retryMessagesTo peer
  | .retryAll => .count <$> retryAll
  | .replySubscription thread action => (fun _ => .done) <$> replySubscription thread action
  | .incoming message => .arrived <$> incoming message
  | .resend options => .planned <$> resend options

/-- An outbox that runs until it is stopped, and listens until it is told not to. -/
structure Service where
  outbox : Outbox := {}
  running : Bool := true
  listening : Bool := true

namespace Service

/-- What a service that does nothing leaves. -/
def idle (service : Service) (result : Except Failure α) : Outcome α :=
  ⟨result, service.outbox, [], [], []⟩

def request (service : Service) (host : Host) (request : Request) : Outcome Answer :=
  if service.running then (perform request).run host service.outbox
  else service.idle (.error .workerStopped)

def deliver (service : Service) (host : Host) (event : Event) : Outcome Unit :=
  if service.running && service.listening && wants event then
    (Action.attempt (handle event)).run host service.outbox
  else service.idle (.ok ())

end Service

end Messenger.Outbox
