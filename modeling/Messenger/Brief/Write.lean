/-
The brief form, written.

Absent values are left out.  An instant within an hour of the present is written as `now`, and a
generated name as `<ulid>`, because neither says anything to a reader.
-/
import Messenger.Json.Basic
import Messenger.Text.Hex
import Messenger.Ulid
import Messenger.Discovery.Round
import Messenger.Outbox.Action
import Messenger.Outbox.Scan
import Messenger.Store.Feed

namespace Messenger.Brief

/-- The members whose value is there. -/
def stripped (members : List (String × Option Json)) : Json :=
  .record (members.filterMap fun member => member.2.map (member.1, ·))

def textMember (name : String) (s : Option String) : String × Option Json := (name, s.map .str)

def identityOut (identity : Identity) : Json := .str identity.text

def identitiesOut (identities : List Identity) : Json := .list identityOut identities

/-- Octets as text if they are text, else by their digits. -/
def bytesOut (bytes : Octets) : Json :=
  match bytes.text? with
  | some s => .str s
  | none => .record [("hex", .str (String.ofList (Text.Hex.encode .lower bytes)))]

/-- The octets of a double, the highest first. -/
def coordinateOut (c : Coordinate) : Json :=
  let octets := (List.range 8).map fun i => (c.bits >>> (8 * (7 - i)).toUInt64).toUInt8
  .str (String.ofList (Text.Hex.encode .lower octets))

def hour : Nat := 3600000

def timeOut (now t : Int) : Json := if (t - now).natAbs ≤ hour then .str "now" else .int t

def serverIdOut (s : String) : Json := .str (if Ulid.isUlid s then "<ulid>" else s)

def commandOut : GroupCommand → Json
  | .create people subject =>
    .record [("type", .str "create"), ("members", identitiesOut people),
      ("subject", .option .str subject)]
  | .members added removed existing =>
    .record [("type", .str "members"), ("added", identitiesOut added),
      ("removed", identitiesOut removed), ("existing", identitiesOut existing)]
  | .subject line => .record [("type", .str "subject"), ("subject", .str line)]
  | .part => .record [("type", .str "part")]

def attachmentOut (a : Attachment) : Json :=
  stripped [("mime", some (.str a.mime)), textMember "local" a.localPath,
    textMember "remote" a.remote, textMember "preview" a.preview,
    ("length", some (.nat a.length)), ("encrypted", some (.bool a.encrypted))]

def locationOut (l : Location) : Json :=
  stripped [("latitude", some (coordinateOut l.latitude)),
    ("longitude", some (coordinateOut l.longitude)), textMember "text" l.text,
    textMember "street" l.street]

def groupRefOut (g : GroupRef) : Json :=
  .record [("id", identityOut g.id), ("owner", identityOut g.owner)]

def messageOut (now : Int) (m : Message) : Json :=
  stripped [("id", some (.int m.id.val)), ("thread", some (.int m.thread.val)),
    ("peer", some (identityOut m.peer)), ("direction", some (.str m.direction.name)),
    ("status", some (.str m.status.name)), ("mime", some (.str m.mime)),
    ("body", some (bytesOut m.body)), ("encrypted", some (.bool m.encrypted)),
    textMember "security_key" m.securityKey, ("attachment", m.attachment.map attachmentOut),
    ("location", m.location.map locationOut), ("group", m.group.map groupRefOut),
    ("group_command", m.groupCommand.map commandOut),
    ("in_reply_to", m.inReplyTo.map fun id => .int id.val),
    ("server_id", m.serverId.map serverIdOut), ("timestamp", some (timeOut now m.timestamp)),
    ("status_changed", some (timeOut now m.statusChanged))]

def groupOut (g : Group) : Json :=
  .record [("id", identityOut g.id), ("owner", identityOut g.owner),
    ("subject", .option .str g.subject), ("thread", .int g.thread.val),
    ("membership", .str g.membership.name),
    ("members", .list (fun m => .array [identityOut m.identity, .str m.state.name]) g.members),
    ("live", identitiesOut g.liveMembers)]

def summaryOut (now : Int) (s : ThreadSummary) : Json :=
  .record [("message_id", .int s.message.val), ("direction", .str s.direction.name),
    ("status", .str s.status.name), ("mime", .str s.mime), ("snippet", .str s.snippet),
    ("timestamp", timeOut now s.timestamp)]

def threadOut (now : Int) (t : Thread) : Json :=
  stripped [("id", some (.int t.id.val)), ("peer", some (identityOut t.peer)),
    ("is_group", some (.bool t.isGroup)), ("request_status", some (.str t.requestStatus.name)),
    textMember "draft" t.draft, ("message_count", some (.nat t.messageCount)),
    ("disposable", some (.bool t.isDisposable)),
    ("last_message", t.lastMessage.map (summaryOut now))]

def contactOut (now : Int) (c : Contact) : Json :=
  stripped [("identity", some (identityOut c.identity)), ("number", some (.str c.number)),
    ("display_name", some (.str c.displayName)), textMember "lookup_key" c.lookupKey,
    ("registered", some (.bool c.registered)), textMember "status" c.status,
    ("last_seen", c.lastSeen.map (timeOut now)), ("public_key", c.publicKey.map bytesOut),
    textMember "fingerprint" c.fingerprint, ("blocked", some (.bool c.blocked))]

def addressBookEntryOut (e : AddressBookEntry) : Json :=
  stripped [("number", some (.str e.number)), ("lookup_key", some (.str e.lookupKey)),
    textMember "display_name" e.displayName]

def changeOut : Change → Json
  | .message id => .array [.str "message", .int id.val]
  | .thread id => .array [.str "thread", .int id.val]
  | .group id => .array [.str "group", identityOut id]
  | .contacts => .array [.str "contacts"]

def noticeOut : Notice → Json
  | .change change => changeOut change
  | .lagged count => .array [.str "lagged", .nat count]

def signalOut : Signal → Json
  | .askPaused peer => .array [.str "is_paused", identityOut peer]
  | .updateNotifications thread => .array [.str "update_notifications", .int thread.val]
  | .playIncomingSound => .array [.str "play_incoming_sound"]

def skipReasonName : SkipReason → String
  | .stalled => "stalled"
  | .emptyGroup => "empty_group"
  | .awaitingUploadService => "awaiting_upload_service"

def dispatchOut : Dispatch → Json
  | .send id => .array [.str "send", .int id.val]
  | .upload id => .array [.str "upload", .int id.val]

def planMembers (plan : Plan) : List (String × Json) :=
  [("dispatch", .list dispatchOut plan.dispatch),
    ("skipped", .list (fun s => .array [.int s.1.val, .str (skipReasonName s.2)]) plan.skipped),
    ("delete", .list (fun id => .int id.val) plan.delete)]

def findingFlags (f : Discovery.Finding) : List String :=
  let marks := [("matched", f.matched), ("presence", f.presence), ("blocked", f.blocked),
    ("discarded", f.discarded)]
  (marks.filter (·.2)).map (·.1)

def findingOut (now : Int) (f : Discovery.Finding) : Json :=
  stripped [("identity", some (identityOut f.identity)), textMember "status" f.status,
    ("timestamp", f.timestamp.map (timeOut now)), textMember "roster_name" f.rosterName,
    ("public_key", f.publicKey.map bytesOut), ("flags", some (.list .str (findingFlags f)))]

def phaseName : Discovery.Phase → String
  | .init => "init"
  | .awaitingRosterMatch => "awaiting_roster_match"
  | .awaitingDetails => "awaiting_presence_keys_blocklist"
  | .done => "done"
  | .unavailable => "unavailable"

def roundOutcomeOut (now : Int) : Discovery.Outcome → Json
  | .completed findings => .record [("completed", .list (findingOut now) findings)]
  | .unavailable => .str "unavailable"

end Messenger.Brief
