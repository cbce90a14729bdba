/-
The JSON form of the stored values.

A record is an object of its fields, an absent optional value is `null`, an alternative is its
name or an object with its content under that name, and octets are an array of numbers.
-/
import Messenger.Json.Basic
import Messenger.Json.Double
import Messenger.Message.Inbound
import Messenger.Group
import Messenger.Thread
import Messenger.Contact
import Messenger.Settings

namespace Messenger

namespace Json

def textOrNull (s : Option String) : Json := option str s

end Json

open Json (option str list record)

def Identity.toJson (identity : Identity) : Json := .str identity.text

def MessageId.toJson (id : MessageId) : Json := .int id.val

def ThreadId.toJson (id : ThreadId) : Json := .int id.val

/-- A coordinate that is no number has no JSON form but `null`. -/
def Coordinate.toJson (c : Coordinate) : Json := option .number (Double.toNumeral? c.bits)

def Direction.label : Direction → String
  | .incoming => "Incoming"
  | .outgoing => "Outgoing"

def Status.label : Status → String
  | .incoming => "Incoming"
  | .sending => "Sending"
  | .error => "Error"
  | .notAccepted => "NotAccepted"
  | .sent => "Sent"
  | .received => "Received"
  | .confirmed => "Confirmed"
  | .notDelivered => "NotDelivered"
  | .pending => "Pending"
  | .queued => "Queued"

def MemberState.label : MemberState → String
  | .member => "Member"
  | .kicked => "Kicked"

def Membership.label : Membership → String
  | .member => "Member"
  | .kicked => "Kicked"
  | .parted => "Parted"

def RequestStatus.label : RequestStatus → String
  | .none => "None"
  | .waitingReply => "WaitingReply"
  | .replyPendingAccept => "ReplyPendingAccept"
  | .replyPendingBlock => "ReplyPendingBlock"
  | .replyPendingUnblock => "ReplyPendingUnblock"

def GroupCommand.toJson : GroupCommand → Json
  | .create people topic =>
    record [("Create", record [("members", list Identity.toJson people), ("subject", .textOrNull topic)])]
  | .members added removed existing =>
    record [("Members", record
      [("added", list Identity.toJson added), ("removed", list Identity.toJson removed),
       ("existing", list Identity.toJson existing)])]
  | .subject line => record [("SetSubject", record [("subject", str line)])]
  | .part => str "Part"

def Attachment.toJson (a : Attachment) : Json :=
  record
    [("mime", str a.mime), ("local", .textOrNull a.localPath), ("remote", .textOrNull a.remote),
     ("preview", .textOrNull a.preview), ("length", .nat a.length), ("encrypted", .bool a.encrypted)]

def Location.toJson (l : Location) : Json :=
  record
    [("latitude", l.latitude.toJson), ("longitude", l.longitude.toJson), ("text", .textOrNull l.text),
     ("street", .textOrNull l.street)]

def GroupRef.toJson (g : GroupRef) : Json :=
  record [("id", g.id.toJson), ("owner", g.owner.toJson)]

def Message.toJson (m : Message) : Json :=
  record
    [("id", m.id.toJson), ("thread_id", m.thread.toJson), ("peer", m.peer.toJson),
     ("direction", str m.direction.label), ("status", str m.status.label), ("mime", str m.mime),
     ("body", .octets m.body), ("encrypted", .bool m.encrypted),
     ("security_key", .textOrNull m.securityKey), ("attachment", option Attachment.toJson m.attachment),
     ("location", option Location.toJson m.location), ("group", option GroupRef.toJson m.group),
     ("group_command", option GroupCommand.toJson m.groupCommand),
     ("in_reply_to", option MessageId.toJson m.inReplyTo), ("server_id", .textOrNull m.serverId),
     ("timestamp", .int m.timestamp), ("status_changed", .int m.statusChanged)]

def InboundAttachment.toJson (a : InboundAttachment) : Json :=
  record
    [("mime", str a.mime), ("url", str a.url), ("length", .nat a.length),
     ("encrypted", .bool a.encrypted)]

def InboundGroup.toJson (g : InboundGroup) : Json :=
  record
    [("id", g.id.toJson), ("owner", g.owner.toJson),
     ("command", option GroupCommand.toJson g.command)]

def InboundMessage.toJson (m : InboundMessage) : Json :=
  record
    [("server_id", str m.serverId), ("sender", m.sender.toJson), ("mime", str m.mime),
     ("body", .octets m.body), ("encrypted", .bool m.encrypted), ("timestamp", .int m.timestamp),
     ("attachment", option InboundAttachment.toJson m.attachment),
     ("location", option Location.toJson m.location), ("in_reply_to", .textOrNull m.inReplyTo),
     ("group", option InboundGroup.toJson m.group), ("request_receipt", .bool m.requestReceipt)]

def GroupMember.toJson (m : GroupMember) : Json :=
  record [("identity", m.identity.toJson), ("state", str m.state.label)]

def Group.toJson (g : Group) : Json :=
  record
    [("id", g.id.toJson), ("owner", g.owner.toJson), ("subject", .textOrNull g.subject),
     ("thread_id", g.thread.toJson), ("membership", str g.membership.label),
     ("members", list GroupMember.toJson g.members)]

def ThreadSummary.toJson (s : ThreadSummary) : Json :=
  record
    [("message_id", s.message.toJson), ("direction", str s.direction.label),
     ("status", str s.status.label), ("mime", str s.mime), ("snippet", str s.snippet),
     ("timestamp", .int s.timestamp)]

def Thread.toJson (t : Thread) : Json :=
  record
    [("id", t.id.toJson), ("peer", t.peer.toJson), ("is_group", .bool t.isGroup),
     ("request_status", str t.requestStatus.label), ("draft", .textOrNull t.draft),
     ("message_count", .nat t.messageCount),
     ("last_message", option ThreadSummary.toJson t.lastMessage)]

def AddressBookEntry.toJson (e : AddressBookEntry) : Json :=
  record
    [("number", str e.number), ("lookup_key", str e.lookupKey),
     ("display_name", .textOrNull e.displayName)]

def Contact.toJson (c : Contact) : Json :=
  record
    [("identity", c.identity.toJson), ("number", str c.number), ("lookup_key", .textOrNull c.lookupKey),
     ("display_name", str c.displayName), ("registered", .bool c.registered),
     ("status", .textOrNull c.status), ("last_seen", option .int c.lastSeen),
     ("public_key", option .octets c.publicKey), ("fingerprint", .textOrNull c.fingerprint),
     ("blocked", .bool c.blocked)]

def ContactOp.toJson : ContactOp → Json
  | .upsert contact => record [("Upsert", contact.toJson)]
  | .profile contact => record [("Profile", contact.toJson)]

def Settings.toJson (s : Settings) : Json :=
  record
    [("self_identity", option Identity.toJson s.selfIdentity), ("offline_mode", .bool s.offlineMode),
     ("endpoint_server", .textOrNull s.endpointServer), ("encryption_enabled", .bool s.encryptionEnabled),
     ("image_compression", .nat s.imageCompression), ("roster_batch_size", .nat s.rosterBatchSize),
     ("sync_timeout_secs", .nat s.syncTimeoutSecs),
     ("min_sync_interval_secs", .nat s.minSyncIntervalSecs),
     ("auto_download_limit", option .nat s.autoDownloadLimit)]

end Messenger
