/-
The brief form, read.

The brief form is a JSON form of messages, threads, groups, contacts and the like that is made to
be written by hand: names are in lower case, octets are given as text where they are text, and
whatever is left out has its usual value.  A value that is `null` counts as left out.  Reading
never fails; what makes no sense counts as left out too.
-/
import Messenger.Json.Decode
import Messenger.Json.Basic
import Messenger.Message.Inbound
import Messenger.Group
import Messenger.Thread
import Messenger.Contact
import Messenger.Store.Query
import Messenger.Outbox.Scan

namespace Messenger.Brief

/-! ## Fields -/

def field (j : Json) (name : String) : Json :=
  match j with
  | .object members => (members.lookup (some name)).getD .null
  | _ => .null

def isNull : Json → Bool
  | .null => true
  | _ => false

def opt (f : Json → α) (j : Json) : Option α := if isNull j then none else some (f j)

def text (j : Json) : String := j.asText?.getD ""

def textOr (default : String) (j : Json) : String := j.asText?.getD default

def flag (j : Json) : Bool := j.asBool?.getD false

def int : Json → Int
  | .number n => n.toInt?.getD 0
  | _ => 0

def intOr (default : Int) (j : Json) : Int := if isNull j then default else int j

def nat (j : Json) : Nat := (int j).toNat

def items : Json → List Json
  | .array elements => elements
  | _ => []

def textAt (j : Json) (name : String) : String := text (field j name)

def textAt? (j : Json) (name : String) : Option String := (field j name).asText?

def flagAt (j : Json) (name : String) : Bool := flag (field j name)

def natAt (j : Json) (name : String) : Nat := nat (field j name)

def listAt (f : Json → α) (j : Json) (name : String) : List α := (items (field j name)).map f

def optAt (f : Json → α) (j : Json) (name : String) : Option α := opt f (field j name)

/-! ## Simple values -/

/-- So many copies of some octets. -/
def repeated (n : Nat) (octets : Octets) : Octets := (List.replicate n octets).flatten

/-- Octets: a text, its hexadecimal digits, or a text to repeat. -/
def bytes : Json → Octets
  | .text (some s) => .ofText s
  | j =>
    match textAt? j "hex" with
    | some digits => (Text.Hex.decode? digits.toList).getD []
    | none => repeated (natAt j "n") (.ofText (textAt j "repeat"))

def longText (j : Json) : String := (bytes j).text?.getD ""

def identity : Json → Identity
  | .text (some s) => .of s
  | .object members =>
    let j := Json.object members
    .ofNumber (textAt j "number") (textAt j "server")
  | _ => .of ""

def identityAt (j : Json) (name : String) : Identity := identity (field j name)

def identitiesAt (j : Json) (name : String) : List Identity := listAt identity j name

def messageId (j : Json) : MessageId := ⟨int j⟩

def threadId (j : Json) : ThreadId := ⟨int j⟩

def named (all : List α) (name : α → String) (default : α) (j : Json) : α :=
  (all.find? fun a => name a = text j).getD default

def direction : Json → Direction := named Direction.all Direction.name .outgoing

def status : Json → Status := named Status.all Status.name .sending

def requestStatus : Json → RequestStatus := named RequestStatus.all RequestStatus.name .none

def action : Json → PrivacyAction := named PrivacyAction.all PrivacyAction.name .accept

/-- A coordinate by the digits of its bits. -/
def coordinate (j : Json) : Coordinate :=
  ⟨((Text.Hex.decode? (text j).toList).getD []).foldl (fun n b => (n <<< 8) ||| b.toUInt64) 0⟩

/-! ## Messages -/

def command (j : Json) : GroupCommand :=
  match textAt j "type" with
  | "create" => .create (identitiesAt j "members") (textAt? j "subject")
  | "members" =>
    .members (identitiesAt j "added") (identitiesAt j "removed") (identitiesAt j "existing")
  | "subject" => .subject (textAt j "subject")
  | _ => .part

def attachment (j : Json) : Attachment where
  mime := textAt j "mime"
  localPath := textAt? j "local"
  remote := textAt? j "remote"
  preview := textAt? j "preview"
  length := natAt j "length"
  encrypted := flagAt j "encrypted"

def location (j : Json) : Location where
  latitude := coordinate (field j "latitude")
  longitude := coordinate (field j "longitude")
  text := textAt? j "text"
  street := textAt? j "street"

def groupRef (j : Json) : GroupRef := ⟨identityAt j "id", identityAt j "owner"⟩

/-- A message before it is stored; the time is now unless it is given. -/
def content (now : Int) (j : Json) : MessageContent :=
  let groupCommand := optAt command j "group_command"
  { thread := ⟨intOr (-1) (field j "thread")⟩
    peer := identityAt j "peer"
    direction := direction (field j "direction")
    status := status (field j "status")
    mime := if groupCommand.isSome then groupCommandMime else textOr textMime (field j "mime")
    body := bytes (field j "body")
    encrypted := flagAt j "encrypted"
    securityKey := textAt? j "security_key"
    attachment := optAt attachment j "attachment"
    location := optAt location j "location"
    group := optAt groupRef j "group"
    groupCommand
    inReplyTo := optAt messageId j "in_reply_to"
    serverId := textAt? j "server_id"
    timestamp := intOr now (field j "timestamp") }

def message (now : Int) (j : Json) : Message :=
  let content := content now j
  { content with
    id := messageId (field j "id")
    statusChanged := intOr content.timestamp (field j "status_changed") }

def inboundAttachment (j : Json) : InboundAttachment where
  mime := textAt j "mime"
  url := textAt j "url"
  length := natAt j "length"
  encrypted := flagAt j "encrypted"

def inboundGroup (j : Json) : InboundGroup where
  id := identityAt j "id"
  owner := identityAt j "owner"
  command := optAt command j "command"

def inbound (now : Int) (j : Json) : InboundMessage where
  serverId := textAt j "server_id"
  sender := identityAt j "sender"
  mime := textOr textMime (field j "mime")
  body := bytes (field j "body")
  encrypted := flagAt j "encrypted"
  timestamp := intOr now (field j "timestamp")
  attachment := optAt inboundAttachment j "attachment"
  location := optAt location j "location"
  inReplyTo := textAt? j "in_reply_to"
  group := optAt inboundGroup j "group"
  requestReceipt := flagAt j "request_receipt"

/-! ## Groups and contacts -/

/-- Puts a member into a group: with a state as it is given, else by the rules for members. -/
def withMember (group : Group) (j : Json) : Group :=
  if isNull (field j "identity") then group.addMember (identity j)
  else
    let state := named MemberState.all MemberState.name .member (field j "state")
    { group with members := group.members ++ [⟨identityAt j "identity", state⟩] }

def group (j : Json) : Group :=
  let empty : Group :=
    { id := identityAt j "id"
      owner := identityAt j "owner"
      subject := textAt? j "subject"
      thread := ⟨intOr (-1) (field j "thread")⟩
      membership := named Membership.all Membership.name .member (field j "membership") }
  (items (field j "members")).foldl withMember empty

def contact (j : Json) : Contact where
  identity := identityAt j "identity"
  number := textAt j "number"
  displayName := textAt j "display_name"
  lookupKey := textAt? j "lookup_key"
  registered := (field j "registered").asBool?.getD true
  status := textAt? j "status"
  lastSeen := optAt int j "last_seen"
  publicKey := optAt bytes j "public_key"
  fingerprint := textAt? j "fingerprint"
  blocked := flagAt j "blocked"

def contactOp (j : Json) : ContactOp :=
  match optAt contact j "profile" with
  | some contact => .profile contact
  | none => .upsert (contact (field j "upsert"))

def addressBookEntry (j : Json) : AddressBookEntry where
  number := textAt j "number"
  lookupKey := textAt j "lookup_key"
  displayName := textAt? j "display_name"

/-! ## Queries and scans -/

def query (j : Json) : Query :=
  let statuses := listAt status j "statuses"
  { direction := optAt direction j "direction"
    statuses := if statuses.isEmpty then none else some statuses
    exclude := listAt status j "exclude"
    peer := optAt identity j "peer"
    thread := optAt threadId j "thread" }

def scanOptions (j : Json) : ScanOptions where
  retryingMedia := flagAt j "retrying_media"
  forcePending := flagAt j "force_pending"
  peer := optAt identity j "peer"

end Messenger.Brief
