/-
Reading the stored values back from their JSON form.
-/
import Messenger.Json.Decode
import Messenger.Json.Encode

namespace Messenger

open Json (fields? asText? asBool? asInt64? asNat? asNat64? asList? asOctets? asPlainChoice? choice?)

def Identity.ofJson? (json : Json) : Option Identity := json.asText?.map Identity.mk

def identitiesOfJson? : Json → Option (List Identity) := asList? Identity.ofJson?

def MessageId.ofJson? (json : Json) : Option MessageId := json.asInt64?.map MessageId.mk

def ThreadId.ofJson? (json : Json) : Option ThreadId := json.asInt64?.map ThreadId.mk

def Coordinate.ofJson? : Json → Option Coordinate
  | .number n => (Double.ofNumeral? n).map Coordinate.mk
  | _ => none

def Direction.ofJson? : Json → Option Direction := asPlainChoice? Direction.all Direction.label

def Status.ofJson? : Json → Option Status := asPlainChoice? Status.all Status.label

def MemberState.ofJson? : Json → Option MemberState :=
  asPlainChoice? MemberState.all MemberState.label

def Membership.ofJson? : Json → Option Membership := asPlainChoice? Membership.all Membership.label

def RequestStatus.ofJson? : Json → Option RequestStatus :=
  asPlainChoice? RequestStatus.all RequestStatus.label

/-- The content of a command whose name is known. -/
def GroupCommand.ofContent? (name : String) (content : Json) : Option GroupCommand :=
  match name with
  | "Create" => do
    let f ← fields? ["members", "subject"] false content
    return .create (← f.required? "members" identitiesOfJson?) (← f.optional? "subject" asText?)
  | "Members" => do
    let f ← fields? ["added", "removed", "existing"] false content
    return .members (← f.required? "added" identitiesOfJson?)
      (← f.required? "removed" identitiesOfJson?) (← f.required? "existing" identitiesOfJson?)
  | "SetSubject" => do
    let f ← fields? ["subject"] false content
    return .subject (← f.required? "subject" asText?)
  | _ => none

def GroupCommand.ofJson? (json : Json) : Option GroupCommand := do
  let choice ← json.choice?
  if choice.name = "Part" then if choice.isPlain then some .part else none
  else choice.content.bind (ofContent? choice.name)

def Attachment.ofJson? (json : Json) : Option Attachment := do
  let f ← json.fields? ["mime", "local", "remote", "preview", "length", "encrypted"] false
  return {
    mime := ← f.required? "mime" asText?
    localPath := ← f.optional? "local" asText?
    remote := ← f.optional? "remote" asText?
    preview := ← f.optional? "preview" asText?
    length := ← f.required? "length" asNat64?
    encrypted := ← f.required? "encrypted" asBool? }

def Location.ofJson? (json : Json) : Option Location := do
  let f ← json.fields? ["latitude", "longitude", "text", "street"] false
  return {
    latitude := ← f.required? "latitude" Coordinate.ofJson?
    longitude := ← f.required? "longitude" Coordinate.ofJson?
    text := ← f.optional? "text" asText?
    street := ← f.optional? "street" asText? }

def GroupRef.ofJson? (json : Json) : Option GroupRef := do
  let f ← json.fields? ["id", "owner"] false
  return { id := ← f.required? "id" Identity.ofJson?, owner := ← f.required? "owner" Identity.ofJson? }

def Message.ofJson? (json : Json) : Option Message := do
  let f ← json.fields?
    ["id", "thread_id", "peer", "direction", "status", "mime", "body", "encrypted", "security_key",
     "attachment", "location", "group", "group_command", "in_reply_to", "server_id", "timestamp",
     "status_changed"] false
  return {
    id := ← f.required? "id" MessageId.ofJson?
    thread := ← f.required? "thread_id" ThreadId.ofJson?
    peer := ← f.required? "peer" Identity.ofJson?
    direction := ← f.required? "direction" Direction.ofJson?
    status := ← f.required? "status" Status.ofJson?
    mime := ← f.required? "mime" asText?
    body := ← f.required? "body" asOctets?
    encrypted := ← f.required? "encrypted" asBool?
    securityKey := ← f.optional? "security_key" asText?
    attachment := ← f.optional? "attachment" Attachment.ofJson?
    location := ← f.optional? "location" Location.ofJson?
    group := ← f.optional? "group" GroupRef.ofJson?
    groupCommand := ← f.optional? "group_command" GroupCommand.ofJson?
    inReplyTo := ← f.optional? "in_reply_to" MessageId.ofJson?
    serverId := ← f.optional? "server_id" asText?
    timestamp := ← f.required? "timestamp" asInt64?
    statusChanged := ← f.required? "status_changed" asInt64? }

def InboundAttachment.ofJson? (json : Json) : Option InboundAttachment := do
  let f ← json.fields? ["mime", "url", "length", "encrypted"] false
  return {
    mime := ← f.required? "mime" asText?
    url := ← f.required? "url" asText?
    length := ← f.required? "length" asNat64?
    encrypted := ← f.required? "encrypted" asBool? }

def InboundGroup.ofJson? (json : Json) : Option InboundGroup := do
  let f ← json.fields? ["id", "owner", "command"] false
  return {
    id := ← f.required? "id" Identity.ofJson?
    owner := ← f.required? "owner" Identity.ofJson?
    command := ← f.optional? "command" GroupCommand.ofJson? }

def InboundMessage.ofJson? (json : Json) : Option InboundMessage := do
  let f ← json.fields?
    ["server_id", "sender", "mime", "body", "encrypted", "timestamp", "attachment", "location",
     "in_reply_to", "group", "request_receipt"] false
  return {
    serverId := ← f.required? "server_id" asText?
    sender := ← f.required? "sender" Identity.ofJson?
    mime := ← f.required? "mime" asText?
    body := ← f.required? "body" asOctets?
    encrypted := ← f.required? "encrypted" asBool?
    timestamp := ← f.required? "timestamp" asInt64?
    attachment := ← f.optional? "attachment" InboundAttachment.ofJson?
    location := ← f.optional? "location" Location.ofJson?
    inReplyTo := ← f.optional? "in_reply_to" asText?
    group := ← f.optional? "group" InboundGroup.ofJson?
    requestReceipt := ← f.required? "request_receipt" asBool? }

def GroupMember.ofJson? (json : Json) : Option GroupMember := do
  let f ← json.fields? ["identity", "state"] false
  return {
    identity := ← f.required? "identity" Identity.ofJson?
    state := ← f.required? "state" MemberState.ofJson? }

def Group.ofJson? (json : Json) : Option Group := do
  let f ← json.fields? ["id", "owner", "subject", "thread_id", "membership", "members"] false
  return {
    id := ← f.required? "id" Identity.ofJson?
    owner := ← f.required? "owner" Identity.ofJson?
    subject := ← f.optional? "subject" asText?
    thread := ← f.required? "thread_id" ThreadId.ofJson?
    membership := ← f.required? "membership" Membership.ofJson?
    members := ← f.required? "members" (asList? GroupMember.ofJson?) }

def ThreadSummary.ofJson? (json : Json) : Option ThreadSummary := do
  let f ← json.fields? ["message_id", "direction", "status", "mime", "snippet", "timestamp"] false
  return {
    message := ← f.required? "message_id" MessageId.ofJson?
    direction := ← f.required? "direction" Direction.ofJson?
    status := ← f.required? "status" Status.ofJson?
    mime := ← f.required? "mime" asText?
    snippet := ← f.required? "snippet" asText?
    timestamp := ← f.required? "timestamp" asInt64? }

def Thread.ofJson? (json : Json) : Option Thread := do
  let f ← json.fields?
    ["id", "peer", "is_group", "request_status", "draft", "message_count", "last_message"] false
  return {
    id := ← f.required? "id" ThreadId.ofJson?
    peer := ← f.required? "peer" Identity.ofJson?
    isGroup := ← f.required? "is_group" asBool?
    requestStatus := ← f.required? "request_status" RequestStatus.ofJson?
    draft := ← f.optional? "draft" asText?
    messageCount := ← f.required? "message_count" (asNat? UInt32.size)
    lastMessage := ← f.optional? "last_message" ThreadSummary.ofJson? }

def AddressBookEntry.ofJson? (json : Json) : Option AddressBookEntry := do
  let f ← json.fields? ["number", "lookup_key", "display_name"] false
  return {
    number := ← f.required? "number" asText?
    lookupKey := ← f.required? "lookup_key" asText?
    displayName := ← f.optional? "display_name" asText? }

def Contact.ofJson? (json : Json) : Option Contact := do
  let f ← json.fields?
    ["identity", "number", "lookup_key", "display_name", "registered", "status", "last_seen",
     "public_key", "fingerprint", "blocked"] false
  return {
    identity := ← f.required? "identity" Identity.ofJson?
    number := ← f.required? "number" asText?
    lookupKey := ← f.optional? "lookup_key" asText?
    displayName := ← f.required? "display_name" asText?
    registered := ← f.required? "registered" asBool?
    status := ← f.optional? "status" asText?
    lastSeen := ← f.optional? "last_seen" asInt64?
    publicKey := ← f.optional? "public_key" asOctets?
    fingerprint := ← f.optional? "fingerprint" asText?
    blocked := ← f.required? "blocked" asBool? }

def ContactOp.ofJson? (json : Json) : Option ContactOp := do
  let choice ← json.choice?
  let contact ← choice.content.bind Contact.ofJson?
  match choice.name with
  | "Upsert" => some (.upsert contact)
  | "Profile" => some (.profile contact)
  | _ => none

/-- Settings, with the usual values for those that are not given. -/
def Settings.ofJson? (json : Json) : Option Settings := do
  let usual : Settings := {}
  let f ← json.fields?
    ["self_identity", "offline_mode", "endpoint_server", "encryption_enabled", "image_compression",
     "roster_batch_size", "sync_timeout_secs", "min_sync_interval_secs", "auto_download_limit"] true
  return {
    selfIdentity := ← f.defaulted? "self_identity" usual.selfIdentity
      (Json.asOption? Identity.ofJson?)
    offlineMode := ← f.defaulted? "offline_mode" usual.offlineMode asBool?
    endpointServer := ← f.defaulted? "endpoint_server" usual.endpointServer (Json.asOption? asText?)
    encryptionEnabled := ← f.defaulted? "encryption_enabled" usual.encryptionEnabled asBool?
    imageCompression := ← f.defaulted? "image_compression" usual.imageCompression (asNat? 256)
    rosterBatchSize := ← f.defaulted? "roster_batch_size" usual.rosterBatchSize asNat64?
    syncTimeoutSecs := ← f.defaulted? "sync_timeout_secs" usual.syncTimeoutSecs asNat64?
    minSyncIntervalSecs := ← f.defaulted? "min_sync_interval_secs" usual.minSyncIntervalSecs asNat64?
    autoDownloadLimit := ← f.defaulted? "auto_download_limit" usual.autoDownloadLimit
      (Json.asOption? asNat64?) }

end Messenger
