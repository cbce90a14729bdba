/-
Events in the brief form.

A request id has no form of its own: whoever reads or writes events says which label stands for
which id, and an id without a label is left out.
-/
import Messenger.Brief.Read
import Messenger.Brief.Write
import Messenger.Event

namespace Messenger.Brief

/-- The labels of request ids. -/
structure Labels where
  id : String → RequestId
  label : RequestId → Option String

def Labels.none : Labels := ⟨fun _ => ⟨0⟩, fun _ => Option.none⟩

def presence (labels : Labels) (j : Json) : Presence where
  request := labels.id (textAt j "id")
  identity := identityAt j "identity"
  status := textAt? j "status"
  timestamp := optAt int j "timestamp"
  rosterName := textAt? j "roster_name"
  bothSubscribed := flagAt j "mutual"

def messageEvent? (j : Json) : Option Event :=
  let id := messageId (field j "id")
  match textAt j "type" with
  | "send_message_request" => some (.sendMessageRequest id)
  | "upload_attachment_request" => some (.uploadAttachmentRequest id)
  | "send_delivery_receipt_request" => some (.sendDeliveryReceiptRequest id)
  | "prepare_media_request" => some (.prepareMediaRequest id (natAt j "compression"))
  | "download_attachment_request" => some (.downloadAttachmentRequest id (textAt j "url"))
  | "message_sent" => some (.messageSent id)
  | "message_delivered" => some (.messageDelivered id)
  | "message_failed" => some (.messageFailed id)
  | "upload_completed" => some (.uploadCompleted id (textAt j "remote"))
  | "media_prepared" => some (.mediaPrepared id (textAt? j "preview") (natAt j "length"))
  | "delivery_receipt_sent" => some (.deliveryReceiptSent id)
  | _ => none

def discoveryEvent? (labels : Labels) (j : Json) : Option Event :=
  let id := labels.id (textAt j "id")
  let batch := labels.id (textAt j "batch_id")
  let who := identityAt j "identity"
  match textAt j "type" with
  | "connection_status_request" => some .connectionStatusRequest
  | "roster_match_request" => some (.rosterMatchRequest batch (identitiesAt j "identities"))
  | "presence_request" => some (.presenceRequest id)
  | "public_key_request" => some (.publicKeyRequest id)
  | "blocklist_request" => some (.blocklistRequest id)
  | "last_activity_request" => some (.lastActivityRequest id who)
  | "unsubscribe_request" => some (.unsubscribeRequest who)
  | "roster_match" => some (.rosterMatch batch (identitiesAt j "matched"))
  | "presence" => some (.presence (presence labels j))
  | "public_key" => some (.publicKey id who (bytes (field j "key")))
  | "blocklist" => some (.blocklist id (identitiesAt j "blocked"))
  | "last_activity" => some (.lastActivity id who (flagAt j "not_found"))
  | _ => none

def otherEvent? (j : Json) : Option Event :=
  match textAt j "type" with
  | "set_user_privacy_request" =>
    some (.setUserPrivacyRequest (identityAt j "identity") (action (field j "action")))
  | "connected" => some .connected
  | "disconnected" => some .disconnected
  | "roster_loaded" => some .rosterLoaded
  | "upload_service_found" => some .uploadServiceFound
  | "group_created" => some (.groupCreated (identityAt j "group"))
  | "user_subscribed" => some (.userSubscribed (identityAt j "identity"))
  | _ => none

/-- An event by its name, if there is one of that name. -/
def event? (labels : Labels) (j : Json) : Option Event :=
  messageEvent? j <|> discoveryEvent? labels j <|> otherEvent? j

def eventMembers (labels : Labels) (event : Event) : List (String × Option Json) :=
  let id (id : MessageId) : String × Option Json := ("id", some (.int id.val))
  let request (name : String) (id : RequestId) : String × Option Json :=
    textMember name (labels.label id)
  let who (identity : Identity) : String × Option Json := ("identity", some (identityOut identity))
  let people (name : String) (identities : List Identity) : String × Option Json :=
    (name, some (identitiesOut identities))
  match event with
  | .sendMessageRequest i | .uploadAttachmentRequest i | .sendDeliveryReceiptRequest i
  | .messageSent i | .messageDelivered i | .messageFailed i | .deliveryReceiptSent i => [id i]
  | .prepareMediaRequest i compression => [id i, ("compression", some (.nat compression))]
  | .downloadAttachmentRequest i url => [id i, ("url", some (.str url))]
  | .setUserPrivacyRequest peer action => [who peer, ("action", some (.str action.name))]
  | .rosterMatchRequest batch candidates =>
    [request "batch_id" batch, people "identities" candidates]
  | .presenceRequest r | .publicKeyRequest r | .blocklistRequest r => [request "id" r]
  | .lastActivityRequest r peer => [request "id" r, who peer]
  | .unsubscribeRequest peer | .userSubscribed peer => [who peer]
  | .rosterMatch batch matched => [request "batch_id" batch, people "matched" matched]
  | .presence p =>
    [request "id" p.request, who p.identity, textMember "status" p.status,
      ("timestamp", p.timestamp.map .int), textMember "roster_name" p.rosterName,
      ("mutual", some (.bool p.bothSubscribed))]
  | .publicKey r peer key => [request "id" r, who peer, ("key", some (bytesOut key))]
  | .blocklist r blocked => [request "id" r, people "blocked" blocked]
  | .lastActivity r peer notFound =>
    [request "id" r, who peer, ("not_found", some (.bool notFound))]
  | .groupCreated group => [("group", some (identityOut group))]
  | .uploadCompleted i remote => [id i, ("remote", some (.str remote))]
  | .mediaPrepared i preview length =>
    [id i, textMember "preview" preview, ("length", some (.nat length))]
  | .connectionStatusRequest | .connected | .disconnected | .rosterLoaded
  | .uploadServiceFound => []

def eventOut (labels : Labels) (event : Event) : Json :=
  stripped (("type", some (.str event.name)) :: eventMembers labels event)

end Messenger.Brief
