/-
The events that travel between the parts of the program and to the server connection.
-/
import Messenger.Ids
import Messenger.Text.Octets
import Messenger.Thread

namespace Messenger

/-- What the server tells about a person's presence. -/
structure Presence where
  request : RequestId
  identity : Identity
  status : Option String
  timestamp : Option Int
  rosterName : Option String
  bothSubscribed : Bool
deriving DecidableEq

/-- An event: requests about messages, requests and answers of contact discovery, changes of the
connection, and acknowledgements. -/
inductive Event where
  | sendMessageRequest (id : MessageId)
  | uploadAttachmentRequest (id : MessageId)
  | sendDeliveryReceiptRequest (id : MessageId)
  | prepareMediaRequest (id : MessageId) (compression : Nat)
  | downloadAttachmentRequest (id : MessageId) (url : String)
  | setUserPrivacyRequest (identity : Identity) (action : PrivacyAction)
  | connectionStatusRequest
  | rosterMatchRequest (batch : RequestId) (identities : List Identity)
  | presenceRequest (request : RequestId)
  | publicKeyRequest (request : RequestId)
  | blocklistRequest (request : RequestId)
  | lastActivityRequest (request : RequestId) (identity : Identity)
  | unsubscribeRequest (identity : Identity)
  | rosterMatch (batch : RequestId) (matched : List Identity)
  | presence (presence : Presence)
  | publicKey (request : RequestId) (identity : Identity) (key : Octets)
  | blocklist (request : RequestId) (blocked : List Identity)
  | lastActivity (request : RequestId) (identity : Identity) (notFound : Bool)
  | connected
  | disconnected
  | rosterLoaded
  | uploadServiceFound
  | groupCreated (group : Identity)
  | userSubscribed (identity : Identity)
  | messageSent (id : MessageId)
  | messageDelivered (id : MessageId)
  | messageFailed (id : MessageId)
  | uploadCompleted (id : MessageId) (remote : String)
  | mediaPrepared (id : MessageId) (preview : Option String) (length : Nat)
  | deliveryReceiptSent (id : MessageId)
deriving DecidableEq

namespace Event

def name : Event → String
  | .sendMessageRequest _ => "send_message_request"
  | .uploadAttachmentRequest _ => "upload_attachment_request"
  | .sendDeliveryReceiptRequest _ => "send_delivery_receipt_request"
  | .prepareMediaRequest _ _ => "prepare_media_request"
  | .downloadAttachmentRequest _ _ => "download_attachment_request"
  | .setUserPrivacyRequest _ _ => "set_user_privacy_request"
  | .connectionStatusRequest => "connection_status_request"
  | .rosterMatchRequest _ _ => "roster_match_request"
  | .presenceRequest _ => "presence_request"
  | .publicKeyRequest _ => "public_key_request"
  | .blocklistRequest _ => "blocklist_request"
  | .lastActivityRequest _ _ => "last_activity_request"
  | .unsubscribeRequest _ => "unsubscribe_request"
  | .rosterMatch _ _ => "roster_match"
  | .presence _ => "presence"
  | .publicKey _ _ _ => "public_key"
  | .blocklist _ _ => "blocklist"
  | .lastActivity _ _ _ => "last_activity"
  | .connected => "connected"
  | .disconnected => "disconnected"
  | .rosterLoaded => "roster_loaded"
  | .uploadServiceFound => "upload_service_found"
  | .groupCreated _ => "group_created"
  | .userSubscribed _ => "user_subscribed"
  | .messageSent _ => "message_sent"
  | .messageDelivered _ => "message_delivered"
  | .messageFailed _ => "message_failed"
  | .uploadCompleted _ _ => "upload_completed"
  | .mediaPrepared _ _ _ => "media_prepared"
  | .deliveryReceiptSent _ => "delivery_receipt_sent"

end Event

end Messenger
