/-
Messages as they arrive from the server.
-/
import Messenger.Message.Basic

namespace Messenger

structure InboundAttachment where
  mime : String
  url : String
  length : Nat
  encrypted : Bool
deriving DecidableEq

/-- The file of an arriving message as it is stored. -/
def InboundAttachment.stored (a : InboundAttachment) : Attachment where
  mime := a.mime
  localPath := none
  remote := some a.url
  preview := none
  length := a.length
  encrypted := a.encrypted

/-- The group part of an arriving message. -/
structure InboundGroup where
  id : Identity
  owner : Identity
  command : Option GroupCommand
deriving DecidableEq

structure InboundMessage where
  serverId : String
  sender : Identity
  mime : String
  body : Octets
  encrypted : Bool
  timestamp : Int
  attachment : Option InboundAttachment
  location : Option Location
  inReplyTo : Option String
  group : Option InboundGroup
  requestReceipt : Bool
deriving DecidableEq

namespace InboundMessage

def groupCommand (message : InboundMessage) : Option GroupCommand :=
  message.group.bind (·.command)

def isGroupCommand (message : InboundMessage) : Bool := message.groupCommand.isSome

end InboundMessage

end Messenger
