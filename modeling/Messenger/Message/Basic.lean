/-
Messages.

`MessageContent` is everything about a message that is known before it is stored; a `Message` is
the stored row, with its number and the time of its last change of state.
-/
import Messenger.Ids
import Messenger.Message.Status
import Messenger.Group.Command
import Messenger.Text.Octets

namespace Messenger

def textMime : String := "text/plain"

def groupCommandMime : String := "application/x-courier-group-command"

def locationMime : String := "application/x-courier-location"

/-- A file that belongs to a message: where it is on this device, where it is on the server. -/
structure Attachment where
  mime : String
  localPath : Option String
  remote : Option String
  preview : Option String
  length : Nat
  encrypted : Bool
deriving DecidableEq

/-- Whether the file is on this device only. -/
def Attachment.needsUpload (attachment : Attachment) : Bool :=
  attachment.localPath.isSome && attachment.remote.isNone

/-- A double-precision number by its bits, so that every value is kept as it came. -/
structure Coordinate where
  bits : UInt64
deriving DecidableEq

structure Location where
  latitude : Coordinate
  longitude : Coordinate
  text : Option String
  street : Option String
deriving DecidableEq

structure GroupRef where
  id : Identity
  owner : Identity
deriving DecidableEq

/-- A message before it is stored. -/
structure MessageContent where
  thread : ThreadId
  peer : Identity
  direction : Direction := .outgoing
  status : Status := .sending
  mime : String
  body : Octets := []
  encrypted : Bool := false
  securityKey : Option String := none
  attachment : Option Attachment := none
  location : Option Location := none
  group : Option GroupRef := none
  groupCommand : Option GroupCommand := none
  inReplyTo : Option MessageId := none
  serverId : Option String := none
  timestamp : Int
deriving DecidableEq

structure Message extends MessageContent where
  id : MessageId
  statusChanged : Int
deriving DecidableEq

namespace MessageContent

def isGroupCommand (message : MessageContent) : Bool := message.groupCommand.isSome

def text? (message : MessageContent) : Option String := message.body.text?

/-- Whether the message has a file that is on this device only. -/
def needsUpload (message : MessageContent) : Bool :=
  message.attachment.any Attachment.needsUpload

/-- The number of characters of a message that a list of conversations shows. -/
def snippetLength : Nat := 64

/-- The start of the body. -/
def bodySnippet (message : MessageContent) : String :=
  String.ofList (((message.text?).getD "").toList.take snippetLength)

/-- What a list of conversations shows of the message. -/
def snippet (message : MessageContent) : String :=
  match message.groupCommand, message.location, message.attachment with
  | some command, _, _ => command.describe
  | none, some _, _ => "[location]"
  | none, none, some attachment => "[" ++ attachment.mime ++ "]"
  | none, none, none => if message.encrypted then "[encrypted]" else message.bodySnippet

end MessageContent

end Messenger
