/-
Group commands, sent and received.

A command that we give is stored as a message in the thread of the group and takes effect on our
own copy of the group at once.  A command that arrives changes our copy as it says; `applied` is
that change as a function on groups.
-/
import Messenger.Outbox.Compose
import Messenger.Message.Inbound

namespace Messenger

namespace Group

/-- Takes a person in: ourselves as membership, anybody else as a member. -/
def enroll (me : Option Identity) (group : Group) (identity : Identity) : Group :=
  if me = some identity then { group with membership := .member } else group.addMember identity

/-- Puts a person out: ourselves as membership, anybody else by a mark. -/
def expel (me : Option Identity) (group : Group) (identity : Identity) : Group :=
  if me = some identity then { group with membership := .kicked } else group.kickMember identity

def depart (me : Option Identity) (group : Group) (identity : Identity) : Group :=
  if me = some identity then { group with membership := .parted } else group.removeMember identity

/-- What a message from a sender does to the group: a command does what it says, and any other
message shows that its sender belongs to the group. -/
def applied (me : Option Identity) (sender : Identity) (command : Option GroupCommand)
    (group : Group) : Group :=
  match command with
  | none =>
    if me = some sender || group.isMember sender then group else group.enroll me sender
  | some (.create people subject) =>
    { (people ++ [group.owner]).foldl (enroll me) group with subject }
  | some (.members added removed existing) =>
    removed.foldl (expel me) ((added ++ existing ++ [group.owner]).foldl (enroll me) group)
  | some (.subject subject) => { group with subject := some subject }
  | some .part => group.depart me sender

end Group

namespace Outbox

open Messenger.Action

/-- Our own identity, which must be configured. -/
def selfIdentity : Action Identity := do
  match (← read).settings.selfIdentity with
  | some me => return me
  | none => fail (.invalidOperation "self identity not configured")

def save (group : Group) : Action Unit := commit .saveGroup (·.saveGroup group)

/-- The message that carries a command, in the thread of the group. -/
def commandMessage (group : Group) (command : GroupCommand) (serverId : String) (now : Int) :
    MessageContent where
  thread := group.thread
  peer := group.id
  mime := groupCommandMime
  body := .ofText command.describe
  group := some ⟨group.id, group.owner⟩
  groupCommand := some command
  serverId := some serverId
  timestamp := now

/-- Moves a group to the thread of its identity, if it is kept under another one. -/
def moveToThread (group : Group) (thread : Thread) : Action Group := do
  if thread.id = group.thread then return group
  let group := { group with thread := thread.id }
  save group
  return group

/-- Sends a command to a group; gives the message and the group as it is then stored. -/
def sendGroupCommand (group : Group) (command : GroupCommand) : Action (MessageId × Group) := do
  let thread ← commit .ensureThread (·.ensureThread group.id true)
  let group ← moveToThread group thread
  let serverId ← issueServerId
  let id ← enqueue (commandMessage group command serverId (← read).now)
  return (id, group)

/-- Starts a group of which we are the owner. -/
def createGroup (id : Identity) (people : List Identity) (subject : Option String) :
    Action MessageId := do
  let me ← selfIdentity
  let thread ← commit .ensureThread (·.ensureThread id true)
  let empty : Group := { id, owner := me, thread := thread.id, subject }
  let group := empty.addMembers (people.filter (· ≠ me))
  save group
  return (← sendGroupCommand group (.create people subject)).1

def addGroupMembers (id : Identity) (people : List Identity) : Action MessageId := do
  let me ← selfIdentity
  let before ← loadGroup id
  let group := before.addMembers (people.filter (· ≠ me))
  save group
  return (← sendGroupCommand group (.members people [] before.liveMembers)).1

def removeGroupMembers (id : Identity) (people : List Identity) : Action MessageId := do
  let before ← loadGroup id
  let group := before.kickMembers people
  save group
  return (← sendGroupCommand group (.members [] people before.liveMembers)).1

def setGroupSubject (id : Identity) (subject : String) : Action MessageId := do
  let group := { ← loadGroup id with subject := some subject }
  save group
  return (← sendGroupCommand group (.subject subject)).1

def leaveGroup (id : Identity) : Action MessageId := do
  let (message, group) ← sendGroupCommand (← loadGroup id) .part
  save { group with membership := .parted }
  return message

/-- Applies the group part of an arriving message to our copy of the group. -/
def applyInboundGroup (inbound : InboundGroup) (sender : Identity) (thread : ThreadId) :
    Action Unit := do
  let me := (← read).settings.selfIdentity
  let known ← look .group (·.group? inbound.id)
  let group : Group := known.getD { id := inbound.id, owner := inbound.owner, thread }
  save ({ group with owner := inbound.owner, thread }.applied me sender inbound.command)

end Outbox

end Messenger
