/-
Group conversations and their members.

Members are kept in the order in which they were first named.  Someone who is kicked stays in
the list with that mark until a command names them again; someone who leaves is taken out.
-/
import Messenger.Ids
import Messenger.Group.Command

namespace Messenger

/-- Whether a named person belongs to the group. -/
inductive MemberState where
  | member
  | kicked
deriving DecidableEq, Inhabited

namespace MemberState

def all : List MemberState := [.member, .kicked]

def name : MemberState → String
  | .member => "member"
  | .kicked => "kicked"

end MemberState

structure GroupMember where
  identity : Identity
  state : MemberState
deriving DecidableEq

/-- An entry that counts. -/
def GroupMember.isLive (entry : GroupMember) : Bool := entry.state = .member

/-- Our own place in a group. -/
inductive Membership where
  | member
  | kicked
  | parted
deriving DecidableEq, Inhabited

namespace Membership

def all : List Membership := [.member, .kicked, .parted]

def name : Membership → String
  | .member => "member"
  | .kicked => "kicked"
  | .parted => "parted"

end Membership

structure Group where
  id : Identity
  owner : Identity
  subject : Option String := none
  thread : ThreadId
  membership : Membership := .member
  members : List GroupMember := []
deriving DecidableEq

/-- Sets the state of the first entry of a person. -/
def setState (identity : Identity) (state : MemberState) : List GroupMember → List GroupMember
  | [] => []
  | entry :: rest =>
    if entry.identity = identity then { entry with state } :: rest
    else entry :: setState identity state rest

namespace Group

/-- The people who belong to the group. -/
def liveMembers (group : Group) : List Identity :=
  (group.members.filter (·.isLive)).map (·.identity)

def isMember (group : Group) (identity : Identity) : Bool :=
  group.members.any fun entry => entry.identity = identity && entry.isLive

/-- Whether a person is in the list, with whatever mark. -/
def names (group : Group) (identity : Identity) : Bool :=
  group.members.any fun entry => entry.identity = identity

/-- Makes a person a member. -/
def addMember (group : Group) (identity : Identity) : Group :=
  if group.names identity then
    { group with members := setState identity .member group.members }
  else { group with members := group.members ++ [⟨identity, .member⟩] }

/-- Marks a person as kicked, if they are in the list. -/
def kickMember (group : Group) (identity : Identity) : Group :=
  { group with members := setState identity .kicked group.members }

def removeMember (group : Group) (identity : Identity) : Group :=
  { group with members := group.members.filter (·.identity ≠ identity) }

/-- Makes several people members, in order. -/
def addMembers (group : Group) (identities : List Identity) : Group :=
  identities.foldl addMember group

/-- Marks several people as kicked, in order. -/
def kickMembers (group : Group) (identities : List Identity) : Group :=
  identities.foldl kickMember group

end Group

end Messenger
