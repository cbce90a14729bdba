/-
The commands by which the members of a group conversation change it.
-/
import Messenger.Identity

namespace Messenger

/-- A change to a group, carried by a message. -/
inductive GroupCommand where
  | create (members : List Identity) (subject : Option String)
  | members (added removed existing : List Identity)
  | subject (subject : String)
  | part
deriving DecidableEq

namespace GroupCommand

def isCreate : GroupCommand → Bool
  | .create _ _ => true
  | _ => false

def isPart : GroupCommand → Bool
  | .part => true
  | _ => false

/-- Identities between commas. -/
def joined (identities : List Identity) : String := ",".intercalate (identities.map (·.text))

/-- The words before a list of identities; nothing when the list is empty. -/
def listed (word : String) (identities : List Identity) : List String :=
  if identities.isEmpty then [] else [word ++ joined identities]

/-- A line that says what the command does. -/
def describe : GroupCommand → String
  | .create people _ => "create:" ++ joined people
  | .members added removed _ => ";".intercalate (listed "add:" added ++ listed "remove:" removed)
  | .subject line => "subject:" ++ line
  | .part => "part"

end GroupCommand

end Messenger
