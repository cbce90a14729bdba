/-
The address book of the device and the contacts that a sync makes from it.
-/
import Messenger.Identity
import Messenger.Text.Octets

namespace Messenger

/-- A person in the address book of the device. -/
structure AddressBookEntry where
  number : String
  lookupKey : String
  displayName : Option String
deriving DecidableEq

/-- A person with an account. -/
structure Contact where
  identity : Identity
  number : String
  lookupKey : Option String := none
  displayName : String
  registered : Bool := true
  status : Option String := none
  lastSeen : Option Int := none
  publicKey : Option Octets := none
  fingerprint : Option String := none
  blocked : Bool := false
deriving DecidableEq

/-- Whether the contact has an address that can be written to. -/
def Contact.isValid (contact : Contact) : Bool :=
  !contact.identity.isEmpty && contact.identity.hasServer

/-- A row to write: a contact, or our own profile. -/
inductive ContactOp where
  | upsert (contact : Contact)
  | profile (contact : Contact)
deriving DecidableEq

def ContactOp.contact : ContactOp → Contact
  | .upsert contact => contact
  | .profile contact => contact

/-- How many rows of a batch were written, and how many refused. -/
structure BatchOutcome where
  applied : Nat
  skipped : Nat
deriving DecidableEq

end Messenger
