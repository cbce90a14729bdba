/-
The rows that a sync writes for what its round has found.

A finding becomes a contact.  What the address book knows about the person comes first; a person
who is not in it is named by the local part of the address.  The contact that is ourselves is
our profile as well.  People whom the server does not know any more get no row.
-/
import Messenger.Cipher
import Messenger.Discovery.Round
import Messenger.Settings
import Messenger.Sync.Candidates

namespace Messenger.Sync

open Discovery (Finding)

/-- The number of a person: the one in the address book, or the local part of the address. -/
def numberOf (entry : Option AddressBookEntry) (finding : Finding) : String :=
  (entry.map (·.number)).getD finding.identity.localPart

/-- The name of a person: the one in the address book, in the key, on the roster, or the number. -/
def displayNameOf (cipher : Cipher) (entry : Option AddressBookEntry) (finding : Finding) : String :=
  let name := entry.bind (·.displayName)
    <|> finding.publicKey.bind cipher.keyName
    <|> finding.rosterName
  name.getD (numberOf entry finding)

/-- The contact that a finding becomes. -/
def contactOf (cipher : Cipher) (entry : Option AddressBookEntry) (finding : Finding) : Contact where
  identity := finding.identity
  number := numberOf entry finding
  lookupKey := entry.map (·.lookupKey)
  displayName := displayNameOf cipher entry finding
  registered := true
  status := finding.status
  lastSeen := finding.timestamp
  publicKey := finding.publicKey
  fingerprint := finding.publicKey.map cipher.fingerprint
  blocked := finding.blocked

/-- The rows of one person. -/
def rowsOf (settings : Settings) (cipher : Cipher) (candidates : Candidates) (finding : Finding) :
    List ContactOp :=
  let contact := contactOf cipher (candidates.get? finding.identity) finding
  if settings.isSelf finding.identity then [.profile contact, .upsert contact] else [.upsert contact]

/-- The rows of everybody whom the server still knows. -/
def rows (settings : Settings) (cipher : Cipher) (candidates : Candidates)
    (findings : List Finding) : List ContactOp :=
  (findings.filter (!·.discarded)).flatMap (rowsOf settings cipher candidates)

end Messenger.Sync
