/-
The encryption that messages go through.

Any scheme can stand behind `Cipher`; `Cipher.plain` is the one that changes nothing.
-/
import Messenger.Failure
import Messenger.Text.Octets

namespace Messenger

/-- An encryption scheme, and what it can tell about a public key. -/
structure Cipher where
  encrypt : Identity → Octets → Except Failure Octets
  decrypt : Identity → Octets → Except Failure Octets
  fingerprint : Octets → String
  keyName : Octets → Option String

/-- The first twenty octets of the digest of a key, in capital digits. -/
def keyFingerprint (key : Octets) : String :=
  String.ofList (Text.Hex.encode .upper ((Digest.blake3 key).take 20))

def Cipher.plain : Cipher where
  encrypt _ plaintext := .ok plaintext
  decrypt _ ciphertext := .ok ciphertext
  fingerprint := keyFingerprint
  keyName _ := none

end Messenger
