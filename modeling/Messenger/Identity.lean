/-
Identities: the addresses of people and of group conversations.

An identity is a bare address in lower case.  `Identity.of` makes one from what a person types or
a server sends: the blanks at both ends go, then everything from the first slash on, then the
case.  Identities are ordered as their texts are, character by character.
-/
import Messenger.Text.Blank
import Messenger.Text.LowerCase
import Messenger.Text.Hex
import Messenger.Text.Octets
import Messenger.Digest.Blake3

namespace Messenger

structure Identity where
  text : String
deriving DecidableEq, Inhabited

namespace Identity

instance : Ord Identity := ⟨compareOn text⟩

instance : Std.TransOrd Identity := inferInstanceAs (Std.TransCmp (compareOn text))

instance : Std.LawfulEqOrd Identity where
  eq_of_compare {a b} h := by
    have h : compare a.text b.text = .eq := h
    cases a; cases b; simp_all

/-- The part of an address before the first slash. -/
def bare (cs : List Char) : List Char := cs.takeWhile (· ≠ '/')

/-- The characters of the identity that a raw address denotes. -/
def normal (raw : List Char) : List Char := Text.lowerCase (bare (Text.trim raw))

/-- The identity that a raw address denotes. -/
def of (raw : String) : Identity := ⟨String.ofList (normal raw.toList)⟩

/-- The decimal digits of a telephone number. -/
def digits (number : String) : List Char := number.toList.filter Char.isDigit

/-- The account of a telephone number: the first twenty octets of the digest of its digits, at
the given server. -/
def ofNumber (number server : String) : Identity :=
  let digest := Digest.blake3 (Octets.ofText (String.ofList (digits number)))
  of (String.ofList (Text.Hex.encode .lower (digest.take 20)) ++ "@" ++ server)

/-- The text before the first `@`, or all of it. -/
def localPart (identity : Identity) : String :=
  String.ofList (identity.text.toList.takeWhile (· ≠ '@'))

def isEmpty (identity : Identity) : Bool := identity.text = ""

/-- Whether the text has a place for a server. -/
def hasServer (identity : Identity) : Bool := identity.text.toList.contains '@'

end Identity

end Messenger
