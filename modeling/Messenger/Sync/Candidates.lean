/-
The people whom a sync asks about.

Every number of the address book with at least four digits stands for an account at our server.
Different spellings of a number give the same account; then the entry with the smallest key
stands for it.  Shorter numbers are service numbers and not looked up.
-/
import Messenger.Contact
import Messenger.Table

namespace Messenger.Sync

/-- The entry that stands for each account, by account. -/
abbrev Candidates := Table Identity AddressBookEntry

/-- The least number of digits of a number that is looked up. -/
def minDigits : Nat := 4

/-- Whether the number of an entry is long enough to be looked up. -/
def isLookedUp (entry : AddressBookEntry) : Bool :=
  minDigits ≤ (Identity.digits entry.number).length

namespace Candidates

/-- Adds an entry, unless its account has one. -/
def add (server : String) (candidates : Candidates) (entry : AddressBookEntry) : Candidates :=
  let identity := Identity.ofNumber entry.number server
  if candidates.has identity then candidates else candidates.put identity entry

/-- The candidates of an address book, which is given in the order of its keys. -/
def ofEntries (server : String) (entries : List AddressBookEntry) : Candidates :=
  (entries.filter isLookedUp).foldl (add server) ∅

end Candidates

/-- How many entries are not looked up. -/
def countShort (entries : List AddressBookEntry) : Nat :=
  entries.countP fun entry => !isLookedUp entry

end Messenger.Sync
