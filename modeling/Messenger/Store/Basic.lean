/-
What is stored on the device, and what a write leaves behind.

The tables are kept together with two indices, from server-given names to messages and from
people to their threads, because what a look-up answers depends on the order in which the indices
were written.  A write either fails and changes nothing, or gives a `Committed`: its answer, the
new store, and the changes to announce.  How a database lays the tables out and locks them is left
out; a write is one step.
-/
import Messenger.Table
import Messenger.Ids
import Messenger.Group
import Messenger.Thread
import Messenger.Contact
import Messenger.Failure

namespace Messenger

/-- What an observer of the store is told to read again. -/
inductive Change where
  | message (id : MessageId)
  | thread (id : ThreadId)
  | group (id : Identity)
  | contacts
deriving DecidableEq

/-- A name that the server gave to a message; names of each direction are a space of their own. -/
structure ServerKey where
  direction : Direction
  serverId : String
deriving DecidableEq

namespace ServerKey

def rank : Direction → Nat
  | .incoming => 0
  | .outgoing => 1

/-- By direction, then by name. -/
def cmp : ServerKey → ServerKey → Ordering :=
  compareLex (compareOn fun key => rank key.direction) (compareOn (·.serverId))

instance : Ord ServerKey := ⟨cmp⟩

instance : Std.TransOrd ServerKey := inferInstanceAs (Std.TransCmp (compareLex _ _))

instance : Std.LawfulEqOrd ServerKey where
  eq_of_compare {a b} h := by
    have h : (compare (rank a.direction) (rank b.direction)).then
        (compare a.serverId b.serverId) = .eq := h
    obtain ⟨directions, names⟩ := Ordering.then_eq_eq.1 h
    have directions : a.direction = b.direction := by
      have ranks : rank a.direction = rank b.direction := by simpa using directions
      revert ranks
      cases a.direction <;> cases b.direction <;> simp [rank]
    have names : a.serverId = b.serverId := by simpa using names
    cases a; cases b; simp_all

end ServerKey

structure Store where
  messages : Table MessageId Message := ∅
  threads : Table ThreadId Thread := ∅
  groups : Table Identity Group := ∅
  contacts : Table Identity Contact := ∅
  profile : Option Contact := none
  addressBook : Table String AddressBookEntry := ∅
  serverIds : Table ServerKey MessageId := ∅
  threadOf : Table Identity ThreadId := ∅
  nextMessage : MessageId := ⟨1⟩
  nextThread : ThreadId := ⟨1⟩
  resyncPending : Bool := false

instance : Inhabited Store := ⟨{}⟩

instance : EmptyCollection Store := ⟨{}⟩

/-- What a successful write leaves: its answer, the store, the changes to announce in order. -/
structure Committed (α : Type) where
  value : α
  store : Store
  changes : List Change := []

end Messenger
