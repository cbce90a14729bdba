/-
A clock that strikes at even distances.

It strikes first at once.  Strikes that are missed are made up for one after the other, so that
their number does not depend on how busy the listener was.
-/

namespace Messenger.Sync

structure Ticker where
  interval : Nat
  /-- When it strikes next. -/
  next : Nat
deriving DecidableEq

namespace Ticker

/-- A clock that begins now; it needs a distance to strike at. -/
def start? (interval now : Nat) : Option Ticker :=
  if interval = 0 then none else some ⟨interval, now⟩

/-- The clock after its next strike, if it is time for it. -/
def strike? (ticker : Ticker) (now : Nat) : Option Ticker :=
  if ticker.next ≤ now then some { ticker with next := ticker.next + ticker.interval } else none

end Ticker

end Messenger.Sync
