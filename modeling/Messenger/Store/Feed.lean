/-
The feed of changes as one observer sees it.

The feed holds a limited number of changes for an observer.  When more are announced before the
observer reads, the oldest are dropped, and the observer is told how many.
-/
import Messenger.Store.Basic

namespace Messenger

/-- What an observer reads. -/
inductive Notice where
  | change (change : Change)
  | lagged (count : Nat)
deriving DecidableEq

/-- How many changes the feed holds for an observer. -/
def feedCapacity : Nat := 256

/-- What an observer reads after the given announcements. -/
def readFeed (announced : List Change) : List Notice :=
  let dropped := announced.length - feedCapacity
  let kept := (announced.drop dropped).map .change
  if dropped = 0 then kept else .lagged dropped :: kept

end Messenger
