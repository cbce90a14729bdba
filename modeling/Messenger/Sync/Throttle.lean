/-
The throttle of automatic syncs.

One instant is remembered: when a sync last began or ended.  An automatic sync has to keep a
distance from it, a forced one does not; both move it when they begin and again when they end.
Instants are counted in milliseconds and never go back.
-/

namespace Messenger.Sync

/-- When a sync last began or ended. -/
structure Throttle where
  last : Option Nat := none
deriving DecidableEq

namespace Throttle

/-- Whether the last sync is less than the interval ago. -/
def isRecent (throttle : Throttle) (interval now : Nat) : Bool :=
  throttle.last.any fun last => now - last < interval

/-- Whether a sync may begin. -/
def allows (throttle : Throttle) (interval now : Nat) (forced : Bool) : Bool :=
  forced || !throttle.isRecent interval now

def stamp (_ : Throttle) (now : Nat) : Throttle := ⟨some now⟩

def claim? (throttle : Throttle) (interval now : Nat) (forced : Bool) : Option Throttle :=
  if throttle.allows interval now forced then some (throttle.stamp now) else none

theorem claim?_eq_some {throttle claimed : Throttle} {interval now : Nat} {forced : Bool} :
    throttle.claim? interval now forced = some claimed ↔
      throttle.allows interval now forced = true ∧ claimed = ⟨some now⟩ := by
  unfold claim? stamp
  split <;> grind

end Throttle

end Messenger.Sync
