/-
The wait of a sync for its round.

While a sync waits, its round hears the events on the bus.  The wait can end because the round
has ended, because its time is over, or because the sync is cancelled.  When the cancellation
comes together with one of the others, either may win; an outcome wins over the end of the time.
-/
import Messenger.Discovery.Round
import Messenger.Sync.Basic
import Messenger.Sync.Candidates

namespace Messenger.Sync

open Discovery (Round)

/-- A sync that waits for its round. -/
structure Wait where
  candidates : Candidates
  round : Round
  /-- The instant at which the time is over. -/
  deadline : Nat
  tally : Tally := {}
  outcome : Option Discovery.Outcome := none
  cancelled : Bool := false

inductive Ending where
  | outcome (outcome : Discovery.Outcome)
  | expired
  | cancelled

namespace Wait

/-- Lets the round hear an event, and gives what it publishes. -/
def hear (wait : Wait) (event : Event) : Wait × List Event :=
  let progress := wait.round.step event
  ({ wait with round := progress.round, outcome := wait.outcome <|> progress.outcome },
    progress.published)

def hearAll (wait : Wait) : List Event → Wait × List Event
  | [] => (wait, [])
  | event :: rest =>
    let (wait, published) := wait.hear event
    let (wait, more) := wait.hearAll rest
    (wait, published ++ more)

def cancel (wait : Wait) : Wait := { wait with cancelled := true }

/-- How the wait can end now apart from a cancellation. -/
def ending? (wait : Wait) (now : Nat) : Option Ending :=
  match wait.outcome with
  | some outcome => some (.outcome outcome)
  | none => if wait.deadline ≤ now then some .expired else none

/-- The ways in which the wait can end now. -/
def endings (wait : Wait) (now : Nat) : List Ending :=
  (if wait.cancelled then [.cancelled] else []) ++ (wait.ending? now).toList

end Wait

end Messenger.Sync
