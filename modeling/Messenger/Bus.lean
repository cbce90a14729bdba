/-
The bus that carries events between the parts of the program.

An event goes to everybody who has subscribed and not left.  A subscriber either takes its events
itself, or has registered a handler, which is given them later, one after the other, and nothing once
the end of its subscription has taken effect.  Every subscriber has a queue of its own.  The bus keeps
links to the queues, and drops a link when it finds that nobody takes from the queue any longer.
-/
import Messenger.Event
import Messenger.Text.Quoted

namespace Messenger

structure Subscriber where
  /-- Whether a handler gets the events. -/
  handled : Bool
  /-- The events that the subscriber has got. -/
  got : Array Event := #[]
  /-- The events that wait for the subscriber. -/
  queue : Array Event := #[]
  /-- Whether its subscription is ended, although the handler has not noticed yet. -/
  leaving : Bool := false
  closed : Bool := false

namespace Subscriber

def received (subscriber : Subscriber) : List Event := subscriber.got.toList

def waiting (subscriber : Subscriber) : List Event := subscriber.queue.toList

/-- Sends an event; one who has left gets nothing more. -/
def send (event : Event) (subscriber : Subscriber) : Subscriber :=
  if subscriber.closed then subscriber
  else { subscriber with queue := subscriber.queue.push event }

/-- Gets the events that have waited longest, as many as are asked for. -/
def take (subscriber : Subscriber) (count : Nat) : Subscriber :=
  { subscriber with
    got := subscriber.got ++ subscriber.queue.take count
    queue := subscriber.queue.drop count }

/-- Gets the next event, if one waits. -/
def next (subscriber : Subscriber) : Subscriber := subscriber.take 1

/-- Gets all that waits. -/
def takeAll (subscriber : Subscriber) : Subscriber := subscriber.take subscriber.queue.size

/-- Takes no more events; those that wait are lost. -/
def close (subscriber : Subscriber) : Subscriber := { subscriber with queue := #[], closed := true }

/-- Ends the subscription: a handler notices later, anybody else leaves at once. -/
def leave (subscriber : Subscriber) : Subscriber :=
  if subscriber.handled then { subscriber with leaving := true } else subscriber.close

/-- A handler whose subscription is ended notices. -/
def stop (subscriber : Subscriber) : Subscriber :=
  if subscriber.leaving then subscriber.close else subscriber

/-- Lets a handler run until there is nothing left to do for it. -/
def settle (subscriber : Subscriber) : Subscriber :=
  if !subscriber.handled then subscriber
  else if subscriber.leaving then subscriber.close
  else subscriber.takeAll

end Subscriber

/-- The bus with all who have ever subscribed, and links to those to whom it sends. -/
structure Bus where
  subscribers : Array Subscriber := #[]
  links : List Nat := []

namespace Bus

def isOpen (subscribers : Array Subscriber) (number : Nat) : Bool :=
  (subscribers[number]?).any fun subscriber => !subscriber.closed

/-- Subscribes, to take the events or to have them handled. -/
def subscribe (bus : Bus) (handled : Bool) : Bus × Nat :=
  let number := bus.subscribers.size
  (⟨bus.subscribers.push { handled }, bus.links ++ [number]⟩, number)

/-- Sends an event along links, and keeps those that lead to somebody. -/
def post (event : Event) : Array Subscriber → List Nat → Array Subscriber × List Nat
  | subscribers, [] => (subscribers, [])
  | subscribers, number :: rest =>
    if isOpen subscribers number then
      let (subscribers, kept) := post event (subscribers.modify number (·.send event)) rest
      (subscribers, number :: kept)
    else post event subscribers rest

def publish (bus : Bus) (event : Event) : Bus :=
  let (subscribers, links) := post event bus.subscribers bus.links
  ⟨subscribers, links⟩

def next (bus : Bus) (number : Nat) : Bus :=
  { bus with subscribers := bus.subscribers.modify number Subscriber.next }

def receive (bus : Bus) (number : Nat) : Bus × List Event :=
  ({ bus with subscribers := bus.subscribers.modify number Subscriber.takeAll },
    ((bus.subscribers[number]?).map Subscriber.waiting).getD [])

def leave (bus : Bus) (number : Nat) : Bus :=
  { bus with subscribers := bus.subscribers.modify number Subscriber.leave }

def stop (bus : Bus) (number : Nat) : Bus :=
  { bus with subscribers := bus.subscribers.modify number Subscriber.stop }

def settle (bus : Bus) : Bus := { bus with subscribers := bus.subscribers.map Subscriber.settle }

def prune (bus : Bus) : Bus := { bus with links := bus.links.filter (isOpen bus.subscribers) }

def receiverCount (bus : Bus) : Nat := bus.prune.links.length

end Bus

/-- The proof of a subscription with a handler, as a text. -/
def describeSubscription (name : String) (active : Bool) : String :=
  "Subscription \x7b name: " ++ Text.Quoted.quote name ++ ", active: " ++ toString active ++ " \x7d"

end Messenger
