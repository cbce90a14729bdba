/-
# One subscriber

What may happen to a subscriber is an `Act`, and what an act makes of it is said once (`Makes`):

| | got | waiting |
| :-- | :-- | :-- |
| an event is sent | same | the event at the end |
| events are taken | what waited longest at the end | the rest |
| the subscriber closes | same | nothing |

So as long as a subscriber is open, what it has got and what waits for it are the events sent
(`Makes.received_append_waiting`), and who is closed stays closed and gets nothing more.  `Follows` says
how a subscriber stands after a sequence of acts.
-/
import Messenger.Bus
import Mathlib.Data.List.Induction

namespace Messenger

namespace Subscriber

inductive Act where
  | send (event : Event)
  | next
  | takeAll
  | leave
  | stop
  | settle

def act (subscriber : Subscriber) : Act → Subscriber
  | .send event => subscriber.send event
  | .next => subscriber.next
  | .takeAll => subscriber.takeAll
  | .leave => subscriber.leave
  | .stop => subscriber.stop
  | .settle => subscriber.settle

def Act.event? : Act → Option Event
  | .send event => some event
  | _ => none

/-- Whether the act closes the subscriber. -/
def closes (subscriber : Subscriber) : Act → Bool
  | .leave => !subscriber.handled
  | .stop => subscriber.leaving
  | .settle => subscriber.handled && subscriber.leaving
  | _ => false

/-- What an act makes of a subscriber. -/
inductive Makes (subscriber : Subscriber) (act : Act) : Subscriber → Prop
  | sent (event : Event) (sends : act = .send event) (stays : subscriber.closed = false) :
      Makes subscriber act { subscriber with queue := subscriber.queue.push event }
  | lost (event : Event) (sends : act = .send event) (closed : subscriber.closed = true) :
      Makes subscriber act subscriber
  | took (count : Nat) (silent : act.event? = none) (stays : subscriber.closes act = false)
      (remains : act ≠ .leave) : Makes subscriber act (subscriber.take count)
  | left (leaves : act = .leave) (handled : subscriber.handled = true) :
      Makes subscriber act { subscriber with leaving := true }
  | closed (closes : subscriber.closes act = true) : Makes subscriber act subscriber.close

theorem take_zero (subscriber : Subscriber) : subscriber.take 0 = subscriber := by
  simp [take]

theorem waiting_take (subscriber : Subscriber) (count : Nat) :
    (subscriber.take count).waiting = subscriber.waiting.drop count := by
  have all : (subscriber.queue.toList.drop count).length ≤ subscriber.queue.size - count :=
    Nat.le_of_eq List.length_drop
  simp [waiting, take, List.take_of_length_le all]

theorem received_take (subscriber : Subscriber) (count : Nat) :
    (subscriber.take count).received = subscriber.received ++ subscriber.waiting.take count := by
  simp [received, waiting, take]

theorem closed_send (subscriber : Subscriber) (event : Event) :
    (subscriber.send event).closed = subscriber.closed := by
  rw [send]
  split <;> rfl

theorem send_of_closed {subscriber : Subscriber} {event : Event} (closed : subscriber.closed = true) :
    subscriber.send event = subscriber :=
  if_pos closed

theorem makes_act (subscriber : Subscriber) (act : Act) : Makes subscriber act (subscriber.act act) := by
  have idle (silent : act.event? = none) (stays : subscriber.closes act = false)
      (remains : act ≠ .leave) : Makes subscriber act subscriber := by
    have took := Makes.took 0 silent stays remains
    rwa [take_zero] at took
  cases act with
  | send event =>
    cases closed : subscriber.closed with
    | true => simpa [Subscriber.act, send, closed] using Makes.lost event rfl closed
    | false => simpa [Subscriber.act, send, closed] using Makes.sent event rfl closed
  | next => exact .took 1 rfl rfl nofun
  | takeAll => exact .took _ rfl rfl nofun
  | leave =>
    cases handled : subscriber.handled with
    | true => simpa [Subscriber.act, leave, handled] using Makes.left rfl handled
    | false =>
      have closes : subscriber.closes .leave = true := by simp [Subscriber.closes, handled]
      simpa [Subscriber.act, leave, handled] using Makes.closed closes
  | stop =>
    cases leaving : subscriber.leaving with
    | true =>
      have closes : subscriber.closes .stop = true := leaving
      simpa [Subscriber.act, stop, leaving] using Makes.closed closes
    | false => simpa [Subscriber.act, stop, leaving] using idle rfl leaving nofun
  | settle =>
    cases ends : subscriber.closes .settle with
    | true =>
      obtain ⟨handled, leaving⟩ := Bool.and_eq_true_iff.1 ends
      simpa [Subscriber.act, settle, handled, leaving] using Makes.closed ends
    | false =>
      cases handled : subscriber.handled with
      | false => simpa [Subscriber.act, settle, handled] using idle rfl ends nofun
      | true =>
        have leaving : subscriber.leaving = false := by simpa [closes, handled] using ends
        simpa [Subscriber.act, settle, handled, leaving, takeAll] using Makes.took _ rfl ends nofun

namespace Makes

variable {subscriber after : Subscriber} {act : Act} (makes : Makes subscriber act after)
include makes

theorem handled_eq : after.handled = subscriber.handled := by
  cases makes <;> rfl

theorem leaving_iff : after.leaving = true ↔
    subscriber.leaving = true ∨ subscriber.handled = true ∧ act = .leave := by
  cases makes with
  | sent event sends => simp [sends]
  | lost event sends => simp [sends]
  | took count silent stays remains => simp [take, remains]
  | left leaves handled => simp [leaves, handled]
  | closed ends =>
    have remains : ¬(subscriber.handled = true ∧ act = .leave) := by
      rintro ⟨handled, rfl⟩
      simp [closes, handled] at ends
    exact (or_iff_left remains).symm

/-- Who is closed stays closed, and others are closed by acts that close. -/
theorem closed_iff :
    after.closed = true ↔ subscriber.closed = true ∨ subscriber.closes act = true := by
  cases makes with
  | sent event sends => simp [sends, closes]
  | lost event sends => simp [sends, closes]
  | took count silent stays => simp [take, stays]
  | left leaves handled => simp [leaves, closes, handled]
  | closed ends => simp [close, ends]

theorem received_eq : ∃ count,
    after.received = subscriber.received ++ subscriber.waiting.take count := by
  cases makes with
  | took count => exact ⟨count, received_take subscriber count⟩
  | _ => exact ⟨0, by simp [received, close]⟩

/-- As long as a subscriber is open, nothing is lost. -/
theorem received_append_waiting (stays : after.closed = false) :
    after.received ++ after.waiting =
      subscriber.received ++ subscriber.waiting ++ act.event?.toList := by
  cases makes with
  | sent event sends => simp [received, waiting, sends, Act.event?]
  | lost event sends closed => cases stays.symm.trans closed
  | took count silent =>
    rw [received_take, waiting_take, silent, List.append_assoc, List.take_append_drop]
    exact (List.append_nil _).symm
  | left leaves => simp [received, waiting, leaves, Act.event?]
  | closed => cases stays

theorem waiting_eq_nil (before : subscriber.closed = true → subscriber.waiting = [])
    (closed : after.closed = true) : after.waiting = [] := by
  cases makes with
  | sent event sends stays => cases stays.symm.trans closed
  | lost event sends => exact before closed
  | took count => rw [waiting_take, before closed, List.drop_nil]
  | left => exact before closed
  | closed => rfl

end Makes

/-! ## A subscription -/

/-- The subscription comes to an end with the act. -/
def Ends (handled : Bool) (before : List Act) (act : Act) : Prop :=
  if handled then .leave ∈ before ∧ (act = .stop ∨ act = .settle) else act = .leave

/-- The subscription has come to an end: whoever takes events themselves has left, and a handler was
let notice it after that. -/
def Ended (handled : Bool) (acts : List Act) : Prop :=
  if handled then [.leave, .stop].Sublist acts ∨ [.leave, .settle].Sublist acts else .leave ∈ acts

theorem pair_sublist_snoc {α : Type} {one two last : α} {items : List α} :
    [one, two].Sublist (items ++ [last]) ↔ [one, two].Sublist items ∨ one ∈ items ∧ last = two := by
  rw [← List.reverse_sublist, List.reverse_append, List.reverse_singleton, List.singleton_append,
    List.sublist_cons_iff, List.reverse_sublist]
  simp [eq_comm, and_comm]

theorem ended_snoc {handled : Bool} {acts : List Act} {act : Act} :
    Ended handled (acts ++ [act]) ↔ Ended handled acts ∨ Ends handled acts act := by
  cases handled with
  | false => simp [Ended, Ends, eq_comm]
  | true =>
    simp only [Ended, Ends, pair_sublist_snoc, if_true]
    tauto

theorem Ended.append {handled : Bool} {acts : List Act} (ended : Ended handled acts)
    (more : List Act) : Ended handled (acts ++ more) := by
  induction more using List.reverseRecOn with
  | nil => rwa [List.append_nil]
  | append_singleton before last ih =>
    rw [← List.append_assoc]
    exact ended_snoc.2 (Or.inl ih)

def sentIn (acts : List Act) : List Event := acts.filterMap Act.event?

/-- How a subscriber stands after what has happened to it. -/
structure Follows (handled : Bool) (acts : List Act) (subscriber : Subscriber) : Prop where
  handled_eq : subscriber.handled = handled
  leaving : subscriber.leaving = true ↔ handled = true ∧ .leave ∈ acts
  closed : subscriber.closed = true ↔ Ended handled acts
  whole : subscriber.closed = false → subscriber.received ++ subscriber.waiting = sentIn acts
  got : subscriber.received <+: sentIn acts
  lost : subscriber.closed = true → subscriber.waiting = []

theorem Follows.nil (handled : Bool) : Follows handled [] { handled } where
  handled_eq := rfl
  leaving := by simp
  closed := by cases handled <;> simp [Ended]
  whole _ := rfl
  got := List.nil_prefix
  lost := nofun

namespace Follows

variable {handled : Bool} {acts : List Act} {subscriber : Subscriber}

/-- An act that closes is one with which the subscription comes to an end. -/
theorem closes_iff (follows : Follows handled acts subscriber) (act : Act) :
    subscriber.closes act = true ↔ Ends handled acts act := by
  have leaving := follows.leaving
  cases handled with
  | false => cases act <;> simp_all [closes, Ends, follows.handled_eq]
  | true => cases act <;> simp_all [closes, Ends, follows.handled_eq]

theorem received_act (follows : Follows handled acts subscriber) (closed : subscriber.closed = true)
    (act : Act) : (subscriber.act act).received = subscriber.received := by
  obtain ⟨count, got⟩ := (makes_act subscriber act).received_eq
  rw [got, follows.lost closed, List.take_nil, List.append_nil]

theorem act (follows : Follows handled acts subscriber) (act : Act) :
    Follows handled (acts ++ [act]) (subscriber.act act) := by
  have makes := makes_act subscriber act
  have sent : sentIn (acts ++ [act]) = sentIn acts ++ act.event?.toList := by
    rw [sentIn, List.filterMap_append]
    cases found : act.event? <;> simp [found, sentIn]
  refine ⟨makes.handled_eq.trans follows.handled_eq, ?_, ?_, fun stays => ?_, ?_,
    makes.waiting_eq_nil follows.lost⟩
  · rw [makes.leaving_iff, follows.leaving, follows.handled_eq, List.mem_append, List.mem_singleton,
      ← and_or_left, @eq_comm _ act]
  · rw [makes.closed_iff, follows.closed, follows.closes_iff act, ended_snoc]
  · have open' : subscriber.closed = false := by
      refine Bool.eq_false_iff.2 fun closed => ?_
      cases stays.symm.trans (makes.closed_iff.2 (Or.inl closed))
    rw [makes.received_append_waiting stays, follows.whole open', sent]
  · rw [sent]
    cases closed : subscriber.closed with
    | true =>
      rw [follows.received_act closed]
      exact follows.got.trans (List.prefix_append _ _)
    | false =>
      obtain ⟨count, got⟩ := makes.received_eq
      rw [got, ← follows.whole closed, List.append_assoc, List.prefix_append_right_inj]
      exact (List.take_prefix _ _).trans (List.prefix_append _ _)

end Follows

theorem follows_acts (handled : Bool) (acts : List Act) :
    Follows handled acts (acts.foldl Subscriber.act { handled }) := by
  induction acts using List.reverseRecOn with
  | nil => exact .nil handled
  | append_singleton before last ih =>
    rw [List.foldl_append]
    exact ih.act last

theorem received_of_ended {handled : Bool} {acts : List Act} (ended : Ended handled acts)
    (more : List Act) : ((acts ++ more).foldl Subscriber.act { handled }).received =
      (acts.foldl Subscriber.act { handled }).received := by
  induction more using List.reverseRecOn with
  | nil => rw [List.append_nil]
  | append_singleton before last ih =>
    have follows := follows_acts handled (acts ++ before)
    have closed := follows.closed.2 (ended.append before)
    rw [← List.append_assoc, List.foldl_append]
    exact (follows.received_act closed last).trans ih

end Subscriber

end Messenger
