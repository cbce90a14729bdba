/-
# Delivery is in order, and each to their own

The bus sends an event along its links, one after the other, and drops those that lead to nobody; in
the meantime subscribers come and go, and handlers lag behind as long as they like.  `Bus.Step` is what
may happen on a bus, in whatever order, and `Step.view` is what one subscriber sees of it:

| what happens | is seen by |
| :-- | :-- |
| an event is published, all handlers are let run | everybody |
| somebody gets events, leaves, or notices that they have left | this subscriber |
| somebody subscribes, receivers are counted | nobody |

What becomes of a subscriber depends on what it sees and on nothing else (`subscribers_step`, `get?_run`),
because the links lead to each subscriber that is open, and once (`Linked`).  So each can be looked at
alone, as in `Proofs.Bus.Subscribers`.
-/
import Messenger.Proofs.Bus.Subscribers
import Mathlib.Data.List.Range

namespace Messenger

namespace Bus

open Subscriber (Act)

/-- What happens on a bus. -/
inductive Step where
  | subscribe (handled : Bool)
  | publish (event : Event)
  | next (number : Nat)
  | receive (number : Nat)
  | leave (number : Nat)
  | stop (number : Nat)
  | settle
  | count

def step (bus : Bus) : Step → Bus
  | .subscribe handled => (bus.subscribe handled).1
  | .publish event => bus.publish event
  | .next number => bus.next number
  | .receive number => (bus.receive number).1
  | .leave number => bus.leave number
  | .stop number => bus.stop number
  | .settle => bus.settle
  | .count => bus.prune

def run (steps : List Step) : Bus := steps.foldl step {}

/-- What the subscriber of a number sees. -/
def Step.view (number : Nat) : Step → Option Act
  | .publish event => some (.send event)
  | .settle => some .settle
  | .next other => if other = number then some .next else none
  | .receive other => if other = number then some .takeAll else none
  | .leave other => if other = number then some .leave else none
  | .stop other => if other = number then some .stop else none
  | .subscribe _ | .count => none

def Step.event? : Step → Option Event
  | .publish event => some event
  | _ => none

def seen (number : Nat) (steps : List Step) : List Act := steps.filterMap (Step.view number)

def published (steps : List Step) : List Event := steps.filterMap Step.event?

/-- The links lead to each subscriber that is open, and to each once. -/
structure Linked (subscribers : Array Subscriber) (links : List Nat) : Prop where
  nodup : links.Nodup
  known : ∀ number ∈ links, number < subscribers.size
  all : ∀ number, isOpen subscribers number = true → number ∈ links

theorem isOpen_iff {subscribers : Array Subscriber} {number : Nat} :
    isOpen subscribers number = true ↔
      ∃ subscriber, subscribers[number]? = some subscriber ∧ subscriber.closed = false := by
  rw [isOpen, Option.any_eq_true]
  simp only [Bool.not_eq_true']

theorem mapIdx_self (subscribers : Array Subscriber) :
    (subscribers.mapIdx fun _ subscriber => subscriber) = subscribers := by
  refine Array.ext_getElem? fun number => ?_
  rw [Array.getElem?_mapIdx, Option.map_id']

theorem isOpen_modify_send (subscribers : Array Subscriber) (first : Nat) (event : Event) :
    isOpen (subscribers.modify first (·.send event)) = isOpen subscribers := by
  funext number
  rw [isOpen, Array.getElem?_modify]
  split
  · rw [Option.any_map]
    simp only [Subscriber.closed_send, isOpen]
  · rfl

/-- Sending along links that are each used once reaches the subscribers to whom they lead. -/
theorem post_eq {event : Event} {subscribers : Array Subscriber} {links : List Nat}
    (nodup : links.Nodup) :
    post event subscribers links = (subscribers.mapIdx fun number subscriber =>
        if number ∈ links then subscriber.send event else subscriber,
      links.filter (isOpen subscribers)) := by
  induction links generalizing subscribers with
  | nil => simp [post, mapIdx_self]
  | cons first rest ih =>
    obtain ⟨absent, nodup⟩ := List.nodup_cons.1 nodup
    cases opened : isOpen subscribers first with
    | true =>
      simp only [post, opened, if_true, ih nodup, isOpen_modify_send, List.filter_cons_of_pos]
      refine Prod.ext (Array.ext_getElem? fun number => ?_) rfl
      simp only [Array.getElem?_mapIdx, Array.getElem?_modify]
      by_cases here : first = number
      · subst here
        simp [absent, Function.comp_def]
      · simp [here, Ne.symm here]
    | false =>
      have skipped : ¬isOpen subscribers first = true := by simp [opened]
      rw [post, if_neg skipped, ih nodup, List.filter_cons_of_neg skipped]
      refine Prod.ext (Array.ext_getElem? fun number => ?_) rfl
      simp only [Array.getElem?_mapIdx]
      refine Option.map_congr fun subscriber found => ?_
      by_cases here : number = first
      · have closed : subscriber.closed = true := by
          simpa [isOpen, ← here, Option.mem_def.1 found] using opened
        simp [here, absent, Subscriber.send_of_closed closed]
      · simp [here]

/-! ## What one subscriber sees -/

/-- What a step makes of the subscriber of a number. -/
def Step.act (step : Step) (number : Nat) (subscriber : Subscriber) : Subscriber :=
  (step.view number).elim subscriber subscriber.act

/-- Who joins with a step. -/
def Step.joining : Step → Array Subscriber
  | .subscribe handled => #[{ handled }]
  | _ => #[]

theorem modify_eq (subscribers : Array Subscriber) (other : Nat) (act : Act) :
    subscribers.modify other (·.act act) = subscribers.mapIdx fun number subscriber =>
      (if other = number then some act else none).elim subscriber subscriber.act := by
  refine Array.ext_getElem? fun number => ?_
  rw [Array.getElem?_modify, Array.getElem?_mapIdx]
  split
  · rfl
  · exact Option.map_id'.symm

/-- Everybody becomes what they become by what they see, and somebody may join. -/
theorem subscribers_step {bus : Bus} (linked : Linked bus.subscribers bus.links) (step : Step) :
    (bus.step step).subscribers = bus.subscribers.mapIdx step.act ++ step.joining := by
  have nobody {others : Array Subscriber} {step : Step} (same : others = bus.subscribers.mapIdx step.act)
      (joining : step.joining = #[]) : others = bus.subscribers.mapIdx step.act ++ step.joining := by
    rw [joining, Array.append_empty, same]
  cases step with
  | subscribe handled =>
    have same : bus.subscribers.mapIdx (Step.subscribe handled).act = bus.subscribers :=
      mapIdx_self bus.subscribers
    rw [same]
    exact Array.push_eq_append
  | publish event =>
    refine nobody ?_ rfl
    rw [step, publish, post_eq linked.nodup]
    refine Array.ext_getElem? fun number => ?_
    rw [Array.getElem?_mapIdx, Array.getElem?_mapIdx]
    refine Option.map_congr fun subscriber found => ?_
    split
    · rfl
    · rename_i absent
      have closed : subscriber.closed = true := by
        by_contra stays
        exact absent (linked.all number (isOpen_iff.2 ⟨subscriber, found, by simpa using stays⟩))
      exact (Subscriber.send_of_closed closed).symm
  | next number => exact nobody (modify_eq _ number .next) rfl
  | receive number => exact nobody (modify_eq _ number .takeAll) rfl
  | leave number => exact nobody (modify_eq _ number .leave) rfl
  | stop number => exact nobody (modify_eq _ number .stop) rfl
  | settle => exact nobody (Array.ext_getElem? fun number => by simp [step, settle]; rfl) rfl
  | count => exact nobody (mapIdx_self bus.subscribers).symm rfl

theorem closed_act {step : Step} {number : Nat} {subscriber : Subscriber}
    (stays : (step.act number subscriber).closed = false) : subscriber.closed = false := by
  rw [Step.act] at stays
  cases viewed : step.view number with
  | none => rwa [viewed] at stays
  | some act =>
    rw [viewed] at stays
    refine Bool.eq_false_iff.2 fun closed => ?_
    cases stays.symm.trans ((Subscriber.makes_act subscriber act).closed_iff.2 (Or.inl closed))

namespace Linked

variable {subscribers : Array Subscriber} {links : List Nat}

theorem mapIdx (linked : Linked subscribers links) (step : Step) :
    Linked (subscribers.mapIdx step.act) links where
  nodup := linked.nodup
  known number linkedTo := by simpa using linked.known number linkedTo
  all number opened := by
    obtain ⟨after, found, stays⟩ := isOpen_iff.1 opened
    rw [Array.getElem?_mapIdx, Option.map_eq_some_iff] at found
    obtain ⟨subscriber, found, rfl⟩ := found
    exact linked.all number (isOpen_iff.2 ⟨subscriber, found, closed_act stays⟩)

theorem filter (linked : Linked subscribers links) :
    Linked subscribers (links.filter (isOpen subscribers)) where
  nodup := linked.nodup.filter _
  known number linkedTo := linked.known number (List.mem_filter.1 linkedTo).1
  all number opened := List.mem_filter.2 ⟨linked.all number opened, opened⟩

theorem push (linked : Linked subscribers links) (subscriber : Subscriber) :
    Linked (subscribers.push subscriber) (links ++ [subscribers.size]) where
  nodup := by
    refine List.nodup_append.2 ⟨linked.nodup, List.pairwise_singleton _ _, ?_⟩
    intro number linkedTo other here
    rw [List.mem_singleton.1 here]
    exact (linked.known number linkedTo).ne
  known number linkedTo := by
    rw [Array.size_push, Nat.lt_succ_iff]
    rcases List.mem_append.1 linkedTo with old | new
    · exact (linked.known number old).le
    · exact (List.mem_singleton.1 new).le
  all number opened := by
    rw [isOpen, Array.getElem?_push] at opened
    rw [List.mem_append, List.mem_singleton]
    split at opened
    · exact Or.inr ‹_›
    · exact Or.inl (linked.all number opened)

end Linked

/-- Whatever happens, the links lead to each subscriber that is open, and once. -/
theorem linked_step {bus : Bus} (linked : Linked bus.subscribers bus.links) (step : Step) :
    Linked (bus.step step).subscribers (bus.step step).links := by
  have seen {step : Step} {links : List Nat} (nobody : step.joining = #[])
      (kept : (bus.step step).links = links) (good : Linked bus.subscribers links) :
      Linked (bus.step step).subscribers (bus.step step).links := by
    rw [kept, subscribers_step linked, nobody, Array.append_empty]
    exact good.mapIdx step
  cases step with
  | subscribe handled => exact linked.push _
  | publish event =>
    exact seen rfl (by rw [step, publish, post_eq linked.nodup]) linked.filter
  | next number => exact seen rfl rfl linked
  | receive number => exact seen rfl rfl linked
  | leave number => exact seen rfl rfl linked
  | stop number => exact seen rfl rfl linked
  | settle => exact seen rfl rfl linked
  | count => exact seen rfl rfl linked.filter

theorem linked_foldl {bus : Bus} (linked : Linked bus.subscribers bus.links) (steps : List Step) :
    Linked (steps.foldl step bus).subscribers (steps.foldl step bus).links := by
  induction steps generalizing bus with
  | nil => exact linked
  | cons first rest ih => exact ih (linked_step linked first)

theorem Linked.nil : Linked #[] [] where
  nodup := List.nodup_nil
  known _ linkedTo := absurd linkedTo List.not_mem_nil
  all number opened := by simp [isOpen] at opened

theorem linked_run (steps : List Step) : Linked (run steps).subscribers (run steps).links :=
  linked_foldl .nil steps

/-- A subscriber becomes what it becomes by what it sees. -/
theorem get?_foldl {bus : Bus} (linked : Linked bus.subscribers bus.links) (steps : List Step)
    {number : Nat} {subscriber : Subscriber} (found : bus.subscribers[number]? = some subscriber) :
    (steps.foldl step bus).subscribers[number]? =
      some ((seen number steps).foldl Subscriber.act subscriber) := by
  induction steps generalizing bus subscriber with
  | nil => exact found
  | cons first rest ih =>
    have known : number < (bus.subscribers.mapIdx first.act).size := by
      rw [Array.size_mapIdx]
      exact (Array.getElem?_eq_some_iff.1 found).1
    have stepped : (bus.step first).subscribers[number]? = some (first.act number subscriber) := by
      rw [subscribers_step linked, Array.getElem?_append_left known, Array.getElem?_mapIdx, found,
        Option.map_some]
    rw [List.foldl_cons, ih (linked_step linked first) stepped, Step.act]
    cases viewed : first.view number <;> simp [seen, viewed]

theorem sentIn_seen (number : Nat) (steps : List Step) :
    Subscriber.sentIn (seen number steps) = published steps := by
  rw [Subscriber.sentIn, seen, List.filterMap_filterMap]
  refine List.filterMap_congr fun step _ => ?_
  cases step with
  | subscribe | publish | settle | count => rfl
  | next other | receive other | leave other | stop other =>
    by_cases here : other = number <;> simp [Step.view, Step.event?, here, Act.event?]

/-- A subscriber is what it has become by what it has seen. -/
theorem get?_run (before later : List Step) (handled : Bool) :
    let number := (run before).subscribers.size
    (run (before ++ .subscribe handled :: later)).subscribers[number]? =
      some ((seen number later).foldl Subscriber.act { handled }) := by
  intro number
  rw [run, List.foldl_append, List.foldl_cons]
  refine get?_foldl (linked_step (linked_run before) (.subscribe handled)) later ?_
  exact Array.getElem?_push_size

/-! ## Counting -/

theorem countP_eq_range {α : Type} (test : α → Bool) (items : List α) :
    items.countP test = (List.range items.length).countP fun place => (items[place]?).any test := by
  induction items using List.reverseRecOn with
  | nil => rfl
  | append_singleton before last ih =>
    rw [List.countP_append, List.length_append, List.length_singleton, List.range_succ,
      List.countP_append, ih]
    congr 1
    · refine List.countP_congr fun place known => ?_
      rw [List.getElem?_append_left (List.mem_range.1 known)]
    · simp

theorem receiverCount_eq {bus : Bus} (linked : Linked bus.subscribers bus.links) :
    bus.receiverCount = bus.subscribers.countP (!·.closed) := by
  have places : (bus.links.filter (isOpen bus.subscribers)).Perm
      ((List.range bus.subscribers.size).filter (isOpen bus.subscribers)) := by
    refine (List.perm_ext_iff_of_nodup (linked.nodup.filter _) (List.nodup_range.filter _)).2 ?_
    intro number
    rw [List.mem_filter, List.mem_filter, List.mem_range]
    refine and_congr_left fun opened => ?_
    exact iff_of_true (linked.all number opened) (linked.known number (linked.all number opened))
  rw [receiverCount, prune, places.length_eq, ← List.countP_eq_length_filter, ← Array.countP_toList,
    countP_eq_range _ bus.subscribers.toList]
  simp only [Array.length_toList, Array.getElem?_toList]
  rfl

/-! ## Delivery -/

/-- Whatever happens on a bus, the receivers that are counted are the subscribers that are open.

Whoever subscribes becomes what they become by what they see themselves, whoever else there is and
whatever the others do.  They are closed once their subscription has come to an end.  As long as they are
open, the events that they have got and those that wait for them are, in this order, the events published
since; and what a handler was given is the beginning of these also when its subscription has come to an
end, after which it gets nothing more. -/
theorem delivered_in_order (steps : List Step) :
    (run steps).receiverCount = (run steps).subscribers.countP (!·.closed) ∧
    ∀ before handled later, steps = before ++ .subscribe handled :: later →
      let number := (run before).subscribers.size
      ∃ subscriber, (run steps).subscribers[number]? = some subscriber ∧
        subscriber = (seen number later).foldl Subscriber.act { handled } ∧
        (subscriber.closed = true ↔ Subscriber.Ended handled (seen number later)) ∧
        (subscriber.closed = false → subscriber.received ++ subscriber.waiting = published later) ∧
        subscriber.received <+: published later ∧
        (subscriber.closed = true → ∀ more, ∃ after,
          (run (steps ++ more)).subscribers[number]? = some after ∧
            after.received = subscriber.received) := by
  refine ⟨receiverCount_eq (linked_run steps), ?_⟩
  rintro before handled later rfl number
  have follows := Subscriber.follows_acts handled (seen number later)
  refine ⟨_, get?_run before later handled, rfl, follows.closed, fun stays => ?_, ?_,
    fun closed more => ?_⟩
  · rw [follows.whole stays, sentIn_seen]
  · rw [← sentIn_seen number]
    exact follows.got
  · refine ⟨_, ?_, Subscriber.received_of_ended (follows.closed.1 closed) (seen number more)⟩
    rw [List.append_assoc, List.cons_append, get?_run, seen, List.filterMap_append]
    rfl

/-- A handler that lags behind is given what is published until it notices that its subscription is
ended, whether others leave or not, and nothing after that. -/
theorem delivered_in_order_lagging :
    let later := [.subscribe false, .publish .connected, .leave 1, .publish .disconnected, .next 0,
      .leave 0, .next 0, .stop 0, .publish .rosterLoaded, .next 0]
    let steps := .subscribe true :: later
    (run steps).receiverCount = 0 ∧ ∀ more, ∃ after,
      (run (steps ++ more)).subscribers[0]? = some after ∧
        after.received = [.connected, .disconnected] := by
  intro later steps
  obtain ⟨count, subscription⟩ := delivered_in_order steps
  obtain ⟨subscriber, -, made, -, -, -, still⟩ := subscription [] true later rfl
  have received : subscriber.received = [.connected, .disconnected] := by
    rw [made]
    cbv
  have closed : subscriber.closed = true := by
    rw [made]
    cbv
  refine ⟨count.trans (by cbv), fun more => ?_⟩
  rw [← received]
  exact still closed more

end Bus

end Messenger
