/-
# Automatic syncs keep their distance

Several syncs may be called on one account at the same time, automatic ones and forced ones.  What they
share is the throttle, which each of them touches at two places, and the clock never goes back:

    `passes`             it asks the throttle and stamps it, holding the lock for both
    `reads`, `stores`    it is over: it reads the clock, then takes the lock and stores what it read

All else that happens, to them and to the store, may come between these steps in any order
(`Traffic.Step`).

The throttle remembers one instant only, the last that was written to it (`Remembers`).  That is enough
as long as it is the latest of all that was done, and so it is if both steps at the throttle are atomic:
nobody comes to it between the reading and the store (`Atomic`).  Then an automatic sync that keeps its
distance from the one instant keeps it from every other sync (`automatic_syncs_spaced`).  The lock alone
does not give this.  It is not yet held while the clock is read, and a call that passes in between is
forgotten when the older instant is stored over its own (`distance_lost_between`).
-/
import Messenger.Proofs.Sync.AllOrNothing
import Mathlib.Data.List.Chain
import Mathlib.Logic.Function.Basic
import Mathlib.Logic.Relation

namespace Messenger.Sync

/-! ## The first step of a sync -/

namespace Syncer

/-- The first step of a sync: it ends at once, or it passes the throttle, to work with a server.  The
throttle is asked at one instant and stamped with a later one. -/
def enter (syncer : Syncer) (host : Host) (forced cancelled : Bool) (checked stamped : Nat) :
    Except Conclusion (String × Syncer) :=
  if host.settings.offlineMode then .error { syncer, result := .ok (.skipped .offlineMode) }
  else match host.settings.endpointServer with
    | none => .error { syncer, result := .ok (.skipped .noServer) }
    | some server =>
      if cancelled then .error { syncer, result := .error .cancelled }
      else if syncer.throttle.allows host.settings.minSyncInterval checked forced then
        .ok (server, syncer.note stamped)
      else .error { syncer, result := .ok (.skipped .throttled) }

variable {syncer : Syncer} {host : Host} {forced cancelled : Bool} {now checked stamped : Nat}

/-- A sync that nobody comes between begins with its first step and goes on to work. -/
theorem begin_eq_enter (first : RequestId) : syncer.begin host forced cancelled now first =
    match syncer.enter host forced cancelled now now with
    | .error conclusion => .over conclusion
    | .ok (server, entered) => entered.work host server now first := by
  unfold begin enter Throttle.claim?
  split
  · rfl
  · cases host.settings.endpointServer with
    | none => rfl
    | some server =>
      cases cancelled with
      | true => rfl
      | false => cases syncer.throttle.allows host.settings.minSyncInterval now forced <;> rfl

end Syncer

/-! ## Many syncs at once -/

/-- How far a call has come. -/
inductive Stage where
  | called
  | passed (server : String)
  | waiting (wait : Wait)
  /-- It has worked, and has not looked at the clock again. -/
  | worked (result : Except Failure Outcome)
  /-- It has read at which instant it is over, and has not written it down. -/
  | leaving (result : Except Failure Outcome) (instant : Nat)
  | over (result : Except Failure Outcome)

/-- A call has passed the throttle, has read at which instant it is over, or has stored it. -/
inductive Deed where
  | passed (call checked stamped : Nat)
  | ended (call instant : Nat)
  | stored (call instant : Nat)

namespace Deed

/-- The instant that the throttle is to remember. -/
def instant : Deed → Nat
  | .passed _ _ stamped => stamped
  | .ended _ instant | .stored _ instant => instant

/-- The instant at which a call that has passed asked the throttle. -/
def checked : Deed → Nat
  | .passed _ checked _ => checked
  | .ended _ instant | .stored _ instant => instant

/-- An automatic sync has passed. -/
def isAutomatic (forced : Nat → Bool) : Deed → Bool
  | .passed call _ _ => !forced call
  | .ended _ _ | .stored _ _ => false

/-- It has written to the throttle. -/
def isStamp : Deed → Bool
  | .ended _ _ => false
  | .passed _ _ _ | .stored _ _ => true

end Deed

/-- The calls on an account, each as far as it has come, the time, and what was done so far. -/
structure Traffic where
  syncer : Syncer
  now : Nat
  stage : Nat → Stage := fun _ => .called
  record : List Deed := []

namespace Traffic

def move (traffic : Traffic) (call : Nat) (stage : Stage) : Traffic :=
  { traffic with stage := Function.update traffic.stage call stage }

/-- A call passes the throttle, which leaves the syncer as given. -/
def pass (traffic : Traffic) (call : Nat) (server : String) (syncer : Syncer) (stamped : Nat) :
    Traffic :=
  { traffic.move call (.passed server) with
    syncer
    now := stamped
    record := traffic.record ++ [.passed call traffic.now stamped] }

/-- A call has worked: its store stands, and its end is still to be read. -/
def work (traffic : Traffic) (call : Nat) (conclusion : Conclusion) : Traffic :=
  { traffic.move call (.worked conclusion.result) with
    syncer := { traffic.syncer with store := conclusion.syncer.store } }

/-- A call that has worked reads the clock. -/
def read (traffic : Traffic) (call : Nat) (result : Except Failure Outcome) : Traffic :=
  { traffic.move call (.leaving result traffic.now) with
    record := traffic.record ++ [.ended call traffic.now] }

/-- A call stores what it has read, and is over. -/
def store (traffic : Traffic) (call : Nat) (result : Except Failure Outcome) (instant : Nat) :
    Traffic :=
  { traffic.move call (.over result) with
    syncer := traffic.syncer.note instant
    record := traffic.record ++ [.stored call instant] }

/-- What can happen next.  The store may fail at any time, and others may write to it. -/
inductive Step (settings : Settings) (forced : Nat → Bool) (traffic : Traffic) : Traffic → Prop
  | passesTime (later : Nat) (le : traffic.now ≤ later) :
      Step settings forced traffic { traffic with now := later }
  | written (store : Store) :
      Step settings forced traffic { traffic with syncer := { traffic.syncer with store } }
  /-- A call ends at once. -/
  | ends {call : Nat} {host : Host} {conclusion : Conclusion} (cancelled : Bool) (stamped : Nat)
      (same : host.settings = settings) (called : traffic.stage call = .called)
      (enters : traffic.syncer.enter host (forced call) cancelled traffic.now stamped =
        .error conclusion) :
      Step settings forced traffic
        { traffic.move call (.over conclusion.result) with syncer := conclusion.syncer }
  /-- A call passes the throttle. -/
  | passes {call : Nat} {host : Host} {server : String} {syncer : Syncer} (cancelled : Bool)
      (stamped : Nat) (le : traffic.now ≤ stamped)
      (same : host.settings = settings) (called : traffic.stage call = .called)
      (enters : traffic.syncer.enter host (forced call) cancelled traffic.now stamped =
        .ok (server, syncer)) :
      Step settings forced traffic (traffic.pass call server syncer stamped)
  /-- A call that has passed has nobody to ask about, or cannot work. -/
  | clears {call : Nat} {host : Host} {server : String} {first : RequestId} {conclusion : Conclusion}
      (same : host.settings = settings) (passed : traffic.stage call = .passed server)
      (works : traffic.syncer.work host server traffic.now first = .over conclusion) :
      Step settings forced traffic (traffic.work call conclusion)
  /-- A call that has passed asks its question. -/
  | asks {call : Nat} {host : Host} {server : String} {first : RequestId} {question : Question}
      (same : host.settings = settings) (passed : traffic.stage call = .passed server)
      (works : traffic.syncer.work host server traffic.now first = .waiting question) :
      Step settings forced traffic
        { traffic.move call (.waiting question.wait) with syncer := question.syncer }
  /-- Something happens to a call that waits. -/
  | meets {call : Nat} {wait : Wait} (incident : Incident) (waits : traffic.stage call = .waiting wait) :
      Step settings forced traffic (traffic.move call (.waiting (wait.meet incident)))
  /-- The wait of a call ends, in any way that is open. -/
  | finishes {call : Nat} {host : Host} {wait : Wait} {ending : Ending}
      (same : host.settings = settings) (waits : traffic.stage call = .waiting wait)
      (taken : ending ∈ wait.endings traffic.now) :
      Step settings forced traffic
        (traffic.work call (traffic.syncer.finish host wait ending traffic.now))
  /-- A call that is over reads the clock, and does not hold the lock. -/
  | reads {call : Nat} {result : Except Failure Outcome}
      (worked : traffic.stage call = .worked result) :
      Step settings forced traffic (traffic.read call result)
  /-- A call that has read the clock takes the lock and stores the instant. -/
  | stores {call : Nat} {result : Except Failure Outcome} {instant : Nat}
      (leaving : traffic.stage call = .leaving result instant) :
      Step settings forced traffic (traffic.store call result instant)

variable {settings : Settings} {forced : Nat → Bool} {traffic next : Traffic} {call : Nat}

theorem passes_of_allows {host : Host} {server : String} (online : host.settings.offlineMode = false)
    (served : host.settings.endpointServer = some server) (called : traffic.stage call = .called)
    (allowed : traffic.syncer.throttle.allows host.settings.minSyncInterval traffic.now (forced call) =
      true) :
    Step host.settings forced traffic
      (traffic.pass call server (traffic.syncer.note traffic.now) traffic.now) :=
  .passes false traffic.now (Nat.le_refl _) rfl called
    (by simp [Syncer.enter, online, served, allowed])

/-- The deeds that have written to the throttle. -/
def stamps (record : List Deed) : List Deed := record.filter Deed.isStamp

/-- The throttle remembers the last stamp, and an automatic sync has passed only at a distance from the
stamp before its own. -/
structure Remembers (settings : Settings) (forced : Nat → Bool) (traffic : Traffic) : Prop where
  last : traffic.syncer.throttle.last = (stamps traffic.record).getLast?.map Deed.instant
  chained : (stamps traffic.record).IsChain fun earlier later => later.isAutomatic forced = true →
    earlier.instant + settings.minSyncInterval ≤ later.checked
  past : ∀ deed ∈ traffic.record, deed.checked ≤ deed.instant ∧ deed.instant ≤ traffic.now
  read : ∀ call result instant, traffic.stage call = .leaving result instant → instant ≤ traffic.now

variable {record : List Deed} {deed : Deed}

theorem stamps_snoc (stamp : deed.isStamp = true) :
    stamps (record ++ [deed]) = stamps record ++ [deed] := by
  rw [stamps, List.filter_append, List.filter_cons_of_pos stamp, List.filter_nil, ← stamps]

/-- The throttle is stamped, for an automatic sync at a distance from the stamp before. -/
theorem Remembers.stamp (remembers : Remembers settings forced traffic)
    (record : next.record = traffic.record ++ [deed]) (stamp : deed.isStamp = true)
    (stamped : next.syncer.throttle = ⟨some deed.instant⟩) (now : traffic.now ≤ next.now)
    (past : deed.checked ≤ deed.instant ∧ deed.instant ≤ next.now)
    (leaving : ∀ call result instant, next.stage call = .leaving result instant →
      traffic.stage call = .leaving result instant)
    (apart : deed.isAutomatic forced = true → ∀ latest ∈ (stamps traffic.record).getLast?,
      latest.instant + settings.minSyncInterval ≤ deed.checked) :
    Remembers settings forced next where
  last := by rw [stamped, record, stamps_snoc stamp, List.getLast?_concat, Option.map_some]
  chained := by
    rw [record, stamps_snoc stamp, List.isChain_append]
    refine ⟨remembers.chained, List.isChain_singleton deed, fun latest last later first => ?_⟩
    cases first
    exact fun automatic => apart automatic latest last
  past := by
    rw [record, List.forall_mem_append]
    exact ⟨fun deed mem => (remembers.past deed mem).imp_right (Nat.le_trans · now),
      List.forall_mem_singleton.2 past⟩
  read := fun call result instant leaves =>
    Nat.le_trans (remembers.read _ _ _ (leaving call result instant leaves)) now

/-- Both steps at the throttle are atomic, the one at the end of a call from the reading of the clock to
the store: nobody else comes to the throttle in between. -/
def Atomic (record : List Deed) : Prop :=
  record.IsChain fun deed next => ∀ call instant, deed = .ended call instant →
    next = .stored call instant

/-- Nobody has read the clock whose instant is still to be stored. -/
def Noted (record : List Deed) : Prop :=
  ∀ call instant, record.getLast? ≠ some (.ended call instant)

theorem Atomic.before (atomic : Atomic (record ++ [deed])) : Atomic record :=
  (List.isChain_append.1 atomic).1

theorem Atomic.noted (atomic : Atomic (record ++ [deed]))
    (other : ∀ call instant, deed ≠ .stored call instant) : Noted record := by
  intro call instant last
  obtain ⟨-, -, joins⟩ := List.isChain_append.1 atomic
  exact other call instant (joins _ last deed rfl call instant rfl)

/-- What was done was done in this order, the end of a call last, and an automatic sync has passed only
at a distance from all that was done before. -/
structure Minds (settings : Settings) (forced : Nat → Bool) (traffic : Traffic) : Prop where
  leaving : ∀ call result instant, traffic.stage call = .leaving result instant →
    traffic.record.getLast? = some (.ended call instant)
  ascending : traffic.record.Pairwise fun earlier later => earlier.instant ≤ later.instant
  spaced : traffic.record.Pairwise fun earlier later => later.isAutomatic forced = true →
    earlier.instant + settings.minSyncInterval ≤ later.checked

/-- Something is done, no earlier than all else, and an automatic sync does it at a distance. -/
theorem Minds.done (minds : Minds settings forced traffic)
    (record : next.record = traffic.record ++ [deed])
    (after : ∀ earlier ∈ traffic.record, earlier.instant ≤ deed.instant)
    (leaving : ∀ call result instant, next.stage call = .leaving result instant →
      deed = .ended call instant)
    (apart : deed.isAutomatic forced = true → ∀ earlier ∈ traffic.record,
      earlier.instant + settings.minSyncInterval ≤ deed.checked) :
    Minds settings forced next where
  leaving := by
    intro call result instant leaves
    rw [record, List.getLast?_concat, leaving call result instant leaves]
  ascending := by
    rw [record, List.pairwise_append]
    refine ⟨minds.ascending, List.pairwise_singleton _ _, fun earlier mem later last => ?_⟩
    rw [List.mem_singleton.1 last]
    exact after earlier mem
  spaced := by
    rw [record, List.pairwise_append]
    refine ⟨minds.spaced, List.pairwise_singleton _ _, fun earlier mem later last automatic => ?_⟩
    rw [List.mem_singleton.1 last] at automatic ⊢
    exact apart automatic earlier mem

/-- If the step at the end of a call is not atomic, the distance is lost: the first call reads the clock
at two seconds, the second passes 999 milliseconds later, the first stores its two seconds over that, and
the third passes one millisecond after the second. -/
theorem distance_lost_between :
    let settings : Settings := { endpointServer := some "x", minSyncIntervalSecs := 1 }
    ∃ traffic : Traffic,
      Relation.ReflTransGen (Step settings fun _ => false) { syncer := { store := ∅ }, now := 0 }
        traffic ∧
      traffic.record =
        [.passed 0 0 0, .ended 0 2000, .passed 1 2999 2999, .stored 0 2000, .passed 2 3000 3000] := by
  intro settings
  let host : Host := { settings }
  have allowsSecond : Throttle.allows ⟨some 0⟩ settings.minSyncInterval 2999 false = true := by
    decide
  have allowsThird : Throttle.allows ⟨some 2000⟩ settings.minSyncInterval 3000 false = true := by
    decide
  let opened : Traffic := { syncer := { store := ∅ }, now := 0 }
  let passed : Traffic := opened.pass 0 "x" (opened.syncer.note 0) 0
  obtain ⟨conclusion, works⟩ : ∃ conclusion, passed.syncer.work host "x" 0 ⟨0⟩ = .over conclusion :=
    ⟨_, (Syncer.work_of_faultless (fun _ => rfl) "x").trans (if_pos rfl)⟩
  let worked : Traffic := { passed.work 0 conclusion with now := 2000 }
  let read : Traffic := { worked.read 0 conclusion.result with now := 2999 }
  let second : Traffic := read.pass 1 "x" (read.syncer.note 2999) 2999
  let stored : Traffic := { second.store 0 conclusion.result 2000 with now := 3000 }
  have first : Relation.ReflTransGen (Step settings fun _ => false) opened worked :=
    ((Relation.ReflTransGen.single (@passes_of_allows _ opened 0 host "x" rfl rfl rfl rfl)).tail
      (@Step.clears _ _ passed 0 host _ _ _ rfl rfl works)).tail (.passesTime 2000 (Nat.zero_le _))
  have between : Relation.ReflTransGen (Step settings fun _ => false) worked second :=
    ((Relation.ReflTransGen.single (.reads rfl)).tail
      (.passesTime 2999 (show 2000 ≤ 2999 by decide))).tail
      (@passes_of_allows _ read 1 host "x" rfl rfl rfl allowsSecond)
  have last : Relation.ReflTransGen (Step settings fun _ => false) second stored :=
    (Relation.ReflTransGen.single (.stores rfl)).tail (.passesTime 3000 (show 2999 ≤ 3000 by decide))
  refine ⟨stored.pass 2 "x" (stored.syncer.note 3000) 3000,
    ((first.trans between).trans last).tail ?_, rfl⟩
  exact @passes_of_allows _ stored 2 host "x" rfl rfl rfl allowsThird

end Traffic

end Messenger.Sync
