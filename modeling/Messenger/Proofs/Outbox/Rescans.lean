/-
# A scan after a scan

A scan removes messages, group commands among them, and a command may hold back others.  What it
removes was in no thread, though, and nothing is held back there:

    removed                                 in no thread, to a group without members
    holds back another message              in its thread
    counted anew after a removal            the threads of what was removed, so none

So whichever of these messages are gone, a scan decides about all others as before
(`wholePlan_of_fewer`), and a second scan asks for the same, skips the same, and has nothing left to
remove (`resend_twice`).  Where the store fails, it fails the second time as it did the first time.
-/
import Messenger.Proofs.Outbox.Filters

namespace Messenger

namespace Plan

/-- The same plan with nothing to delete. -/
def spared (plan : Plan) : Plan := { plan with delete := [] }

theorem only_kept {plan : Plan} (once : plan.ids.Nodup) :
    (plan.only fun id => id ∉ plan.delete) = plan.spared := by
  obtain ⟨-, -, apart⟩ := List.nodup_append'.1 once
  have dispatch : plan.dispatch.filter (fun dispatch => dispatch.id ∉ plan.delete) =
      plan.dispatch := by
    refine List.filter_eq_self.2 fun dispatch mem => decide_eq_true fun deleted => ?_
    exact apart (List.mem_append_left _ (List.mem_map_of_mem mem)) deleted
  have skipped : plan.skipped.filter (fun skip => skip.1 ∉ plan.delete) = plan.skipped := by
    refine List.filter_eq_self.2 fun skip mem => decide_eq_true fun deleted => ?_
    exact apart (List.mem_append_right _ (List.mem_map_of_mem mem)) deleted
  have delete : plan.delete.filter (fun id => id ∉ plan.delete) = [] :=
    List.filter_eq_nil_iff.2 fun id mem => by simp [mem]
  rw [only, dispatch, skipped, delete, spared]

end Plan

namespace Outbox

variable {outbox : Outbox} {options : ScanOptions} {ids : List MessageId}

/-! ## Fewer messages -/

/-- The outbox after some messages were deleted. -/
def without (outbox : Outbox) (ids : List MessageId) : Outbox :=
  { outbox with store := (outbox.store.deleteMessages ids).store }

theorem mem_wholePlan_delete (keyed : outbox.store.messages.KeyedBy (·.id)) {id : MessageId} :
    id ∈ (outbox.wholePlan options).delete ↔ ∃ message, outbox.store.message? id = some message ∧
      Scan.Seeks options outbox.store.liveMembersOf message.toMessageContent ∧
      message.thread = .none ∧
      Scan.Vacant outbox.store.liveMembersOf message.toMessageContent :=
  plan_eq_wholePlan outbox options ▸ mem_plan_delete keyed

theorem threadless_of_doomed (keyed : outbox.store.messages.KeyedBy (·.id))
    (doomed : ids ⊆ (outbox.wholePlan options).delete) {id : MessageId} (listed : id ∈ ids)
    {message : Message} (stored : outbox.store.message? id = some message) :
    message.thread = .none := by
  obtain ⟨same, found, -, outside, -⟩ := (mem_wholePlan_delete keyed).1 (doomed listed)
  obtain rfl : same = message := Option.some.inj (found.symm.trans stored)
  exact outside

theorem without_of_doomed (keyed : outbox.store.messages.KeyedBy (·.id))
    (doomed : ids ⊆ (outbox.wholePlan options).delete) :
    outbox.without ids = { outbox with store := (Store.removeMessages outbox.store ids).1 } := by
  rw [without, Store.deleteMessages_of_threadless]
  intro id listed message stored
  exact decide_eq_true (threadless_of_doomed keyed doomed listed stored)

/-- Whichever of the messages that a scan deletes are gone, it decides about all others as before. -/
theorem wholePlan_of_fewer (keyed : outbox.store.messages.KeyedBy (·.id))
    (doomed : ids ⊆ (outbox.wholePlan options).delete) :
    (outbox.without ids).wholePlan options =
      (outbox.wholePlan options).only fun id => id ∉ ids := by
  obtain ⟨left, values⟩ := Store.values_removeMessages keyed ids
  have members : (Store.removeMessages outbox.store ids).1.liveMembersOf =
      outbox.store.liveMembersOf := by
    obtain ⟨messages, serverIds, eq⟩ := outbox.store.removeMessages_store ids
    rw [eq]
    rfl
  rw [without_of_doomed keyed doomed, wholePlan_eq left, wholePlan_eq keyed,
    ← Plan.ofDecisions_filter]
  dsimp only
  rw [members, values, List.filter_comm, Scan.verdicts_filter, Scan.verdicts, List.filter_map]
  · rfl
  -- a command in the thread of a message that is in a thread is not deleted
  intro message _ _ threaded command mem _ home
  have stored := keyed.mem_values_iff.1 (List.mem_filter.1 mem).1
  refine decide_eq_true fun listed => threaded ?_
  rw [← home]
  exact threadless_of_doomed keyed doomed listed stored

theorem wholePlan_of_scanned (keyed : outbox.store.messages.KeyedBy (·.id)) :
    (outbox.without (outbox.wholePlan options).delete).wholePlan options =
      (outbox.wholePlan options).spared := by
  rw [wholePlan_of_fewer keyed (List.Subset.refl _), Plan.only_kept]
  have distinct : Scan.Ascending
      (Scan.candidates options outbox.store.liveMembersOf outbox.store.messages.values) :=
    Scan.ascending_candidates keyed.keys_nodup options
  rw [wholePlan, planScan_eq keyed.keys_nodup, (Plan.ids_ofDecisions _).nodup_iff,
    Scan.verdicts_ids]
  exact distinct.distinct

/-! ## A scan on any store -/

open Messenger.Action

variable {host : Host}

/-- Why a scan does not come to decide anything: the messages cannot be read, or the groups to which
some of them belong. -/
def scanFault (host : Host) (store : Store) : Option Failure :=
  (host.fault .queryMessages).or
    (if (store.queryMessages unsent).any (·.group.isSome) then host.fault .group else none)

theorem on_membersFor_or (messages : List Message) (run : Run) :
    (membersFor messages).on host run =
      match if messages.any (·.group.isSome) then host.fault .group else none with
      | some failure => .error failure run
      | none => .ok (run.store.membersFor messages) run := by
  unfold membersFor Store.membersFor
  rw [on_ite, on_pure]
  split
  case isTrue =>
    cases fault : host.fault .group with
    | none => exact on_look_of_works fault _
    | some failure => exact on_look_of_fault fault _
  case isFalse => rfl

def requests (plan : Plan) (store : Store) : List Publication :=
  plan.dispatch.map fun dispatch => ⟨dispatch.event, store⟩

theorem on_resend_of_fault {failure : Failure} {run : Run}
    (failed : scanFault host run.store = some failure) (options : ScanOptions) :
    (resend options).on host run = .error failure run := by
  unfold scanFault at failed
  rw [resend, on_bind]
  cases read : host.fault .queryMessages with
  | some other =>
    rw [read] at failed
    cases failed
    rw [on_look_of_fault read]
  | none =>
    rw [read, Option.none_or] at failed
    rw [on_look_of_works read]
    dsimp only
    rw [on_bind, on_membersFor_or, failed]

theorem on_resend_of_works {run : Run} (works : scanFault host run.store = none)
    (options : ScanOptions) :
    let plan := run.toOutbox.wholePlan options
    let asked : Run := { run with publications := run.publications ++ requests plan run.store }
    (resend options).on host run =
      if plan.delete.isEmpty then .ok plan asked
      else match (commit .deleteMessages (·.deleteMessages plan.delete)).on host asked with
        | .ok _ next => .ok plan next
        | .error failure next => .error failure next := by
  intro plan asked
  unfold scanFault at works
  obtain ⟨read, works⟩ := Option.or_eq_none_iff.1 works
  have plan_eq : planScan (run.store.queryMessages unsent) options run.uploadService
      (run.store.membersFor (run.store.queryMessages unsent)) = plan :=
    plan_eq_wholePlan run.toOutbox options
  rw [resend, on_bind, on_look_of_works read]
  dsimp only
  rw [on_bind, on_membersFor_or, works]
  dsimp only
  rw [on_bind, on_outbox]
  dsimp only
  have published : (plan.dispatch.forM fun dispatch => publish dispatch.event).on host run =
      .ok () asked := on_forM_publish _
  rw [plan_eq, on_bind, published]
  dsimp only
  rw [on_ite]
  split
  · rfl
  · rw [on_bind]
    cases (commit .deleteMessages (·.deleteMessages plan.delete)).on host asked <;> rfl

/-- What a scan comes to, whatever the store does. -/
theorem run_resend (host : Host) (outbox : Outbox) (options : ScanOptions) :
    let plan := outbox.wholePlan options
    let published := requests plan outbox.store
    (resend options).run host outbox =
      match scanFault host outbox.store with
      | some failure => ⟨.error failure, outbox, [], [], []⟩
      | none =>
        if plan.delete.isEmpty then ⟨.ok plan, outbox, published, [], []⟩
        else match host.fault .deleteMessages with
          | some failure => ⟨.error failure, outbox, published, [], []⟩
          | none => ⟨.ok plan, outbox.without plan.delete, published,
              (outbox.store.deleteMessages plan.delete).changes, []⟩ := by
  intro plan published
  cases state : scanFault host outbox.store with
  | some failure => exact run_of_error (on_resend_of_fault state options)
  | none =>
    have ran := @on_resend_of_works host { outbox with } state options
    dsimp only at ran ⊢
    split
    case isTrue spared =>
      rw [if_pos spared] at ran
      exact run_of_ok ran
    case isFalse doomed =>
      rw [if_neg doomed] at ran
      cases fault : host.fault .deleteMessages with
      | some failure =>
        rw [on_commit_of_fault fault] at ran
        exact run_of_error ran
      | none =>
        rw [on_commit_of_works fault] at ran
        exact run_of_ok ran

/-! ## A scan after a scan -/

/-- A scan that comes to its plan and deletes something leaves the outbox without it; any other scan
leaves everything as it was. -/
theorem resend_cases (host : Host) (outbox : Outbox) (options : ScanOptions) :
    let plan := outbox.wholePlan options
    let outcome := (resend options).run host outbox
    (outcome.outbox = outbox ∧ outcome.changes = [] ∧
      outcome.result.map Plan.spared = outcome.result) ∨
    (scanFault host outbox.store = none ∧ outcome.result = .ok plan ∧
      outcome.publications = requests plan outbox.store ∧
      outcome.outbox = outbox.without plan.delete) := by
  intro plan outcome
  have course := run_resend host outbox options
  change outcome = _ at course
  split at course
  case h_1 => rw [course]; exact Or.inl ⟨rfl, rfl, rfl⟩
  case h_2 works =>
    split at course
    case isTrue nothing =>
      have spared : plan.spared = plan := by
        rw [Plan.spared, ← List.isEmpty_iff.1 nothing]
      rw [course]
      exact Or.inl ⟨rfl, rfl, congrArg Except.ok spared⟩
    case isFalse =>
      split at course
      case h_1 => rw [course]; exact Or.inl ⟨rfl, rfl, rfl⟩
      case h_2 => rw [course]; exact Or.inr ⟨works, rfl, rfl, rfl⟩

theorem scanFault_of_fewer (keyed : outbox.store.messages.KeyedBy (·.id))
    (doomed : ids ⊆ (outbox.wholePlan options).delete)
    (works : scanFault host outbox.store = none) :
    scanFault host (outbox.without ids).store = none := by
  obtain ⟨-, values⟩ := Store.values_removeMessages keyed ids
  obtain ⟨read, groups⟩ := Option.or_eq_none_iff.1 works
  refine Option.or_eq_none_iff.2 ⟨read, ?_⟩
  split
  case isFalse => rfl
  case isTrue grouped =>
    rw [if_pos] at groups
    · exact groups
    obtain ⟨message, mem, own⟩ := List.any_eq_true.1 grouped
    rw [without_of_doomed keyed doomed, Store.mem_queryMessages, values] at mem
    exact List.any_eq_true.2
      ⟨message, Store.mem_queryMessages.2 ⟨(List.mem_filter.1 mem.1).1, mem.2⟩, own⟩

/-- A second scan gives the plan of the first one without what that one deleted, asks for the same in
the same order, announces nothing, and leaves everything as the first one left it; also where the store
fails, in which case it fails in the same way again.  On a store that does not fail a scan comes to its
plan.  Nothing that a scan deletes makes a difference to what it decides about the rest: whichever of
these messages are gone, the plan is the same but for them. -/
theorem resend_twice (host : Host) (outbox : Outbox) (options : ScanOptions)
    (keyed : outbox.store.messages.KeyedBy (·.id)) :
    let plan := outbox.wholePlan options
    let first := (resend options).run host outbox
    let second := (resend options).run host first.outbox
    second.result = first.result.map (fun plan => { plan with delete := [] }) ∧
    second.events = first.events ∧
    second.changes = [] ∧
    second.outbox = first.outbox ∧
    (host.Faultless → first.result = .ok plan) ∧
    ∀ ids ⊆ plan.delete, (outbox.without ids).wholePlan options = plan.only fun id => id ∉ ids := by
  intro plan first second
  have faultless (faultless : host.Faultless) : first.result = .ok plan := by
    obtain ⟨next, ran, -, -⟩ := on_resend faultless options { outbox with }
    exact (congrArg Outcome.result (run_of_ok ran)).trans
      (congrArg Except.ok (plan_eq_wholePlan outbox options))
  have fewer (ids : List MessageId) (doomed : ids ⊆ plan.delete) :
      (outbox.without ids).wholePlan options = plan.only fun id => id ∉ ids :=
    wholePlan_of_fewer keyed doomed
  rcases resend_cases host outbox options with
    ⟨still, silent, spared⟩ | ⟨works, planned, asked, deleted⟩
  case inl =>
    -- the second scan is the first one once more
    have same : second = first := congrArg ((resend options).run host) still
    rw [same]
    exact ⟨spared.symm, rfl, silent, rfl, faultless, fewer⟩
  case inr =>
    have next : (outbox.without plan.delete).wholePlan options = plan.spared :=
      wholePlan_of_scanned keyed
    have course : second = ⟨.ok plan.spared, outbox.without plan.delete,
        requests plan.spared (outbox.without plan.delete).store, [], []⟩ := by
      have run := run_resend host (outbox.without plan.delete) options
      rw [scanFault_of_fewer keyed (List.Subset.refl _) works, next] at run
      exact (congrArg ((resend options).run host) deleted).trans run
    have events : second.events = first.events := by
      rw [course, Outcome.events, Outcome.events, asked, requests, requests, List.map_map,
        List.map_map]
      rfl
    rw [course] at events ⊢
    refine ⟨?_, events, rfl, deleted.symm, faultless, fewer⟩
    rw [planned]
    rfl

/-- Of two commands to a group without members, the one outside any thread is deleted; the text after
it, which is outside any thread as well, goes out in both scans, and the text after the other command is
held back in both. -/
theorem resend_twice_ghost :
    let host : Host := { settings := {}, serverId := toString }
    let ghost : GroupRef := ⟨⟨"g@x"⟩, ⟨"o@x"⟩⟩
    let text (thread : ThreadId) : MessageContent :=
      { thread, peer := ⟨"a@x"⟩, mime := textMime, timestamp := 0 }
    let command (thread : ThreadId) : MessageContent :=
      { text thread with group := some ghost, groupCommand := some .part }
    let outbox : Outbox := { store := .written [.ensureThread ghost.id true,
      .insertMessage (command .none), .insertMessage (text .none),
      .insertMessage (command ⟨1⟩), .insertMessage (text ⟨1⟩)] }
    let plan : Plan := {
      dispatch := [.send ⟨2⟩], skipped := [(⟨3⟩, .emptyGroup), (⟨4⟩, .stalled)], delete := [⟨1⟩] }
    let first := (resend {}).run host outbox
    let second := (resend {}).run host first.outbox
    outbox.store.messages.KeyedBy (·.id) ∧ first.result = .ok plan ∧
      second.result = .ok { plan with delete := [] } ∧ second.events = first.events ∧
      second.outbox = first.outbox := by
  intro host ghost text command outbox plan first second
  have keyed : outbox.store.messages.KeyedBy (·.id) := (Store.indexed_written _).messages
  have planned : outbox.wholePlan {} = plan := by
    rw [wholePlan_eq keyed]
    decide +kernel
  obtain ⟨result, events, -, left, comes, -⟩ := resend_twice host outbox {} keyed
  have comes : first.result = .ok plan := (comes fun _ => rfl).trans (congrArg Except.ok planned)
  exact ⟨keyed, comes, result.trans (congrArg (Except.map _) comes), events, left⟩

end Outbox

end Messenger
