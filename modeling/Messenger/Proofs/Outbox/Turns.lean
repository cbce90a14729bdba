/-
# What a response has to do with answers

An answer to a conversation request that is given while there is no connection waits in the row of its
thread until there is one.  What becomes of it with an input is said by three functions, and every
response is as they say (`turn_respond`):

    given?    the answer that comes with the input, if the thread is there
    due       the answers that are sent in response
    left?     the answer that waits in a thread afterwards

The row of a thread is written over whenever a message comes or goes, but no such edit touches the
answer in it (`Indexed.reply?_make`).  So all inputs but four are settled at once (`turn_of_isCalm`).
-/
import Messenger.Proofs.Outbox.Faults
import Messenger.Proofs.Outbox.Lives
import Messenger.Proofs.Store.Peers
import Mathlib.Data.List.Nodup

namespace Messenger

/-- The answer that waits in the row of a thread, and for whom. -/
def Thread.reply? (row : Thread) : Option (Identity × PrivacyAction) :=
  row.requestStatus.pendingReply.map (row.peer, ·)

def Event.ofReply (reply : Identity × PrivacyAction) : Event := .setUserPrivacyRequest reply.1 reply.2

def repliesIn (published : List Publication) : List (Identity × PrivacyAction) :=
  published.filterMap (·.event.reply?)

theorem repliesIn_append (one two : List Publication) :
    repliesIn (one ++ two) = repliesIn one ++ repliesIn two :=
  List.filterMap_append

theorem repliesIn_eq_nil {published : List Publication}
    (silent : ∀ publication ∈ published, publication.event.reply? = none) : repliesIn published = [] :=
  List.filterMap_eq_nil_iff.2 silent

theorem repliesIn_of_events {earlier published : List Publication}
    {replies : List (Identity × PrivacyAction)}
    (events : published.map (·.event) = earlier.map (·.event) ++ replies.map .ofReply) :
    repliesIn published = repliesIn earlier ++ replies := by
  have through (published : List Publication) :
      repliesIn published = (published.map (·.event)).filterMap Event.reply? := by
    rw [List.filterMap_map]
    rfl
  have asked : (replies.map Event.ofReply).filterMap Event.reply? = replies := by
    rw [List.filterMap_map]
    exact List.filterMap_some
  rw [through, through, events, List.filterMap_append, asked]

/-! ## What waits in the store -/

namespace Store

variable {store : Store}

/-- The answer that waits in a thread. -/
def reply? (store : Store) (id : ThreadId) : Option (Identity × PrivacyAction) :=
  (store.threads.get? id).bind Thread.reply?

def waiting (store : Store) : List (Identity × PrivacyAction) :=
  store.threads.values.filterMap Thread.reply?

theorem reply?_putThread (row : Thread) (id : ThreadId) :
    (store.putThread row).reply? id = if id = row.id then row.reply? else store.reply? id := by
  unfold reply? putThread
  rw [Table.get?_put]
  split <;> rfl

theorem reply?_putThread_of_same {row old : Thread} (found : store.threads.get? row.id = some old)
    (same : row.reply? = old.reply?) (id : ThreadId) :
    (store.putThread row).reply? id = store.reply? id := by
  rw [reply?_putThread]
  split
  case isTrue here => rw [here, reply?, found, Option.bind_some, same]
  case isFalse => rfl

theorem reply?_setRequestStatus (filed : store.Filed) (id : ThreadId) (status : RequestStatus)
    (other : ThreadId) : (store.setRequestStatus id status).store.reply? other =
      if other = id then (store.peerOf? id).bind fun peer => status.pendingReply.map (peer, ·)
      else store.reply? other := by
  unfold setRequestStatus
  cases found : store.threads.get? id with
  | none =>
    dsimp only
    split
    case isTrue here => simp [here, reply?, peerOf?, found]
    case isFalse => rfl
  | some row =>
    obtain rfl : row.id = id := filed.threads.key_eq found
    dsimp only
    rw [reply?_putThread, peerOf?, found]
    rfl

theorem mem_waiting (filed : store.Filed) {reply : Identity × PrivacyAction} :
    reply ∈ store.waiting ↔ ∃ id, store.reply? id = some reply := by
  refine List.mem_filterMap.trans ⟨?_, ?_⟩
  · rintro ⟨row, listed, waits⟩
    exact ⟨row.id, Option.bind_eq_some_iff.2 ⟨row, filed.threads.mem_values_iff.1 listed, waits⟩⟩
  · rintro ⟨id, waits⟩
    obtain ⟨row, found, waits⟩ := Option.bind_eq_some_iff.1 waits
    exact ⟨row, Table.mem_values.2 ⟨id, found⟩, waits⟩

theorem waiting_eq_nil (filed : store.Filed) (none : ∀ id, store.reply? id = none) :
    store.waiting = [] := by
  refine List.eq_nil_iff_forall_not_mem.2 fun reply waits => ?_
  obtain ⟨id, waits⟩ := (mem_waiting filed).1 waits
  rw [none] at waits
  cases waits

namespace Indexed

theorem waiting_distinct (indexed : store.Indexed) : (store.waiting.map Prod.fst).Nodup := by
  have apart : store.threads.values.Pairwise fun one two => one.peer ≠ two.peer := by
    refine indexed.threads.values_ascending.imp_of_mem fun {one two} first second lt same => ?_
    have place {row : Thread} (listed : row ∈ store.threads.values) :
        store.threadOf.get? row.peer = some row.id :=
      indexed.index.2 (peerOf?_eq_some_iff.2 ⟨row, indexed.threads.mem_values_iff.1 listed, rfl⟩)
    have leads := place first
    rw [same, place second] at leads
    exact Table.ne_of_compare_lt lt (Option.some.inj leads).symm
  refine List.pairwise_map.2 (List.pairwise_filterMap.2 (apart.imp fun {one two} differ => ?_))
  intro reply waits other waits' same
  obtain ⟨_, -, rfl⟩ := Option.map_eq_some_iff.1 waits
  obtain ⟨_, -, rfl⟩ := Option.map_eq_some_iff.1 waits'
  exact differ same

theorem waiting_eq_singleton (indexed : store.Indexed) {reply : Identity × PrivacyAction}
    (only : ∀ other, (∃ id, store.reply? id = some other) ↔ other = reply) :
    store.waiting = [reply] := by
  have distinct : store.waiting.Nodup := indexed.waiting_distinct.of_map _
  refine List.perm_singleton.1 ?_
  refine (List.perm_ext_iff_of_nodup distinct (List.nodup_singleton _)).2 fun other => ?_
  rw [mem_waiting indexed.toFiled, only, List.mem_singleton]

theorem reply?_make (indexed : store.Indexed) {host : Host} {edit : Edit}
    (allowed : edit.Allowed host False store) (fits : edit.Fits store) (id : ThreadId) :
    (edit.make store).reply? id = store.reply? id := by
  cases edit with
  | revise row =>
    obtain ⟨old, found, peer, status⟩ := fits
    refine reply?_putThread_of_same found ?_ id
    rw [Thread.reply?, Thread.reply?, peer, status]
  | answer row status =>
    obtain ⟨settled, settles⟩ := allowed.resolve_left False.elim
    have same : Thread.reply? { row with requestStatus := status } = row.reply? := by
      rw [Thread.reply?, Thread.reply?, settled, settles, Option.map_none]
    exact @reply?_putThread_of_same store { row with requestStatus := status } row fits same id
  | close row => cases allowed
  | found peer isGroup =>
    have free : store.threads.get? store.nextThread = none :=
      Option.map_eq_none_iff.1 indexed.peerOf?_nextThread
    unfold reply? Edit.make Store.found
    rw [Table.get?_put]
    split
    case isTrue here => rw [here, free]; rfl
    case isFalse => rfl
  | aside | message | strike | group | people => rfl

end Indexed

end Store

/-! ## What an input calls for -/

namespace Outbox

/-- The answer that is given with an input, if the thread is there. -/
def given? (outbox : Outbox) : Input → Option (Identity × PrivacyAction)
  | .request (.replySubscription id action) => (outbox.store.peerOf? id).map (·, action)
  | _ => none

/-- The answers that are to be sent in response to an input: one that is given while there is a
connection, and all that wait when there is one again. -/
def due (outbox : Outbox) : Input → List (Identity × PrivacyAction)
  | .request (.replySubscription id action) =>
    if outbox.connected then (outbox.given? (.request (.replySubscription id action))).toList else []
  | .event .connected => outbox.store.waiting
  | _ => []

/-- The answer that waits in a thread after an input. -/
def left? (outbox : Outbox) (input : Input) (id : ThreadId) : Option (Identity × PrivacyAction) :=
  match input with
  | .request (.replySubscription other _) =>
    if id = other then if outbox.connected then none else outbox.given? input
    else outbox.store.reply? id
  | .event .connected => none
  | _ => outbox.store.reply? id

/-- Whether there is a connection after an input. -/
def linked (outbox : Outbox) : Input → Bool
  | .event .connected => true
  | .event .disconnected => false
  | _ => outbox.connected

/-- A response as far as answers are concerned. -/
structure Turn (outbox : Outbox) (input : Input) (after : Outbox × List Publication) : Prop where
  connected : after.1.connected = outbox.linked input
  sent : repliesIn after.2 = outbox.due input
  left : (∀ id, input = .awaitReply id → outbox.store.reply? id = none) →
    ∀ id, after.1.store.reply? id = outbox.left? input id

variable {host : Host} {outbox : Outbox} {input : Input}

theorem indexed_respond (indexed : outbox.store.Indexed) (input : Input) :
    (outbox.respond host input).1.store.Indexed := by
  obtain ⟨next, deeds, responds⟩ :=
    @deeds_respond host True outbox indexed.toFiled input (Or.inl trivial)
  rw [responds]
  exact deeds.keeps indexed fun store edit indexed _ fits => indexed.make fits

end Outbox

/-! ## Deeds that have nothing to do with answers -/

theorem Deeds.leaves {host : Host} {run next : Outbox.Run} (deeds : Deeds host False run next)
    (indexed : run.store.Indexed) : next.connected = run.connected ∧
      repliesIn next.publications = repliesIn run.publications ∧
        ∀ id, next.store.reply? id = run.store.reply? id := by
  induction deeds with
  | refl => exact ⟨rfl, rfl, fun _ => rfl⟩
  | tail before last ih =>
    obtain ⟨connected, replies, left⟩ := ih
    cases last with
    | aside said store_eq publications_eq plain =>
      obtain ⟨connected_eq, silent⟩ := plain.resolve_left id
      refine ⟨connected_eq.trans connected, ?_, fun id => store_eq ▸ left id⟩
      rw [publications_eq, repliesIn_append, repliesIn_eq_nil silent, List.append_nil, replies]
    | edit edit allowed fits store_eq connected_eq publications_eq =>
      refine ⟨connected_eq.trans connected, publications_eq ▸ replies, fun id => ?_⟩
      have indexed := Deeds.keeps before indexed fun store edit indexed _ fits => indexed.make fits
      rw [store_eq, indexed.reply?_make allowed fits id, left id]

namespace Outbox

open Messenger.Action

variable {host : Host} {outbox : Outbox} {run : Run} {input : Input}

theorem turn_of_isCalm (indexed : outbox.store.Indexed) (calm : input.IsCalm) :
    Turn outbox input (outbox.respond host input) := by
  obtain ⟨next, deeds, responds⟩ := @deeds_respond host False outbox indexed.toFiled input (Or.inr calm)
  obtain ⟨connected, replies, left⟩ := Deeds.leaves deeds indexed
  rw [responds]
  refine ⟨connected.trans ?_, replies.trans ?_, fun _ id => (left id).trans ?_⟩
  · unfold linked
    split <;> first | rfl | cases calm
  · unfold due
    split <;> first | rfl | cases calm
  · unfold left?
    split <;> first | rfl | cases calm

/-! ## Sending -/

/-- The answers of some rows were sent, and those that still wait are others. -/
structure Run.Replies (rows : List Thread) (run next : Run) : Prop where
  filed : next.store.Filed
  connected : next.connected = run.connected
  events : next.publications.map (·.event) =
    run.publications.map (·.event) ++ (rows.filterMap Thread.reply?).map .ofReply
  left : ∀ {id : ThreadId} {reply : Identity × PrivacyAction}, next.store.reply? id = some reply →
    run.store.reply? id = some reply ∧ ∀ row ∈ rows, row.id = id → row.reply? = none

theorem Run.Replies.trans {one two : List Thread} {run middle next : Run}
    (first : Replies one run middle) (second : Replies two middle next) : Replies (one ++ two) run next where
  filed := second.filed
  connected := second.connected.trans first.connected
  events := by rw [second.events, first.events, List.filterMap_append, List.map_append, List.append_assoc]
  left waits := by
    obtain ⟨waited, others⟩ := second.left waits
    obtain ⟨waited, these⟩ := first.left waited
    exact ⟨waited, List.forall_mem_append.2 ⟨these, others⟩⟩

section
variable (faultless : host.Faultless)
include faultless

theorem replies_row (row : Thread) (run : Run) (filed : run.store.Filed) : ∃ next,
    (sendSubscriptionReply row).on host run = .ok () next ∧ Run.Replies [row] run next := by
  unfold sendSubscriptionReply
  cases pending : row.requestStatus.pendingReply with
  | none =>
    have quiet : row.reply? = none := by rw [Thread.reply?, pending]; rfl
    refine ⟨run, rfl, filed, rfl, ?_, fun waits => ⟨waits, ?_⟩⟩
    · rw [List.filterMap_cons_none quiet]
      exact (List.append_nil _).symm
    · exact List.forall_mem_singleton.2 fun _ => quiet
  | some action =>
    have speaks : row.reply? = some (row.peer, action) := by rw [Thread.reply?, pending]; rfl
    dsimp only
    rw [on_bind, on_publish]
    dsimp only
    rw [on_commit faultless]
    refine ⟨_, rfl, filed.after (.setRequestStatus row.id .none), rfl, ?_, fun {id reply} waits => ?_⟩
    · rw [List.filterMap_cons_some speaks, List.map_append]
      rfl
    · rw [Store.reply?_setRequestStatus filed] at waits
      split at waits
      case isTrue here =>
        obtain ⟨_, -, waits⟩ := Option.bind_eq_some_iff.1 waits
        cases waits
      case isFalse differ =>
        exact ⟨waits, List.forall_mem_singleton.2 fun same => absurd same.symm differ⟩

theorem replies_rows (rows : List Thread) (run : Run) (filed : run.store.Filed) : ∃ next,
    (rows.forM sendSubscriptionReply).on host run = .ok () next ∧ Run.Replies rows run next := by
  induction rows generalizing run with
  | nil =>
    refine ⟨run, rfl, filed, rfl, (List.append_nil _).symm, fun waits => ⟨waits, ?_⟩⟩
    exact List.forall_mem_nil _
  | cons row rest ih =>
    obtain ⟨middle, ran, replies⟩ := replies_row faultless row run filed
    obtain ⟨next, ran', replies'⟩ := ih middle replies.filed
    have first : (row :: rest).forM sendSubscriptionReply =
        sendSubscriptionReply row >>= fun _ => rest.forM sendSubscriptionReply := rfl
    refine ⟨next, ?_, replies.trans replies'⟩
    rw [first, on_bind, ran]
    exact ran'

theorem replies_all (run : Run) (filed : run.store.Filed) : ∃ next,
    sendSubscriptionReplies.on host run = .ok () next ∧ next.connected = run.connected ∧
      next.publications.map (·.event) =
        run.publications.map (·.event) ++ run.store.waiting.map .ofReply ∧
      ∀ id, next.store.reply? id = none := by
  obtain ⟨next, ran, replies⟩ := replies_rows faultless run.store.threads.values run filed
  refine ⟨next, ?_, replies.connected, replies.events, fun id => ?_⟩
  · rw [sendSubscriptionReplies, on_bind, on_look faultless]
    exact ran
  · refine Option.eq_none_iff_forall_ne_some.2 fun reply waits => ?_
    obtain ⟨waited, none⟩ := replies.left waits
    obtain ⟨row, found, waited⟩ := Option.bind_eq_some_iff.1 waited
    rw [none row (Table.mem_values.2 ⟨id, found⟩) (filed.threads.key_eq found)] at waited
    cases waited

theorem on_resendReceipts_quiet (run : Run) : ∃ next, resendReceipts.on host run = .ok () next ∧
    next.toOutbox = run.toOutbox ∧ repliesIn next.publications = repliesIn run.publications := by
  rw [resendReceipts, on_bind, on_look faultless]
  refine ⟨_, on_forM_publish _, rfl, ?_⟩
  rw [repliesIn_append, @repliesIn_eq_nil (List.map _ _), List.append_nil]
  intro publication mem
  obtain ⟨message, -, rfl⟩ := List.mem_map.1 mem
  rfl

theorem turn_connected (coherent : outbox.store.Coherent) (filed : outbox.store.Filed) :
    Turn outbox (.event .connected) (outbox.respond host (.event .connected)) := by
  let start : Outbox := { outbox with connected := true }
  obtain ⟨scanned, ran, same, scans⟩ := on_resend faultless {} { start with }
  have same : scanned.toOutbox = start := same.trans (@Move.make_scan start coherent {})
  obtain ⟨receipted, ran', same', receipts⟩ := on_resendReceipts_quiet faultless scanned
  have same : receipted.toOutbox = start := same'.trans same
  have store_eq : receipted.store = outbox.store := by rw [same]
  obtain ⟨last, ran'', connected, events, none⟩ := replies_all faultless receipted (store_eq ▸ filed)
  rw [respond_connected_of ran ran' ran'']
  refine ⟨?_, ?_, fun _ => none⟩
  · rw [connected, same]
    rfl
  · rw [repliesIn_of_events events, receipts, scans, store_eq]
    refine congrArg (· ++ outbox.store.waiting) (repliesIn_eq_nil fun publication mem => ?_)
    obtain ⟨dispatch, -, rfl⟩ := List.mem_map.1 mem
    cases dispatch <;> rfl

end

/-! ## Giving an answer -/

theorem respond_request {request : Request} {answer : Answer} {next : Run}
    (ran : (perform request).on host { outbox with } = .ok answer next) :
    outbox.respond host (.request request) = (next.toOutbox, next.publications) :=
  Prod.ext (congrArg Outcome.outbox (run_of_ok ran)) (congrArg Outcome.publications (run_of_ok ran))

section
variable (outbox) (id : ThreadId) (action : PrivacyAction)

theorem given?_reply : outbox.given? (.request (.replySubscription id action)) =
    (outbox.store.threads.get? id).map fun row => (row.peer, action) :=
  Option.map_map ..

theorem due_reply : outbox.due (.request (.replySubscription id action)) =
    if outbox.connected then (outbox.given? (.request (.replySubscription id action))).toList else [] := rfl

theorem left?_reply (other : ThreadId) : outbox.left? (.request (.replySubscription id action)) other =
    if other = id then
      if outbox.connected then none else outbox.given? (.request (.replySubscription id action))
    else outbox.store.reply? other := rfl

end

/-- The response to an answer that is given: it is sent if that is due, and nothing else comes of it. -/
structure Answered (outbox : Outbox) (id : ThreadId) (action : PrivacyAction)
    (after : Outbox × List Publication) : Prop where
  connected : after.1.connected = outbox.connected
  left : ∀ other, after.1.store.reply? other = outbox.left? (.request (.replySubscription id action)) other
  events : after.2.map (·.event) =
    (outbox.due (.request (.replySubscription id action))).map .ofReply

theorem Answered.turn {id : ThreadId} {action : PrivacyAction} {after : Outbox × List Publication}
    (answered : Answered outbox id action after) :
    Turn outbox (.request (.replySubscription id action)) after :=
  ⟨answered.connected, @repliesIn_of_events [] _ _ answered.events, fun _ => answered.left⟩

/-- A run after an answer was put in the row of a thread. -/
def Run.given (run : Run) (id : ThreadId) (action : PrivacyAction) : Run :=
  { run with
    store := (run.store.setRequestStatus id (.ofReply action)).store
    changes := run.changes ++ (run.store.setRequestStatus id (.ofReply action)).changes }

theorem reply?_given (filed : outbox.store.Filed) (id : ThreadId) (action : PrivacyAction)
    (other : ThreadId) : (Run.given { outbox with } id action).store.reply? other =
      if other = id then outbox.given? (.request (.replySubscription id action))
      else outbox.store.reply? other := by
  refine (Store.reply?_setRequestStatus filed id _ other).trans ?_
  rw [RequestStatus.pendingReply_ofReply]
  split
  · exact Option.map_eq_bind.symm
  · rfl

section
variable (faultless : host.Faultless) {id : ThreadId} {row : Thread} (action : PrivacyAction)
include faultless

/-- An answer that is given is put in the row, and sent with all that wait if there is a connection. -/
theorem on_replySubscription (filed : run.store.Filed) (found : run.store.threads.get? id = some row) :
    (replySubscription id action).on host run =
      if run.connected then sendSubscriptionReplies.on host (run.given id action)
      else .ok () (run.given id action) := by
  obtain rfl : row.id = id := filed.threads.key_eq found
  rw [replySubscription, on_bind, loadThread, on_bind, on_look faultless]
  dsimp only
  rw [found]
  dsimp only
  rw [on_pure]
  dsimp only
  rw [on_bind, on_commit faultless]
  dsimp only
  rw [on_bind, on_outbox]
  exact on_ite ..

theorem answered_unknown (unknown : outbox.store.threads.get? id = none) :
    Answered outbox id action (outbox.respond host (.request (.replySubscription id action))) := by
  have failed : (perform (.replySubscription id action)).on host { outbox with } =
      .error (.invalidOperation ("unknown thread " ++ toString id.val)) { outbox with } := by
    rw [perform, on_map, replySubscription, on_bind, loadThread, on_bind, on_look faultless]
    dsimp only
    rw [unknown]
    rfl
  have responds : outbox.respond host (.request (.replySubscription id action)) = (outbox, []) :=
    Prod.ext (congrArg Outcome.outbox (run_of_error failed))
      (congrArg Outcome.publications (run_of_error failed))
  have given : outbox.given? (.request (.replySubscription id action)) = none := by
    rw [given?_reply, unknown, Option.map_none]
  rw [responds]
  refine ⟨rfl, fun other => ?_, ?_⟩
  · rw [left?_reply, given, ite_self]
    split
    case isTrue here => rw [here, Store.reply?, unknown, Option.bind_none]
    case isFalse => rfl
  · rw [due_reply, given, Option.toList_none, ite_self]
    rfl

theorem answered_offline (filed : outbox.store.Filed) (offline : outbox.connected = false)
    (found : outbox.store.threads.get? id = some row) :
    Answered outbox id action (outbox.respond host (.request (.replySubscription id action))) := by
  have performed : (perform (.replySubscription id action)).on host { outbox with } =
      .ok .done (Run.given { outbox with } id action) := by
    rw [perform, on_map, on_replySubscription faultless action filed found, offline,
      if_neg Bool.false_ne_true]
  rw [respond_request performed]
  refine ⟨rfl, fun other => ?_, ?_⟩
  · rw [left?_reply, offline, if_neg Bool.false_ne_true]
    exact reply?_given filed id action other
  · rw [due_reply, offline, if_neg Bool.false_ne_true]
    rfl

theorem answered_online (indexed : outbox.store.Indexed) (online : outbox.connected = true)
    (idle : ∀ id, outbox.store.reply? id = none) (found : outbox.store.threads.get? id = some row) :
    Answered outbox id action (outbox.respond host (.request (.replySubscription id action))) := by
  have given : outbox.given? (.request (.replySubscription id action)) = some (row.peer, action) := by
    rw [given?_reply, found, Option.map_some]
  have later : (Run.given { outbox with } id action).store.Indexed :=
    indexed.after (.setRequestStatus id (.ofReply action))
  have only : (Run.given { outbox with } id action).store.waiting = [(row.peer, action)] := by
    refine later.waiting_eq_singleton fun reply => ?_
    simp [reply?_given indexed.toFiled, idle, given, eq_comm]
  obtain ⟨last, ran, kept, events, none⟩ := replies_all faultless _ later.toFiled
  have performed : (perform (.replySubscription id action)).on host { outbox with } = .ok .done last := by
    rw [perform, on_map, on_replySubscription faultless action indexed.toFiled found, online, if_pos rfl,
      ran]
  rw [respond_request performed]
  refine ⟨kept, fun other => ?_, ?_⟩
  · rw [left?_reply, online, if_pos rfl, idle, ite_self]
    exact none other
  · rw [due_reply, online, if_pos rfl, given]
    rw [only] at events
    exact events

theorem answered_respond (indexed : outbox.store.Indexed)
    (idle : outbox.connected = true → ∀ id, outbox.store.reply? id = none) (id : ThreadId) :
    Answered outbox id action (outbox.respond host (.request (.replySubscription id action))) := by
  cases found : outbox.store.threads.get? id with
  | none => exact answered_unknown faultless action found
  | some row =>
    cases connected : outbox.connected with
    | false => exact answered_offline faultless action indexed.toFiled connected found
    | true => exact answered_online faultless action indexed connected (idle connected) found

end

/-! ## Responses -/

theorem turn_awaitReply (filed : outbox.store.Filed) (id : ThreadId) :
    Turn outbox (.awaitReply id) (outbox.respond host (.awaitReply id)) := by
  refine ⟨rfl, rfl, fun bare other => (Store.reply?_setRequestStatus filed id _ other).trans ?_⟩
  split
  case isTrue here =>
    rw [here]
    exact (Option.bind_fun_none _).trans (bare id rfl).symm
  case isFalse => rfl

theorem turn_respond (faultless : host.Faultless) (coherent : outbox.store.Coherent)
    (indexed : outbox.store.Indexed)
    (idle : outbox.connected = true → ∀ id, outbox.store.reply? id = none) (input : Input) :
    Turn outbox input (outbox.respond host input) := by
  by_cases calm : input.IsCalm
  case pos => exact turn_of_isCalm indexed calm
  case neg =>
    unfold Input.IsCalm at calm
    split at calm
    · exact (answered_respond faultless _ indexed idle _).turn
    · exact turn_connected faultless coherent indexed.toFiled
    · exact ⟨rfl, rfl, fun _ _ => rfl⟩
    · exact turn_awaitReply indexed.toFiled _
    · exact absurd trivial calm

end Outbox

end Messenger
