/-
# A server that answers everything

A server that answers every request of a round, once, and in any order that the network likes:
`Server.answers` is what it sends back for a request, and `Server.exchange` is a round with the
answers that are still on their way; any of them may arrive next.

    what was asked is answered, or its answer is on its way     (`Kept.answered`)
    what arrives answers something that was asked               (`Kept.asked`)

When nothing is on its way any more, all batches and look-ups are answered and the blocklist is
there.  What is left to chance are the keys.  A key counts only if something is known about its
owner, so the key of a person whom the roster did not match is lost if it overtakes that person's
presence, and then the round waits for it in vain (`key_overtakes_presence`).  Where no key does
that, the round is done, whatever came in whatever order (`done_when_answered`).
-/
import Messenger.Proofs.Discovery.Blocking
import Messenger.Proofs.Discovery.Stages

namespace Messenger.Discovery

/-- What a server knows: whom of a batch the roster holds, who is present (everybody once), what
keys they have, who is blocked, and who is gone. -/
structure Server where
  found : RequestId → List Identity → List Identity
  presences : List Presence
  distinct : (presences.map (·.identity)).Nodup
  key : Identity → Octets
  blocked : List Identity
  gone : Identity → Bool

/-- A round and the events that are on their way to it. -/
structure Exchange where
  round : Round
  coming : List Event

namespace Server

/-- The answers to a request. -/
def answers (server : Server) : Event → List Event
  | .rosterMatchRequest batch people => [.rosterMatch batch (server.found batch people)]
  | .presenceRequest request =>
    server.presences.map fun presence => .presence { presence with request }
  | .publicKeyRequest request =>
    server.presences.map fun presence =>
      .publicKey request presence.identity (server.key presence.identity)
  | .blocklistRequest request => [.blocklist request server.blocked]
  | .lastActivityRequest request person => [.lastActivity request person (server.gone person)]
  | _ => []

/-- One of the events that are on their way arrives, and what the round asks then is answered. -/
def take (server : Server) (exchange : Exchange) (event : Event) : Option Exchange :=
  if event ∈ exchange.coming then
    let progress := exchange.round.step event
    some ⟨progress.round,
      exchange.coming.erase event ++ progress.published.flatMap server.answers⟩
  else none

/-- The events arrive one after the other, beginning with the connection; none, if one of them was
not on its way. -/
def exchange (server : Server) (start : Round) (events : List Event) : Option Exchange :=
  events.foldlM server.take ⟨start, [.connected]⟩

theorem exchange_snoc (server : Server) (start : Round) (events : List Event) (event : Event) :
    server.exchange start (events ++ [event]) =
      (server.exchange start events).bind fun exchange => server.take exchange event := by
  simp [exchange, List.foldlM_append]

end Server

/-! ## What has arrived and what is on its way -/

/-- The event has arrived, after the request that it answers was put. -/
def ArrivedFor (request event : Event) : List Handled → Prop :=
  Happened fun past handled => request ∈ published past ∧ handled.event = event

/-- The event is the connection, or it answers something that was asked. -/
def Server.Owes (server : Server) (past : List Handled) (event : Event) : Prop :=
  event = .connected ∨ ∃ request ∈ published past, event ∈ server.answers request

/-- A server keeps its word: it answers everything that is asked, and sends nothing else. -/
structure Kept (server : Server) (history : List Handled) (coming : List Event) : Prop where
  asked : ¬Happened (fun past handled => ¬server.Owes past handled.event) history
  owed : ∀ event ∈ coming, server.Owes history event
  answered : ∀ request ∈ published history, ∀ event ∈ server.answers request,
    event ∈ coming ∨ ArrivedFor request event history
  connected : .connected ∈ coming ∨ Connected history

section
variable {server : Server} {history : List Handled} {coming : List Event}

theorem Server.Owes.snoc {event : Event} (owes : server.Owes history event) (handled : Handled) :
    server.Owes (history ++ [handled]) event := by
  refine owes.imp_right ?_
  rintro ⟨request, mem, answers⟩
  refine ⟨request, ?_, answers⟩
  rw [published_snoc]
  exact List.mem_append_left _ mem

theorem arrivedFor_snoc {request event : Event} {handled : Handled} :
    ArrivedFor request event (history ++ [handled]) ↔ ArrivedFor request event history ∨
      request ∈ published history ∧ handled.event = event :=
  happened_snoc

theorem kept_nil (server : Server) : Kept server [] [.connected] where
  asked := not_happened_nil
  owed := by
    intro event mem
    exact Or.inl (List.mem_singleton.1 mem)
  answered := nofun
  connected := Or.inl List.mem_cons_self

/-- Whatever arrives next, what is on its way stays owed, and what it makes the round ask is owed
from then on. -/
theorem Kept.take (kept : Kept server history coming) {handled : Handled}
    (mem : handled.event ∈ coming) : Kept server (history ++ [handled])
      (coming.erase handled.event ++ handled.progress.published.flatMap server.answers) where
  asked := by
    rw [happened_snoc]
    rintro (before | now)
    · exact kept.asked before
    · exact now (kept.owed _ mem)
  owed := by
    intro event mem
    rcases List.mem_append.1 mem with old | new
    · exact (kept.owed event (List.mem_of_mem_erase old)).snoc handled
    · obtain ⟨request, asked, answers⟩ := List.mem_flatMap.1 new
      refine Or.inr ⟨request, ?_, answers⟩
      rw [published_snoc]
      exact List.mem_append_right _ asked
  answered := by
    intro request asked event answers
    rw [published_snoc] at asked
    rw [arrivedFor_snoc]
    rcases List.mem_append.1 asked with before | now
    · rcases kept.answered request before event answers with waits | arrived
      · by_cases same : event = handled.event
        · exact Or.inr (Or.inr ⟨before, same.symm⟩)
        · exact Or.inl (List.mem_append_left _ ((List.mem_erase_of_ne same).2 waits))
      · exact Or.inr (Or.inl arrived)
    · exact Or.inl (List.mem_append_right _ (List.mem_flatMap.2 ⟨request, now, answers⟩))
  connected := by
    rw [connected_snoc]
    rcases kept.connected with waits | before
    · by_cases same : .connected = handled.event
      · exact Or.inr (Or.inr same.symm)
      · exact Or.inl (List.mem_append_left _ ((List.mem_erase_of_ne same).2 waits))
    · exact Or.inr (Or.inl before)

/-- An exchange is the round after its events, with what is owed for them. -/
theorem kept_of_exchange {start : Round} {events : List Event} {last : Exchange}
    (exchanged : server.exchange start events = some last) :
    last.round = start.after events ∧ Kept server (start.history events) last.coming := by
  induction events using List.reverseRecOn generalizing last with
  | nil =>
    cases exchanged
    exact ⟨rfl, kept_nil server⟩
  | append_singleton earlier event ih =>
    rw [server.exchange_snoc] at exchanged
    obtain ⟨before, exchanged, taken⟩ := Option.bind_eq_some_iff.1 exchanged
    obtain ⟨round_eq, kept⟩ := ih exchanged
    unfold Server.take at taken
    split at taken
    case isTrue mem =>
      cases taken
      rw [start.history_snoc, start.after_append, ← round_eq]
      have here : (⟨before.round, event⟩ : Handled).event ∈ before.coming := mem
      exact ⟨rfl, kept.take here⟩
    case isFalse => cases taken

theorem Kept.answered_of_asked (kept : Kept server history []) {question : Question}
    {id : RequestId} (asked : Asked question id history) : Answered question id history := by
  obtain ⟨request, mem, asks⟩ := asked
  obtain ⟨event, answers, fits⟩ : ∃ event ∈ server.answers request, question.Answers id event := by
    cases question with
    | rosterMatch =>
      obtain ⟨people, rfl⟩ := asks
      exact ⟨_, List.mem_cons_self, _, rfl⟩
    | lastActivity =>
      obtain ⟨person, rfl⟩ := asks
      exact ⟨_, List.mem_cons_self, _, _, rfl⟩
  rcases kept.answered request mem event answers with waits | arrived
  · cases waits
  · obtain ⟨past, handled, future, eq, before, rfl⟩ := arrived
    exact ⟨past, handled, future, eq, ⟨request, before, asks⟩, fits⟩

end

/-! ## Nothing is on its way any more -/

theorem split_of_history {start : Round} {events : List Event} {past future : List Handled}
    {handled : Handled} (eq : start.history events = past ++ handled :: future) :
    ∃ before after, events = before ++ handled.event :: after ∧ past = start.history before ∧
      handled.before = start.after before := by
  induction past generalizing start events with
  | nil =>
    cases events with
    | nil => cases eq
    | cons event rest =>
      obtain ⟨rfl, -⟩ := List.cons.inj eq
      exact ⟨[], rest, rfl, rfl, rfl⟩
  | cons first past ih =>
    cases events with
    | nil => cases eq
    | cons event rest =>
      obtain ⟨rfl, rest_eq⟩ := List.cons.inj eq
      obtain ⟨before, after, rfl, rfl, same⟩ := ih rest_eq
      exact ⟨event :: before, after, rfl, rfl, same⟩

theorem Happened.append {what : List Handled → Handled → Prop} {history : List Handled}
    (happened : Happened what history) (later : List Handled) : Happened what (history ++ later) := by
  obtain ⟨past, handled, future, rfl, so⟩ := happened
  exact ⟨past, handled, future ++ later, by simp, so⟩

theorem present_append (history later : List Handled) :
    present (history ++ later) = present history ∪ present later := by
  unfold present
  rw [List.filterMap_append, List.toFinset_append]

theorem first_or_first {events before before' after after' : List Event} {event event' : Event}
    (eq : events = before ++ event :: after) (eq' : events = before' ++ event' :: after')
    (differ : event ≠ event') :
    (∃ rest, before' = before ++ event :: rest) ∨ ∃ rest, before = before' ++ event' :: rest := by
  rw [eq] at eq'
  rcases List.append_eq_append_iff.1 eq' with ⟨rest, rfl, same⟩ | ⟨rest, rfl, same⟩
  · cases rest with
    | nil => exact absurd (List.cons.inj same).1 differ
    | cons first rest => exact Or.inl ⟨rest, by rw [(List.cons.inj same).1]⟩
  · cases rest with
    | nil => exact absurd (List.cons.inj same).1.symm differ
    | cons first rest => exact Or.inr ⟨rest, by rw [(List.cons.inj same).1]⟩

namespace Server

variable {server : Server} {request : Event}

theorem presence_mem_answers {presence : Presence} :
    .presence presence ∈ server.answers request →
      request = .presenceRequest presence.request ∧
        presence.identity ∈ server.presences.map (·.identity) := by
  intro mem
  cases request <;> simp only [answers, List.mem_map, List.mem_singleton, List.not_mem_nil,
    reduceCtorEq, and_false, exists_false] at mem
  obtain ⟨row, listed, eq⟩ := mem
  cases eq
  exact ⟨rfl, List.mem_map.2 ⟨row, listed, rfl⟩⟩

theorem publicKey_mem_answers {id : RequestId} {person : Identity} {key : Octets} :
    .publicKey id person key ∈ server.answers request → request = .publicKeyRequest id := by
  intro mem
  cases request <;> simp only [answers, List.mem_map, List.mem_singleton, List.not_mem_nil,
    reduceCtorEq, and_false, exists_false] at mem
  obtain ⟨row, listed, eq⟩ := mem
  cases eq
  rfl

theorem sends_presence {person : Identity} (listed : person ∈ server.presences.map (·.identity))
    (request : RequestId) : ∃ presence : Presence, presence.identity = person ∧
      .presence presence ∈ server.answers (.presenceRequest request) := by
  obtain ⟨row, mem, rfl⟩ := List.mem_map.1 listed
  exact ⟨{ row with request }, rfl, List.mem_map_of_mem mem⟩

theorem sends_publicKey {person : Identity} (listed : person ∈ server.presences.map (·.identity))
    (request : RequestId) :
    .publicKey request person (server.key person) ∈ server.answers (.publicKeyRequest request) := by
  obtain ⟨row, mem, rfl⟩ := List.mem_map.1 listed
  exact List.mem_map_of_mem mem

end Server

section
variable {server : Server} {start : Round} {events : List Event} {coming : List Event}

theorem Kept.owes (kept : Kept server (start.history events) coming) {before after : List Event}
    {event : Event} (eq : events = before ++ event :: after) :
    server.Owes (start.history before) event := by
  by_contra unowed
  refine kept.asked ?_
  rw [eq, start.history_append]
  exact ⟨start.history before, ⟨start.after before, event⟩, _, rfl, unowed⟩

theorem Kept.not_disconnected (kept : Kept server (start.history events) coming) :
    .disconnected ∉ events := by
  intro mem
  obtain ⟨before, after, eq⟩ := List.append_of_mem mem
  rcases kept.owes eq with connected | ⟨request, -, answers⟩
  · cases connected
  · cases request <;> simp [Server.answers] at answers

/-- Every answer arrives, at a moment when its request was put before. -/
theorem Kept.arrives (kept : Kept server (start.history events) []) {request event : Event}
    (asked : request ∈ published (start.history events)) (answers : event ∈ server.answers request) :
    ∃ before after, events = before ++ event :: after ∧
      request ∈ published (start.history before) := by
  rcases kept.answered request asked event answers with waits | arrived
  · cases waits
  · obtain ⟨past, handled, future, eq, before, rfl⟩ := arrived
    obtain ⟨earlier, later, events_eq, rfl, -⟩ := split_of_history eq
    exact ⟨earlier, later, events_eq, before⟩

end

/-- Whose key an event brings. -/
def keyOwner : Event → Option Identity
  | .publicKey _ person _ => some person
  | _ => none

/-- Whose presence an event brings. -/
def presenceOwner : Event → Option Identity
  | .presence presence => some presence.identity
  | _ => none

/-- No key comes before the presence of its owner, unless the roster matched the owner. -/
def KeysInTime (start : Round) (events : List Event) : Prop :=
  events.Pairwise fun earlier later => ∀ person ∈ keyOwner earlier,
    presenceOwner later = some person → Matched person (start.history events)

theorem KeysInTime.matched {start : Round} {events before between after : List Event}
    (inTime : KeysInTime start events) {request : RequestId} {key : Octets} {presence : Presence}
    (eq : events = before ++ .publicKey request presence.identity key ::
      (between ++ .presence presence :: after)) :
    Matched presence.identity (start.history events) := by
  have pairs : (before ++ .publicKey request presence.identity key ::
      (between ++ .presence presence :: after)).Pairwise fun earlier later =>
        ∀ person ∈ keyOwner earlier, presenceOwner later = some person →
          Matched person (start.history events) := eq ▸ inTime
  exact List.rel_of_pairwise_cons (List.pairwise_append.1 pairs).2.1
    (List.mem_append_right between List.mem_cons_self) presence.identity rfl rfl

/-- A round that is still running although nothing is on its way any more, and all that is so of it
at any moment. -/
structure Lingers (server : Server) (start : Round) (events : List Event) : Prop where
  kept : Kept server (start.history events) []
  marks : ∀ {before}, before <+: events → Marks (start.history before) (start.after before)
  staged : ∀ {before}, before <+: events → Staged (start.history before) (start.after before)
  running : Running (start.history events) (start.after events)

namespace Lingers

variable {server : Server} {start : Round} {events : List Event}

theorem of_running (marks : Marks [] start) (staged : Staged [] start) (begins : Running [] start)
    (kept : Kept server (start.history events) [])
    (running : Running (start.history events) (start.after events)) : Lingers server start events where
  kept := kept
  marks := by
    intro before le
    have here := Running.of_prefix begins kept.not_disconnected running.unfinished le
    exact marks_of_unfinished marks before here.unfinished
  staged := by
    intro before le
    have here := Running.of_prefix begins kept.not_disconnected running.unfinished le
    exact staged_of_running begins staged (fun mem => kept.not_disconnected (le.subset mem))
      here.unfinished
  running := running

variable (lingers : Lingers server start events)
include lingers

theorem phase_eq : (start.after events).phase = .awaitingDetails := by
  have staged := lingers.staged (List.prefix_refl _)
  have tracks := lingers.running.tracks
  have connected : Connected (start.history events) := lingers.kept.connected.resolve_left nofun
  have started := tracks.connected.2 connected
  have unfinished := lingers.running.unfinished
  cases phase : (start.after events).phase with
  | init => exact absurd phase started
  | awaitingRosterMatch =>
    obtain ⟨id, mem⟩ := List.exists_mem_of_ne_nil _ (staged.batches phase)
    obtain ⟨asked, unanswered⟩ := (tracks.batches id).1 mem
    exact absurd (lingers.kept.answered_of_asked asked) unanswered
  | awaitingDetails => rfl
  | done | unavailable =>
    rw [phase] at unfinished
    cases unfinished

theorem blocklisted : Blocklisted (start.history events) := by
  obtain ⟨-, -, received | asked⟩ := (lingers.staged (List.prefix_refl _)).asked lingers.phase_eq
  · exact lingers.running.tracks.blocklist.1 received
  · obtain ⟨before, after, eq, requested⟩ := lingers.kept.arrives asked List.mem_cons_self
    have le : before <+: events := ⟨_, eq.symm⟩
    obtain ⟨phase, same | same | same⟩ := (lingers.staged le).only _ requested trivial
    · cases same
    · cases same
    · have connected := (lingers.marks le).tracks.connected.1 (by rw [phase]; nofun)
      rw [eq, start.history_append]
      refine ⟨start.history before, ⟨start.after before, _⟩, _, rfl, connected, server.blocked, ?_⟩
      rw [← Event.blocklistRequest.inj same]

theorem present_subset :
    present (start.history events) ⊆ (server.presences.map (·.identity)).toFinset := by
  intro person mem
  obtain ⟨handled, listed, accepted⟩ := List.mem_filterMap.1 (List.mem_toFinset.1 mem)
  obtain ⟨past, future, eq⟩ := List.append_of_mem listed
  obtain ⟨before, after, events_eq, -, -⟩ := split_of_history eq
  unfold Handled.present? at accepted
  split at accepted
  case h_1 presence event_eq =>
    split at accepted
    · cases accepted
      rcases lingers.kept.owes events_eq with connected | ⟨request, -, answers⟩
      · rw [event_eq] at connected
        cases connected
      · rw [event_eq] at answers
        exact List.mem_toFinset.2 (Server.presence_mem_answers answers).2
    · cases accepted
  case h_2 => cases accepted

theorem mem_present {before after : List Event} {presence : Presence}
    (eq : events = before ++ .presence presence :: after) :
    presence.identity ∈ present (start.history (before ++ [.presence presence])) := by
  have le : before <+: events := ⟨_, eq.symm⟩
  rcases lingers.kept.owes eq with connected | ⟨request, asked, answers⟩
  · cases connected
  · obtain ⟨rfl, -⟩ := Server.presence_mem_answers answers
    obtain ⟨phase, same | same | same⟩ := (lingers.staged le).only _ asked trivial
    · rw [start.history_snoc, mem_present_snoc]
      refine Or.inr (if_pos ⟨?_, phase⟩)
      exact Event.presenceRequest.inj same
    · cases same
    · cases same

theorem mem_keyed {before after : List Event} {id : RequestId} {person : Identity} {key : Octets}
    (eq : events = before ++ .publicKey id person key :: after)
    (known : Known person (start.history before)) :
    person ∈ keyed (start.history events) := by
  have le : before <+: events := ⟨_, eq.symm⟩
  have has := ((lingers.marks le).has_iff person).2 known
  rcases lingers.kept.owes eq with connected | ⟨request, asked, answers⟩
  · cases connected
  · obtain rfl := Server.publicKey_mem_answers answers
    obtain ⟨phase, same | same | same⟩ := (lingers.staged le).only _ asked trivial
    · cases same
    · rw [keyed, List.mem_toFinset, List.mem_filterMap]
      refine ⟨⟨start.after before, .publicKey id person key⟩, ?_, ?_⟩
      · rw [eq, start.history_append]
        exact List.mem_append_right _ List.mem_cons_self
      · exact if_pos ⟨Event.publicKeyRequest.inj same, phase, has⟩
    · cases same

/-- Nobody is matched any more once keys are asked for. -/
theorem matched_before {before : List Event} (le : before <+: events) {id : RequestId}
    {person : Identity} (asked : .publicKeyRequest id ∈ published (start.history before))
    (matched : Matched person (start.history events)) : Matched person (start.history before) := by
  obtain ⟨past, handled, future, history_eq, batch, people, answer, mem, opened⟩ := matched
  obtain ⟨earlier, after, events_eq, rfl, -⟩ := split_of_history history_eq
  have moment : earlier ++ [handled.event] <+: events := ⟨after, by simp [events_eq]⟩
  have matched : Matched person (start.history (earlier ++ [handled.event])) := by
    rw [start.history_snoc, matched_snoc]
    exact Or.inr ⟨batch, people, answer, mem, opened⟩
  rcases List.prefix_or_prefix_of_prefix moment le with ⟨rest, rfl⟩ | late
  · rw [start.history_append]
    exact Happened.append matched _
  · rcases List.prefix_concat_iff.1 late with rfl | ⟨rest, rfl⟩
    · exact matched
    · -- the answer would have come to a round that waits for no batch
      have here : before ++ rest <+: events := (List.prefix_append _ _).trans moment
      have still : .publicKeyRequest id ∈ published (start.history (before ++ rest)) := by
        rw [start.history_append, published, List.flatMap_append]
        exact List.mem_append_left _ asked
      have staged := lingers.staged here
      have waits := ((lingers.marks here).tracks.batches batch).2 opened
      rw [staged.details (staged.only _ still trivial).1] at waits
      cases waits

/-- The key of everybody who is present is accepted, if it comes in time. -/
theorem keyed_of_inTime (inTime : KeysInTime start events) {person : Identity}
    (listed : person ∈ server.presences.map (·.identity)) :
    person ∈ keyed (start.history events) := by
  obtain ⟨presences, keys, -⟩ := (lingers.staged (List.prefix_refl _)).asked lingers.phase_eq
  obtain ⟨presence, rfl, sent⟩ := Server.sends_presence listed (start.after events).presenceId
  obtain ⟨before, after, key_eq, requested⟩ :=
    lingers.kept.arrives keys (Server.sends_publicKey listed _)
  obtain ⟨before', after', presence_eq, -⟩ := lingers.kept.arrives presences sent
  refine lingers.mem_keyed key_eq ?_
  rcases first_or_first presence_eq key_eq nofun with ⟨rest, earlier⟩ | ⟨rest, earlier⟩
  · have here := lingers.mem_present presence_eq
    rw [earlier, List.append_cons, start.history_append, Known, present_append]
    exact Or.inr (Finset.mem_union_left _ here)
  · -- the key came first, so the roster matched its owner
    rw [earlier, List.append_assoc, List.cons_append] at presence_eq
    exact Or.inl (lingers.matched_before ⟨_, key_eq.symm⟩ requested (inTime.matched presence_eq))

theorem complete (inTime : (∃ person, Matched person (start.history events)) →
    KeysInTime start events) : Complete (start.history events) where
  connected := lingers.kept.connected.resolve_left nofun
  matches_answered := fun _ asked => lingers.kept.answered_of_asked asked
  blocklisted := lingers.blocklisted
  details := by
    by_cases somebody : ∃ person, Matched person (start.history events)
    case neg => exact Or.inl (not_exists.1 somebody)
    case pos =>
      refine Or.inr ⟨?_, fun _ asked => lingers.kept.answered_of_asked asked⟩
      calc (present (start.history events)).card
          ≤ (server.presences.map (·.identity)).toFinset.card :=
            Finset.card_le_card lingers.present_subset
        _ ≤ (keyed (start.history events)).card := by
            refine Finset.card_le_card fun person listed => ?_
            exact lingers.keyed_of_inTime (inTime somebody) (List.mem_toFinset.1 listed)
        _ ≤ keysAccepted (start.history events) := List.toFinset_card_le _

end Lingers

/-- A round that a server answers in full is done after the last answer, in whatever order the
answers come, if the roster matches nobody or no key overtakes the presence of a person whom it
does not match.  The condition is more than is needed: a round that has all it waits for before the
presence comes whose key was lost is done early without it. -/
theorem done_when_answered (candidates : List Identity) (batchSize : Nat) (first : RequestId)
    (server : Server) {events : List Event} {last : Exchange}
    (exchanged : server.exchange (Round.start candidates batchSize first) events = some last)
    (answered : last.coming = [])
    (inTime : (∃ person,
        Matched person ((Round.start candidates batchSize first).history events)) →
      KeysInTime (Round.start candidates batchSize first) events) :
    last.round.phase = .done := by
  obtain ⟨round_eq, kept⟩ := kept_of_exchange exchanged
  rw [answered] at kept
  rw [round_eq]
  have begins : Running [] (Round.start candidates batchSize first) :=
    ⟨tracks_start candidates batchSize first, rfl, rfl⟩
  refine (running_or_done begins kept.not_disconnected).resolve_left fun running => ?_
  have lingers := Lingers.of_running (marks_start candidates batchSize first)
    (staged_start candidates batchSize first) begins kept running
  have complete := running.tracks.isComplete_iff.2 (lingers.complete inTime)
  rw [running.waiting] at complete
  cases complete

/-! ### A key that overtakes a presence -/

/-- A server whose roster holds Alice, and that sends the presences of both, Bob being subscribed
on both sides. -/
def pairServer : Server where
  found _ people := people
  presences :=
    [⟨⟨0⟩, ⟨"a@x"⟩, none, none, none, true⟩, ⟨⟨0⟩, ⟨"b@x"⟩, none, none, none, true⟩]
  distinct := by decide
  key person := Octets.ofText person.text
  blocked := []
  gone _ := false

/-- The key of somebody whom the roster matched may come first; that of Bob, whom it did not match,
comes after his presence. -/
theorem done_when_answered_pair :
    let start := Round.start [⟨"a@x"⟩] 1 ⟨0⟩
    let key (person : Identity) : Event := .publicKey ⟨1⟩ person (pairServer.key person)
    let events : List Event := [.connected, .rosterMatch ⟨3⟩ [⟨"a@x"⟩], key ⟨"a@x"⟩,
      .presence ⟨⟨0⟩, ⟨"b@x"⟩, none, none, none, true⟩, key ⟨"b@x"⟩, .blocklist ⟨2⟩ [],
      .presence ⟨⟨0⟩, ⟨"a@x"⟩, none, none, none, true⟩, .lastActivity ⟨4⟩ ⟨"b@x"⟩ false]
    ∃ last, pairServer.exchange start events = some last ∧ last.coming = [] ∧
      KeysInTime start events ∧ last.round.phase = .done := by
  intro start key events
  have matched : Matched ⟨"a@x"⟩ (start.history events) := by
    have running := marks_of_unfinished (marks_start [⟨"a@x"⟩] 1 ⟨0⟩) [.connected] (by decide +kernel)
    have opened := (running.tracks.batches ⟨3⟩).1 (by decide +kernel)
    exact ⟨start.history [.connected], _, _, rfl, ⟨3⟩, _, rfl, List.mem_cons_self, opened⟩
  have overtaken : events.Pairwise fun earlier later => ∀ person ∈ keyOwner earlier,
      presenceOwner later = some person → person = ⟨"a@x"⟩ := by decide +kernel
  have inTime : KeysInTime start events := overtaken.imp fun only person brings follows => by
    rw [only person brings follows]
    exact matched
  have answered : ∃ last, pairServer.exchange start events = some last ∧ last.coming = [] := by
    decide +kernel
  obtain ⟨last, exchanged, answered⟩ := answered
  exact ⟨last, exchanged, answered, inTime, done_when_answered _ _ _ pairServer exchanged answered
    fun _ => inTime⟩

/-- Where Bob's key comes first it is lost, and the round waits for it when everything is
answered. -/
theorem key_overtakes_presence :
    let start := Round.start [⟨"a@x"⟩] 1 ⟨0⟩
    let key (person : Identity) : Event := .publicKey ⟨1⟩ person (pairServer.key person)
    let events : List Event := [.connected, .rosterMatch ⟨3⟩ [⟨"a@x"⟩], key ⟨"b@x"⟩,
      .presence ⟨⟨0⟩, ⟨"b@x"⟩, none, none, none, true⟩, .blocklist ⟨2⟩ [],
      .presence ⟨⟨0⟩, ⟨"a@x"⟩, none, none, none, true⟩, key ⟨"a@x"⟩,
      .lastActivity ⟨4⟩ ⟨"b@x"⟩ false]
    ∃ last, pairServer.exchange start events = some last ∧ last.coming = [] ∧
      last.round.phase = .awaitingDetails := by
  decide +kernel

end Messenger.Discovery
