/-
# Names are exact

A message has a name in its direction: the server gave one to every message that has arrived, and
we give one to every message of ours.  The index of names is a table of its own, which is written
when a message comes and never compared with the messages again.  It is exact all the same, because
no name is entered twice in one direction:

    a message arrives      its name is looked up first
    a message of ours      gets the next name, and these are all different

The second is up to whoever makes the names, so it is an assumption about those that are used up
(`Outbox.namesIn`).  That the index is exact is `Store.Named`; with the names of our messages it
becomes `Outbox.Accounts`, which moves, responses and lives keep.  So a message is taken exactly
once (`arrives_once`).
-/
import Messenger.Proofs.Outbox.Arrival
import Messenger.Proofs.Outbox.Messages

namespace Messenger

namespace Store

/-- Every message has a name, and the index leads from every name to the message that has it. -/
structure Named (store : Store) : Prop where
  named : ∀ {id : MessageId} {message : Message},
    store.messages.get? id = some message → message.serverId.isSome
  exact : ∀ {direction : Direction} {name : String} {id : MessageId},
    store.serverIds.get? ⟨direction, name⟩ = some id ↔ ∃ message,
      store.messages.get? id = some message ∧ message.direction = direction ∧
        message.serverId = some name

/-- A message of this name has arrived. -/
def HasArrived (store : Store) (name : String) : Prop :=
  ∃ message, store.message? message.id = some message ∧ message.direction = .incoming ∧
    message.serverId = some name

namespace Named

variable {store other : Store}

theorem empty : Named ∅ where
  named := fun found => nomatch found
  exact := ⟨fun found => (nomatch found), fun ⟨_, found, _⟩ => nomatch found⟩

theorem rewritten (named : store.Named) {restarted : MessageId → Prop}
    (rewritten : store.Rewritten restarted other) : other.Named where
  named := by
    intro id new found
    obtain ⟨old, before, follows⟩ := rewritten.back found
    rw [follows.serverId_eq]
    exact named.named before
  exact := by
    intro direction name id
    rw [rewritten.serverIds, named.exact]
    constructor
    · rintro ⟨old, found, rfl, named⟩
      obtain ⟨new, after, follows⟩ := rewritten.forth found
      exact ⟨new, after, follows.direction_eq, follows.serverId_eq.trans named⟩
    · rintro ⟨new, found, rfl, named⟩
      obtain ⟨old, before, follows⟩ := rewritten.back found
      exact ⟨old, before, follows.direction_eq.symm, follows.serverId_eq.symm.trans named⟩

theorem insertMessage (named : store.Named) (orderly : Orderly store) {content : MessageContent}
    {name : String} (name_eq : content.serverId = some name)
    (free : store.serverIds.get? ⟨content.direction, name⟩ = none) :
    (store.insertMessage content).store.Named where
  named := by
    intro id message found
    rw [insertMessage_messages, Table.get?_put] at found
    split at found
    · cases found
      exact Option.isSome_iff_exists.2 ⟨name, name_eq⟩
    · exact named.named found
  exact := by
    intro direction other id
    rw [insertMessage_serverIds store name_eq, insertMessage_messages, Table.get?_put,
      Table.get?_put]
    by_cases new : id = store.nextMessage
    · subst new
      rw [if_pos rfl]
      split
      case isTrue same =>
        cases same
        exact iff_of_true rfl ⟨_, rfl, rfl, name_eq⟩
      case isFalse differ =>
        refine iff_of_false (fun found => ?_) ?_
        · obtain ⟨message, stored, -⟩ := named.exact.1 found
          rw [orderly.get?_nextMessage] at stored
          cases stored
        · rintro ⟨message, eq, rfl, own⟩
          cases eq
          refine differ ?_
          rw [ServerKey.mk.injEq]
          exact ⟨rfl, Option.some.inj (own.symm.trans name_eq)⟩
    · rw [if_neg new]
      split
      case isTrue same =>
        cases same
        refine iff_of_false (fun eq => new (Option.some.inj eq).symm) fun stored => ?_
        rw [named.exact.2 stored] at free
        cases free
      case isFalse => exact named.exact

theorem unique (named : store.Named) {one two : MessageId} {first second : Message}
    (found : store.messages.get? one = some first) (found' : store.messages.get? two = some second)
    (direction : first.direction = second.direction) (name : first.serverId = second.serverId) :
    first = second := by
  obtain ⟨text, eq⟩ := Option.isSome_iff_exists.1 (named.named found)
  have left := named.exact.2 ⟨first, found, rfl, eq⟩
  have right := named.exact.2 ⟨second, found', rfl, name.symm.trans eq⟩
  rw [direction, right] at left
  cases left
  exact Option.some.inj (found.symm.trans found')

theorem messageByServerId?_eq_some_iff (named : store.Named) (keyed : store.messages.KeyedBy (·.id))
    {direction : Direction} {name : String} {message : Message} :
    store.messageByServerId? direction name = some message ↔
      store.message? message.id = some message ∧ message.direction = direction ∧
        message.serverId = some name := by
  rw [messageByServerId?, Option.bind_eq_some_iff]
  constructor
  · rintro ⟨id, indexed, found⟩
    obtain ⟨row, stored, direction_eq, name_eq⟩ := named.exact.1 indexed
    obtain rfl : row = message := Option.some.inj (stored.symm.trans found)
    obtain rfl : row.id = id := keyed.key_eq found
    exact ⟨found, direction_eq, name_eq⟩
  · rintro ⟨stored, direction_eq, name_eq⟩
    exact ⟨message.id, named.exact.2 ⟨message, stored, direction_eq, name_eq⟩, stored⟩

theorem hasArrived_iff (named : store.Named) (keyed : store.messages.KeyedBy (·.id)) {name : String} :
    store.HasArrived name ↔ (store.messageByServerId? .incoming name).isSome := by
  rw [Option.isSome_iff_exists, HasArrived]
  exact exists_congr fun message => (named.messageByServerId?_eq_some_iff keyed).symm

theorem free_of_unknown (named : store.Named) {direction : Direction} {name : String}
    (unknown : store.messageByServerId? direction name = none) :
    store.serverIds.get? ⟨direction, name⟩ = none := by
  cases found : store.serverIds.get? ⟨direction, name⟩ with
  | none => rfl
  | some id =>
    obtain ⟨message, stored, -⟩ := named.exact.1 found
    rw [messageByServerId?, found, Option.bind_some, stored] at unknown
    cases unknown

end Named

end Store

/-! ## The names of our messages -/

/-- The names from one count to another. -/
def Host.names (host : Host) (first last : Nat) : List String :=
  (List.range' first (last - first)).map host.serverId

theorem Host.names_self (host : Host) (first : Nat) : host.names first first = [] := by
  simp [names]

theorem Host.names_succ (host : Host) {first last : Nat} (le : first ≤ last) :
    host.names first (last + 1) = host.names first last ++ [host.serverId last] := by
  have count : last + 1 - first = last - first + 1 := Nat.succ_sub le
  rw [names, names, count, List.range'_concat, List.map_append, Nat.one_mul, Nat.add_sub_cancel' le]
  rfl

/-- The names that a life of the outbox uses up. -/
def Outbox.namesIn (outbox : Outbox) : List Stimulus → List String
  | [] => []
  | stimulus :: rest =>
    let next := (outbox.respond stimulus.host stimulus.input).1
    stimulus.host.names outbox.issued next.issued ++ next.namesIn rest

namespace Store

/-- The index is exact, and our messages have these names. -/
structure Accounts (names : List String) (store : Store) : Prop where
  named : store.Named
  ours : ∀ {id : MessageId} {message : Message}, store.messages.get? id = some message →
    message.direction = .outgoing → ∃ name ∈ names, message.serverId = some name

namespace Accounts

variable {names : List String} {store other : Store}

theorem empty : Accounts names ∅ where
  named := .empty
  ours := fun found => nomatch found

theorem rewritten (accounts : store.Accounts names) {restarted : MessageId → Prop}
    (rewritten : store.Rewritten restarted other) : other.Accounts names where
  named := accounts.named.rewritten rewritten
  ours := by
    intro id new found outgoing
    obtain ⟨old, before, follows⟩ := rewritten.back found
    rw [follows.serverId_eq]
    exact accounts.ours before (follows.direction_eq ▸ outgoing)

theorem receive (accounts : store.Accounts names) (orderly : Orderly store)
    {content : MessageContent} (drafted : Drafted store content)
    (incoming : content.direction = .incoming) :
    (store.insertMessage content).store.Accounts names := by
  cases drafted with
  | composed id thread group found known composed =>
    rw [composed.direction_eq] at incoming
    cases incoming
  | command group thread command name now found home content_eq =>
    rw [content_eq] at incoming
    cases incoming
  | received peer thread name found home direction_eq name_eq fresh =>
    have free := accounts.named.free_of_unknown fresh
    rw [← direction_eq] at free
    refine ⟨accounts.named.insertMessage orderly name_eq free, fun stored outgoing => ?_⟩
    rw [insertMessage_messages, Table.get?_put] at stored
    split at stored
    · cases stored
      rw [newMessage, direction_eq] at outgoing
      cases outgoing
    · exact accounts.ours stored outgoing

theorem post (accounts : store.Accounts names) (orderly : Orderly store) {content : MessageContent}
    (outgoing : content.direction = .outgoing) {name : String}
    (name_eq : content.serverId = some name) (new : name ∉ names) :
    (store.insertMessage content).store.Accounts (names ++ [name]) := by
  have free : store.serverIds.get? ⟨content.direction, name⟩ = none := by
    cases indexed : store.serverIds.get? ⟨content.direction, name⟩ with
    | none => rfl
    | some id =>
      obtain ⟨message, found, direction_eq, own⟩ := accounts.named.exact.1 indexed
      obtain ⟨other, mem, eq⟩ := accounts.ours found (direction_eq.trans outgoing)
      obtain rfl : other = name := Option.some.inj (eq.symm.trans own)
      exact absurd mem new
  refine ⟨accounts.named.insertMessage orderly name_eq free, fun stored outgoing => ?_⟩
  rw [insertMessage_messages, Table.get?_put] at stored
  split at stored
  · cases stored
    exact ⟨name, List.mem_append_right _ List.mem_cons_self, name_eq⟩
  · obtain ⟨other, mem, eq⟩ := accounts.ours stored outgoing
    exact ⟨other, List.mem_append_left _ mem, eq⟩

end Accounts

end Store

namespace Move

variable {outbox : Outbox} {host : Host} {move : Move} {names : List String}

/-- The names that a move uses up. -/
def uses (host : Host) (outbox : Outbox) : Move → List String
  | post _ => [host.serverId outbox.issued]
  | _ => []

theorem issued_make {first : Nat} (le : first ≤ outbox.issued) :
    host.names first (move.make outbox).1.issued =
      host.names first outbox.issued ++ move.uses host outbox := by
  cases move with
  | post content => exact host.names_succ le
  | _ => exact (List.append_nil _).symm

theorem issued_le_make : outbox.issued ≤ (move.make outbox).1.issued := by
  cases move with
  | post content => exact Nat.le_succ _
  | _ => exact Nat.le_refl _

/-- Every move keeps the account, with the names that it uses up, as long as they are new. -/
theorem accounts_make (coherent : outbox.store.Coherent) (fits : move.Fits host outbox)
    (accounts : outbox.store.Accounts names) (distinct : (names ++ move.uses host outbox).Nodup) :
    (move.make outbox).1.store.Accounts (names ++ move.uses host outbox) := by
  have orderly := coherent.tidy.toOrderly
  cases entered : move.entered? with
  | none =>
    have unnamed : move.uses host outbox = [] := by
      cases move with
      | post content => cases entered
      | _ => rfl
    rw [unnamed, List.append_nil]
    exact accounts.rewritten (rewritten_make coherent fits entered)
  | some content =>
    rw [entered_make entered]
    unfold entered? at entered
    split at entered
    case h_1 =>
      cases entered
      have unnamed : (write (.insertMessage content)).uses host outbox = [] := rfl
      rw [unnamed, List.append_nil]
      exact accounts.receive orderly fits.1 fits.2
    case h_2 =>
      cases entered
      obtain ⟨-, outgoing, name_eq⟩ := fits
      refine accounts.post orderly outgoing name_eq fun mem => ?_
      exact (List.nodup_append.1 distinct).2.2 _ mem _ List.mem_cons_self rfl
    case h_3 => cases entered

end Move

namespace Outbox

open Messenger.Action

variable {outbox : Outbox} {host : Host} {names : List String}

theorem accounts_respond (coherent : outbox.store.Coherent) (faultless : host.Faultless)
    (accounts : outbox.store.Accounts names) (input : Input) :
    let later := (outbox.respond host input).1
    (names ++ host.names outbox.issued later.issued).Nodup →
      later.store.Accounts (names ++ host.names outbox.issued later.issued) := by
  let holds (later : Outbox) : Prop := later.store.Coherent ∧ outbox.issued ≤ later.issued ∧
    ((names ++ host.names outbox.issued later.issued).Nodup →
      later.store.Accounts (names ++ host.names outbox.issued later.issued))
  have start : holds outbox := by
    refine ⟨coherent, Nat.le_refl _, fun _ => ?_⟩
    rw [host.names_self, List.append_nil]
    exact accounts
  refine ((walk_respond faultless coherent.tidy.messages input).keeps start ?_).2.2
  rintro later move ⟨coherent, le, accounts⟩ - fits
  refine ⟨Move.coherent_make coherent fits, Nat.le_trans le Move.issued_le_make, fun distinct => ?_⟩
  rw [Move.issued_make le, ← List.append_assoc] at distinct ⊢
  exact Move.accounts_make coherent fits (accounts (List.nodup_append.1 distinct).1) distinct

theorem accounts_play {stimuli : List Stimulus} (coherent : outbox.store.Coherent)
    (faultless : ∀ stimulus ∈ stimuli, stimulus.host.Faultless)
    (accounts : outbox.store.Accounts names)
    (distinct : (names ++ outbox.namesIn stimuli).Nodup) :
    (outbox.play stimuli).1.store.Accounts (names ++ outbox.namesIn stimuli) := by
  induction stimuli generalizing outbox names with
  | nil =>
    rw [namesIn, List.append_nil]
    exact accounts
  | cons stimulus rest ih =>
    have here := faultless _ List.mem_cons_self
    rw [namesIn, ← List.append_assoc] at distinct ⊢
    refine ih (coherent_respond coherent here stimulus.input) ?_ ?_ distinct
    · exact fun other mem => faultless other (List.mem_cons_of_mem _ mem)
    · exact accounts_respond coherent here accounts stimulus.input (List.nodup_append.1 distinct).1

/-- In every life in which our names are different, the index of names is exact. -/
theorem named_play {stimuli : List Stimulus}
    (faultless : ∀ stimulus ∈ stimuli, stimulus.host.Faultless)
    (distinct : (namesIn {} stimuli).Nodup) : (play {} stimuli).1.store.Named := by
  have accounts : (play {} stimuli).1.store.Accounts ([] ++ namesIn {} stimuli) :=
    accounts_play .empty faultless .empty distinct
  exact accounts.named

/-- What has arrived stays. -/
theorem hasArrived_play {stimuli : List Stimulus} (coherent : outbox.store.Coherent)
    (faultless : ∀ stimulus ∈ stimuli, stimulus.host.Faultless) {name : String}
    (arrived : outbox.store.HasArrived name) : (outbox.play stimuli).1.store.HasArrived name := by
  obtain ⟨old, stored, incoming, name_eq⟩ := arrived
  obtain ⟨new, found, follows⟩ := keeps_play coherent faultless old.id old stored
  have own : new.id = old.id := (coherent_play coherent faultless).tidy.messages.key_eq found
  refine ⟨new, ?_, follows.direction_eq.trans incoming, follows.serverId_eq.trans name_eq⟩
  rw [own]
  exact found

theorem request_incoming (coherent : outbox.store.Coherent) (named : outbox.store.Named)
    (faultless : host.Faultless) (inbound : InboundMessage) :
    let outcome := { outbox : Service }.request host (.incoming inbound)
    (outbox.store.HasArrived inbound.serverId → outcome = ⟨.ok (.arrived none), outbox, [], [], []⟩) ∧
      (¬outbox.store.HasArrived inbound.serverId → ∃ message : Message,
        outcome.result = .ok (.arrived (some message.id)) ∧
        outbox.store.message? message.id = none ∧
        outcome.outbox.store.message? message.id = some message ∧
        message.direction = .incoming ∧ message.serverId = some inbound.serverId) := by
  rw [named.hasArrived_iff coherent.tidy.messages]
  refine ⟨fun known => ?_, fun unknown => ?_⟩
  · have dropped : (perform (.incoming inbound)).on host { outbox with } =
        .ok (.arrived none) { outbox with } := by
      show (Answer.arrived <$> incoming inbound).on host { outbox with } = _
      rw [on_map, on_incoming_known faultless.takes known]
    exact run_of_ok dropped
  · let taken := outbox.store.taken inbound (readable host.cipher inbound)
    have number : taken.value.id = outbox.store.nextMessage := outbox.store.nextMessage_ensureThread _ _
    have stored : taken.store.message? taken.value.id = some taken.value :=
      (outbox.store.message?_taken inbound _ _).trans (if_pos rfl)
    rw [request_new faultless.takes (Option.not_isSome_iff_eq_none.1 unknown)]
    refine ⟨taken.value, rfl, ?_, ?_, rfl, rfl⟩
    · rw [number]
      exact coherent.tidy.toOrderly.get?_nextMessage
    · rw [Store.message?, learned_messages]
      exact stored

/-- In every life of the outbox in which our names are different: two messages of one direction and
one name are one; a name leads to exactly the message that has it; and a message is taken exactly
if none of its name has arrived, and otherwise nothing happens, now or later. -/
theorem arrives_once {stimuli : List Stimulus}
    (faultless : ∀ stimulus ∈ stimuli, stimulus.host.Faultless)
    (distinct : (namesIn {} stimuli).Nodup) :
    let outbox := (play {} stimuli).1
    (∀ first second : Message, outbox.store.message? first.id = some first →
      outbox.store.message? second.id = some second → first.direction = second.direction →
      first.serverId = second.serverId → first = second) ∧
    (∀ direction name message, outbox.store.messageByServerId? direction name = some message ↔
      outbox.store.message? message.id = some message ∧ message.direction = direction ∧
        message.serverId = some name) ∧
    (∀ before after name, stimuli = before ++ after → (play {} before).1.store.HasArrived name →
      outbox.store.HasArrived name) ∧
    ∀ host : Host, host.Faultless → ∀ inbound : InboundMessage,
      let outcome := { outbox : Service }.request host (.incoming inbound)
      (outcome.result = .ok (.arrived none) ↔ outbox.store.HasArrived inbound.serverId) ∧
      (outbox.store.HasArrived inbound.serverId →
        outcome = ⟨.ok (.arrived none), outbox, [], [], []⟩) ∧
      (¬outbox.store.HasArrived inbound.serverId → ∃ message : Message,
        outcome.result = .ok (.arrived (some message.id)) ∧
        outbox.store.message? message.id = none ∧
        outcome.outbox.store.message? message.id = some message ∧
        message.direction = .incoming ∧ message.serverId = some inbound.serverId) := by
  intro outbox
  have coherent : outbox.store.Coherent := coherent_play .empty faultless
  have named : outbox.store.Named := named_play faultless distinct
  refine ⟨?_, ?_, ?_, ?_⟩
  · intro first second found found' direction name
    exact named.unique found found' direction name
  · intro direction name message
    exact named.messageByServerId?_eq_some_iff coherent.tidy.messages
  · rintro before after name rfl arrived
    have earlier : (play {} before).1.store.Coherent :=
      coherent_play .empty fun other mem => faultless other (List.mem_append_left _ mem)
    have later := hasArrived_play earlier
      (fun other mem => faultless other (List.mem_append_right _ mem)) arrived
    rw [← play_append] at later
    exact later
  · intro host here inbound outcome
    obtain ⟨known, unknown⟩ := request_incoming coherent named here inbound
    refine ⟨⟨fun dropped => Classical.byContradiction fun missing => ?_, fun arrived => ?_⟩, known,
      unknown⟩
    · obtain ⟨message, taken, -⟩ := unknown missing
      have none : outcome.result = .ok (.arrived none) := dropped
      rw [taken] at none
      cases none
    · exact congrArg Outcome.result (known arrived)

/-- A message whose name is a name of ours is taken, and dropped when it comes again. -/
theorem arrives_once_redelivered :
    let host : Host := { settings := {}, serverId := toString }
    let inbound : InboundMessage :=
      { serverId := "0", sender := ⟨"a@x"⟩, mime := textMime, body := [], encrypted := false
        timestamp := 0, attachment := none, location := none, inReplyTo := none, group := none
        requestReceipt := true }
    let inputs : List Input := [.openThread ⟨"a@x"⟩ false, .request (.sendText ⟨1⟩ "hello" none),
      .request (.incoming inbound)]
    let outbox := (play {} (inputs.map (Stimulus.mk host))).1
    (outbox.store.messageByServerId? .outgoing "0").map (·.id) = some ⟨1⟩ ∧
      (outbox.store.messageByServerId? .incoming "0").map (·.id) = some ⟨2⟩ ∧
      { outbox : Service }.request host (.incoming inbound) =
        ⟨.ok (.arrived none), outbox, [], [], []⟩ := by
  intro host inbound inputs outbox
  have here : host.Faultless := fun _ => rfl
  have faultless : ∀ stimulus ∈ inputs.map (Stimulus.mk host), stimulus.host.Faultless :=
    List.forall_mem_map.2 fun _ _ => here
  have distinct : (namesIn {} (inputs.map (Stimulus.mk host))).Nodup := by decide +kernel
  have ours : (outbox.store.messageByServerId? .outgoing "0").map (·.id) = some ⟨1⟩ := by
    decide +kernel
  have theirs : (outbox.store.messageByServerId? .incoming "0").map (·.id) = some ⟨2⟩ := by
    decide +kernel
  obtain ⟨-, leads, -, arriving⟩ := arrives_once faultless distinct
  obtain ⟨message, found, -⟩ := Option.map_eq_some_iff.1 theirs
  have arrived : outbox.store.HasArrived inbound.serverId := ⟨message, (leads _ _ _).1 found⟩
  exact ⟨ours, theirs, (arriving host here inbound).2.1 arrived⟩

end Outbox

end Messenger
