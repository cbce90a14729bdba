/-
# Whom a sync asks about

A sync asks about the accounts of the address book, not about its entries.  Between the two there is
the table of candidates: entries with too few digits are left out and counted, entries that give one
account become one row of it, and the table lists the accounts in their order.  The round then cuts
this list into batches, when there is a connection for the first time.  So whatever the round hears
before and after that,

    the batches together       the accounts of all entries that are long enough, ascending, each once
    the entries left out       those with fewer than four digits
    the entry of an account    the one with the smallest key    (`StandsFor`)

Texts are compared by their octets here, as the store keeps them.
-/
import Messenger.Proofs.Discovery.Asking
import Messenger.Proofs.Sync.Replacement
import Messenger.Proofs.Text.Octets

namespace Messenger

/-! ## The batches of a round -/

namespace Discovery

variable {history : List Handled} {start round : Round}

/-- A round asks about its candidates when there is a connection for the first time. -/
structure Consults (start : Round) (history : List Handled) (round : Round) : Prop where
  tracks : Tracks history round
  began : start.Began round
  before : ¬Connected history → batchesIn (published history) = []
  after : Connected history →
    batchesIn (published history) = batches start.batchSize start.candidates

theorem consults_start (candidates : List Identity) (batchSize : Nat) (first : RequestId) :
    Consults (.start candidates batchSize first) [] (.start candidates batchSize first) where
  tracks := tracks_start candidates batchSize first
  began := ⟨.start candidates batchSize first, rfl, fun _ => rfl⟩
  before := fun _ => rfl
  after := by
    rintro ⟨_, mem, -⟩
    cases mem

theorem consults_preserved (candidates : List Identity) (batchSize : Nat) (first : RequestId) :
    Preserved (Consults (.start candidates batchSize first)) where
  react := by
    intro history round event reaction consults unfinished connected reacts
    obtain ⟨requests, tracks⟩ := consults.tracks.notice unfinished reacts
    have began := @Preserved.react _ (preserved_began candidates batchSize first) history _ _ _
      consults.began unfinished connected reacts
    have asked : batchesIn (published (history ++ [⟨round, event⟩])) =
        batchesIn (published history) ++ batchesIn reaction.2 := by
      rw [published_snoc, batchesIn_append, Handled.progress, requests]
    refine ⟨tracks, began, ?_, ?_⟩ <;> rw [asked, connected_snoc]
    · intro never
      obtain ⟨before, now⟩ := not_or.1 never
      rw [consults.before before, batchesIn_of_react (fun here => absurd here now) reacts]
      rfl
    · intro now
      by_cases before : Connected history
      case pos =>
        have late := consults.tracks.connected.2 before
        rw [consults.after before, batchesIn_of_react (fun _ => late) reacts, List.append_nil]
      case neg =>
        have idle : round.phase = .init := not_not.1 (mt consults.tracks.connected.1 before)
        have here : event = .connected := now.resolve_left before
        subst here
        cases reacts
        rw [consults.before before, batchesIn_onConnected idle, consults.began.idle idle,
          List.nil_append]
  ignore := by
    intro history round event consults unfinished connected ignores
    obtain ⟨silent, tracks⟩ := consults.tracks.ignore unfinished ignores
    have asked : batchesIn (published (history ++ [⟨round, event⟩])) =
        batchesIn (published history) := by
      rw [published_snoc, Handled.progress, silent, List.append_nil]
    have other : event ≠ .connected := by
      rintro rfl
      cases ignores
    refine ⟨tracks, consults.began, ?_, ?_⟩ <;>
      rw [asked, connected_snoc, or_iff_left other]
    · exact consults.before
    · exact consults.after

theorem connected_history {events : List Event} :
    Connected (start.history events) ↔ .connected ∈ events := by
  induction events using List.reverseRecOn with
  | nil => exact iff_of_false (fun ⟨_, mem, _⟩ => nomatch mem) List.not_mem_nil
  | append_singleton earlier event ih =>
    rw [start.history_snoc, connected_snoc, ih, List.mem_append, List.mem_singleton, eq_comm]

/-- All that a round that is connected in time ever asks the roster is about its candidates. -/
theorem batchesIn_published (candidates : List Identity) (batchSize : Nat) (first : RequestId)
    {earlier : List Event} (later : List Event) (unconnected : .connected ∉ earlier)
    (kept : .disconnected ∉ earlier) :
    batchesIn (published ((Round.start candidates batchSize first).history
      (earlier ++ .connected :: later))) = batches batchSize candidates := by
  let start := Round.start candidates batchSize first
  have undecided : Undecided start earlier := by
    refine ⟨kept, fun shorter before complete => unconnected ?_⟩
    exact before.subset (connected_history.1 complete.connected)
  have running : Running [] start := ⟨tracks_start candidates batchSize first, rfl, rfl⟩
  have unfinished := (running_of_undecided running undecided).1.unfinished
  obtain ⟨lived, late, last, phase, eq, idle, consults, -⟩ :=
    (consults_preserved candidates batchSize first).lived
      (consults_start candidates batchSize first) (earlier ++ .connected :: later)
  have connected : Connected lived := by
    have comes : (⟨start.after earlier, .connected⟩ : Handled) ∈ lived ++ late := by
      rw [← eq, start.history_append]
      exact List.mem_append_right _ List.mem_cons_self
    rcases List.mem_append.1 comes with mem | mem
    · exact ⟨_, mem, rfl⟩
    · rcases idle _ mem with finished | lost
      · exact absurd finished (Bool.eq_false_iff.1 unfinished)
      · cases lost
  rw [eq, published_of_idle idle]
  exact consults.after connected

end Discovery

namespace Sync

open Discovery (Finding batchesIn batchesIn_published published)

theorem Wait.published_hearAll (wait : Wait) (events : List Event) :
    (wait.hearAll events).2 = published (wait.round.history events) := by
  induction events generalizing wait with
  | nil => rfl
  | cons event rest ih => exact congrArg _ (ih (wait.hear event).1)

/-! ## The candidates of an address book -/

/-- The number of the entry is long enough, and it is that of the account. -/
def Gives (server : String) (identity : Identity) (entry : AddressBookEntry) : Prop :=
  4 ≤ (Identity.digits entry.number).length ∧ Identity.ofNumber entry.number server = identity

/-- The entry has the smallest key of all entries that give the account. -/
structure StandsFor (server : String) (entries : List AddressBookEntry) (identity : Identity)
    (entry : AddressBookEntry) : Prop where
  mem : entry ∈ entries
  gives : Gives server identity entry
  least : ∀ other ∈ entries, Gives server identity other → other ≠ entry →
    Octets.ofText entry.lookupKey < Octets.ofText other.lookupKey

section
variable {server : String} {entries : List AddressBookEntry} {identity : Identity}
  {entry : AddressBookEntry}

theorem gives_iff : Gives server identity entry ↔
    (isLookedUp entry && Identity.ofNumber entry.number server = identity) = true := by
  rw [Gives, isLookedUp, minDigits, Bool.and_eq_true, decide_eq_true_eq, decide_eq_true_eq]

theorem entryFor?_isSome : (entryFor? server entries identity).isSome = true ↔
    ∃ entry ∈ entries, Gives server identity entry := by
  simp only [entryFor?, List.find?_isSome, gives_iff]

/-- In the order of the keys, the first entry of an account has the smallest key. -/
theorem entryFor?_eq_some_iff
    (ascending : entries.Pairwise fun one two => compare one.lookupKey two.lookupKey = .lt) :
    entryFor? server entries identity = some entry ↔ StandsFor server entries identity entry := by
  have stands {first : AddressBookEntry} (found : entryFor? server entries identity = some first) :
      StandsFor server entries identity first := by
    obtain ⟨gives, before, after, rfl, others⟩ := List.find?_eq_some_iff_append.1 found
    refine ⟨by simp, gives_iff.2 gives, fun other mem given differ => Octets.ofText_lt ?_⟩
    have later : other ∈ after := by
      rcases List.mem_append.1 mem with mem | mem
      · have refused := others other mem
        rw [gives_iff.1 given] at refused
        cases refused
      · exact (List.mem_cons.1 mem).resolve_left differ
    exact (List.pairwise_cons.1 (List.pairwise_append.1 ascending).2.1).1 other later
  refine ⟨stands, fun standing => ?_⟩
  obtain ⟨first, found⟩ := Option.isSome_iff_exists.1
    (entryFor?_isSome.2 ⟨entry, standing.mem, standing.gives⟩)
  by_cases same : entry = first
  · rw [found, same]
  · have below := (stands found).least entry standing.mem standing.gives same
    have above := standing.least first (stands found).mem (stands found).gives (Ne.symm same)
    exact absurd below (List.lt_asymm above)

theorem Candidates.mem_keys_ofEntries : identity ∈ (Candidates.ofEntries server entries).keys ↔
    ∃ entry ∈ entries, Gives server identity entry := by
  rw [Table.mem_keys, ← entryFor?_isSome, Option.isSome_iff_exists]
  simp only [Candidates.get?_ofEntries]

theorem Candidates.keys_ascending (candidates : Candidates) :
    candidates.keys.Pairwise fun one two => Octets.ofText one.text < Octets.ofText two.text :=
  List.pairwise_map.2 (candidates.ascending.imp Octets.ofText_lt)

theorem countShort_eq (entries : List AddressBookEntry) : countShort entries =
    (entries.filter fun entry => (Identity.digits entry.number).length < 4).length := by
  rw [countShort, List.countP_eq_length_filter]
  refine congrArg List.length (List.filter_congr fun entry _ => ?_)
  rw [isLookedUp, minDigits, ← decide_not, decide_eq_decide, Nat.not_le]

end

/-! ## The sync -/

/-- The sync asks about every account of the address book once, in order, whatever its round hears
before and after there is a connection, and knows the entry of each. -/
structure Question.Selects (question : Question) (host : Host) (server : String)
    (entries : List AddressBookEntry) : Prop where
  ascending : ∀ earlier later, .connected ∉ earlier → .disconnected ∉ earlier →
    (batchesIn (question.wait.hearAll (earlier ++ .connected :: later)).2).flatten.Pairwise
      fun one two => Octets.ofText one.text < Octets.ofText two.text
  asked : ∀ earlier later identity, .connected ∉ earlier → .disconnected ∉ earlier →
    (identity ∈ (batchesIn (question.wait.hearAll (earlier ++ .connected :: later)).2).flatten ↔
      ∃ entry ∈ entries, Gives server identity entry)
  skipped : question.wait.tally.skippedEntries =
    (entries.filter fun entry => (Identity.digits entry.number).length < 4).length
  /-- A contact is made with the entry that stands for the account, if there is one. -/
  made : ∀ incidents finding, ∀ op ∈ rowsOf host.settings host.cipher
      (question.wait.meetAll incidents).candidates finding,
    ∃ found : Option AddressBookEntry, op.contact = contactOf host.cipher found finding ∧
      ∀ entry, found = some entry ↔ StandsFor server entries finding.identity entry

namespace Syncer

variable {syncer : Syncer} {host : Host} {server : String} {forced cancelled : Bool} {now : Nat}
  {first : RequestId} {question : Question}

theorem wait_of_waiting (named : host.settings.endpointServer = some server)
    (waits : syncer.begin host forced cancelled now first = .waiting question) :
    let candidates := Candidates.ofEntries server syncer.store.syncCandidates
    question.wait.candidates = candidates ∧
      question.wait.round =
        Discovery.Round.start candidates.keys host.settings.rosterBatchSize first ∧
      question.wait.tally = { skippedEntries := countShort syncer.store.syncCandidates } := by
  have passes : syncer.Passes host forced cancelled now := by
    by_contra blocked
    obtain ⟨result, ended, -⟩ := begin_of_not_passes first blocked
    cases ended.symm.trans waits
  rw [begin_of_server first named passes] at waits
  unfold work at waits
  split at waits
  case h_1 => cases waits
  case h_2 candidates run collected =>
    obtain ⟨rfl, rfl⟩ := Work.of_collect collected
    split at waits
    · cases waits
    · cases waits
      exact ⟨rfl, rfl, rfl⟩

/-- A sync that runs asks its question if an entry is long enough, and a sync that asks selects all
accounts of the address book, each once. -/
theorem selects_everybody (keyed : syncer.store.addressBook.KeyedBy (·.lookupKey))
    (named : host.settings.endpointServer = some server) :
    let entries := syncer.store.syncCandidates
    (∀ question, syncer.begin host forced cancelled now first = .waiting question →
      question.Selects host server entries) ∧
    (host.Faultless → syncer.Passes host forced cancelled now →
      ((∃ question, syncer.begin host forced cancelled now first = .waiting question) ↔
        ∃ identity, ∃ entry ∈ entries, Gives server identity entry)) := by
  intro entries
  refine ⟨fun question waits => ?_, fun faultless passes => ?_⟩
  · obtain ⟨candidates, round, tally⟩ := wait_of_waiting named waits
    have asked (earlier later : List Event) (unconnected : .connected ∉ earlier)
        (kept : .disconnected ∉ earlier) :
        (batchesIn (question.wait.hearAll (earlier ++ .connected :: later)).2).flatten =
          (Candidates.ofEntries server entries).keys := by
      rw [question.wait.published_hearAll, round,
        batchesIn_published _ _ _ later unconnected kept, flatten_batches]
    constructor
    case ascending =>
      intro earlier later unconnected kept
      rw [asked earlier later unconnected kept]
      exact Candidates.keys_ascending _
    case asked =>
      intro earlier later identity unconnected kept
      rw [asked earlier later unconnected kept]
      exact Candidates.mem_keys_ofEntries
    case skipped => rw [tally, ← countShort_eq]
    case made =>
      intro incidents finding op mem
      rw [Wait.meetAll_candidates, candidates] at mem
      refine ⟨entryFor? server entries finding.identity, ?_, fun entry =>
        entryFor?_eq_some_iff keyed.values_ascending⟩
      rw [← Candidates.get?_ofEntries]
      unfold rowsOf at mem
      dsimp only at mem
      split at mem
      · rcases List.mem_cons.1 mem with rfl | mem
        · rfl
        · rw [List.mem_singleton.1 mem]
          rfl
      · rw [List.mem_singleton.1 mem]
        rfl
  · rw [begin_of_server first named passes, work_of_faultless faultless]
    dsimp only
    have nobody : (Candidates.ofEntries server entries).rows.isEmpty = true ↔
        ¬∃ identity, ∃ entry ∈ entries, Gives server identity entry := by
      rw [List.isEmpty_iff, ← List.map_eq_nil_iff, List.eq_nil_iff_forall_not_mem, not_exists]
      exact forall_congr' fun identity => not_congr Candidates.mem_keys_ofEntries
    split
    case isTrue empty => exact iff_of_false (fun ⟨_, waits⟩ => nomatch waits) (nobody.1 empty)
    case isFalse some => exact iff_of_true ⟨_, rfl⟩ (not_not.1 (mt nobody.2 some))

/-- A sync whose address book has two spellings of a number, and a service number, asks. -/
theorem selects_everybody_spellings :
    let entry (key number : String) : AddressBookEntry := ⟨number, key, none⟩
    let book := (((∅ : Table _ _).put "b" (entry "b" "12-34")).put "a" (entry "a" "1234")).put "c"
      (entry "c" "112")
    let syncer : Syncer := { store := { addressBook := book } }
    let host : Host := { settings := { endpointServer := some "x" } }
    ∃ question : Question, syncer.begin host true false 0 ⟨0⟩ = .waiting question ∧
      question.Selects host "x" syncer.store.syncCandidates ∧
      question.wait.tally.skippedEntries = 1 := by
  intro entry book syncer host
  have keyed : book.KeyedBy (·.lookupKey) := by
    refine Table.KeyedBy.put (Table.KeyedBy.put (Table.KeyedBy.put .empty ?_) ?_) ?_ <;> rfl
  obtain ⟨selects, asks⟩ := @selects_everybody syncer host "x" true false 0 ⟨0⟩ keyed rfl
  have gives : Gives "x" (Identity.ofNumber "1234" "x") (entry "a" "1234") := ⟨by decide, rfl⟩
  have listed : entry "a" "1234" ∈ syncer.store.syncCandidates := by decide
  obtain ⟨question, waits⟩ := (asks (fun _ => rfl) ⟨rfl, rfl, rfl, rfl⟩).2 ⟨_, _, listed, gives⟩
  refine ⟨question, waits, selects question waits, ?_⟩
  rw [(selects question waits).skipped]
  decide +kernel

end Syncer

end Sync

end Messenger
