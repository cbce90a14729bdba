/-
# Kicked members

Who is kicked keeps the mark until a message takes them in again, or until they leave on their own.
What a message does to somebody with that mark depends on its command:

    create        a member, if they are named or own the group
    members       a member, if they are named or own the group, and are not put out in the same breath
    no command    a member, if they sent it
    part          out of the list, if they sent it
    subject       kicked

The third line is the odd one.  A message without a command is a sign that its sender belongs to the
group; but that is asked of the entries that count, so the sender is taken for a newcomer if they were
kicked, and a message that was on its way when they were put out brings them back.

We are not in the list, and stand in the group as our membership says (`Seat.ours`).  The same table
holds for us, without the third line.
-/
import Messenger.Proofs.Group.Members
import Messenger.Proofs.Outbox.Runs
import Messenger.Proofs.Table

namespace Messenger

/-! ## Seats -/

/-- Where a group keeps how somebody stands in it: everybody else in the list, we in the membership. -/
inductive Seat where
  | listed (person : Identity)
  | ours
deriving DecidableEq

namespace Seat

/-- The seat of a person. -/
def of (me : Option Identity) (person : Identity) : Seat :=
  if me = some person then ours else listed person

/-- One of these people has the seat. -/
def Among (me : Option Identity) (people : List Identity) (seat : Seat) : Prop :=
  ∃ person ∈ people, of me person = seat

instance (me : Option Identity) (people : List Identity) (seat : Seat) :
    Decidable (seat.Among me people) :=
  inferInstanceAs (Decidable (∃ person ∈ people, of me person = seat))

variable {me : Option Identity} {person : Identity} {people : List Identity} {seat : Seat}

theorem among_cons :
    seat.Among me (person :: people) ↔ of me person = seat ∨ seat.Among me people := by
  simp [Among]

theorem not_among_nil : ¬seat.Among me [] := fun ⟨_, mem, _⟩ => List.not_mem_nil mem

end Seat

namespace Group

/-- How somebody stands in a group; one who left is not in it. -/
def footing (group : Group) : Seat → Option MemberState
  | .listed person => group.standing person
  | .ours =>
    match group.membership with
    | .member => some .member
    | .kicked => some .kicked
    | .parted => none

/-- The seat is that of a member. -/
def Live (group : Group) : Seat → Prop
  | .listed person => person ∈ group.liveMembers
  | .ours => group.membership = .member

instance (group : Group) : DecidablePred group.Live
  | .listed person => inferInstanceAs (Decidable (person ∈ group.liveMembers))
  | .ours => inferInstanceAs (Decidable (group.membership = .member))

/-- The entries of a person after the first.  There are none in a list that is in order. -/
def repeats (group : Group) : Seat → List GroupMember
  | .listed person => (group.members.filter (·.identity = person)).tail
  | .ours => []

/-- Kicked, and nothing in the group says otherwise. -/
structure Barred (group : Group) (seat : Seat) : Prop where
  kicked : group.footing seat = some .kicked
  dead : ∀ entry ∈ group.repeats seat, entry.isLive = false

instance (group : Group) (seat : Seat) : Decidable (group.Barred seat) :=
  decidable_of_iff
    (group.footing seat = some .kicked ∧ ∀ entry ∈ group.repeats seat, entry.isLive = false)
    ⟨fun ⟨kicked, dead⟩ => ⟨kicked, dead⟩, fun barred => ⟨barred.kicked, barred.dead⟩⟩

variable {me : Option Identity} {group : Group} {seat : Seat}

theorem live_iff : group.Live seat ↔
    group.footing seat = some .member ∨ ∃ entry ∈ group.repeats seat, entry.isLive = true := by
  cases seat with
  | ours => cases stands : group.membership <;> simp [Live, footing, repeats, stands]
  | listed person =>
    have entries : person ∈ group.liveMembers ↔
        ∃ entry ∈ group.members.filter (·.identity = person), entry.isLive = true := by
      simp only [liveMembers, List.mem_map, List.mem_filter, decide_eq_true_eq]
      refine exists_congr fun entry => ?_
      rw [and_right_comm]
    show person ∈ group.liveMembers ↔ group.standing person = some .member ∨
      ∃ entry ∈ (group.members.filter (·.identity = person)).tail, entry.isLive = true
    rw [entries, standing, ← List.head?_filter]
    cases group.members.filter (·.identity = person) with
    | nil => simp
    | cons first rest => simp [GroupMember.isLive]

theorem live_of_dead (dead : ∀ entry ∈ group.repeats seat, entry.isLive = false) :
    group.Live seat ↔ group.footing seat = some .member := by
  rw [live_iff]
  refine or_iff_left ?_
  rintro ⟨entry, mem, live⟩
  rw [dead entry mem] at live
  cases live

theorem Barred.not_live (barred : group.Barred seat) : ¬group.Live seat := by
  rw [live_of_dead barred.dead, barred.kicked]
  intro eq
  cases eq

theorem isMember_iff (group : Group) (person : Identity) :
    group.isMember person = true ↔ group.Live (.listed person) :=
  group.isMember_iff_mem person

/-! ## Edits of a seat -/

theorem tail_filter_setState (person other : Identity) (state : MemberState)
    (entries : List GroupMember) : ((setState person state entries).filter (·.identity = other)).tail =
      (entries.filter (·.identity = other)).tail := by
  by_cases same : other = person
  case neg =>
    rw [filter_setState fun entry own here => same ((of_decide_eq_true own).symm.trans here)]
  subst same
  induction entries with
  | nil => rfl
  | cons entry rest ih =>
    rw [setState]
    split
    case isTrue here => simp [here]
    case isFalse apart =>
      rw [List.filter_cons_of_neg (by simpa using apart), List.filter_cons_of_neg (by simpa using apart)]
      exact ih

theorem repeats_addMember (group : Group) (person : Identity) (seat : Seat) :
    (group.addMember person).repeats seat = group.repeats seat := by
  cases seat with
  | ours => rfl
  | listed other =>
    rw [addMember]
    split
    case isTrue => exact tail_filter_setState person other .member group.members
    case isFalse new =>
      show ((group.members ++ [GroupMember.mk person .member]).filter (·.identity = other)).tail =
        (group.members.filter (·.identity = other)).tail
      rw [List.filter_append]
      by_cases same : person = other
      · subst same
        have unknown : group.members.filter (·.identity = person) = [] := by
          simpa [names] using new
        simp [unknown]
      · simp [same]

theorem repeats_enroll (group : Group) (person : Identity) (seat : Seat) :
    (group.enroll me person).repeats seat = group.repeats seat := by
  rw [enroll]
  split
  · cases seat <;> rfl
  · exact group.repeats_addMember person seat

theorem repeats_expel (group : Group) (person : Identity) (seat : Seat) :
    (group.expel me person).repeats seat = group.repeats seat := by
  rw [expel]
  cases seat with
  | ours => split <;> rfl
  | listed other =>
    split
    · rfl
    · exact tail_filter_setState person other .kicked group.members

theorem footing_enroll (group : Group) (person : Identity) (seat : Seat) :
    (group.enroll me person).footing seat =
      if Seat.of me person = seat then some .member else group.footing seat := by
  rw [enroll, Seat.of]
  split
  case isTrue =>
    cases seat <;> rfl
  case isFalse =>
    cases seat with
    | ours => rw [addMember]; split <;> rfl
    | listed other =>
      show (group.addMember person).standing other = _
      rw [standing_addMember]
      simp [footing, eq_comm]

/-- Putting somebody out leaves a mark if they were there. -/
theorem footing_expel {person : Identity} (there : (group.footing seat).isSome) :
    (group.expel me person).footing seat =
      if Seat.of me person = seat then some .kicked else group.footing seat := by
  rw [expel, Seat.of]
  split
  case isTrue =>
    cases seat <;> rfl
  case isFalse =>
    cases seat with
    | ours => rfl
    | listed other =>
      obtain ⟨state, stands⟩ := Option.isSome_iff_exists.1 there
      have stands : group.standing other = some state := stands
      show (group.kickMember person).standing other = _
      rw [standing_kickMember]
      simp [footing, stands, eq_comm]

theorem footing_depart (group : Group) (person : Identity) (seat : Seat) :
    (group.depart me person).footing seat =
      if Seat.of me person = seat then none else group.footing seat := by
  rw [depart, Seat.of]
  split
  case isTrue =>
    cases seat <;> rfl
  case isFalse =>
    cases seat with
    | ours => rfl
    | listed other =>
      show (group.removeMember person).standing other = _
      rw [standing_removeMember]
      simp [footing, eq_comm]

theorem repeats_depart (group : Group) (person : Identity) (seat : Seat) :
    (group.depart me person).repeats seat = [] ∨
      (group.depart me person).repeats seat = group.repeats seat := by
  rw [depart]
  cases seat with
  | ours => exact Or.inl rfl
  | listed other =>
    split
    · exact Or.inr rfl
    show ((group.removeMember person).members.filter (·.identity = other)).tail = [] ∨
      ((group.removeMember person).members.filter (·.identity = other)).tail = _
    by_cases same : person = other
    · subst same
      have gone : (group.removeMember person).members.filter (·.identity = person) = [] := by
        simp [removeMember]
      exact Or.inl (congrArg List.tail gone)
    · refine Or.inr (congrArg List.tail (filter_removeMember (fun entry own here => ?_) group))
      exact same (here.symm.trans (of_decide_eq_true own))

/-! ## Several people -/

theorem repeats_foldl {edit : Group → Identity → Group}
    (keeps : ∀ group person, (edit group person).repeats seat = group.repeats seat)
    (people : List Identity) (group : Group) :
    (people.foldl edit group).repeats seat = group.repeats seat := by
  induction people generalizing group with
  | nil => rfl
  | cons person rest ih => exact (ih _).trans (keeps group person)

theorem footing_enrolled (people : List Identity) (group : Group) :
    (people.foldl (enroll me) group).footing seat =
      if seat.Among me people then some .member else group.footing seat := by
  induction people generalizing group with
  | nil => exact (if_neg Seat.not_among_nil).symm
  | cons person rest ih =>
    rw [List.foldl_cons, ih, footing_enroll]
    by_cases later : seat.Among me rest <;> by_cases here : Seat.of me person = seat <;>
      simp [Seat.among_cons, later, here]

theorem footing_expelled {people : List Identity} (there : (group.footing seat).isSome) :
    (people.foldl (expel me) group).footing seat =
      if seat.Among me people then some .kicked else group.footing seat := by
  induction people generalizing group with
  | nil => exact (if_neg Seat.not_among_nil).symm
  | cons person rest ih =>
    have still : ((group.expel me person).footing seat).isSome := by
      rw [footing_expel there]
      split
      · rfl
      · exact there
    rw [List.foldl_cons, ih still, footing_expel there]
    by_cases later : seat.Among me rest <;> by_cases here : Seat.of me person = seat <;>
      simp [Seat.among_cons, later, here]

/-! ## Messages -/

/-- Who is taken in by a message of this sender, when the group is said to be this owner's. -/
def Admits (me : Option Identity) (owner sender : Identity) (seat : Seat) :
    Option GroupCommand → Prop
  | none => Seat.of me sender = seat ∧ seat ≠ .ours
  | some (.create people _) => seat.Among me (people ++ [owner])
  | some (.members added removed existing) =>
    seat.Among me (added ++ existing ++ [owner]) ∧ ¬seat.Among me removed
  | some (.subject _) | some .part => False

instance (me : Option Identity) (owner sender : Identity) (seat : Seat) :
    DecidablePred (Admits me owner sender seat)
  | none => inferInstanceAs (Decidable (Seat.of me sender = seat ∧ seat ≠ .ours))
  | some (.create people _) => inferInstanceAs (Decidable (seat.Among me (people ++ [owner])))
  | some (.members added removed existing) => inferInstanceAs
    (Decidable (seat.Among me (added ++ existing ++ [owner]) ∧ ¬seat.Among me removed))
  | some (.subject _) | some .part => .isFalse not_false

/-- Who leaves by a message of this sender. -/
def Leaves (me : Option Identity) (sender : Identity) (seat : Seat) (command : Option GroupCommand) :
    Prop :=
  command = some .part ∧ Seat.of me sender = seat

instance (me : Option Identity) (sender : Identity) (seat : Seat) (command : Option GroupCommand) :
    Decidable (Leaves me sender seat command) :=
  inferInstanceAs (Decidable (command = some .part ∧ Seat.of me sender = seat))

theorem Barred.footing_applied (barred : group.Barred seat) (me : Option Identity) (sender : Identity)
    (command : Option GroupCommand) : (group.applied me sender command).footing seat =
      if Admits me group.owner sender seat command then some .member
      else if Leaves me sender seat command then none else some .kicked := by
  have there : (group.footing seat).isSome := barred.kicked ▸ rfl
  rcases command with _ | ⟨people, subject⟩ | ⟨added, removed, existing⟩ | subject | _
  · -- Only somebody who is listed and not a member is taken in by what they write.
    show (if me = some sender || group.isMember sender then group
      else group.enroll me sender).footing seat = _
    by_cases here : Seat.of me sender = seat
    · subst here
      by_cases own : me = some sender
      · have ours : Seat.of me sender = .ours := if_pos own
        rw [ours] at barred ⊢
        simp [own, barred.kicked, Admits, Leaves]
      · have outside : group.isMember sender = false := by
          rw [← Bool.not_eq_true, isMember_iff]
          have seated : Seat.of me sender = .listed sender := if_neg own
          exact seated ▸ barred.not_live
        simp [own, outside, footing_enroll, Admits, Seat.of]
    · have kept : (if me = some sender || group.isMember sender then group
          else group.enroll me sender).footing seat = group.footing seat := by
        split
        · rfl
        · rw [footing_enroll, if_neg here]
      rw [kept, barred.kicked]
      simp [here, Admits, Leaves]
  · show ((people ++ [group.owner]).foldl (enroll me) group).footing seat = _
    rw [footing_enrolled, barred.kicked]
    simp [Admits, Leaves]
  · show (removed.foldl (expel me)
      ((added ++ existing ++ [group.owner]).foldl (enroll me) group)).footing seat = _
    have still : (((added ++ existing ++ [group.owner]).foldl (enroll me) group).footing seat).isSome := by
      rw [footing_enrolled]
      split
      · rfl
      · exact there
    rw [footing_expelled still, footing_enrolled, barred.kicked]
    by_cases out : seat.Among me removed <;> simp [Admits, Leaves, out]
  · show group.footing seat = _
    simp [barred.kicked, Admits, Leaves]
  · show (group.depart me sender).footing seat = _
    rw [footing_depart, barred.kicked]
    simp [Admits, Leaves]

theorem repeats_applied (sender : Identity) (command : Option GroupCommand) (group : Group) :
    (group.applied me sender command).repeats seat = [] ∨
      (group.applied me sender command).repeats seat = group.repeats seat := by
  have enrolled (people : List Identity) :
      (people.foldl (enroll me) group).repeats seat = group.repeats seat :=
    repeats_foldl (fun group person => group.repeats_enroll person seat) people group
  have aside (subject : Option String) (group : Group) :
      ({ group with subject } : Group).repeats seat = group.repeats seat := by
    cases seat <;> rfl
  rcases command with _ | ⟨people, subject⟩ | ⟨added, removed, existing⟩ | subject | _
  · refine Or.inr ?_
    show (if me = some sender || group.isMember sender then group
      else group.enroll me sender).repeats seat = _
    split
    · rfl
    · exact group.repeats_enroll sender seat
  · exact Or.inr ((aside subject _).trans (enrolled _))
  · exact Or.inr ((repeats_foldl (fun group person => group.repeats_expel person seat) removed _).trans
      (enrolled _))
  · exact Or.inr (aside subject group)
  · exact group.repeats_depart sender seat

/-- One message: whom it takes in is a member, who leaves is neither, and the mark of everybody else
who was kicked stays. -/
theorem Barred.applied (barred : group.Barred seat) (me : Option Identity) (sender : Identity)
    (command : Option GroupCommand) :
    ((group.applied me sender command).Live seat ↔ Admits me group.owner sender seat command) ∧
      ((group.applied me sender command).Barred seat ↔
        ¬Admits me group.owner sender seat command ∧ ¬Leaves me sender seat command) := by
  have dead : ∀ entry ∈ (group.applied me sender command).repeats seat, entry.isLive = false := by
    rcases group.repeats_applied sender command with none | same
    · rw [none]
      simp
    · rw [same]
      exact barred.dead
  have stands := barred.footing_applied me sender command
  constructor
  · rw [live_of_dead dead, stands]
    by_cases admits : Admits me group.owner sender seat command
    · simp [admits]
    · by_cases leaves : Leaves me sender seat command <;> simp [admits, leaves]
  · have barred_iff : (group.applied me sender command).Barred seat ↔
        (group.applied me sender command).footing seat = some .kicked :=
      ⟨Barred.kicked, fun kicked => ⟨kicked, dead⟩⟩
    rw [barred_iff, stands]
    by_cases admits : Admits me group.owner sender seat command
    · simp [admits]
    · by_cases leaves : Leaves me sender seat command <;> simp [admits, leaves]

end Group

/-! ## What arrives for groups -/

/-- The group part of an arriving message, its sender, the thread that takes it, and the host. -/
structure GroupArrival where
  host : Host
  group : InboundGroup
  sender : Identity
  thread : ThreadId

namespace GroupArrival

/-- The store lets the row of the group be read and written. -/
def Heard (arrival : GroupArrival) : Prop :=
  arrival.host.fault .group = none ∧ arrival.host.fault .saveGroup = none

instance (arrival : GroupArrival) : Decidable arrival.Heard :=
  inferInstanceAs (Decidable (arrival.host.fault .group = none ∧ arrival.host.fault .saveGroup = none))

/-- It takes somebody into a group. -/
def Admits (me : Option Identity) (id : Identity) (seat : Seat) (arrival : GroupArrival) : Prop :=
  arrival.Heard ∧ arrival.group.id = id ∧
    Group.Admits me arrival.group.owner arrival.sender seat arrival.group.command

/-- It tells that somebody leaves a group. -/
def Leaves (me : Option Identity) (id : Identity) (seat : Seat) (arrival : GroupArrival) : Prop :=
  arrival.Heard ∧ arrival.group.id = id ∧
    Group.Leaves me arrival.sender seat arrival.group.command

instance (me : Option Identity) (id : Identity) (seat : Seat) (arrival : GroupArrival) :
    Decidable (arrival.Admits me id seat) :=
  inferInstanceAs (Decidable (_ ∧ _ ∧ _))

instance (me : Option Identity) (id : Identity) (seat : Seat) (arrival : GroupArrival) :
    Decidable (arrival.Leaves me id seat) :=
  inferInstanceAs (Decidable (_ ∧ _ ∧ _))

/-- The row that is written, when this one is known. -/
def row (me : Option Identity) (arrival : GroupArrival) (known : Option Group) : Group :=
  (Group.received known arrival.group.id arrival.group.owner arrival.thread).applied me arrival.sender
    arrival.group.command

end GroupArrival

namespace Outbox

open Messenger.Action

/-- The outbox when these have arrived, one after the other. -/
def hear (outbox : Outbox) (arrivals : List GroupArrival) : Outbox :=
  arrivals.foldl (fun outbox arrival =>
    ((applyInboundGroup arrival.group arrival.sender arrival.thread).run arrival.host outbox).outbox) outbox

/-- The seat in the stored group is that of a member. -/
def Member (outbox : Outbox) (id : Identity) (seat : Seat) : Prop :=
  ∃ group, outbox.store.group? id = some group ∧ group.Live seat

/-- The seat in the stored group is that of somebody who is kicked. -/
def Kicked (outbox : Outbox) (id : Identity) (seat : Seat) : Prop :=
  ∃ group, outbox.store.group? id = some group ∧ group.Barred seat

variable {outbox : Outbox} {me : Option Identity} {id : Identity} {seat : Seat}

theorem on_applyInboundGroup (arrival : GroupArrival) (run : Run) :
    let row := arrival.row arrival.host.settings.selfIdentity (run.store.group? arrival.group.id)
    let applied := applyInboundGroup arrival.group arrival.sender arrival.thread
    if arrival.Heard then applied.on arrival.host run = .ok ()
      { run with store := (run.store.saveGroup row).store, changes := run.changes ++ [.group row.id] }
    else ∃ failure, applied.on arrival.host run = .error failure run := by
  obtain ⟨host, group, sender, thread⟩ := arrival
  dsimp only
  cases read : host.fault .group with
  | some failure =>
    rw [if_neg fun heard => nomatch heard.1.symm.trans read]
    refine ⟨failure, ?_⟩
    rw [applyInboundGroup, on_bind, on_read]
    dsimp only
    rw [on_bind, on_look_of_fault read]
  | none =>
    have looked : (applyInboundGroup group sender thread).on host run = (save
        (GroupArrival.row host.settings.selfIdentity ⟨host, group, sender, thread⟩
          (run.store.group? group.id))).on host run := by
      rw [applyInboundGroup, on_bind, on_read]
      dsimp only
      rw [on_bind, on_look_of_works read]
      rfl
    rw [looked, save]
    cases written : host.fault .saveGroup with
    | some failure =>
      rw [if_neg fun heard => nomatch heard.2.symm.trans written]
      exact ⟨failure, on_commit_of_fault written _⟩
    | none =>
      rw [if_pos ⟨read, written⟩, on_commit_of_works written]
      rfl

theorem store_hear (outbox : Outbox) (arrival : GroupArrival) : (outbox.hear [arrival]).store =
    if arrival.Heard then (outbox.store.saveGroup (arrival.row arrival.host.settings.selfIdentity
      (outbox.store.group? arrival.group.id))).store
    else outbox.store := by
  show ((applyInboundGroup arrival.group arrival.sender arrival.thread).run arrival.host outbox).outbox.store = _
  have ran := on_applyInboundGroup arrival { outbox with }
  dsimp only at ran
  split at ran
  case isTrue heard => rw [run_of_ok ran, if_pos heard]
  case isFalse missed =>
    obtain ⟨failure, ran⟩ := ran
    rw [run_of_error ran, if_neg missed]

section
variable {arrival : GroupArrival} (keyed : outbox.store.groups.KeyedBy (·.id))
include keyed

theorem row_id (me : Option Identity) (arrival : GroupArrival) :
    (arrival.row me (outbox.store.group? arrival.group.id)).id = arrival.group.id := by
  rw [GroupArrival.row, Group.applied_id]
  exact Group.received_id fun copy known => keyed.key_eq known

theorem keyed_hear (arrival : GroupArrival) :
    (outbox.hear [arrival]).store.groups.KeyedBy (·.id) := by
  rw [store_hear]
  split
  · exact keyed.put rfl
  · exact keyed

theorem group?_hear (arrival : GroupArrival) (id : Identity) :
    (outbox.hear [arrival]).store.group? id =
      if arrival.Heard ∧ arrival.group.id = id then
        some (arrival.row arrival.host.settings.selfIdentity (outbox.store.group? id))
      else outbox.store.group? id := by
  rw [store_hear]
  by_cases heard : arrival.Heard
  case neg => simp [heard]
  have named := row_id keyed arrival.host.settings.selfIdentity arrival
  rw [if_pos heard]
  show (outbox.store.groups.put _ _).get? id = _
  rw [named, Table.get?_put]
  by_cases here : arrival.group.id = id
  · subst here
    rw [if_pos rfl, if_pos ⟨heard, rfl⟩]
  · rw [if_neg fun same => here same.symm, if_neg fun both => here both.2]
    rfl

/-- One arrival: somebody who is kicked is a member if it takes them in, and stays kicked if it neither
does that nor tells that they leave. -/
theorem Kicked.hear (configured : arrival.host.settings.selfIdentity = me)
    (kicked : outbox.Kicked id seat) :
    ((outbox.hear [arrival]).Member id seat ↔ arrival.Admits me id seat) ∧
      ((outbox.hear [arrival]).Kicked id seat ↔
        ¬arrival.Admits me id seat ∧ ¬arrival.Leaves me id seat) := by
  obtain ⟨group, stored, barred⟩ := kicked
  have found := group?_hear keyed arrival id
  rw [stored, configured] at found
  by_cases reaches : arrival.Heard ∧ arrival.group.id = id
  · obtain ⟨heard, here⟩ := reaches
    rw [if_pos ⟨heard, here⟩] at found
    -- The owner and the thread are noted first, and nobody's seat is in either of them.
    have copied : (Group.received (some group) arrival.group.id arrival.group.owner
        arrival.thread).Barred seat := by
      cases seat <;> exact ⟨barred.kicked, barred.dead⟩
    obtain ⟨live, still⟩ := copied.applied me arrival.sender arrival.group.command
    simp only [Member, Outbox.Kicked, found, Option.some.injEq, exists_eq_left', GroupArrival.Admits,
      GroupArrival.Leaves, heard, here, true_and]
    exact ⟨live, still⟩
  · rw [if_neg reaches] at found
    have misses (fact : Prop) : ¬(arrival.Heard ∧ arrival.group.id = id ∧ fact) :=
      fun both => reaches ⟨both.1, both.2.1⟩
    simp only [Member, Outbox.Kicked, found, Option.some.injEq, exists_eq_left', GroupArrival.Admits,
      GroupArrival.Leaves, misses, not_false_eq_true, and_self, iff_true, iff_false]
    exact ⟨barred.not_live, barred⟩

end

theorem hear_append (outbox : Outbox) (before after : List GroupArrival) :
    outbox.hear (before ++ after) = (outbox.hear before).hear after :=
  List.foldl_append

theorem keyed_hear_all (keyed : outbox.store.groups.KeyedBy (·.id)) (arrivals : List GroupArrival) :
    (outbox.hear arrivals).store.groups.KeyedBy (·.id) := by
  induction arrivals generalizing outbox with
  | nil => exact keyed
  | cons arrival rest ih => exact ih (keyed_hear keyed arrival)

/-- They stay kicked all the while exactly if nothing that arrives takes them in or tells that they
leave. -/
theorem Kicked.hear_all (keyed : outbox.store.groups.KeyedBy (·.id)) {arrivals : List GroupArrival}
    (configured : ∀ arrival ∈ arrivals, arrival.host.settings.selfIdentity = me)
    (kicked : outbox.Kicked id seat) :
    (∀ part, part <+: arrivals → (outbox.hear part).Kicked id seat) ↔
      ∀ arrival ∈ arrivals, ¬arrival.Admits me id seat ∧ ¬arrival.Leaves me id seat := by
  induction arrivals generalizing outbox with
  | nil =>
    refine iff_of_true (fun part start => ?_) fun _ mem => nomatch mem
    rw [List.prefix_nil.1 start]
    exact kicked
  | cons arrival rest ih =>
    obtain ⟨-, stays⟩ := kicked.hear keyed (configured arrival List.mem_cons_self)
    have later := fun next => ih (keyed_hear keyed arrival)
      (fun other mem => configured other (List.mem_cons_of_mem _ mem)) next
    rw [List.forall_mem_cons]
    constructor
    · intro always
      have next := always [arrival] ⟨rest, rfl⟩
      refine ⟨stays.1 next, (later next).1 fun part start => ?_⟩
      exact always (arrival :: part) (List.cons_prefix_cons.2 ⟨rfl, start⟩)
    · rintro ⟨spared, others⟩ part start
      have next := stays.2 spared
      rcases List.prefix_cons_iff.1 start with rfl | ⟨rest', rfl, start'⟩
      · exact kicked
      · exact (later next).2 others rest' start'

/-- Whatever arrives for the groups of a store, in whatever order, from whomever, and however often the
store fails: a member who is recorded as kicked is a member again right after an arrival if and only if
that takes them in, as a command does that names them or whose owner they are, and as anything does that
they write without a command; and they stay kicked to the end if and only if nothing arrives that takes
them in or by which they leave.  The same holds for our own membership, which only commands restore.
(Groups are stored under their own names, so every store that an outbox has written is `keyed`.) -/
theorem readmitted_iff (keyed : outbox.store.groups.KeyedBy (·.id)) {arrivals : List GroupArrival}
    (configured : ∀ arrival ∈ arrivals, arrival.host.settings.selfIdentity = me) (id : Identity)
    (seat : Seat) :
    (∀ before arrival after, arrivals = before ++ arrival :: after →
      (outbox.hear before).Kicked id seat →
        ((outbox.hear (before ++ [arrival])).Member id seat ↔ arrival.Admits me id seat)) ∧
    (outbox.Kicked id seat →
      ((∀ part, part <+: arrivals → (outbox.hear part).Kicked id seat) ↔
        ∀ arrival ∈ arrivals, ¬arrival.Admits me id seat ∧ ¬arrival.Leaves me id seat)) := by
  constructor
  · rintro before arrival after rfl kicked
    rw [hear_append]
    have self := configured arrival (List.mem_append_right _ List.mem_cons_self)
    exact (kicked.hear (keyed_hear_all keyed before) self).1
  · intro kicked
    exact kicked.hear_all keyed configured

/-- Alice was put out.  A new subject and a message of Bob's leave it at that; a message that she still
had on its way brings her back. -/
theorem readmitted_iff_late :
    let bob : Identity := ⟨"bob@x"⟩
    let alice : Identity := ⟨"alice@x"⟩
    let group : Group :=
      { id := ⟨"g@x"⟩, owner := bob, thread := ⟨1⟩, members := [⟨bob, .member⟩, ⟨alice, .kicked⟩] }
    let outbox : Outbox := { store := ((∅ : Store).saveGroup group).store }
    let host : Host := { settings := { selfIdentity := some ⟨"me@x"⟩ }, serverId := toString }
    let arrival (sender : Identity) (command : Option GroupCommand) : GroupArrival :=
      ⟨host, ⟨group.id, bob, command⟩, sender, group.thread⟩
    let before := [arrival bob (some (.subject "Trip")), arrival bob none]
    let late := arrival alice none
    outbox.store.groups.KeyedBy (·.id) ∧
      (∀ arrival ∈ before ++ [late], arrival.host.settings.selfIdentity = some ⟨"me@x"⟩) ∧
      (outbox.hear before).Kicked group.id (.listed alice) ∧
      (outbox.hear (before ++ [late])).Member group.id (.listed alice) := by
  intro bob alice group outbox host arrival before late
  have keyed : outbox.store.groups.KeyedBy (·.id) := Table.KeyedBy.empty.put rfl
  have configured : ∀ arrival ∈ before ++ [late],
      arrival.host.settings.selfIdentity = some ⟨"me@x"⟩ := by
    simp [before, late, arrival, host]
  have kicked : outbox.Kicked group.id (.listed alice) := ⟨group, by decide +kernel, by decide +kernel⟩
  have spared : ∀ arrival ∈ before, ¬arrival.Admits (some ⟨"me@x"⟩) group.id (.listed alice) ∧
      ¬arrival.Leaves (some ⟨"me@x"⟩) group.id (.listed alice) := by
    decide +kernel
  have stays : (outbox.hear before).Kicked group.id (.listed alice) :=
    ((readmitted_iff keyed (fun arrival mem => configured arrival (List.mem_append_left _ mem))
      group.id (.listed alice)).2 kicked).2 spared before List.prefix_rfl
  have back := (readmitted_iff keyed configured group.id (.listed alice)).1 before late [] rfl stays
  exact ⟨keyed, configured, stays, back.2 (by decide +kernel)⟩

end Outbox

end Messenger
