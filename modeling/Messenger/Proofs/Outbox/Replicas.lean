/-
# Copies of a group agree

The owner of a group edits their own copy and sends a command; a member gets the command and changes
another copy by it, by other code and from other data.  The two keep different lists: the owner is
not in the owner's list, and the member, who is not in the member's, has a membership instead.

    live members      the member lists the owner's people and the owner, without themselves
    membership        the member belongs to the group if the owner lists them, and is kicked if not
    subject           the same

This is so after the group was made (`Mirrors.create`), and every edit keeps it so (`Mirrors.edit`),
however often people are put out and taken in again.  `relay` is the way of a command, from the
request of the owner over the message that is stored to the member's row, and `replicas_agree` says
it of the rows that the two then have.
-/
import Messenger.Proofs.Group.Members
import Messenger.Proofs.Outbox.Runs
import Messenger.Proofs.Outbox.Walks

namespace Messenger

/-! ## Two rows of a group -/

namespace Group

/-- A member's copy shows the group as the owner keeps it. -/
structure Agree (owner me : Identity) (kept copy : Group) : Prop where
  live : ∀ person, person ∈ copy.liveMembers ↔
    (person ∈ kept.liveMembers ∨ person = owner) ∧ person ≠ me
  membership : copy.membership = if me ∈ kept.liveMembers then .member else .kicked
  subject : copy.subject = kept.subject

/-- The copy agrees, and neither list has anybody twice. -/
structure Mirrors (owner me : Identity) (kept copy : Group) : Prop
    extends Agree owner me kept copy where
  keptDistinct : kept.Distinct
  copyDistinct : copy.Distinct

end Group

/-- What the owner does to a group of theirs. -/
inductive GroupEdit where
  | add (people : List Identity)
  | remove (people : List Identity)
  | rename (subject : String)

namespace GroupEdit

/-- The request by which the owner does it. -/
def request (group : Identity) : GroupEdit → Outbox.Request
  | add people => .addGroupMembers group people
  | remove people => .removeGroupMembers group people
  | rename subject => .setGroupSubject group subject

/-- What it makes of the owner's row. -/
def made (owner : Identity) (kept : Group) : GroupEdit → Group
  | add people => kept.addMembers (people.filter (· ≠ owner))
  | remove people => kept.kickMembers people
  | rename subject => { kept with subject := some subject }

/-- The command that is sent. -/
def command (kept : Group) : GroupEdit → GroupCommand
  | add people => .members people [] kept.liveMembers
  | remove people => .members [] people kept.liveMembers
  | rename subject => .subject subject

/-- The owner does not remove themselves: they are in no list of their own, but a member who was told
would put them out. -/
def Spares (owner : Identity) : GroupEdit → Prop
  | remove people => owner ∉ people
  | add _ | rename _ => True

instance (owner : Identity) (edit : GroupEdit) : Decidable (edit.Spares owner) :=
  match edit with
  | remove people => inferInstanceAs (Decidable (owner ∉ people))
  | add _ | rename _ => .isTrue trivial

theorem made_id (owner : Identity) (kept : Group) (edit : GroupEdit) :
    (edit.made owner kept).id = kept.id ∧ (edit.made owner kept).owner = kept.owner := by
  cases edit with
  | add people =>
    have eq := kept.addMembers_eq (people.filter (· ≠ owner))
    exact ⟨(congrArg Group.id eq :), (congrArg Group.owner eq :)⟩
  | remove people =>
    have eq := kept.kickMembers_eq people
    exact ⟨(congrArg Group.id eq :), (congrArg Group.owner eq :)⟩
  | rename subject => exact ⟨rfl, rfl⟩

end GroupEdit

namespace Group

variable {owner me : Identity} {kept copy : Group}

theorem Mirrors.moved (mirrors : Mirrors owner me kept copy) (thread : ThreadId) :
    Mirrors owner me { kept with thread } copy :=
  ⟨⟨mirrors.live, mirrors.membership, mirrors.subject⟩, mirrors.keptDistinct, mirrors.copyDistinct⟩

theorem Mirrors.known (mirrors : Mirrors owner me kept copy) (id : Identity) (thread : ThreadId) :
    Mirrors owner me kept (received (some copy) id owner thread) :=
  ⟨⟨mirrors.live, mirrors.membership, mirrors.subject⟩, mirrors.keptDistinct, mirrors.copyDistinct⟩

theorem Mirrors.create (differ : owner ≠ me) {people : List Identity} (listed : me ∈ people)
    (kept_empty : kept.members = []) (copy_empty : copy.members = []) (owned : copy.owner = owner) :
    Mirrors owner me (kept.addMembers (people.filter (· ≠ owner)))
      (copy.applied (some me) owner (some (.create people kept.subject))) := by
  subst owned
  have enrolled := (distinct_of_empty copy_empty).enrolled me (people ++ [copy.owner])
  have nobody {group : Group} (empty : group.members = []) : group.liveMembers = [] := by
    rw [liveMembers, empty]
    rfl
  have members (person : Identity) :
      person ∈ (kept.addMembers (people.filter (· ≠ copy.owner))).liveMembers ↔
        person ∈ people ∧ person ≠ copy.owner := by
    rw [mem_liveMembers_addMembers (distinct_of_empty kept_empty), nobody kept_empty, List.mem_filter,
      decide_eq_true_eq]
    exact or_iff_left List.not_mem_nil
  constructor
  case keptDistinct => exact (distinct_of_empty kept_empty).addMembers _
  case copyDistinct => exact enrolled.distinct
  constructor
  case live =>
    intro person
    refine (enrolled.live person).trans ?_
    rw [members, nobody copy_empty, List.mem_append, List.mem_singleton]
    by_cases owns : person = copy.owner <;> simp [owns]
  case membership =>
    refine enrolled.membership.trans ?_
    rw [if_pos (List.mem_append_left _ listed), if_pos ((members me).2 ⟨listed, differ.symm⟩)]
  case subject => rw [addMembers_eq]; rfl

theorem Mirrors.add (differ : owner ≠ me) (mirrors : Mirrors owner me kept copy)
    (owned : copy.owner = owner) (people : List Identity) :
    Mirrors owner me (kept.addMembers (people.filter (· ≠ owner)))
      (copy.applied (some me) owner (some (.members people [] kept.liveMembers))) := by
  subst owned
  have enrolled := mirrors.copyDistinct.enrolled me (people ++ kept.liveMembers ++ [copy.owner])
  have members (person : Identity) :
      person ∈ (kept.addMembers (people.filter (· ≠ copy.owner))).liveMembers ↔
        person ∈ people ∧ person ≠ copy.owner ∨ person ∈ kept.liveMembers := by
    rw [mem_liveMembers_addMembers mirrors.keptDistinct, List.mem_filter, decide_eq_true_eq]
  constructor
  case keptDistinct => exact mirrors.keptDistinct.addMembers _
  case copyDistinct => exact enrolled.distinct
  constructor
  case live =>
    intro person
    refine (enrolled.live person).trans ?_
    rw [members, mirrors.live]
    simp only [List.mem_append, List.mem_singleton]
    by_cases owns : person = copy.owner
    · simp [owns]
    · simp only [owns, or_false]
      grind
  case membership =>
    refine enrolled.membership.trans ?_
    rw [mirrors.membership]
    simp only [List.mem_append, List.mem_singleton, members]
    by_cases before : me ∈ kept.liveMembers <;> simp [before, differ.symm]
  case subject =>
    rw [addMembers_eq]
    exact enrolled.subject.trans mirrors.subject

theorem Mirrors.remove (differ : owner ≠ me) (mirrors : Mirrors owner me kept copy)
    (owned : copy.owner = owner) {people : List Identity} (spared : owner ∉ people) :
    Mirrors owner me (kept.kickMembers people)
      (copy.applied (some me) owner (some (.members [] people kept.liveMembers))) := by
  subst owned
  have enrolled := mirrors.copyDistinct.enrolled me ([] ++ kept.liveMembers ++ [copy.owner])
  have expelled := enrolled.distinct.expelled me people
  have members (person : Identity) : person ∈ (kept.kickMembers people).liveMembers ↔
      person ∈ kept.liveMembers ∧ person ∉ people :=
    mem_liveMembers_kickMembers mirrors.keptDistinct people person
  constructor
  case keptDistinct => exact mirrors.keptDistinct.kickMembers _
  case copyDistinct => exact expelled.distinct
  constructor
  case live =>
    intro person
    refine (expelled.live person).trans ?_
    rw [enrolled.live, members, mirrors.live]
    simp only [List.nil_append, List.mem_append, List.mem_singleton]
    by_cases owns : person = copy.owner
    · subst owns
      simp [spared]
    · simp only [owns, or_false]
      grind
  case membership =>
    refine expelled.membership.trans ?_
    rw [enrolled.membership, mirrors.membership]
    simp only [List.nil_append, List.mem_append, List.mem_singleton, members]
    by_cases before : me ∈ kept.liveMembers <;> by_cases out : me ∈ people <;>
      simp [before, out, differ.symm]
  case subject =>
    rw [kickMembers_eq]
    exact expelled.subject.trans (enrolled.subject.trans mirrors.subject)

/-- Every edit keeps the two alike. -/
theorem Mirrors.edit (differ : owner ≠ me) (mirrors : Mirrors owner me kept copy)
    (owned : copy.owner = owner) {edit : GroupEdit} (spared : edit.Spares owner) :
    Mirrors owner me (edit.made owner kept)
      (copy.applied (some me) owner (some (edit.command kept))) := by
  cases edit with
  | add people => exact mirrors.add differ owned people
  | remove people => exact mirrors.remove differ owned spared
  | rename subject =>
    exact ⟨⟨mirrors.live, mirrors.membership, rfl⟩, mirrors.keptDistinct, mirrors.copyDistinct⟩

end Group

namespace Outbox

open Messenger.Action

/-! ## What the outbox does -/

/-- The row of this group is stored. -/
def HasGroup (group : Group) (outbox : Outbox) : Prop :=
  outbox.store.group? group.id = some group

theorem HasGroup.of_groups {group : Group} {outbox next : Outbox} (stored : HasGroup group outbox)
    (same : next.store.groups = outbox.store.groups) : HasGroup group next :=
  (congrArg (Table.get? · group.id) same).trans stored

theorem hasGroup_saveGroup (group : Group) (outbox : Outbox) :
    HasGroup group { outbox with store := (outbox.store.saveGroup group).store } :=
  (Table.get?_put ..).trans (if_pos rfl)

/-- The group is stored, in some thread, and so is a message that carries the command. -/
structure Sent (group : Group) (command : GroupCommand) (id : MessageId) (outbox : Outbox) : Prop where
  kept : ∃ thread, HasGroup { group with thread } outbox
  carried : ∃ message, outbox.store.message? id = some message ∧
    message.group = some ⟨group.id, group.owner⟩ ∧ message.groupCommand = some command

section
variable {host : Host} (faultless : host.Faultless)
include faultless

theorem succeeds_dispatchFresh {before : Outbox → Prop} (message : Message) :
    Succeeds host before (dispatchFresh message) fun _ => before :=
  fun run start => ⟨_, _, on_dispatchFresh faultless message run, start⟩

theorem succeeds_saveGroup {before : Outbox → Prop} (group : Group) :
    Succeeds host before (save group) fun _ => HasGroup group :=
  Succeeds.commit faultless fun outbox _ => hasGroup_saveGroup group outbox

theorem succeeds_enqueue {group : Group} {thread : ThreadId} {command : GroupCommand}
    {content : MessageContent} (grouped : content.group = some ⟨group.id, group.owner⟩)
    (commanded : content.groupCommand = some command) :
    Succeeds host (HasGroup { group with thread }) (enqueue content) (Sent group command) := by
  have stored : Succeeds host (HasGroup { group with thread })
      (commit .insertMessage (·.insertMessage content))
      fun message outbox => Sent group command message.id outbox := by
    refine Succeeds.commit faultless fun outbox start => ⟨⟨thread, ?_⟩, _,
      outbox.store.message?_insertMessage content, grouped, commanded⟩
    exact start.of_groups (outbox.store.insertMessage_groups content)
  refine stored.bind fun message => (succeeds_dispatchFresh faultless message).bind fun _ => ?_
  exact Succeeds.pure fun _ sent => sent

theorem succeeds_sendGroupCommand (group : Group) (command : GroupCommand) :
    Succeeds host (HasGroup group) (sendGroupCommand group command) fun sent =>
      Sent group command sent.1 := by
  have housed : Succeeds host (HasGroup group)
      (commit .ensureThread (·.ensureThread group.id true)) fun _ => HasGroup group := by
    refine Succeeds.commit faultless fun outbox start => ?_
    exact start.of_groups (outbox.store.groups_ensureThread group.id true)
  have moved (thread : Thread) : Succeeds host (HasGroup group) (moveToThread group thread)
      fun row outbox => (∃ thread, row = { group with thread }) ∧ HasGroup row outbox := by
    unfold moveToThread
    split
    · exact Succeeds.pure fun _ start => ⟨⟨group.thread, rfl⟩, start⟩
    · refine (succeeds_saveGroup faultless _).bind fun _ => ?_
      exact Succeeds.pure fun _ start => ⟨⟨thread.id, rfl⟩, start⟩
  refine housed.bind fun thread => (moved thread).bind fun row => Succeeds.knowing ?_
  rintro ⟨thread, rfl⟩
  refine (Succeeds.issueServerId fun _ start => start).bind fun serverId => ?_
  refine Succeeds.reading ((succeeds_enqueue faultless rfl rfl).bind fun id => ?_)
  exact Succeeds.pure fun _ sent => sent

omit faultless in
theorem succeeds_selfIdentity {before : Outbox → Prop} {me : Identity}
    (configured : host.settings.selfIdentity = some me) :
    Succeeds host before selfIdentity fun found outbox => found = me ∧ before outbox := by
  intro run start
  refine ⟨me, run, ?_, rfl, start⟩
  rw [selfIdentity, on_bind, on_read]
  simp only [configured]
  rfl

theorem succeeds_loadGroup {group : Group} {id : Identity} (own : group.id = id) :
    Succeeds host (HasGroup group) (loadGroup id) fun found outbox =>
      found = group ∧ HasGroup group outbox := by
  intro run start
  refine ⟨group, run, ?_, rfl, start⟩
  have stored : run.store.group? id = some group := own ▸ start
  rw [loadGroup, on_bind, on_look faultless]
  simp only [stored]
  rfl

theorem succeeds_createGroup {owner : Identity}
    (configured : host.settings.selfIdentity = some owner) (id : Identity) (people : List Identity)
    (subject : Option String) :
    Succeeds host (fun _ => True) (createGroup id people subject) fun message outbox =>
      ∃ thread, Sent (({ id, owner, thread, subject } : Group).addMembers (people.filter (· ≠ owner)))
        (.create people subject) message outbox := by
  refine (succeeds_selfIdentity configured).bind fun me => Succeeds.knowing ?_
  rintro rfl
  have housed : Succeeds host (fun _ => True) (commit .ensureThread (·.ensureThread id true))
      fun _ _ => True := Succeeds.commit faultless fun _ start => start
  refine housed.bind fun thread => (succeeds_saveGroup faultless _).bind fun _ => ?_
  refine (succeeds_sendGroupCommand faultless _ _).bind fun sent => ?_
  exact Succeeds.pure fun _ sent => ⟨thread.id, sent⟩

theorem succeeds_edit {owner : Identity} (configured : host.settings.selfIdentity = some owner)
    {kept : Group} {id : Identity} (own : kept.id = id) (edit : GroupEdit) :
    Succeeds host (HasGroup kept) (perform (edit.request id)) fun answer outbox =>
      ∃ message, answer = .message message ∧
        Sent (edit.made owner kept) (edit.command kept) message outbox := by
  -- Every edit loads the group, saves what it makes of it, and sends its command.
  have finishes {made : Group} (command : GroupCommand) : Succeeds host (HasGroup kept)
      (do save made; return (← sendGroupCommand made command).1) fun message outbox =>
        ∃ number, Answer.message message = .message number ∧ Sent made command number outbox := by
    refine (succeeds_saveGroup faultless made).bind fun _ => ?_
    refine (succeeds_sendGroupCommand faultless made command).bind fun sent => ?_
    exact Succeeds.pure fun _ stored => ⟨sent.1, rfl, stored⟩
  cases edit with
  | add people =>
    refine Succeeds.map ((succeeds_selfIdentity configured).bind fun me => Succeeds.knowing ?_)
    rintro rfl
    refine (succeeds_loadGroup faultless own).bind fun found => Succeeds.knowing ?_
    rintro rfl
    exact finishes _
  | remove people =>
    refine Succeeds.map ((succeeds_loadGroup faultless own).bind fun found => Succeeds.knowing ?_)
    rintro rfl
    exact finishes _
  | rename subject =>
    refine Succeeds.map ((succeeds_loadGroup faultless own).bind fun found => Succeeds.knowing ?_)
    rintro rfl
    exact finishes _

theorem succeeds_applyInboundGroup {me : Identity}
    (configured : host.settings.selfIdentity = some me) {id : Identity} {known : Option Group}
    (own : ∀ copy ∈ known, copy.id = id) (owner : Identity) (command : GroupCommand)
    (thread : ThreadId) :
    Succeeds host (fun outbox => outbox.store.group? id = known)
      (applyInboundGroup ⟨id, owner, some command⟩ owner thread) fun _ outbox =>
        outbox.store.group? id =
          some ((Group.received known id owner thread).applied (some me) owner (some command)) := by
  have looked : Succeeds host (fun outbox => outbox.store.group? id = known)
      (look .group (·.group? id)) fun found _ => found = known ∧ True :=
    (Succeeds.look faultless _ _).mono fun _ _ holds => ⟨holds.1.trans holds.2, trivial⟩
  refine Succeeds.reading (looked.bind fun found => Succeeds.knowing ?_)
  rintro rfl
  refine (succeeds_saveGroup faultless _).mono fun _ outbox holds => ?_
  rw [configured] at holds
  have holds : HasGroup ((Group.received found id owner thread).applied (some me) owner (some command))
      outbox := holds
  rw [HasGroup, Group.applied_id, Group.received_id own] at holds
  exact holds

end

/-! ## From one to the other -/

/-- The outbox of the owner of a group, and that of a member. -/
structure Replicas where
  owner : Outbox
  member : Outbox

/-- What surrounds the two while a command passes from one to the other, and the thread in which the
member gets it. -/
structure Passage where
  owner : Host
  member : Host
  thread : ThreadId

/-- The two know who they are, and their stores do not fail. -/
structure Passage.Suits (owner me : Identity) (passage : Passage) : Prop where
  ownerFaultless : passage.owner.Faultless
  memberFaultless : passage.member.Faultless
  ownerSelf : passage.owner.settings.selfIdentity = some owner
  memberSelf : passage.member.settings.selfIdentity = some me

namespace Replicas

/-- The owner asks for something, and the member applies the command of the message that this
stores. -/
def relay (owner : Identity) (replicas : Replicas) (passage : Passage) (request : Request) :
    Option Replicas :=
  let sent := (perform request).run passage.owner replicas.owner
  match sent.result with
  | .ok (.message id) => do
    let message ← sent.outbox.store.message? id
    let group ← message.group
    let inbound : InboundGroup := ⟨group.id, group.owner, message.groupCommand⟩
    let applied := (applyInboundGroup inbound owner passage.thread).run passage.member replicas.member
    match applied.result with
    | .ok () => some ⟨sent.outbox, applied.outbox⟩
    | .error _ => none
  | _ => none

/-- The owner edits a group, and the member applies every command.  Listed are the two at the start and
after each of the commands. -/
def edited (owner group : Identity) (replicas : Replicas) :
    List (Passage × GroupEdit) → Option (List Replicas)
  | [] => some [replicas]
  | (passage, edit) :: rest => do
    let next ← replicas.relay owner passage (edit.request group)
    let later ← next.edited owner group rest
    return replicas :: later

/-- The owner makes a group and edits it, and the member applies every command.  Listed are the two
after each of the commands. -/
def share (owner group : Identity) (people : List Identity) (subject : Option String)
    (start : Replicas) (first : Passage) (edits : List (Passage × GroupEdit)) :
    Option (List Replicas) := do
  let created ← start.relay owner first (.createGroup group people subject)
  created.edited owner group edits

/-- Both have the group, and the two rows are alike. -/
def Synced (owner me group : Identity) (replicas : Replicas) : Prop :=
  ∃ kept copy, (kept.id = group ∧ kept.owner = owner ∧ replicas.owner.store.group? group = some kept) ∧
    (copy.id = group ∧ replicas.member.store.group? group = some copy) ∧
    Group.Mirrors owner me kept copy

variable {owner me group : Identity} {replicas : Replicas} {passage : Passage}

/-- A command passes, and leaves the rows alike if what it makes of them is. -/
theorem relay_synced (suits : passage.Suits owner me) {request : Request} (command : GroupCommand)
    (before : Outbox → Prop) (start : before replicas.owner) {known : Option Group}
    (stored : replicas.member.store.group? group = known) (own : ∀ copy ∈ known, copy.id = group)
    (does : Succeeds passage.owner before (perform request) fun answer outbox =>
      ∃ id made, answer = .message id ∧ Sent made command id outbox ∧
        (made.id = group ∧ made.owner = owner) ∧ Group.Mirrors owner me made
          ((Group.received known group owner passage.thread).applied (some me) owner (some command))) :
    ∃ next, replicas.relay owner passage request = some next ∧ next.Synced owner me group := by
  obtain ⟨answer, asked, id, made, rfl, sent, ⟨rfl, rfl⟩, mirrors⟩ := does.run start
  obtain ⟨message, carried, grouped, commanded⟩ := sent.carried
  obtain ⟨done, ran, applied⟩ := (succeeds_applyInboundGroup suits.memberFaultless suits.memberSelf
    own made.owner command passage.thread).run stored
  obtain ⟨thread, kept⟩ := sent.kept
  refine ⟨⟨_, _⟩, ?_, { made with thread }, _, ⟨rfl, rfl, kept⟩, ⟨?_, applied⟩, mirrors.moved thread⟩
  · unfold relay
    simp [asked, carried, grouped, commanded, ran]
  · exact (Group.applied_id ..).trans (Group.received_id own)

/-- Making a group makes the two rows alike. -/
theorem relay_create (suits : passage.Suits owner me) (differ : owner ≠ me) {people : List Identity}
    (listed : me ∈ people) (subject : Option String)
    (new : replicas.member.store.group? group = none) :
    ∃ next, replicas.relay owner passage (.createGroup group people subject) = some next ∧
      next.Synced owner me group := by
  refine relay_synced suits (.create people subject) (fun _ => True) trivial new nofun ?_
  refine Succeeds.map ?_
  refine (succeeds_createGroup suits.ownerFaultless suits.ownerSelf group people subject).mono ?_
  rintro id outbox ⟨thread, sent⟩
  have eq := Group.addMembers_eq { id := group, owner, thread, subject } (people.filter (· ≠ owner))
  refine ⟨id, _, rfl, sent, ⟨(congrArg Group.id eq :), (congrArg Group.owner eq :)⟩, ?_⟩
  exact Group.Mirrors.create differ listed rfl rfl rfl

theorem Synced.relay_edit (synced : replicas.Synced owner me group) (suits : passage.Suits owner me)
    (differ : owner ≠ me) {edit : GroupEdit} (spared : edit.Spares owner) :
    ∃ next, replicas.relay owner passage (edit.request group) = some next ∧
      next.Synced owner me group := by
  obtain ⟨kept, copy, ⟨rfl, rfl, kept_stored⟩, ⟨own, copy_stored⟩, mirrors⟩ := synced
  have owned : ∀ row ∈ some copy, row.id = kept.id := by
    rintro row ⟨⟩
    exact own
  refine relay_synced suits (edit.command kept) (HasGroup kept) kept_stored copy_stored owned ?_
  refine (succeeds_edit suits.ownerFaultless suits.ownerSelf rfl edit).mono ?_
  rintro answer outbox ⟨id, rfl, sent⟩
  have known := mirrors.known kept.id passage.thread
  exact ⟨id, _, rfl, sent, edit.made_id kept.owner kept, known.edit differ rfl spared⟩

theorem Synced.edited (synced : replicas.Synced owner me group) (differ : owner ≠ me)
    {edits : List (Passage × GroupEdit)}
    (fits : ∀ step ∈ edits, step.1.Suits owner me ∧ step.2.Spares owner) :
    ∃ states, replicas.edited owner group edits = some states ∧
      states.length = edits.length + 1 ∧ ∀ state ∈ states, state.Synced owner me group := by
  induction edits generalizing replicas with
  | nil => exact ⟨[replicas], rfl, rfl, List.forall_mem_singleton.2 synced⟩
  | cons step rest ih =>
    obtain ⟨suits, spared⟩ := fits step List.mem_cons_self
    obtain ⟨next, relayed, alike⟩ := synced.relay_edit suits differ spared
    obtain ⟨later, ended, length, all⟩ :=
      ih alike fun other mem => fits other (List.mem_cons_of_mem _ mem)
    refine ⟨replicas :: later, ?_, congrArg (· + 1) length, List.forall_mem_cons.2 ⟨synced, all⟩⟩
    rw [Replicas.edited, relayed, Option.bind_eq_bind, Option.bind_some, ended]
    rfl

end Replicas

/-- After each command from the owner, the copy of a member agrees with the owner's row: the member
lists the people of the owner and the owner, without themselves, belongs to the group exactly if the
owner lists them, and knows its subject. -/
theorem replicas_agree {owner me group : Identity} (differ : owner ≠ me) {people : List Identity}
    (listed : me ∈ people) (subject : Option String) {start : Replicas}
    (new : start.member.store.group? group = none) {first : Passage} (suits : first.Suits owner me)
    {edits : List (Passage × GroupEdit)}
    (fits : ∀ step ∈ edits, step.1.Suits owner me ∧ step.2.Spares owner) :
    ∃ states, Replicas.share owner group people subject start first edits = some states ∧
      states.length = edits.length + 1 ∧ ∀ state ∈ states, ∃ kept copy,
        state.owner.store.group? group = some kept ∧
          state.member.store.group? group = some copy ∧ Group.Agree owner me kept copy := by
  obtain ⟨created, relayed, synced⟩ := Replicas.relay_create suits differ listed subject new
  obtain ⟨states, ended, length, alike⟩ := synced.edited differ fits
  refine ⟨states, ?_, length, fun state mem => ?_⟩
  · rw [Replicas.share, relayed]
    exact ended
  · obtain ⟨kept, copy, ⟨-, -, kept_stored⟩, ⟨-, copy_stored⟩, mirrors⟩ := alike state mem
    exact ⟨kept, copy, kept_stored, copy_stored, mirrors.toAgree⟩

/-- Somebody is put out and taken in again, and the group gets another subject. -/
theorem replicas_agree_readmitted :
    let owner : Identity := ⟨"o@x"⟩
    let me : Identity := ⟨"m@x"⟩
    let host (self : Identity) : Host :=
      { settings := { selfIdentity := some self }, serverId := toString }
    let passage : Passage := ⟨host owner, host me, ⟨1⟩⟩
    let edits : List GroupEdit :=
      [.remove [me, ⟨"z@x"⟩], .add [⟨"b@x"⟩, me, owner, ⟨"b@x"⟩], .rename "news"]
    ∃ states, Replicas.share owner ⟨"g@x"⟩ [me, ⟨"a@x"⟩, owner] none ⟨{}, {}⟩ passage
        (edits.map (passage, ·)) = some states ∧
      states.length = 4 ∧ ∀ state ∈ states, ∃ kept copy,
        state.owner.store.group? ⟨"g@x"⟩ = some kept ∧
          state.member.store.group? ⟨"g@x"⟩ = some copy ∧ Group.Agree owner me kept copy := by
  intro owner me host passage edits
  have suits : passage.Suits owner me := ⟨fun _ => rfl, fun _ => rfl, rfl, rfl⟩
  have spared : ∀ edit ∈ edits, edit.Spares owner := by decide
  exact replicas_agree (by decide) (by decide) none rfl suits
    (List.forall_mem_map.2 fun edit mem => ⟨suits, spared edit mem⟩)

end Outbox

end Messenger
