/-
# Edits of the member list

Three calls edit the list of a group, each for one person.  What they make of that person is decided by
how the person stood before (`MemberAct.outcome`):

    add       a member
    kick      kicked, if they were in the list
    remove    out of the list

Nobody else is touched (`filter_edit`), and those who stay in the list stay in their order
(`filter_people_edit`).  So a run of calls, interleaved as it may be, does to each person what the calls
for that person do, taken alone and in order (`standing_editAll`), and the last of them decides whether
the person is a member (`outcomes_eq_member_iff`).

An update stops at the first entry of the person.  It is the only one if nobody is listed twice, which
every call keeps (`Distinct.editAll`); then the live members are the members among the people of the
list, as they stand there (`liveMembers_eq`).
-/
import Messenger.Proofs.Group.Members
import Mathlib.Data.List.Induction

namespace Messenger

/-- What a call does to a person. -/
inductive MemberAct where
  | add
  | kick
  | remove
deriving DecidableEq

namespace MemberAct

/-- How the person stands afterwards. -/
def outcome (before : Option MemberState) : MemberAct → Option MemberState
  | add => some .member
  | kick => before.map fun _ => .kicked
  | remove => none

/-- A member is who was added last, or was one before and had nothing done to them. -/
theorem outcomes_eq_member_iff (acts : List MemberAct) (before : Option MemberState) :
    acts.foldl outcome before = some .member ↔
      acts.getLast? = some add ∨ acts = [] ∧ before = some .member := by
  induction acts using List.reverseRecOn with
  | nil => simp
  | append_singleton earlier last _ =>
    rw [List.foldl_append, List.getLast?_concat]
    cases last <;> simp [outcome]

end MemberAct

/-- A call that edits the member list. -/
structure MemberEdit where
  act : MemberAct
  person : Identity
deriving DecidableEq

/-- What the calls do to this person, in order. -/
def actsOn (person : Identity) (edits : List MemberEdit) : List MemberAct :=
  (edits.filter (·.person = person)).map (·.act)

theorem actsOn_cons (person : Identity) (edit : MemberEdit) (rest : List MemberEdit) :
    actsOn person (edit :: rest) =
      if edit.person = person then edit.act :: actsOn person rest else actsOn person rest := by
  by_cases own : edit.person = person <;> simp [actsOn, own]

namespace Group

def edit (group : Group) (edit : MemberEdit) : Group :=
  match edit.act with
  | .add => group.addMember edit.person
  | .kick => group.kickMember edit.person
  | .remove => group.removeMember edit.person

def editAll (group : Group) (edits : List MemberEdit) : Group := edits.foldl edit group

theorem editAll_snoc (group : Group) (earlier : List MemberEdit) (last : MemberEdit) :
    group.editAll (earlier ++ [last]) = (group.editAll earlier).edit last :=
  List.foldl_append

variable {group : Group}

/-! ## Live members -/

theorem Distinct.isMember_iff (distinct : group.Distinct) (person : Identity) :
    group.isMember person = true ↔ group.standing person = some .member :=
  (group.isMember_iff_mem person).trans (mem_liveMembers distinct person)

theorem liveMembers_eq (distinct : group.Distinct) :
    group.liveMembers = group.people.filter (group.isMember ·) := by
  show (group.members.filter (·.isLive)).map (·.identity) =
    (group.members.map (·.identity)).filter (group.isMember ·)
  rw [List.filter_map]
  refine congrArg _ (List.filter_congr fun entry mem => ?_)
  have own : group.standing entry.identity = some entry.state := by
    rw [standing, (find?_eq_some_iff distinct).2 mem, Option.map_some]
  have counts : group.isMember entry.identity = true ↔ entry.isLive = true := by
    rw [distinct.isMember_iff, own, Option.some_inj, GroupMember.isLive, decide_eq_true_eq]
  exact Bool.eq_iff_iff.2 counts.symm

/-! ## One call -/

theorem standing_edit (group : Group) (edit : MemberEdit) (person : Identity) :
    (group.edit edit).standing person =
      if edit.person = person then edit.act.outcome (group.standing person)
      else group.standing person := by
  obtain ⟨act, named⟩ := edit
  simp only [eq_comm (a := named)]
  cases act with
  | add => exact group.standing_addMember named person
  | kick => exact group.standing_kickMember named person
  | remove => exact group.standing_removeMember named person

theorem Distinct.edit (distinct : group.Distinct) (edit : MemberEdit) : (group.edit edit).Distinct := by
  obtain ⟨act, named⟩ := edit
  cases act with
  | add => exact distinct.addMember named
  | kick => exact distinct.kickMember named
  | remove => exact distinct.removeMember named

theorem filter_edit {edit : MemberEdit} {chosen : GroupMember → Bool}
    (others : ∀ entry, chosen entry = true → entry.identity ≠ edit.person) (group : Group) :
    (group.edit edit).members.filter chosen = group.members.filter chosen := by
  obtain ⟨act, named⟩ := edit
  cases act with
  | add => exact filter_addMember others group
  | kick => exact filter_kickMember others group
  | remove => exact filter_removeMember others group

theorem filter_people_edit {edit : MemberEdit} {chosen : Identity → Bool}
    (listed : ∀ person, chosen person = true → person ∈ group.people)
    (stays : chosen edit.person = true → edit.act ≠ .remove) :
    (group.edit edit).people.filter chosen = group.people.filter chosen := by
  obtain ⟨act, named⟩ := edit
  cases act with
  | add =>
    show (group.addMember named).people.filter chosen = _
    rw [people_addMember]
    split
    case isTrue => rfl
    case isFalse unnamed =>
      have new : ¬chosen named = true := fun picked => unnamed (listed named picked)
      rw [List.filter_append, List.filter_cons_of_neg new, List.filter_nil, List.append_nil]
  | kick =>
    show (group.kickMember named).people.filter chosen = _
    rw [people_kickMember]
  | remove =>
    show (group.removeMember named).people.filter chosen = _
    rw [people_removeMember, List.filter_filter]
    refine List.filter_congr fun person _ => ?_
    refine Bool.and_eq_left_iff_imp.2 fun picked => decide_eq_true ?_
    rintro rfl
    exact stays picked rfl

theorem act_ne_remove {edit : MemberEdit} (listed : edit.person ∈ (group.edit edit).people) :
    edit.act ≠ .remove := by
  obtain ⟨act, named⟩ := edit
  rintro rfl
  have gone : named ∈ (group.removeMember named).people := listed
  rw [people_removeMember] at gone
  exact of_decide_eq_true (List.mem_filter.1 gone).2 rfl

/-- The call leaves how everybody but this person stands, and the order of those who stay. -/
structure SparesOthers (person : Identity) (before after : Group) : Prop where
  standing : ∀ other, other ≠ person → after.standing other = before.standing other
  isMember : ∀ other, other ≠ person → after.isMember other = before.isMember other
  entries : after.members.filter (·.identity ≠ person) = before.members.filter (·.identity ≠ person)
  order : after.people.filter (· ∈ before.people) = before.people.filter (· ∈ after.people)

theorem sparesOthers_edit (group : Group) (edit : MemberEdit) :
    SparesOthers edit.person group (group.edit edit) := by
  constructor
  case standing =>
    intro other differ
    rw [standing_edit, if_neg (Ne.symm differ)]
  case isMember =>
    intro other differ
    have counted (group : Group) :
        group.isMember other = (group.members.filter (·.identity = other)).any (·.isLive) :=
      List.any_filter.symm
    rw [counted, counted, filter_edit]
    exact fun entry own => of_decide_eq_true own ▸ differ
  case entries => exact filter_edit (fun entry other => of_decide_eq_true other) group
  case order =>
    let next := group.edit edit
    let both (person : Identity) : Bool := person ∈ group.people ∧ person ∈ next.people
    calc next.people.filter (· ∈ group.people)
        = next.people.filter both :=
          List.filter_congr fun person mem => decide_eq_decide.2 (and_iff_left mem).symm
      _ = group.people.filter both :=
          filter_people_edit (fun person picked => (of_decide_eq_true picked).1)
            fun picked => act_ne_remove (of_decide_eq_true picked).2
      _ = group.people.filter (· ∈ next.people) :=
          List.filter_congr fun person mem => decide_eq_decide.2 (and_iff_right mem)

/-! ## A run of calls -/

theorem standing_editAll (group : Group) (edits : List MemberEdit) (person : Identity) :
    (group.editAll edits).standing person =
      (actsOn person edits).foldl MemberAct.outcome (group.standing person) := by
  induction edits generalizing group with
  | nil => rfl
  | cons edit rest ih =>
    show ((group.edit edit).editAll rest).standing person = _
    rw [ih, standing_edit, actsOn_cons]
    split <;> rfl

theorem Distinct.editAll (distinct : group.Distinct) (edits : List MemberEdit) :
    (group.editAll edits).Distinct := by
  induction edits generalizing group with
  | nil => exact distinct
  | cons edit rest ih => exact ih (distinct.edit edit)

/-- People of the list whom no call takes out of it stand there as before. -/
theorem filter_people_editAll {edits : List MemberEdit} {chosen : Identity → Bool}
    (stays : ∀ person, chosen person = true →
      person ∈ group.people ∧ .remove ∉ actsOn person edits) :
    (group.editAll edits).people.filter chosen = group.people.filter chosen := by
  induction edits generalizing group with
  | nil => rfl
  | cons edit rest ih =>
    have first : (group.edit edit).people.filter chosen = group.people.filter chosen := by
      refine filter_people_edit (fun person picked => (stays person picked).1) ?_
      intro picked removed
      refine (stays edit.person picked).2 ?_
      rw [actsOn_cons, if_pos rfl, removed]
      exact List.mem_cons_self
    refine (ih fun person picked => ?_).trans first
    obtain ⟨listed, spared⟩ := stays person picked
    have still : person ∈ (group.edit edit).people.filter chosen := by
      rw [first]
      exact List.mem_filter.2 ⟨listed, picked⟩
    refine ⟨(List.mem_filter.1 still).1, fun later => spared ?_⟩
    rw [actsOn_cons]
    split
    · exact List.mem_cons_of_mem _ later
    · exact later

/-- Somebody is in the list, and no call takes them out of it. -/
def staysIn (group : Group) (edits : List MemberEdit) (person : Identity) : Bool :=
  person ∈ group.people ∧ .remove ∉ actsOn person edits

/-- A run of calls does to everybody what the calls for them do. -/
structure Edited (edits : List MemberEdit) (before after : Group) : Prop where
  distinct : after.Distinct
  standing : ∀ person, after.standing person =
    (actsOn person edits).foldl MemberAct.outcome (before.standing person)
  isMember : ∀ person, after.isMember person = true ↔ after.standing person = some .member
  last : ∀ person, after.isMember person = true ↔
    (actsOn person edits).getLast? = some .add ∨
      actsOn person edits = [] ∧ before.isMember person = true
  /-- Those who were in the list and stayed there have kept their order. -/
  order : after.people.filter (before.staysIn edits) = before.people.filter (before.staysIn edits)
  live : after.liveMembers = after.people.filter (after.isMember ·)
  once : after.liveMembers.Nodup

theorem Distinct.edited (distinct : group.Distinct) (edits : List MemberEdit) :
    Edited edits group (group.editAll edits) := by
  have later := distinct.editAll edits
  constructor
  case distinct => exact later
  case standing => exact group.standing_editAll edits
  case isMember => exact later.isMember_iff
  case last =>
    intro person
    rw [later.isMember_iff, standing_editAll, MemberAct.outcomes_eq_member_iff, distinct.isMember_iff]
  case order => exact filter_people_editAll fun person stays => of_decide_eq_true stays
  case live => exact liveMembers_eq later
  case once =>
    rw [liveMembers_eq later]
    exact later.filter _

/-- Whatever calls edit the list of a group in which nobody is listed twice, and in whatever order:
nobody is listed twice afterwards; how a person stands follows from how they stood and from the calls
for them alone, so that they are a member exactly if the last of these adds them, or if there is none and
they were a member at first; and the live members are the members in the list, each once, in its order.
One more call leaves the state of everybody else, and the order of those who stay in the list. -/
theorem edited_per_person (distinct : group.Distinct) (edits : List MemberEdit) :
    Edited edits group (group.editAll edits) ∧
      ∀ edit, SparesOthers edit.person (group.editAll edits) (group.editAll (edits ++ [edit])) := by
  refine ⟨distinct.edited edits, fun edit => ?_⟩
  rw [editAll_snoc]
  exact sparesOthers_edit (group.editAll edits) edit

/-- Alice is kicked and taken in again, where she was; Bob leaves, is kicked in vain, and comes back at
the end of the list. -/
theorem edited_per_person_returning :
    let alice : Identity := ⟨"alice@x"⟩
    let bob : Identity := ⟨"bob@x"⟩
    let carol : Identity := ⟨"carol@x"⟩
    let group : Group :=
      { id := ⟨"g@x"⟩, owner := ⟨"me@x"⟩, thread := ⟨1⟩, members := [⟨bob, .kicked⟩, ⟨alice, .member⟩] }
    let edits : List MemberEdit :=
      [⟨.kick, alice⟩, ⟨.add, carol⟩, ⟨.remove, bob⟩, ⟨.kick, bob⟩, ⟨.add, alice⟩, ⟨.add, bob⟩,
        ⟨.kick, carol⟩]
    let after := group.editAll edits
    group.Distinct ∧ Edited edits group after ∧
      SparesOthers bob after (group.editAll (edits ++ [⟨.remove, bob⟩])) ∧
      after.people = [alice, carol, bob] ∧ after.isMember alice = true ∧
      after.isMember carol = false ∧ after.liveMembers = [alice, bob] := by
  intro alice bob carol group edits after
  have distinct : group.Distinct := by
    show [bob, alice].Nodup
    decide
  obtain ⟨edited, spares⟩ := edited_per_person distinct edits
  have back : after.isMember alice = true := (edited.last alice).2 (.inl (by decide +kernel))
  have out : after.isMember carol = false := by
    rw [← Bool.not_eq_true, edited.last carol]
    decide +kernel
  refine ⟨distinct, edited, spares ⟨.remove, bob⟩, by decide +kernel, back, out, ?_⟩
  rw [edited.live]
  decide +kernel

end Group

end Messenger
