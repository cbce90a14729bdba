/-
# Lower case is final

A text in lower case has nothing left to do for the next reading.  The small letter that stands for
a character (`Lowers`)

    is its own lower-case form, and neither a capital sigma nor a dotted capital I    (`Settled`)
    is a blank, or a slash, just if the character itself is

so lower case may be taken twice (`lowerCase_lowerCase`) and leaves blanks and slashes where they are.

The table is checked run against run: the small letters of a run lie beside the capitals of every
run, or between them (`apart_lowerRuns`), and outside of everything that is not a small letter
(`clears_lowerRuns`).
-/
import Messenger.Text.Blank
import Messenger.Text.LowerCase

namespace Messenger.Text

/-! ## The table -/

namespace LowerRun

/-- The code point of the small letter of a capital. -/
def code (run : LowerRun) (n : Nat) : Nat := (n + run.shift).toNat

/-- The small letters of the run are all below the interval or all above it. -/
def clears (run : LowerRun) (interval : Nat × Nat) : Bool :=
  (run.code run.last).blt interval.1 || interval.2.blt (run.code run.first)

/-- The small letters of the run are not among the capitals of the other: they are outside its
bounds, or both go in steps of two and they are in between. -/
def apart (run other : LowerRun) : Bool :=
  run.clears (other.first, other.last)
    || (run.first == run.last || run.step == 2) && other.step == 2
      && (run.code run.first + other.first) % 2 == 1

variable {run other : LowerRun} {n : Nat}

theorem holds_iff : run.holds n = true ↔
    run.first ≤ n ∧ n ≤ run.last ∧ (n - run.first) % run.step = 0 := by
  simp [holds, and_assoc]

theorem code_bounds (holds : run.holds n = true) :
    run.code run.first ≤ run.code n ∧ run.code n ≤ run.code run.last := by
  obtain ⟨first, last, -⟩ := holds_iff.1 holds
  unfold code
  omega

theorem outside_of_clears {interval : Nat × Nat} (clears : run.clears interval = true)
    (holds : run.holds n = true) :
    ¬(interval.1 ≤ run.code n ∧ run.code n ≤ interval.2) := by
  have bounds := code_bounds holds
  simp only [LowerRun.clears, Bool.or_eq_true, Nat.blt_eq] at clears
  omega

theorem not_holds_of_apart (positive : 0 < run.code run.first) (apart : run.apart other = true)
    (holds : run.holds n = true) : other.holds (run.code n) = false := by
  refine Bool.eq_false_iff.2 fun held => ?_
  have inside := holds_iff.1 held
  rw [LowerRun.apart, Bool.or_eq_true] at apart
  rcases apart with clears | between
  · exact outside_of_clears clears holds ⟨inside.1, inside.2.1⟩
  · simp only [Bool.and_eq_true, Bool.or_eq_true, beq_iff_eq] at between
    obtain ⟨⟨even, step⟩, odd⟩ := between
    obtain ⟨first, last, steps⟩ := holds_iff.1 holds
    rw [step] at inside
    unfold code at positive odd inside
    rcases even with single | two
    · omega
    · rw [two] at steps
      omega

end LowerRun

/-- No small letters: the other characters of ASCII, the dotted capital I, the surrogates and the
blanks. -/
def notSmall : CharSet :=
  [(0, 0x60), (0x7B, 0x7F), (0x130, 0x130), (0xD800, 0xDFFF)] ++ blanks

theorem apart_lowerRuns : (lowerRuns.all fun run => lowerRuns.all run.apart) = true := by
  decide +kernel

theorem clears_lowerRuns : (lowerRuns.all fun run => notSmall.all run.clears) = true := by
  decide +kernel

theorem code_lt_lowerRuns :
    (lowerRuns.all fun run => (run.code run.last).blt 0x110000) = true := by
  decide +kernel

theorem blanks_lowerRuns :
    (lowerRuns.all fun run => blanks.all fun interval =>
      run.last.blt interval.1 || interval.2.blt run.first) = true := by
  decide +kernel

section
variable {run : LowerRun} {n : Nat}

theorem outside_notSmall (mem : run ∈ lowerRuns) (holds : run.holds n = true)
    (interval : Nat × Nat) (listed : interval ∈ notSmall) :
    ¬(interval.1 ≤ run.code n ∧ run.code n ≤ interval.2) :=
  LowerRun.outside_of_clears
    (List.all_eq_true.1 (List.all_eq_true.1 clears_lowerRuns run mem) interval listed) holds

theorem small_bounds (mem : run ∈ lowerRuns) (holds : run.holds n = true) :
    0x60 < run.code n ∧ (run.code n < 0x7B ∨ 0x80 ≤ run.code n) ∧ run.code n ≠ 0x130 := by
  have low := outside_notSmall mem holds (0, 0x60) (by decide)
  have high := outside_notSmall mem holds (0x7B, 0x7F) (by decide)
  have dotted := outside_notSmall mem holds (0x130, 0x130) (by decide)
  simp only at low high dotted
  omega

theorem toNat_small (mem : run ∈ lowerRuns) (holds : run.holds n = true) :
    (run.small n).toNat = run.code n := by
  have surrogate := outside_notSmall mem holds (0xD800, 0xDFFF) (by decide)
  have last := List.all_eq_true.1 code_lt_lowerRuns run mem
  have bounds := LowerRun.code_bounds holds
  rw [Nat.blt_eq] at last
  have valid : (run.code n).isValidChar := by
    simp only at surrogate
    unfold Nat.isValidChar
    omega
  have made : run.small n = Char.ofNatAux (run.code n) valid := dif_pos valid
  rw [made]
  rfl

theorem find?_code (mem : run ∈ lowerRuns) (holds : run.holds n = true) :
    lowerRuns.find? (·.holds (run.code n)) = none := by
  have first : run.holds run.first = true := by
    obtain ⟨below, above, -⟩ := LowerRun.holds_iff.1 holds
    exact LowerRun.holds_iff.2 ⟨Nat.le_refl _, Nat.le_trans below above, by simp⟩
  have positive : 0 < run.code run.first := by
    have := (small_bounds mem first).1
    omega
  refine List.find?_eq_none.2 fun other listed => ?_
  have apart := List.all_eq_true.1 (List.all_eq_true.1 apart_lowerRuns run mem) other listed
  rw [LowerRun.not_holds_of_apart positive apart holds]
  exact Bool.false_ne_true

theorem isBlank_small (mem : run ∈ lowerRuns) (holds : run.holds n = true) :
    isBlank (run.small n) = false := by
  refine Bool.eq_false_iff.2 fun blank => ?_
  obtain ⟨interval, listed, inside⟩ := CharSet.has_eq_true_iff.1 blank
  rw [toNat_small mem holds] at inside
  exact outside_notSmall mem holds _ (List.mem_append_right _ listed) inside

theorem isBlank_capital (mem : run ∈ lowerRuns) {c : Char} (holds : run.holds c.toNat = true) :
    isBlank c = false := by
  refine Bool.eq_false_iff.2 fun blank => ?_
  obtain ⟨interval, listed, inside⟩ := CharSet.has_eq_true_iff.1 blank
  have clear := List.all_eq_true.1 (List.all_eq_true.1 blanks_lowerRuns run mem) interval listed
  have bounds := LowerRun.holds_iff.1 holds
  simp only [Bool.or_eq_true, Nat.blt_eq] at clear
  omega

end

/-! ## One character -/

/-- A character that lower case leaves as it is, wherever it stands. -/
structure Settled (c : Char) : Prop where
  sigma : c ≠ 'Σ'
  dotted : c ≠ 'İ'
  lower : lowerChar c = c

/-- The character stands for the other one in lower case. -/
structure Lowers (c small : Char) : Prop where
  settled : Settled small
  blank : isBlank small = isBlank c
  slash : small = '/' ↔ c = '/'

instance (c : Char) : Decidable (Settled c) :=
  decidable_of_iff (c ≠ 'Σ' ∧ c ≠ 'İ' ∧ lowerChar c = c)
    ⟨fun ⟨sigma, dotted, lower⟩ => ⟨sigma, dotted, lower⟩,
      fun ⟨sigma, dotted, lower⟩ => ⟨sigma, dotted, lower⟩⟩

instance (c small : Char) : Decidable (Lowers c small) :=
  decidable_of_iff (Settled small ∧ isBlank small = isBlank c ∧ (small = '/' ↔ c = '/'))
    ⟨fun ⟨settled, blank, slash⟩ => ⟨settled, blank, slash⟩,
      fun ⟨settled, blank, slash⟩ => ⟨settled, blank, slash⟩⟩

theorem lowerChar_of_ascii {c : Char} (ascii : c.toNat < 0x80) : lowerChar c = c.toLower :=
  if_pos ascii

theorem lowers_ascii {c : Char} (ascii : c.toNat < 0x80) : Lowers c c.toLower := by
  have all : ∀ n < 0x80, Lowers (.ofNat n) (Char.ofNat n).toLower := by decide +kernel
  exact c.ofNat_toNat ▸ all c.toNat ascii

theorem lowers_small {run : LowerRun} {c : Char} (mem : run ∈ lowerRuns)
    (holds : run.holds c.toNat = true) (beyond : 0x80 ≤ c.toNat) :
    Lowers c (run.small c.toNat) := by
  have code := toNat_small mem holds
  have bounds := small_bounds mem holds
  have missing := find?_code mem holds
  rw [← code] at bounds missing
  refine ⟨⟨fun eq => ?_, fun eq => ?_, ?_⟩, ?_, ?_⟩
  · rw [eq] at missing
    exact absurd missing (by decide +kernel)
  · rw [eq] at bounds
    exact bounds.2.2 rfl
  · by_cases ascii : (run.small c.toNat).toNat < 0x80
    case pos =>
      refine (lowerChar_of_ascii ascii).trans (dif_neg fun upper => ?_)
      have last : (run.small c.toNat).toNat ≤ 0x5A := UInt32.le_iff_toNat_le.1 upper.2
      omega
    case neg => rw [lowerChar, if_neg ascii, missing]
  · rw [isBlank_small mem holds, isBlank_capital mem holds]
  · refine iff_of_false (fun eq => ?_) fun eq => ?_
    · rw [eq] at bounds
      exact absurd bounds.1 (by decide)
    · rw [eq] at beyond
      exact absurd beyond (by decide)

theorem lowers_lowerChar {c : Char} (dotted : c ≠ 'İ') : Lowers c (lowerChar c) := by
  by_cases ascii : c.toNat < 0x80
  case pos =>
    rw [lowerChar_of_ascii ascii]
    exact lowers_ascii ascii
  case neg =>
    cases found : lowerRuns.find? (·.holds c.toNat) with
    | none =>
      have same : lowerChar c = c := by rw [lowerChar, if_neg ascii, found]
      rw [same]
      refine ⟨⟨fun eq => ?_, dotted, same⟩, rfl, Iff.rfl⟩
      rw [eq] at found
      exact absurd found (by decide +kernel)
    | some run =>
      have small : lowerChar c = run.small c.toNat := by rw [lowerChar, if_neg ascii, found]
      rw [small]
      have mem := List.mem_of_find?_eq_some found
      have holds := (List.find?_eq_some_iff_append.1 found).1
      exact lowers_small mem holds (Nat.le_of_not_lt ascii)

theorem lowerAt_ne_nil (before : List Char) (c : Char) (after : List Char) :
    lowerAt before c after ≠ [] := by
  unfold lowerAt
  split
  · exact List.cons_ne_nil _ _
  · split <;> exact List.cons_ne_nil _ _

/-- What stands for a character in its place, the two exceptions included. -/
theorem lowers_of_mem_lowerAt {before after : List Char} {c small : Char}
    (mem : small ∈ lowerAt before c after) : Lowers c small := by
  have sigmas : Lowers 'Σ' 'ς' ∧ Lowers 'Σ' 'σ' := by decide +kernel
  have dots : Lowers 'İ' 'i' ∧ Lowers 'İ' '\u0307' := by decide +kernel
  unfold lowerAt at mem
  split at mem
  case isTrue sigma =>
    rw [sigma, List.mem_singleton.1 mem, lowerSigma]
    split
    · exact sigmas.1
    · exact sigmas.2
  case isFalse =>
    split at mem
    case isTrue dotted =>
      rw [dotted]
      rcases List.mem_cons.1 mem with rfl | mem
      · exact dots.1
      · rw [List.mem_singleton.1 mem]
        exact dots.2
    case isFalse dotted =>
      rw [List.mem_singleton.1 mem]
      exact lowers_lowerChar dotted

theorem Settled.lowerAt_eq {c : Char} (settled : Settled c) (before after : List Char) :
    lowerAt before c after = [c] := by
  rw [lowerAt, if_neg settled.sigma, if_neg settled.dotted, settled.lower]

/-! ## A text -/

theorem lowers_of_mem_lowerFrom {before cs : List Char} {small : Char}
    (mem : small ∈ lowerFrom before cs) : ∃ c ∈ cs, Lowers c small := by
  induction cs generalizing before with
  | nil => cases mem
  | cons c rest ih =>
    rw [lowerFrom, List.mem_append] at mem
    rcases mem with here | later
    · exact ⟨c, List.mem_cons_self, lowers_of_mem_lowerAt here⟩
    · obtain ⟨other, mem, lowers⟩ := ih later
      exact ⟨other, List.mem_cons_of_mem _ mem, lowers⟩

theorem lowerFrom_of_settled {before cs : List Char} (settled : ∀ c ∈ cs, Settled c) :
    lowerFrom before cs = cs := by
  induction cs generalizing before with
  | nil => rfl
  | cons c rest ih =>
    obtain ⟨here, later⟩ := List.forall_mem_cons.1 settled
    rw [lowerFrom, here.lowerAt_eq, ih later, List.singleton_append]

theorem settled_lowerCase {cs : List Char} : ∀ c ∈ lowerCase cs, Settled c := by
  intro c mem
  obtain ⟨_, _, lowers⟩ := lowers_of_mem_lowerFrom mem
  exact lowers.settled

theorem lowerCase_of_settled {cs : List Char} (settled : ∀ c ∈ cs, Settled c) : lowerCase cs = cs :=
  lowerFrom_of_settled settled

theorem lowerCase_lowerCase (cs : List Char) : lowerCase (lowerCase cs) = lowerCase cs :=
  lowerCase_of_settled settled_lowerCase

example : lowerCase (lowerCase "ÀÖ×ØÞ ΑΣ".toList) = "àö×øþ ας".toList := by decide +kernel

theorem slash_of_lowerCase {cs : List Char} (mem : '/' ∈ lowerCase cs) : '/' ∈ cs := by
  obtain ⟨c, mem, lowers⟩ := lowers_of_mem_lowerFrom mem
  rwa [← lowers.slash.1 rfl]

/-- The text starts with a blank. -/
def startsBlank (cs : List Char) : Bool := cs.head?.any isBlank

/-- The text ends with a blank. -/
def endsBlank (cs : List Char) : Bool := cs.getLast?.any isBlank

theorem startsBlank_lowerCase (cs : List Char) : startsBlank (lowerCase cs) = startsBlank cs := by
  cases cs with
  | nil => rfl
  | cons c rest =>
    rw [lowerCase, lowerFrom]
    cases form : lowerAt [] c rest with
    | nil => exact absurd form (lowerAt_ne_nil _ _ _)
    | cons small more =>
      have mem : small ∈ lowerAt [] c rest := form ▸ List.mem_cons_self
      exact (lowers_of_mem_lowerAt mem).blank

theorem endsBlank_lowerFrom (before cs : List Char) :
    endsBlank (lowerFrom before cs) = endsBlank cs := by
  induction cs generalizing before with
  | nil => rfl
  | cons c rest ih =>
    have last := ih (c :: before)
    unfold endsBlank at last ⊢
    rw [lowerFrom, List.getLast?_append, List.getLast?_cons]
    cases rest with
    | nil =>
      obtain ⟨small, form⟩ : ∃ small, (lowerAt before c []).getLast? = some small :=
        Option.ne_none_iff_exists'.1 fun none =>
          lowerAt_ne_nil _ _ _ (List.getLast?_eq_none_iff.1 none)
      have lowers : Lowers c small := lowers_of_mem_lowerAt (List.mem_of_getLast? form)
      rw [lowerFrom, form]
      exact lowers.blank
    | cons next rest =>
      obtain ⟨small, form⟩ :
          ∃ small, (lowerFrom (c :: before) (next :: rest)).getLast? = some small := by
        refine Option.ne_none_iff_exists'.1 fun none => ?_
        have nil := List.getLast?_eq_none_iff.1 none
        rw [lowerFrom, List.append_eq_nil_iff] at nil
        exact lowerAt_ne_nil _ _ _ nil.1
      rw [form, Option.some_or, ← form, last, List.getLast?_cons]
      rfl

theorem endsBlank_lowerCase (cs : List Char) : endsBlank (lowerCase cs) = endsBlank cs :=
  endsBlank_lowerFrom [] cs

end Messenger.Text
