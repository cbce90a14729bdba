/-
# Reading an identity back

An identity is made by trimming, cutting at the first slash and lower case, in this order.  What it
is made of

    has no slash and starts with no blank
    ends with a blank just if there is one right before the first slash    (`BlankBeforeSlash`)

and that last blank, which the cut brings to the end, is all that a second reading finds to do: it
trims (`normal_normal`).  So an identity that is read back is the same one unless it ends with a blank,
and reading twice is enough always (`of_text`).
-/
import Mathlib.Data.List.TakeWhile
import Messenger.Identity
import Messenger.Proofs.Text.LowerCase

namespace Messenger

namespace Text

variable {cs : List Char}

/-! ## Trimming -/

theorem dropWhile_of_not_startsBlank (plain : startsBlank cs = false) : cs.dropWhile isBlank = cs := by
  cases cs with
  | nil => rfl
  | cons c rest => exact List.dropWhile_cons_of_neg (Bool.eq_false_iff.1 plain)

theorem startsBlank_dropWhile : startsBlank (cs.dropWhile isBlank) = false := by
  unfold startsBlank
  cases first : (cs.dropWhile isBlank).head? with
  | none => rfl
  | some c => exact isBlank_of_head?_dropWhile first

theorem startsBlank_reverse : startsBlank cs.reverse = endsBlank cs := by
  rw [startsBlank, List.head?_reverse, endsBlank]

theorem trimEnd_of_not_endsBlank (plain : endsBlank cs = false) : trimEnd cs = cs := by
  rw [trimEnd, dropWhile_of_not_startsBlank (startsBlank_reverse.trans plain), List.reverse_reverse]

theorem initial_trimEnd : trimEnd cs <+: cs := by
  have final : cs.reverse.dropWhile isBlank <:+ cs.reverse := List.dropWhile_suffix isBlank
  rwa [← List.reverse_prefix, List.reverse_reverse] at final

theorem startsBlank_of_initial {more : List Char} (before : cs <+: more)
    (plain : startsBlank more = false) : startsBlank cs = false := by
  obtain ⟨rest, rfl⟩ := before
  cases cs with
  | nil => rfl
  | cons c rest => exact plain

theorem startsBlank_trim : startsBlank (trim cs) = false :=
  startsBlank_of_initial initial_trimEnd startsBlank_dropWhile

theorem endsBlank_trim : endsBlank (trim cs) = false := by
  unfold endsBlank
  cases last : (trim cs).getLast? with
  | none => rfl
  | some c => exact isBlank_of_getLast?_trim last

/-- There is nothing to trim just if there is no blank at either end. -/
theorem trim_eq_self : trim cs = cs ↔ startsBlank cs = false ∧ endsBlank cs = false := by
  constructor
  · intro same
    rw [← same]
    exact ⟨startsBlank_trim, endsBlank_trim⟩
  · rintro ⟨starts, ends⟩
    rw [trim, dropWhile_of_not_startsBlank starts, trimEnd_of_not_endsBlank ends]

theorem trim_trim : trim (trim cs) = trim cs := trim_eq_self.2 ⟨startsBlank_trim, endsBlank_trim⟩

theorem mem_of_mem_trim {c : Char} (mem : c ∈ trim cs) : c ∈ cs :=
  (List.dropWhile_sublist isBlank).subset (initial_trimEnd.subset mem)

end Text

namespace Identity

open Text

/-! ## The cut -/

theorem slash_not_mem_bare (cs : List Char) : '/' ∉ bare cs := by
  intro mem
  have kept := List.mem_takeWhile_imp mem
  exact absurd kept (by decide)

theorem bare_of_no_slash {cs : List Char} (none : '/' ∉ cs) : bare cs = cs := by
  refine List.takeWhile_eq_self_iff.2 fun c mem => decide_eq_true ?_
  rintro rfl
  exact none mem

/-- After trimming, there is a blank right before the first slash. -/
def BlankBeforeSlash (raw : String) : Prop :=
  ∃ before c rest, trim raw.toList = before ++ c :: '/' :: rest ∧ '/' ∉ before ∧ isBlank c = true

theorem endsBlank_bare (raw : String) :
    endsBlank (bare (trim raw.toList)) = true ↔ BlankBeforeSlash raw := by
  have split : bare (trim raw.toList) ++ (trim raw.toList).dropWhile (· ≠ '/') = trim raw.toList :=
    List.takeWhile_append_dropWhile
  constructor
  · intro ends
    obtain ⟨c, last, blank⟩ := (Option.any_eq_true _ _).1 ends
    obtain ⟨before, eq⟩ := List.getLast?_eq_some_iff.1 last
    cases dropped : (trim raw.toList).dropWhile (· ≠ '/') with
    | nil =>
      rw [dropped, List.append_nil] at split
      rw [split, endsBlank_trim] at ends
      cases ends
    | cons first rest =>
      have slash : first = '/' := by
        have stops := List.head?_dropWhile_not (· ≠ '/') (trim raw.toList)
        rw [dropped] at stops
        simpa using stops
      refine ⟨before, c, rest, ?_, fun mem => ?_, blank⟩
      · rw [← split, dropped, slash, eq, List.append_assoc, List.singleton_append]
      · exact slash_not_mem_bare _ (eq ▸ List.mem_append_left _ mem)
  · rintro ⟨before, c, rest, eq, none, blank⟩
    have no_slash : c ≠ '/' := by
      rintro rfl
      exact absurd blank (by decide)
    have kept : ∀ other ∈ before ++ [c], decide (other ≠ '/') = true := by
      intro other mem
      refine decide_eq_true ?_
      rintro rfl
      rcases List.mem_append.1 mem with mem | mem
      · exact none mem
      · exact no_slash (List.mem_singleton.1 mem).symm
    have cut : bare (trim raw.toList) = before ++ [c] := by
      rw [eq, ← List.singleton_append, ← List.append_assoc, bare, List.takeWhile_append_of_pos kept,
        List.takeWhile_cons_of_neg (by decide), List.append_nil]
    rw [cut, endsBlank, List.getLast?_append]
    exact blank

/-! ## Reading twice -/

theorem slash_not_mem_normal (raw : List Char) : '/' ∉ normal raw :=
  fun mem => slash_not_mem_bare _ (slash_of_lowerCase mem)

theorem startsBlank_normal (raw : List Char) : startsBlank (normal raw) = false := by
  have initial : bare (trim raw) <+: trim raw := List.takeWhile_prefix _
  rw [normal, startsBlank_lowerCase]
  exact startsBlank_of_initial initial startsBlank_trim

/-- The second reading has blanks to trim, and nothing else to do. -/
theorem normal_normal (raw : List Char) : normal (normal raw) = trim (normal raw) := by
  have no_slash : '/' ∉ trim (normal raw) := fun mem => slash_not_mem_normal raw (mem_of_mem_trim mem)
  have settled : ∀ c ∈ trim (normal raw), Settled c := fun c mem =>
    settled_lowerCase c (mem_of_mem_trim mem)
  rw [normal, bare_of_no_slash no_slash, lowerCase_of_settled settled]

theorem toList_of (raw : String) : (of raw).text.toList = normal raw.toList := String.toList_ofList

/-- The text of an identity has no slash and starts with no blank.  It ends with one just if the
address had one right before its first slash; if not, it denotes the same identity again.  In any case
reading it again trims it, and after that it stays as it is. -/
theorem of_text (raw : String) :
    let stored := of raw
    '/' ∉ stored.text.toList ∧ startsBlank stored.text.toList = false ∧
    (endsBlank stored.text.toList = true ↔ BlankBeforeSlash raw) ∧
    (of stored.text = stored ↔ ¬BlankBeforeSlash raw) ∧
    (of stored.text).text.toList = trim stored.text.toList ∧
    of (of stored.text).text = of stored.text := by
  intro stored
  have text : stored.text.toList = normal raw.toList := toList_of raw
  have again : (of stored.text).text.toList = trim (normal raw.toList) := by
    rw [toList_of, text, normal_normal]
  have ends : endsBlank (normal raw.toList) = true ↔ BlankBeforeSlash raw := by
    rw [normal, endsBlank_lowerCase, endsBlank_bare]
  have eq_iff (one two : Identity) : one = two ↔ one.text.toList = two.text.toList := by
    rw [String.toList_inj, Identity.mk.injEq]
  rw [eq_iff, eq_iff, toList_of (of stored.text).text, again, text, ← normal_normal]
  refine ⟨slash_not_mem_normal _, startsBlank_normal _, ends, ?_, rfl, ?_⟩
  · rw [normal_normal, trim_eq_self, ← ends, Bool.not_eq_true]
    exact and_iff_right (startsBlank_normal _)
  · rw [normal_normal, normal_normal, trim_trim]

/-- A blank before the slash stays, and is lost when the identity is read back. -/
example : (of "a /b").text = "a " ∧ of "a " = ⟨"a"⟩ := by decide

end Identity

end Messenger
