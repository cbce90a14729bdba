/-
Cutting a list into consecutive batches.

`batches n xs` cuts `xs` into runs of `n` elements; only the last may be shorter, and none is
empty.  A batch size of zero cuts into single elements.
-/

namespace Messenger

/-- Consecutive runs of `max 1 n` elements, the last one possibly shorter. -/
def batches (n : Nat) (xs : List α) : List (List α) :=
  if xs.isEmpty then []
  else xs.take (max 1 n) :: batches n (xs.drop (max 1 n))
termination_by xs.length
decreasing_by
  simp_all [List.isEmpty_iff]
  have := List.length_pos_iff.2 ‹xs ≠ []›
  omega

@[simp] theorem batches_nil (n : Nat) : batches n ([] : List α) = [] := by
  rw [batches]; rfl

theorem flatten_batches (n : Nat) (xs : List α) : (batches n xs).flatten = xs := by
  fun_induction batches n xs with
  | case1 xs h => simp_all
  | case2 xs _ ih => simp [ih]

theorem batches_eq_nil_iff {n : Nat} {xs : List α} : batches n xs = [] ↔ xs = [] := by
  constructor
  · intro none
    rw [← flatten_batches n xs, none, List.flatten_nil]
  · rintro rfl
    exact batches_nil n

theorem length_of_mem_batches {n : Nat} {xs batch : List α} (mem : batch ∈ batches n xs) :
    0 < batch.length ∧ batch.length ≤ max 1 n := by
  fun_induction batches n xs with
  | case1 xs h => cases mem
  | case2 xs some ih =>
    rcases List.mem_cons.1 mem with rfl | mem
    · have nonempty : 0 < xs.length := List.length_pos_iff.2 (by simpa using some)
      rw [List.length_take]
      omega
    · exact ih mem

/-- Only the last batch may be shorter. -/
theorem length_of_mem_dropLast_batches {n : Nat} {xs batch : List α}
    (mem : batch ∈ (batches n xs).dropLast) : batch.length = max 1 n := by
  fun_induction batches n xs with
  | case1 xs h => cases mem
  | case2 xs some ih =>
    cases rest : xs.drop (max 1 n) with
    | nil =>
      rw [rest, batches_nil] at mem
      cases mem
    | cons x more =>
      -- Something is left after this batch, so it is not the last one, and it is full.
      have further : batches n (xs.drop (max 1 n)) ≠ [] := by
        rw [Ne, batches_eq_nil_iff, rest]
        exact List.cons_ne_nil x more
      rw [List.dropLast_cons_of_ne_nil further] at mem
      rcases List.mem_cons.1 mem with rfl | mem
      · have longer := congrArg List.length rest
        rw [List.length_drop, List.length_cons] at longer
        rw [List.length_take]
        omega
      · exact ih mem

end Messenger
