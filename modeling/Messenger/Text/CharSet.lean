/-
Sets of characters given as a list of closed intervals of code points.

A property of the Unicode character database is a finite set, and it is published as intervals.
`CharSet` keeps that form, so a table module is the published table and nothing else, and
membership is one function for all of them.
-/

namespace Messenger.Text

/-- A set of characters, as closed intervals of code points. -/
abbrev CharSet := List (Nat × Nat)

def CharSet.has (set : CharSet) (c : Char) : Bool :=
  set.any fun interval => interval.1 ≤ c.toNat && c.toNat ≤ interval.2

theorem CharSet.has_eq_true_iff {set : CharSet} {c : Char} :
    set.has c = true ↔ ∃ interval ∈ set, interval.1 ≤ c.toNat ∧ c.toNat ≤ interval.2 := by
  simp [CharSet.has]

end Messenger.Text
