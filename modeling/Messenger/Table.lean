/-
Tables: rows under distinct keys, in ascending order of the key.

The order is part of the type, so a table has one representation: two tables with the same
look-ups are equal, and listing a table needs no sorting.  `get?_put` and
`get?_erase` say what the two changes do to the look-ups, and nothing else needs to be known
about them.
-/

namespace Messenger

/-- Rows under distinct keys, ascending. -/
structure Table (κ : Type u) (ν : Type v) [Ord κ] where
  rows : List (κ × ν)
  ascending : rows.Pairwise fun a b => compare a.1 b.1 = .lt

namespace Table

variable {κ : Type u} {ν : Type v} [Ord κ]

/-- Puts a row in its place, over the one that had the key. -/
def putRow (key : κ) (value : ν) : List (κ × ν) → List (κ × ν)
  | [] => [(key, value)]
  | row :: rest =>
    match compare key row.1 with
    | .lt => (key, value) :: row :: rest
    | .eq => (key, value) :: rest
    | .gt => row :: putRow key value rest

/-- Leaves out the row with the key. -/
def eraseRow (key : κ) (rows : List (κ × ν)) : List (κ × ν) :=
  rows.filter fun row => compare key row.1 != .eq

def findRow? (key : κ) : List (κ × ν) → Option ν
  | [] => none
  | row :: rest => if compare key row.1 = .eq then some row.2 else findRow? key rest

theorem mem_putRow {key : κ} {value : ν} {rows : List (κ × ν)} {row : κ × ν}
    (h : row ∈ putRow key value rows) : row = (key, value) ∨ row ∈ rows := by
  fun_induction putRow key value rows <;> grind

theorem pairwise_putRow [Std.TransOrd κ] [Std.LawfulEqOrd κ] (key : κ) (value : ν)
    {rows : List (κ × ν)} (h : rows.Pairwise fun a b => compare a.1 b.1 = .lt) :
    (putRow key value rows).Pairwise fun a b => compare a.1 b.1 = .lt := by
  fun_induction putRow key value rows with
  | case1 => simp
  | case2 row rest lt =>
    refine List.pairwise_cons.2 ⟨fun other mem => ?_, h⟩
    rcases List.mem_cons.1 mem with rfl | mem
    · exact lt
    · exact Std.TransCmp.lt_trans lt ((List.pairwise_cons.1 h).1 _ mem)
  | case3 row rest eq =>
    have same : key = row.1 := Std.LawfulEqCmp.eq_of_compare eq
    exact List.pairwise_cons.2
      ⟨fun other mem => same ▸ (List.pairwise_cons.1 h).1 _ mem, (List.pairwise_cons.1 h).2⟩
  | case4 row rest gt ih =>
    refine List.pairwise_cons.2 ⟨fun other mem => ?_, ih (List.pairwise_cons.1 h).2⟩
    rcases mem_putRow mem with rfl | mem
    · exact Std.OrientedCmp.lt_of_gt gt
    · exact (List.pairwise_cons.1 h).1 _ mem

/-- The table without rows. -/
def empty : Table κ ν := ⟨[], .nil⟩

instance : EmptyCollection (Table κ ν) := ⟨empty⟩

instance : Inhabited (Table κ ν) := ⟨empty⟩

def get? (table : Table κ ν) (key : κ) : Option ν := findRow? key table.rows

/-- Writes the row of a key. -/
def put [Std.TransOrd κ] [Std.LawfulEqOrd κ] (table : Table κ ν) (key : κ) (value : ν) : Table κ ν :=
  ⟨putRow key value table.rows, pairwise_putRow key value table.ascending⟩

def erase (table : Table κ ν) (key : κ) : Table κ ν :=
  ⟨eraseRow key table.rows, table.ascending.sublist List.filter_sublist⟩

def has (table : Table κ ν) (key : κ) : Bool := (table.get? key).isSome

theorem findRow?_putRow [Std.TransOrd κ] [Std.LawfulEqOrd κ] [DecidableEq κ] (key other : κ)
    (value : ν) (rows : List (κ × ν)) :
    findRow? other (putRow key value rows) =
      if other = key then some value else findRow? other rows := by
  have eq_iff : ∀ a b : κ, compare a b = .eq ↔ a = b := fun _ _ => Std.LawfulEqCmp.compare_eq_iff_eq
  fun_induction putRow key value rows with
  | case1 => simp [findRow?, eq_iff]
  | case2 row rest lt => simp [findRow?, eq_iff]
  | case3 row rest eq =>
    have same : key = row.1 := (eq_iff _ _).1 eq
    by_cases h : other = key <;> simp_all [findRow?]
  | case4 row rest gt ih =>
    have differ : key ≠ row.1 := fun same => by simp [(eq_iff _ _).2 same] at gt
    by_cases h : other = row.1 <;> simp_all [findRow?]
    exact fun same => absurd same.symm differ

theorem findRow?_eraseRow [Std.LawfulEqOrd κ] [DecidableEq κ] (key other : κ)
    (rows : List (κ × ν)) :
    findRow? other (eraseRow key rows) = if other = key then none else findRow? other rows := by
  have eq_iff : ∀ a b : κ, compare a b = .eq ↔ a = b := fun _ _ => Std.LawfulEqCmp.compare_eq_iff_eq
  induction rows with
  | nil => simp [eraseRow, findRow?]
  | cons row rest ih =>
    by_cases same : key = row.1 <;> by_cases h : other = row.1 <;>
      (simp_all [eraseRow, findRow?]; try grind)

/-- A written row is found, and every other look-up is as before. -/
@[simp] theorem get?_put [Std.TransOrd κ] [Std.LawfulEqOrd κ] [DecidableEq κ] (table : Table κ ν)
    (key other : κ) (value : ν) :
    (table.put key value).get? other = if other = key then some value else table.get? other :=
  findRow?_putRow key other value table.rows

/-- A removed row is not found, and every other look-up is as before. -/
@[simp] theorem get?_erase [Std.LawfulEqOrd κ] [DecidableEq κ] (table : Table κ ν) (key other : κ) :
    (table.erase key).get? other = if other = key then none else table.get? other :=
  findRow?_eraseRow key other table.rows

@[simp] theorem get?_empty (key : κ) : (∅ : Table κ ν).get? key = none := rfl

/-- The values in the order of their keys. -/
def values (table : Table κ ν) : List ν := table.rows.map (·.2)

/-- The keys, ascending. -/
def keys (table : Table κ ν) : List κ := table.rows.map (·.1)

def size (table : Table κ ν) : Nat := table.rows.length

end Table

end Messenger
