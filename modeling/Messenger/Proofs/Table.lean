/-
# What a table lists

`get?_put` and `get?_erase` say what the two changes do to the look-ups.  Here is what they do to
the listing.  The three cases that occur are

    put a key above all others        values ++ [value]               (`rows_put_of_above`)
    put over the row of a key         that row replaced in its place  (`rows_put_of_get?`)
    erase                             that row left out               (`rows_erase`)

and a look-up finds exactly what the listing holds (`get?_eq_some_iff`), so two tables with the same
look-ups are equal (`ext_get?`).  Most tables are
`KeyedBy` something that their values say about themselves, such as the number of a message; then
the same three facts hold of the values alone.
-/
import Messenger.Table

namespace Messenger.Table

variable {κ : Type u} {ν : Type v} [Ord κ] [Std.TransOrd κ] [Std.LawfulEqOrd κ]

/-! ## Look-ups and rows -/

omit [Std.LawfulEqOrd κ] in
theorem ne_of_compare_lt {a b : κ} (lt : compare a b = .lt) : a ≠ b := by
  rintro rfl
  have self : compare a a = .eq := Std.ReflCmp.compare_self
  rw [self] at lt
  cases lt

theorem findRow?_eq_some_iff {key : κ} {value : ν} {rows : List (κ × ν)}
    (ascending : rows.Pairwise fun a b => compare a.1 b.1 = .lt) :
    findRow? key rows = some value ↔ (key, value) ∈ rows := by
  induction rows with
  | nil => simp [findRow?]
  | cons row rest ih =>
    obtain ⟨first, later⟩ := List.pairwise_cons.1 ascending
    by_cases same : compare key row.1 = .eq
    · have same : key = row.1 := Std.LawfulEqCmp.eq_of_compare same
      have absent : (key, value) ∉ rest := fun mem =>
        ne_of_compare_lt (first _ mem) same.symm
      simp only [findRow?, same, Std.ReflCmp.compare_self, if_true, Option.some.injEq,
        List.mem_cons]
      rw [← same]
      constructor
      · intro eq
        exact Or.inl (Prod.ext same eq.symm)
      · rintro (eq | mem)
        · rw [← eq]
        · exact absurd mem absent
    · have differ : (key, value) ≠ row := by
        rintro rfl
        exact same Std.ReflCmp.compare_self
      simp only [findRow?, if_neg same, List.mem_cons, differ, false_or]
      exact ih later

theorem get?_eq_some_iff {table : Table κ ν} {key : κ} {value : ν} :
    table.get? key = some value ↔ (key, value) ∈ table.rows :=
  findRow?_eq_some_iff table.ascending

theorem ext_get? {one two : Table κ ν} (same : ∀ key, one.get? key = two.get? key) : one = two := by
  have nodup (table : Table κ ν) : table.rows.Nodup :=
    table.ascending.imp fun lt eq => ne_of_compare_lt lt (congrArg Prod.fst eq)
  have perm : one.rows.Perm two.rows := by
    refine (List.perm_ext_iff_of_nodup (nodup one) (nodup two)).2 fun ⟨key, value⟩ => ?_
    rw [← get?_eq_some_iff, ← get?_eq_some_iff, same]
  have rows : one.rows = two.rows := by
    refine perm.eq_of_pairwise (fun a b _ _ lt gt => ?_) one.ascending two.ascending
    cases (Std.OrientedCmp.gt_of_lt lt).symm.trans gt
  cases one
  cases two
  cases rows
  rfl

theorem put_put [DecidableEq κ] (table : Table κ ν) (key : κ) (old value : ν) :
    (table.put key old).put key value = table.put key value := by
  refine ext_get? fun other => ?_
  rw [get?_put, get?_put, get?_put]
  split <;> rfl

theorem mem_values {table : Table κ ν} {value : ν} :
    value ∈ table.values ↔ ∃ key, table.get? key = some value := by
  simp [values, get?_eq_some_iff]

theorem mem_keys {table : Table κ ν} {key : κ} :
    key ∈ table.keys ↔ ∃ value, table.get? key = some value := by
  simp [keys, get?_eq_some_iff]

omit [Std.TransOrd κ] [Std.LawfulEqOrd κ] in
theorem has_iff {table : Table κ ν} {key : κ} :
    table.has key = true ↔ ∃ value, table.get? key = some value := by
  simp [has, Option.isSome_iff_exists]

/-! ## What the changes do to the rows -/

omit [Std.TransOrd κ] [Std.LawfulEqOrd κ] in
theorem rows_erase (table : Table κ ν) (key : κ) :
    (table.erase key).rows = table.rows.filter fun row => compare key row.1 != .eq := rfl

omit [Std.LawfulEqOrd κ] in
theorem putRow_of_above {key : κ} {value : ν} {rows : List (κ × ν)}
    (above : ∀ row ∈ rows, compare row.1 key = .lt) :
    putRow key value rows = rows ++ [(key, value)] := by
  induction rows with
  | nil => rfl
  | cons row rest ih =>
    have gt : compare key row.1 = .gt :=
      Std.OrientedCmp.gt_of_lt (above row List.mem_cons_self)
    simp only [putRow, gt, List.cons_append]
    rw [ih fun other mem => above other (List.mem_cons_of_mem _ mem)]

/-- A key above all others takes the last place. -/
theorem rows_put_of_above {table : Table κ ν} {key : κ} (value : ν)
    (above : ∀ row ∈ table.rows, compare row.1 key = .lt) :
    (table.put key value).rows = table.rows ++ [(key, value)] :=
  putRow_of_above above

theorem putRow_of_mem [DecidableEq κ] {key : κ} {old : ν} (value : ν) {rows : List (κ × ν)}
    (ascending : rows.Pairwise fun a b => compare a.1 b.1 = .lt) (mem : (key, old) ∈ rows) :
    putRow key value rows = rows.map fun row => if row.1 = key then (key, value) else row := by
  induction rows with
  | nil => cases mem
  | cons row rest ih =>
    obtain ⟨first, later⟩ := List.pairwise_cons.1 ascending
    rcases List.mem_cons.1 mem with rfl | mem
    · have others : ∀ row ∈ rest, (if row.1 = key then (key, value) else row) = row := by
        intro row mem
        exact if_neg fun same => ne_of_compare_lt (first row mem) same.symm
      simp only [putRow, Std.ReflCmp.compare_self, List.map_cons, if_true]
      rw [List.map_congr_left others, List.map_id']
    · have lt : compare row.1 key = .lt := first _ mem
      have differ : row.1 ≠ key := ne_of_compare_lt lt
      simp only [putRow, Std.OrientedCmp.gt_of_lt lt, List.map_cons, if_neg differ]
      rw [ih later mem]

theorem rows_put_of_get? [DecidableEq κ] {table : Table κ ν} {key : κ} {old : ν} (value : ν)
    (found : table.get? key = some old) :
    (table.put key value).rows = table.rows.map fun row => if row.1 = key then (key, value) else row :=
  putRow_of_mem value table.ascending (get?_eq_some_iff.1 found)

/-! ## Values that know their keys -/

/-- Every value says itself under which key it stands. -/
structure KeyedBy (keyOf : ν → κ) (table : Table κ ν) : Prop where
  key_eq : ∀ {key : κ} {value : ν}, table.get? key = some value → keyOf value = key

namespace KeyedBy

variable {keyOf : ν → κ} {table : Table κ ν}

omit [Std.TransOrd κ] [Std.LawfulEqOrd κ] in
theorem empty : KeyedBy keyOf (∅ : Table κ ν) := ⟨fun found => nomatch found⟩

theorem put [DecidableEq κ] (keyed : KeyedBy keyOf table) {key : κ} {value : ν}
    (own : keyOf value = key) : KeyedBy keyOf (table.put key value) := by
  refine ⟨fun {other found} eq => ?_⟩
  rw [get?_put] at eq
  split at eq
  case isTrue same =>
    cases eq
    exact own.trans same.symm
  case isFalse => exact keyed.key_eq eq

omit [Std.TransOrd κ] in
theorem erase [DecidableEq κ] (keyed : KeyedBy keyOf table) (key : κ) :
    KeyedBy keyOf (table.erase key) := by
  refine ⟨fun {other found} eq => ?_⟩
  rw [get?_erase] at eq
  split at eq
  · cases eq
  · exact keyed.key_eq eq

theorem mem_values_iff (keyed : KeyedBy keyOf table) {value : ν} :
    value ∈ table.values ↔ table.get? (keyOf value) = some value := by
  rw [mem_values]
  constructor
  · rintro ⟨key, found⟩
    rw [keyed.key_eq found, found]
  · intro found
    exact ⟨_, found⟩

theorem rows_eq (keyed : KeyedBy keyOf table) :
    table.rows = table.values.map fun value => (keyOf value, value) := by
  have own : ∀ row ∈ table.rows, (keyOf row.2, row.2) = row := fun row mem =>
    Prod.ext (keyed.key_eq (get?_eq_some_iff.2 mem)) rfl
  simp only [values, List.map_map]
  exact (List.map_id' _).symm.trans (List.map_congr_left fun row mem => (own row mem).symm)

theorem values_ascending (keyed : KeyedBy keyOf table) :
    table.values.Pairwise fun a b => compare (keyOf a) (keyOf b) = .lt := by
  have ascending := table.ascending
  rw [keyed.rows_eq, List.pairwise_map] at ascending
  exact ascending

theorem keys_nodup (keyed : KeyedBy keyOf table) : (table.values.map keyOf).Nodup :=
  List.pairwise_map.2 (keyed.values_ascending.imp ne_of_compare_lt)

theorem values_put_of_get? [DecidableEq κ] (keyed : KeyedBy keyOf table) {value old : ν}
    (found : table.get? (keyOf value) = some old) :
    (table.put (keyOf value) value).values =
      table.values.map fun other => if keyOf other = keyOf value then value else other := by
  have rows := rows_put_of_get? value found
  rw [values, rows, keyed.rows_eq]
  simp only [List.map_map]
  refine List.map_congr_left fun other _ => ?_
  simp only [Function.comp_apply]
  split <;> rfl

theorem values_erase [DecidableEq κ] (keyed : KeyedBy keyOf table) (key : κ) :
    (table.erase key).values = table.values.filter fun value => keyOf value ≠ key := by
  have eq_iff (a b : κ) : compare a b = .eq ↔ a = b := Std.LawfulEqCmp.compare_eq_iff_eq
  rw [values, rows_erase, keyed.rows_eq, List.filter_map, List.map_map]
  simp only [Function.comp_def, List.map_id']
  refine List.filter_congr fun value _ => ?_
  by_cases same : key = keyOf value
  · simp [same]
  · have differ : keyOf value ≠ key := fun eq => same eq.symm
    simp [differ, eq_iff, same]

end KeyedBy

end Messenger.Table
