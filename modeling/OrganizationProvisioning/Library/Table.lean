/-
**Tables with a primary key.**

A `Table key` is a list of rows no two of which share a key: the primary key is a field of the
type, so a table that breaks it cannot be built.

* `find` — the row under a key; `insert` — append a row whose key is new; `update`, `modify` —
  rewrite every row, or the row under a key, by a function that keeps the key.
* `find_insert`, `find_update`, `find_modify` — what a lookup reads after a write.
* `filter_insert`, `filter_update` — what a selection reads after a write.
* `orderBy` — `ORDER BY`, as an insertion sort; a selection already in order is its own sort, and every sort
  is in order.
-/
import Mathlib.Data.List.Find
import Mathlib.Data.List.Nodup
import Mathlib.Data.List.Sort

set_option linter.unusedSectionVars false

namespace Relational

/-- Rows in insertion order, no two of them under the same key. -/
@[ext]
structure Table {Row Key : Type} (key : Row → Key) where
  rows : List Row
  unique : (rows.map key).Nodup

namespace Table

variable {Row Key : Type} [DecidableEq Key] {key : Row → Key}

/-- The table without rows. -/
def empty : Table key := ⟨[], List.nodup_nil⟩

/-- The row under a key. -/
def find (table : Table key) (wanted : Key) : Option Row :=
  table.rows.find? fun row => key row = wanted

/-- Append a row; a row whose key is taken changes nothing. -/
def insert (table : Table key) (row : Row) : Table key :=
  if taken : key row ∈ table.rows.map key then table else
    ⟨table.rows ++ [row], by
      rw [List.map_append, List.map_singleton, List.nodup_append']
      exact ⟨table.unique, List.nodup_singleton _, List.disjoint_singleton.mpr taken⟩⟩

/-- Rewrite every row. -/
def update (table : Table key) (change : Row → Row) (keeps : ∀ row, key (change row) = key row) :
    Table key :=
  ⟨table.rows.map change, by
    have same : (table.rows.map change).map key = table.rows.map key := by
      rw [List.map_map]
      exact List.map_congr_left fun row _ => keeps row
    rw [same]
    exact table.unique⟩

/-- Rewrite the row under a key. -/
def modify (table : Table key) (wanted : Key) (change : Row → Row)
    (keeps : ∀ row, key (change row) = key row) : Table key :=
  table.update (fun row => if key row = wanted then change row else row) fun row => by
    split
    · exact keeps row
    · rfl

/-! ### Lookups -/

theorem find_eq_some {table : Table key} {wanted : Key} {row : Row} :
    table.find wanted = some row ↔ row ∈ table.rows ∧ key row = wanted := by
  constructor
  · intro found
    exact ⟨List.mem_of_find?_eq_some found, by simpa using List.find?_some found⟩
  · rintro ⟨member, rfl⟩
    cases found : table.find (key row) with
    | none =>
      have differs := List.find?_eq_none.mp found row member
      simp at differs
    | some other =>
      have same : key other = key row := by simpa using List.find?_some found
      rw [List.inj_on_of_nodup_map table.unique (List.mem_of_find?_eq_some found) member same]

theorem find_eq_none {table : Table key} {wanted : Key} :
    table.find wanted = none ↔ ∀ row ∈ table.rows, key row ≠ wanted := by
  unfold find
  rw [List.find?_eq_none]
  simp

theorem find_of_mem {table : Table key} {row : Row} (member : row ∈ table.rows) :
    table.find (key row) = some row :=
  find_eq_some.mpr ⟨member, rfl⟩

theorem mem_of_find {table : Table key} {wanted : Key} {row : Row}
    (found : table.find wanted = some row) : row ∈ table.rows :=
  (find_eq_some.mp found).1

theorem key_of_find {table : Table key} {wanted : Key} {row : Row}
    (found : table.find wanted = some row) : key row = wanted :=
  (find_eq_some.mp found).2

/-- Two rows of a table under the same key are the same row. -/
theorem eq_of_key {table : Table key} {first second : Row} (one : first ∈ table.rows)
    (two : second ∈ table.rows) (same : key first = key second) : first = second :=
  List.inj_on_of_nodup_map table.unique one two same

@[simp] theorem find_empty (wanted : Key) : (empty : Table key).find wanted = none := rfl

@[simp] theorem rows_empty : (empty : Table key).rows = [] := rfl

/-! ### Insertion -/

theorem taken_iff {table : Table key} {wanted : Key} :
    wanted ∈ table.rows.map key ↔ (table.find wanted).isSome := by
  rw [List.mem_map]
  constructor
  · rintro ⟨row, member, rfl⟩
    rw [find_of_mem member]
    rfl
  · intro present
    obtain ⟨row, found⟩ := Option.isSome_iff_exists.mp present
    exact ⟨row, mem_of_find found, key_of_find found⟩

theorem rows_insert {table : Table key} {row : Row} (fresh : table.find (key row) = none) :
    (table.insert row).rows = table.rows ++ [row] := by
  unfold insert
  rw [dif_neg]
  rw [taken_iff, fresh]
  simp

theorem insert_taken {table : Table key} {row : Row} (taken : (table.find (key row)).isSome) :
    table.insert row = table := by
  unfold insert
  rw [dif_pos (taken_iff.mpr taken)]

theorem find_insert (table : Table key) (row : Row) (wanted : Key) :
    (table.insert row).find wanted =
      (table.find wanted).or (if key row = wanted then some row else none) := by
  cases taken : table.find (key row) with
  | some other =>
    rw [insert_taken (by rw [taken]; rfl)]
    by_cases same : key row = wanted
    · subst same
      rw [taken]
      rfl
    · rw [if_neg same, Option.or_none]
  | none =>
    unfold find
    rw [rows_insert taken, List.find?_append]
    congr 1
    by_cases same : key row = wanted <;> simp [same]

/-! ### Rewriting -/

section Update

variable {table : Table key} {change : Row → Row} {keeps : ∀ row, key (change row) = key row}

theorem rows_update : (table.update change keeps).rows = table.rows.map change := rfl

theorem find_update (wanted : Key) :
    (table.update change keeps).find wanted = (table.find wanted).map change := by
  unfold find
  rw [rows_update, List.find?_map]
  have same : ((fun row => decide (key row = wanted)) ∘ change) =
      fun row => decide (key row = wanted) := by
    funext row
    rw [Function.comp_apply, keeps]
  rw [same]

/-- Tables are rewritten alike by changes that agree on their rows. -/
theorem update_congr {other : Row → Row} {keepsOther : ∀ row, key (other row) = key row}
    (agree : ∀ row ∈ table.rows, change row = other row) :
    table.update change keeps = table.update other keepsOther :=
  Table.ext (List.map_congr_left agree)

/-- A change that leaves every row alone leaves the table. -/
theorem update_same (same : ∀ row ∈ table.rows, change row = row) :
    table.update change keeps = table := by
  apply Table.ext
  rw [rows_update]
  conv_rhs => rw [← List.map_id table.rows]
  exact List.map_congr_left same

/-- A selection on columns that the change keeps selects the changed rows. -/
theorem filter_update (selected : Row → Bool)
    (stable : ∀ row, selected (change row) = selected row) :
    (table.update change keeps).rows.filter selected =
      (table.rows.filter selected).map change := by
  rw [rows_update, List.filter_map]
  congr 1
  refine List.filter_congr fun row _ => ?_
  rw [Function.comp_apply, stable]

end Update

section Modify

variable {table : Table key} {wanted : Key} {change : Row → Row}
  {keeps : ∀ row, key (change row) = key row}

theorem find_modify (other : Key) : (table.modify wanted change keeps).find other =
    if other = wanted then (table.find other).map change else table.find other := by
  unfold modify
  rw [find_update]
  cases found : table.find other with
  | none => simp
  | some row =>
    rw [Option.map_some, key_of_find found]
    split <;> rfl

/-- Modifying a key that no row has changes nothing. -/
theorem modify_absent (absent : table.find wanted = none) :
    table.modify wanted change keeps = table := by
  refine update_same fun row member => ?_
  rw [if_neg (find_eq_none.mp absent row member)]

/-- A selection that the modified row falls out of selects the others. -/
theorem filter_modify {selected selected' : Row → Bool}
    (off : ∀ row ∈ table.rows, key row = wanted → selected' (change row) = false)
    (same : ∀ row ∈ table.rows, key row ≠ wanted → selected' row = selected row) :
    (table.modify wanted change keeps).rows.filter selected' =
      table.rows.filter fun row => decide (key row ≠ wanted) && selected row := by
  unfold modify
  rw [rows_update, List.filter_map]
  have chosen : table.rows.filter (selected' ∘ fun row => if key row = wanted then change row else row) =
      table.rows.filter fun row => decide (key row ≠ wanted) && selected row := by
    refine List.filter_congr fun row member => ?_
    rw [Function.comp_apply]
    by_cases here : key row = wanted
    · rw [if_pos here, off row member here, decide_eq_false (not_not.mpr here), Bool.false_and]
    · rw [if_neg here, same row member here, decide_eq_true here, Bool.true_and]
  rw [chosen]
  conv_rhs => rw [← List.map_id (table.rows.filter _)]
  refine List.map_congr_left fun row member => ?_
  have here := (Bool.and_eq_true_iff.mp (List.mem_filter.mp member).2).1
  rw [if_neg (of_decide_eq_true here)]
  rfl

end Modify

/-! ### Selections -/

/-- A row is found among the selected rows when the selection spares its key. -/
theorem find_filter {table : Table key} {wanted : Key} {selected : Row → Bool}
    (spares : ∀ row ∈ table.rows, key row = wanted → selected row = true) :
    table.find wanted = (table.rows.filter selected).find? fun row => key row = wanted := by
  unfold find
  rw [List.find?_filter]
  refine List.find?_congr fun row member => ?_
  by_cases here : key row = wanted
  · simp [here, spares row member here]
  · simp [here]

theorem filter_insert {table : Table key} {row : Row} (fresh : table.find (key row) = none)
    (wanted : Row → Bool) : (table.insert row).rows.filter wanted =
      table.rows.filter wanted ++ if wanted row then [row] else [] := by
  rw [rows_insert fresh, List.filter_append]
  congr 1
  by_cases holds : wanted row <;> simp [holds]

end Table

/-! ### `ORDER BY` -/

section Order

variable {Row : Type} (before : Row → Row → Bool)

/-- The rows in the order of a comparison. -/
def orderBy (rows : List Row) : List Row :=
  rows.insertionSort fun first second => before first second = true

theorem mem_orderBy {rows : List Row} {row : Row} : row ∈ orderBy before rows ↔ row ∈ rows :=
  (List.perm_insertionSort _ rows).mem_iff

theorem perm_orderBy (rows : List Row) : (orderBy before rows).Perm rows :=
  List.perm_insertionSort _ rows

/-- Rows already in order are their own sort. -/
theorem orderBy_sorted {rows : List Row}
    (sorted : rows.Pairwise fun first second => before first second = true) :
    orderBy before rows = rows :=
  List.Pairwise.insertionSort_eq sorted

/-- **The rows come in order**, when the comparison is a total preorder. -/
theorem pairwise_orderBy (total : ∀ first second, before first second = true ∨ before second first = true)
    (chain : ∀ first second third, before first second = true → before second third = true →
      before first third = true) (rows : List Row) :
    (orderBy before rows).Pairwise fun first second => before first second = true := by
  have : Std.Total fun first second => before first second = true := ⟨total⟩
  have : IsTrans Row fun first second => before first second = true := ⟨chain⟩
  exact List.pairwise_insertionSort _ rows

/-- **A selection of the sorted rows is the sort of the selection**, when no two rows are before each
other. -/
theorem orderBy_filter (total : ∀ first second, before first second = true ∨ before second first = true)
    (chain : ∀ first second third, before first second = true → before second third = true →
      before first third = true) {rows : List Row}
    (strict : ∀ first ∈ rows, ∀ second ∈ rows, before first second = true →
      before second first = true → first = second) (wanted : Row → Bool) :
    orderBy before (rows.filter wanted) = (orderBy before rows).filter wanted := by
  refine List.Perm.eq_of_pairwise ?_ (pairwise_orderBy before total chain _)
    ((pairwise_orderBy before total chain rows).filter wanted) ?_
  · intro first second inside inside' one two
    have here := List.mem_of_mem_filter ((mem_orderBy before).mp inside)
    have there := (mem_orderBy before).mp (List.mem_of_mem_filter inside')
    exact strict first here second there one two
  · exact (perm_orderBy before _).trans ((perm_orderBy before rows).filter wanted).symm

end Order

end Relational
