import Centaeris.Foundation.Outcome

namespace Foundation.Rows

open List

/-!
# Tables of rows

A relational table is the list of its rows in the order of insertion, read through keys.
Nothing here says that a key is unique; a constraint is a check before an insertion.
-/

variable {ρ κ : Type} [DecidableEq κ] (key : ρ → κ)

/-- The row of a key. -/
def select (rows : List ρ) (k : κ) : Option ρ := rows.find? fun row => key row == k

/-- A new row may not have the key of a row that is there. -/
def unique (constraint : String) (rows : List ρ) (row : ρ) : Outcome Unit :=
  ensure (!rows.any fun other => key other == key row) constraint

/-- Rows that are changed in place. -/
def update (rows : List ρ) (condition : ρ → Bool) (change : ρ → ρ) : List ρ :=
  rows.map fun row => if condition row then change row else row

def upsert (rows : List ρ) (row : ρ) : List ρ :=
  if rows.any fun other => key other == key row then
    update rows (fun other => key other == key row) fun _ => row
  else rows ++ [row]

/-- The row with the largest value of a column. -/
def latest (column : ρ → Nat) (rows : List ρ) : Option ρ := rows.argmax column

variable {key} {rows : List ρ} {row : ρ} {k : κ}

theorem mem_of_select (h : select key rows k = some row) : row ∈ rows ∧ key row = k :=
  ⟨mem_of_find?_eq_some h, by simpa using find?_some h⟩

/-- What a query reads after one more row. -/
theorem select_concat :
    select key (rows ++ [row]) k =
      (select key rows k).or (if key row = k then some row else none) := by
  rw [select, find?_append]
  congr 1
  by_cases h : key row = k <;> simp [h]

/-- What was read is still read after an insertion. -/
theorem select_concat_of_some {found : ρ} (h : select key rows k = some found) :
    select key (rows ++ [row]) k = some found := by
  rw [select_concat, h, Option.some_or]

theorem select_concat_of_none (h : select key rows (key row) = none) :
    select key (rows ++ [row]) k = if key row = k then some row else select key rows k := by
  rw [select_concat]
  by_cases hk : key row = k
  · rw [if_pos hk, if_pos hk, ← hk, h, Option.none_or]
  · rw [if_neg hk, if_neg hk, Option.or_none]

theorem select_update {condition : ρ → Bool} {change : ρ → ρ}
    (hkey : ∀ row, key (change row) = key row) :
    select key (update rows condition change) k =
      (select key rows k).map fun row => if condition row then change row else row := by
  have hsame : ∀ row, (key (if condition row then change row else row) == k) = (key row == k) := by
    intro row
    split
    · rw [hkey]
    · rfl
  rw [select, update, find?_map, select]
  congr 2
  funext row
  exact hsame row

variable {column : ρ → Nat}

theorem latest_spec (h : latest column rows = some row) :
    row ∈ rows ∧ ∀ other ∈ rows, column other ≤ column row :=
  ⟨argmax_mem h, fun _ hm => le_of_mem_argmax hm h⟩

theorem latest_eq_none : latest column rows = none ↔ rows = [] :=
  argmax_eq_none

end Foundation.Rows
