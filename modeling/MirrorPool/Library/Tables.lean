import Mathlib.Data.List.Basic
import Mathlib.Data.List.Pairwise
import Mathlib.Tactic.Common

/-!
# Tables with uniqueness constraints

A table is a list of rows, no two of which are in conflict.  The conflict
relation stands for the uniqueness constraints of the table; rows with equal
keys are the conflict of a primary key.  A table carries its constraint, so that
only the insertions have to check it.

Main results:

- Theorem {lit}`Table.insert_eq_some`: an insertion succeeds exactly when no
  row is in conflict, and it adds the row at the end.
- Theorem {lit}`Table.eq_of_mem_of_key_eq`: under a primary key two rows with
  one key are equal.
- Theorem {lit}`Table.find?_eq_some`: a search for the key of a row finds it.
- Theorems {lit}`Table.map_select_insert` and {lit}`Table.select_upsert`: what a
  write does to the rows that meet a condition depends on these rows alone.
-/

namespace Tables

variable {ρ κ : Type}

/-- Rows without conflicts, in the order of their insertion. -/
structure Table (conflict : ρ → ρ → Prop) where
  rows : List ρ
  distinct : rows.Pairwise fun a b => ¬conflict a b

/-- The conflict of a primary key. -/
def SameKey (key : ρ → κ) (a b : ρ) : Prop := key a = key b

instance [DecidableEq κ] (key : ρ → κ) : DecidableRel (SameKey key) := fun a b =>
  inferInstanceAs (Decidable (key a = key b))

namespace Table

variable {conflict : ρ → ρ → Prop}

/-- A table without rows. -/
def empty : Table conflict := ⟨[], .nil⟩

/-- Add a row at the end, unless it is in conflict with an earlier one. -/
def insert [DecidableRel conflict] (table : Table conflict) (row : ρ) :
    Option (Table conflict) :=
  if hfree : ∀ earlier ∈ table.rows, ¬conflict earlier row then
    some
      { rows := table.rows ++ [row]
        distinct := List.pairwise_append.mpr ⟨table.distinct, by simp, by simpa using hfree⟩ }
  else
    none

/-- Add a row at the end, or leave the table when the row is in conflict. -/
def insertOrIgnore [DecidableRel conflict] (table : Table conflict) (row : ρ) :
    Table conflict :=
  (table.insert row).getD table

/-- Put a row in the place of the one with its key, or add it at the end. -/
def upsert [DecidableEq κ] {key : ρ → κ} (table : Table (SameKey key)) (row : ρ) :
    Table (SameKey key) :=
  match table.insert row with
  | some inserted => inserted
  | none =>
      { rows := table.rows.map fun earlier => if key earlier = key row then row else earlier
        distinct := by
          rw [List.pairwise_map]
          refine table.distinct.imp ?_
          intro a b hab
          simp only [SameKey] at hab ⊢
          split <;> split <;> simp_all }

/-- The rows that meet a condition. -/
def select (table : Table conflict) (condition : ρ → Prop) [DecidablePred condition] : List ρ :=
  table.rows.filter fun row => condition row

/-- An insertion succeeds exactly when no row is in conflict. -/
theorem insert_eq_some [DecidableRel conflict] {table inserted : Table conflict} {row : ρ} :
    table.insert row = some inserted ↔
      (∀ earlier ∈ table.rows, ¬conflict earlier row) ∧ inserted.rows = table.rows ++ [row] := by
  unfold insert
  split
  · rename_i hfree
    rcases inserted with ⟨rows, hrows⟩
    simp only [Option.some.injEq, mk.injEq]
    exact ⟨fun heq => ⟨hfree, heq.symm⟩, fun heq => heq.2.symm⟩
  · rename_i hconflict
    simp only [reduceCtorEq, false_iff, not_and]
    exact fun hfree => absurd hfree hconflict

/-- A row without a conflict can be inserted. -/
theorem exists_insert [DecidableRel conflict] {table : Table conflict} {row : ρ}
    (hfree : ∀ earlier ∈ table.rows, ¬conflict earlier row) :
    ∃ inserted, table.insert row = some inserted := by
  unfold insert
  rw [dif_pos hfree]
  exact ⟨_, rfl⟩

@[simp] theorem mem_select {table : Table conflict} {condition : ρ → Prop}
    [DecidablePred condition] {row : ρ} :
    row ∈ table.select condition ↔ row ∈ table.rows ∧ condition row := by
  simp [select]

/-- Under a primary key two rows with one key are equal. -/
theorem eq_of_mem_of_key_eq {key : ρ → κ} {table : Table (SameKey key)} {a b : ρ}
    (ha : a ∈ table.rows) (hb : b ∈ table.rows) (hkey : key a = key b) : a = b := by
  by_contra hne
  have hsymm : Std.Symm fun x y : ρ => ¬SameKey key x y :=
    ⟨fun _ _ hxy hyx => hxy hyx.symm⟩
  exact table.distinct.forall ha hb hne hkey

/-- Under a primary key a search for the key of a row finds the row. -/
theorem find?_eq_some {key : ρ → κ} {table : Table (SameKey key)} {row : ρ}
    (hrow : row ∈ table.rows) {condition : ρ → Bool}
    (hcondition : ∀ other, condition other = true ↔ key other = key row) :
    table.rows.find? condition = some row := by
  have hsome : (table.rows.find? condition).isSome = true :=
    List.find?_isSome.mpr ⟨row, hrow, (hcondition row).mpr rfl⟩
  rcases Option.isSome_iff_exists.mp hsome with ⟨found, hfound⟩
  have hkey : key found = key row := (hcondition found).mp (List.find?_some hfound)
  rw [hfound, eq_of_mem_of_key_eq (List.mem_of_find?_eq_some hfound) hrow hkey]

/-! ## Writes and selected rows -/

section Selected

variable {condition : ρ → Prop} [DecidablePred condition]

/-- A search is the first of the selected rows. -/
theorem head?_select (table : Table conflict) :
    (table.select condition).head? = table.rows.find? fun row => condition row :=
  List.head?_filter

/-- A row whose conflicts are all among the selected rows is inserted as if there
were no others. -/
theorem map_select_insert [DecidableRel conflict] {table : Table conflict} {row : ρ}
    (hrow : condition row)
    (hconflict : ∀ earlier ∈ table.rows, conflict earlier row → condition earlier) :
    (table.insert row).map (·.select condition) =
      if ∀ earlier ∈ table.select condition, ¬conflict earlier row then
        some (table.select condition ++ [row])
      else none := by
  have hfree : (∀ earlier ∈ table.rows, ¬conflict earlier row) ↔
      ∀ earlier ∈ table.select condition, ¬conflict earlier row := by
    constructor
    · exact fun hfree earlier hearlier => hfree earlier (mem_select.mp hearlier).1
    · intro hfree earlier hearlier hsame
      exact hfree earlier (mem_select.mpr ⟨hearlier, hconflict earlier hearlier hsame⟩) hsame
  by_cases hnone : ∀ earlier ∈ table.rows, ¬conflict earlier row
  · rcases exists_insert hnone with ⟨inserted, hinsert⟩
    rw [if_pos (hfree.mp hnone), hinsert, Option.map_some, select,
      (insert_eq_some.mp hinsert).2, List.filter_append]
    simp [select, hrow]
  · rw [if_neg (mt hfree.mpr hnone), insert, dif_neg hnone, Option.map_none]

/-- Other rows are not selected. -/
theorem select_insert_of_not [DecidableRel conflict] {table inserted : Table conflict} {row : ρ}
    (hinsert : table.insert row = some inserted) (hrow : ¬condition row) :
    inserted.select condition = table.select condition := by
  rw [select, (insert_eq_some.mp hinsert).2, List.filter_append]
  simp [select, hrow]

/-- Under a primary key the row of a key is the only one that is selected. -/
theorem select_eq_singleton {key : ρ → κ} {table : Table (SameKey key)} {row : ρ}
    (hrow : row ∈ table.rows) (hcondition : ∀ other, condition other ↔ key other = key row) :
    table.select condition = [row] := by
  have hselected : row ∈ table.select condition :=
    mem_select.mpr ⟨hrow, (hcondition row).mpr rfl⟩
  have hkey : ∀ other ∈ table.select condition, key other = key row :=
    fun other hother => (hcondition other).mp (mem_select.mp hother).2
  have hdistinct : (table.select condition).Pairwise fun a b => ¬SameKey key a b :=
    table.distinct.filter _
  match hrows : table.select condition with
  | [] =>
      rw [hrows] at hselected
      cases hselected
  | [only] =>
      rw [hrows] at hselected
      rw [List.mem_singleton.mp hselected]
  | first :: second :: rest =>
      rw [hrows] at hkey hdistinct
      have hsame : key first = key second :=
        (hkey first (by simp)).trans (hkey second (by simp)).symm
      exact absurd hsame (List.rel_of_pairwise_cons hdistinct (by simp))

/-- A row that was put is in the table. -/
theorem mem_upsert [DecidableEq κ] {key : ρ → κ} (table : Table (SameKey key)) (row : ρ) :
    row ∈ (table.upsert row).rows := by
  unfold upsert
  split
  · rename_i inserted hinsert
    rw [(insert_eq_some.mp hinsert).2]
    simp
  · rename_i hnone
    by_contra hmissing
    have hfree : ∀ earlier ∈ table.rows, ¬SameKey key earlier row := by
      intro earlier hearlier hsame
      exact hmissing (List.mem_map.mpr ⟨earlier, hearlier, if_pos hsame⟩)
    rcases exists_insert hfree with ⟨inserted, hinsert⟩
    rw [hinsert] at hnone
    cases hnone

/-- The rows of one key after a row was put. -/
theorem select_upsert [DecidableEq κ] {key : ρ → κ} (table : Table (SameKey key)) (row : ρ)
    {k : κ} (hcondition : ∀ other, condition other ↔ key other = k) :
    (table.upsert row).select condition =
      if key row = k then [row] else table.select condition := by
  split
  · rename_i hkey
    exact select_eq_singleton (mem_upsert table row) (by simpa [hkey] using hcondition)
  · rename_i hkey
    unfold upsert
    split
    · rename_i inserted hinsert
      exact select_insert_of_not hinsert (mt (hcondition row).mp hkey)
    · -- the row in the place of which the new one is put has another key, too
      have hplace : ∀ earlier : ρ,
          condition (if key earlier = key row then row else earlier) ↔ condition earlier := by
        intro earlier
        simp only [hcondition]
        split
        · rename_i hsame
          rw [hsame]
        · exact Iff.rfl
      have hkept : ∀ earlier ∈ table.select condition,
          (if key earlier = key row then row else earlier) = earlier := by
        intro earlier hearlier
        have hearlierKey := (hcondition earlier).mp (mem_select.mp hearlier).2
        exact if_neg fun hsame => hkey (hsame.symm.trans hearlierKey)
      simp only [select, List.filter_map, Function.comp_def, hplace]
      exact (List.map_congr_left hkept).trans (List.map_id' _)

end Selected

end Table

end Tables
