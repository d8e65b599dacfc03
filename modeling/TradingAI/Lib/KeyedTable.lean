import Mathlib.Data.List.Nodup

/-!
# `Lib.KeyedTable` — rows under distinct keys

A `Table` is a list of rows with a unique key. Looking a key up finds at most one row; putting a row under a
key replaces the one that is there, in its place, or appends one. To a reader a table is a partial function,
and a put changes it at one key.
-/

namespace KeyedTable

variable {K V : Type}

/-- Rows with distinct keys. -/
structure Table (K V : Type) where
  rows   : List (K × V)
  unique : (rows.map Prod.fst).Nodup

/-- No rows. -/
def Table.empty : Table K V := ⟨[], List.nodup_nil⟩

section
variable [DecidableEq K]

def findRow (k : K) : List (K × V) → Option V
  | []              => none
  | (k', v) :: rows => if k' = k then some v else findRow k rows

def putRow (k : K) (v : V) : List (K × V) → List (K × V)
  | []               => [(k, v)]
  | (k', v') :: rows => if k' = k then (k, v) :: rows else (k', v') :: putRow k v rows

/-- A put keeps the keys, or adds its own at the end. -/
theorem keys_putRow (k : K) (v : V) (rows : List (K × V)) :
    (putRow k v rows).map Prod.fst =
      if k ∈ rows.map Prod.fst then rows.map Prod.fst else rows.map Prod.fst ++ [k] := by
  induction rows with
  | nil => rfl
  | cons row rows ih =>
      obtain ⟨k', v'⟩ := row
      unfold putRow
      by_cases hk : k' = k
      · subst hk
        rw [if_pos rfl, if_pos (by simp)]
        rfl
      · rw [if_neg hk, List.map_cons, ih]
        have hmem : k ∈ ((k', v') :: rows).map Prod.fst ↔ k ∈ rows.map Prod.fst := by
          rw [List.map_cons, List.mem_cons]
          exact or_iff_right (Ne.symm hk)
        simp only [hmem]
        split <;> rfl

theorem findRow_putRow_self (k : K) (v : V) (rows : List (K × V)) : findRow k (putRow k v rows) = some v := by
  induction rows with
  | nil => simp [putRow, findRow]
  | cons row rows ih =>
      obtain ⟨k', v'⟩ := row
      unfold putRow
      split
      · simp [findRow]
      · next hk =>
          rw [findRow, if_neg hk]
          exact ih

theorem findRow_putRow_of_ne {k k' : K} (h : k' ≠ k) (v : V) (rows : List (K × V)) :
    findRow k' (putRow k v rows) = findRow k' rows := by
  induction rows with
  | nil => simp [putRow, findRow, Ne.symm h]
  | cons row rows ih =>
      obtain ⟨k₀, v₀⟩ := row
      unfold putRow
      split
      · next hk =>
          subst hk
          simp only [findRow, if_neg (Ne.symm h)]
      · simp only [findRow, ih]

namespace Table

/-- The row under a key. -/
def find? (t : Table K V) (k : K) : Option V := findRow k t.rows

/-- One row more, or another one under its key. -/
def put (t : Table K V) (k : K) (v : V) : Table K V where
  rows   := putRow k v t.rows
  unique := by
    rw [keys_putRow]
    split
    · exact t.unique
    · next hk => exact t.unique.append (List.nodup_singleton k) (by simpa using hk)

@[simp] theorem find?_empty (k : K) : (empty : Table K V).find? k = none := rfl

@[simp] theorem find?_put_self (t : Table K V) (k : K) (v : V) : (t.put k v).find? k = some v :=
  findRow_putRow_self k v t.rows

/-- A put changes nothing under another key. -/
theorem find?_put_of_ne (t : Table K V) {k k' : K} (h : k' ≠ k) (v : V) : (t.put k v).find? k' = t.find? k' :=
  findRow_putRow_of_ne h v t.rows

theorem find?_put (t : Table K V) (k k' : K) (v : V) :
    (t.put k v).find? k' = if k' = k then some v else t.find? k' := by
  split
  · next h =>
      subst h
      exact t.find?_put_self k' v
  · next h => exact t.find?_put_of_ne h v

end Table

end

end KeyedTable
