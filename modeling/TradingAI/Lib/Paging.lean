import Mathlib.Data.List.Sort

/-!
# `Lib.Paging` — reading a list in pages while it grows

A reader asks for the pages of a list one after another, by offset. Between two requests the list may grow,
at any place: what was there stays, in its order. Then a page may repeat what an earlier one has shown, but
nothing that was there at the first request is skipped. If nothing changes, the pages are the list.

A table read back in a fixed order grows in this sense when its rows do (`insertionSort_sublist`).

## Contents
- `page`, `readPages`.
- `sublist_readPages`, `readPages_replicate`.
- `Visits`: looking at a history from time to time.
- `insertionSort_sublist`.
-/

namespace Paging

variable {α : Type}

/-- `LIMIT limit OFFSET offset`. -/
def page (limit offset : ℕ) (xs : List α) : List α := (xs.drop offset).take limit

/-- What a reader gets, if each request finds the next of these lists. -/
def readPages (limit : ℕ) : ℕ → List (List α) → List α
  | _, [] => []
  | offset, xs :: lists => page limit offset xs ++ readPages limit (offset + limit) lists

variable {limit : ℕ} {xs : List α} {lists : List (List α)}

/-- **Nothing is skipped.** When the last page reaches the end of the list it finds, the pages from an offset
    on contain what was behind that offset at the first request, in order. -/
theorem drop_sublist_readPages {offset : ℕ} (hgrows : (xs :: lists).IsChain List.Sublist)
    (hend : ∀ ys ∈ (xs :: lists).getLast?, ys.length ≤ offset + limit * (xs :: lists).length) :
    (xs.drop offset).Sublist (readPages limit offset (xs :: lists)) := by
  -- by induction on the requests to come: a request moves the offset, and growth only moves entries behind it
  induction lists generalizing xs offset with
  | nil =>
      have hlast : (xs.drop offset).length ≤ limit := by
        have := hend xs rfl
        rw [List.length_singleton, Nat.mul_one] at this
        rw [List.length_drop]
        omega
      rw [readPages, page, List.take_of_length_le hlast, readPages, List.append_nil]
  | cons ys lists ih =>
      obtain ⟨hstep, hrest⟩ := List.isChain_cons_cons.mp hgrows
      have hnext : (ys.drop (offset + limit)).Sublist (readPages limit (offset + limit) (ys :: lists)) := by
        refine ih hrest fun zs hzs => ?_
        have := hend zs (by rwa [List.getLast?_cons_cons])
        rw [List.length_cons, Nat.mul_add, Nat.mul_one] at this
        omega
      have hbehind : (xs.drop (offset + limit)).Sublist (ys.drop (offset + limit)) := hstep.drop _
      calc xs.drop offset = page limit offset xs ++ xs.drop (offset + limit) := by
            rw [page, ← List.drop_drop, List.take_append_drop]
        List.Sublist _ (page limit offset xs ++ readPages limit (offset + limit) (ys :: lists)) :=
            (List.Sublist.refl _).append (hbehind.trans hnext)

/-- From the beginning. -/
theorem sublist_readPages (hgrows : (xs :: lists).IsChain List.Sublist)
    (hend : ∀ ys ∈ (xs :: lists).getLast?, ys.length ≤ limit * (xs :: lists).length) :
    xs.Sublist (readPages limit 0 (xs :: lists)) := by
  have h : (xs.drop 0).Sublist (readPages limit 0 (xs :: lists)) := by
    refine drop_sublist_readPages hgrows fun ys hys => ?_
    rw [Nat.zero_add]
    exact hend ys hys
  rwa [List.drop_zero] at h

-- a new entry at the front makes the second page repeat the first
example : readPages 1 0 [[2, 1], [3, 2, 1], [3, 2, 1]] = [2, 2, 1] := rfl

/-- **Pages of a list that stays the same are the list**, as soon as there are enough. -/
theorem readPages_replicate (n offset : ℕ) :
    readPages limit offset (List.replicate n xs) = (xs.drop offset).take (limit * n) := by
  induction n generalizing offset with
  | zero => simp [readPages]
  | succ n ih =>
      rw [List.replicate_succ, readPages, ih, page, Nat.mul_succ, Nat.add_comm (limit * n), List.take_add,
        List.drop_drop]

/-! ## Looking at a history -/

/-- Somebody looks at the states of a history, at some times one after another. -/
def Visits (history seen : List α) : Prop :=
  ∃ times : List ℕ, times.Pairwise (· ≤ ·) ∧ List.Forall₂ (fun t s => history[t]? = some s) times seen

/-- What relates each state to the later ones relates what is seen. -/
theorem Visits.pairwise {R : α → α → Prop} [Std.Refl R] {history seen : List α} (h : Visits history seen)
    (hhistory : history.Pairwise R) : seen.Pairwise R := by
  obtain ⟨times, htimes, hseen⟩ := h
  induction hseen with
  | nil => exact .nil
  | @cons t s times seen hs hrest ih =>
      obtain ⟨hlater, htimes⟩ := List.pairwise_cons.mp htimes
      refine List.pairwise_cons.mpr ⟨fun s' hs' => ?_, ih htimes⟩
      obtain ⟨i, hi, rfl⟩ := List.mem_iff_getElem.mp hs'
      have hlength : times.length = seen.length := hrest.length_eq
      have hs'' : history[times[i]]? = some seen[i] := hrest.get (by omega) hi
      have hle : t ≤ times[i] := hlater _ (List.getElem_mem _)
      obtain ⟨ht, rfl⟩ := List.getElem?_eq_some_iff.mp hs
      obtain ⟨ht', hget⟩ := List.getElem?_eq_some_iff.mp hs''
      rw [← hget]
      rcases Nat.lt_or_eq_of_le hle with hlt | heq
      · exact List.pairwise_iff_getElem.mp hhistory t times[i] ht ht' hlt
      · -- nothing happened in between
        have hsame : history[t] = history[times[i]] := by congr 1
        rw [hsame]
        exact Std.Refl.refl _

/-- A sorted list keeps its place among more entries. -/
theorem insertionSort_sublist {r : α → α → Prop} [DecidableRel r] [Std.Total r] [IsTrans α r] {ys : List α}
    (h : xs.Sublist ys) : (xs.insertionSort r).Sublist (ys.insertionSort r) := by
  induction h with
  | slnil => exact List.Sublist.refl _
  | cons y _ ih => exact ih.trans (List.sublist_orderedInsert y _)
  | cons_cons y _ ih => exact ih.orderedInsert_sublist y (List.pairwise_insertionSort r _)

end Paging
