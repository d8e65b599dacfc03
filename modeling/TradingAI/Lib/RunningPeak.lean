import Mathlib.Order.Bounds.Basic
import Mathlib.Order.MinMax
import Mathlib.Data.List.Induction

/-!
# `Lib.RunningPeak` — the least fall from a value to a later one

One pass over a list keeps the greatest value so far and the least fall from it to the current value. If a
fall from a greater value is never more than one from a smaller value, the pass finds the least fall over all
pairs: an invariant of the prefixes, carried along as values are appended.

## Contents
- `falls`: from a value to itself or a later one.
- `run`, `run_spec`: what the pass keeps, and that it is the greatest value and the least fall.
-/

namespace RunningPeak

variable {α β : Type} {P : α → Prop} {fall : α → α → β}

/-- The falls from the values with `P` to themselves and to the values after them. -/
def falls (P : α → Prop) (fall : α → α → β) (values : List α) : Set β :=
  {d | ∃ (i j : ℕ) (u v : α), i ≤ j ∧ values[i]? = some u ∧ values[j]? = some v ∧ P u ∧ d = fall u v}

/-- An appended value is fallen to, from those before it and from itself. -/
theorem mem_falls_append {values : List α} {v : α} {d : β} :
    d ∈ falls P fall (values ++ [v]) ↔
      d ∈ falls P fall values ∨ ∃ u ∈ values ++ [v], P u ∧ d = fall u v := by
  constructor
  · rintro ⟨i, j, u, w, hij, hi, hj, hu, rfl⟩
    rcases Nat.lt_trichotomy j values.length with hlt | rfl | hgt
    · rw [List.getElem?_append_left (by omega)] at hi
      rw [List.getElem?_append_left hlt] at hj
      exact .inl ⟨i, j, u, w, hij, hi, hj, hu, rfl⟩
    · rw [List.getElem?_concat_length] at hj
      cases hj
      exact .inr ⟨u, List.mem_of_getElem? hi, hu, rfl⟩
    · rw [List.getElem?_eq_none (by simp; omega)] at hj
      cases hj
  · rintro (⟨i, j, u, w, hij, hi, hj, hu, rfl⟩ | ⟨u, hmem, hu, rfl⟩)
    · have hlen := (List.getElem?_eq_some_iff.mp hj).1
      refine ⟨i, j, u, w, hij, ?_, ?_, hu, rfl⟩
      · rw [List.getElem?_append_left (by omega), hi]
      · rw [List.getElem?_append_left hlen, hj]
    · obtain ⟨i, hlt, hi⟩ := List.mem_iff_getElem.mp hmem
      rw [List.length_append, List.length_singleton] at hlt
      refine ⟨i, values.length, u, v, by omega, ?_, List.getElem?_concat_length, hu, rfl⟩
      rw [← hi]
      exact List.getElem?_eq_getElem _

variable [LinearOrder α] [LinearOrder β]

/-- One more value: the peak with it, and the least fall with the one from the peak to it. -/
def step (fall : α → α → β) (acc : α × β) (v : α) : α × β :=
  (max acc.1 v, min acc.2 (fall (max acc.1 v) v))

/-- The pass over the values after the first. -/
def run (fall : α → α → β) (first : α) (rest : List α) : α × β := rest.foldl (step fall) (first, fall first first)

theorem run_append (first : α) (rest : List α) (v : α) :
    run fall first (rest ++ [v]) = step fall (run fall first rest) v := by
  unfold run
  rw [List.foldl_append]
  rfl

/-- **The pass finds the greatest value and the least fall**, if the first value has `P`, what is over a value
    with `P` has it too, and a fall from more is not over one from less. -/
theorem run_spec (hup : ∀ u w, P u → u ≤ w → P w)
    {first : α} (hfirst : P first) {rest : List α}
    (hanti : ∀ v ∈ first :: rest, ∀ u w, P u → u ≤ w → fall w v ≤ fall u v) :
    IsGreatest {u | u ∈ first :: rest} (run fall first rest).1 ∧
      IsLeast (falls P fall (first :: rest)) (run fall first rest).2 := by
  -- by induction on the values that came, the last one first
  induction rest using List.reverseRecOn with
  | nil =>
      refine ⟨⟨List.mem_singleton_self _, ?_⟩, ⟨0, 0, first, first, le_rfl, rfl, rfl, hfirst, rfl⟩, ?_⟩
      · intro u hu
        rw [List.mem_singleton.mp hu]
        exact le_rfl
      · rintro d ⟨i, j, u, v, -, hi, hj, -, rfl⟩
        have hu := List.mem_singleton.mp (List.mem_of_getElem? hi)
        have hv := List.mem_singleton.mp (List.mem_of_getElem? hj)
        rw [hu, hv]
        exact le_rfl
  | append_singleton rest v ih =>
      obtain ⟨⟨hpeak, hgreatest⟩, hdeepest, hleast⟩ :=
        ih fun u hu => hanti u (List.mem_append_left [v] hu)
      rw [run_append, ← List.cons_append]
      generalize run fall first rest = acc at *
      have hall : ∀ u ∈ (first :: rest) ++ [v], u ≤ max acc.1 v := by
        intro u hu
        rcases List.mem_append.mp hu with hmem | hmem
        · exact le_max_of_le_left (hgreatest hmem)
        · rw [List.mem_singleton.mp hmem]
          exact le_max_right _ _
      have hmax : max acc.1 v ∈ (first :: rest) ++ [v] := by
        rcases max_choice acc.1 v with h | h
        · rw [h]
          exact List.mem_append_left _ hpeak
        · rw [h]
          exact List.mem_append_right _ (List.mem_singleton_self v)
      have hP : P (max acc.1 v) :=
        hup first _ hfirst (hall first (List.mem_append_left _ List.mem_cons_self))
      refine ⟨⟨hmax, fun u hu => hall u hu⟩, ?_, ?_⟩
      · show min acc.2 (fall (max acc.1 v) v) ∈ _
        rcases min_choice acc.2 (fall (max acc.1 v) v) with h | h
        · rw [h]
          exact mem_falls_append.mpr (.inl hdeepest)
        · rw [h]
          exact mem_falls_append.mpr (.inr ⟨_, hmax, hP, rfl⟩)
      · intro d hd
        rcases mem_falls_append.mp hd with hmem | ⟨u, hmem, hu, rfl⟩
        · exact min_le_of_left_le (hleast hmem)
        · have hv : v ∈ (first :: rest) ++ [v] := List.mem_append_right _ (List.mem_singleton_self v)
          exact min_le_of_right_le (hanti v hv u _ hu (hall u hmem))

end RunningPeak
