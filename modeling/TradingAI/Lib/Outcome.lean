import Mathlib.Init

/-!
# `Lib.Outcome` — computations that return or raise

What the outcome of a sequence says about its parts.
-/

namespace Outcome

variable {ε α β : Type} {x : Except ε α} {f : α → Except ε β} {b : β}

/-- A computation that ends well has ended well at its first part. -/
theorem ok_of_bind (h : (x >>= f) = .ok b) : ∃ a, x = .ok a ∧ f a = .ok b := by
  cases x with
  | error e => cases h
  | ok a    => exact ⟨a, rfl, h⟩

theorem ok_of_isOk (h : x.isOk = true) : ∃ a, x = .ok a := by
  cases x with
  | error e => cases h
  | ok a    => exact ⟨a, rfl⟩

/-- Where something is known of the result, there is one. -/
theorem ok_of_toOption_map {g : α → β} (h : x.toOption.map g = some b) : ∃ a, x = .ok a ∧ g a = b := by
  cases x with
  | error e => cases h
  | ok a    => exact ⟨a, rfl, Option.some.inj h⟩

/-- Raise `e` if `c` holds. -/
def refuseIf (c : Prop) [Decidable c] (e : ε) : Except ε Unit := if c then .error e else .ok ()

theorem refuseIf_eq_ok {c : Prop} [Decidable c] {e : ε} : refuseIf c e = .ok () ↔ ¬ c := by
  unfold refuseIf
  split
  · next hc => exact iff_of_false (fun h => by cases h) (not_not_intro hc)
  · next hc => exact iff_of_true rfl hc

/-- What holds of the exceptions of the parts, holds of those of the sequence. -/
theorem error_of_bind {P : ε → Prop} (hx : ∀ e, x = .error e → P e) (hf : ∀ a e, f a = .error e → P e) {e : ε}
    (h : (x >>= f) = .error e) : P e := by
  cases x with
  | error e' =>
      cases h
      exact hx e rfl
  | ok a => exact hf a e h

/-- A map over two lists that ends well has mapped both. -/
theorem ok_of_mapM_append {f : α → Except ε β} {xs ys : List α} {zs : List β} (h : (xs ++ ys).mapM f = .ok zs) :
    ∃ as bs, xs.mapM f = .ok as ∧ ys.mapM f = .ok bs ∧ zs = as ++ bs := by
  rw [List.mapM_append] at h
  obtain ⟨as, has, h⟩ := ok_of_bind h
  obtain ⟨bs, hbs, h⟩ := ok_of_bind h
  cases h
  exact ⟨as, bs, has, hbs, rfl⟩

theorem length_of_mapM {f : α → Except ε β} {xs : List α} {ys : List β} (h : xs.mapM f = .ok ys) :
    ys.length = xs.length := by
  induction xs generalizing ys with
  | nil =>
      cases h
      rfl
  | cons x xs ih =>
      rw [List.mapM_cons] at h
      obtain ⟨y, -, h⟩ := ok_of_bind h
      obtain ⟨ys', hys, h⟩ := ok_of_bind h
      cases h
      rw [List.length_cons, List.length_cons, ih hys]

/-- What a map that ends well has made, it has made of something. -/
theorem mem_of_mapM {f : α → Except ε β} {xs : List α} {ys : List β} (h : xs.mapM f = .ok ys) {y : β} (hy : y ∈ ys) :
    ∃ x ∈ xs, f x = .ok y := by
  induction xs generalizing ys with
  | nil =>
      cases h
      cases hy
  | cons x xs ih =>
      rw [List.mapM_cons] at h
      obtain ⟨y', hx, h⟩ := ok_of_bind h
      obtain ⟨ys', hys, h⟩ := ok_of_bind h
      cases h
      rcases List.mem_cons.mp hy with rfl | hy
      · exact ⟨x, List.mem_cons_self, hx⟩
      · obtain ⟨x', hmem, hx'⟩ := ih hys hy
        exact ⟨x', List.mem_cons_of_mem x hmem, hx'⟩

end Outcome
