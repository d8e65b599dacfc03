import Mathlib.Algebra.Order.BigOperators.Group.List
import Mathlib.Algebra.Order.Ring.Rat
import Mathlib.Tactic.Linarith

/-!
# `Lib.Reserve` — a resource that covers the claims still open on it

A stock `available` of some resource, and a list of open claims, each of which may still draw up to its
`hold`. The stock is `Covered` when it suffices for all of them at once. Claims are opened, draw part of
their hold, and lapse; the stock is replenished. A claim that draws `spent` must give up at least `spent`
of its hold. Then coverage lasts, and with it a stock that never goes negative.
-/

namespace Reserve

variable {α β : Type}

/-- What the open claims may still draw. -/
def reserved (hold : α → ℚ) (claims : List α) : ℚ := (claims.map hold).sum

/-- **Covered**: no claim holds a negative amount, and the stock suffices for all. -/
structure Covered (available : ℚ) (hold : α → ℚ) (claims : List α) : Prop where
  nonneg : ∀ c ∈ claims, 0 ≤ hold c
  fits   : reserved hold claims ≤ available

variable {available spent : ℚ} {hold : α → ℚ} {hold' : β → ℚ} {claims : List α} {c : α}

theorem reserved_nonneg (h : ∀ c ∈ claims, 0 ≤ hold c) : 0 ≤ reserved hold claims :=
  List.sum_nonneg fun x hx => by
    obtain ⟨c, hc, rfl⟩ := List.mem_map.mp hx
    exact h c hc

/-- The stock suffices for each claim alone. -/
theorem Covered.hold_le (h : Covered available hold claims) (hc : c ∈ claims) : hold c ≤ available := by
  refine le_trans (List.single_le_sum ?_ (hold c) (List.mem_map_of_mem hc)) h.fits
  intro x hx
  obtain ⟨c, hc, rfl⟩ := List.mem_map.mp hx
  exact h.nonneg c hc

/-- **A covered stock is not negative.** -/
theorem Covered.available_nonneg (h : Covered available hold claims) : 0 ≤ available :=
  (reserved_nonneg h.nonneg).trans h.fits

/-- Nothing is open yet. -/
theorem Covered.nil (h : 0 ≤ available) : Covered available hold [] :=
  ⟨by simp, by simpa [reserved] using h⟩

theorem reserved_append (c : α) : reserved hold (claims ++ [c]) = reserved hold claims + hold c := by
  simp [reserved]

/-- A claim is opened, and the stock left covers it next to what was reserved before. -/
theorem Covered.open {left : ℚ} (h : Covered available hold claims) (hc : 0 ≤ hold c)
    (hfits : reserved hold claims + hold c ≤ left) : Covered left hold (claims ++ [c]) := by
  refine ⟨fun x hx => ?_, by rw [reserved_append]; exact hfits⟩
  rcases List.mem_append.mp hx with hx | hx
  · exact h.nonneg x hx
  · rw [List.mem_singleton.mp hx]; exact hc

/-- Only the holds of the open claims matter. -/
theorem reserved_congr {hold₂ : α → ℚ} (h : ∀ c ∈ claims, hold₂ c = hold c) :
    reserved hold₂ claims = reserved hold claims := by
  unfold reserved; rw [List.map_congr_left h]

theorem Covered.congr {hold₂ : α → ℚ} (h : Covered available hold claims)
    (heq : ∀ c ∈ claims, hold₂ c = hold c) : Covered available hold₂ claims :=
  ⟨fun c hc => by rw [heq c hc]; exact h.nonneg c hc, by rw [reserved_congr heq]; exact h.fits⟩

/-- No claim holds more than before, and one of them gave up `spent`. -/
theorem reserved_map_le {f : α → β} (hle : ∀ x ∈ claims, hold' (f x) ≤ hold x) (hc : c ∈ claims)
    (hspent : hold' (f c) + spent ≤ hold c) :
    reserved hold' (claims.map f) + spent ≤ reserved hold claims := by
  have hrest : ∀ l : List α, (∀ x ∈ l, hold' (f x) ≤ hold x) →
      reserved hold' (l.map f) ≤ reserved hold l := by
    intro l hl
    unfold reserved
    rw [List.map_map]
    exact List.sum_le_sum hl
  induction claims with
  | nil => simp at hc
  | cons x xs ih =>
      have hxs := fun y hy => hle y (List.mem_cons_of_mem _ hy)
      simp only [reserved, List.map_cons, List.sum_cons]
      rcases List.mem_cons.mp hc with rfl | hc
      · have := hrest xs hxs
        simp only [reserved] at this
        linarith
      · have hx := hle x (List.mem_cons_self ..)
        have := ih hxs hc
        simp only [reserved] at this
        linarith

/-- **A claim draws**: the stock falls by `spent`, the claim gives up at least that much, and no other
    claim grows. -/
theorem Covered.draw {f : α → β} (h : Covered available hold claims)
    (hnonneg : ∀ x ∈ claims, 0 ≤ hold' (f x)) (hle : ∀ x ∈ claims, hold' (f x) ≤ hold x)
    (hc : c ∈ claims) (hspent : hold' (f c) + spent ≤ hold c) {left : ℚ} (hleft : available - spent ≤ left) :
    Covered left hold' (claims.map f) := by
  refine ⟨fun y hy => ?_, ?_⟩
  · obtain ⟨x, hx, rfl⟩ := List.mem_map.mp hy
    exact hnonneg x hx
  · have := reserved_map_le hle hc hspent
    have := h.fits
    linarith

end Reserve
