import Mathlib.Data.List.Basic

/-!
# `Lib.Pagination` — reading a result that comes in pages

A source answers a token with a page, and the page says whether there is another one and under which token.
`collect` follows the tokens to the end. The source itself may fail, and nothing keeps it from naming tokens
forever; `Pages` says that it does neither, and what it holds.

## Contents
- `Page`, `collect`.
- `Pages`; `Pages.collect`: the loop ends, and with every item of every page.
- `paged`, `paged_pages`: a source for any list of pages.
-/

namespace Pagination

/-- A page, and the token of the next one. -/
structure Page (α τ : Type) where
  items : List α
  next  : Option τ

variable {α τ ε : Type} {fetch : Option τ → Except ε (Page α τ)} {token : Option τ} {pages : List (List α)}

/-- The items from a token on, read with at most `fuel` requests; `none` if these are not enough. -/
def collect (fetch : Option τ → Except ε (Page α τ)) : ℕ → List α → Option τ → Option (Except ε (List α))
  | 0,        _,   _     => none
  | fuel + 1, acc, token =>
      match fetch token with
      | .error e => some (.error e)
      | .ok page =>
          match page.next with
          | none      => some (.ok (acc ++ page.items))
          | some next => collect fetch fuel (acc ++ page.items) (some next)

/-- From a token on, the source holds these pages and no more. -/
inductive Pages (fetch : Option τ → Except ε (Page α τ)) : Option τ → List (List α) → Prop
  | last {token items} : fetch token = .ok ⟨items, none⟩ → Pages fetch token [items]
  | more {token next items rest} : fetch token = .ok ⟨items, some next⟩ → Pages fetch (some next) rest →
      Pages fetch token (items :: rest)

/-- There is a first page, and it is what the source answers. -/
theorem Pages.first (h : Pages fetch token pages) :
    ∃ items rest next, pages = items :: rest ∧ fetch token = .ok ⟨items, next⟩ := by
  cases h with
  | last hfetch   => exact ⟨_, [], none, rfl, hfetch⟩
  | more hfetch _ => exact ⟨_, _, _, rfl, hfetch⟩

/-- **The loop reads every page.** As many requests as there are pages are enough. -/
theorem Pages.collect (h : Pages fetch token pages) {fuel : ℕ} (acc : List α) (hfuel : pages.length ≤ fuel) :
    Pagination.collect fetch fuel acc token = some (.ok (acc ++ pages.flatten)) := by
  -- by induction on the pages that are left, for any items read before
  induction h generalizing fuel acc with
  | last hfetch =>
      obtain _ | fuel := fuel
      · exact absurd hfuel (Nat.not_succ_le_zero 0)
      · unfold Pagination.collect
        rw [hfetch, List.flatten_singleton]
  | more hfetch hrest ih =>
      obtain _ | fuel := fuel
      · exact absurd hfuel (Nat.not_succ_le_zero _)
      · unfold Pagination.collect
        rw [hfetch, List.flatten_cons, ← List.append_assoc]
        exact ih _ (Nat.le_of_succ_le_succ hfuel)

/-! ## A source for any list of pages -/

/-- The page with this number, and the number of the next. -/
def paged (pages : List (List α)) (number : ℕ) : Page α ℕ where
  items := pages.getD number []
  next  := if number + 1 < pages.length then some (number + 1) else none

/-- A source that answers the token of each number with that page holds these pages. -/
theorem paged_pages {name : ℕ → τ} (hpages : pages ≠ [])
    (hfirst : fetch none = .ok ⟨(paged pages 0).items, (paged pages 0).next.map name⟩)
    (hmore : ∀ number, fetch (some (name (number + 1))) =
      .ok ⟨(paged pages (number + 1)).items, (paged pages (number + 1)).next.map name⟩) :
    Pages fetch none pages := by
  -- from any number on, these are the pages that are left
  have hfrom : ∀ rest number token, pages.drop number = rest → rest ≠ [] →
      fetch token = .ok ⟨(paged pages number).items, (paged pages number).next.map name⟩ → Pages fetch token rest := by
    intro rest
    induction rest with
    | nil => exact fun _ _ _ hne => absurd rfl hne
    | cons items rest ih =>
        intro number token hdrop _ hfetch
        have hlength : pages.length - number = rest.length + 1 := by
          rw [← List.length_drop, hdrop, List.length_cons]
        have hitems : (paged pages number).items = items := by
          show pages.getD number [] = items
          rw [List.getD_eq_getElem?_getD, ← List.head?_drop, hdrop]
          rfl
        have hrest : pages.drop (number + 1) = rest := by
          rw [← List.drop_drop, hdrop, List.drop_one, List.tail_cons]
        rw [hitems] at hfetch
        cases rest with
        | nil =>
            have hlast : ¬ number + 1 < pages.length := by simp only [List.length_nil] at hlength; omega
            have hnext : (paged pages number).next = none := if_neg hlast
            rw [hnext] at hfetch
            exact .last hfetch
        | cons items' rest' =>
            have hmiddle : number + 1 < pages.length := by simp only [List.length_cons] at hlength; omega
            have hnext : (paged pages number).next = some (number + 1) := if_pos hmiddle
            rw [hnext] at hfetch
            exact .more hfetch (ih _ _ hrest (List.cons_ne_nil _ _) (hmore number))
  exact hfrom pages 0 none rfl hpages hfirst

end Pagination
