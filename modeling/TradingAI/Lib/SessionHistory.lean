import TradingAI.Lib.SessionKeeps
import Mathlib.Order.Defs.Unbundled

/-!
# `Lib.SessionHistory` — how each committed state leads to the next

`Lib.SessionKeeps` is about one state at a time. Here `R` relates a state to a later one. A transaction
`Extends` `R` if what it leaves is related to what it found; then the history of a store, which is every
state ever committed, is a chain of `R`. `R` is to be reflexive, since a transaction may leave everything
alone, and transitive, since it may write more than once.
-/

namespace Session

variable {σ ω ε α β : Type} {R : σ → σ → Prop}

/-! ## Transactions -/

/-- What the body leaves is related to what it found. -/
def Tx.Extends (R : σ → σ → Prop) (t : Tx σ ω ε α) : Prop := ∀ s, t.Leaves (fun _ s' => R s s') s

namespace Tx

section
variable [Std.Refl R]

theorem Extends.pure {a : α} : (Pure.pure a : Tx σ ω ε α).Extends R := fun _ => .pure (refl_of R _)

theorem Extends.get : (get : Tx σ ω ε σ).Extends R := fun _ => Leaves.get.mono fun _ _ h => h.2 ▸ refl_of R _

theorem Extends.mayRaise {fault : Option ε} : (Tx.mayRaise fault : Tx σ ω ε Unit).Extends R :=
  fun _ => Leaves.mayRaise.mono fun _ _ h => h ▸ refl_of R _

theorem Extends.ofExcept {x : Except ε α} : (Tx.ofExcept x : Tx σ ω ε α).Extends R :=
  fun _ => Leaves.ofExcept.mono fun _ _ h => h.2 ▸ refl_of R _

theorem Extends.require {c : Prop} [Decidable c] {e : ε} : (Tx.require c e : Tx σ ω ε Unit).Extends R :=
  fun _ => Leaves.require.mono fun _ _ h => h.2 ▸ refl_of R _

theorem Extends.expect {o : Option α} {e : ε} : (Tx.expect o e : Tx σ ω ε α).Extends R :=
  fun _ => Leaves.expect.mono fun _ _ h => h.2 ▸ refl_of R _

end

theorem Extends.modify {f : σ → σ} (h : ∀ s, R s (f s)) : (Tx.modify f : Tx σ ω ε Unit).Extends R :=
  fun s => Leaves.modify.mono fun _ _ hs => hs ▸ h s

theorem Extends.bind [IsTrans σ R] {t : Tx σ ω ε α} {f : α → Tx σ ω ε β} (ht : t.Extends R)
    (hf : ∀ a, (f a).Extends R) : (t >>= f).Extends R := fun s =>
  (ht s).bind fun a s' hs => (hf a s').mono fun _ _ hs' => trans_of R hs hs'

end Tx

/-! ## Stores -/

/-- Every committed state leads to every later one, and to the current. -/
structure Store.Chained (R : σ → σ → Prop) (st : Store σ ω) : Prop where
  current : ∀ s ∈ st.committed, R s st.current
  history : st.committed.Pairwise fun later earlier => R earlier later

variable {st : Store σ ω}

theorem Store.Chained.opened [Std.Refl R] {s : σ} {w : ω} : (Store.opened s w).Chained R := by
  refine ⟨fun s' hs' => ?_, List.pairwise_singleton _ _⟩
  rw [List.mem_singleton.mp hs']
  exact refl_of R s

theorem Store.Chained.commit [Std.Refl R] [IsTrans σ R] (h : st.Chained R) {s : σ} {w : ω}
    (hs : R st.current s) : (st.commit s w).Chained R := by
  have hall : ∀ s' ∈ st.committed, R s' s := fun s' hs' => trans_of R (h.current s' hs') hs
  refine ⟨fun s' hs' => ?_, List.pairwise_cons.mpr ⟨hall, h.history⟩⟩
  rcases List.mem_cons.mp hs' with rfl | hs'
  · exact refl_of R s'
  · exact hall s' hs'

theorem Store.Chained.rollback (h : st.Chained R) {w : ω} : (st.rollback w).Chained R := ⟨h.current, h.history⟩

/-! ## Procedures -/

/-- The history stays a chain, however the procedure ends. -/
def Proc.Extends (R : σ → σ → Prop) (p : Proc σ ω ε α) : Prop :=
  ∀ st, st.Chained R → p.wp (fun _ st' => st'.Chained R) (fun _ st' => st'.Chained R) st

namespace Proc

theorem Extends.pure {a : α} : (Pure.pure a : Proc σ ω ε α).Extends R := fun _ hst => hst

theorem Extends.raise {e : ε} : (Proc.raise e : Proc σ ω ε α).Extends R := fun _ hst => hst

theorem Extends.ofExcept {x : Except ε α} : (Proc.ofExcept x : Proc σ ω ε α).Extends R :=
  fun _ hst => wp_ofExcept (fun _ _ => hst) fun _ _ => hst

theorem Extends.bind {p : Proc σ ω ε α} {f : α → Proc σ ω ε β} (hp : p.Extends R)
    (hf : ∀ a, (f a).Extends R) : (p >>= f).Extends R := by
  intro st hst
  rw [wp_bind]
  exact wp_mono (hp st hst) (fun a st' hst' => hf a st' hst') fun _ _ => id

/-- A transaction that extends is committed as the next link. -/
theorem Extends.withSession [Std.Refl R] [IsTrans σ R] {t : Tx σ ω ε α} (ht : t.Extends R) :
    (Proc.withSession t).Extends R := by
  intro st hst
  rw [wp_withSession]
  exact Tx.wp_mono (ht st.current st.world) (fun _ _ _ hs => hst.commit hs) fun _ _ _ => hst.rollback

theorem Extends.readSession {t : Tx σ ω ε α} : (Proc.readSession t).Extends R := by
  intro st hst
  rw [wp_readSession]
  exact Tx.wp_mono (Q := fun _ _ _ => True) (E := fun _ _ => True) (by unfold Tx.wp; split <;> trivial)
    (fun _ _ _ _ => hst.rollback) fun _ _ _ => hst.rollback

theorem Extends.attempt {p : Proc σ ω ε α} (hp : p.Extends R) : (Proc.attempt p).Extends R := by
  intro st hst
  rw [wp_attempt]
  exact hp st hst

theorem Extends.tryCatch {p : Proc σ ω ε α} {handler : ε → Proc σ ω ε α} (hp : p.Extends R)
    (hhandler : ∀ e, (handler e).Extends R) : (Proc.tryCatch p handler).Extends R := by
  intro st hst
  rw [wp_tryCatch]
  exact wp_mono (hp st hst) (fun _ _ h => h) fun e st' h => hhandler e st' h

/-- **The history a procedure leaves**, whether it returned or raised. -/
theorem Extends.exec {p : Proc σ ω ε α} (hp : p.Extends R) (hst : st.Chained R) : (p.exec st).Chained R :=
  exec_of_wp (hp st hst)

end Proc

end Session
