import TradingAI.Lib.Session

/-!
# `Lib.SessionKeeps` — what a transaction leaves, and what a procedure keeps

A transaction that raises is rolled back, so for an invariant of the committed states it only matters what a
transaction leaves if it ends well: `Tx.Leaves`. A procedure keeps an invariant if each of its transactions
leaves it, however the procedure ends: `Proc.KeepsState`. Each construct has one rule, and a bind hands the
postcondition of its first part to its second.
-/

namespace Session

variable {σ ω ε α β : Type}

/-! ## Transactions -/

namespace Tx

/-- What the body leaves if it ends well, whatever becomes of the world. -/
def Leaves (t : Tx σ ω ε α) (Q : α → σ → Prop) (s : σ) : Prop :=
  ∀ w, t.wp (fun a s' _ => Q a s') (fun _ _ => True) s w

variable {Q Q' : α → σ → Prop} {R : β → σ → Prop} {s : σ}

theorem Leaves.pure {a : α} (h : Q a s) : Leaves (Pure.pure a : Tx σ ω ε α) Q s := fun _ => h

theorem Leaves.bind {t : Tx σ ω ε α} {f : α → Tx σ ω ε β} (ht : t.Leaves Q s)
    (hf : ∀ a s', Q a s' → (f a).Leaves R s') : (t >>= f).Leaves R s := by
  intro w
  rw [wp_bind]
  exact wp_mono (ht w) (fun a s' w' ha => hf a s' ha w') fun _ _ => id

theorem Leaves.mono {t : Tx σ ω ε α} (h : t.Leaves Q s) (hQ : ∀ a s', Q a s' → Q' a s') : t.Leaves Q' s :=
  fun w => wp_mono (h w) (fun a s' _ ha => hQ a s' ha) fun _ _ => id

theorem Leaves.get : Leaves (get : Tx σ ω ε σ) (fun a s' => a = s ∧ s' = s) s := fun _ => ⟨rfl, rfl⟩

theorem Leaves.modify {f : σ → σ} : Leaves (Tx.modify f : Tx σ ω ε Unit) (fun _ s' => s' = f s) s := fun _ => rfl

/-- An operation that may fail leaves the state as it is. -/
theorem Leaves.mayRaise {fault : Option ε} : Leaves (Tx.mayRaise fault : Tx σ ω ε Unit) (fun _ s' => s' = s) s :=
  fun _ => wp_mayRaise (fun _ => rfl) fun _ _ => trivial

theorem Leaves.ofExcept {x : Except ε α} :
    Leaves (Tx.ofExcept x : Tx σ ω ε α) (fun a s' => x = .ok a ∧ s' = s) s :=
  fun _ => wp_ofExcept (fun _ hx => ⟨hx, rfl⟩) fun _ _ => trivial

theorem Leaves.require {c : Prop} [Decidable c] {e : ε} :
    Leaves (Tx.require c e : Tx σ ω ε Unit) (fun _ s' => c ∧ s' = s) s :=
  fun _ => wp_require (fun hc => ⟨hc, rfl⟩) fun _ => trivial

theorem Leaves.expect {o : Option α} {e : ε} :
    Leaves (Tx.expect o e : Tx σ ω ε α) (fun a s' => o = some a ∧ s' = s) s :=
  fun _ => wp_expect (fun _ ho => ⟨ho, rfl⟩) fun _ => trivial

end Tx

/-! ## Procedures -/

namespace Proc

/-- The invariant holds of every committed state, however the procedure ends, and `R` of what it returns. -/
def KeepsState (p : Proc σ ω ε α) (I : σ → Prop) (R : α → σ → Prop) (st : Store σ ω) : Prop :=
  p.wp (fun a st' => st'.Keeps I ∧ R a st'.current) (fun _ st' => st'.Keeps I) st

variable {I : σ → Prop} {R R' : α → σ → Prop} {S : β → σ → Prop} {st : Store σ ω}

theorem KeepsState.pure {a : α} (hst : st.Keeps I) (h : R a st.current) :
    KeepsState (Pure.pure a : Proc σ ω ε α) I R st := ⟨hst, h⟩

theorem KeepsState.raise {e : ε} (hst : st.Keeps I) : KeepsState (Proc.raise e : Proc σ ω ε α) I R st := hst

theorem KeepsState.ofExcept {x : Except ε α} (hst : st.Keeps I) (h : ∀ a, x = .ok a → R a st.current) :
    KeepsState (Proc.ofExcept x : Proc σ ω ε α) I R st :=
  wp_ofExcept (fun a ha => ⟨hst, h a ha⟩) fun _ _ => hst

theorem KeepsState.bind {p : Proc σ ω ε α} {f : α → Proc σ ω ε β} (hp : p.KeepsState I R st)
    (hf : ∀ a st', st'.Keeps I → R a st'.current → (f a).KeepsState I S st') : (p >>= f).KeepsState I S st := by
  unfold KeepsState
  rw [wp_bind]
  exact wp_mono hp (fun a st' h => hf a st' h.1 h.2) fun _ _ => id

theorem KeepsState.mono {p : Proc σ ω ε α} (h : p.KeepsState I R st) (hR : ∀ a s, R a s → R' a s) :
    p.KeepsState I R' st :=
  wp_mono h (fun _ _ hend => ⟨hend.1, hR _ _ hend.2⟩) fun _ _ => id

/-- **A transaction of a procedure** has to leave the invariant. -/
theorem KeepsState.withSession {t : Tx σ ω ε α} (hst : st.Keeps I)
    (h : t.Leaves (fun a s => I s ∧ R a s) st.current) : (Proc.withSession t).KeepsState I R st := by
  unfold KeepsState
  rw [wp_withSession]
  exact Tx.wp_mono (h st.world) (fun _ _ _ hleft => ⟨hst.commit hleft.1, hleft.2⟩) fun _ _ _ => hst.rollback

/-- A transaction that only reads commits nothing. -/
theorem KeepsState.readSession {t : Tx σ ω ε α} (hst : st.Keeps I) :
    (Proc.readSession t).KeepsState I (fun _ _ => True) st := by
  unfold KeepsState
  rw [wp_readSession]
  exact Tx.wp_mono (Q := fun _ _ _ => True) (E := fun _ _ => True) (by unfold Tx.wp; split <;> trivial)
    (fun _ _ _ _ => ⟨hst.rollback, trivial⟩) fun _ _ _ => hst.rollback

/-- An attempt ends like what it attempts, and says how. -/
theorem KeepsState.attempt {p : Proc σ ω ε α} (h : p.KeepsState I R st) :
    (Proc.attempt p).KeepsState I (fun r s => ∀ a, r = .ok a → R a s) st := by
  unfold KeepsState
  rw [wp_attempt]
  refine wp_mono h (fun a st' hend => ⟨hend.1, ?_⟩) fun e st' hst' => ⟨hst', ?_⟩
  · rintro _ ⟨⟩
    exact hend.2
  · rintro _ ⟨⟩

theorem KeepsState.tryCatch {p : Proc σ ω ε α} {handler : ε → Proc σ ω ε α} (hp : p.KeepsState I R st)
    (hhandler : ∀ e st', st'.Keeps I → (handler e).KeepsState I R st') :
    (Proc.tryCatch p handler).KeepsState I R st := by
  unfold KeepsState
  rw [wp_tryCatch]
  exact wp_mono hp (fun _ _ h => h) fun e st' h => hhandler e st' h

/-- **The store a procedure leaves**, whether it returned or raised. -/
theorem KeepsState.exec {p : Proc σ ω ε α} (h : p.KeepsState I R st) : (p.exec st).Keeps I :=
  exec_of_wp (wp_mono h (fun _ _ hend => hend.1) fun _ _ hst => hst)

end Proc

end Session
