import Mathlib.Init

/-!
# `Lib.Session` — procedures that run database transactions, with a weakest-precondition calculus

Two monads over a database state `σ`, an outside world `ω` and exceptions `ε`:

- `Tx`, the body of one transaction. It works on its own copy of the state. An exception discards that
  copy (rollback), but **not** what the body did to the world: a message sent from inside a transaction
  stays sent.
- `Proc`, a procedure that opens transactions one after another. Its `Store` remembers every state that
  was ever committed, so a statement about all reachable states is a statement about that history.

`Tx.wp` and `Proc.wp` turn a claim about an outcome into a claim about the start; the `wp_*` lemmas push
them through every construct.
-/

namespace Session

variable {σ ω ε α β : Type}

/-! ## Transaction bodies -/

/-- The body of a transaction: an exception rolls the state back and leaves the world as it is. -/
def Tx (σ ω ε α : Type) : Type := σ → ω → Except ε (α × σ) × ω

namespace Tx

instance : Monad (Tx σ ω ε) where
  pure a := fun s w => (.ok (a, s), w)
  bind t f := fun s w => match t s w with
    | (.ok (a, s'), w') => f a s' w'
    | (.error e, w')    => (.error e, w')

theorem bind_apply (t : Tx σ ω ε α) (f : α → Tx σ ω ε β) (s : σ) (w : ω) :
    (t >>= f) s w = match t s w with
      | (.ok (a, s'), w') => f a s' w'
      | (.error e, w')    => (.error e, w') := rfl

/-- The state as the transaction sees it. -/
def get : Tx σ ω ε σ := fun s w => (.ok (s, s), w)

/-- Change the transaction's copy of the state. -/
def modify (f : σ → σ) : Tx σ ω ε Unit := fun s w => (.ok ((), f s), w)

/-- Raise an exception. -/
def raise (e : ε) : Tx σ ω ε α := fun _ w => (.error e, w)

/-- The outcome of a computation that touches neither state nor world. -/
def ofExcept (x : Except ε α) : Tx σ ω ε α := fun s w => match x with
  | .ok a    => (.ok (a, s), w)
  | .error e => (.error e, w)

/-- An operation with no effect here that may fail: raise the fault, if there is one. -/
def mayRaise (fault : Option ε) : Tx σ ω ε Unit := match fault with
  | none   => pure ()
  | some e => raise e

/-- Raise `e` unless `c` holds. -/
def require (c : Prop) [Decidable c] (e : ε) : Tx σ ω ε Unit := if c then pure () else raise e

/-- The value that is there; raise `e` if there is none. -/
def expect (o : Option α) (e : ε) : Tx σ ω ε α := match o with
  | some a => pure a
  | none   => raise e

/-- Act on the world. -/
def act (f : ω → ω) : Tx σ ω ε Unit := fun s w => (.ok ((), s), f w)

/-- `Q` holds if the body finishes, `E` if it raises. -/
def wp (t : Tx σ ω ε α) (Q : α → σ → ω → Prop) (E : ε → ω → Prop) (s : σ) (w : ω) : Prop :=
  match t s w with
  | (.ok (a, s'), w') => Q a s' w'
  | (.error e, w')    => E e w'

variable {Q Q' : α → σ → ω → Prop} {R : β → σ → ω → Prop} {E E' : ε → ω → Prop} {s : σ} {w : ω}

@[simp] theorem wp_pure {a : α} : wp (pure a : Tx σ ω ε α) Q E s w ↔ Q a s w := Iff.rfl

@[simp] theorem wp_bind {t : Tx σ ω ε α} {f : α → Tx σ ω ε β} :
    wp (t >>= f) R E s w ↔ wp t (fun a s' w' => wp (f a) R E s' w') E s w := by
  simp only [wp, bind_apply]
  rcases t s w with ⟨_ | ⟨_, _⟩, _⟩ <;> exact Iff.rfl

@[simp] theorem wp_get {Q : σ → σ → ω → Prop} : wp (get : Tx σ ω ε σ) Q E s w ↔ Q s s w := Iff.rfl

@[simp] theorem wp_modify {f : σ → σ} {Q : Unit → σ → ω → Prop} :
    wp (modify f : Tx σ ω ε Unit) Q E s w ↔ Q () (f s) w := Iff.rfl

@[simp] theorem wp_raise {e : ε} : wp (raise e : Tx σ ω ε α) Q E s w ↔ E e w := Iff.rfl

@[simp] theorem wp_act {f : ω → ω} {Q : Unit → σ → ω → Prop} :
    wp (act f : Tx σ ω ε Unit) Q E s w ↔ Q () s (f w) := Iff.rfl

@[simp] theorem wp_ofExcept_ok {a : α} : wp (ofExcept (.ok a) : Tx σ ω ε α) Q E s w ↔ Q a s w := Iff.rfl

@[simp] theorem wp_ofExcept_error {e : ε} :
    wp (ofExcept (.error e) : Tx σ ω ε α) Q E s w ↔ E e w := Iff.rfl

/-- A computed outcome: the continuation for its value, the exceptional case for its exception. -/
theorem wp_ofExcept {x : Except ε α} (hok : ∀ a, x = .ok a → Q a s w)
    (herr : ∀ e, x = .error e → E e w) : wp (ofExcept x : Tx σ ω ε α) Q E s w := by
  cases x with
  | ok a    => exact hok a rfl
  | error e => exact herr e rfl

theorem wp_mayRaise {fault : Option ε} {Q : Unit → σ → ω → Prop} (hok : fault = none → Q () s w)
    (herr : ∀ e, fault = some e → E e w) : wp (mayRaise fault : Tx σ ω ε Unit) Q E s w := by
  cases fault with
  | none   => exact hok rfl
  | some e => exact herr e rfl

theorem wp_require {c : Prop} [Decidable c] {e : ε} {Q : Unit → σ → ω → Prop}
    (hok : c → Q () s w) (herr : ¬ c → E e w) : wp (require c e : Tx σ ω ε Unit) Q E s w := by
  unfold require
  by_cases hc : c
  · rw [if_pos hc]; exact hok hc
  · rw [if_neg hc]; exact herr hc

theorem wp_expect {o : Option α} {e : ε} (hok : ∀ a, o = some a → Q a s w)
    (herr : o = none → E e w) : wp (expect o e : Tx σ ω ε α) Q E s w := by
  cases o with
  | some a => exact hok a rfl
  | none   => exact herr rfl

theorem wp_mono {t : Tx σ ω ε α} (h : wp t Q E s w) (hQ : ∀ a s' w', Q a s' w' → Q' a s' w')
    (hE : ∀ e w', E e w' → E' e w') : wp t Q' E' s w := by
  unfold wp at h ⊢
  rcases ht : t s w with ⟨_ | ⟨_, _⟩, _⟩ <;> rw [ht] at h
  · exact hE _ _ h
  · exact hQ _ _ _ h

end Tx

/-! ## Procedures -/

/-- A database with the history of what was committed to it (newest first), and the outside world. -/
structure Store (σ ω : Type) where
  current   : σ
  committed : List σ
  world     : ω

namespace Store

/-- A freshly opened database: its state counts as committed. -/
def opened (s : σ) (w : ω) : Store σ ω := ⟨s, [s], w⟩

/-- Publish `s`. -/
def commit (st : Store σ ω) (s : σ) (w : ω) : Store σ ω := ⟨s, s :: st.committed, w⟩

/-- The world moved on, nothing was published. -/
def rollback (st : Store σ ω) (w : ω) : Store σ ω := { st with world := w }

@[simp] theorem commit_current (st : Store σ ω) (s : σ) (w : ω) : (st.commit s w).current = s := rfl
@[simp] theorem commit_world (st : Store σ ω) (s : σ) (w : ω) : (st.commit s w).world = w := rfl
@[simp] theorem rollback_current (st : Store σ ω) (w : ω) : (st.rollback w).current = st.current := rfl
@[simp] theorem rollback_world (st : Store σ ω) (w : ω) : (st.rollback w).world = w := rfl
@[simp] theorem opened_current (s : σ) (w : ω) : (opened s w).current = s := rfl
@[simp] theorem opened_world (s : σ) (w : ω) : (opened s w).world = w := rfl

/-- `I` holds now and held in every committed state. -/
def Keeps (st : Store σ ω) (I : σ → Prop) : Prop := I st.current ∧ ∀ s ∈ st.committed, I s

variable {st : Store σ ω} {I : σ → Prop}

theorem Keeps.opened {s : σ} {w : ω} (h : I s) : (Store.opened s w).Keeps I :=
  ⟨h, by intro s' hs'; rw [List.mem_singleton.mp hs']; exact h⟩

theorem Keeps.commit {s : σ} {w : ω} (h : st.Keeps I) (hs : I s) : (st.commit s w).Keeps I := by
  refine ⟨hs, ?_⟩
  intro s' hs'
  rcases List.mem_cons.mp hs' with rfl | hs'
  · exact hs
  · exact h.2 s' hs'

theorem Keeps.rollback {w : ω} (h : st.Keeps I) : (st.rollback w).Keeps I := h

theorem Keeps.mono {J : σ → Prop} (h : st.Keeps I) (hIJ : ∀ s, I s → J s) : st.Keeps J :=
  ⟨hIJ _ h.1, fun s hs => hIJ s (h.2 s hs)⟩

end Store

/-- A procedure: what it committed before an exception stays committed. -/
def Proc (σ ω ε α : Type) : Type := Store σ ω → Except ε α × Store σ ω

namespace Proc

instance : Monad (Proc σ ω ε) where
  pure a := fun st => (.ok a, st)
  bind p f := fun st => match p st with
    | (.ok a, st')    => f a st'
    | (.error e, st') => (.error e, st')

theorem bind_apply (p : Proc σ ω ε α) (f : α → Proc σ ω ε β) (st : Store σ ω) :
    (p >>= f) st = match p st with
      | (.ok a, st')    => f a st'
      | (.error e, st') => (.error e, st') := rfl

/-- Raise an exception. -/
def raise (e : ε) : Proc σ ω ε α := fun st => (.error e, st)

/-- The outcome of a computation that touches neither the database nor the world. -/
def ofExcept (x : Except ε α) : Proc σ ω ε α := fun st => (x, st)

/-- `try p except e: h e`. -/
def tryCatch (p : Proc σ ω ε α) (h : ε → Proc σ ω ε α) : Proc σ ω ε α := fun st =>
  match p st with
  | (.ok a, st')    => (.ok a, st')
  | (.error e, st') => h e st'

/-- Run `p` and hand over how it ended: `try … except` with the handler chosen by the caller. -/
def attempt (p : Proc σ ω ε α) : Proc σ ω ε (Except ε α) := fun st =>
  match p st with
  | (r, st') => (.ok r, st')

/-- Run a transaction and commit it; an exception rolls it back. -/
def withSession (t : Tx σ ω ε α) : Proc σ ω ε α := fun st =>
  match t st.current st.world with
  | (.ok (a, s), w) => (.ok a, st.commit s w)
  | (.error e, w)   => (.error e, st.rollback w)

/-- Run a transaction that only reads: nothing is committed. -/
def readSession (t : Tx σ ω ε α) : Proc σ ω ε α := fun st =>
  match t st.current st.world with
  | (.ok (a, _), w) => (.ok a, st.rollback w)
  | (.error e, w)   => (.error e, st.rollback w)

/-- `Q` holds if the procedure returns, `E` if it raises. -/
def wp (p : Proc σ ω ε α) (Q : α → Store σ ω → Prop) (E : ε → Store σ ω → Prop)
    (st : Store σ ω) : Prop :=
  match p st with
  | (.ok a, st')    => Q a st'
  | (.error e, st') => E e st'

variable {Q Q' : α → Store σ ω → Prop} {R : β → Store σ ω → Prop} {E E' : ε → Store σ ω → Prop}
variable {st : Store σ ω}

@[simp] theorem wp_pure {a : α} : wp (pure a : Proc σ ω ε α) Q E st ↔ Q a st := Iff.rfl

@[simp] theorem wp_bind {p : Proc σ ω ε α} {f : α → Proc σ ω ε β} :
    wp (p >>= f) R E st ↔ wp p (fun a st' => wp (f a) R E st') E st := by
  simp only [wp, bind_apply]
  rcases p st with ⟨_ | _, _⟩ <;> exact Iff.rfl

@[simp] theorem wp_raise {e : ε} : wp (raise e : Proc σ ω ε α) Q E st ↔ E e st := Iff.rfl

@[simp] theorem wp_ofExcept_ok {a : α} : wp (ofExcept (.ok a) : Proc σ ω ε α) Q E st ↔ Q a st := Iff.rfl

theorem wp_ofExcept {x : Except ε α} (hok : ∀ a, x = .ok a → Q a st)
    (herr : ∀ e, x = .error e → E e st) : wp (ofExcept x : Proc σ ω ε α) Q E st := by
  cases x with
  | ok a    => exact hok a rfl
  | error e => exact herr e rfl

@[simp] theorem wp_tryCatch {p : Proc σ ω ε α} {h : ε → Proc σ ω ε α} :
    wp (tryCatch p h) Q E st ↔ wp p Q (fun e st' => wp (h e) Q E st') st := by
  unfold wp tryCatch
  rcases p st with ⟨_ | _, _⟩ <;> exact Iff.rfl

@[simp] theorem wp_attempt {p : Proc σ ω ε α} {Q : Except ε α → Store σ ω → Prop} :
    wp (attempt p) Q E st ↔ wp p (fun a st' => Q (.ok a) st') (fun e st' => Q (.error e) st') st := by
  unfold wp attempt
  rcases p st with ⟨_ | _, _⟩ <;> exact Iff.rfl

@[simp] theorem wp_withSession {t : Tx σ ω ε α} :
    wp (withSession t) Q E st ↔
      t.wp (fun a s w => Q a (st.commit s w)) (fun e w => E e (st.rollback w)) st.current st.world := by
  unfold wp withSession Tx.wp
  rcases t st.current st.world with ⟨_ | _, _⟩ <;> exact Iff.rfl

@[simp] theorem wp_readSession {t : Tx σ ω ε α} :
    wp (readSession t) Q E st ↔
      t.wp (fun a _ w => Q a (st.rollback w)) (fun e w => E e (st.rollback w)) st.current st.world := by
  unfold wp readSession Tx.wp
  rcases t st.current st.world with ⟨_ | _, _⟩ <;> exact Iff.rfl

theorem wp_mono {p : Proc σ ω ε α} (h : wp p Q E st) (hQ : ∀ a st', Q a st' → Q' a st')
    (hE : ∀ e st', E e st' → E' e st') : wp p Q' E' st := by
  unfold wp at h ⊢
  rcases hp : p st with ⟨_ | _, _⟩ <;> rw [hp] at h
  · exact hE _ _ h
  · exact hQ _ _ h

/-- Two statements about one procedure are about one and the same end of it. -/
theorem wp_and {p : Proc σ ω ε α} (h : wp p Q E st) (h' : wp p Q' E' st) :
    wp p (fun a st' => Q a st' ∧ Q' a st') (fun e st' => E e st' ∧ E' e st') st := by
  unfold wp at h h' ⊢
  rcases hp : p st with ⟨_ | _, _⟩ <;> rw [hp] at h h' <;> exact ⟨h, h'⟩

/-- The store a procedure leaves behind, whether it returned or raised. -/
def exec (p : Proc σ ω ε α) (st : Store σ ω) : Store σ ω := (p st).2

/-- What holds after both outcomes holds of the store left behind. -/
theorem exec_of_wp {p : Proc σ ω ε α} {P : Store σ ω → Prop}
    (h : wp p (fun _ st' => P st') (fun _ st' => P st') st) : P (p.exec st) := by
  unfold wp at h; unfold exec
  rcases hp : p st with ⟨_ | _, _⟩ <;> rw [hp] at h <;> exact h

end Proc

end Session
