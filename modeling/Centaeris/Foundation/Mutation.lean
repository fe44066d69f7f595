import Centaeris.Foundation.Outcome

namespace Foundation

/-!
# Calls that change a state and may fail

A method on a mutable state can fail after it has already written to the state.  So a
call returns its outcome together with the state it leaves behind, also when it fails.
-/

/-- A call on a state `σ` with a result `α`. -/
def Mutation (σ α : Type) : Type := σ → Outcome α × σ

namespace Mutation

variable {σ α β γ : Type}

instance : Monad (Mutation σ) where
  pure a := fun s => (.ok a, s)
  bind m f := fun s =>
    match m s with
    | (.ok a, s') => f a s'
    | (.error e, s') => (.error e, s')

/-- A call that only reads, a write that cannot fail. -/
def query (f : σ → Outcome α) : Mutation σ α := fun s => (f s, s)

def update (f : σ → σ) : Mutation σ Unit := fun s => (.ok (), f s)

/-- The call made on a copy that replaces the state on success only. -/
def onCopy (m : Mutation σ α) : Mutation σ α := fun s =>
  match m s with
  | (.ok a, s') => (.ok a, s')
  | (.error e, _) => (.error e, s)

/-! ### Inversion -/

variable {m : Mutation σ α} {f : α → Mutation σ β} {s s' : σ} {a : α} {b : β} {e : Failure}

@[simp] theorem pure_eq {s : σ} : (pure a : Mutation σ α) s = (.ok a, s) := rfl

variable {q : σ → Outcome α}

@[simp] theorem query_eq : query q s = (q s, s) := rfl

variable {w : σ → σ}

@[simp] theorem update_eq : update w s = (.ok (), w s) := rfl

/-- A sequence of two calls succeeds exactly when both do, the second one on the state that
    the first one leaves. -/
theorem bind_eq_ok : (m >>= f) s = (.ok b, s') ↔
    ∃ a t, m s = (.ok a, t) ∧ f a t = (.ok b, s') := by
  show (match m s with | (.ok a, t) => f a t | (.error e, t) => (.error e, t)) = _ ↔ _
  cases h : m s with
  | mk outcome t =>
    cases outcome with
    | ok a => simp
    | error e => simp

/-- A sequence of two calls fails when the first one does, or the second one on the state
    that the first one leaves. -/
theorem bind_eq_error : (m >>= f) s = (.error e, s') ↔
    m s = (.error e, s') ∨ ∃ a t, m s = (.ok a, t) ∧ f a t = (.error e, s') := by
  show (match m s with | (.ok a, t) => f a t | (.error e, t) => (.error e, t)) = _ ↔ _
  cases h : m s with
  | mk outcome t =>
    cases outcome with
    | ok a => simp
    | error e => simp

theorem query_bind_of_ok (h : q s = .ok a) : (query q >>= f) s = f a s := by
  show (match (q s, s) with | (.ok a, t) => f a t | (.error e, t) => (.error e, t)) = _
  rw [h]

theorem query_bind_of_error (h : q s = .error e) :
    (query q >>= f) s = (.error e, s) := by
  show (match (q s, s) with | (.ok a, t) => f a t | (.error e, t) => (.error e, t)) = _
  rw [h]

theorem query_bind_eq_ok :
    (query q >>= f) s = (.ok b, s') ↔ ∃ a, q s = .ok a ∧ f a s = (.ok b, s') := by
  simp [bind_eq_ok]

/-- A call that reads first fails there, with the state as it was, or later. -/
theorem query_bind_eq_error :
    (query q >>= f) s = (.error e, s') ↔
      (q s = .error e ∧ s = s') ∨ ∃ a, q s = .ok a ∧ f a s = (.error e, s') := by
  simp [bind_eq_error]

variable {g : Unit → Mutation σ β}

theorem update_bind_eq :
    (update w >>= g) s = g () (w s) := rfl

/-! ### What a call leaves alone -/

/-- A call leaves a part of the state alone, however it ends. -/
def Keeps (view : σ → γ) (m : Mutation σ α) : Prop := ∀ s, view (m s).2 = view s

variable {view : σ → γ}

theorem Keeps.pure (a : α) : Keeps view (Pure.pure a : Mutation σ α) := fun _ => rfl

theorem Keeps.query (q : σ → Outcome α) : Keeps view (query q) := fun _ => rfl

theorem Keeps.update (h : ∀ s, view (w s) = view s) : Keeps view (update w) := h

theorem Keeps.bind (hm : Keeps view m) (hf : ∀ a, Keeps view (f a)) :
    Keeps view (m >>= f) := by
  intro s
  have hfst := hm s
  show view (match m s with | (.ok a, t) => f a t | (.error e, t) => (.error e, t)).2 = _
  cases h : m s with
  | mk outcome t =>
    rw [h] at hfst
    cases outcome with
    | ok a => exact (hf a t).trans hfst
    | error e => exact hfst

/-- A call that fails leaves the whole state alone. -/
def Atomic (m : Mutation σ α) : Prop := ∀ s e s', m s = (.error e, s') → s' = s

theorem Atomic.query (q : σ → Outcome α) : Atomic (query q) := by
  intro s e s' h
  exact (Prod.mk.inj h).2.symm

theorem Atomic.onCopy (m : Mutation σ α) : Atomic (onCopy m) := by
  intro s e s' h
  unfold Mutation.onCopy at h
  cases hm : m s with
  | mk outcome t =>
    rw [hm] at h
    cases outcome with
    | ok a => cases h
    | error e => exact (Prod.mk.inj h).2.symm

/-- Reading first does not spoil atomicity. -/
theorem Atomic.query_bind (hf : ∀ a, Atomic (f a)) :
    Atomic (Mutation.query q >>= f) := by
  intro s e s' h
  rcases query_bind_eq_error.mp h with ⟨-, rfl⟩ | ⟨a, -, h⟩
  · rfl
  · exact hf a s e s' h

theorem Atomic.pure (a : α) : Atomic (Pure.pure a : Mutation σ α) := by
  intro s e s' h
  cases (Prod.mk.inj h).1

theorem Atomic.update (w : σ → σ) : Atomic (Mutation.update w) := by
  intro s e s' h
  cases (Prod.mk.inj h).1

/-! ### Calls that write before they fail -/

/-- The call, when it fails on `s`, keeps what `view` reads, and has changed the state exactly
    when `P` holds. -/
def FailsAt (view : σ → γ) (P : Prop) (m : Mutation σ α) (s : σ) : Prop :=
  ∀ e s', m s = (.error e, s') → view s' = view s ∧ (s' = s ↔ ¬ P)

namespace FailsAt

variable {P Q : Prop}

theorem congr (h : FailsAt view P m s) (hiff : P ↔ Q) : FailsAt view Q m s := by
  intro e s' hfail
  rw [← hiff]
  exact h e s' hfail

theorem of_atomic (h : Atomic m) (hnone : ¬ P) : FailsAt view P m s := by
  intro e s' hfail
  obtain rfl := h s e s' hfail
  exact ⟨rfl, fun _ => hnone, fun _ => rfl⟩

/-- A call that reads first fails there, with nothing written, or as what follows. -/
theorem query_bind (h : ∀ a, q s = .ok a → FailsAt view P (f a) s) (hread : P → ∃ a, q s = .ok a) :
    FailsAt view P (Mutation.query q >>= f) s := by
  intro e s' hfail
  rcases query_bind_eq_error.mp hfail with ⟨hfailed, rfl⟩ | ⟨a, ha, hfail⟩
  · refine ⟨rfl, fun _ hP => ?_, fun _ => rfl⟩
    obtain ⟨a, ha⟩ := hread hP
    rw [hfailed] at ha
    cases ha
  · exact h a ha e s' hfail

theorem query_bind_exists {P : α → Prop} (h : ∀ a, q s = .ok a → FailsAt view (P a) (f a) s) :
    FailsAt view (∃ a, q s = .ok a ∧ P a) (Mutation.query q >>= f) s := by
  refine .query_bind (fun a ha => (h a ha).congr ?_) fun ⟨a, ha, _⟩ => ⟨a, ha⟩
  simp [ha]

/-- A write stays when what follows fails. -/
theorem update_bind (hg : Atomic (g ())) (hview : view (w s) = view s)
    (hP : ∀ e, g () (w s) = (.error e, w s) → (P ↔ w s ≠ s)) :
    FailsAt view P (Mutation.update w >>= g) s := by
  intro e s' hfail
  rw [update_bind_eq] at hfail
  obtain rfl := hg (w s) e s' hfail
  rw [hP e hfail, not_not]
  exact ⟨hview, Iff.rfl⟩

/-- What follows the call cannot fail. -/
theorem bind_sure (h : FailsAt view P m s) (hf : ∀ a t, ∃ b, (f a t).1 = .ok b) :
    FailsAt view P (m >>= f) s := by
  intro e s' hfail
  rcases bind_eq_error.mp hfail with hfail | ⟨a, t, -, hfail⟩
  · exact h e s' hfail
  · obtain ⟨b, hb⟩ := hf a t
    rw [hfail] at hb
    cases hb

end FailsAt

end Mutation

end Foundation
