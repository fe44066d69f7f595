import Centaeris.Foundation.Outcome

namespace Foundation

open List

/-!
# Loops that stop at the first failure

Rules for such loops, over one list or over two.
-/

variable {ε α β σ τ : Type}

variable {as : List α} {bs : List β}

/-- A loop that maps a list succeeds when it does so element by element. -/
theorem mapM_eq_ok_iff {f : α → Except ε β} :
    as.mapM f = .ok bs ↔ List.Forall₂ (fun a b => f a = .ok b) as bs := by
  induction as generalizing bs with
  | nil => simp [pure, Except.pure, eq_comm]
  | cons a as ih =>
    simp only [mapM_cons, Outcome.ok_rules, ih]
    constructor
    · rintro ⟨b, hb, rest, hrest, rfl⟩
      exact .cons hb hrest
    · rintro (_ | ⟨hb, hrest⟩)
      exact ⟨_, hb, _, hrest, rfl⟩

theorem exists_mapM_eq_ok {f : α → Except ε β} (h : ∀ a ∈ as, ∃ b, f a = .ok b) :
    ∃ bs, as.mapM f = .ok bs := by
  induction as with
  | nil => exact ⟨[], rfl⟩
  | cons a as ih =>
    rw [forall_mem_cons] at h
    obtain ⟨b, hb⟩ := h.1
    obtain ⟨bs, hbs⟩ := ih h.2
    exact ⟨b :: bs, mapM_eq_ok_iff.mpr (.cons hb (mapM_eq_ok_iff.mp hbs))⟩

theorem forM_eq_ok {f : α → Except ε Unit} (h : ∀ a ∈ as, f a = .ok ()) : as.forM f = .ok () := by
  induction as with
  | nil => rfl
  | cons a as ih =>
    rw [forall_mem_cons] at h
    rw [List.forM, h.1, Outcome.ok_bind]
    exact ih h.2

variable {R : α → β → Prop}

/-- Of two lists that belong together, each element of the second belongs to one of the
    first. -/
theorem exists_of_mem_forall₂ {b : β} (h : List.Forall₂ R as bs) (hb : b ∈ bs) :
    ∃ a ∈ as, R a b := by
  induction h with
  | nil => cases hb
  | @cons a b' as bs hfst _ ih =>
    rcases mem_cons.mp hb with rfl | hb
    · exact ⟨a, mem_cons_self, hfst⟩
    · obtain ⟨a', ha', hrelated⟩ := ih hb
      exact ⟨a', mem_cons_of_mem a ha', hrelated⟩

/-- A loop that goes back from results to elements. -/
theorem mapM_eq_ok_of_forall₂ {g : β → Except ε α} (h : List.Forall₂ R as bs)
    (hback : ∀ a ∈ as, ∀ b ∈ bs, R a b → g b = .ok a) :
    bs.mapM g = .ok as := by
  rw [mapM_eq_ok_iff]
  induction h with
  | nil => exact .nil
  | @cons a b as bs hfst _ ih =>
    refine .cons (hback a mem_cons_self b mem_cons_self hfst) (ih ?_)
    intro a' ha' b' hb'
    exact hback a' (mem_cons_of_mem a ha') b' (mem_cons_of_mem b hb')

variable {message : String}

/-- For a partial function the error text plays no role. -/
theorem mapM_orFail_eq_ok_iff {f : α → Option β} :
    as.mapM (fun a => orFail (f a) message) = .ok bs ↔
      List.Forall₂ (fun a b => f a = some b) as bs := by
  simp only [mapM_eq_ok_iff, orFail_eq_ok]

theorem mapM_orPanic_eq_ok_iff {f : α → Option β} :
    as.mapM (fun a => orPanic (f a) message) = .ok bs ↔
      List.Forall₂ (fun a b => f a = some b) as bs := by
  simp only [mapM_eq_ok_iff, orPanic_eq_ok]

variable {s : σ}

/-- A loop follows another one exactly as long as the elements meet a condition. -/
theorem foldlM_guarded_iff {step : σ → β → Outcome σ} {step' : τ → α → Outcome τ} (wrap : σ → τ)
    (belongs : α → β → Prop) (good : β → Prop)
    (hstep : ∀ s s' a b, belongs a b → step s b = .ok s' →
      ∀ t, step' (wrap s) a = .ok t ↔ good b ∧ t = wrap s') (hlists : List.Forall₂ belongs as bs)
    {s' : σ} (hrun : bs.foldlM step s = .ok s') (t : τ) :
    as.foldlM step' (wrap s) = .ok t ↔ (∀ b ∈ bs, good b) ∧ t = wrap s' := by
  induction hlists generalizing s with
  | nil =>
    obtain rfl := Outcome.pure_eq_ok.mp hrun
    simp [pure, Except.pure, eq_comm]
  | @cons a b as bs hbelongs _ ih =>
    rw [foldlM_cons, Outcome.bind_eq_ok] at hrun
    obtain ⟨mid, hfst, hrest⟩ := hrun
    rw [foldlM_cons, Outcome.bind_eq_ok]
    simp only [hstep s mid a b hbelongs hfst, forall_mem_cons]
    constructor
    · rintro ⟨_, ⟨hgood, rfl⟩, haft⟩
      obtain ⟨hall, hend⟩ := (ih hrest).mp haft
      exact ⟨⟨hgood, hall⟩, hend⟩
    · rintro ⟨⟨hgood, hall⟩, hend⟩
      exact ⟨_, ⟨hgood, rfl⟩, (ih hrest).mpr ⟨hall, hend⟩⟩

/-! ### Failures that do not occur -/

/-- A computation never fails in certain ways, with a rule for each way of putting computations
    together. -/
def Outcome.Avoids (bad : Failure → Prop) (x : Outcome α) : Prop :=
  ∀ failure, x = .error failure → ¬ bad failure

section Avoids

variable {bad : Failure → Prop}

theorem Outcome.Avoids.pure (a : α) : Outcome.Avoids bad (Pure.pure a : Outcome α) := by
  intro failure h
  cases h

variable {f : α → Outcome β}

theorem Outcome.Avoids.bind {x : Outcome α} (hx : Outcome.Avoids bad x)
    (hf : ∀ a, x = .ok a → Outcome.Avoids bad (f a)) : Outcome.Avoids bad (x >>= f) := by
  intro failure h
  rcases Outcome.bind_eq_error.mp h with hfst | ⟨a, ha, hnext⟩
  · exact hx failure hfst
  · exact hf a ha failure hnext

theorem Outcome.Avoids.fail (h : ¬ bad (.err message)) :
    Outcome.Avoids bad (Foundation.fail message : Outcome α) := by
  intro failure hfail
  cases hfail
  exact h

theorem Outcome.Avoids.ensure {condition : Bool} (h : condition = false → ¬ bad (.err message)) :
    Outcome.Avoids bad (Foundation.ensure condition message) := by
  intro failure hfail
  obtain ⟨hcond, rfl⟩ := ensure_eq_error.mp hfail
  exact h hcond

theorem Outcome.Avoids.orFail {value : Option α} (h : ¬ bad (.err message)) :
    Outcome.Avoids bad (Foundation.orFail value message) := by
  cases value with
  | none => exact .fail h
  | some a => exact .pure a

theorem Outcome.Avoids.mapError {result : Except String α} {message : String → String}
    (h : ∀ error, ¬ bad (.err (message error))) :
    Outcome.Avoids bad (Foundation.mapError result message) := by
  cases result with
  | error error => exact .fail (h error)
  | ok a => exact .pure a

theorem Outcome.Avoids.mapM (h : ∀ a ∈ as, Outcome.Avoids bad (f a)) :
    Outcome.Avoids bad (as.mapM f) := by
  induction as with
  | nil => exact .pure []
  | cons a as ih =>
    rw [mapM_cons]
    refine .bind (h a mem_cons_self) fun b _ => ?_
    exact .bind (ih fun a' ha' => h a' (mem_cons_of_mem a ha')) fun bs _ => .pure _

/-- A loop avoids what its steps avoid, as long as an invariant of the state and of what is
    still to come goes on to hold. -/
theorem Outcome.Avoids.foldlM {step : σ → α → Outcome σ} (Inv : σ → List α → Prop)
    (hstep : ∀ s a rest, Inv s (a :: rest) → Outcome.Avoids bad (step s a) ∧
      ∀ s', step s a = .ok s' → Inv s' rest) (hs : Inv s as) :
    Outcome.Avoids bad (as.foldlM step s) := by
  induction as generalizing s with
  | nil => exact .pure s
  | cons a as ih =>
    obtain ⟨havoids, hnext⟩ := hstep s a as hs
    rw [foldlM_cons]
    exact .bind havoids fun s' hs' => ih (hnext s' hs')

end Avoids

end Foundation
