import Mathlib

namespace Foundation

open List

/-!
# Outcomes of fallible calls

A fallible function either returns a value, returns an error text, or panics.  The
last two are kept apart (a caller can handle an error and cannot handle a panic).
-/

/-- How a call can go wrong: a returned error text, or a panic. -/
inductive Failure where
  | err (message : String)
  | panicked (message : String)
deriving DecidableEq

abbrev Outcome (α : Type) := Except Failure α

/-- An error text, a guard that fails with one, and a value that must be there. -/
def fail {α : Type} (message : String) : Outcome α := .error (.err message)

def ensure (condition : Bool) (message : String) : Outcome Unit :=
  if condition then .ok () else fail message

def orFail {α : Type} (value : Option α) (message : String) : Outcome α :=
  match value with
  | some a => .ok a
  | none => fail message

def orPanic {α : Type} (value : Option α) (message : String) : Outcome α :=
  match value with
  | some a => .ok a
  | none => .error (.panicked message)

/-- A decoder's result with its error text put into a message. -/
def mapError {α : Type} (result : Except String α) (message : String → String) : Outcome α :=
  match result with
  | .ok a => .ok a
  | .error text => fail (message text)

variable {ε α β σ : Type}

instance [DecidableEq α] : DecidableEq (Outcome α)
  | .ok a, .ok b => if h : a = b then isTrue (h ▸ rfl) else isFalse (fun e => h (by cases e; rfl))
  | .error a, .error b =>
    if h : a = b then isTrue (h ▸ rfl) else isFalse (fun e => h (by cases e; rfl))
  | .ok _, .error _ => isFalse nofun
  | .error _, .ok _ => isFalse nofun

variable {condition : Bool} {message : String} {u : Unit}

@[simp] theorem ensure_eq_ok :
    ensure condition message = .ok u ↔ condition = true := by
  unfold ensure
  cases condition <;> simp [fail]

theorem ensure_eq_error {e : Failure} :
    ensure condition message = .error e ↔ condition = false ∧ e = .err message := by
  unfold ensure
  cases condition <;> simp [fail, eq_comm]

variable {a : α}

@[simp] theorem fail_ne_ok : (fail message : Outcome α) ≠ .ok a := by
  simp [fail]

variable {value : Option α}

@[simp] theorem orFail_eq_ok :
    orFail value message = .ok a ↔ value = some a := by
  cases value <;> simp [orFail]

@[simp] theorem orPanic_eq_ok :
    orPanic value message = .ok a ↔ value = some a := by
  cases value <;> simp [orPanic]

@[simp] theorem mapError_eq_ok {result : Except String α} {message : String → String} :
    mapError result message = .ok a ↔ result = .ok a := by
  cases result <;> simp [mapError]

/-! The rules for sequences and loops hold for every type `ε` of failures. -/

variable {x : Except ε α} {f : α → Except ε β} {b : β}

/-- Inversion of a sequence of two calls that succeeded. -/
@[simp] theorem Outcome.bind_eq_ok :
    (x >>= f) = .ok b ↔ ∃ a, x = .ok a ∧ f a = .ok b := by
  cases x with
  | error e => simp [bind, Except.bind]
  | ok a => simp [bind, Except.bind]

variable {e : ε}

/-- It fails when one of them does. -/
theorem Outcome.bind_eq_error :
    (x >>= f) = .error e ↔ x = .error e ∨ ∃ a, x = .ok a ∧ f a = .error e := by
  cases x with
  | error e' => simp [bind, Except.bind]
  | ok a => simp [bind, Except.bind]

/-- A first call that only checks has one possible result. -/
@[simp] theorem exists_unit {p : Unit → Prop} : (∃ u, p u) ↔ p () :=
  ⟨fun ⟨(), h⟩ => h, fun h => ⟨(), h⟩⟩

@[simp] theorem Outcome.pure_eq_ok {b : α} : (pure a : Except ε α) = .ok b ↔ a = b := by
  simp [pure, Except.pure]

/-- Readings of Boolean checks, as one set of rules for `simp`. -/
theorem bool_rules :
    (∀ {a b : Bool}, (a && b) = true ↔ a = true ∧ b = true) ∧
    (∀ {a b : Bool}, (a || b) = true ↔ a = true ∨ b = true) ∧
    (∀ {a b : Bool}, (a || b) = false ↔ a = false ∧ b = false) ∧
    (∀ {a : Bool}, (!a) = true ↔ a = false) ∧
    (∀ {p : Prop} [Decidable p], decide p = true ↔ p) ∧
    (∀ {p : Prop} [Decidable p], decide p = false ↔ ¬p) ∧
    (∀ {α : Type} [BEq α] [LawfulBEq α] {a b : α}, (a == b) = true ↔ a = b) ∧
    (∀ {α : Type} [BEq α] [LawfulBEq α] {a b : α}, (a != b) = true ↔ a ≠ b) := by
  refine ⟨?_, ?_, ?_, ?_, ?_, ?_, ?_, ?_⟩ <;> intros <;> simp

/-- What a successful computation says about its steps, as one set of rules for `simp`. -/
theorem Outcome.ok_rules :
    (∀ {ε α β : Type} {x : Except ε α} {f : α → Except ε β} {b : β},
      (x >>= f) = .ok b ↔ ∃ a, x = .ok a ∧ f a = .ok b) ∧
    (∀ {ε α : Type} {a b : α}, (pure a : Except ε α) = .ok b ↔ a = b) ∧
    (∀ {p : Unit → Prop}, (∃ u, p u) ↔ p ()) ∧
    (∀ {condition : Bool} {message : String} {u : Unit},
      ensure condition message = .ok u ↔ condition = true) ∧
    (∀ {α : Type} {value : Option α} {message : String} {a : α},
      orFail value message = .ok a ↔ value = some a) ∧
    (∀ {α : Type} {value : Option α} {message : String} {a : α},
      orPanic value message = .ok a ↔ value = some a) :=
  ⟨bind_eq_ok, pure_eq_ok, exists_unit, ensure_eq_ok, orFail_eq_ok, orPanic_eq_ok⟩

@[simp] theorem Outcome.ok_bind :
    ((.ok a : Except ε α) >>= f) = f a := rfl

@[simp] theorem Outcome.error_bind :
    ((.error e : Except ε α) >>= f) = .error e := rfl

/-- An optional check succeeds exactly when it succeeds on the value, if there is one. -/
@[simp] theorem Outcome.option_forM_eq_ok {o : Option α} {f : α → Outcome Unit} :
    o.forM f = .ok u ↔ ∀ a ∈ o, f a = .ok () := by
  cases o with
  | none => simp [Option.forM, pure, Except.pure]
  | some a => simp [Option.forM]

/-- A call whose evaluated result is known has succeeded. -/
theorem Outcome.exists_ok_of_map {x : Outcome α} {f : α → β} (h : x.toOption.map f = some b) :
    ∃ a, x = .ok a ∧ f a = b := by
  cases x with
  | error e => cases h
  | ok a => exact ⟨a, rfl, Option.some.inj h⟩

/-! ### Loops that stop at the first failure -/

variable {step : σ → α → Except ε σ} {as : List α} {s s' : σ}

/-- The invariant rule for a loop that threads a state and stops at the first failure. -/
theorem foldlM_invariant (Inv : σ → Prop)
    (hstep : ∀ s s' a, a ∈ as → Inv s → step s a = .ok s' → Inv s') (hs : Inv s)
    (h : as.foldlM step s = .ok s') : Inv s' := by
  induction as generalizing s with
  | nil =>
    rw [foldlM_nil, Outcome.pure_eq_ok] at h
    exact h ▸ hs
  | cons a as ih =>
    rw [foldlM_cons, Outcome.bind_eq_ok] at h
    obtain ⟨s₁, h₁, h₂⟩ := h
    exact ih (fun t t' b hb => hstep t t' b (mem_cons_of_mem a hb))
      (hstep s s₁ a mem_cons_self hs h₁) h₂

/-- **Loop rule with a trace.** The same for a property of the state and of the elements
    processed so far. -/
theorem foldlM_invariant_trace (Inv : σ → List α → Prop) {done : List α}
    (hstep : ∀ s s' a front back, as = front ++ a :: back → Inv s (done ++ front) →
      step s a = .ok s' → Inv s' (done ++ front ++ [a])) (hs : Inv s done)
    (h : as.foldlM step s = .ok s') : Inv s' (done ++ as) := by
  induction as generalizing s done with
  | nil =>
    rw [foldlM_nil, Outcome.pure_eq_ok] at h
    rwa [← h, append_nil]
  | cons a as ih =>
    rw [foldlM_cons, Outcome.bind_eq_ok] at h
    obtain ⟨s₁, h₁, h₂⟩ := h
    have hfst : Inv s₁ (done ++ [] ++ [a]) :=
      hstep s s₁ a [] as rfl (by rwa [append_nil]) h₁
    rw [append_nil] at hfst
    have hrest : Inv s' (done ++ [a] ++ as) := by
      apply ih _ hfst h₂
      intro t t' b front back hsp hinv hb
      have hnext := hstep t t' b (a :: front) back (by rw [hsp]; rfl) (by simpa using hinv) hb
      simpa using hnext
    rwa [append_assoc, singleton_append] at hrest

theorem mem_append_last {a b : α} : a ∈ as ++ [b] ↔ a ∈ as ∨ a = b := by
  rw [mem_append, mem_singleton]

/-- A loop over two lists is the loop over the second after the first. -/
theorem foldlM_append_eq_ok_iff {bs : List α} :
    (as ++ bs).foldlM step s = .ok s' ↔
      ∃ mid, as.foldlM step s = .ok mid ∧ bs.foldlM step mid = .ok s' := by
  rw [foldlM_append, Outcome.bind_eq_ok]

/-- **Loop progress.** A loop succeeds when, at every point of the list, the step succeeds
    and keeps the property of the state and of the elements processed so far. -/
theorem foldlM_progress (Inv : σ → List α → Prop) (hs : Inv s [])
    (hstep : ∀ s a front back, as = front ++ a :: back → Inv s front →
      ∃ s', step s a = .ok s' ∧ Inv s' (front ++ [a])) :
    ∃ s', as.foldlM step s = .ok s' ∧ Inv s' as := by
  -- the property is carried over the part of the list that is done
  suffices h : ∀ done rest s, as = done ++ rest → Inv s done →
      ∃ s', rest.foldlM step s = .ok s' ∧ Inv s' as from h [] as s rfl hs
  intro done rest
  induction rest generalizing done with
  | nil =>
    intro s hsp hs
    rw [append_nil] at hsp
    exact ⟨s, rfl, hsp ▸ hs⟩
  | cons a rest ih =>
    intro s hsp hs
    obtain ⟨s₁, h₁, hs₁⟩ := hstep s a done rest hsp hs
    obtain ⟨s', h', hs'⟩ := ih (done ++ [a]) s₁ (by simp [hsp]) hs₁
    refine ⟨s', ?_, hs'⟩
    rw [foldlM_cons, h₁]
    exact h'

/-- A loop over calls that all succeed collects their results. -/
theorem mapM_eq_ok_of_forall {g : α → β} (h : ∀ a ∈ as, f a = .ok (g a)) :
    as.mapM f = .ok (as.map g) := by
  induction as with
  | nil => rfl
  | cons a as ih =>
    rw [mapM_cons, h a mem_cons_self, Outcome.ok_bind, ih fun b hb => h b (mem_cons_of_mem a hb)]
    rfl

/-- The body of a loop that checks each element and that its key is new, with
    `scanFresh_foldlM_eq_ok_iff` for the whole loop. -/
def scanFresh {κ : Type} [DecidableEq κ] (check : α → Outcome Unit) (key : α → κ)
    (duplicate : String) (seen : List κ) (a : α) : Outcome (List κ) := do
  check a
  ensure (!seen.contains (key a)) duplicate
  pure (key a :: seen)

theorem scanFresh_foldlM_eq_ok_iff {κ : Type} [DecidableEq κ] {check : α → Outcome Unit}
    {key : α → κ} {duplicate : String} {seen seen' : List κ} :
    as.foldlM (scanFresh check key duplicate) seen = .ok seen' ↔
      (∀ a ∈ as, check a = .ok () ∧ key a ∉ seen) ∧ (as.map key).Nodup ∧
        seen' = (as.map key).reverse ++ seen := by
  induction as generalizing seen with
  | nil =>
    rw [foldlM_nil, Outcome.pure_eq_ok]
    simp [eq_comm]
  | cons a as ih =>
    rw [foldlM_cons, Outcome.bind_eq_ok]
    simp only [ih, scanFresh, Outcome.bind_eq_ok, exists_unit, ensure_eq_ok, Outcome.pure_eq_ok,
      bool_rules, contains_eq_mem, map_cons, nodup_cons, mem_map, not_exists, not_and]
    constructor
    · rintro ⟨_, ⟨hcheck, hfr, rfl⟩, hrest, hnodup, rfl⟩
      simp only [mem_cons, not_or] at hrest
      refine ⟨?_, ⟨fun b hb heq => (hrest b hb).2.1 heq, hnodup⟩, by simp⟩
      intro b hb
      rcases mem_cons.mp hb with rfl | hb
      · exact ⟨hcheck, hfr⟩
      · exact ⟨(hrest b hb).1, (hrest b hb).2.2⟩
    · rintro ⟨hall, ⟨hnew, hnodup⟩, rfl⟩
      obtain ⟨hcheck, hfr⟩ := hall a mem_cons_self
      refine ⟨_, ⟨hcheck, hfr, rfl⟩, ?_, hnodup, by simp⟩
      intro b hb
      obtain ⟨hbcheck, hbfresh⟩ := hall b (mem_cons_of_mem a hb)
      refine ⟨hbcheck, ?_⟩
      rw [mem_cons, not_or]
      exact ⟨fun heq => hnew b hb heq, hbfresh⟩

end Foundation
