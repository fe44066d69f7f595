import Mathlib

namespace Foundation

/-!
# Retry loops

A loop makes attempts, numbered from zero, until one of them ends it; it may go on only while
the number of the attempt is below a limit.
-/

/-- What an attempt decides. -/
inductive Verdict (more : Prop) (ρ : Type) where
  | stop (result : ρ)
  | again (allowed : more)

variable {σ ρ ρ' : Type} {limit : Nat}

/-- The same verdict with another form of the result. -/
def Verdict.map {more : Prop} (f : ρ → ρ') : Verdict more ρ → Verdict more ρ'
  | .stop result => .stop (f result)
  | .again allowed => .again allowed

def retry (limit : Nat) (body : (attempt : Nat) → σ → σ × Verdict (attempt < limit) ρ)
    (attempt : Nat) (s : σ) : σ × ρ :=
  match body attempt s with
  | (s', .stop result) => (s', result)
  | (s', .again _) => retry limit body (attempt + 1) s'
termination_by limit - attempt

/-- The attempts after which the loop went on. -/
inductive Retried (body : (attempt : Nat) → σ → σ × Verdict (attempt < limit) ρ) (a : Nat) (s : σ) :
    Nat → σ → Prop where
  | here : Retried body a s a s
  | next {b : Nat} {t t' : σ} {allowed : b < limit} (before : Retried body a s b t)
      (went_on : body b t = (t', .again allowed)) : Retried body a s (b + 1) t'

variable {body : (attempt : Nat) → σ → σ × Verdict (attempt < limit) ρ} {a b : Nat} {s t : σ}

/-- The invariant rule for the state between attempts. -/
theorem Retried.invariant (Inv : Nat → σ → Prop) (hstart : Inv a s)
    (hstep : ∀ b t t' allowed, Inv b t → body b t = (t', .again allowed) → Inv (b + 1) t')
    (h : Retried body a s b t) : Inv b t := by
  induction h with
  | here => exact hstart
  | @next b t t' allowed _ hon ih => exact hstep b t t' allowed ih hon

/-- No attempt has a number above the limit. -/
theorem Retried.le_limit (h : Retried body a s b t) (ha : a ≤ limit) : b ≤ limit := by
  cases h with
  | here => exact ha
  | @next b _ _ allowed _ _ => omega

theorem Retried.trans {c : Nat} {u : σ} (h : Retried body a s b t) (h' : Retried body b t c u) :
    Retried body a s c u := by
  induction h' with
  | here => exact h
  | next _ hon ih => exact .next ih hon

/-- From an attempt on, the loop does not depend on the attempts before. -/
theorem Retried.retry_eq (h : Retried body a s b t) :
    retry limit body a s = retry limit body b t := by
  induction h with
  | here => rfl
  | next _ hon ih =>
    rw [ih, retry, hon]

/-- A loop ends with the verdict of an attempt reached through such attempts. -/
theorem retry_spec (limit : Nat) (body : (attempt : Nat) → σ → σ × Verdict (attempt < limit) ρ)
    (a : Nat) (s : σ) :
    ∃ b t, Retried body a s b t ∧
      body b t = ((retry limit body a s).1, .stop (retry limit body a s).2) := by
  induction a, s using retry.induct limit body with
  | case1 a s s' result hbody =>
    refine ⟨a, s, .here, ?_⟩
    rw [retry, hbody]
  | case2 a s s' allowed hbody ih =>
    obtain ⟨b, t, hretried, hlast⟩ := ih
    refine ⟨b, t, (Retried.next .here hbody).trans hretried, ?_⟩
    rw [retry, hbody]
    exact hlast

end Foundation
