import Centaeris.Foundation.Outcome

namespace Foundation

/-!
# Runs of a machine

A machine takes one call at a time; a call is answered, or it fails and ends the run.
-/

variable {σ τ α β : Type}

/-- The state after a list of calls, and their answers. -/
def runCalls (step : σ → α → Outcome (σ × β)) : σ → List α → Outcome (σ × List β)
  | state, [] => pure (state, [])
  | state, call :: calls => do
    let (state, answer) ← step state call
    let (state, answers) ← runCalls step state calls
    pure (state, answer :: answers)

variable {step : σ → α → Outcome (σ × β)} {s s' : σ} {call : α} {calls calls' : List α}
  {answers : List β}

theorem runCalls_nil_eq_ok_iff :
    runCalls step s [] = .ok (s', answers) ↔ s' = s ∧ answers = [] := by
  simp only [runCalls, Outcome.pure_eq_ok, Prod.mk.injEq]
  exact and_congr eq_comm eq_comm

theorem runCalls_cons_eq_ok_iff :
    runCalls step s (call :: calls) = .ok (s', answers) ↔
      ∃ mid answer rest, step s call = .ok (mid, answer) ∧
        runCalls step mid calls = .ok (s', rest) ∧ answers = answer :: rest := by
  simp only [runCalls, Outcome.ok_rules, Prod.mk.injEq, Prod.exists]
  constructor
  · rintro ⟨mid, answer, hstep, _, rest, hrun, rfl, rfl⟩
    exact ⟨mid, answer, rest, hstep, hrun, rfl⟩
  · rintro ⟨mid, answer, rest, hstep, hrun, rfl⟩
    exact ⟨mid, answer, hstep, s', rest, hrun, rfl, rfl⟩

/-- What every step preserves holds after every run. -/
theorem runCalls_invariant (Inv : σ → Prop)
    (hstep : ∀ state call state' answer, call ∈ calls → Inv state →
      step state call = .ok (state', answer) → Inv state')
    (hs : Inv s) (hrun : runCalls step s calls = .ok (s', answers)) : Inv s' := by
  induction calls generalizing s answers with
  | nil =>
    obtain ⟨rfl, -⟩ := runCalls_nil_eq_ok_iff.mp hrun
    exact hs
  | cons call calls ih =>
    obtain ⟨mid, answer, rest, hcall, hrest, -⟩ := runCalls_cons_eq_ok_iff.mp hrun
    have hmid : Inv mid := hstep s call mid answer List.mem_cons_self hs hcall
    apply ih _ hmid hrest
    intro state call' state' answer' hm
    exact hstep state call' state' answer' (List.mem_cons_of_mem _ hm)

/-- A machine that follows another one step by step gives the same answers over every run. -/
theorem runCalls_simulation {step' : τ → α → Outcome (τ × β)} (Sim : σ → τ → Prop)
    (hstep : ∀ state other call state' answer, Sim state other →
      step state call = .ok (state', answer) →
      ∃ other', step' other call = .ok (other', answer) ∧ Sim state' other')
    {t : τ} (hsim : Sim s t) (hrun : runCalls step s calls = .ok (s', answers)) :
    ∃ t', runCalls step' t calls = .ok (t', answers) ∧ Sim s' t' := by
  induction calls generalizing s t answers with
  | nil =>
    obtain ⟨rfl, rfl⟩ := runCalls_nil_eq_ok_iff.mp hrun
    exact ⟨t, rfl, hsim⟩
  | cons call calls ih =>
    obtain ⟨mid, answer, rest, hcall, hrest, rfl⟩ := runCalls_cons_eq_ok_iff.mp hrun
    obtain ⟨other, hoth, hmid⟩ := hstep s t call mid answer hsim hcall
    obtain ⟨t', hfollow, hend⟩ := ih hmid hrest
    exact ⟨t', runCalls_cons_eq_ok_iff.mpr ⟨other, answer, rest, hoth, hfollow, rfl⟩, hend⟩

end Foundation
