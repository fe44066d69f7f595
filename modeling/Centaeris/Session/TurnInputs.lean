import Centaeris.Foundation.Table
import Centaeris.Session.Shape

namespace Centaeris

open Foundation Outcome List

/-!
# Prepared turn inputs

Which inputs a run has prepared for its turn, and which it has committed.
-/

structure PreparedInputBatch where
  agentRunId : String
  inputIds : List String

/-- The state as it is stored in a session, without its JSON form. -/
structure InputRecovery where
  committedByRun : Table String (Finset String)
  preparedByTurn : Table String PreparedInputBatch

def validateInputUptakeIds (ids : List String) : Outcome Unit :=
  ensure (!ids.isEmpty && ids.all (fun id => !id.isEmpty && id == trim id &&
    !id.toList.any isControl) && decide ids.Nodup)
    "model request input uptake IDs are empty, invalid or duplicated"

namespace InputRecovery

variable (recovery : InputRecovery) (run turn : String) (ids : List String)

def committedIds : Finset String := (recovery.committedByRun[run]?).getD ∅

def preparedIds : Outcome (Option (List String)) :=
  match recovery.preparedByTurn[turn]? with
  | none => pure none
  | some prepared => do
    ensure (prepared.agentRunId == run) "turn_input_prepared_owner_mismatch"
    pure (some prepared.inputIds)

def currentPreparedTurn : Outcome (Option String) :=
  match recovery.preparedByTurn.toList.filter (·.2.agentRunId == run) with
  | [] => pure none
  | [(turn, _)] => pure (some turn)
  | _ => fail "turn_input_prepared_context_conflict"

/-- Only the turn that is prepared stays with its run. -/
def freezePrepared : Outcome InputRecovery := do
  (if ids.isEmpty then pure () else validateInputUptakeIds ids)
  let prepared ← (match recovery.preparedByTurn[turn]? with
    | some existing => do
      ensure (existing.agentRunId == run && existing.inputIds == ids)
        "turn_input_prepared_identity_conflict"
      pure recovery.preparedByTurn
    | none => pure (recovery.preparedByTurn.insert turn ⟨run, ids⟩))
  pure { recovery with
    preparedByTurn := prepared.filter fun other batch => batch.agentRunId != run || other == turn }

def recordCommitted : Outcome InputRecovery :=
  if ids.isEmpty then pure recovery else do
    validateInputUptakeIds ids
    pure { recovery with
      committedByRun := recovery.committedByRun.insert run
        (recovery.committedIds run ∪ ids.toFinset) }

def retirePrepared : Outcome InputRecovery := do
  let prepared ← orFail recovery.preparedByTurn[turn]? "prepared_tool_recovery_membership_missing"
  ensure (prepared.agentRunId == run && prepared.inputIds == ids)
    "prepared_tool_recovery_membership_changed"
  pure { recovery with preparedByTurn := recovery.preparedByTurn.erase turn }

end InputRecovery

inductive InputCall where
  | freeze (run turn : String) (ids : List String)
  | record (run : String) (ids : List String)
  | retire (run turn : String) (ids : List String)

/-- The call neither retires the turn nor prepares another one for its run. -/
def InputCall.Keeps (run turn : String) : InputCall → Prop
  | .freeze run' turn' _ => run' = run → turn' = turn
  | .record _ _ => True
  | .retire _ turn' _ => turn' ≠ turn

/-- The turn was frozen with these inputs by a call whose followers keep it. -/
def FrozenIn (calls : List InputCall) (run turn : String) (ids : List String) : Prop :=
  ∃ front back, calls = front ++ .freeze run turn ids :: back ∧ ∀ call ∈ back, call.Keeps run turn

theorem FrozenIn.append {calls : List InputCall} {call : InputCall} {run turn : String}
    {ids : List String} (h : FrozenIn calls run turn ids) (hkeeps : call.Keeps run turn) :
    FrozenIn (calls ++ [call]) run turn ids := by
  obtain ⟨front, back, rfl, hback⟩ := h
  refine ⟨front, back ++ [call], by simp, fun other hoth => ?_⟩
  rcases mem_append_last.mp hoth with hoth | rfl
  · exact hback other hoth
  · exact hkeeps

namespace InputRecovery

def perform (recovery : InputRecovery) : InputCall → Outcome InputRecovery
  | .freeze run turn ids => recovery.freezePrepared run turn ids
  | .record run ids => recovery.recordCommitted run ids
  | .retire run turn ids => recovery.retirePrepared run turn ids

/-- A run has at most one prepared turn. -/
def OneTurn (recovery : InputRecovery) : Prop :=
  ∀ (turn turn' : String) (batch batch' : PreparedInputBatch),
    recovery.preparedByTurn[turn]? = some batch → recovery.preparedByTurn[turn']? = some batch' →
      batch.agentRunId = batch'.agentRunId → turn = turn'

variable {recovery recovery' : InputRecovery} {run turn : String} {ids : List String}
  {batch : PreparedInputBatch} {call : InputCall} {calls : List InputCall}

/-- **Inversion.** What is prepared after a call was prepared by it, or before it and is kept. -/
theorem prepared_of_perform (h : recovery.perform call = .ok recovery')
    (hbatch : recovery'.preparedByTurn[turn]? = some batch) :
    call = .freeze batch.agentRunId turn batch.inputIds ∨
      call.Keeps batch.agentRunId turn ∧ recovery.preparedByTurn[turn]? = some batch := by
  cases call with
  | freeze run turn' ids =>
    simp only [perform, freezePrepared, ok_rules] at h
    obtain ⟨-, prepared, hprepared, rfl⟩ := h
    rw [Std.ExtTreeMap.getElem?_filter', Option.filter_eq_some_iff] at hbatch
    simp only [bool_rules] at hbatch
    obtain ⟨hbatch, hkept⟩ := hbatch
    have hprepared : prepared[turn']? = some ⟨run, ids⟩ ∧
        ∀ other, other ≠ turn' → prepared[other]? = recovery.preparedByTurn[other]? := by
      split at hprepared
      case h_1 existing hex =>
        simp only [ok_rules, bool_rules] at hprepared
        obtain ⟨⟨hrun, hids⟩, rfl⟩ := hprepared
        exact ⟨by rw [hex, ← hrun, ← hids], fun _ _ => rfl⟩
      case h_2 =>
        cases hprepared
        exact ⟨by simp, fun other hoth => by simp [hoth.symm]⟩
    by_cases hturn : turn = turn'
    · subst hturn
      rw [hprepared.1, Option.some_inj] at hbatch
      exact .inl (by rw [← hbatch])
    · rw [hprepared.2 turn hturn] at hbatch
      exact .inr ⟨fun hrun => absurd hrun.symm (hkept.resolve_right hturn), hbatch⟩
  | record run ids =>
    simp only [perform, recordCommitted] at h
    split at h
    · cases h
      exact .inr ⟨trivial, hbatch⟩
    · simp only [ok_rules] at h
      obtain ⟨-, rfl⟩ := h
      exact .inr ⟨trivial, hbatch⟩
  | retire run turn' ids =>
    simp only [perform, retirePrepared, ok_rules] at h
    obtain ⟨-, -, -, rfl⟩ := h
    exact .inr (Table.found_of_erase hbatch)

theorem OneTurn.perform (hone : recovery.OneTurn) (h : recovery.perform call = .ok recovery') :
    recovery'.OneTurn := by
  intro turn turn' batch batch' hbatch hbatch' hrun
  rcases prepared_of_perform h hbatch with rfl | ⟨hkeeps, hpre⟩ <;>
    rcases prepared_of_perform h hbatch' with hcall | ⟨hkeeps', hpre'⟩
  · exact (InputCall.freeze.inj hcall).2.1
  · exact hkeeps' hrun
  · subst hcall
    exact (hkeeps hrun.symm).symm
  · exact hone turn turn' batch batch' hpre hpre' hrun

theorem OneTurn.currentPreparedTurn (hone : recovery.OneTurn) (run : String) :
    ∃ turn, recovery.currentPreparedTurn run = .ok turn := by
  have hsort := (Table.sorted_toList recovery.preparedByTurn).filter (·.2.agentRunId == run)
  have hm : ∀ entry ∈ recovery.preparedByTurn.toList.filter (·.2.agentRunId == run),
      recovery.preparedByTurn[entry.1]? = some entry.2 ∧ entry.2.agentRunId = run := by
    intro entry hent
    rw [mem_filter, beq_iff_eq] at hent
    exact ⟨Table.mem_toList.mp hent.1, hent.2⟩
  rw [InputRecovery.currentPreparedTurn]
  match hents : recovery.preparedByTurn.toList.filter (·.2.agentRunId == run) with
  | [] => exact ⟨none, by rw [hents]; rfl⟩
  | [(turn, _)] => exact ⟨some turn, by rw [hents]; rfl⟩
  | first :: second :: rest =>
    -- the entries are sorted by turn, and both turns would be the run's one
    rw [hents] at hsort hm
    have hfst := hm first (by simp)
    have hsec := hm second (by simp)
    have hlt := rel_of_pairwise_cons hsort mem_cons_self
    rw [hone _ _ _ _ hfst.1 hsec.1 (hfst.2.trans hsec.2.symm)] at hlt
    exact absurd hlt (lt_irrefl _)

/-- **Prepared inputs.** After every list of calls no run's prepared turn is in conflict, a run
    has at most one, and what a turn has prepared was frozen by a call after which it was
    neither retired nor replaced by another turn of its run. -/
theorem prepared_unambiguous (h : calls.foldlM perform ⟨∅, ∅⟩ = .ok recovery) :
    (∀ run, ∃ turn, recovery.currentPreparedTurn run = .ok turn) ∧ recovery.OneTurn ∧
      ∀ (run turn : String) (ids : List String), recovery.preparedIds run turn = .ok (some ids) →
        FrozenIn calls run turn ids := by
  have hone : recovery.OneTurn :=
    foldlM_invariant OneTurn (fun _ _ _ _ hone hcall => hone.perform hcall)
      (fun _ _ _ _ hbatch => by simp at hbatch) h
  refine ⟨hone.currentPreparedTurn, hone, fun run turn ids hids => ?_⟩
  have hfrozen : ∀ turn batch, recovery.preparedByTurn[turn]? = some batch →
      FrozenIn ([] ++ calls) batch.agentRunId turn batch.inputIds := by
    refine foldlM_invariant_trace (fun recovery done => ∀ turn batch,
      recovery.preparedByTurn[turn]? = some batch →
        FrozenIn done batch.agentRunId turn batch.inputIds) ?_ (by simp) h
    intro _ _ call front _ _ hfrozen hcall turn batch hbatch
    rcases prepared_of_perform hcall hbatch with rfl | ⟨hkeeps, hpre⟩
    · exact ⟨_, [], rfl, fun _ hcall => absurd hcall not_mem_nil⟩
    · exact (hfrozen turn batch hpre).append hkeeps
  simp only [preparedIds] at hids
  split at hids
  case h_1 => cases hids
  case h_2 prepared hprepared =>
    simp only [ok_rules, bool_rules, Option.some_inj] at hids
    obtain ⟨rfl, rfl⟩ := hids
    exact hfrozen turn prepared hprepared

theorem freezePrepared_new (hnone : recovery.preparedByTurn[turn]? = none)
    (hids : validateInputUptakeIds ids = .ok ()) : recovery.freezePrepared run turn ids =
      .ok { recovery with
        preparedByTurn := (recovery.preparedByTurn.insert turn ⟨run, ids⟩).filter fun other batch =>
          batch.agentRunId != run || other == turn } := by
  simp only [freezePrepared, hnone, hids]
  split <;> rfl

/-- A second turn is frozen in place of the first, and its inputs are committed. -/
def committing : List InputCall :=
  [.freeze "run" "old" ["x"], .freeze "run" "turn" ["a"], .record "run" ["a"]]

theorem perform_committing : ∃ recovery, committing.foldlM perform ⟨∅, ∅⟩ = .ok recovery ∧
    recovery.committedIds "run" = {"a"} ∧
      recovery.preparedIds "run" "turn" = .ok (some ["a"]) := by
  have hnew : (((∅ : Table String PreparedInputBatch).insert "old" ⟨"run", ["x"]⟩).filter
      fun other batch => batch.agentRunId != "run" || other == "old")["turn"]? = none := by
    simp only [Std.ExtTreeMap.getElem?_filter', Table.getElem?_insert]
    rfl
  have hfst : freezePrepared ⟨∅, ∅⟩ "run" "old" ["x"] = .ok ⟨∅, _⟩ := freezePrepared_new rfl rfl
  have hsec : freezePrepared ⟨∅, _⟩ "run" "turn" ["a"] = .ok ⟨∅, _⟩ :=
    freezePrepared_new hnew rfl
  refine ⟨_, bind_eq_ok.mpr ⟨_, hfst, bind_eq_ok.mpr ⟨_, hsec, rfl⟩⟩, by decide, ?_⟩
  simp only [preparedIds, Std.ExtTreeMap.getElem?_filter', Table.getElem?_insert]
  rfl

theorem prepared_unambiguous_committing : FrozenIn committing "run" "turn" ["a"] := by
  obtain ⟨recovery, hrun, -, hprepared⟩ := perform_committing
  exact (prepared_unambiguous hrun).2.2 "run" "turn" ["a"] hprepared

/-- The commit of a turn's inputs leaves them prepared. -/
theorem committed_still_prepared : ¬ ∀ (calls : List InputCall) (recovery : InputRecovery),
    calls.foldlM perform ⟨∅, ∅⟩ = .ok recovery → ∀ (run turn : String) (ids : List String),
      recovery.preparedIds run turn = .ok (some ids) →
        ∀ id ∈ ids, id ∉ recovery.committedIds run := by
  intro hnever
  obtain ⟨recovery, hrun, hcommitted, hprepared⟩ := perform_committing
  refine hnever committing recovery hrun "run" "turn" ["a"] hprepared "a" (by simp) ?_
  simp [hcommitted]

end InputRecovery

end Centaeris
