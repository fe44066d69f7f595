import Centaeris.Session.ReduceEffects

namespace Centaeris

open Foundation ActiveTombstoneLedger Outcome List

/-!
# Accepted logs

The reducer runs over the active records of a log; the records before any one of them
form an accepted list as well.
-/

variable {ct : PayloadContracts} {sid : String} {targets : Finset String}

variable {events : List SessionLogRecord} {projection : SessionProjection}

/-- An accepted log is a reduction of its active records. -/
theorem reduceActive_of_reduceEvents
    (hevs : reduceEvents ct sid events = .ok projection)
    (htgts : activeTombstoneTargets ct (trim sid) events = .ok targets) :
    ∃ state, reduceActive ct (trim sid) targets
        (events.filter (isActive targets)) = .ok state ∧ state.projection = projection := by
  simp only [reduceEvents, ok_rules, htgts, Except.ok.injEq, exists_eq_left'] at hevs
  exact hevs.2

variable {front : List SessionLogRecord} {event : SessionLogRecord} {state : SessionReduction}

/-- Every active record was accepted in the reduction of those before it. -/
theorem reduceActive_split {back : List SessionLogRecord}
    (h : reduceActive ct sid targets (front ++ event :: back) = .ok state) :
    ∃ pre after, reduceActive ct sid targets front = .ok pre ∧
      reduceEvent ct sid pre event = .ok after := by
  obtain ⟨pre, hfront, hrest⟩ := foldlM_append_eq_ok_iff.mp h
  rw [foldlM_cons, bind_eq_ok] at hrest
  obtain ⟨after, hev, -⟩ := hrest
  exact ⟨pre, after, hfront, hev⟩

theorem reduceActive_concat :
    reduceActive ct sid targets (front ++ [event]) = .ok state ↔
      ∃ pre, reduceActive ct sid targets front = .ok pre ∧
        reduceEvent ct sid pre event = .ok state := by
  unfold reduceActive
  rw [foldlM_append_eq_ok_iff]
  simp only [foldlM_cons, foldlM_nil, ok_rules, exists_eq_right]

theorem mem_seenEventIds {active : List SessionLogRecord}
    (h : reduceActive ct sid targets active = .ok state) (eventId : String) :
    eventId ∈ state.seenEventIds ↔ ∃ event ∈ active, event.eventId = eventId := by
  induction active using List.reverseRecOn generalizing state with
  | nil =>
    obtain rfl := pure_eq_ok.mp h
    simp
  | append_singleton front event ih =>
    obtain ⟨pre, hfront, hev⟩ := reduceActive_concat.mp h
    obtain ⟨-, -, -, hseen, -⟩ := reduceEvent_eq_ok_iff.mp hev
    rw [hseen, Finset.mem_insert, ih hfront]
    simp only [mem_append, mem_singleton]
    constructor
    · rintro (hid | ⟨earlier, hm, hid⟩)
      · exact ⟨event, .inr rfl, hid.symm⟩
      · exact ⟨earlier, .inl hm, hid⟩
    · rintro ⟨other, hm | rfl, hid⟩
      · exact .inr ⟨other, hm, hid⟩
      · exact .inl hid.symm

/-! ### Logs without tombstones -/

/-- A record that is no tombstone adds its id to the ids seen. -/
theorem apply_eq_ok_of_noTombstone {ledger ledger' : ActiveTombstoneLedger}
    (hfree : event.eventType ≠ .tombstone) :
    apply ct ledger sid event = .ok ledger' ↔
      validateEventShape ct event = .ok () ∧ event.sessionId = sid ∧
        ledger.priorTypes[event.eventId]? = none ∧
        ledger' = { ledger with
          priorTypes := ledger.priorTypes.insert event.eventId event.eventType } := by
  simp only [apply, applyFact, targetsOf, if_neg hfree, ok_rules,
    exists_eq_left', beq_iff_eq, Option.isNone_iff_eq_none, isEmpty_nil,
    true_and]
  constructor
  · rintro ⟨hshp, hses, hnew, rfl⟩
    exact ⟨hshp, hses, hnew, rfl⟩
  · rintro ⟨hshp, hses, hnew, rfl⟩
    exact ⟨hshp, hses, hnew, rfl⟩

section

variable (hfree : ∀ event ∈ events, event.eventType ≠ .tombstone)

include hfree

/-- What was accepted one record after another has no inactive record. -/
theorem activeTombstoneTargets_of_reduceActive
    (h : reduceActive ct (trim sid) targets events = .ok state) :
    activeTombstoneTargets ct (trim sid) events = .ok ∅ := by
  have hrun : ∃ ledger, events.foldlM (fun ledger event =>
        apply ct ledger (trim sid) event)
        empty = .ok ledger ∧ ledger.targets = ∅ ∧
      ∀ eventId, ledger.priorTypes[eventId]? ≠ none →
        ∃ event ∈ events, event.eventId = eventId := by
    refine foldlM_progress (fun (ledger : ActiveTombstoneLedger) (done : List SessionLogRecord) =>
      ledger.targets = ∅ ∧ ∀ eventId, ledger.priorTypes[eventId]? ≠ none →
        ∃ event ∈ done, event.eventId = eventId) ?_ ?_
    · exact ⟨rfl, fun _ hsome => absurd (Table.getElem?_empty _) hsome⟩
    · rintro ledger event front back rfl ⟨htgts, hseen⟩
      obtain ⟨pre, after, hfront, hev⟩ := reduceActive_split h
      obtain ⟨hshp, hses, hnew, -⟩ := reduceEvent_eq_ok_iff.mp hev
      rw [mem_seenEventIds hfront] at hnew
      refine ⟨_, (apply_eq_ok_of_noTombstone (hfree event (by simp))).mpr
        ⟨hshp, by rw [hses, trim_trim], ?_, rfl⟩, htgts, ?_⟩
      · by_contra hprior
        exact hnew (hseen event.eventId hprior)
      · intro eventId hsome
        rw [Table.getElem?_insert] at hsome
        split at hsome
        · rename_i hid
          exact ⟨event, by simp, hid⟩
        · obtain ⟨earlier, hm, hid⟩ := hseen eventId hsome
          exact ⟨earlier, by simp [hm], hid⟩
  obtain ⟨ledger, hled, htgts, -⟩ := hrun
  rw [activeTombstoneTargets, hled, ok_bind, htgts]
  rfl

theorem filter_isActive_of_noTombstone :
    events.filter (isActive ∅) = events := by
  rw [filter_eq_self]
  intro event hm
  simp [isActive, hfree event hm]

theorem targets_eq_empty_of_noTombstone
    (h : activeTombstoneTargets ct sid events = .ok targets) : targets = ∅ := by
  rw [activeTombstoneTargets, bind_eq_ok] at h
  obtain ⟨ledger, hled, htgts⟩ := h
  obtain rfl := pure_eq_ok.mp htgts
  refine foldlM_invariant (fun ledger : ActiveTombstoneLedger => ledger.targets = ∅) ?_ rfl hled
  intro pre after event hm hpre hev
  obtain ⟨-, -, -, rfl⟩ := (apply_eq_ok_of_noTombstone (hfree event hm)).mp hev
  exact hpre

/-- Without tombstones every record is active, and a log is accepted exactly when its records are,
    one after another. -/
theorem reduceEvents_eq_ok_of_noTombstone :
    reduceEvents ct sid events = .ok projection ↔
      trim sid ≠ "" ∧ ∃ state,
        reduceActive ct (trim sid) ∅ events = .ok state ∧
        state.projection = projection := by
  simp only [reduceEvents, ok_rules, bne_iff_ne, ne_eq]
  constructor
  · rintro ⟨hses, targets, htgts, hact⟩
    obtain rfl := targets_eq_empty_of_noTombstone hfree htgts
    rw [filter_isActive_of_noTombstone hfree] at hact
    exact ⟨hses, hact⟩
  · rintro ⟨hses, state, hact, hprojection⟩
    refine ⟨hses, ∅, activeTombstoneTargets_of_reduceActive hfree hact, state, ?_,
      hprojection⟩
    rw [filter_isActive_of_noTombstone hfree]
    exact hact

end

/-- **Along an accepted log.** A property of the log so far and its projection holds
    initially, and a record keeps it exactly under a condition on the projection before it.
    Then it holds all along the log exactly when every record meets the condition. -/
theorem forall_fronts_iff (holds : List SessionLogRecord → SessionProjection → Prop)
    (condition : SessionProjection → SessionLogRecord → Prop)
    (hfree : ∀ event ∈ events, event.eventType ≠ .tombstone)
    (hevs : reduceEvents ct sid events = .ok projection)
    (hnil : ∀ state, reduceActive ct (trim sid) ∅ [] = .ok state →
      holds [] state.projection)
    (hstep : ∀ front event back pre after, events = front ++ event :: back →
      reduceActive ct (trim sid) ∅ front = .ok pre →
      reduceEvent ct (trim sid) pre event = .ok after →
      holds front pre.projection →
      (holds (front ++ [event]) after.projection ↔ condition pre.projection event)) :
    (∀ front back reduced, events = front ++ back →
        reduceEvents ct sid front = .ok reduced → holds front reduced) ↔
      ∀ front event back reduced, events = front ++ event :: back →
        reduceEvents ct sid front = .ok reduced → condition reduced event := by
  obtain ⟨hses, final, hfinal, -⟩ := (reduceEvents_eq_ok_of_noTombstone hfree).mp hevs
  -- a part of the log at the front is accepted
  have hparts : ∀ front back, events = front ++ back → ∀ reduced,
      reduceEvents ct sid front = .ok reduced ↔
        ∃ state, reduceActive ct (trim sid) ∅ front = .ok state ∧
          state.projection = reduced := by
    intro front back hsp reduced
    rw [reduceEvents_eq_ok_of_noTombstone fun event hm => hfree event (by simp [hsp, hm]),
      and_iff_right hses]
  constructor
  · intro hholds front event back reduced hsp hred
    obtain ⟨pre, hpre, rfl⟩ := (hparts front _ hsp reduced).mp hred
    obtain ⟨pre', after, hpre', hev⟩ := reduceActive_split (hsp ▸ hfinal)
    obtain rfl : pre' = pre := Except.ok.inj (hpre'.symm.trans hpre)
    have hnext : events = (front ++ [event]) ++ back := by rw [hsp]; simp
    refine (hstep front event back pre' after hsp hpre hev
      (hholds front _ _ hsp hred)).mp (hholds _ back _ hnext ?_)
    exact (hparts _ back hnext _).mpr ⟨after, reduceActive_concat.mpr ⟨pre', hpre, hev⟩,
      rfl⟩
  · intro hcond front
    induction front using List.reverseRecOn with
    | nil =>
      intro back reduced hsp hred
      obtain ⟨state, hsta, rfl⟩ := (hparts [] back hsp reduced).mp hred
      exact hnil state hsta
    | append_singleton front event ih =>
      intro back reduced hsp hred
      obtain ⟨after, haft, rfl⟩ := (hparts _ back hsp reduced).mp hred
      obtain ⟨pre, hpre, hev⟩ := reduceActive_concat.mp haft
      have hsp' : events = front ++ event :: back := by rw [hsp]; simp
      have hacc := (hparts front _ hsp' _).mpr ⟨pre, hpre, rfl⟩
      exact (hstep front event back pre after hsp' hpre hev
        (ih _ _ hsp' hacc)).mpr (hcond front event back _ hsp' hacc)

end Centaeris
