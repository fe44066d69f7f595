import Centaeris.Foundation.Runs
import Centaeris.Transcript.PageStability
import Centaeris.Transcript.Recovery

namespace Centaeris

open Foundation Outcome

/-!
# Runs of the projector
-/

variable (ct : PayloadContracts)

/-! ### Calls -/

/-- The calls that move a projector. -/
inductive ProjectorCall where
  | record (record : SequencedSessionRecord) (streamId appliedCursor : String)
  | envelope (envelope : TranscriptProjectionSourceEnvelopeV1) (streamId appliedCursor : String)
  | withoutDisplay (sequence : UInt64) (streamId appliedCursor : String)

namespace ProjectorCall

def sequence : ProjectorCall → Nat
  | .record item _ _ => item.sequence.toNat
  | .envelope item _ _ => item.sequence.toNat
  | .withoutDisplay sequence _ _ => sequence.toNat

theorem sequence_lt (call : ProjectorCall) : call.sequence < u64Size := by
  cases call with
  | record item _ _ | envelope item _ _ => exact item.sequence.toNat_lt
  | withoutDisplay sequence _ _ => exact sequence.toNat_lt

def streamId : ProjectorCall → String
  | .record _ streamId _ => streamId
  | .envelope _ streamId _ => streamId
  | .withoutDisplay _ streamId _ => streamId

def appliedCursor : ProjectorCall → String
  | .record _ _ appliedCursor => appliedCursor
  | .envelope _ _ appliedCursor => appliedCursor
  | .withoutDisplay _ _ appliedCursor => appliedCursor

/-- Whether the call ends the view. -/
def isTombstone : ProjectorCall → Bool
  | .record item _ _ => item.event.eventType == .tombstone
  | .envelope _ _ _ => false
  | .withoutDisplay _ _ _ => false

/-- The checks of a call that do not look at what was projected before. -/
def Accepted (sessionId : String) : ProjectorCall → Prop
  | .record item _ _ =>
    validateEventShape ct item.event = .ok () ∧ item.event.sessionId = sessionId
  | .envelope item _ _ => item.validate = .ok () ∧ item.sessionId = sessionId ∧
    transcriptEventTypeIsPayloadFree item.eventType = true
  | .withoutDisplay _ _ _ => True

def display (tools : OpenTools) : ProjectorCall → Outcome (OpenTools × Option TranscriptBlockV1)
  | .record item _ _ =>
    if item.event.eventType = .tombstone then pure (tools, none)
    else projectBlock ct tools item
  | .envelope _ _ _ => pure (tools, none)
  | .withoutDisplay _ _ _ => pure (tools, none)

end ProjectorCall

namespace TranscriptProjectorV1

/-- What a call reports once the projector has moved. -/
def report (prj : TranscriptProjectorV1) (block : Option TranscriptBlockV1) :
    ProjectorCall → Outcome (Option TranscriptProjectionUpdateV1)
  | .record record streamId appliedCursor =>
    if record.event.eventType = .tombstone then
      pure (some (.viewInvalidated record.sequence.toNat.repr "tombstone"))
    else do
      let update ← prj.announce record.sequence.toNat streamId appliedCursor block
      pure (some update)
  | .envelope envelope streamId appliedCursor =>
    pure (some (.noDisplayChange envelope.sequence.toNat.repr streamId appliedCursor))
  | .withoutDisplay _ _ _ => pure none

def perform (prj : TranscriptProjectorV1) :
    ProjectorCall → Outcome (TranscriptProjectorV1 × Option TranscriptProjectionUpdateV1)
  | .record record streamId appliedCursor => do
    let (prj, update) ← prj.apply ct record streamId appliedCursor
    pure (prj, some update)
  | .envelope envelope streamId appliedCursor => do
    let (prj, update) ← prj.applyEnvelope envelope streamId appliedCursor
    pure (prj, some update)
  | .withoutDisplay sequence streamId appliedCursor => do
    let prj ← prj.advanceWithoutDisplay sequence.toNat streamId appliedCursor
    pure (prj, none)

variable {ct} {prj prj' : TranscriptProjectorV1} {call : ProjectorCall}
  {update : Option TranscriptProjectionUpdateV1}

variable {index index' : TranscriptBlockIndexV1} {sequence : Nat} {streamId appliedCursor : String}
  {block : Option TranscriptBlockV1}

theorem nonblank_of_commitIndex
    (h : commitIndex index sequence streamId appliedCursor block = .ok index') :
    isBlank streamId = false ∧ isBlank appliedCursor = false := by
  simp only [commitIndex, bind_eq_ok] at h
  obtain ⟨_, -, hrcd⟩ := h
  obtain ⟨hrecordable, -⟩ := TranscriptBlockIndexV1.recordResumeCursor_eq_ok_iff.mp hrcd
  exact ⟨hrecordable.stream, hrecordable.value⟩

/-- Everything an accepted call does, for all calls at once. -/
theorem perform_eq_ok_iff :
    prj.perform ct call = .ok (prj', update) ↔
      prj.invalidated = false ∧ call.Accepted ct prj.sessionId ∧
      prj.lastSequence < call.sequence ∧
      ∃ tools block index, call.display ct prj.tools = .ok (tools, block) ∧
        commitIndex prj.index call.sequence call.streamId call.appliedCursor block =
          .ok index ∧
        prj' = ⟨prj.sessionId, index, tools, call.sequence, call.isTombstone⟩ ∧
        prj'.report block call = .ok update := by
  cases call with
  | record record streamId appliedCursor =>
    simp only [perform, ok_rules, Prod.mk.injEq, Prod.exists, apply_eq_ok_iff,
      ProjectorCall.Accepted, ProjectorCall.sequence, ProjectorCall.streamId,
      ProjectorCall.appliedCursor, ProjectorCall.isTombstone, ProjectorCall.display, report]
    by_cases htombstone : record.event.eventType = .tombstone
    · simp only [htombstone, if_true, true_and, ne_eq, not_true_eq_false, false_and, or_false,
      invalidate, ok_rules, Prod.mk.injEq, beq_self_eq_true]
      constructor
      · rintro ⟨_, _, ⟨hlive, hshp, hses, hlast, ⟨index, hidx, rfl⟩, rfl⟩, rfl, rfl⟩
        exact ⟨hlive, ⟨hshp, hses⟩, hlast, _, _, index, ⟨rfl, rfl⟩, hidx, rfl, rfl⟩
      · rintro ⟨hlive, ⟨hshp, hses⟩, hlast, _, _, index, ⟨rfl, rfl⟩, hidx, rfl, rfl⟩
        exact ⟨_, _, ⟨hlive, hshp, hses, hlast, ⟨index, hidx, rfl⟩, rfl⟩, rfl, rfl⟩
    · simp only [htombstone, if_false, false_and, ne_eq, not_false_eq_true, true_and, false_or,
      project_eq_ok_iff, beq_eq_false_iff_ne.mpr htombstone, ok_rules]
      constructor
      · rintro ⟨_, announced, ⟨hlive, hshp, hses, hlast, block,
          ⟨tools, index, hbl, hidx, rfl⟩, hannounce⟩, rfl, rfl⟩
        refine ⟨hlive, ⟨hshp, hses⟩, hlast, tools, block, index, hbl, hidx, ?_, ?_⟩
        · rw [hlive]
        · exact ⟨announced, hannounce, rfl⟩
      · rintro ⟨hlive, ⟨hshp, hses⟩, hlast, tools, block, index, hbl, hidx, hmoved,
          announced, hannounce, rfl⟩
        refine ⟨prj', announced, ⟨hlive, hshp, hses, hlast, block,
          ⟨tools, index, hbl, hidx, ?_⟩, hannounce⟩, rfl, rfl⟩
        rw [hlive]
        exact hmoved
  | envelope envelope streamId appliedCursor =>
    simp only [perform, ok_rules, Prod.mk.injEq, Prod.exists, applyEnvelope_eq_ok_iff,
      advanceWithoutDisplay_eq_ok_iff, ProjectorCall.Accepted, ProjectorCall.sequence,
      ProjectorCall.streamId, ProjectorCall.appliedCursor, ProjectorCall.isTombstone,
      ProjectorCall.display, report]
    constructor
    · rintro ⟨_, _, ⟨hval, hses, hfree, ⟨hlive, hlast, -, -, index, hidx, rfl⟩, rfl⟩, rfl,
        rfl⟩
      exact ⟨hlive, ⟨hval, hses, hfree⟩, hlast, _, _, index, ⟨rfl, rfl⟩, hidx,
        by rw [hlive], rfl⟩
    · rintro ⟨hlive, ⟨hval, hses, hfree⟩, hlast, _, _, index, ⟨rfl, rfl⟩, hidx, rfl, rfl⟩
      obtain ⟨hstream, hcursor⟩ := nonblank_of_commitIndex hidx
      exact ⟨_, _, ⟨hval, hses, hfree,
        ⟨hlive, hlast, hstream, hcursor, index, hidx, rfl⟩, rfl⟩, by rw [hlive], rfl⟩
  | withoutDisplay sequence streamId appliedCursor =>
    simp only [perform, ok_rules, Prod.mk.injEq, advanceWithoutDisplay_eq_ok_iff,
      ProjectorCall.Accepted, ProjectorCall.sequence, ProjectorCall.streamId,
      ProjectorCall.appliedCursor, ProjectorCall.isTombstone, ProjectorCall.display, report,
      true_and]
    constructor
    · rintro ⟨_, ⟨hlive, hlast, -, -, index, hidx, rfl⟩, rfl, rfl⟩
      exact ⟨hlive, hlast, _, _, index, ⟨rfl, rfl⟩, hidx, by rw [hlive], rfl⟩
    · rintro ⟨hlive, hlast, _, _, index, ⟨rfl, rfl⟩, hidx, rfl, rfl⟩
      obtain ⟨hstream, hcursor⟩ := nonblank_of_commitIndex hidx
      exact ⟨_, ⟨hlive, hlast, hstream, hcursor, index, hidx, rfl⟩, by rw [hlive], rfl⟩

/-! ### What a call does to the index -/

/-- An index moved to a sequence: the invariant is kept, nothing below the sequence
    looks different, and the waterline is at least the sequence. -/
structure Advances (sequence : Nat) (index index' : TranscriptBlockIndexV1) : Prop where
  wellFormed : index'.WellFormed
  session : index'.sessionId = index.sessionId
  generation : index'.projectionGeneration = index.projectionGeneration
  monotone : index.sourceHighWater ≤ index'.sourceHighWater
  reaches : sequence ≤ index'.sourceHighWater
  reachesExactly : index.sourceHighWater < sequence → index'.sourceHighWater = sequence
  same : ∀ high, high < sequence → index.SameAt high index'

open TranscriptBlockIndexV1 in
theorem advances_of_indexBlock (hwf : index.WellFormed)
    (h : indexBlock index sequence block = .ok index') : Advances sequence index index' := by
  cases block with
  | none =>
    have hadv : index.advanceSourceHighWater sequence = .ok index' := h
    have hsame : ∀ water, water < sequence → index.SameAt water index' :=
      fun _ _ => SameAt.advanceSourceHighWater hadv
    obtain ⟨hle, rfl⟩ := advanceSourceHighWater_eq_ok_iff.mp hadv
    exact ⟨hwf.advance hle, rfl, rfl, hle, le_rfl, fun _ => rfl, hsame⟩
  | some block =>
    have hcom : index.applyCommitted sequence block = .ok index' := h
    have hsame : ∀ water, water < sequence → index.SameAt water index' :=
      fun _ hlat => SameAt.applyCommitted hwf hlat hcom
    have hwf' := hwf.applyCommitted hcom
    obtain ⟨-, ⟨rfl, item, hfind, -⟩ | ⟨isNew, hpush, rfl⟩⟩ :=
      applyCommitted_eq_ok_iff.mp hcom
    · -- the commit repeats a version, so its sequence is at most the waterline already
      have hitem : item.appliedSequence = sequence := by
        simpa using List.find?_some hfind
      have hle := hwf.projected _ item (List.mem_of_find?_eq_some hfind)
      rw [hitem] at hle
      exact ⟨hwf', rfl, rfl, le_rfl, hle, fun hlt => absurd hle (by omega), hsame⟩
    · exact ⟨hwf', rfl, rfl, hpush.monotone, le_rfl, fun _ => rfl, hsame⟩

theorem advances_of_commitIndex (hwf : index.WellFormed)
    (h : commitIndex index sequence streamId appliedCursor block = .ok index') :
    Advances sequence index index' := by
  simp only [commitIndex, bind_eq_ok] at h
  obtain ⟨mid, hbl, hrcd⟩ := h
  have hmid := advances_of_indexBlock hwf hbl
  have hwat : index'.sourceHighWater = mid.sourceHighWater ∧
      index'.sessionId = mid.sessionId ∧
      index'.projectionGeneration = mid.projectionGeneration := by
    obtain ⟨-, ⟨rfl, -⟩ | ⟨-, rfl⟩⟩ :=
      TranscriptBlockIndexV1.recordResumeCursor_eq_ok_iff.mp hrcd
    · exact ⟨rfl, rfl, rfl⟩
    · exact ⟨rfl, rfl, rfl⟩
  refine ⟨hmid.wellFormed.recordResumeCursor hrcd, hwat.2.1.trans hmid.session,
    hwat.2.2.trans hmid.generation, ?_, ?_, ?_, ?_⟩
  · rw [hwat.1]
    exact hmid.monotone
  · rw [hwat.1]
    exact hmid.reaches
  · rw [hwat.1]
    exact hmid.reachesExactly
  · intro water hlat
    exact (hmid.same water hlat).trans
      (TranscriptBlockIndexV1.SameAt.recordResumeCursor hlat hrcd)

/-- The index after a displayed block at a later sequence, or after nothing. -/
def moved (index : TranscriptBlockIndexV1) (sequence : Nat) (isNew : Bool) :
    Option TranscriptBlockV1 → TranscriptBlockIndexV1
  | none => { index with sourceHighWater := sequence }
  | some block => index.pushVersion isNew block.position sequence block

/-- The conditions under which an index takes a block and a cursor at a later sequence. -/
structure Committable (index : TranscriptBlockIndexV1) (sequence : Nat)
    (streamId appliedCursor : String) (isNew : Bool) (block : Option TranscriptBlockV1) :
    Prop where
  blocks : ∀ b ∈ block, b.validate = .ok () ∧ index.Pushable sequence b isNew
  stream : isBlank streamId = false
  cursor : isBlank appliedCursor = false
  room : index.resumeCursorsByStream.contains streamId = true ∨
    index.resumeCursorsByStream.size < transcriptPageResumeCursorMaxCount

open TranscriptBlockIndexV1 in
theorem commitIndex_later_iff (hwf : index.WellFormed) (hlat : index.sourceHighWater < sequence) :
    commitIndex index sequence streamId appliedCursor block = .ok index' ↔
      ∃ isNew, Committable index sequence streamId appliedCursor isNew block ∧
        index' = (moved index sequence isNew block).pushCursor sequence streamId
          appliedCursor := by
  have hbl : ∀ mid, indexBlock index sequence block = .ok mid ↔
      ∃ isNew, (∀ b ∈ block, b.validate = .ok () ∧ index.Pushable sequence b isNew) ∧
        mid = moved index sequence isNew block := by
    intro mid
    cases block with
    | none =>
      simp only [indexBlock, advanceSourceHighWater_eq_ok_iff, hlat.le, true_and,
        Option.not_mem_none, false_imp_iff, implies_true, moved, exists_const]
    | some b =>
      simp only [indexBlock, applyCommitted_eq_ok_iff, Option.mem_def, Option.some.injEq,
        forall_eq', moved]
      constructor
      · rintro ⟨hval, ⟨-, item, hfind, -⟩ | ⟨isNew, hpush, rfl⟩⟩
        · -- a repeated version would have been applied at the waterline or before
          have hitem : item.appliedSequence = sequence := by
            simpa using List.find?_some hfind
          have hle := hwf.projected _ item (List.mem_of_find?_eq_some hfind)
          omega
        · exact ⟨isNew, ⟨hval, hpush⟩, rfl⟩
      · rintro ⟨isNew, ⟨hval, hpush⟩, rfl⟩
        exact ⟨hval, .inr ⟨isNew, hpush, rfl⟩⟩
  have hrecorded : ∀ isNew last, last ∈ ((moved index sequence isNew block).cursorVersions
      streamId).getLast? → last.sourceHighWater < sequence := by
    intro isNew last hlast
    have hvers : (moved index sequence isNew block).cursorVersions streamId =
        index.cursorVersions streamId := by cases block <;> rfl
    rw [hvers] at hlast
    exact lt_of_le_of_lt (hwf.cursorsProjected _ last (List.mem_of_getLast? hlast)) hlat
  have hwat : ∀ isNew, (moved index sequence isNew block).sourceHighWater = sequence := by
    intro isNew
    cases block <;> rfl
  have hstreams : ∀ isNew, (moved index sequence isNew block).resumeCursorsByStream =
      index.resumeCursorsByStream := by
    intro isNew
    cases block <;> rfl
  simp only [commitIndex, bind_eq_ok, hbl, recordResumeCursor_eq_ok_iff]
  constructor
  · rintro ⟨_, ⟨isNew, hblocks, rfl⟩, hrcd, ⟨-, hrepeat⟩ | ⟨-, rfl⟩⟩
    · exact absurd (hrecorded isNew _ hrepeat) (lt_irrefl _)
    · exact ⟨isNew, ⟨hblocks, hrcd.stream, hrcd.value, hstreams isNew ▸ hrcd.room⟩, rfl⟩
  · rintro ⟨isNew, hcom, rfl⟩
    refine ⟨_, ⟨isNew, hcom.blocks, rfl⟩, ⟨hcom.stream, hcom.cursor, ?_, ?_, ?_⟩,
      .inr ⟨hrecorded isNew, rfl⟩⟩
    · exact Nat.zero_lt_of_lt hlat
    · rw [hwat]
    · rw [hstreams]
      exact hcom.room

/-! ### Reachable projectors -/

inductive Start : TranscriptProjectorV1 → Prop
  | new {sessionId projectionGeneration : String} {prj : TranscriptProjectorV1} :
      TranscriptProjectorV1.new sessionId projectionGeneration = .ok prj → Start prj
  | recovered {recovery : TranscriptProjectionRecoveryV1} {prj : TranscriptProjectorV1} :
      fromCheckpointRecovery recovery = .ok prj → Start prj

variable (ct) in
/-- Projectors reached by accepted calls, and their invariant `Consistent`. -/
inductive Reachable : TranscriptProjectorV1 → Prop
  | start {prj : TranscriptProjectorV1} : Start prj → Reachable prj
  | call {prj prj' : TranscriptProjectorV1} {call : ProjectorCall}
      {update : Option TranscriptProjectionUpdateV1} : Reachable prj →
      prj.perform ct call = .ok (prj', update) → Reachable prj'

/-- The index is well formed, of the projector's session, and as far as the projector,
    whose sequence is one of 64 bits. -/
structure Consistent (prj : TranscriptProjectorV1) : Prop where
  index : prj.index.WellFormed
  session : prj.index.sessionId = prj.sessionId
  water : prj.index.sourceHighWater = prj.lastSequence
  bounded : prj.lastSequence < u64Size

theorem wellFormed_of_restoreTools {tools : List TranscriptProjectionOpenToolV1}
    {state state' : TranscriptBlockIndexV1 × OpenTools}
    (hwf : state.1.WellFormed) (h : tools.foldlM restoreTool state = .ok state') :
    state'.1.WellFormed ∧ state'.1.sessionId = state.1.sessionId := by
  refine foldlM_invariant (fun current => current.1.WellFormed ∧
    current.1.sessionId = state.1.sessionId) ?_ ⟨hwf, rfl⟩ h
  intro (index, tools) (index', tools') tool _ ⟨hcur, hses⟩ hrestore
  obtain ⟨sequence, _, _, _, _, _, _, _, -, hcom, -⟩ := restoreTool_eq_ok_iff.mp hrestore
  have hadv : Advances sequence index index' :=
    advances_of_indexBlock hcur (show indexBlock index sequence (some tool.block) = _
      from hcom)
  exact ⟨hadv.wellFormed, hadv.session.trans hses⟩

theorem Start.consistent (h : Start prj) : prj.Consistent := by
  cases h with
  | new h =>
    simp only [TranscriptProjectorV1.new, ok_rules] at h
    obtain ⟨index, hidx, rfl⟩ := h
    have hwf := TranscriptBlockIndexV1.wellFormed_of_new hidx
    simp only [TranscriptBlockIndexV1.new, ok_rules] at hidx
    obtain ⟨-, -, rfl⟩ := hidx
    exact ⟨hwf, rfl, rfl, Nat.two_pow_pos 64⟩
  | recovered h =>
    simp only [fromCheckpointRecovery, ok_rules, Prod.exists] at h
    obtain ⟨-, water, hwat, index, hidx, restored, tools, hrestore, advanced, hadv,
      rfl⟩ := h
    have hnew := TranscriptBlockIndexV1.wellFormed_of_new hidx
    obtain ⟨hwf, hses⟩ := wellFormed_of_restoreTools hnew hrestore
    obtain ⟨hle, rfl⟩ := TranscriptBlockIndexV1.advanceSourceHighWater_eq_ok_iff.mp hadv
    simp only [TranscriptBlockIndexV1.new, ok_rules] at hidx
    obtain ⟨-, -, rfl⟩ := hidx
    rw [Option.filter_eq_some_iff, decide_eq_true_eq] at hwat
    exact ⟨hwf.advance hle, hses, rfl, hwat.2⟩

theorem Consistent.perform (h : prj.Consistent)
    (hcall : prj.perform ct call = .ok (prj', update)) :
    prj'.Consistent := by
  obtain ⟨-, -, hlast, tools, block, index, -, hidx, rfl, -⟩ := perform_eq_ok_iff.mp hcall
  have hadv := advances_of_commitIndex h.index hidx
  refine ⟨hadv.wellFormed, hadv.session.trans h.session, hadv.reachesExactly ?_,
    call.sequence_lt⟩
  rw [h.water]
  exact hlast

/-- **Invariant.** Every reachable projector is consistent. -/
theorem Reachable.consistent (h : Reachable ct prj) : prj.Consistent := by
  induction h with
  | start h => exact h.consistent
  | call _ hcall ih => exact ih.perform hcall

/-! ### Refused calls -/

variable (ct) in
/-- What a refused call can leave behind.  A call is refused before it touched anything,
    after its tool call was closed, after the open tool calls are those of its block,
    after the index took the block, or with everything moved when only its patch is too
    large. -/
inductive Abandons (prj : TranscriptProjectorV1) (call : ProjectorCall) :
    TranscriptProjectorV1 → Prop
  | untouched : Abandons prj call prj
  | closed (callId : String) :
      Abandons prj call { prj with tools := prj.tools.erase callId }
  | displayed {tools : OpenTools} {block : Option TranscriptBlockV1} :
      call.display ct prj.tools = .ok (tools, block) →
      Abandons prj call { prj with tools := tools }
  | indexed {tools : OpenTools} {block : Option TranscriptBlockV1}
      {index : TranscriptBlockIndexV1} :
      call.display ct prj.tools = .ok (tools, block) →
      indexBlock prj.index call.sequence block = .ok index →
      Abandons prj call { prj with tools := tools, index := index }
  | committed {tools : OpenTools} {block : Option TranscriptBlockV1}
      {index : TranscriptBlockIndexV1} :
      call.display ct prj.tools = .ok (tools, block) →
      commitIndex prj.index call.sequence call.streamId call.appliedCursor block =
        .ok index →
      Abandons prj call
        { prj with tools := tools, index := index, lastSequence := call.sequence }

variable (ct) in
/-- What histories reach in which calls may also be refused half way. -/
inductive Attainable : TranscriptProjectorV1 → Prop
  | start {prj : TranscriptProjectorV1} : Start prj → Attainable prj
  | call {prj prj' : TranscriptProjectorV1} {call : ProjectorCall}
      {update : Option TranscriptProjectionUpdateV1} : Attainable prj →
      prj.perform ct call = .ok (prj', update) → Attainable prj'
  | refused {prj prj' : TranscriptProjectorV1} {call : ProjectorCall} :
      Attainable prj → prj.Abandons ct call prj' →
      Attainable prj'

theorem Reachable.attainable (h : Reachable ct prj) :
    Attainable ct prj := by
  induction h with
  | start h => exact .start h
  | call _ hcall ih => exact ih.call hcall

/-- The index is well formed and at least as far as the projector. -/
structure Settled (prj : TranscriptProjectorV1) : Prop where
  index : prj.index.WellFormed
  water : prj.lastSequence ≤ prj.index.sourceHighWater

theorem Settled.perform (h : prj.Settled)
    (hcall : prj.perform ct call = .ok (prj', update)) :
    prj'.Settled := by
  obtain ⟨-, -, -, tools, block, index, -, hidx, rfl, -⟩ := perform_eq_ok_iff.mp hcall
  have hadv := advances_of_commitIndex h.index hidx
  exact ⟨hadv.wellFormed, hadv.reaches⟩

theorem Settled.abandons (h : prj.Settled)
    (hrefused : prj.Abandons ct call prj') : prj'.Settled := by
  cases hrefused with
  | untouched => exact h
  | closed | displayed => exact ⟨h.index, h.water⟩
  | indexed _ hidx =>
    have hadv := advances_of_indexBlock h.index hidx
    exact ⟨hadv.wellFormed, le_trans h.water hadv.monotone⟩
  | committed _ hidx =>
    have hadv := advances_of_commitIndex h.index hidx
    exact ⟨hadv.wellFormed, hadv.reaches⟩

theorem Attainable.settled (h : Attainable ct prj) : prj.Settled := by
  induction h with
  | start h => exact ⟨h.consistent.index, h.consistent.water.ge⟩
  | call _ hcall ih => exact ih.perform hcall
  | refused _ hrefused ih => exact ih.abandons hrefused

/-! ### Pages of the past -/

/-- What later calls keep of a projector at a waterline. -/
structure Keeps (high : Nat) (prj prj' : TranscriptProjectorV1) :
    Prop where
  settled : prj'.Settled
  passed : high ≤ prj'.lastSequence
  live : prj'.invalidated = prj.invalidated
  same : prj.index.SameAt high prj'.index

variable {start : TranscriptProjectorV1}

theorem Keeps.perform {high : Nat} (h : Keeps high start prj)
    (hcall : call.isTombstone = false)
    (hperf : prj.perform ct call = .ok (prj', update)) :
    Keeps high start prj' := by
  have hsettled := h.settled.perform hperf
  obtain ⟨hlive, -, hlast, tools, block, index, -, hidx, rfl, -⟩ :=
    perform_eq_ok_iff.mp hperf
  have hadv := advances_of_commitIndex h.settled.index hidx
  refine ⟨hsettled, le_trans h.passed hlast.le, ?_, h.same.trans (hadv.same _ ?_)⟩
  · rw [hcall, ← h.live, hlive]
  · exact lt_of_le_of_lt h.passed hlast

/-- **History.** In every state of a projector, a page request at a waterline that was
    passed gives the same answer, page or error, after every later run without a
    tombstone. -/
theorem pageAt_historical (codec : CursorCodec) {high : Nat}
    {calls : List ProjectorCall} {updates : List (Option TranscriptProjectionUpdateV1)}
    (hsta : Attainable ct prj) (hpassed : high ≤ prj.lastSequence)
    (hcalls : ∀ call ∈ calls, call.isTombstone = false)
    (hrun : runCalls (perform ct) prj calls = .ok (prj', updates))
    (olderCursor : Option String) (policy : TranscriptPagePolicyV1) :
    prj'.pageAt codec high olderCursor policy =
      prj.pageAt codec high olderCursor policy := by
  have hkeeps : Keeps high prj prj' := by
    refine runCalls_invariant (Keeps high prj) ?_ ?_ hrun
    · intro state call state' update hcall hkept hperf
      exact hkept.perform (hcalls call hcall) hperf
    · exact ⟨hsta.settled, hpassed, rfl, .refl _⟩
  unfold TranscriptProjectorV1.pageAt requireLive
  rw [hkeeps.live, hkeeps.same.pageAt codec]
  exact iff_of_true (le_trans hpassed hsta.settled.water)
    (le_trans hkeeps.passed hkeeps.settled.water)

/-! ### A tool call with its result -/

/-- A new projector before and after a tool call, and after its result. -/
def toolHistory :
    Outcome (TranscriptProjectorV1 × TranscriptProjectorV1 × TranscriptProjectorV1) := do
  let start ← TranscriptProjectorV1.new "s" "g"
  let (middle, _) ← runCalls (perform toolContracts) start
    [.record (toolCallRecord 1 "c") "w" "1"]
  let (final, _) ← runCalls (perform toolContracts) middle
    [.record (toolResultRecord 2 "c") "w" "2"]
  pure (start, middle, final)

theorem toolHistory_ok : toolHistory.toOption.map (fun history =>
    (history.2.1.lastSequence, history.2.1.invalidated,
      (history.2.2.index.versions "tool:c").length)) = some (1, false, 2) := by
  decide

variable {middle final : TranscriptProjectorV1}

theorem toolHistory_runs (h : toolHistory = .ok (start, middle, final)) :
    TranscriptProjectorV1.new "s" "g" = .ok start ∧
    (∃ updates, runCalls (perform toolContracts) start
      [.record (toolCallRecord 1 "c") "w" "1"] = .ok (middle, updates)) ∧
    ∃ updates, runCalls (perform toolContracts) middle
      [.record (toolResultRecord 2 "c") "w" "2"] = .ok (final, updates) := by
  simp only [toolHistory, ok_rules, Prod.mk.injEq, Prod.exists] at h
  obtain ⟨_, hstart, _, updates, hcall, _, updates', hres, rfl, rfl, rfl⟩ := h
  exact ⟨hstart, ⟨updates, hcall⟩, updates', hres⟩

theorem toolHistory_reachable (h : toolHistory = .ok (start, middle, final)) :
    Reachable toolContracts middle := by
  obtain ⟨hstart, ⟨_, hcall⟩, -⟩ := toolHistory_runs h
  obtain ⟨_, _, _, hperf, hnil, -⟩ := runCalls_cons_eq_ok_iff.mp hcall
  obtain ⟨rfl, -⟩ := runCalls_nil_eq_ok_iff.mp hnil
  exact (Reachable.start (.new hstart)).call hperf

/-- The result of a tool call revises its block at sequence 2; pages at 1 stay. -/
theorem pageAt_historical_revised :
    ∃ start middle final, toolHistory = .ok (start, middle, final) ∧
      (middle.lastSequence = 1 ∧ (final.index.versions "tool:c").length = 2) ∧
      ∀ codec olderCursor policy, final.pageAt codec 1 olderCursor policy =
        middle.pageAt codec 1 olderCursor policy := by
  obtain ⟨⟨start, middle, final⟩, hhistory, hfacts⟩ := Outcome.exists_ok_of_map toolHistory_ok
  simp only [Prod.mk.injEq] at hfacts
  refine ⟨start, middle, final, hhistory, ⟨hfacts.1, hfacts.2.2⟩,
    fun codec olderCursor policy => ?_⟩
  obtain ⟨-, -, _, hres⟩ := toolHistory_runs hhistory
  have hcalls : ∀ call ∈ [ProjectorCall.record (toolResultRecord 2 "c") "w" "2"],
      call.isTombstone = false := by
    intro call hcall
    rw [List.mem_singleton] at hcall
    subst hcall
    rfl
  exact pageAt_historical codec (toolHistory_reachable hhistory).attainable hfacts.1.ge hcalls
    hres olderCursor policy

end TranscriptProjectorV1

end Centaeris
