import Centaeris.Transcript.Projector

namespace Centaeris

open Foundation List Outcome TranscriptBlockV1

/-!
# Checkpoint recovery of the projector

A checkpoint keeps only what later records can refer to: the open tool calls.
-/

def transcriptFrontierSchemaV1 : String := "transcript.frontier.v1"
def transcriptProjectionSliceMaxEvents : Nat := transcriptPageBlockMaxCount

/-! ### Checkpoints -/

structure TranscriptProjectionCheckpointV1 where
  schema : String
  sessionId : String
  projectionVersion : String
  projectionGeneration : String
  sourceHighWater : String
  frontierRef : String
  blockIndexRef : String
deriving DecidableEq

namespace TranscriptProjectionCheckpointV1

def toJson (checkpoint : TranscriptProjectionCheckpointV1) : Json :=
  .object [("schema", .string checkpoint.schema), ("sessionId", .string checkpoint.sessionId),
    ("projectionVersion", .string checkpoint.projectionVersion),
    ("projectionGeneration", .string checkpoint.projectionGeneration),
    ("sourceHighWater", .string checkpoint.sourceHighWater),
    ("frontierRef", .string checkpoint.frontierRef),
    ("blockIndexRef", .string checkpoint.blockIndexRef)]

def validate (checkpoint : TranscriptProjectionCheckpointV1) : Outcome Unit := do
  validateProjectionIdentity checkpoint.schema transcriptCheckpointSchemaV1
    checkpoint.sessionId checkpoint.projectionVersion checkpoint.projectionGeneration
  let _ ← parseDecimalU64 checkpoint.sourceHighWater "transcript checkpoint sourceHighWater"
  requireIdentifier checkpoint.frontierRef "transcript checkpoint frontierRef"
  requireIdentifier checkpoint.blockIndexRef "transcript checkpoint blockIndexRef"
  ensure (checkpoint.toJson.size ≤ transcriptCheckpointMaxBytes)
    "transcript checkpoint exceeds maximum bytes"

end TranscriptProjectionCheckpointV1

structure TranscriptCheckpointRefsV1 where
  frontierRef : String
  blockIndexRef : String
deriving DecidableEq

def TranscriptCheckpointRefsV1.validate (refs : TranscriptCheckpointRefsV1) : Outcome Unit := do
  requireIdentifier refs.frontierRef "transcript checkpoint frontierRef"
  requireIdentifier refs.blockIndexRef "transcript checkpoint blockIndexRef"

/-! ### Frontiers -/

structure TranscriptProjectionOpenToolV1 where
  callId : String
  block : TranscriptBlockV1
deriving DecidableEq

namespace TranscriptProjectionOpenToolV1

def toJson (tool : TranscriptProjectionOpenToolV1) : Json :=
  .object [("callId", .string tool.callId), ("block", tool.block.toJson)]

def validate (tool : TranscriptProjectionOpenToolV1) (sourceHighWater : Nat) :
    Outcome Unit := do
  requireIdentifier tool.callId "transcript frontier tool callId"
  tool.block.validate
  ensure (tool.block.blockId == "tool:" ++ tool.callId)
    "transcript frontier tool blockId mismatch"
  let sequence ← tool.block.orderKey.sourceSequenceValue
  ensure (decide (sequence ≤ sourceHighWater))
    "transcript frontier tool is after sourceHighWater"
  match tool.block.body with
  | .tool callId _ status _ _ outputRef =>
    ensure (callId == tool.callId && status == .running && outputRef.isNone)
      "transcript frontier contains a settled or mismatched tool"
  | _ => fail "transcript frontier open tool must contain a tool block"

end TranscriptProjectionOpenToolV1

structure TranscriptProjectionFrontierV1 where
  schema : String
  frontierRef : String
  sessionId : String
  projectionVersion : String
  projectionGeneration : String
  sourceHighWater : String
  openTools : List TranscriptProjectionOpenToolV1
deriving DecidableEq

/-- The scan of the open tools: the call ids and positions so far, and the last one. -/
structure FrontierScan where
  callIds : List String
  orders : List OrderPosition
  previousOrder : Option OrderPosition

def scanOpenTool (sourceHighWater : Nat) (scan : FrontierScan)
    (tool : TranscriptProjectionOpenToolV1) : Outcome FrontierScan := do
  tool.validate sourceHighWater
  ensure (!scan.callIds.contains tool.callId) "transcript frontier duplicates tool callId"
  let order ← tool.block.orderKey.orderValue
  ensure (!scan.orders.contains order) "transcript frontier duplicates tool orderKey"
  ensure (scan.previousOrder.all fun previous => decide (previous < order))
    "transcript frontier open tools are not ordered"
  pure ⟨tool.callId :: scan.callIds, order :: scan.orders, some order⟩

namespace TranscriptProjectionFrontierV1

def toJson (frontier : TranscriptProjectionFrontierV1) : Json :=
  .object [("schema", .string frontier.schema), ("frontierRef", .string frontier.frontierRef),
    ("sessionId", .string frontier.sessionId),
    ("projectionVersion", .string frontier.projectionVersion),
    ("projectionGeneration", .string frontier.projectionGeneration),
    ("sourceHighWater", .string frontier.sourceHighWater),
    ("openTools", .array (frontier.openTools.map (·.toJson)))]

def validate (frontier : TranscriptProjectionFrontierV1) : Outcome Unit := do
  ensure (frontier.schema == transcriptFrontierSchemaV1)
    "transcript frontier schema is unsupported"
  requireIdentifier frontier.frontierRef "transcript frontierRef"
  requireIdentifier frontier.sessionId "transcript frontier sessionId"
  ensure (frontier.projectionVersion == transcriptProjectionVersionV1)
    "transcript frontier projectionVersion is unsupported"
  requireIdentifier frontier.projectionGeneration "transcript frontier projectionGeneration"
  let sourceHighWater ←
    parseDecimalU64 frontier.sourceHighWater "transcript frontier sourceHighWater"
  ensure (decide (frontier.openTools.length ≤ transcriptProjectionSliceMaxEvents))
    "transcript frontier exceeds maximum open tools"
  let _ ← frontier.openTools.foldlM (scanOpenTool sourceHighWater) ⟨[], [], none⟩
  ensure (frontier.toJson.size ≤ transcriptCheckpointMaxBytes)
    "transcript frontier exceeds maximum bytes"

end TranscriptProjectionFrontierV1

/-- A checkpoint with its frontier, and their checks. -/
structure TranscriptProjectionRecoveryV1 where
  checkpoint : TranscriptProjectionCheckpointV1
  frontier : TranscriptProjectionFrontierV1
deriving DecidableEq

namespace TranscriptProjectionRecoveryV1

def toJson (recovery : TranscriptProjectionRecoveryV1) : Json :=
  .object [("checkpoint", recovery.checkpoint.toJson), ("frontier", recovery.frontier.toJson)]

def validate (recovery : TranscriptProjectionRecoveryV1) : Outcome Unit := do
  recovery.checkpoint.validate
  recovery.frontier.validate
  ensure (recovery.checkpoint.schema == transcriptCheckpointSchemaV1 &&
      recovery.checkpoint.frontierRef == recovery.frontier.frontierRef &&
      recovery.checkpoint.sessionId == recovery.frontier.sessionId &&
      recovery.checkpoint.projectionVersion == recovery.frontier.projectionVersion &&
      recovery.checkpoint.projectionGeneration == recovery.frontier.projectionGeneration &&
      recovery.checkpoint.sourceHighWater == recovery.frontier.sourceHighWater)
    "transcript checkpoint frontier binding mismatch"
  ensure (recovery.toJson.size ≤ transcriptCheckpointMaxBytes)
    "transcript recovery exceeds maximum bytes"

end TranscriptProjectionRecoveryV1

/-! ### What an accepted frontier satisfies -/

/-- An open tool call that passes its check. -/
structure TranscriptProjectionOpenToolV1.Valid (tool : TranscriptProjectionOpenToolV1)
    (sourceHighWater : Nat) : Prop where
  block : tool.block.validate = .ok ()
  blockId : tool.block.blockId = "tool:" ++ tool.callId
  bound : tool.block.position.sequence ≤ sourceHighWater
  body : ∃ toolName summary summaryRef,
    tool.block.body = .tool tool.callId toolName .running summary summaryRef none

variable {tool : TranscriptProjectionOpenToolV1} {sourceHighWater : Nat}

theorem TranscriptProjectionOpenToolV1.valid_of_validate
    (h : tool.validate sourceHighWater = .ok ()) :
    tool.Valid sourceHighWater := by
  simp only [TranscriptProjectionOpenToolV1.validate, ok_rules, bool_rules] at h
  obtain ⟨-, hbl, hid, sequence, hseq, hbd, hbody⟩ := h
  rw [sourceSequence_of_validate hbl, Except.ok.injEq] at hseq
  refine ⟨hbl, hid, hseq ▸ hbd, ?_⟩
  cases hkind : tool.block.body with
  | tool callId toolName status summary summaryRef outputRef =>
    simp only [hkind, ensure_eq_ok, bool_rules, Option.isNone_iff_eq_none] at hbody
    obtain ⟨⟨rfl, rfl⟩, rfl⟩ := hbody
    exact ⟨toolName, summary, summaryRef, rfl⟩
  | _ => simp [hkind] at hbody

/-- Open tool calls that a frontier may list: valid, in order, no call twice. -/
structure OpenToolList (tools : List TranscriptProjectionOpenToolV1) (sourceHighWater : Nat) :
    Prop where
  valid : ∀ tool ∈ tools, tool.Valid sourceHighWater
  ordered : tools.Pairwise (fun a b => a.block.position < b.block.position)
  distinct : (tools.map (·.callId)).Nodup

theorem OpenToolList.of_split {entries front back : List TranscriptProjectionOpenToolV1}
    {entry : TranscriptProjectionOpenToolV1} (hlist : OpenToolList entries sourceHighWater)
    (hsp : entries = front ++ entry :: back) :
    (∀ other ∈ front, other.block.blockId = "tool:" ++ other.callId) ∧
      entry.Valid sourceHighWater ∧ entry.callId ∉ front.map (·.callId) ∧
      ∀ other ∈ front, other.block.position < entry.block.position := by
  subst hsp
  refine ⟨?_, hlist.valid entry (by simp), ?_, ?_⟩
  · intro other hoth
    exact (hlist.valid other (mem_append_left _ hoth)).blockId
  · have hdist := hlist.distinct
    rw [map_append, map_cons, nodup_append] at hdist
    intro hm
    exact hdist.2.2 _ hm _ mem_cons_self rfl
  · intro other hoth
    exact (pairwise_append.mp hlist.ordered).2.2 other hoth entry mem_cons_self

theorem openToolList_of_scan {tools : List TranscriptProjectionOpenToolV1} {scan : FrontierScan}
    (h : tools.foldlM (scanOpenTool sourceHighWater) ⟨[], [], none⟩ = .ok scan) :
    OpenToolList tools sourceHighWater := by
  -- the scan remembers the call ids and the last position
  have hscan := foldlM_invariant_trace (fun (scan : FrontierScan) done =>
    OpenToolList done sourceHighWater ∧ scan.callIds = (done.map (·.callId)).reverse ∧
      scan.previousOrder = done.getLast?.map (·.block.position)) ?_
    ⟨⟨by simp, .nil, by simp⟩, rfl, rfl⟩ h
  · rw [nil_append] at hscan
    exact hscan.1
  · intro scan scan' tool front back _ ⟨hlist, hids, hlast⟩ hstep
    rw [nil_append] at hlist hids hlast ⊢
    simp only [scanOpenTool, ok_rules] at hstep
    obtain ⟨hval, hnew, order, hord, -, hnext, rfl⟩ := hstep
    have htool := TranscriptProjectionOpenToolV1.valid_of_validate hval
    rw [orderValue_of_validate htool.block, Except.ok.injEq] at hord
    subst hord
    refine ⟨⟨?_, ?_, ?_⟩, ?_, ?_⟩
    · intro other hoth
      rcases mem_append_last.mp hoth with hold | rfl
      · exact hlist.valid other hold
      · exact htool
    · refine pairwise_concat ?_ hlist.ordered ?_
      · intro _ _ _ hab hbc
        exact lt_trans hab hbc
      intro last hm
      rw [hlast, Option.mem_def.mp hm] at hnext
      simpa using hnext
    · rw [map_append, map_singleton, nodup_append]
      refine ⟨hlist.distinct, nodup_singleton _, ?_⟩
      intro a ha b hb hab
      rw [mem_singleton.mp hb] at hab
      subst hab
      simp [hids, mem_map] at hnew
      obtain ⟨other, hoth, hsame⟩ := mem_map.mp ha
      exact hnew other hoth hsame
    · simp [hids]
    · simp

/-- The open tool calls of an accepted recovery are valid, distinct and in order. -/
theorem validate_openTools {recovery : TranscriptProjectionRecoveryV1}
    (h : recovery.validate = .ok ()) :
    ∃ sourceHighWater, decimalValue? recovery.frontier.sourceHighWater = some sourceHighWater ∧
      sourceHighWater < u64Size ∧ OpenToolList recovery.frontier.openTools sourceHighWater := by
  simp only [TranscriptProjectionRecoveryV1.validate, TranscriptProjectionFrontierV1.validate,
    ok_rules, parseDecimalU64_eq_ok] at h
  obtain ⟨-, ⟨-, -, -, -, -, water, ⟨hwat, hbd⟩, -, scan, hscan, -⟩, -⟩ := h
  exact ⟨water, hwat, hbd, openToolList_of_scan hscan⟩

/-! ### Recovery of a projector -/

namespace TranscriptProjectorV1

def positionedTools (projector : TranscriptProjectorV1) :
    Outcome (List (OrderPosition × TranscriptProjectionOpenToolV1)) :=
  projector.tools.toList.mapM fun entry => do
    let order ← entry.2.orderKey.orderValue
    pure (order, ⟨entry.1, entry.2.block⟩)

/-- The recovery of a projector. -/
def checkpointRecovery (projector : TranscriptProjectorV1) (frontierRef blockIndexRef : String) :
    Outcome TranscriptProjectionRecoveryV1 := do
  projector.requireLive
  let tools ← projector.positionedTools
  let orderedTools := tools.insertionSort fun a b => a.1 ≤ b.1
  let frontier : TranscriptProjectionFrontierV1 :=
    { schema := transcriptFrontierSchemaV1
      frontierRef := frontierRef
      sessionId := projector.sessionId
      projectionVersion := transcriptProjectionVersionV1
      projectionGeneration := projector.index.projectionGeneration
      sourceHighWater := projector.lastSequence.repr
      openTools := orderedTools.map (·.2) }
  let checkpoint : TranscriptProjectionCheckpointV1 :=
    { schema := transcriptCheckpointSchemaV1
      sessionId := projector.sessionId
      projectionVersion := transcriptProjectionVersionV1
      projectionGeneration := projector.index.projectionGeneration
      sourceHighWater := projector.lastSequence.repr
      frontierRef := frontierRef
      blockIndexRef := blockIndexRef }
  let recovery : TranscriptProjectionRecoveryV1 := ⟨checkpoint, frontier⟩
  recovery.validate
  pure recovery

/-- One open tool call of a frontier, put back. -/
def restoreTool (state : TranscriptBlockIndexV1 × OpenTools)
    (tool : TranscriptProjectionOpenToolV1) : Outcome (TranscriptBlockIndexV1 × OpenTools) := do
  let sequence ← tool.block.orderKey.sourceSequenceValue
  let index ← state.1.applyCommitted sequence tool.block
  match tool.block.body with
  | .tool _ toolName _ _ _ _ => do
    let revision ← orFail ((decimalValue? tool.block.blockRevision).filter (· < u64Size))
      "transcript frontier blockRevision exceeds u64"
    pure (index, state.2.insert tool.callId ⟨tool.block.orderKey, toolName, revision, tool.block⟩)
  | _ => .error (.panicked "validated open tool body")

/-- A projector that continues from it. -/
def fromCheckpointRecovery (recovery : TranscriptProjectionRecoveryV1) :
    Outcome TranscriptProjectorV1 := do
  recovery.validate
  let sourceHighWater ← orFail
    ((decimalValue? recovery.frontier.sourceHighWater).filter (· < u64Size))
    "transcript frontier sourceHighWater exceeds u64"
  let index ← TranscriptBlockIndexV1.new recovery.frontier.sessionId
    recovery.frontier.projectionGeneration
  let (index, tools) ← recovery.frontier.openTools.foldlM restoreTool (index, ∅)
  let index ← index.advanceSourceHighWater sourceHighWater
  pure ⟨recovery.frontier.sessionId, index, tools, sourceHighWater, false⟩

/-- What putting back one open tool call does. -/
theorem restoreTool_eq_ok_iff {index index' : TranscriptBlockIndexV1} {tools tools' : OpenTools} :
    restoreTool (index, tools) tool = .ok (index', tools') ↔
      ∃ sequence callId toolName status summary summaryRef outputRef revision,
        tool.block.orderKey.sourceSequenceValue = .ok sequence ∧
        index.applyCommitted sequence tool.block = .ok index' ∧
        tool.block.body = .tool callId toolName status summary summaryRef outputRef ∧
        decimalValue? tool.block.blockRevision = some revision ∧ revision < u64Size ∧
        tools' = tools.insert tool.callId
          ⟨tool.block.orderKey, toolName, revision, tool.block⟩ := by
  simp only [restoreTool, bind_eq_ok]
  cases hbody : tool.block.body with
  | tool callId toolName status summary summaryRef outputRef =>
    simp only [ok_rules, Prod.mk.injEq, Option.filter_eq_some_iff, decide_eq_true_eq]
    constructor
    · rintro ⟨sequence, hseq, index, hcom, revision, ⟨hrev, hlt⟩, rfl, rfl⟩
      exact ⟨sequence, callId, toolName, status, summary, summaryRef, outputRef, revision,
        hseq, hcom, rfl, hrev, hlt, rfl⟩
    · rintro ⟨sequence, _, _, _, _, _, _, revision, hseq, hcom, hsame, hrev, hlt,
        rfl⟩
      cases hsame
      exact ⟨sequence, hseq, index', hcom, revision, ⟨hrev, hlt⟩, rfl, rfl⟩
  | _ => simp

end TranscriptProjectorV1

end Centaeris
