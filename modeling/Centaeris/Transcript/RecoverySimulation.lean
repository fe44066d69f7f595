import Centaeris.Transcript.ProjectorRuns

namespace Centaeris

open Foundation Outcome TranscriptBlockIndexV1 TranscriptBlockV1 TranscriptProjectorV1 List Option

/-!
# A recovered projector follows the original

A checkpoint forgets every finished block and every resume cursor.  What it keeps is
enough: whatever the original projector accepts afterwards, the recovered one accepts
with the same reports.
-/

/-! ### Open tool calls and the index -/

/-- An open tool call agrees with its block. -/
structure ProjectedTool.Open (tool : ProjectedTool) (cid : String) : Prop where
  blockId : tool.block.blockId = "tool:" ++ cid
  orderKey : tool.orderKey = tool.block.orderKey
  revision : tool.block.blockRevision = tool.revision.repr
  body : ∃ summary summaryRef,
    tool.block.body = .tool cid tool.toolName .running summary summaryRef none

variable {tool : ProjectedTool} {cid : String}

theorem ProjectedTool.Open.ext {tool' : ProjectedTool} (h : tool.Open cid)
    (h' : tool'.Open cid) (hbl : tool.block = tool'.block) :
    tool = tool' := by
  have hord : tool.orderKey = tool'.orderKey := by rw [h.orderKey, h'.orderKey, hbl]
  have hname : tool.toolName = tool'.toolName := by
    obtain ⟨_, _, hbody⟩ := h.body
    obtain ⟨_, _, hbody'⟩ := h'.body
    rw [hbl, hbody'] at hbody
    injection hbody with _ hname
    exact hname.symm
  have hrev : tool.revision = tool'.revision := by
    have hrepr : tool.revision.repr = tool'.revision.repr := by
      rw [← h.revision, ← h'.revision, hbl]
    have hvl := congrArg decimalValue? hrepr
    rw [decimalValue?_repr, decimalValue?_repr] at hvl
    exact Option.some.inj hvl
  obtain ⟨_, _, _, _⟩ := tool
  obtain ⟨_, _, _, _⟩ := tool'
  simp only at hord hname hrev hbl
  rw [hord, hname, hrev, hbl]

/-- An open tool call is the only version of its block. -/
structure Tracks (index : TranscriptBlockIndexV1) (tools : OpenTools) : Prop where
  opens : ∀ (cid : String) (tool : ProjectedTool), tools[cid]? = some tool →
    tool.Open cid
  versions : ∀ (cid : String) (tool : ProjectedTool), tools[cid]? = some tool →
    index.versions ("tool:" ++ cid) = [⟨tool.block.position.sequence, tool.block⟩]
  positive : ∀ (cid : String) (tool : ProjectedTool), tools[cid]? = some tool →
    0 < tool.block.position.sequence

namespace Tracks

variable {index : TranscriptBlockIndexV1} {tools : OpenTools} {block : TranscriptBlockV1}
  {sequence : Nat}

theorem empty (index : TranscriptBlockIndexV1) : Tracks index ∅ := by
  refine ⟨?_, ?_, ?_⟩ <;>
    · intro cid tool h
      rw [Table.getElem?_empty] at h
      cases h

theorem order (htracks : Tracks index tools) (hwf : index.WellFormed)
    (h : tools[cid]? = some tool) :
    index.orderByBlockId["tool:" ++ cid]? = some tool.block.position := by
  have hvers := htracks.versions cid tool h
  have hid := (htracks.opens cid tool h).blockId
  rw [← hid] at hvers ⊢
  apply hwf.ordered tool.block.blockId ⟨tool.block.position.sequence, tool.block⟩
  rw [hvers]
  exact mem_singleton_self _

theorem congr {index' : TranscriptBlockIndexV1} (htracks : Tracks index tools)
    (hsame : ∀ cid tool, tools[cid]? = some tool →
      index'.versions ("tool:" ++ cid) = index.versions ("tool:" ++ cid)) :
    Tracks index' tools := by
  refine ⟨htracks.opens, ?_, htracks.positive⟩
  intro cid tool h
  rw [hsame cid tool h, htracks.versions cid tool h]

theorem pushVersion_new (htracks : Tracks index tools) (hwf : index.WellFormed)
    (hnew : index.orderByBlockId[block.blockId]? = none) (isNew : Bool) (order : OrderPosition) :
    Tracks (index.pushVersion isNew order sequence block) tools := by
  apply htracks.congr
  intro cid tool h
  rw [pushVersion_versions]
  by_cases hid : block.blockId = "tool:" ++ cid
  · rw [hid, htracks.order hwf h] at hnew
    cases hnew
  · rw [if_neg hid]

theorem insert (htracks : Tracks index tools) (hopen : tool.Open cid)
    (hpositive : 0 < tool.block.position.sequence) (hvers : index.versions ("tool:" ++ cid) =
      [⟨tool.block.position.sequence, tool.block⟩]) :
    Tracks index (tools.insert cid tool) := by
  refine ⟨?_, ?_, ?_⟩
  · intro other found h
    obtain ⟨rfl, rfl⟩ | ⟨-, hold⟩ := Table.found_of_insert h
    · exact hopen
    · exact htracks.opens other found hold
  · intro other found h
    obtain ⟨rfl, rfl⟩ | ⟨-, hold⟩ := Table.found_of_insert h
    · exact hvers
    · exact htracks.versions other found hold
  · intro other found h
    obtain ⟨rfl, rfl⟩ | ⟨-, hold⟩ := Table.found_of_insert h
    · exact hpositive
    · exact htracks.positive other found hold

theorem close (htracks : Tracks index tools) (hid : block.blockId = "tool:" ++ cid)
    (isNew : Bool) (order : OrderPosition) :
    Tracks (index.pushVersion isNew order sequence block) (tools.erase cid) := by
  refine ⟨?_, ?_, ?_⟩
  · intro other found h
    exact htracks.opens other found (Table.found_of_erase h).2
  · intro other found h
    obtain ⟨hne, hold⟩ := Table.found_of_erase h
    rw [pushVersion_versions, if_neg ?_]
    · exact htracks.versions other found hold
    · intro hbl
      rw [hid] at hbl
      exact hne ((String.append_right_inj _).mp hbl)
  · intro other found h
    exact htracks.positive other found (Table.found_of_erase h).2

end Tracks

namespace TranscriptProjectorV1

variable {contracts : PayloadContracts} {index : TranscriptBlockIndexV1}
  {tools tools' : OpenTools} {sequence : Nat} {isNew : Bool}

theorem orderByBlockId_of_later {block : TranscriptBlockV1} (hwf : index.WellFormed)
    (hlat : index.sourceHighWater < block.position.sequence)
    (hpush : index.Pushable sequence block isNew) :
    index.orderByBlockId[block.blockId]? = none := by
  rcases hpush.order with ⟨-, hnone, -⟩ | ⟨-, hkn⟩
  · exact hnone
  · -- a known position has a version, and that was applied at the waterline or before
    obtain ⟨item, hitem⟩ := exists_mem_of_ne_nil _ (hwf.versioned _ _ hkn)
    have hsame := hwf.ordered _ item hitem
    rw [hkn, Option.some.injEq] at hsame
    have hle := le_trans (hwf.position_le_applied hitem) (hwf.projected _ item hitem)
    rw [← hsame] at hle
    omega

variable {block : Option TranscriptBlockV1} {streamId appliedCursor : String}

theorem tracks_of_display (hwf : index.WellFormed) (hlat : index.sourceHighWater < sequence)
    (htracks : Tracks index tools) (hdisplay : Display tools sequence tools' block)
    (hblocks : ∀ b ∈ block, b.validate = .ok () ∧ index.Pushable sequence b isNew) :
    Tracks ((moved index sequence isNew block).pushCursor sequence streamId appliedCursor)
      tools' := by
  -- a recorded cursor changes no version
  suffices h : Tracks (moved index sequence isNew block) tools' from
    h.congr fun _ _ _ => pushCursor_versions _
  cases hdisplay with
  | nothing => exact htracks.congr fun _ _ _ => rfl
  | @own b hpos =>
    have hpush := (hblocks b rfl).2
    have hnew := orderByBlockId_of_later hwf (by rw [hpos]; exact hlat) hpush
    exact htracks.pushVersion_new hwf hnew isNew b.position
  | @call cid toolName summary summaryRef b hcl hpos hrev hid hbody =>
    have hpush := (hblocks b rfl).2
    have hnew := orderByBlockId_of_later hwf (by rw [hpos]; exact hlat) hpush
    apply (htracks.pushVersion_new hwf hnew isNew b.position).insert
    · have hfst : (1 : Nat).repr = "1" := by decide
      exact ⟨hid, rfl, hrev.trans hfst.symm, summary, summaryRef, hbody⟩
    · show 0 < b.position.sequence
      rw [hpos]
      exact Nat.zero_lt_of_lt hlat
    · rw [pushVersion_versions, if_pos hid, hwf.versions_eq_nil hnew]
      show [(⟨sequence, b⟩ : VersionedBlock)] = [⟨b.position.sequence, b⟩]
      rw [hpos]
  | @result cid tool b hopen hord hrev hid =>
    exact htracks.close hid isNew b.position

theorem display_of_call {call : ProjectorCall}
    (h : call.display contracts tools = .ok (tools', block)) :
    Display tools call.sequence tools' block := by
  have hnothing : ∀ {other : OpenTools × Option TranscriptBlockV1},
      (pure (tools, none) : Outcome _) = .ok other → Display tools call.sequence other.1 other.2 := by
    intro other hoth
    cases hoth
    exact .nothing
  cases call with
  | record record _ _ =>
    simp only [ProjectorCall.display] at h
    split at h
    · exact hnothing h
    · exact display_of_projectBlock h
  | envelope _ _ _ | withoutDisplay _ _ _ => exact hnothing h

/-! ### Putting the open tool calls back -/

/-- The index and the open tool calls after some of them were put back. -/
structure Restored (sessionId projectionGeneration : String)
    (state : TranscriptBlockIndexV1 × OpenTools) (done : List TranscriptProjectionOpenToolV1) :
    Prop where
  wellFormed : state.1.WellFormed
  session : state.1.sessionId = sessionId
  generation : state.1.projectionGeneration = projectionGeneration
  cursors : state.1.resumeCursorsByStream = ∅
  orders : ∀ (blockId : String) (order : OrderPosition),
    state.1.orderByBlockId[blockId]? = some order →
    ∃ entry ∈ done, entry.block.blockId = blockId ∧ entry.block.position = order
  water : ∀ bound, (∀ entry ∈ done, entry.block.position.sequence ≤ bound) →
    state.1.sourceHighWater ≤ bound
  tracks : Tracks state.1 state.2
  known : ∀ (cid : String) (tool : ProjectedTool), state.2[cid]? = some tool →
    ∃ entry ∈ done, entry.callId = cid
  complete : ∀ entry ∈ done, ∃ tool, state.2[entry.callId]? = some tool ∧
    tool.block = entry.block

theorem restored_nil {sessionId projectionGeneration : String}
    (h : TranscriptBlockIndexV1.new sessionId projectionGeneration = .ok index) :
    Restored sessionId projectionGeneration (index, ∅) [] := by
  have hwf := wellFormed_of_new h
  simp only [TranscriptBlockIndexV1.new, ok_rules] at h
  obtain ⟨-, -, rfl⟩ := h
  refine ⟨hwf, rfl, rfl, rfl, ?_, fun _ _ => Nat.zero_le _, .empty _, ?_, ?_⟩ <;> simp

variable {sessionId projectionGeneration : String} {state state' : TranscriptBlockIndexV1 × OpenTools}
  {done : List TranscriptProjectionOpenToolV1} {entry : TranscriptProjectionOpenToolV1}

section

variable (h : Restored sessionId projectionGeneration state done)
  (hdone : ∀ other ∈ done, other.block.blockId = "tool:" ++ other.callId)

include h hdone

theorem Restored.entry_new (hid : entry.block.blockId = "tool:" ++ entry.callId)
    (hnew : entry.callId ∉ done.map (·.callId)) :
    state.1.orderByBlockId[entry.block.blockId]? = none := by
  rw [eq_none_iff_forall_ne_some]
  intro order hord
  obtain ⟨other, hoth, hsame, -⟩ := h.orders _ order hord
  rw [hdone other hoth, hid] at hsame
  have hcall : other.callId = entry.callId := (String.append_right_inj _).mp hsame
  exact hnew (List.mem_map.mpr ⟨other, hoth, hcall⟩)

variable {sourceHighWater : Nat}

theorem Restored.restoreTool
    (hval : entry.Valid sourceHighWater) (hnew : entry.callId ∉ done.map (·.callId))
    (hrestore : restoreTool state entry = .ok state') :
    Restored sessionId projectionGeneration state' (done ++ [entry]) := by
  obtain ⟨index, tools⟩ := state
  obtain ⟨index', tools'⟩ := state'
  obtain ⟨sequence, cid, toolName, status, summary, summaryRef, outputRef, revision,
    hseq, hcom, hbody, hrev, -, rfl⟩ := restoreTool_eq_ok_iff.mp hrestore
  rw [sourceSequence_of_validate hval.block, Except.ok.injEq] at hseq
  subst hseq
  have hfree : index.orderByBlockId[entry.block.blockId]? = none :=
    h.entry_new hdone hval.blockId hnew
  have hnone : index.versions entry.block.blockId = [] := h.wellFormed.versions_eq_nil hfree
  have hwf' := h.wellFormed.applyCommitted hcom
  obtain ⟨-, ⟨-, item, hfind, -⟩ | ⟨isNew, hpush, rfl⟩⟩ :=
    applyCommitted_eq_ok_iff.mp hcom
  · rw [hnone] at hfind
    cases hfind
  have hm : ∀ {p : TranscriptProjectionOpenToolV1 → Prop}, (∃ other ∈ done, p other) →
      ∃ other ∈ done ++ [entry], p other := by
    rintro p ⟨other, hoth, hp⟩
    exact ⟨other, mem_append_left _ hoth, hp⟩
  have hlast : entry ∈ done ++ [entry] := by simp
  refine ⟨hwf', h.session, h.generation, h.cursors, ?_, ?_, ?_, ?_, ?_⟩
  · intro blockId order hord
    rw [hpush.orderByBlockId] at hord
    obtain ⟨hid, rfl⟩ | ⟨-, hold⟩ := Table.found_of_insert hord
    · exact ⟨entry, hlast, hid, rfl⟩
    · exact hm (h.orders blockId order hold)
  · intro bound hbd
    exact hbd entry hlast
  · apply (h.tracks.pushVersion_new h.wellFormed hfree isNew entry.block.position).insert
    · obtain ⟨name, summary', summaryRef', hrunning⟩ := hval.body
      rw [hbody] at hrunning
      cases hrunning
      exact ⟨hval.blockId, rfl, repr_of_decimalValue? hrev, summary, summaryRef, hbody⟩
    · exact hpush.positive
    · rw [pushVersion_versions, if_pos hval.blockId, hnone]
      rfl
  · intro other tool hoth
    obtain ⟨hid, -⟩ | ⟨-, hold⟩ := Table.found_of_insert hoth
    · exact ⟨entry, hlast, hid⟩
    · exact hm (h.known other tool hold)
  · intro other hoth
    rcases mem_append_last.mp hoth with hold | rfl
    · obtain ⟨tool, htool, hbl⟩ := h.complete other hold
      refine ⟨tool, ?_, hbl⟩
      rw [Table.getElem?_insert, if_neg ?_]
      · exact htool
      · intro hid
        exact hnew (List.mem_map.mpr ⟨other, hold, hid.symm⟩)
    · exact ⟨_, by rw [Table.getElem?_insert, if_pos rfl], rfl⟩

theorem Restored.restoreTool_ok
    (hval : entry.Valid sourceHighWater) (hnew : entry.callId ∉ done.map (·.callId))
    (hpositive : 0 < entry.block.position.sequence)
    (haft : ∀ other ∈ done, other.block.position < entry.block.position) :
    ∃ state', TranscriptProjectorV1.restoreTool state entry = .ok state' := by
  obtain ⟨index, tools⟩ := state
  have hfree : index.orderByBlockId[entry.block.blockId]? = none :=
    h.entry_new hdone hval.blockId hnew
  have hnone : index.versions entry.block.blockId = [] := h.wellFormed.versions_eq_nil hfree
  have hplc : index.blockOrder[entry.block.position]? = none := by
    rw [eq_none_iff_forall_ne_some]
    intro blockId hbd
    obtain ⟨other, hoth, -, hsame⟩ :=
      h.orders blockId _ ((h.wellFormed.orders _ _).mpr hbd)
    exact absurd (haft other hoth) (hsame ▸ lt_irrefl _)
  have hpush : index.Pushable entry.block.position.sequence entry.block true := by
    refine ⟨?_, hpositive, ?_, le_rfl, .inl ⟨rfl, hfree, hplc⟩, ?_, fun _ => rfl⟩
    · simp [hnone]
    · apply h.water
      intro other hoth
      exact OrderPosition.sequence_le_of_le (haft other hoth).le
    · simp [hnone]
  obtain ⟨toolName, summary, summaryRef, hbody⟩ := hval.body
  obtain ⟨hrev, hrevisionLt⟩ := TranscriptBlockV1.revision_of_validate hval.block
  have hcom : index.applyCommitted entry.block.position.sequence entry.block =
      .ok (index.pushVersion true entry.block.position entry.block.position.sequence
        entry.block) :=
    applyCommitted_eq_ok_iff.mpr
      ⟨hval.block, .inr ⟨true, hpush, rfl⟩⟩
  exact ⟨(_, _), restoreTool_eq_ok_iff.mpr ⟨_, _, toolName, _, summary, summaryRef, none, _,
    TranscriptBlockV1.sourceSequence_of_validate hval.block, hcom, hbody, hrev,
    hrevisionLt, rfl⟩⟩

end

variable {prj : TranscriptProjectorV1}

theorem Start.tracks (h : Start prj) :
    Tracks prj.index prj.tools := by
  cases h with
  | new h =>
    simp only [TranscriptProjectorV1.new, ok_rules] at h
    obtain ⟨index, -, rfl⟩ := h
    exact .empty index
  | @recovered rcv _ h =>
    simp only [fromCheckpointRecovery, ok_rules, Prod.exists] at h
    obtain ⟨hval, _, -, index, hidx, restored, tools, hrestore, advanced, hadv, rfl⟩ := h
    obtain ⟨water, -, -, hlist⟩ := validate_openTools hval
    have hrst := foldlM_invariant_trace (Restored rcv.frontier.sessionId
      rcv.frontier.projectionGeneration) ?_ (restored_nil hidx) hrestore
    · obtain ⟨-, rfl⟩ := advanceSourceHighWater_eq_ok_iff.mp hadv
      exact hrst.tracks.congr fun _ _ _ => rfl
    · -- each entry is valid, and its call was not put back before
      intro state state' entry front back hsp hfront hstep
      obtain ⟨hdone, hent, hnew, -⟩ := hlist.of_split hsp
      rw [nil_append] at hfront ⊢
      exact hfront.restoreTool hdone hent hnew hstep

/-! ### The simulation -/

/-- The simulation relation: the same session, generation, sequence and open tool calls, and no
    block or stream that the original does not have. -/
structure Follows (original recovered : TranscriptProjectorV1) : Prop where
  session : recovered.sessionId = original.sessionId
  generation : recovered.index.projectionGeneration = original.index.projectionGeneration
  tools : recovered.tools = original.tools
  lastSequence : recovered.lastSequence = original.lastSequence
  invalidated : recovered.invalidated = original.invalidated
  consistent : original.Consistent
  consistent' : recovered.Consistent
  tracks : Tracks original.index original.tools
  tracks' : Tracks recovered.index original.tools
  orders : ∀ (blockId : String) (order : OrderPosition),
    recovered.index.orderByBlockId[blockId]? = some order →
    original.index.orderByBlockId[blockId]? = some order
  streams : ∀ streamId, streamId ∈ recovered.index.resumeCursorsByStream →
    streamId ∈ original.index.resumeCursorsByStream

variable {original recovered original' : TranscriptProjectorV1} {call : ProjectorCall}
  {update : Option TranscriptProjectionUpdateV1} {block : TranscriptBlockV1}

section

variable (h : Follows original recovered)

include h

theorem Follows.new_block (hfree : original.index.orderByBlockId[block.blockId]? = none)
    (hplc : original.index.blockOrder[block.position]? = none) :
    recovered.index.orderByBlockId[block.blockId]? = none ∧
      recovered.index.blockOrder[block.position]? = none := by
  refine ⟨?_, ?_⟩
  · rw [eq_none_iff_forall_ne_some]
    intro order hord
    rw [h.orders _ order hord] at hfree
    cases hfree
  · rw [eq_none_iff_forall_ne_some]
    intro blockId hbd
    have hkn := h.orders blockId _ ((h.consistent'.index.orders _ _).mpr hbd)
    rw [(h.consistent.index.orders _ _).mp hkn] at hplc
    cases hplc

theorem Follows.known_block (hlat : original.lastSequence < sequence)
    (hdisplay : Display original.tools sequence tools' (some block))
    (hpush : original.index.Pushable sequence block isNew)
    (hkn : original.index.orderByBlockId[block.blockId]? = some block.position) :
    recovered.index.versions block.blockId = original.index.versions block.blockId ∧
      recovered.index.orderByBlockId[block.blockId]? = some block.position := by
  have hplaced : block.position ≠ ⟨sequence, 0⟩ := by
    intro hpos
    have hfree := orderByBlockId_of_later h.consistent.index
      (by rw [hpos, h.consistent.water]; exact hlat) hpush
    rw [hkn] at hfree
    cases hfree
  cases hdisplay with
  | own hpos | call _ hpos => exact absurd hpos hplaced
  | @result cid tool _ hopen hord hrev hid =>
    have hplc := h.tracks.order h.consistent.index hopen
    rw [hid] at hkn ⊢
    rw [hplc, Option.some.injEq] at hkn
    refine ⟨?_, ?_⟩
    · rw [h.tracks.versions cid tool hopen, h.tracks'.versions cid tool hopen]
    · rw [h.tracks'.order h.consistent'.index hopen, hkn]

theorem Follows.pushable (hlat : original.lastSequence < sequence)
    (hdisplay : Display original.tools sequence tools' (some block))
    (hpush : original.index.Pushable sequence block isNew) :
    recovered.index.Pushable sequence block isNew := by
  have hmonotone : recovered.index.sourceHighWater ≤ sequence := by
    rw [h.consistent'.water, h.lastSequence]
    exact hlat.le
  suffices hsame : recovered.index.versions block.blockId =
      original.index.versions block.blockId ∧
      ((isNew = true ∧ recovered.index.orderByBlockId[block.blockId]? = none ∧
        recovered.index.blockOrder[block.position]? = none) ∨
      (isNew = false ∧ recovered.index.orderByBlockId[block.blockId]? = some block.position)) by
    obtain ⟨hvers, hord⟩ := hsame
    refine ⟨?_, hpush.positive, hmonotone, hpush.orderBound, hord, ?_, ?_⟩
    · rw [hvers]
      exact hpush.fresh
    · rw [hvers]
      exact hpush.successor
    · rw [hvers]
      exact hpush.first
  rcases hpush.order with ⟨hflag, hfree, hplc⟩ | ⟨hflag, hkn⟩
  · obtain ⟨hfree', hplc'⟩ := h.new_block hfree hplc
    refine ⟨?_, .inl ⟨hflag, hfree', hplc'⟩⟩
    rw [h.consistent'.index.versions_eq_nil hfree', h.consistent.index.versions_eq_nil hfree]
  · obtain ⟨hvers, hkn'⟩ := h.known_block hlat hdisplay hpush hkn
    exact ⟨hvers, .inr ⟨hflag, hkn'⟩⟩

theorem Follows.room (hroom : original.index.resumeCursorsByStream.contains streamId = true ∨
      original.index.resumeCursorsByStream.size < transcriptPageResumeCursorMaxCount) :
    recovered.index.resumeCursorsByStream.contains streamId = true ∨
      recovered.index.resumeCursorsByStream.size < transcriptPageResumeCursorMaxCount := by
  by_cases hkn : streamId ∈ recovered.index.resumeCursorsByStream
  · exact .inl (Std.ExtTreeMap.contains_iff_mem.mpr hkn)
  · right
    rcases hroom with hcontains | hsize
    · -- the stream itself is one that the recovered projector has forgotten
      have hm : streamId ∈ original.index.resumeCursorsByStream :=
        Std.ExtTreeMap.contains_iff_mem.mp hcontains
      exact lt_of_lt_of_le (Table.size_lt_of_subset h.streams hm hkn)
        h.consistent.index.streams
    · exact lt_of_le_of_lt (Table.size_le_of_subset h.streams) hsize

end

theorem moved_orderByBlockId {block : Option TranscriptBlockV1}
    (hblocks : ∀ b ∈ block, index.Pushable sequence b isNew) :
    (moved index sequence isNew block).orderByBlockId = match block with
      | none => index.orderByBlockId
      | some b => index.orderByBlockId.insert b.blockId b.position := by
  cases block with
  | none => rfl
  | some b => exact (hblocks b rfl).orderByBlockId

@[simp] theorem moved_projectionGeneration {block : Option TranscriptBlockV1} :
    (moved index sequence isNew block).projectionGeneration = index.projectionGeneration := by
  cases block <;> rfl

@[simp] theorem moved_resumeCursorsByStream {block : Option TranscriptBlockV1} :
    (moved index sequence isNew block).resumeCursorsByStream = index.resumeCursorsByStream := by
  cases block <;> rfl

theorem report_congr {prj' : TranscriptProjectorV1}
    (hses : prj'.sessionId = prj.sessionId)
    (hgen : prj'.index.projectionGeneration = prj.index.projectionGeneration)
    (block : Option TranscriptBlockV1) :
    prj'.report block call = prj.report block call := by
  have hpatch : ∀ sequence streamId appliedCursor,
      prj'.announce sequence streamId appliedCursor block =
        prj.announce sequence streamId appliedCursor block := by
    intro sequence streamId appliedCursor
    cases block with
    | none => rfl
    | some b => simp only [announce, patchOf, hses, hgen]
  cases call with
  | record record streamId appliedCursor => simp only [report, hpatch]
  | envelope _ _ _ => rfl
  | withoutDisplay _ _ _ => rfl

/-- One call of the original is followed with the same report. -/
theorem Follows.perform (h : Follows original recovered)
    (hcall : original.perform contracts call = .ok (original', update)) :
    ∃ recovered', recovered.perform contracts call = .ok (recovered', update) ∧
      Follows original' recovered' := by
  have hcst := h.consistent.perform hcall
  obtain ⟨hlive, hacc, hlast, tools, block, index, hshown, hidx, rfl, hreport⟩ :=
    perform_eq_ok_iff.mp hcall
  have hdisplay := display_of_call hshown
  have hlat : original.index.sourceHighWater < call.sequence := by
    rw [h.consistent.water]
    exact hlast
  have hlat' : recovered.index.sourceHighWater < call.sequence := by
    rw [h.consistent'.water, h.lastSequence]
    exact hlast
  obtain ⟨isNew, hcom, rfl⟩ := (commitIndex_later_iff h.consistent.index hlat).mp hidx
  have hcom' : Committable recovered.index call.sequence call.streamId call.appliedCursor isNew
      block := by
    refine ⟨?_, hcom.stream, hcom.cursor, h.room hcom.room⟩
    rintro b rfl
    obtain ⟨hval, hpush⟩ := hcom.blocks b rfl
    exact ⟨hval, h.pushable hlast hdisplay hpush⟩
  have hidx' := (commitIndex_later_iff h.consistent'.index hlat').mpr ⟨isNew, hcom', rfl⟩
  have hgen : ((moved recovered.index call.sequence isNew block).pushCursor call.sequence
      call.streamId call.appliedCursor).projectionGeneration =
      ((moved original.index call.sequence isNew block).pushCursor call.sequence
        call.streamId call.appliedCursor).projectionGeneration := by
    show (moved recovered.index _ _ _).projectionGeneration =
      (moved original.index _ _ _).projectionGeneration
    rw [moved_projectionGeneration, moved_projectionGeneration, h.generation]
  have hstep : recovered.perform contracts call = .ok (⟨recovered.sessionId,
      (moved recovered.index call.sequence isNew block).pushCursor call.sequence call.streamId
        call.appliedCursor, tools, call.sequence, call.isTombstone⟩, update) := by
    refine perform_eq_ok_iff.mpr ⟨h.invalidated.trans hlive, ?_, ?_, tools, block, _, ?_, hidx',
      rfl, ?_⟩
    · rw [h.session]
      exact hacc
    · rw [h.lastSequence]
      exact hlast
    · rw [h.tools]
      exact hshown
    · rw [← hreport]
      exact report_congr (by exact h.session) (by exact hgen) block
  refine ⟨_, hstep, h.session, hgen, rfl, rfl, rfl, hcst,
    h.consistent'.perform hstep,
    tracks_of_display h.consistent.index hlat h.tracks hdisplay hcom.blocks,
    tracks_of_display h.consistent'.index hlat' h.tracks' hdisplay hcom'.blocks, ?_, ?_⟩
  · intro blockId order
    show (moved recovered.index _ _ _).orderByBlockId[blockId]? = _ →
      (moved original.index _ _ _).orderByBlockId[blockId]? = _
    rw [moved_orderByBlockId fun b hb => (hcom.blocks b hb).2,
      moved_orderByBlockId fun b hb => (hcom'.blocks b hb).2]
    cases block with
    | none => exact h.orders blockId order
    | some b =>
      simp only [Table.getElem?_insert]
      split
      · exact id
      · exact h.orders blockId order
  · intro streamId
    show streamId ∈ (moved recovered.index _ _ _).resumeCursorsByStream.insert _ _ →
      streamId ∈ (moved original.index _ _ _).resumeCursorsByStream.insert _ _
    rw [moved_resumeCursorsByStream, moved_resumeCursorsByStream, Std.ExtTreeMap.mem_insert,
      Std.ExtTreeMap.mem_insert]
    exact Or.imp_right (h.streams streamId)

theorem Reachable.tracks (h : Reachable contracts prj) :
    Tracks prj.index prj.tools := by
  induction h with
  | start h => exact h.tracks
  | @call prj _ call _ hreach hcall ih =>
    have hcst := hreach.consistent
    obtain ⟨-, -, hlast, tools, block, index, hshown, hidx, rfl, -⟩ :=
      perform_eq_ok_iff.mp hcall
    have hlat : prj.index.sourceHighWater < call.sequence := by
      rw [hcst.water]
      exact hlast
    obtain ⟨isNew, hcom, rfl⟩ := (commitIndex_later_iff hcst.index hlat).mp hidx
    exact tracks_of_display hcst.index hlat ih (display_of_call hshown) hcom.blocks

/-! ### Recovery succeeds -/

variable {prj : TranscriptProjectorV1} {rcv : TranscriptProjectionRecoveryV1}
  {frontierRef blockIndexRef : String}

/-- What a checkpoint of a projector holds: where it is, and its open tool calls. -/
structure Captures (prj : TranscriptProjectorV1)
    (rcv : TranscriptProjectionRecoveryV1) : Prop where
  live : prj.invalidated = false
  valid : rcv.validate = .ok ()
  session : rcv.frontier.sessionId = prj.sessionId
  generation : rcv.frontier.projectionGeneration = prj.index.projectionGeneration
  water : rcv.frontier.sourceHighWater = prj.lastSequence.repr
  openTools : ∀ entry, entry ∈ rcv.frontier.openTools ↔
    ∃ tool, prj.tools[entry.callId]? = some tool ∧ tool.block = entry.block

theorem captures_of_checkpointRecovery (hwf : prj.index.WellFormed)
    (htracks : Tracks prj.index prj.tools)
    (h : prj.checkpointRecovery frontierRef blockIndexRef = .ok rcv) :
    Captures prj rcv := by
  have hpositioned : prj.positionedTools = .ok (prj.tools.toList.map fun entry =>
      (entry.2.block.position, ⟨entry.1, entry.2.block⟩)) := by
    apply mapM_eq_ok_of_forall
    intro (cid, tool) hm
    have hopen := Table.mem_toList.mp hm
    have hversion : (⟨tool.block.position.sequence, tool.block⟩ : VersionedBlock) ∈
        prj.index.versions ("tool:" ++ cid) := by
      rw [htracks.versions cid tool hopen]
      exact mem_singleton_self _
    have hval := (hwf.blocks _ _ hversion).1
    simp only [(htracks.opens cid tool hopen).orderKey, orderValue_of_validate hval, ok_bind]
    rfl
  simp only [checkpointRecovery, ok_rules, requireLive_eq_ok_iff, hpositioned, Except.ok.injEq,
    exists_eq_left'] at h
  obtain ⟨hlive, hval, rfl⟩ := h
  refine ⟨hlive, hval, rfl, rfl, rfl, ?_⟩
  intro entry
  simp only [List.mem_map, mem_insertionSort, Prod.exists, Table.mem_toList, Prod.mk.injEq]
  constructor
  · rintro ⟨_, _, ⟨cid, tool, hopen, -, rfl⟩, rfl⟩
    exact ⟨tool, hopen, rfl⟩
  · rintro ⟨tool, hopen, hbl⟩
    exact ⟨_, _, ⟨entry.callId, tool, hopen, rfl, rfl⟩, by rw [hbl]⟩

/-- The tool calls put back are those that were open. -/
theorem restored_tools {state : TranscriptBlockIndexV1 × OpenTools}
    (htracks : Tracks prj.index prj.tools) (h : Captures prj rcv)
    (hrst : Restored sessionId projectionGeneration state rcv.frontier.openTools) :
    state.2 = prj.tools := by
  apply Table.ext
  intro cid
  cases hopen : prj.tools[cid]? with
  | some tool =>
    have hent : ⟨cid, tool.block⟩ ∈ rcv.frontier.openTools :=
      (h.openTools _).mpr ⟨tool, hopen, rfl⟩
    obtain ⟨tool', htool', hbl⟩ := hrst.complete _ hent
    rw [htool', (hrst.tracks.opens _ _ htool').ext (htracks.opens _ _ hopen) hbl]
  | none =>
    rw [eq_none_iff_forall_ne_some]
    intro tool' htool'
    obtain ⟨entry, hent, rfl⟩ := hrst.known cid tool' htool'
    obtain ⟨tool, htool, -⟩ := (h.openTools entry).mp hent
    rw [hopen] at htool
    cases htool

/-- **Recovery.** The checkpoint of a projector that tracks its open tool calls can be
    recovered, and the recovered projector follows the original. -/
theorem follows_of_captures (hcst : prj.Consistent)
    (htracks : Tracks prj.index prj.tools) (h : Captures prj rcv) :
    ∃ recovered, fromCheckpointRecovery rcv = .ok recovered ∧
      Follows prj recovered := by
  obtain ⟨water, hwat, -, hlist⟩ := validate_openTools h.valid
  have hsame : prj.lastSequence = water := by
    rw [h.water, decimalValue?_repr, Option.some.injEq] at hwat
    exact hwat
  subst hsame
  obtain ⟨index, hidx⟩ : ∃ index, TranscriptBlockIndexV1.new rcv.frontier.sessionId
      rcv.frontier.projectionGeneration = .ok index := by
    have hses := hcst.index.session
    rw [hcst.session, ← h.session] at hses
    have hgen := hcst.index.generation
    rw [← h.generation] at hgen
    simp only [TranscriptBlockIndexV1.new, ok_rules, requireIdentifier_eq_ok, hses,
      hgen, true_and]
    exact ⟨_, rfl⟩
  obtain ⟨⟨restored, tools⟩, hrestore, hrst⟩ : ∃ state,
      rcv.frontier.openTools.foldlM restoreTool (index, ∅) = .ok state ∧
        Restored rcv.frontier.sessionId rcv.frontier.projectionGeneration state
          rcv.frontier.openTools := by
    apply foldlM_progress _ (restored_nil hidx)
    intro state entry front back hsp hfront
    obtain ⟨hdone, hval, hnew, haft⟩ := hlist.of_split hsp
    have hm : entry ∈ rcv.frontier.openTools := by
      rw [hsp]
      simp
    obtain ⟨tool, hopen, hbl⟩ := (h.openTools entry).mp hm
    have hpositive := htracks.positive entry.callId tool hopen
    rw [hbl] at hpositive
    obtain ⟨state', hstep⟩ := hfront.restoreTool_ok hdone hval hnew hpositive haft
    exact ⟨state', hstep, hfront.restoreTool hdone hval hnew hstep⟩
  have hbelow : restored.sourceHighWater ≤ prj.lastSequence := by
    apply hrst.water
    intro entry hent
    exact (hlist.valid entry hent).bound
  have htools : tools = prj.tools := restored_tools htracks h hrst
  have hrec : fromCheckpointRecovery rcv = .ok ⟨rcv.frontier.sessionId,
      { restored with sourceHighWater := prj.lastSequence }, tools,
      prj.lastSequence, false⟩ := by
    simp only [fromCheckpointRecovery, ok_rules, Prod.exists, filter_eq_some_iff, decide_eq_true_eq]
    exact ⟨h.valid, prj.lastSequence, ⟨hwat, hcst.bounded⟩, index, hidx,
      restored, tools, hrestore, _,
      advanceSourceHighWater_eq_ok_iff.mpr ⟨hbelow, rfl⟩, rfl⟩
  refine ⟨_, hrec, h.session, hrst.generation.trans h.generation, htools, rfl,
    h.live.symm, hcst, (Start.recovered hrec).consistent, htracks, ?_, ?_, ?_⟩
  · rw [← htools]
    exact hrst.tracks.congr fun _ _ _ => rfl
  · intro blockId order hord
    obtain ⟨entry, hent, rfl, rfl⟩ := hrst.orders blockId order hord
    obtain ⟨tool, hopen, hbl⟩ := (h.openTools entry).mp hent
    rw [(hlist.valid entry hent).blockId, htracks.order hcst.index hopen, hbl]
  · intro streamId hstream
    have hnone : streamId ∈ (∅ : Table String (List VersionedResumeCursor)) := by
      rw [← hrst.cursors]
      exact hstream
    exact absurd hnone Std.ExtTreeMap.not_mem_empty

/-- **Simulation.** Recovery from the checkpoint of a reached projector succeeds; every run
    of calls that the original accepts is accepted by the recovered projector with the same
    reports, and afterwards both give the same checkpoints. -/
theorem recovered_projector_follows (hreach : Reachable contracts prj)
    (hrecovery : prj.checkpointRecovery frontierRef blockIndexRef = .ok rcv) :
    ∃ recovered, fromCheckpointRecovery rcv = .ok recovered ∧
      ∀ calls prj' updates,
        runCalls (perform contracts) prj calls = .ok (prj', updates) →
        ∃ recovered', runCalls (perform contracts) recovered calls = .ok (recovered', updates) ∧
          ∀ frontierRef' blockIndexRef',
            recovered'.checkpointRecovery frontierRef' blockIndexRef' =
              prj'.checkpointRecovery frontierRef' blockIndexRef' := by
  have hcaptures := captures_of_checkpointRecovery hreach.consistent.index hreach.tracks hrecovery
  obtain ⟨recovered, hrec, hfollows⟩ :=
    follows_of_captures hreach.consistent hreach.tracks hcaptures
  refine ⟨recovered, hrec, ?_⟩
  intro calls prj' updates hrun
  have hstep : ∀ original recovered call original' update, Follows original recovered →
      perform contracts original call = .ok (original', update) →
      ∃ recovered', perform contracts recovered call = .ok (recovered', update) ∧
        Follows original' recovered' := by
    intro original recovered call original' update hsim hcall
    exact hsim.perform hcall
  obtain ⟨recovered', hrun', hfollows'⟩ := runCalls_simulation Follows hstep hfollows hrun
  refine ⟨recovered', hrun', fun _ _ => ?_⟩
  simp only [checkpointRecovery, requireLive, positionedTools, hfollows'.session,
    hfollows'.generation, hfollows'.tools, hfollows'.lastSequence, hfollows'.invalidated]

/-- The checkpoint between a tool call and its result. -/
def toolCheckpoint : Outcome ((TranscriptProjectorV1 × TranscriptProjectorV1 ×
    TranscriptProjectorV1) × TranscriptProjectionRecoveryV1) := do
  let history ← toolHistory
  let rcv ← history.2.1.checkpointRecovery "f" "b"
  pure (history, rcv)

theorem toolCheckpoint_ok : toolCheckpoint.toOption.map (fun checkpoint =>
    checkpoint.2.frontier.openTools.length) = some 1 := by
  decide

/-- A projector recovered between a tool call and its result takes the result with the
    same reports. -/
theorem recovered_projector_follows_result :
    ∃ start middle final rcv recovered updates recovered',
      toolHistory = .ok (start, middle, final) ∧
      middle.checkpointRecovery "f" "b" = .ok rcv ∧
      rcv.frontier.openTools.length = 1 ∧
      fromCheckpointRecovery rcv = .ok recovered ∧
      runCalls (perform toolContracts) middle
        [.record (toolResultRecord 2 "c") "w" "2"] = .ok (final, updates) ∧
      runCalls (perform toolContracts) recovered
        [.record (toolResultRecord 2 "c") "w" "2"] = .ok (recovered', updates) := by
  obtain ⟨⟨⟨start, middle, final⟩, rcv⟩, hcheckpoint, hopen⟩ :=
    exists_ok_of_map toolCheckpoint_ok
  simp only [toolCheckpoint, ok_rules, Prod.mk.injEq] at hcheckpoint
  obtain ⟨_, hhistory, _, hrecovery, rfl, rfl⟩ := hcheckpoint
  obtain ⟨-, -, updates, hres⟩ := toolHistory_runs hhistory
  obtain ⟨recovered, hrec, hfollow⟩ :=
    recovered_projector_follows (toolHistory_reachable hhistory) hrecovery
  obtain ⟨recovered', hrun', -⟩ := hfollow _ _ _ hres
  exact ⟨start, middle, final, _, recovered, updates, recovered', hhistory, hrecovery, hopen,
    hrec, hres, hrun'⟩

end TranscriptProjectorV1

end Centaeris
