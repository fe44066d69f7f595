import Centaeris.Transcript.Index

namespace Centaeris

open Foundation List TranscriptBlockIndexV1

/-!
# The invariant of the block index

Every index that successful calls can reach is well formed, whatever blocks and cursors
were committed.
-/

namespace TranscriptBlockIndexV1

/-- The invariant. -/
structure WellFormed (index : TranscriptBlockIndexV1) : Prop where
  session : isBlank index.sessionId = false
  generation : isBlank index.projectionGeneration = false
  orders : ∀ (bid : String) (order : OrderPosition),
    index.orderByBlockId[bid]? = some order ↔ index.blockOrder[order]? = some bid
  versioned : ∀ (bid : String) (order : OrderPosition),
    index.orderByBlockId[bid]? = some order → index.versions bid ≠ []
  ordered : ∀ bid, ∀ item ∈ index.versions bid,
    index.orderByBlockId[bid]? = some item.block.position
  blocks : ∀ bid, ∀ item ∈ index.versions bid,
    item.block.validate = .ok () ∧ item.block.blockId = bid
  applied : ∀ bid,
    (index.versions bid).Pairwise (fun a b => a.appliedSequence < b.appliedSequence)
  revisions : ∀ bid,
    (index.versions bid).Pairwise (fun a b => a.block.revision < b.block.revision)
  first : ∀ bid, ∀ item ∈ (index.versions bid).head?,
    item.appliedSequence = item.block.position.sequence
  projected : ∀ bid, ∀ item ∈ index.versions bid,
    item.appliedSequence ≤ index.sourceHighWater
  cursors : ∀ streamId, (index.cursorVersions streamId).Pairwise
    (fun a b => a.sourceHighWater < b.sourceHighWater)
  cursorsProjected : ∀ streamId, ∀ item ∈ index.cursorVersions streamId,
    item.sourceHighWater ≤ index.sourceHighWater
  cursorsValid : ∀ streamId, ∀ item ∈ index.cursorVersions streamId,
    isBlank streamId = false ∧ isBlank item.cursor = false
  streams : index.resumeCursorsByStream.size ≤ transcriptPageResumeCursorMaxCount

/-! ### Lookups after an update -/

variable {index : TranscriptBlockIndexV1} {block : TranscriptBlockV1} {isNew : Bool}
  {order : OrderPosition} {appliedSequence high : Nat} {streamId cursor : String}

theorem pushVersion_versions (bid : String) :
    (index.pushVersion isNew order appliedSequence block).versions bid =
      if block.blockId = bid then
        index.versions block.blockId ++ [⟨appliedSequence, block⟩]
      else index.versions bid := by
  unfold versions pushVersion
  rw [Table.getElem?_insert]
  split <;> rfl

theorem Pushable.orderByBlockId (hpush : index.Pushable appliedSequence block isNew) :
    (index.pushVersion isNew block.position appliedSequence block).orderByBlockId =
      index.orderByBlockId.insert block.blockId block.position := by
  rcases hpush.order with ⟨rfl, -, -⟩ | ⟨rfl, hkn⟩
  · rfl
  · exact (Table.insert_of_getElem?_eq_some hkn).symm

theorem Pushable.blockOrder (hwf : index.WellFormed)
    (hpush : index.Pushable appliedSequence block isNew) :
    (index.pushVersion isNew block.position appliedSequence block).blockOrder =
      index.blockOrder.insert block.position block.blockId := by
  rcases hpush.order with ⟨rfl, -, -⟩ | ⟨rfl, hkn⟩
  · rfl
  · exact (Table.insert_of_getElem?_eq_some ((hwf.orders _ _).mp hkn)).symm

@[simp] theorem pushVersion_resumeCursorsByStream :
    (index.pushVersion isNew order appliedSequence block).resumeCursorsByStream =
      index.resumeCursorsByStream := rfl

@[simp] theorem pushCursor_versions (bid : String) :
    (index.pushCursor high streamId cursor).versions bid =
      index.versions bid := rfl

theorem pushCursor_cursorVersions (stream : String) :
    (index.pushCursor high streamId cursor).cursorVersions stream =
      if streamId = stream then
        index.cursorVersions streamId ++ [⟨high, cursor⟩]
      else index.cursorVersions stream := by
  unfold cursorVersions pushCursor
  rw [Table.getElem?_insert]
  split <;> rfl

/-! ### Every update keeps the invariant -/

private theorem forall_pushed {P : String → VersionedBlock → Prop}
    (hold : ∀ bid, ∀ item ∈ index.versions bid, P bid item)
    (hnew : P block.blockId ⟨appliedSequence, block⟩) :
    ∀ bid, ∀ item ∈ (index.pushVersion isNew order appliedSequence block).versions bid,
      P bid item := by
  intro bid item hitem
  rw [pushVersion_versions] at hitem
  by_cases hid : block.blockId = bid
  · rw [if_pos hid, mem_append, mem_singleton] at hitem
    subst hid
    rcases hitem with hitem | rfl
    · exact hold _ item hitem
    · exact hnew
  · rw [if_neg hid] at hitem
    exact hold bid item hitem

private theorem pairwise_pushed {R : VersionedBlock → VersionedBlock → Prop}
    (htrans : ∀ a b c, R a b → R b c → R a c)
    (hold : ∀ bid, (index.versions bid).Pairwise R)
    (hlast : ∀ last ∈ (index.versions block.blockId).getLast?, R last ⟨appliedSequence, block⟩)
    (bid : String) :
    ((index.pushVersion isNew order appliedSequence block).versions bid).Pairwise R := by
  rw [pushVersion_versions]
  by_cases hid : block.blockId = bid
  · rw [if_pos hid]
    exact pairwise_concat htrans (hold _) hlast
  · rw [if_neg hid]
    exact hold bid

theorem WellFormed.pushVersion (hwf : index.WellFormed) (hval : block.validate = .ok ())
    (hpush : index.Pushable appliedSequence block isNew) :
    (index.pushVersion isNew block.position appliedSequence block).WellFormed where
  session := hwf.session
  generation := hwf.generation
  orders := by
    intro bid order
    rw [hpush.orderByBlockId, hpush.blockOrder hwf, Table.getElem?_insert, Table.getElem?_insert]
    by_cases hid : block.blockId = bid
    · subst hid
      by_cases hord : block.position = order
      · simp [hord]
      · rw [if_pos rfl, if_neg hord, Option.some.injEq]
        refine iff_of_false hord ?_
        intro hoth
        have hsame := (hwf.orders _ _).mpr hoth
        rcases hpush.order with ⟨-, hnone, -⟩ | ⟨-, hkn⟩
        · rw [hsame] at hnone
          cases hnone
        · rw [hsame] at hkn
          exact hord (Option.some.inj hkn).symm
    · by_cases hord : block.position = order
      · subst hord
        rw [if_neg hid, if_pos rfl, Option.some.injEq]
        refine iff_of_false ?_ hid
        intro hoth
        have hsame := (hwf.orders _ _).mp hoth
        rcases hpush.order with ⟨-, -, hnone⟩ | ⟨-, hkn⟩
        · rw [hsame] at hnone
          cases hnone
        · rw [(hwf.orders _ _).mp hkn] at hsame
          exact hid (Option.some.inj hsame)
      · rw [if_neg hid, if_neg hord]
        exact hwf.orders bid order
  versioned := by
    intro bid order h
    rw [hpush.orderByBlockId, Table.getElem?_insert] at h
    rw [pushVersion_versions]
    by_cases hid : block.blockId = bid
    · simp [hid]
    · rw [if_neg hid] at h ⊢
      exact hwf.versioned bid order h
  ordered := by
    rw [hpush.orderByBlockId]
    refine forall_pushed ?_ (by simp)
    intro bid item hitem
    rw [Table.getElem?_insert]
    by_cases hid : block.blockId = bid
    · subst hid
      rw [if_pos rfl]
      have hold := hwf.ordered _ item hitem
      rcases hpush.order with ⟨-, hnone, -⟩ | ⟨-, hkn⟩
      · rw [hold] at hnone
        cases hnone
      · rw [← hkn, hold]
    · rw [if_neg hid]
      exact hwf.ordered bid item hitem
  blocks := forall_pushed hwf.blocks ⟨hval, rfl⟩
  applied := pairwise_pushed (fun _ _ _ => lt_trans) hwf.applied
    (fun last hlast => (hpush.successor last hlast).1)
  revisions := by
    refine pairwise_pushed (fun _ _ _ => lt_trans) hwf.revisions ?_
    intro last hlast
    obtain ⟨_, revision, ⟨hrev, -⟩, hlt⟩ := hpush.successor last hlast
    simpa [TranscriptBlockV1.revision, hrev] using hlt
  first := by
    intro bid item hitem
    rw [pushVersion_versions] at hitem
    by_cases hid : block.blockId = bid
    · subst hid
      rw [if_pos rfl] at hitem
      cases hvers : index.versions block.blockId with
      | nil =>
        rw [hvers] at hitem
        simp only [nil_append, head?_cons, Option.mem_def, Option.some.injEq] at hitem
        subst hitem
        exact hpush.first hvers
      | cons head tail =>
        rw [hvers] at hitem
        refine hwf.first block.blockId item ?_
        rw [hvers]
        exact hitem
    · rw [if_neg hid] at hitem
      exact hwf.first bid item hitem
  projected := forall_pushed
    (fun bid item hitem => le_trans (hwf.projected bid item hitem) hpush.monotone) le_rfl
  cursors := hwf.cursors
  cursorsProjected := fun streamId item hitem =>
    le_trans (hwf.cursorsProjected streamId item hitem) hpush.monotone
  cursorsValid := hwf.cursorsValid
  streams := hwf.streams

theorem WellFormed.advance (hwf : index.WellFormed)
    (hle : index.sourceHighWater ≤ high) :
    { index with sourceHighWater := high }.WellFormed :=
  { hwf with
    projected := fun bid item hitem => le_trans (hwf.projected bid item hitem) hle
    cursorsProjected := fun streamId item hitem =>
      le_trans (hwf.cursorsProjected streamId item hitem) hle }

theorem WellFormed.pushCursor (hwf : index.WellFormed)
    (hrcd : index.Recordable high streamId cursor)
    (hlast : ∀ last ∈ (index.cursorVersions streamId).getLast?,
      last.sourceHighWater < high) :
    (index.pushCursor high streamId cursor).WellFormed :=
  { hwf with
    cursors := by
      intro stream
      rw [pushCursor_cursorVersions]
      by_cases hid : streamId = stream
      · rw [if_pos hid]
        refine pairwise_concat ?_ (hwf.cursors streamId) hlast
        exact fun _ _ _ => lt_trans
      · rw [if_neg hid]
        exact hwf.cursors stream
    cursorsProjected := by
      intro stream item hitem
      rw [pushCursor_cursorVersions] at hitem
      by_cases hid : streamId = stream
      · rw [if_pos hid, mem_append, mem_singleton] at hitem
        rcases hitem with hitem | rfl
        · exact hwf.cursorsProjected _ item hitem
        · exact hrcd.projected
      · rw [if_neg hid] at hitem
        exact hwf.cursorsProjected stream item hitem
    cursorsValid := by
      intro stream item hitem
      rw [pushCursor_cursorVersions] at hitem
      by_cases hid : streamId = stream
      · rw [if_pos hid, mem_append, mem_singleton] at hitem
        rcases hitem with hitem | rfl
        · exact hid ▸ hwf.cursorsValid _ item hitem
        · exact ⟨hid ▸ hrcd.stream, hrcd.value⟩
      · rw [if_neg hid] at hitem
        exact hwf.cursorsValid stream item hitem
    streams := by
      show (index.resumeCursorsByStream.insert streamId _).size ≤ _
      rw [Std.ExtTreeMap.size_insert]
      have hstreams := hwf.streams
      rcases hrcd.room with hkn | hroom
      · rw [if_pos hkn]
        exact hstreams
      · split <;> omega }

/-! ### Reachable indexes -/

/-- Indexes reached by successful calls, and `Reachable.wellFormed`. -/
inductive Reachable : TranscriptBlockIndexV1 → Prop
  | new {sessionId projectionGeneration : String} {index : TranscriptBlockIndexV1} :
      TranscriptBlockIndexV1.new sessionId projectionGeneration = .ok index → Reachable index
  | applyCommitted {index index' : TranscriptBlockIndexV1} {appliedSequence : Nat}
      {block : TranscriptBlockV1} : Reachable index →
      index.applyCommitted appliedSequence block = .ok index' → Reachable index'
  | advanceSourceHighWater {index index' : TranscriptBlockIndexV1} {high : Nat} :
      Reachable index → index.advanceSourceHighWater high = .ok index' →
      Reachable index'
  | recordResumeCursor {index index' : TranscriptBlockIndexV1} {high : Nat}
      {streamId cursor : String} : Reachable index →
      index.recordResumeCursor high streamId cursor = .ok index' → Reachable index'

theorem wellFormed_of_new {sessionId projectionGeneration : String}
    (h : new sessionId projectionGeneration = .ok index) :
    index.WellFormed := by
  simp only [new, Outcome.ok_rules, requireIdentifier_eq_ok] at h
  obtain ⟨hses, hgen, rfl⟩ := h
  refine ⟨hses, hgen, ?_, ?_, ?_, ?_, ?_, ?_, ?_, ?_, ?_, ?_, ?_, ?_⟩ <;>
    simp [versions, cursorVersions]

variable {index' : TranscriptBlockIndexV1}

theorem WellFormed.applyCommitted (hwf : index.WellFormed)
    (h : index.applyCommitted appliedSequence block = .ok index') : index'.WellFormed := by
  obtain ⟨hval, ⟨rfl, -⟩ | ⟨isNew, hpush, rfl⟩⟩ := applyCommitted_eq_ok_iff.mp h
  · exact hwf
  · exact hwf.pushVersion hval hpush

theorem WellFormed.advanceSourceHighWater (hwf : index.WellFormed)
    (h : index.advanceSourceHighWater high = .ok index') :
    index'.WellFormed := by
  obtain ⟨hle, rfl⟩ := advanceSourceHighWater_eq_ok_iff.mp h
  exact hwf.advance hle

theorem WellFormed.recordResumeCursor (hwf : index.WellFormed)
    (h : index.recordResumeCursor high streamId cursor = .ok index') :
    index'.WellFormed := by
  obtain ⟨hrcd, ⟨rfl, -⟩ | ⟨hlast, rfl⟩⟩ := recordResumeCursor_eq_ok_iff.mp h
  · exact hwf
  · exact hwf.pushCursor hrcd hlast

theorem Reachable.wellFormed (h : Reachable index) : index.WellFormed := by
  induction h with
  | new h => exact wellFormed_of_new h
  | applyCommitted _ h ih => exact ih.applyCommitted h
  | advanceSourceHighWater _ h ih => exact ih.advanceSourceHighWater h
  | recordResumeCursor _ h ih => exact ih.recordResumeCursor h

/-! ### Blocks at a waterline -/

variable {bid : String}

theorem WellFormed.versions_eq_nil (hwf : index.WellFormed)
    (h : index.orderByBlockId[bid]? = none) : index.versions bid = [] := by
  by_contra hne
  obtain ⟨item, hitem⟩ := exists_mem_of_ne_nil _ hne
  rw [hwf.ordered _ item hitem] at h
  cases h

theorem WellFormed.position_le_applied (hwf : index.WellFormed) {item : VersionedBlock}
    (hitem : item ∈ index.versions bid) :
    item.block.position.sequence ≤ item.appliedSequence := by
  cases hvers : index.versions bid with
  | nil =>
    rw [hvers] at hitem
    cases hitem
  | cons head tail =>
    have hhead : head ∈ index.versions bid := by
      rw [hvers]
      exact mem_cons_self
    have hfst := hwf.first bid head (by rw [hvers]; rfl)
    -- Both versions have the block's one position.
    have hpos : item.block.position = head.block.position := by
      have h₁ := hwf.ordered bid item hitem
      rw [hwf.ordered bid head hhead] at h₁
      exact (Option.some.inj h₁).symm
    have hsort := hwf.applied bid
    rw [hvers, pairwise_cons] at hsort
    rw [hvers] at hitem
    rcases mem_cons.mp hitem with rfl | htail
    · exact hfst.ge
    · rw [hpos, ← hfst]
      exact le_of_lt (hsort.1 item htail)

theorem WellFormed.blockAt_isSome_iff (hwf : index.WellFormed) {order : OrderPosition}
    (hord : index.orderByBlockId[bid]? = some order) :
    (index.blockAt high bid).isSome ↔ order.sequence ≤ high := by
  rw [blockAt, Option.isSome_map, versionAt]
  constructor
  · intro h
    obtain ⟨item, hitem⟩ := Option.isSome_iff_exists.mp h
    obtain ⟨hm, hle⟩ := mem_of_latestAt hitem
    have hpos := hwf.ordered bid item hm
    rw [hord, Option.some.injEq] at hpos
    rw [hpos]
    exact le_trans (hwf.position_le_applied hm) hle
  · intro hle
    cases hvers : index.versions bid with
    | nil => exact absurd hvers (hwf.versioned bid order hord)
    | cons head tail =>
      have hhead : head ∈ index.versions bid := by
        rw [hvers]
        exact mem_cons_self
      have hfst := hwf.first bid head (by rw [hvers]; rfl)
      have hpos := hwf.ordered bid head hhead
      rw [hord, Option.some.injEq] at hpos
      rw [← hvers]
      refine latestAt_isSome_of_mem (hwf.applied bid) hhead ?_
      rw [hfst, ← hpos]
      exact hle

/-- What a block was at a waterline. -/
theorem WellFormed.blockAt_eq_some_iff (hwf : index.WellFormed) :
    index.blockAt high bid = some block ↔
      ∃ item ∈ index.versions bid, item.block = block ∧
        item.appliedSequence ≤ high ∧ ∀ other ∈ index.versions bid,
          other.appliedSequence ≤ high →
          other.appliedSequence ≤ item.appliedSequence := by
  rw [blockAt, Option.map_eq_some_iff]
  constructor
  · rintro ⟨item, hitem, rfl⟩
    obtain ⟨hm, hle, hmax⟩ := (latestAt_eq_some_iff (hwf.applied bid)).mp hitem
    exact ⟨item, hm, rfl, hle, hmax⟩
  · rintro ⟨item, hm, rfl, hle, hmax⟩
    exact ⟨item, (latestAt_eq_some_iff (hwf.applied bid)).mpr ⟨hm, hle, hmax⟩, rfl⟩

/-- A block found under an id has that id, passes its check and stands at its position. -/
theorem WellFormed.blockAt_facts (hwf : index.WellFormed)
    (h : index.blockAt high bid = some block) :
    block.validate = .ok () ∧ block.blockId = bid ∧
      index.orderByBlockId[bid]? = some block.position ∧
      block.position.sequence ≤ high := by
  obtain ⟨item, hm, rfl, hle, -⟩ := hwf.blockAt_eq_some_iff.mp h
  obtain ⟨hval, hid⟩ := hwf.blocks bid item hm
  exact ⟨hval, hid, hwf.ordered bid item hm,
    le_trans (hwf.position_le_applied hm) hle⟩

end TranscriptBlockIndexV1

end Centaeris
