import Centaeris.Transcript.IndexInvariant

namespace Centaeris

open Foundation Option

/-!
# Pages of a waterline do not change

A page at a waterline depends only on what the index shows there.  Later updates add
versions and cursors above the waterline, so they change no page at it.
-/

namespace TranscriptBlockIndexV1

variable {index index' index'' : TranscriptBlockIndexV1} {high : Nat}

/-! ### Indexes that show the same -/

def shownAt (index : TranscriptBlockIndexV1) (high : Nat) (order : OrderPosition) :
    Option TranscriptBlockV1 :=
  (index.blockOrder[order]?).bind (index.blockAt high)

def resumeCursorAt (index : TranscriptBlockIndexV1) (high : Nat) (streamId : String) :
    Option String :=
  (lastRecorded (·.sourceHighWater) (index.cursorVersions streamId) high).map (·.cursor)

/-- Two indexes that show the same at a waterline. -/
structure SameBlocksAt (high : Nat) (index index' : TranscriptBlockIndexV1) :
    Prop where
  session : index.sessionId = index'.sessionId
  generation : index.projectionGeneration = index'.projectionGeneration
  blocks : ∀ order, index.shownAt high order = index'.shownAt high order

structure SameAt (high : Nat) (index index' : TranscriptBlockIndexV1) : Prop
    extends SameBlocksAt high index index' where
  cursors : ∀ streamId, index.resumeCursorAt high streamId =
    index'.resumeCursorAt high streamId

theorem SameAt.refl (index : TranscriptBlockIndexV1) : SameAt high index index :=
  ⟨⟨rfl, rfl, fun _ => rfl⟩, fun _ => rfl⟩

theorem SameAt.trans (h : SameAt high index index')
    (h' : SameAt high index' index'') : SameAt high index index'' :=
  ⟨⟨h.session.trans h'.session, h.generation.trans h'.generation,
    fun order => (h.blocks order).trans (h'.blocks order)⟩,
    fun streamId => (h.cursors streamId).trans (h'.cursors streamId)⟩

/-! ### Pages -/

theorem SameBlocksAt.eligible (h : SameBlocksAt high index index')
    (before : Option OrderPosition) :
    index.eligible high before = index'.eligible high before := by
  -- the eligible blocks are a listing of the order table, reversed
  have hlisting : ∀ index : TranscriptBlockIndexV1, index.eligible high before =
      (index.blockOrder.toList.filterMap fun entry =>
        if inRange high before entry.1 then index.blockAt high entry.2
        else none).reverse := by
    intro index
    unfold TranscriptBlockIndexV1.eligible
    rw [← List.filterMap_reverse, ← List.filter_reverse, List.filterMap_filter]
  rw [hlisting index, hlisting index']
  refine congrArg List.reverse (Table.filterMap_toList_congr
    (fun order blockId =>
      if inRange high before order then index.blockAt high blockId else none)
    (fun order blockId =>
      if inRange high before order then index'.blockAt high blockId else none)
    fun order => ?_)
  by_cases hrange : inRange high before order = true
  · simp only [hrange, if_true]
    exact h.blocks order
  · simp [hrange]

theorem SameAt.resumeCursorsAt (h : SameAt high index index') :
    index.resumeCursorsAt high = index'.resumeCursorsAt high := by
  unfold TranscriptBlockIndexV1.resumeCursorsAt
  let listed (streamId : String) (versions : List VersionedResumeCursor) :
      Option TranscriptResumeCursorV1 :=
    (lastRecorded (·.sourceHighWater) versions high).map fun item =>
      ⟨streamId, item.cursor⟩
  refine Table.filterMap_toList_congr listed listed fun streamId => ?_
  have hlookup : ∀ index : TranscriptBlockIndexV1,
      (index.resumeCursorsByStream[streamId]?).bind (listed streamId) =
        (index.resumeCursorAt high streamId).map (⟨streamId, ·⟩) := by
    intro index
    unfold resumeCursorAt cursorVersions
    cases index.resumeCursorsByStream[streamId]? with
    | none => rfl
    | some versions =>
      simp only [bind_some, getD_some, map_map, listed]
      rfl
  rw [hlookup index, hlookup index', h.cursors]

theorem SameAt.buildPage (codec : CursorCodec) (h : SameAt high index index') :
    index.buildPage codec high = index'.buildPage codec high := by
  funext newestFirst hasOlder
  unfold TranscriptBlockIndexV1.buildPage
  rw [h.resumeCursorsAt, h.session, h.generation]

/-- **Pages.** Indexes that show the same at a waterline serve the same pages there. -/
theorem SameAt.pageAt (codec : CursorCodec) (h : SameAt high index index')
    (hprojected : high ≤ index.sourceHighWater ↔
      high ≤ index'.sourceHighWater)
    (olderCursor : Option String) (policy : TranscriptPagePolicyV1) :
    index.pageAt codec high olderCursor policy =
      index'.pageAt codec high olderCursor policy := by
  have hpre : index.beforeOrder codec high olderCursor =
      index'.beforeOrder codec high olderCursor := by
    unfold beforeOrder
    rw [h.session, h.generation]
  have hsize : index.pageSize codec high = index'.pageSize codec high := by
    funext newestFirst hasOlder
    unfold pageSize
    rw [h.buildPage codec]
  have hwat : decide (high ≤ index.sourceHighWater) =
      decide (high ≤ index'.sourceHighWater) := decide_eq_decide.mpr hprojected
  unfold TranscriptBlockIndexV1.pageAt
  rw [hpre, hsize, h.buildPage codec, hwat]
  simp only [h.toSameBlocksAt.eligible]

/-! ### Updates above the waterline -/

variable {block : TranscriptBlockV1} {appliedSequence : Nat}

theorem SameAt.pushVersion {isNew : Bool} (hwf : index.WellFormed)
    (hpush : index.Pushable appliedSequence block isNew)
    (hlat : high < appliedSequence) :
    SameAt high index
      (index.pushVersion isNew block.position appliedSequence block) := by
  have hbl : ∀ blockId, (index.pushVersion isNew block.position appliedSequence block).blockAt
      high blockId = index.blockAt high blockId := by
    intro blockId
    unfold blockAt versionAt
    rw [pushVersion_versions]
    split
    case isTrue hid =>
      subst hid
      rw [latestAt_append_later]
      exact hlat
    case isFalse => rfl
  refine ⟨⟨rfl, rfl, fun order => ?_⟩, fun _ => rfl⟩
  unfold shownAt
  rw [hpush.blockOrder hwf, Table.getElem?_insert]
  split
  case isTrue hord =>
    subst hord
    simp only [bind_some, hbl]
    rcases hpush.order with ⟨-, hnone, hfree⟩ | ⟨-, hkn⟩
    · -- a new block has no version at the waterline
      rw [hfree, bind_none, blockAt, versionAt]
      rw [hwf.versions_eq_nil hnone]
      rfl
    · rw [(hwf.orders _ _).mp hkn, bind_some]
  case isFalse => exact congrArg _ (funext fun blockId => (hbl blockId).symm)

/-- An update above the waterline shows the same at it. -/
theorem SameAt.applyCommitted (hwf : index.WellFormed) (hlat : high < appliedSequence)
    (h : index.applyCommitted appliedSequence block = .ok index') :
    SameAt high index index' := by
  obtain ⟨-, ⟨rfl, -⟩ | ⟨isNew, hpush, rfl⟩⟩ := applyCommitted_eq_ok_iff.mp h
  · exact SameAt.refl index'
  · exact SameAt.pushVersion hwf hpush hlat

variable {water : Nat}

theorem SameAt.advanceSourceHighWater (h : index.advanceSourceHighWater water = .ok index') :
    SameAt high index index' := by
  obtain ⟨-, rfl⟩ := advanceSourceHighWater_eq_ok_iff.mp h
  exact ⟨⟨rfl, rfl, fun _ => rfl⟩, fun _ => rfl⟩

theorem SameAt.recordResumeCursor {streamId cursor : String} (hlat : high < water)
    (h : index.recordResumeCursor water streamId cursor = .ok index') :
    SameAt high index index' := by
  obtain ⟨-, ⟨rfl, -⟩ | ⟨-, rfl⟩⟩ := recordResumeCursor_eq_ok_iff.mp h
  · exact SameAt.refl index'
  · refine ⟨⟨rfl, rfl, fun _ => rfl⟩, fun stream => ?_⟩
    unfold resumeCursorAt
    rw [pushCursor_cursorVersions]
    split
    case isTrue hid =>
      subst hid
      rw [lastRecorded_append_later]
      exact hlat
    case isFalse => rfl

end TranscriptBlockIndexV1

end Centaeris
