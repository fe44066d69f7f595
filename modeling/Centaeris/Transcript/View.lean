import Centaeris.Foundation.Table
import Centaeris.Transcript.Contract

namespace Centaeris

open Foundation Outcome TranscriptBlockV1

/-!
# The transcript view

A client opens a view on the newest page of a waterline, loads older pages of the same
waterline in the background, and applies the patches of later sequences as they arrive.  Pages and
patches are applied to a copy that replaces the view only when all of it succeeded, so a failed
call changes nothing.  A block that a patch revises before its page is loaded waits in
`pendingOverrides`.
-/

structure TranscriptViewStateV1 where
  viewEpoch : String
  sessionId : String
  projectionGeneration : String
  baseHighWater : Nat
  currentHighWater : Nat
  loadedBlockIds : Finset String
  visibleBlocksById : Table String TranscriptBlockV1
  visibleOrder : Table OrderPosition String
  knownOrderById : Table String OrderPosition
  knownIdByOrder : Table OrderPosition String
  pendingOverrides : Table String TranscriptBlockV1
  postBaseOverrideIds : Finset String
  appliedCursors : Table String String

/-- Whether an incoming version replaces the existing one; one revision has one content. -/
def incomingWins (existing incoming : TranscriptBlockV1) : Outcome Bool := do
  let existingRevision ←
    parseDecimalU64 existing.blockRevision "transcript existing blockRevision"
  let incomingRevision ←
    parseDecimalU64 incoming.blockRevision "transcript incoming blockRevision"
  if incomingRevision = existingRevision then do
    ensure (incoming == existing) "transcript block revision has conflicting content"
    pure false
  else pure (decide (existingRevision < incomingRevision))

namespace TranscriptViewStateV1

/-! ### Steps of a call -/

def validateIdentity (view : TranscriptViewStateV1)
    (sessionId projectionVersion projectionGeneration : String) : Outcome Unit :=
  ensure (sessionId == view.sessionId && projectionVersion == transcriptProjectionVersionV1 &&
      projectionGeneration == view.projectionGeneration)
    "transcript view identity mismatch"

/-- Binds a block to its position; neither may be bound otherwise. -/
def registerOrder (view : TranscriptViewStateV1) (block : TranscriptBlockV1) :
    Outcome TranscriptViewStateV1 := do
  let order ← block.orderKey.orderValue
  match view.knownOrderById[block.blockId]? with
  | some existing =>
    ensure (existing == order) "transcript block orderKey changed within the view"
    pure view
  | none =>
    ensure (view.knownIdByOrder[order]?.isNone)
      "transcript orderKey is bound to another block in the view"
    pure { view with
      knownOrderById := view.knownOrderById.insert block.blockId order
      knownIdByOrder := view.knownIdByOrder.insert order block.blockId }

def setVisible (view : TranscriptViewStateV1) (order : OrderPosition)
    (block : TranscriptBlockV1) : TranscriptViewStateV1 :=
  { view with
    visibleOrder := view.visibleOrder.insert order block.blockId
    visibleBlocksById := view.visibleBlocksById.insert block.blockId block }

/-- Whether a version replaces what a table holds for its block. -/
def winsOver (table : Table String TranscriptBlockV1) (block : TranscriptBlockV1) :
    Outcome Bool :=
  match table[block.blockId]? with
  | some existing => incomingWins existing block
  | none => pure true

def mergeVisible (view : TranscriptViewStateV1) (block : TranscriptBlockV1) :
    Outcome TranscriptViewStateV1 := do
  let wins ← winsOver view.visibleBlocksById block
  if wins then do
    let order ← block.orderKey.orderValue
    pure (view.setVisible order block)
  else pure view

def mergePendingOverride (view : TranscriptViewStateV1) (block : TranscriptBlockV1) :
    Outcome TranscriptViewStateV1 := do
  let wins ← winsOver view.pendingOverrides block
  if wins then
    pure { view with pendingOverrides := view.pendingOverrides.insert block.blockId block }
  else pure view

def markLoaded (view : TranscriptViewStateV1) (blockId : String) : TranscriptViewStateV1 :=
  { view with loadedBlockIds := insert blockId view.loadedBlockIds }

/-- Remembers that a block of the base history was revised after the base. -/
def markOverridden (view : TranscriptViewStateV1) (blockId : String) (orderSource : Nat) :
    TranscriptViewStateV1 :=
  { view with
    postBaseOverrideIds :=
      if orderSource ≤ view.baseHighWater then insert blockId view.postBaseOverrideIds
      else view.postBaseOverrideIds }

def dropOverride (view : TranscriptViewStateV1) (blockId : String) : TranscriptViewStateV1 :=
  { view with pendingOverrides := view.pendingOverrides.erase blockId }

/-- One block of a page: shown, then overridden by what patches brought before. -/
def loadBlock (view : TranscriptViewStateV1) (block : TranscriptBlockV1) :
    Outcome TranscriptViewStateV1 := do
  let view ← view.registerOrder block
  let view ← (view.markLoaded block.blockId).mergeVisible block
  match view.pendingOverrides[block.blockId]? with
  | some overrideBlock => (view.dropOverride block.blockId).mergeVisible overrideBlock
  | none => pure view

def mergeCursor (view : TranscriptViewStateV1) (cursor : TranscriptResumeCursorV1) :
    Outcome TranscriptViewStateV1 :=
  match view.appliedCursors[cursor.streamId]? with
  | some existing => do
    ensure (existing == cursor.cursor) "transcript history pages disagree on a resume cursor"
    pure view
  | none =>
    pure { view with
      appliedCursors := view.appliedCursors.insert cursor.streamId cursor.cursor }

/-- One upsert of a patch: shown when its block is loaded or newer than the base,
    otherwise kept until its page is loaded. -/
def applyUpsert (view : TranscriptViewStateV1) (block : TranscriptBlockV1) :
    Outcome TranscriptViewStateV1 := do
  let view ← view.registerOrder block
  let orderSource ← block.orderKey.sourceSequenceValue
  if block.blockId ∈ view.loadedBlockIds ∨ view.baseHighWater < orderSource then
    ((view.markOverridden block.blockId orderSource).markLoaded block.blockId).mergeVisible block
  else view.mergePendingOverride block

/-! ### Calls -/

def applyPageInner (view : TranscriptViewStateV1) (page : TranscriptPageV1) :
    Outcome TranscriptViewStateV1 := do
  page.validate .default
  view.validateIdentity page.sessionId page.projectionVersion page.projectionGeneration
  let pageHighWater ← parseDecimalU64 page.sourceHighWater "transcript page sourceHighWater"
  ensure (pageHighWater == view.baseHighWater)
    "transcript history page waterline changed within the view"
  let view ← page.blocks.foldlM loadBlock view
  page.resumeCursors.foldlM mergeCursor view

def applyPatchInner (view : TranscriptViewStateV1) (patch : TranscriptPatchV1) :
    Outcome TranscriptViewStateV1 := do
  patch.validate
  view.validateIdentity patch.sessionId patch.projectionVersion patch.projectionGeneration
  let patchHighWater ← parseDecimalU64 patch.sourceHighWater "transcript patch sourceHighWater"
  ensure (view.currentHighWater ≤ patchHighWater)
    "transcript patch sourceHighWater moved backward"
  ensure patch.removals.isEmpty "transcript block removal requires explicit view invalidation"
  let view ← patch.upserts.foldlM applyUpsert view
  pure { view with
    currentHighWater := patchHighWater
    appliedCursors := view.appliedCursors.insert patch.streamId patch.appliedCursor }

def blank (viewEpoch : String) (page : TranscriptPageV1) (baseHighWater : Nat) :
    TranscriptViewStateV1 where
  viewEpoch := viewEpoch
  sessionId := page.sessionId
  projectionGeneration := page.projectionGeneration
  baseHighWater := baseHighWater
  currentHighWater := baseHighWater
  loadedBlockIds := ∅
  visibleBlocksById := ∅
  visibleOrder := ∅
  knownOrderById := ∅
  knownIdByOrder := ∅
  pendingOverrides := ∅
  postBaseOverrideIds := ∅
  appliedCursors := ∅

def openView (viewEpoch : String) (page : TranscriptPageV1) : Outcome TranscriptViewStateV1 := do
  requireIdentifier viewEpoch "transcript viewEpoch"
  page.validate .default
  let baseHighWater ← parseDecimalU64 page.sourceHighWater "transcript page sourceHighWater"
  (blank viewEpoch page baseHighWater).applyPageInner page

def applyPage (view : TranscriptViewStateV1) (page : TranscriptPageV1) :
    Outcome TranscriptViewStateV1 :=
  view.applyPageInner page

def applyPatch (view : TranscriptViewStateV1) (patch : TranscriptPatchV1) :
    Outcome TranscriptViewStateV1 :=
  view.applyPatchInner patch

/-- The shown blocks in order. -/
def visibleBlocks (view : TranscriptViewStateV1) : List TranscriptBlockV1 :=
  view.visibleOrder.toList.filterMap fun entry => view.visibleBlocksById[entry.2]?

/-- The ids of the shown blocks that a release lets go: those of the base history that
    are neither retained nor overridden after the base. -/
def removable (view : TranscriptViewStateV1) (retainedBlockIds : Finset String) : List String :=
  ((view.visibleBlocksById.toList.map (·.2)).filter fun block =>
    match block.orderKey.sourceSequenceValue with
    | .ok sequence => decide (sequence ≤ view.baseHighWater) &&
        decide (block.blockId ∉ retainedBlockIds) &&
        decide (block.blockId ∉ view.postBaseOverrideIds)
    | .error _ => false).map (·.blockId)

def releaseBlock (view : TranscriptViewStateV1) (blockId : String) : TranscriptViewStateV1 :=
  let view := { view with
    loadedBlockIds := view.loadedBlockIds.erase blockId
    visibleBlocksById := view.visibleBlocksById.erase blockId }
  match view.knownOrderById[blockId]? with
  | some order =>
    { view with
      knownOrderById := view.knownOrderById.erase blockId
      visibleOrder := view.visibleOrder.erase order
      knownIdByOrder := view.knownIdByOrder.erase order }
  | none => view

def releaseLoadedHistory (view : TranscriptViewStateV1) (retainedBlockIds : Finset String) :
    TranscriptViewStateV1 × Nat :=
  let removable := view.removable retainedBlockIds
  (removable.foldl releaseBlock view, removable.length)

/-! ### What the steps do -/

variable {view view' : TranscriptViewStateV1} {block : TranscriptBlockV1}

/-- When a step of a call succeeds, and the view after it. -/
theorem registerOrder_eq_ok_iff (hval : block.validate = .ok ()) :
    view.registerOrder block = .ok view' ↔
      (view.knownOrderById[block.blockId]? = some block.position ∧ view' = view) ∨
      (view.knownOrderById[block.blockId]? = none ∧
        view.knownIdByOrder[block.position]? = none ∧
        view' = { view with
          knownOrderById := view.knownOrderById.insert block.blockId block.position
          knownIdByOrder := view.knownIdByOrder.insert block.position block.blockId }) := by
  unfold registerOrder
  rw [orderValue_of_validate hval, ok_bind]
  cases hkn : view.knownOrderById[block.blockId]? with
  | some existing =>
    simp only [ok_rules, beq_iff_eq, Option.some.injEq, reduceCtorEq, false_and, or_false]
    exact and_congr_right fun _ => eq_comm
  | none =>
    simp only [ok_rules, Option.isNone_iff_eq_none, reduceCtorEq, false_and, true_and, false_or]
    exact and_congr_right fun _ => eq_comm

variable {wins : Bool}

/-- One version wins over another by its revision; equal revisions are the same version. -/
theorem incomingWins_eq_ok_iff {existing incoming : TranscriptBlockV1}
    (hex : existing.validate = .ok ()) (hincoming : incoming.validate = .ok ()) :
    incomingWins existing incoming = .ok wins ↔
      (incoming.revision = existing.revision → incoming = existing) ∧
        wins = decide (existing.revision < incoming.revision) := by
  obtain ⟨he, helt⟩ := revision_of_validate hex
  obtain ⟨hi, hilt⟩ := revision_of_validate hincoming
  have hparse : ∀ name, parseDecimalU64 existing.blockRevision name = .ok existing.revision :=
    fun name => parseDecimalU64_eq_ok.mpr ⟨he, helt⟩
  have hparse' : ∀ name, parseDecimalU64 incoming.blockRevision name = .ok incoming.revision :=
    fun name => parseDecimalU64_eq_ok.mpr ⟨hi, hilt⟩
  unfold incomingWins
  rw [hparse, ok_bind, hparse', ok_bind]
  by_cases heq : incoming.revision = existing.revision
  · rw [if_pos heq]
    simp only [ok_rules, beq_iff_eq, heq, lt_irrefl, decide_false, forall_const]
    exact and_congr_right fun _ => eq_comm
  · rw [if_neg heq, pure_eq_ok]
    simp only [heq, false_imp_iff, true_and]
    exact eq_comm

/-- The newer of what is there and an incoming version. -/
def later (existing : Option TranscriptBlockV1) (incoming : TranscriptBlockV1) :
    TranscriptBlockV1 :=
  match existing with
  | some existing => if existing.revision < incoming.revision then incoming else existing
  | none => incoming

/-- Whether the incoming version is the newer one. -/
def isNewer (existing : Option TranscriptBlockV1) (incoming : TranscriptBlockV1) : Bool :=
  existing.all fun existing => existing.revision < incoming.revision

/-- One revision has one content. -/
def Agree (existing : Option TranscriptBlockV1) (incoming : TranscriptBlockV1) : Prop :=
  ∀ block ∈ existing, incoming.revision = block.revision → incoming = block

theorem revision_le_later (existing : Option TranscriptBlockV1) (incoming : TranscriptBlockV1) :
    incoming.revision ≤ (later existing incoming).revision := by
  cases existing with
  | none => exact le_rfl
  | some existing =>
    simp only [later]
    split <;> omega

theorem le_revision_later {existing : Option TranscriptBlockV1} {old : TranscriptBlockV1}
    (h : existing = some old) (incoming : TranscriptBlockV1) :
    old.revision ≤ (later existing incoming).revision := by
  subst h
  simp only [later]
  split <;> omega

theorem later_eq_or (existing : Option TranscriptBlockV1) (incoming : TranscriptBlockV1) :
    later existing incoming = incoming ∨ existing = some (later existing incoming) := by
  cases existing with
  | none => exact .inl rfl
  | some existing =>
    simp only [later]
    split
    · exact .inl rfl
    · exact .inr rfl

variable {table : Table String TranscriptBlockV1}

theorem winsOver_eq_ok_iff
    (htable : ∀ existing, table[block.blockId]? = some existing → existing.validate = .ok ())
    (hval : block.validate = .ok ()) :
    winsOver table block = .ok wins ↔
      Agree table[block.blockId]? block ∧ wins = isNewer table[block.blockId]? block := by
  unfold winsOver
  cases hent : table[block.blockId]? with
  | none =>
    simp only [pure_eq_ok, Agree, isNewer, Option.mem_def, reduceCtorEq, false_imp_iff,
      implies_true, Option.all_none, true_and]
    exact eq_comm
  | some existing =>
    simp [incomingWins_eq_ok_iff (htable existing hent) hval, Agree, isNewer]

/-- Putting the newer version into a table; nothing changes when it is there already. -/
theorem insert_later :
    (if isNewer table[block.blockId]? block then table.insert block.blockId block else table) =
      table.insert block.blockId (later table[block.blockId]? block) := by
  cases hent : table[block.blockId]? with
  | none => rfl
  | some existing =>
    simp only [isNewer, later, Option.all_some, decide_eq_true_eq]
    split
    · rfl
    · exact (Table.insert_of_getElem?_eq_some hent).symm

/-- The view with the newer version of a block shown. -/
def shown (view : TranscriptViewStateV1) (block : TranscriptBlockV1) : TranscriptViewStateV1 :=
  { view with
    visibleOrder :=
      if isNewer view.visibleBlocksById[block.blockId]? block then
        view.visibleOrder.insert block.position block.blockId
      else view.visibleOrder
    visibleBlocksById := view.visibleBlocksById.insert block.blockId
      (later view.visibleBlocksById[block.blockId]? block) }

/-- The view with the newer override of a block kept. -/
def overridden (view : TranscriptViewStateV1) (block : TranscriptBlockV1) :
    TranscriptViewStateV1 :=
  { view with
    pendingOverrides := view.pendingOverrides.insert block.blockId
      (later view.pendingOverrides[block.blockId]? block) }

/-- **Showing a block.** -/
theorem mergeVisible_eq_ok_iff
    (hview : ∀ existing, view.visibleBlocksById[block.blockId]? = some existing →
      existing.validate = .ok ()) (hval : block.validate = .ok ()) :
    view.mergeVisible block = .ok view' ↔
      Agree view.visibleBlocksById[block.blockId]? block ∧ view' = view.shown block := by
  have hshown : view.shown block =
      if isNewer view.visibleBlocksById[block.blockId]? block then
        view.setVisible block.position block else view := by
    unfold shown
    rw [← insert_later]
    split <;> rfl
  unfold mergeVisible
  rw [hshown, bind_eq_ok]
  simp only [winsOver_eq_ok_iff hview hval]
  constructor
  · rintro ⟨wins, ⟨hagree, rfl⟩, h⟩
    refine ⟨hagree, ?_⟩
    split at h
    · rw [orderValue_of_validate hval, ok_bind, pure_eq_ok] at h
      rw [if_pos ‹_›, h]
    · rw [pure_eq_ok] at h
      rw [if_neg ‹_›, h]
  · rintro ⟨hagree, rfl⟩
    refine ⟨_, ⟨hagree, rfl⟩, ?_⟩
    split
    · rw [orderValue_of_validate hval]
      rfl
    · rfl

/-- **Keeping an override.** -/
theorem mergePendingOverride_eq_ok_iff
    (hview : ∀ existing, view.pendingOverrides[block.blockId]? = some existing →
      existing.validate = .ok ()) (hval : block.validate = .ok ()) :
    view.mergePendingOverride block = .ok view' ↔
      Agree view.pendingOverrides[block.blockId]? block ∧ view' = view.overridden block := by
  have hkept : view.overridden block =
      if isNewer view.pendingOverrides[block.blockId]? block then
        { view with pendingOverrides := view.pendingOverrides.insert block.blockId block }
      else view := by
    unfold overridden
    rw [← insert_later]
    split <;> rfl
  unfold mergePendingOverride
  rw [hkept, bind_eq_ok]
  simp only [winsOver_eq_ok_iff hview hval]
  constructor
  · rintro ⟨wins, ⟨hagree, rfl⟩, h⟩
    refine ⟨hagree, ?_⟩
    split at h
    · rw [if_pos ‹_›, ← pure_eq_ok.mp h]
    · rw [if_neg ‹_›, ← pure_eq_ok.mp h]
  · rintro ⟨hagree, rfl⟩
    refine ⟨_, ⟨hagree, rfl⟩, ?_⟩
    split <;> rfl

/-- What a view holds for a block is a valid version of that block. -/
structure Holds (view : TranscriptViewStateV1) : Prop where
  visible : ∀ (blockId : String) (block : TranscriptBlockV1),
    view.visibleBlocksById[blockId]? = some block →
      block.validate = .ok () ∧ block.blockId = blockId
  pending : ∀ (blockId : String) (block : TranscriptBlockV1),
    view.pendingOverrides[blockId]? = some block →
      block.validate = .ok () ∧ block.blockId = blockId

theorem registerOrder_eq_with (hval : block.validate = .ok ())
    (h : view.registerOrder block = .ok view') :
    view' = { view with
      knownOrderById := view'.knownOrderById
      knownIdByOrder := view'.knownIdByOrder } := by
  rcases (registerOrder_eq_ok_iff hval).mp h with ⟨-, rfl⟩ | ⟨-, -, rfl⟩ <;> rfl

theorem loadBlock_eq_ok_iff (hholds : Holds view) (hval : block.validate = .ok ()) :
    view.loadBlock block = .ok view' ↔ ∃ registered,
      view.registerOrder block = .ok registered ∧
      Agree view.visibleBlocksById[block.blockId]? block ∧
      match view.pendingOverrides[block.blockId]? with
      | none => view' = (registered.markLoaded block.blockId).shown block
      | some override =>
        Agree (some (later view.visibleBlocksById[block.blockId]? block)) override ∧
        view' = (((registered.markLoaded block.blockId).shown block).dropOverride
          block.blockId).shown override := by
  unfold loadBlock
  rw [bind_eq_ok]
  refine exists_congr fun registered => and_congr_right fun hregister => ?_
  have hwith := registerOrder_eq_with hval hregister
  have hvisible : registered.visibleBlocksById = view.visibleBlocksById := by rw [hwith]
  have hpend : registered.pendingOverrides = view.pendingOverrides := by rw [hwith]
  have hmerge : ∀ merged, (registered.markLoaded block.blockId).mergeVisible block = .ok merged ↔
      Agree view.visibleBlocksById[block.blockId]? block ∧
        merged = (registered.markLoaded block.blockId).shown block := by
    intro merged
    rw [← hvisible]
    refine mergeVisible_eq_ok_iff (fun existing hex => ?_) hval
    exact (hholds.visible _ _ (hvisible ▸ hex)).1
  simp only [bind_eq_ok, hmerge, and_assoc, exists_and_left, exists_eq_left]
  refine and_congr_right fun _ => ?_
  rw [show ((registered.markLoaded block.blockId).shown block).pendingOverrides =
    view.pendingOverrides from hpend]
  cases hoverride : view.pendingOverrides[block.blockId]? with
  | none =>
    simp only [pure_eq_ok]
    exact eq_comm
  | some override =>
    obtain ⟨hval', hid⟩ := hholds.pending _ _ hoverride
    have hent : (((registered.markLoaded block.blockId).shown block).dropOverride
        block.blockId).visibleBlocksById[override.blockId]? =
        some (later view.visibleBlocksById[block.blockId]? block) := by
      rw [hid, ← hvisible]
      exact Std.ExtTreeMap.getElem?_insert_self
    dsimp only
    rw [← hent]
    refine mergeVisible_eq_ok_iff (fun existing hex => ?_) hval'
    rw [hent, Option.some.injEq] at hex
    rw [← hex]
    rcases later_eq_or view.visibleBlocksById[block.blockId]? block with hlat | hlat
    · rwa [hlat]
    · exact (hholds.visible _ _ hlat).1

theorem applyUpsert_eq_ok_iff (hholds : Holds view) (hval : block.validate = .ok ()) :
    view.applyUpsert block = .ok view' ↔ ∃ registered,
      view.registerOrder block = .ok registered ∧
      if block.blockId ∈ view.loadedBlockIds ∨ view.baseHighWater < block.position.sequence then
        Agree view.visibleBlocksById[block.blockId]? block ∧
        view' = ((registered.markOverridden block.blockId block.position.sequence).markLoaded
          block.blockId).shown block
      else Agree view.pendingOverrides[block.blockId]? block ∧
        view' = registered.overridden block := by
  unfold applyUpsert
  rw [bind_eq_ok]
  refine exists_congr fun registered => and_congr_right fun hregister => ?_
  have hwith := registerOrder_eq_with hval hregister
  have hvisible : registered.visibleBlocksById = view.visibleBlocksById := by rw [hwith]
  have hpend : registered.pendingOverrides = view.pendingOverrides := by rw [hwith]
  rw [sourceSequence_of_validate hval, ok_bind,
    show registered.loadedBlockIds = view.loadedBlockIds by rw [hwith],
    show registered.baseHighWater = view.baseHighWater by rw [hwith], ← hvisible, ← hpend]
  split
  · refine mergeVisible_eq_ok_iff (fun existing hex => ?_) hval
    exact (hholds.visible _ _ (hvisible ▸ hex)).1
  · refine mergePendingOverride_eq_ok_iff (fun existing hex => ?_) hval
    exact (hholds.pending _ _ (hpend ▸ hex)).1

/-- **Applying a page.** -/
theorem loaded_of_applyPageInner {page : TranscriptPageV1}
    (h : view.applyPageInner page = .ok view') :
    page.Valid .default view.baseHighWater ∧
      ∃ loaded, page.blocks.foldlM loadBlock view = .ok loaded ∧
        page.resumeCursors.foldlM mergeCursor loaded = .ok view' := by
  simp only [applyPageInner, validateIdentity, ok_rules, TranscriptPageV1.validate_eq_ok_iff,
    parseDecimalU64_eq_ok, bool_rules] at h
  obtain ⟨⟨H, hval⟩, -, H', ⟨hH', -⟩, rfl, hloaded⟩ := h
  have heq := hval.highWater.1
  rw [hH', Option.some.injEq] at heq
  exact ⟨heq ▸ hval, hloaded⟩

/-- **Applying a patch.** -/
theorem upserted_of_applyPatchInner {patch : TranscriptPatchV1}
    (h : view.applyPatchInner patch = .ok view') :
    ∃ patchHighWater upserted, patch.Valid patchHighWater ∧
      patch.upserts.foldlM applyUpsert view = .ok upserted ∧
      view' = { upserted with
        currentHighWater := patchHighWater
        appliedCursors := upserted.appliedCursors.insert patch.streamId patch.appliedCursor } := by
  simp only [applyPatchInner, validateIdentity, ok_rules, TranscriptPatchV1.validate_eq_ok_iff,
    parseDecimalU64_eq_ok, bool_rules] at h
  obtain ⟨⟨H, hval⟩, -, H', ⟨hH', -⟩, -, -, upserted, hupserted, rfl⟩ := h
  have heq := hval.highWater.1
  rw [hH', Option.some.injEq] at heq
  exact ⟨H', upserted, heq ▸ hval, hupserted, rfl⟩

end TranscriptViewStateV1

end Centaeris
