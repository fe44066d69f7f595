import Centaeris.Transcript.View

namespace Centaeris

open Foundation List Outcome

/-!
# What a view shows is not older than what was patched

Runs of a view: it is opened on a page, then pages and patches are applied and loaded
history is released, in any order.
-/

namespace TranscriptViewStateV1

/-! ### Runs -/

/-- One call on a view. -/
inductive ViewStep where
  | page (page : TranscriptPageV1)
  | patch (patch : TranscriptPatchV1)
  | release (retainedBlockIds : Finset String)

/-- The versions that a call patches. -/
def ViewStep.upserts : ViewStep → List TranscriptBlockV1
  | .page _ => []
  | .patch delivered => delivered.upserts
  | .release _ => []

/-- The view after a call. -/
def perform (view : TranscriptViewStateV1) : ViewStep → Outcome TranscriptViewStateV1
  | .page page => view.applyPage page
  | .patch patch => view.applyPatch patch
  | .release retainedBlockIds => pure (view.releaseLoadedHistory retainedBlockIds).1

/-- No release lets go of a block that a patch has revised. -/
def KeepsPatched (view : TranscriptViewStateV1) (patched : List TranscriptBlockV1) :
    List ViewStep → Prop
  | [] => True
  | step :: rest =>
    (∀ retainedBlockIds, step = .release retainedBlockIds →
      ∀ upsert ∈ patched, upsert.blockId ∉ view.removable retainedBlockIds) ∧
    ∀ view', view.perform step = .ok view' →
      KeepsPatched view' (patched ++ step.upserts) rest

/-! ### The invariant -/

/-- Every patched revision is shown or pending; what is loaded is shown; what is pending
    is not, and belongs to the base history. -/
structure Fresh (view : TranscriptViewStateV1) (patched : List TranscriptBlockV1) : Prop
    extends Holds view where
  loaded : ∀ id : String,
    id ∈ view.loadedBlockIds ↔ (view.visibleBlocksById[id]?).isSome
  hidden : ∀ (id : String) (block : TranscriptBlockV1),
    view.pendingOverrides[id]? = some block → view.visibleBlocksById[id]? = none ∧
      ∃ order, view.knownOrderById[id]? = some order ∧ order.sequence ≤ view.baseHighWater
  patched : ∀ upsert ∈ patched,
    (∃ block, view.visibleBlocksById[upsert.blockId]? = some block ∧
      upsert.revision ≤ block.revision) ∨
    ∃ block, view.pendingOverrides[upsert.blockId]? = some block ∧
      upsert.revision ≤ block.revision

variable {view view' : TranscriptViewStateV1} {block : TranscriptBlockV1}
  {patched : List TranscriptBlockV1}

theorem registerOrder_known (hval : block.validate = .ok ())
    (h : view.registerOrder block = .ok view') :
    view'.knownOrderById[block.blockId]? = some block.position ∧
    ∀ (id : String) (order : OrderPosition),
      view.knownOrderById[id]? = some order → view'.knownOrderById[id]? = some order := by
  rcases (registerOrder_eq_ok_iff hval).mp h with ⟨hkn, rfl⟩ | ⟨hnew, -, rfl⟩
  · exact ⟨hkn, fun _ _ h => h⟩
  · refine ⟨by simp, ?_⟩
    intro id order hkn
    have hne : block.blockId ≠ id := by
      rintro rfl
      rw [hnew] at hkn
      cases hkn
    simp [hne, hkn]

theorem Fresh.registerOrder (hfr : Fresh view patched) (hval : block.validate = .ok ())
    (h : view.registerOrder block = .ok view') : Fresh view' patched := by
  have hkeep := (registerOrder_known hval h).2
  rw [registerOrder_eq_with hval h]
  refine ⟨⟨hfr.visible, hfr.pending⟩, hfr.loaded, ?_, hfr.patched⟩
  intro id override hpend
  obtain ⟨hhidden, order, hord, hle⟩ := hfr.hidden id override hpend
  exact ⟨hhidden, order, hkeep id order hord, hle⟩

theorem Fresh.markOverridden (hfr : Fresh view patched) (id : String) (source : Nat) :
    Fresh (view.markOverridden id source) patched :=
  ⟨⟨hfr.visible, hfr.pending⟩, hfr.loaded, hfr.hidden, hfr.patched⟩

theorem Fresh.of_covered {covered : List TranscriptBlockV1} (hfr : Fresh view patched)
    (h : ∀ upsert ∈ covered, ∃ newer ∈ patched, newer.blockId = upsert.blockId ∧
      upsert.revision ≤ newer.revision) : Fresh view covered := by
  refine ⟨hfr.toHolds, hfr.loaded, hfr.hidden, ?_⟩
  intro upsert hupsert
  obtain ⟨newer, hm, hid, hle⟩ := h upsert hupsert
  rw [← hid]
  rcases hfr.patched newer hm with ⟨found, hfd, hrev⟩ | ⟨found, hfd, hrev⟩
  · exact .inl ⟨found, hfd, hle.trans hrev⟩
  · exact .inr ⟨found, hfd, hle.trans hrev⟩

theorem Fresh.dropOverride (hfr : Fresh view patched) (id : String) :
    Fresh (view.dropOverride id) (patched.filter (·.blockId ≠ id)) := by
  have hpend : ∀ (other : String) (override : TranscriptBlockV1),
      (view.dropOverride id).pendingOverrides[other]? = some override →
        view.pendingOverrides[other]? = some override := by
    intro other override h
    simp only [TranscriptViewStateV1.dropOverride, Table.getElem?_erase] at h
    split at h
    · cases h
    · exact h
  refine ⟨⟨hfr.visible, fun other override h => hfr.pending _ _ (hpend _ _ h)⟩,
    hfr.loaded, fun other override h => hfr.hidden _ _ (hpend _ _ h), ?_⟩
  intro upsert hupsert
  obtain ⟨hm, hne⟩ := mem_filter.mp hupsert
  have hne' : ¬ id = upsert.blockId := fun h => by simp [h] at hne
  simp only [TranscriptViewStateV1.dropOverride, Table.getElem?_erase, hne', if_false]
  exact hfr.patched upsert hm

/-! A table in which the later version of a block is kept. -/

section Later

variable {table : Table String TranscriptBlockV1}

theorem later_valid
    (htable : ∀ (id : String) (block : TranscriptBlockV1),
      table[id]? = some block → block.validate = .ok () ∧ block.blockId = id)
    (hval : block.validate = .ok ()) (id : String) (found : TranscriptBlockV1)
    (h : (table.insert block.blockId (later table[block.blockId]? block))[id]? = some found) :
    found.validate = .ok () ∧ found.blockId = id := by
  rcases Table.found_of_insert h with ⟨rfl, rfl⟩ | ⟨-, hold⟩
  · rcases later_eq_or table[block.blockId]? block with hlat | hlat
    · rw [hlat]
      exact ⟨hval, rfl⟩
    · exact htable _ _ hlat
  · exact htable _ _ hold

theorem later_patched {upsert : TranscriptBlockV1} {other : Prop}
    (hold : upsert ∈ patched → (∃ found, table[upsert.blockId]? = some found ∧
      upsert.revision ≤ found.revision) ∨ other) (hupsert : upsert ∈ patched ++ [block]) :
    (∃ found, (table.insert block.blockId (later table[block.blockId]? block))[upsert.blockId]? =
      some found ∧ upsert.revision ≤ found.revision) ∨ other := by
  rw [Table.getElem?_insert]
  rcases mem_append_last.mp hupsert with hm | rfl
  · rcases hold hm with ⟨found, hfd, hle⟩ | hoth
    · by_cases hid : block.blockId = upsert.blockId
      · rw [if_pos hid]
        exact .inl ⟨_, rfl, hle.trans (le_revision_later (hid ▸ hfd) block)⟩
      · rw [if_neg hid]
        exact .inl ⟨found, hfd, hle⟩
    · exact .inr hoth
  · rw [if_pos rfl]
    exact .inl ⟨_, rfl, revision_le_later _ _⟩

end Later

theorem Fresh.shown (hfr : Fresh view patched) (hval : block.validate = .ok ())
    (hpend : view.pendingOverrides[block.blockId]? = none) :
    Fresh ((view.markLoaded block.blockId).shown block) (patched ++ [block]) := by
  have hvisible : ∀ id : String,
      ((view.markLoaded block.blockId).shown block).visibleBlocksById[id]? =
      if block.blockId = id then some (later view.visibleBlocksById[block.blockId]? block)
      else view.visibleBlocksById[id]? := fun id => Table.getElem?_insert _ _ _ _
  refine ⟨⟨later_valid hfr.visible hval, hfr.pending⟩, ?_, ?_,
    fun upsert => later_patched (hfr.patched upsert)⟩
  · intro id
    rw [hvisible]
    by_cases hid : block.blockId = id
    · simp [TranscriptViewStateV1.shown, TranscriptViewStateV1.markLoaded, hid]
    · have hne : id ≠ block.blockId := fun h => hid h.symm
      simp [TranscriptViewStateV1.shown, TranscriptViewStateV1.markLoaded, hid, hne,
        hfr.loaded id]
  · intro id override hoverride
    obtain ⟨hhidden, hord⟩ := hfr.hidden id override hoverride
    refine ⟨?_, hord⟩
    have hne : block.blockId ≠ id := by
      rintro rfl
      rw [show view.pendingOverrides[block.blockId]? = some override from hoverride] at hpend
      cases hpend
    rw [hvisible, if_neg hne]
    exact hhidden

theorem Fresh.overridden (hfr : Fresh view patched) (hval : block.validate = .ok ())
    (hhidden : view.visibleBlocksById[block.blockId]? = none)
    (hkn : view.knownOrderById[block.blockId]? = some block.position)
    (hbase : block.position.sequence ≤ view.baseHighWater) :
    Fresh (view.overridden block) (patched ++ [block]) := by
  refine ⟨⟨hfr.visible, later_valid hfr.pending hval⟩, hfr.loaded, ?_,
    fun upsert hupsert => (later_patched (fun hm => (hfr.patched upsert hm).symm)
      hupsert).symm⟩
  intro id override hoverride
  rcases Table.found_of_insert hoverride with ⟨rfl, -⟩ | ⟨-, hold⟩
  · exact ⟨hhidden, _, hkn, hbase⟩
  · exact hfr.hidden id override hold

/-! ### Steps of a call -/

theorem markLoaded_shown_dropOverride (id : String) :
    ((view.markLoaded id).shown block).dropOverride id =
      (((view.dropOverride id).markLoaded id).shown block).markLoaded id := by
  have hloaded : insert id view.loadedBlockIds =
      insert id (insert id view.loadedBlockIds) := by simp
  exact congrArg (fun ids => { ((view.dropOverride id).shown block) with
    loadedBlockIds := ids }) hloaded

/-- One step of a call. -/
theorem Fresh.loadBlock (hfr : Fresh view patched) (hval : block.validate = .ok ())
    (h : view.loadBlock block = .ok view') : Fresh view' patched := by
  obtain ⟨registered, hregister, -, h⟩ := (loadBlock_eq_ok_iff hfr.toHolds hval).mp h
  rw [show view.pendingOverrides = registered.pendingOverrides by
    rw [registerOrder_eq_with hval hregister]] at h
  replace hfr := hfr.registerOrder hval hregister
  cases hpend : registered.pendingOverrides[block.blockId]? with
  | none =>
    rw [hpend] at h
    rw [h]
    exact (hfr.shown hval hpend).of_covered
      fun upsert hupsert => ⟨upsert, mem_append_left _ hupsert, rfl, le_rfl⟩
  | some override =>
    rw [hpend] at h
    obtain ⟨-, rfl⟩ := h
    obtain ⟨hoverride, hid⟩ := hfr.pending _ _ hpend
    -- the block alone, then the override on top of it
    have hbase := (hfr.dropOverride block.blockId).shown hval
      (by simp [TranscriptViewStateV1.dropOverride])
    have hboth := hbase.shown hoverride (by
      simp [TranscriptViewStateV1.shown, TranscriptViewStateV1.markLoaded,
        TranscriptViewStateV1.dropOverride, hid])
    have hcovered : Fresh _ patched := hboth.of_covered ?_
    · rwa [hid, ← markLoaded_shown_dropOverride] at hcovered
    · intro upsert hupsert
      by_cases hsame : upsert.blockId = block.blockId
      · refine ⟨override, by simp, hid.trans hsame.symm, ?_⟩
        rcases hfr.patched upsert hupsert with ⟨found, hfd, -⟩ | ⟨found, hfd, hle⟩
        · rw [hsame, (hfr.hidden _ _ hpend).1] at hfd
          cases hfd
        · rw [hsame, hpend, Option.some.injEq] at hfd
          rwa [hfd]
      · exact ⟨upsert, by simp [hupsert, hsame], rfl, le_rfl⟩

theorem Fresh.applyUpsert (hfr : Fresh view patched) (hval : block.validate = .ok ())
    (h : view.applyUpsert block = .ok view') : Fresh view' (patched ++ [block]) := by
  obtain ⟨registered, hregister, h⟩ := (applyUpsert_eq_ok_iff hfr.toHolds hval).mp h
  have hkn := (registerOrder_known hval hregister).1
  rw [show view.loadedBlockIds = registered.loadedBlockIds by
      rw [registerOrder_eq_with hval hregister],
    show view.baseHighWater = registered.baseHighWater by
      rw [registerOrder_eq_with hval hregister]] at h
  replace hfr := hfr.registerOrder hval hregister
  split at h
  case isTrue hshow =>
    have hpend : registered.pendingOverrides[block.blockId]? = none := by
      -- an override is pending only for a block of the base history that is not loaded
      cases hent : registered.pendingOverrides[block.blockId]? with
      | none => rfl
      | some override =>
        obtain ⟨hhidden, order, hord, hle⟩ := hfr.hidden _ _ hent
        rw [hkn, Option.some.injEq] at hord
        rcases hshow with hloaded | hlat
        · rw [hfr.loaded, hhidden] at hloaded
          cases hloaded
        · rw [← hord] at hle
          omega
    rw [h.2]
    exact (hfr.markOverridden _ _).shown hval hpend
  case isFalse hkeep =>
    obtain ⟨hunloaded, hbase⟩ := not_or.mp hkeep
    rw [hfr.loaded, Bool.not_eq_true, Option.isSome_eq_false_iff,
      Option.isNone_iff_eq_none] at hunloaded
    rw [h.2]
    exact hfr.overridden hval hunloaded hkn (not_lt.mp hbase)

theorem Fresh.mergeCursor {cursor : TranscriptResumeCursorV1} (hfr : Fresh view patched)
    (h : view.mergeCursor cursor = .ok view') : Fresh view' patched := by
  unfold TranscriptViewStateV1.mergeCursor at h
  split at h
  · simp only [ok_rules] at h
    exact h.2 ▸ hfr
  · rw [pure_eq_ok] at h
    rw [← h]
    exact ⟨⟨hfr.visible, hfr.pending⟩, hfr.loaded, hfr.hidden, hfr.patched⟩

variable {id : String}

theorem Fresh.releaseBlock (hfr : Fresh view patched)
    (hpend : view.pendingOverrides[id]? = none)
    (hpatched : ∀ upsert ∈ patched, upsert.blockId ≠ id) :
    Fresh (view.releaseBlock id) patched := by
  have hvisible : ∀ other : String, (view.releaseBlock id).visibleBlocksById[other]? =
      if id = other then none else view.visibleBlocksById[other]? := by
    intro other
    rw [← Table.getElem?_erase]
    unfold TranscriptViewStateV1.releaseBlock
    dsimp only
    split <;> rfl
  have hothers : (view.releaseBlock id).pendingOverrides = view.pendingOverrides ∧
      (view.releaseBlock id).loadedBlockIds = view.loadedBlockIds.erase id ∧
      (view.releaseBlock id).baseHighWater = view.baseHighWater := by
    unfold TranscriptViewStateV1.releaseBlock
    dsimp only
    split <;> exact ⟨rfl, rfl, rfl⟩
  have hkn : ∀ (other : String) (order : OrderPosition), id ≠ other →
      view.knownOrderById[other]? = some order →
        (view.releaseBlock id).knownOrderById[other]? = some order := by
    intro other order hne hord
    unfold TranscriptViewStateV1.releaseBlock
    dsimp only
    split
    · simp [hne, hord]
    · exact hord
  obtain ⟨hpendingEq, hloadedEq, hbaseEq⟩ := hothers
  refine ⟨⟨?_, ?_⟩, ?_, ?_, ?_⟩
  · intro other found hfd
    rw [hvisible] at hfd
    split at hfd
    · cases hfd
    · exact hfr.visible other found hfd
  · rw [hpendingEq]
    exact hfr.pending
  · intro other
    rw [hvisible, hloadedEq, Finset.mem_erase, hfr.loaded]
    by_cases hid : id = other
    · simp [hid]
    · simp [hid, Ne.symm hid]
  · intro other override hoverride
    rw [hpendingEq] at hoverride
    obtain ⟨hhidden, order, hord, hle⟩ := hfr.hidden other override hoverride
    have hne : id ≠ other := by
      rintro rfl
      rw [hpend] at hoverride
      cases hoverride
    rw [hvisible, if_neg hne, hbaseEq]
    exact ⟨hhidden, order, hkn other order hne hord, hle⟩
  · intro upsert hupsert
    rw [hvisible, if_neg (hpatched upsert hupsert).symm, hpendingEq]
    exact hfr.patched upsert hupsert

/-! ### Calls -/

variable {page : TranscriptPageV1}

theorem Fresh.applyPage (hfr : Fresh view patched) (h : view.applyPage page = .ok view') :
    Fresh view' patched := by
  obtain ⟨hval, loaded, hloaded, hcursors⟩ := loaded_of_applyPageInner h
  have hblocks : Fresh loaded patched :=
    foldlM_invariant (Fresh · patched)
      (fun _ _ block hm hs hstep => hs.loadBlock (hval.blocks block hm).1 hstep)
      hfr hloaded
  exact foldlM_invariant (Fresh · patched)
    (fun _ _ _ _ hs hstep => hs.mergeCursor hstep) hblocks hcursors

theorem Fresh.applyPatch {patch : TranscriptPatchV1} (hfr : Fresh view patched)
    (h : view.applyPatch patch = .ok view') : Fresh view' (patched ++ patch.upserts) := by
  obtain ⟨H, upserted, hval, hupserted, rfl⟩ := upserted_of_applyPatchInner h
  have hall : Fresh upserted (patched ++ patch.upserts) :=
    foldlM_invariant_trace Fresh
      (fun _ _ block _ _ hsp hs hstep =>
        hs.applyUpsert (hval.upserts block (by simp [hsp])).1 hstep)
      hfr hupserted
  exact ⟨⟨hall.visible, hall.pending⟩, hall.loaded, hall.hidden, hall.patched⟩

variable {retainedBlockIds : Finset String}

/-- What a release lets go is shown. -/
theorem visible_of_mem_removable (hholds : Holds view)
    (h : id ∈ view.removable retainedBlockIds) :
    (view.visibleBlocksById[id]?).isSome := by
  obtain ⟨block, hm, rfl⟩ := mem_map.mp h
  obtain ⟨⟨key, found⟩, hent, heq⟩ := mem_map.mp (mem_filter.mp hm).1
  have hfd := Table.mem_toList.mp hent
  rw [show block = found from heq.symm, (hholds.visible key found hfd).2, hfd]
  rfl

/-- **Release.** Letting go of blocks that no patch brought keeps the invariant. -/
theorem Fresh.releaseLoadedHistory (hfr : Fresh view patched)
    (hkeeps : ∀ upsert ∈ patched, upsert.blockId ∉ view.removable retainedBlockIds) :
    Fresh (view.releaseLoadedHistory retainedBlockIds).1 patched := by
  have hrelease : ∀ id ∈ view.removable retainedBlockIds,
      view.pendingOverrides[id]? = none ∧ ∀ upsert ∈ patched, upsert.blockId ≠ id := by
    intro id hm
    refine ⟨?_, fun upsert hupsert hid => hkeeps upsert hupsert (hid ▸ hm)⟩
    have hshown := visible_of_mem_removable hfr.toHolds hm
    cases hent : view.pendingOverrides[id]? with
    | none => rfl
    | some override =>
      rw [(hfr.hidden _ _ hent).1] at hshown
      cases hshown
  show Fresh ((view.removable retainedBlockIds).foldl TranscriptViewStateV1.releaseBlock view) _
  clear hkeeps
  generalize view.removable retainedBlockIds = ids at hrelease
  -- releasing one block leaves the overrides as they are
  induction ids generalizing view with
  | nil => exact hfr
  | cons id ids ih =>
    obtain ⟨hpend, hpatched⟩ := hrelease id mem_cons_self
    refine ih (hfr.releaseBlock hpend hpatched) fun other hoth => ?_
    have hunchanged : (view.releaseBlock id).pendingOverrides = view.pendingOverrides := by
      unfold TranscriptViewStateV1.releaseBlock
      dsimp only
      split <;> rfl
    rw [hunchanged]
    exact hrelease other (mem_cons_of_mem id hoth)

theorem fresh_of_openView {viewEpoch : String} (h : openView viewEpoch page = .ok view) :
    Fresh view [] := by
  simp only [openView, bind_eq_ok] at h
  obtain ⟨-, -, -, -, base, -, h⟩ := h
  refine Fresh.applyPage ?_ h
  refine ⟨⟨?_, ?_⟩, ?_, ?_, fun _ hm => absurd hm not_mem_nil⟩
  all_goals simp [blank]

/-! ### Runs -/

/-- **One call.** -/
theorem Fresh.perform {step : ViewStep} (hfr : Fresh view patched)
    (hkeeps : ∀ retainedBlockIds, step = .release retainedBlockIds →
      ∀ upsert ∈ patched, upsert.blockId ∉ view.removable retainedBlockIds)
    (h : view.perform step = .ok view') : Fresh view' (patched ++ step.upserts) := by
  cases step with
  | page page =>
    rw [ViewStep.upserts, append_nil]
    exact hfr.applyPage h
  | patch patch => exact hfr.applyPatch h
  | release retainedBlockIds =>
    rw [ViewStep.upserts, append_nil, ← pure_eq_ok.mp h]
    exact hfr.releaseLoadedHistory (hkeeps _ rfl)

/-- **A run.** -/
theorem Fresh.run {steps : List ViewStep} (hfr : Fresh view patched)
    (hkeeps : KeepsPatched view patched steps)
    (h : steps.foldlM TranscriptViewStateV1.perform view = .ok view') :
    Fresh view' (patched ++ steps.flatMap (·.upserts)) := by
  induction steps generalizing view patched with
  | nil =>
    rw [foldlM_nil, pure_eq_ok] at h
    rwa [← h, flatMap_nil, append_nil]
  | cons step steps ih =>
    rw [foldlM_cons, bind_eq_ok] at h
    obtain ⟨next, hnext, h⟩ := h
    rw [flatMap_cons, ← List.append_assoc]
    exact ih (hfr.perform hkeeps.1 hnext) (hkeeps.2 next hnext) h

/-- **Freshness.** In every run of a view in which no release lets go of a block that an
    earlier patch brought, a shown block has at least every revision that a patch of the
    run brought for it. -/
theorem visible_revision_ge_patched {viewEpoch : String} {page : TranscriptPageV1}
    {opened : TranscriptViewStateV1} {steps : List ViewStep}
    (hopen : openView viewEpoch page = .ok opened)
    (hrun : steps.foldlM TranscriptViewStateV1.perform opened = .ok view)
    (hkeeps : KeepsPatched opened [] steps) :
    ∀ block ∈ view.visibleBlocks, ∀ upsert ∈ steps.flatMap (·.upserts),
      upsert.blockId = block.blockId → upsert.revision ≤ block.revision := by
  have hfr := (fresh_of_openView hopen).run hkeeps hrun
  intro block hbl upsert hupsert hid
  obtain ⟨⟨order, id⟩, -, hvisible⟩ := List.mem_filterMap.mp hbl
  rw [← (hfr.visible _ _ hvisible).2] at hvisible
  rcases hfr.patched upsert hupsert with ⟨found, hfd, hle⟩ | ⟨found, hfd, -⟩
  · rw [hid, hvisible, Option.some.injEq] at hfd
    rwa [hfd]
  · rw [hid] at hfd
    rw [(hfr.hidden _ _ hfd).1] at hvisible
    cases hvisible

/-! ### Released overrides -/

def toolCallBlock (revision : String) (status : TranscriptBlockStatusV1) : TranscriptBlockV1 where
  blockId := "tool:c"
  blockRevision := revision
  presentation := none
  orderKey := ⟨"1", 0⟩
  body := .tool "c" "read" status (some "") none none

/-- A page of waterline 2, as read from the records without transport cursors. -/
def historyPage (block : TranscriptBlockV1) (olderCursor : Option String) : TranscriptPageV1 where
  schema := transcriptPageSchemaV1
  sessionId := "s"
  projectionVersion := transcriptProjectionVersionV1
  projectionGeneration := "g"
  sourceHighWater := "2"
  blocks := [block]
  olderCursor := olderCursor
  hasOlder := olderCursor.isSome
  resumeCursors := []

/-- The newest page shows a message after the tool call. -/
def newestPage : TranscriptPageV1 :=
  historyPage
    { blockId := "user:m"
      blockRevision := "1"
      presentation := none
      orderKey := ⟨"2", 0⟩
      body := .userText ⟨some "hi", none⟩ } (some "older")

/-- The older page shows the tool call as it was at waterline 2. -/
def toolCallPage : TranscriptPageV1 := historyPage (toolCallBlock "1" .running) none

/-- The tool call is completed at sequence 3. -/
def completionPatch : TranscriptPatchV1 where
  schema := transcriptPatchSchemaV1
  sessionId := "s"
  projectionVersion := transcriptProjectionVersionV1
  projectionGeneration := "g"
  sourceHighWater := "3"
  streamId := "events"
  appliedCursor := "3"
  upserts := [toolCallBlock "2" .completed]
  removals := []

/-- The view is released and loaded again, then the tool call is completed before its
    page is loaded. -/
def reloadSteps : List ViewStep :=
  [.release ∅, .page newestPage, .patch completionPatch, .page toolCallPage]

theorem visible_revision_ge_patched_reload :
    ∃ opened view, openView "epoch" newestPage = .ok opened ∧
      reloadSteps.foldlM TranscriptViewStateV1.perform opened = .ok view ∧
      (view.visibleBlocks.map (·.blockId)) = ["tool:c", "user:m"] ∧
      ∀ block ∈ view.visibleBlocks, ∀ upsert ∈ reloadSteps.flatMap (·.upserts),
        upsert.blockId = block.blockId → upsert.revision ≤ block.revision := by
  have hrun : ((openView "epoch" newestPage >>= fun opened =>
      reloadSteps.foldlM TranscriptViewStateV1.perform opened).toOption.map
        fun view => view.visibleBlocks.map (·.blockId)) = some ["tool:c", "user:m"] := by
    decide
  obtain ⟨view, hrun, hids⟩ := Outcome.exists_ok_of_map hrun
  obtain ⟨opened, hopen, hsteps⟩ := Outcome.bind_eq_ok.mp hrun
  refine ⟨opened, view, hopen, hsteps, hids, visible_revision_ge_patched hopen hsteps ?_⟩
  simp [reloadSteps, KeepsPatched, ViewStep.upserts]

/-- The tool call is completed before its page is loaded; the page is loaded, released
    and loaded again. -/
def forgetfulSteps : List ViewStep :=
  [.patch completionPatch, .page toolCallPage, .release ∅, .page toolCallPage]

/-- The view then shows the tool call as running although revision 2 was patched. -/
theorem release_forgets_override :
    ∃ opened view, openView "epoch" newestPage = .ok opened ∧
      forgetfulSteps.foldlM TranscriptViewStateV1.perform opened = .ok view ∧
      toolCallBlock "1" .running ∈ view.visibleBlocks ∧
      toolCallBlock "2" .completed ∈ forgetfulSteps.flatMap (·.upserts) ∧
      (toolCallBlock "2" .completed).blockId = (toolCallBlock "1" .running).blockId ∧
      ¬ (toolCallBlock "2" .completed).revision ≤ (toolCallBlock "1" .running).revision := by
  have hrun : ((openView "epoch" newestPage >>= fun opened =>
      forgetfulSteps.foldlM TranscriptViewStateV1.perform opened).toOption.map
        fun view => view.visibleBlocks) = some [toolCallBlock "1" .running] := by
    decide
  obtain ⟨view, hrun, hblocks⟩ := Outcome.exists_ok_of_map hrun
  obtain ⟨opened, hopen, hsteps⟩ := Outcome.bind_eq_ok.mp hrun
  refine ⟨opened, view, hopen, hsteps, ?_, by decide, rfl, by decide⟩
  rw [hblocks]
  exact List.mem_singleton_self _

end TranscriptViewStateV1

end Centaeris
