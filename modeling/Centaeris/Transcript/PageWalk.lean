import Centaeris.Foundation.Pager
import Centaeris.Transcript.CursorCodec
import Centaeris.Transcript.IndexInvariant

namespace Centaeris

open Foundation List TranscriptBlockV1

/-!
# Walking the history of a transcript

A reader opens the newest page at a waterline and follows the older cursors.  Whatever
budgets cut the pages, the walk delivers the transcript as it was at the waterline.
-/

variable (codec : CursorCodec)

namespace TranscriptBlockIndexV1

variable {index : TranscriptBlockIndexV1} {high : Nat}

/-! ### Eligible blocks -/

variable {pre : Option OrderPosition} {block : TranscriptBlockV1}

/-- The blocks a page is taken from. -/
theorem WellFormed.mem_eligible_iff (hwf : index.WellFormed) :
    block ∈ index.eligible high pre ↔
      index.blockAt high block.blockId = some block ∧
        inRange high pre block.position = true := by
  simp only [eligible, mem_filterMap, mem_reverse, mem_filter, Prod.exists, Table.mem_toList]
  constructor
  · rintro ⟨order, blockId, ⟨hord, hrange⟩, hbl⟩
    obtain ⟨-, hid, hposition, -⟩ := hwf.blockAt_facts hbl
    rw [(hwf.orders _ _).mpr hord, Option.some.injEq] at hposition
    exact ⟨hid ▸ hbl, hposition ▸ hrange⟩
  · rintro ⟨hbl, hrange⟩
    obtain ⟨-, -, hposition, -⟩ := hwf.blockAt_facts hbl
    exact ⟨block.position, block.blockId, ⟨(hwf.orders _ _).mp hposition, hrange⟩, hbl⟩

theorem WellFormed.sorted_eligible (hwf : index.WellFormed) (pre : Option OrderPosition) :
    (index.eligible high pre).Pairwise (fun a b => b.position < a.position) := by
  unfold eligible
  rw [pairwise_filterMap, pairwise_reverse]
  refine List.Pairwise.imp_of_mem ?_ (List.Pairwise.filter _ (Table.sorted_toList _))
  intro a b ha hb hlt block hbl block' hbl'
  have hposition : ∀ entry block, entry ∈ index.blockOrder.toList →
      index.blockAt high entry.2 = some block → entry.1 = block.position := by
    intro entry block hent hfd
    obtain ⟨-, -, hpos, -⟩ := hwf.blockAt_facts hfd
    rw [(hwf.orders _ _).mpr (Table.mem_toList.mp hent)] at hpos
    exact Option.some.inj hpos
  rw [← hposition a block' (mem_filter.mp ha).1 hbl',
    ← hposition b block (mem_filter.mp hb).1 hbl]
  exact hlt

theorem WellFormed.nodup_eligible (hwf : index.WellFormed) (pre : Option OrderPosition) :
    ((index.eligible high pre).map (·.blockId)).Nodup := by
  rw [List.Nodup, pairwise_map]
  refine List.Pairwise.imp_of_mem ?_ (hwf.sorted_eligible pre)
  intro a b ha hb hlt heq
  have hsame := (hwf.mem_eligible_iff.mp ha).1
  rw [heq, (hwf.mem_eligible_iff.mp hb).1, Option.some.injEq] at hsame
  exact absurd hlt (hsame ▸ lt_irrefl _)

private theorem inRange_of_lt {order last : OrderPosition}
    (hlast : inRange high pre last = true) (hlt : order < last) :
    inRange high pre order = true := by
  cases pre with
  | none =>
    simp only [inRange, decide_eq_true_eq] at hlast ⊢
    exact le_of_lt (lt_of_lt_of_le hlt hlast)
  | some bound =>
    simp only [inRange, decide_eq_true_eq] at hlast ⊢
    exact lt_trans hlt hlast

/-- What is left after a front part was delivered. -/
theorem WellFormed.eligible_after (hwf : index.WellFormed) {front left : List TranscriptBlockV1}
    {last : TranscriptBlockV1}
    (hsp : index.eligible high pre = (front ++ [last]) ++ left) :
    index.eligible high (some last.position) = left := by
  have hsort : (index.eligible high pre).Pairwise _ := hwf.sorted_eligible pre
  rw [hsp, pairwise_append] at hsort
  obtain ⟨hfront, hleft, hcross⟩ := hsort
  rw [pairwise_append] at hfront
  refine Table.eq_of_pairwise_asymm (fun _ _ => lt_asymm) (hwf.sorted_eligible _) hleft ?_
  intro block
  rw [hwf.mem_eligible_iff]
  have hlastRange : inRange high pre last.position = true := by
    refine (hwf.mem_eligible_iff.mp ?_).2
    rw [hsp]
    simp
  constructor
  · rintro ⟨hbl, hlt⟩
    simp only [inRange, decide_eq_true_eq] at hlt
    have hm : block ∈ index.eligible high pre :=
      hwf.mem_eligible_iff.mpr ⟨hbl, inRange_of_lt hlastRange hlt⟩
    rw [hsp, mem_append, mem_append, mem_singleton] at hm
    -- A block of the front part stands at `last` or after it.
    rcases hm with (hin | rfl) | hin
    · exact absurd hlt (lt_asymm (hfront.2.2 block hin last mem_cons_self))
    · exact absurd hlt (lt_irrefl _)
    · exact hin
  · intro hin
    have hm : block ∈ index.eligible high pre := by
      rw [hsp]
      exact mem_append_right _ hin
    refine ⟨(hwf.mem_eligible_iff.mp hm).1, ?_⟩
    simp only [inRange, decide_eq_true_eq]
    exact hcross last (by simp) block hin

theorem WellFormed.inRange_none (hwf : index.WellFormed)
    (h : index.blockAt high block.blockId = some block) :
    inRange high none block.position = true := by
  obtain ⟨-, -, -, hle⟩ := hwf.blockAt_facts h
  simp only [inRange, decide_eq_true_eq, OrderPosition.le_iff]
  have hordinal : block.position.ordinal.toNat ≤ (0xFFFFFFFF : UInt32).toNat := by
    have := block.position.ordinal.toNat_lt
    have hmax : (0xFFFFFFFF : UInt32).toNat = 4294967295 := rfl
    omega
  rcases Nat.lt_or_eq_of_le hle with hlt | heq
  · exact .inl hlt
  · exact .inr ⟨heq, hordinal⟩

/-! ### The pages of a walk -/

/-- The cursor a reader follows: the older cursor while there is an older page. -/
def nextCursor (page : TranscriptPageV1) : Option String :=
  if page.hasOlder then page.olderCursor else none

variable {page : TranscriptPageV1}

theorem olderCursor_of_nextCursor {after : String} (h : nextCursor page = some after) :
    page.olderCursor = some after := by
  unfold nextCursor at h
  split at h
  · exact h
  · cases h

/-- A cursor that a page hands out is accepted and means the block it ends with. -/
theorem beforeOrder_encoded (hval : block.validate = .ok ()) :
    index.beforeOrder codec high (some (encodeBoundCursor codec index.sessionId
      index.projectionGeneration high block.orderKey)) = .ok (some block.position) := by
  have hdec : decodeBoundCursor codec (encodeBoundCursor codec index.sessionId
      index.projectionGeneration high block.orderKey) index.sessionId
      index.projectionGeneration high = .ok block.orderKey := by
    unfold decodeBoundCursor encodeBoundCursor
    rw [codec.decode_encode]
    simp [boundCursor, sourceSequence_of_validate hval, ensure, pure, Except.pure]
  simp only [beforeOrder, hdec, Outcome.ok_bind, orderValue_of_validate hval]
  rfl

theorem pageAt_split {olderCursor : Option String} {policy : TranscriptPagePolicyV1}
    (h : index.pageAt codec high olderCursor policy = .ok page) :
    ∃ pre taken left, index.beforeOrder codec high olderCursor = .ok pre ∧
      index.eligible high pre = taken ++ left ∧
      page = index.buildPage codec high taken (!left.isEmpty) ∧
      (taken = [] → left = []) := by
  obtain ⟨hpolicy, -, pre, hpre, newestFirst, hasOlder, hloop, hemp, hpage, -⟩ :=
    (pageAt_eq_ok_iff codec).mp h
  obtain ⟨taken, left, hsp, hres, -⟩ := pageLoop_spec policy
    (index.pageSize codec high) (index.eligible high pre) [] 0
    (Nat.zero_le _) (Nat.zero_le _)
  rw [hres, nil_append, Prod.mk.injEq] at hloop
  obtain ⟨rfl, rfl⟩ := hloop
  refine ⟨pre, taken, left, hpre, hsp, hpage, ?_⟩
  intro htaken
  simpa using hemp htaken

def leftAt (index : TranscriptBlockIndexV1) (high : Nat)
    (olderCursor : Option String) : List TranscriptBlockV1 :=
  match index.beforeOrder codec high olderCursor with
  | .ok pre => index.eligible high pre
  | .error _ => []

/-- Page requests at a waterline are an exact paged listing. -/
def pagePager (hwf : index.WellFormed) (high : Nat)
    (policy : TranscriptPagePolicyV1) : Pager String TranscriptPageV1 TranscriptBlockV1 where
  fetch := fun cursor => index.pageAt codec high cursor policy
  items := fun page => page.blocks.reverse
  next := nextCursor
  rest := index.leftAt codec high
  fetch_last := by
    intro cursor page hfetch hnext
    obtain ⟨pre, taken, left, hpre, hsp, rfl, hemp⟩ := pageAt_split codec hfetch
    have hleft : left = [] := by
      by_contra hne
      cases htaken : taken.getLast? with
      | none => exact hne (hemp (List.getLast?_eq_none_iff.mp htaken))
      | some last =>
        have hflag : left.isEmpty = false := by simpa using hne
        simp [nextCursor, buildPage, htaken, hflag] at hnext
    rw [leftAt, hpre]
    simp [hsp, hleft, buildPage]
  fetch_more := by
    intro cursor page after hfetch hnext
    obtain ⟨pre, taken, left, hpre, hsp, rfl, -⟩ := pageAt_split codec hfetch
    have hflag : left.isEmpty = false := by
      by_contra hemp
      rw [Bool.not_eq_false] at hemp
      simp [nextCursor, buildPage, hemp] at hnext
    simp only [nextCursor, buildPage, hflag, Bool.not_false, if_true, Option.map_eq_some_iff] at hnext
    obtain ⟨last, hlast, rfl⟩ := hnext
    obtain ⟨front, rfl⟩ := List.getLast?_eq_some_iff.mp hlast
    have hval : last.validate = .ok () := by
      have hm : last ∈ index.eligible high pre := by
        rw [hsp]
        simp
      exact (hwf.blockAt_facts (hwf.mem_eligible_iff.mp hm).1).1
    refine ⟨by simp [buildPage], ?_⟩
    rw [leftAt, hpre, leftAt, beforeOrder_encoded codec hval]
    simp only [hwf.eligible_after hsp, hsp, buildPage, List.reverse_reverse]

/-- **Page walk completeness.** For every reachable index, every waterline and every
    policy: if all pages the walk asks for are served, the walk ends, and its pages from
    oldest to newest hold, in strictly increasing order and each once, exactly the blocks
    ordered at most at the waterline, each in its version with the greatest applied
    sequence at most the waterline. -/
theorem pageAt_walk_complete (hreach : Reachable index) {policy : TranscriptPagePolicyV1}
    (hserved : ∀ cursor,
      Visited (fun cursor => index.pageAt codec high cursor policy) nextCursor cursor →
      ∃ page, index.pageAt codec high cursor policy = .ok page) :
    ∃ pages,
      Walk (fun cursor => index.pageAt codec high cursor policy) nextCursor none pages ∧
      (∀ others,
        Walk (fun cursor => index.pageAt codec high cursor policy) nextCursor none
          others → others = pages) ∧
      (pages.reverse.flatMap (·.blocks)).Pairwise (fun a b => a.position < b.position) ∧
      ((pages.reverse.flatMap (·.blocks)).map (·.blockId)).Nodup ∧
      (∀ (blockId : String) (order : OrderPosition),
        index.orderByBlockId[blockId]? = some order ∧ order.sequence ≤ high ↔
          ∃ block ∈ pages.reverse.flatMap (·.blocks),
            block.blockId = blockId ∧ block.position = order) ∧
      ∀ block ∈ pages.reverse.flatMap (·.blocks),
        ∃ item ∈ index.versions block.blockId, item.block = block ∧
          item.appliedSequence ≤ high ∧
          ∀ other ∈ index.versions block.blockId, other.appliedSequence ≤ high →
            other.appliedSequence ≤ item.appliedSequence := by
  have hwf := hreach.wellFormed
  obtain ⟨pages, hwalk⟩ :=
    (pagePager codec hwf high policy).exists_walk hserved .start
  have hblocks : pages.reverse.flatMap (·.blocks) =
      (index.eligible high none).reverse := by
    have hitems := (pagePager codec hwf high policy).walk_items hwalk
    have hrest : (pagePager codec hwf high policy).rest none =
        index.eligible high none := rfl
    rw [← hrest, ← hitems, reverse_flatMap]
    simp [pagePager, Function.comp_def]
  have hsort : (index.eligible high none).Pairwise _ := hwf.sorted_eligible none
  refine ⟨pages, hwalk, fun others hothers => hothers.unique hwalk, ?_, ?_, ?_, ?_⟩
  · rw [hblocks, pairwise_reverse]
    exact hsort
  · rw [hblocks, map_reverse, nodup_reverse]
    exact hwf.nodup_eligible none
  · intro blockId order
    rw [hblocks]
    constructor
    · rintro ⟨hord, hle⟩
      obtain ⟨block, hbl⟩ :=
        Option.isSome_iff_exists.mp ((hwf.blockAt_isSome_iff hord).mpr hle)
      obtain ⟨-, rfl, hposition, -⟩ := hwf.blockAt_facts hbl
      rw [hord, Option.some.injEq] at hposition
      refine ⟨block, ?_, rfl, hposition.symm⟩
      rw [mem_reverse]
      exact hwf.mem_eligible_iff.mpr ⟨hbl, hwf.inRange_none hbl⟩
    · rintro ⟨block, hm, rfl, rfl⟩
      rw [mem_reverse] at hm
      obtain ⟨-, -, hposition, hle⟩ := hwf.blockAt_facts (hwf.mem_eligible_iff.mp hm).1
      exact ⟨hposition, hle⟩
  · intro block hm
    rw [hblocks, mem_reverse] at hm
    exact hwf.blockAt_eq_some_iff.mp (hwf.mem_eligible_iff.mp hm).1

/-! ### A revised block at an earlier waterline -/

def userBlock (blockId revision sequence text : String) : TranscriptBlockV1 where
  blockId := blockId
  blockRevision := revision
  presentation := none
  orderKey := ⟨sequence, 0⟩
  body := .userText ⟨some text, none⟩

/-- Two messages, the first one revised after the second was added. -/
def revisedIndex : Outcome TranscriptBlockIndexV1 := do
  let index ← TranscriptBlockIndexV1.new "s" "g"
  let index ← index.applyCommitted 1 (userBlock "a" "1" "1" "first")
  let index ← index.applyCommitted 2 (userBlock "b" "1" "2" "second")
  index.applyCommitted 3 (userBlock "a" "2" "1" "revised")

theorem reachable_of_revisedIndex {index : TranscriptBlockIndexV1}
    (h : revisedIndex = .ok index) : Reachable index := by
  simp only [revisedIndex, Outcome.bind_eq_ok] at h
  obtain ⟨_, hnew, _, h₁, _, h₂, h₃⟩ := h
  exact (((Reachable.new hnew).applyCommitted h₁).applyCommitted h₂).applyCommitted h₃

/-- Pages of one block. -/
def onePolicy : TranscriptPagePolicyV1 := { TranscriptPagePolicyV1.default with maxBlocks := 1 }

/-- The cursor of the second page at waterline 3. -/
def secondCursor : String :=
  encodeBoundCursor jsonCursorCodec "s" "g" 3 ⟨"2", 0⟩

theorem beforeOrder_secondCursor (hses : index.sessionId = "s")
    (hgen : index.projectionGeneration = "g") :
    index.beforeOrder jsonCursorCodec 3 (some secondCursor) = .ok (some ⟨2, 0⟩) := by
  have hval : (userBlock "b" "1" "2" "second").validate = .ok () := by decide +kernel
  have hpos : (userBlock "b" "1" "2" "second").position = ⟨2, 0⟩ := by decide +kernel
  have hencoded : index.beforeOrder jsonCursorCodec 3 (some (encodeBoundCursor jsonCursorCodec
      index.sessionId index.projectionGeneration 3 (userBlock "b" "1" "2" "second").orderKey)) =
        .ok (some (userBlock "b" "1" "2" "second").position) :=
    beforeOrder_encoded jsonCursorCodec hval
  rwa [hses, hgen, hpos] at hencoded

/-- The page of the blocks before that cursor. -/
def secondPage (index : TranscriptBlockIndexV1) : TranscriptPageV1 :=
  let loop := pageLoop onePolicy (index.pageSize jsonCursorCodec 3)
    (index.eligible 3 (some ⟨2, 0⟩)) [] 0
  index.buildPage jsonCursorCodec 3 loop.1 loop.2

theorem revisedIndex_pages :
    revisedIndex.toOption.map (fun index =>
      (index.sessionId, index.projectionGeneration, index.sourceHighWater,
        (secondPage index).hasOlder, ((secondPage index).validate onePolicy).isOk)) =
      some ("s", "g", 3, false, true) ∧
    (revisedIndex >>= fun index => index.pageAt jsonCursorCodec 3 none onePolicy).toOption.map
      nextCursor = some (some secondCursor) := by
  decide +kernel

/-- The walk over two pages follows one cursor. -/
theorem pageAt_walk_complete_revised :
    ∃ index, revisedIndex = .ok index ∧ ∃ pages,
      Walk (fun cursor => index.pageAt jsonCursorCodec 3 cursor onePolicy) nextCursor none pages ∧
      ∀ (blockId : String) (order : OrderPosition),
        index.orderByBlockId[blockId]? = some order ∧ order.sequence ≤ 3 ↔
          ∃ block ∈ pages.reverse.flatMap (·.blocks),
            block.blockId = blockId ∧ block.position = order := by
  obtain ⟨first, hserved, hmore⟩ := Outcome.exists_ok_of_map revisedIndex_pages.2
  obtain ⟨index, hidx, hfst⟩ := Outcome.bind_eq_ok.mp hserved
  have hfacts := revisedIndex_pages.1
  simp only [hidx, Except.toOption, Option.map_some, Option.some.injEq, Prod.mk.injEq] at hfacts
  obtain ⟨hses, hgen, hwat, hlast, hvalid⟩ := hfacts
  have hchecked : (secondPage index).validate onePolicy = .ok () := by
    cases hval : (secondPage index).validate onePolicy with
    | ok u => rfl
    | error failure =>
      rw [hval] at hvalid
      cases hvalid
  have hsec : index.pageAt jsonCursorCodec 3 (some secondCursor) onePolicy =
      .ok (secondPage index) :=
    (pageAt_eq_ok_iff jsonCursorCodec).mpr ⟨by constructor <;> decide, hwat.ge, _,
      beforeOrder_secondCursor hses hgen, _, _, rfl, fun _ => hlast, rfl, hchecked⟩
  have hvisited : ∀ cursor,
      Visited (fun cursor => index.pageAt jsonCursorCodec 3 cursor onePolicy) nextCursor cursor →
      cursor = none ∨ cursor = some secondCursor := by
    intro cursor h
    induction h with
    | start => exact .inl rfl
    | follow _ hfetch hnext ih =>
      right
      rcases ih with rfl | rfl
      · cases hfst.symm.trans hfetch
        exact hnext.symm.trans hmore
      · cases hsec.symm.trans hfetch
        rw [nextCursor, hlast] at hnext
        cases hnext
  obtain ⟨pages, hwalk, -, -, -, hblocks, -⟩ :=
    pageAt_walk_complete jsonCursorCodec (reachable_of_revisedIndex hidx) (by
      intro cursor h
      rcases hvisited cursor h with rfl | rfl
      · exact ⟨_, hfst⟩
      · exact ⟨_, hsec⟩)
  exact ⟨index, hidx, pages, hwalk, hblocks⟩

/-- **Blocks stay.** A block that is shown at a waterline is shown at every later one, at its
    position and in no lower revision. -/
theorem block_never_regresses {blockId : String} {later : Nat} (hidx : Reachable index)
    (hle : high ≤ later) (hbl : index.blockAt high blockId = some block) :
    ∃ newer, index.blockAt later blockId = some newer ∧ newer.position = block.position ∧
      block.revision ≤ newer.revision := by
  have hwf := hidx.wellFormed
  obtain ⟨item, hm, rfl, happlied, -⟩ := hwf.blockAt_eq_some_iff.mp hbl
  have hord := hwf.ordered blockId item hm
  have hshown := le_trans (hwf.position_le_applied hm) (le_trans happlied hle)
  obtain ⟨_, hnewer⟩ :=
    Option.isSome_iff_exists.mp ((hwf.blockAt_isSome_iff hord).mpr hshown)
  obtain ⟨item', hm', rfl, -, hmax⟩ := hwf.blockAt_eq_some_iff.mp hnewer
  refine ⟨_, hnewer, Option.mem_unique (hwf.ordered blockId item' hm') hord, ?_⟩
  have hlatest := hmax item hm (le_trans happlied hle)
  obtain ⟨i, hi, rfl⟩ := getElem_of_mem hm
  obtain ⟨j, hj, rfl⟩ := getElem_of_mem hm'
  -- later versions have higher revisions
  have happlied' := pairwise_iff_getElem.mp (hwf.applied blockId) j i hj hi
  have hrevised := pairwise_iff_getElem.mp (hwf.revisions blockId) i j hi hj
  grind

theorem revised_block_stays : ∃ index newer, revisedIndex = .ok index ∧
    index.blockAt 3 "a" = some newer ∧ 1 ≤ newer.revision := by
  have hshown : revisedIndex.toOption.map (fun index => (index.blockAt 1 "a").map (·.revision)) =
      some (some 1) := by decide +kernel
  obtain ⟨index, hidx, hrev⟩ := Outcome.exists_ok_of_map hshown
  obtain ⟨block, hbl, hone⟩ := Option.map_eq_some_iff.mp hrev
  obtain ⟨newer, hnewer, -, hle⟩ :=
    block_never_regresses (reachable_of_revisedIndex hidx) (by decide : 1 ≤ 3) hbl
  exact ⟨index, newer, hidx, hnewer, hone ▸ hle⟩

end TranscriptBlockIndexV1

end Centaeris
