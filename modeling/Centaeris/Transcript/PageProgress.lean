import Centaeris.Transcript.PageWalk
import Centaeris.Transcript.ProjectorRuns

namespace Centaeris

open Foundation List Outcome Json Option TranscriptBlockBodyV1 TranscriptBlockV1
  TranscriptPagePolicyV1 TranscriptPageV1 TranscriptTextContentV1

/-!
# When the default page policy gets through

A page request under the default policy is served as long as the next block fits alone
on a page, with its cursor and the resume cursors of the waterline.
-/

variable (codec : CursorCodec)

/-! ### What a valid block and the loop have measured -/

variable {block : TranscriptBlockV1}

theorem TranscriptBlockV1.inlineContentBytes_le (h : block.validate = .ok ()) :
    block.body.inlineContentBytes ≤ transcriptPageInlineContentMaxBytes := by
  have htext : ∀ content : TranscriptTextContentV1, content.validate = .ok () →
      content.inlineContentBytes ≤ transcriptPageInlineContentMaxBytes := by
    intro content hcon
    obtain ⟨inlineContent, sourceRef⟩ := content
    cases inlineContent with
    | none => exact Nat.zero_le _
    | some text =>
      cases sourceRef with
      | none =>
        simpa [TranscriptTextContentV1.validate, TranscriptTextContentV1.inlineContentBytes] using
          hcon
      | some reference => simp [TranscriptTextContentV1.validate] at hcon
  simp only [TranscriptBlockV1.validate, ok_rules] at h
  obtain ⟨-, -, -, -, -, -, hbody⟩ := h
  generalize block.body = body at hbody ⊢
  cases body with
  | tool callId toolName status summary summaryRef outputRef =>
    simp only [TranscriptBlockBodyV1.validate, ok_rules] at hbody
    obtain ⟨-, -, hsum, -⟩ := hbody
    show (summary.map String.utf8ByteSize).getD 0 ≤ _
    cases summary with
    | none => exact Nat.zero_le _
    | some value =>
      cases summaryRef with
      | none => simpa [validateToolSummary] using hsum
      | some reference => simp [validateToolSummary] at hsum
  | userText content =>
    exact htext content hbody
  | assistantText content status =>
    exact htext content hbody
  | reasoning requestId content status =>
    simp only [TranscriptBlockBodyV1.validate, ok_rules] at hbody
    exact htext content hbody.2
  | notice noticeType content status =>
    simp only [TranscriptBlockBodyV1.validate, ok_rules] at hbody
    exact htext content hbody.2

variable {rest : List TranscriptBlockV1}

namespace TranscriptBlockIndexV1

variable {index : TranscriptBlockIndexV1} {high : Nat}

/-! ### Blocks alone on a page -/

/-- Whether older blocks than a given one were there at a waterline. -/
def hasOlderThan (index : TranscriptBlockIndexV1) (high : Nat)
    (block : TranscriptBlockV1) : Bool :=
  !(index.eligible high (some block.position)).isEmpty

/-- Every block of a waterline fits alone, and so does the empty page. -/
structure PagesFit (index : TranscriptBlockIndexV1) (high : Nat) : Prop where
  blocks : ∀ block, index.blockAt high block.blockId = some block →
    index.pageSize codec high [block] (index.hasOlderThan high block) ≤
      transcriptPageSerializedMaxBytes
  empty : (∀ blockId, index.blockAt high blockId = none) →
    index.pageSize codec high [] false ≤ transcriptPageSerializedMaxBytes

/-- A page that ends with a block is at least as large as the page of that block alone. -/
theorem pageSize_singleton_le (front : List TranscriptBlockV1) (block : TranscriptBlockV1)
    (hasOlder : Bool) :
    index.pageSize codec high [block] hasOlder ≤
      index.pageSize codec high (front ++ [block]) hasOlder := by
  unfold pageSize
  have hframe : (index.buildPage codec high (front ++ [block]) hasOlder).frame =
      (index.buildPage codec high [block] hasOlder).frame := by
    simp [buildPage, frame]
  rw [toJson_size,
    (index.buildPage codec high (front ++ [block]) hasOlder).toJson_size, hframe]
  apply Nat.add_le_add_left
  simp only [buildPage, sizeItems_eq_sum, reverse_append, reverse_cons,
    reverse_nil, nil_append, map_append, map_cons, map_nil,
    sum_append, sum_cons, length_append, length_cons, length_nil]
  omega

/-! ### Built pages pass their check -/

theorem WellFormed.resumeCursor_valid (hwf : index.WellFormed) :
    ∀ cursor ∈ index.resumeCursorsAt high, cursor.validate = .ok () := by
  intro cursor hcursor
  simp only [resumeCursorsAt, mem_filterMap, Prod.exists, Table.mem_toList,
    map_eq_some_iff] at hcursor
  obtain ⟨streamId, recorded, hstream, item, hitem, rfl⟩ := hcursor
  have hm : item ∈ index.cursorVersions streamId := by
    rw [cursorVersions, hstream]
    exact (mem_of_lastRecorded hitem).1
  obtain ⟨hid, hvl⟩ := hwf.cursorsValid streamId item hm
  simp [TranscriptResumeCursorV1.validate, hid, hvl]

theorem WellFormed.resumeCursors_distinct (hwf : index.WellFormed) :
    (index.resumeCursorsAt high).length ≤ transcriptPageResumeCursorMaxCount ∧
      ((index.resumeCursorsAt high).map (·.streamId)).Nodup := by
  constructor
  · refine le_trans (length_filterMap_le _ _) ?_
    rw [Std.ExtTreeMap.length_toList]
    exact hwf.streams
  · rw [List.Nodup, pairwise_map, resumeCursorsAt, pairwise_filterMap]
    refine List.Pairwise.imp ?_ (Table.sorted_toList _)
    intro a b hlt cursor hcursor cursor' hcursor'
    simp only [map_eq_some_iff] at hcursor hcursor'
    obtain ⟨_, -, rfl⟩ := hcursor
    obtain ⟨_, -, rfl⟩ := hcursor'
    exact ne_of_lt hlt

variable {pre : Option OrderPosition} {policy : TranscriptPagePolicyV1}

/-- A page within the budgets passes its own check. -/
theorem WellFormed.buildPage_valid (hwf : index.WellFormed) (hbd : high < u64Size)
    {taken left : List TranscriptBlockV1}
    (hsp : index.eligible high pre = taken ++ left) (hpolicy : policy.Valid)
    (hcnt : taken.length ≤ policy.maxBlocks)
    (hinline : inlineBytesOf taken ≤ policy.maxInlineContentBytes) (hemp : taken = [] → left = [])
    (hsize : index.pageSize codec high taken (!left.isEmpty) ≤
      policy.maxSerializedBytes) :
    (index.buildPage codec high taken (!left.isEmpty)).Valid policy
      high where
  policyValid := hpolicy
  identity := ⟨rfl, hwf.session, rfl, hwf.generation⟩
  highWater := ⟨decimalValue?_repr _, hbd⟩
  count := by
    show taken.reverse.length ≤ _
    rw [length_reverse]
    exact hcnt
  blocks := by
    intro block hbl
    have hm : block ∈ index.eligible high pre := by
      rw [hsp]
      exact mem_append_left _ (mem_reverse.mp hbl)
    obtain ⟨hval, -, -, hle⟩ := hwf.blockAt_facts (hwf.mem_eligible_iff.mp hm).1
    exact ⟨hval, hle⟩
  distinct := by
    show (taken.reverse.map (·.blockId)).Nodup
    rw [map_reverse, nodup_reverse]
    have hnodup : ((index.eligible high pre).map (·.blockId)).Nodup :=
      hwf.nodup_eligible pre
    rw [hsp, map_append] at hnodup
    exact (nodup_append.mp hnodup).1
  ordered := by
    show taken.reverse.Pairwise _
    rw [pairwise_reverse]
    have hsort : (index.eligible high pre).Pairwise _ :=
      hwf.sorted_eligible pre
    rw [hsp] at hsort
    exact (pairwise_append.mp hsort).1
  inline := by
    show (taken.reverse.map (·.body.inlineContentBytes)).sum ≤ _
    rw [map_reverse, sum_reverse]
    exact hinline
  older := by
    cases left with
    | nil => rfl
    | cons next rest =>
      cases hlast : taken.getLast? with
      | none => cases hemp (getLast?_eq_none_iff.mp hlast)
      | some last => simp [buildPage, hlast]
  olderCursor := by
    intro cursor hcursor
    cases left with
    | nil => cases hcursor
    | cons next rest =>
      simp only [buildPage, isEmpty_cons, Bool.not_false, if_true, mem_def,
        map_eq_some_iff] at hcursor
      obtain ⟨last, -, rfl⟩ := hcursor
      exact codec.encode_nonblank _
  resumeCount := hwf.resumeCursors_distinct.1
  resumeCursors := hwf.resumeCursor_valid
  resumeDistinct := hwf.resumeCursors_distinct.2
  serialized := hsize

/-! ### Served pages -/

variable {olderCursor : Option String}

theorem WellFormed.pageAt_default_of_fits (hwf : index.WellFormed)
    (hwat : high ≤ index.sourceHighWater) (hbd : high < u64Size)
    (hpre : index.beforeOrder codec high olderCursor = .ok pre)
    (hfst : ∀ block rest, index.eligible high pre = block :: rest →
      index.pageSize codec high [block] (!rest.isEmpty) ≤
        transcriptPageSerializedMaxBytes) (hnone : index.eligible high pre = [] →
      index.pageSize codec high [] false ≤ transcriptPageSerializedMaxBytes) :
    ∃ page, index.pageAt codec high olderCursor .default = .ok page := by
  obtain ⟨taken, left, hsp, hloop, hcnt, hinline, hmeasured⟩ :=
    pageLoop_spec .default (index.pageSize codec high)
      (index.eligible high pre) [] 0 (Nat.zero_le _) (Nat.zero_le _)
  rw [nil_append] at hloop hcnt
  rw [Nat.zero_add] at hinline
  have hemp : taken = [] → left = [] := by
    intro htaken
    cases heligible : index.eligible high pre with
    | nil => simpa [htaken, heligible] using hsp.symm
    | cons block rest =>
      have hbl : block ∈ index.eligible high pre := by simp [heligible]
      have hval := (hwf.blockAt_facts (hwf.mem_eligible_iff.mp hbl).1).1
      have htook : (pageLoop .default (index.pageSize codec high) (block :: rest) []
          0).1 ≠ [] :=
        pageLoop_nonempty default_valid.maxBlocks.1
          (inlineContentBytes_le hval) (hfst block rest heligible)
      rw [← heligible, hloop] at htook
      exact absurd htaken htook
  have hsize : index.pageSize codec high taken (!left.isEmpty) ≤
      default.maxSerializedBytes := by
    by_cases htaken : taken = []
    · have hleft := hemp htaken
      subst htaken hleft
      exact hnone hsp
    · obtain ⟨front, block, rfl⟩ := eq_nil_or_concat' taken |>.resolve_left htaken
      simpa using hmeasured front block [] rfl
  have hval := hwf.buildPage_valid codec hbd hsp default_valid
    hcnt hinline hemp hsize
  refine ⟨_, (pageAt_eq_ok_iff codec).mpr ⟨default_valid, hwat, pre,
    hpre, taken, _, hloop, ?_, rfl, ?_⟩⟩
  · intro htaken
    simp [hemp htaken]
  · exact validate_eq_ok_iff.mpr ⟨high, hval⟩

variable {page : TranscriptPageV1}

theorem WellFormed.fits_of_served (hwf : index.WellFormed)
    (h : index.pageAt codec high olderCursor .default = .ok page)
    (hbl : block ∈ page.blocks) :
    index.pageSize codec high [block] (index.hasOlderThan high block) ≤
      transcriptPageSerializedMaxBytes := by
  obtain ⟨-, -, pre, -, newestFirst, hasOlder, hloop, -, rfl, -⟩ :=
    (pageAt_eq_ok_iff codec).mp h
  obtain ⟨taken, left, hsp, hres, -, -, hmeasured⟩ := pageLoop_spec .default
    (index.pageSize codec high) (index.eligible high pre) [] 0
    (Nat.zero_le _) (Nat.zero_le _)
  have hsame : taken = newestFirst := by
    rw [hres, nil_append, Prod.mk.injEq] at hloop
    exact hloop.1
  subst hsame
  obtain ⟨front, back, rfl⟩ := append_of_mem (mem_reverse.mp hbl)
  -- what the loop saw as left after the block is what is older than it
  have haft : index.eligible high pre = front ++ [block] ++ (back ++ left) := by
    rw [hsp]
    simp
  have holder : index.eligible high (some block.position) = back ++ left :=
    hwf.eligible_after haft
  rw [hasOlderThan, holder]
  exact le_trans (pageSize_singleton_le codec front block _) (hmeasured front block back rfl)

theorem WellFormed.eligible_eq_nil_iff (hwf : index.WellFormed) :
    index.eligible high none = [] ↔
      ∀ blockId, index.blockAt high blockId = none := by
  rw [eq_nil_iff_forall_not_mem]
  constructor
  · intro hnone blockId
    rw [eq_none_iff_forall_ne_some]
    intro block hbl
    obtain ⟨-, rfl, -, -⟩ := hwf.blockAt_facts hbl
    exact hnone block (hwf.mem_eligible_iff.mpr ⟨hbl, hwf.inRange_none hbl⟩)
  · intro hnone block hbl
    have := (hwf.mem_eligible_iff.mp hbl).1
    rw [hnone] at this
    cases this

theorem PagesFit.first (hfit : index.PagesFit codec high) (hwf : index.WellFormed)
    (heligible : index.eligible high pre = block :: rest) :
    index.pageSize codec high [block] (!rest.isEmpty) ≤
      transcriptPageSerializedMaxBytes := by
  have hbl : block ∈ index.eligible high pre := by simp [heligible]
  have hsp : index.eligible high pre = [] ++ [block] ++ rest := heligible
  have hfits := hfit.blocks block (hwf.mem_eligible_iff.mp hbl).1
  rw [hasOlderThan, hwf.eligible_after hsp] at hfits
  exact hfits

theorem WellFormed.olderCursor_accepted (hwf : index.WellFormed) {given : Option String}
    {cursor : String} (h : index.pageAt codec high given policy = .ok page)
    (hcursor : page.olderCursor = some cursor) :
    ∃ pre, index.beforeOrder codec high (some cursor) = .ok pre ∧
      index.eligible high pre ≠ [] := by
  obtain ⟨pre, taken, left, -, hsp, rfl, -⟩ := pageAt_split codec h
  cases left with
  | nil => cases hcursor
  | cons next rest =>
    simp only [buildPage, isEmpty_cons, Bool.not_false, if_true, map_eq_some_iff] at hcursor
    obtain ⟨last, hlast, rfl⟩ := hcursor
    obtain ⟨front, rfl⟩ := getLast?_eq_some_iff.mp hlast
    have hm : last ∈ index.eligible high pre := by simp [hsp]
    have hval := (hwf.blockAt_facts (hwf.mem_eligible_iff.mp hm).1).1
    refine ⟨some last.position, beforeOrder_encoded codec hval, ?_⟩
    rw [hwf.eligible_after hsp]
    exact cons_ne_nil _ _

end TranscriptBlockIndexV1

/-! ### Every page a reader can ask for -/

namespace TranscriptProjectorV1

variable {contracts : PayloadContracts} {prj : TranscriptProjectorV1}
  {high : Nat}

/-- The cursors that a reader of a waterline can hold: none, or the older cursor of a page
    that was returned for it under any policy. -/
def Obtainable (prj : TranscriptProjectorV1) (high : Nat)
    (cursor : Option String) : Prop :=
  cursor = none ∨ ∃ given policy page,
    prj.pageAt codec high given policy = .ok page ∧ page.olderCursor = cursor

theorem pageAt_of_live (hlive : prj.invalidated = false) (cursor : Option String)
    (policy : TranscriptPagePolicyV1) :
    prj.pageAt codec high cursor policy =
      prj.index.pageAt codec high cursor policy := by
  simp [TranscriptProjectorV1.pageAt, requireLive, hlive, ensure]

open TranscriptBlockIndexV1 in
/-- **Progress.** In every reachable live projector, every page that a reader of a waterline
    can ask for under the default policy is served exactly when the pages of the
    waterline fit. -/
theorem default_pages_iff (hreach : Reachable contracts prj)
    (hlive : prj.invalidated = false) (hpassed : high ≤ prj.lastSequence) :
    (∀ cursor, prj.Obtainable codec high cursor →
      ∃ page, prj.pageAt codec high cursor .default = .ok page) ↔
      prj.index.PagesFit codec high := by
  have hcst := hreach.consistent
  have hwf := hcst.index
  simp only [Obtainable, pageAt_of_live codec hlive]
  constructor
  · intro hserved
    obtain ⟨pages, hwalk⟩ := (pagePager codec hwf high .default).exists_walk (by
      intro cursor hvisited
      refine hserved cursor ?_
      cases hvisited with
      | start => exact .inl rfl
      | follow _ hfetch hnext =>
        exact .inr ⟨_, _, _, hfetch, olderCursor_of_nextCursor hnext⟩) .start
    have hitems : pages.flatMap (fun page => page.blocks.reverse) =
        prj.index.eligible high none :=
      (pagePager codec hwf high .default).walk_items hwalk
    refine ⟨?_, ?_⟩
    · intro block hbl
      have hm := hwf.mem_eligible_iff.mpr ⟨hbl, hwf.inRange_none hbl⟩
      rw [← hitems, mem_flatMap] at hm
      obtain ⟨page, hpage, hin⟩ := hm
      obtain ⟨cursor, hcursor⟩ := hwalk.served page hpage
      exact hwf.fits_of_served codec hcursor (mem_reverse.mp hin)
    · intro hnone
      obtain ⟨page, hpage⟩ := hserved none (.inl rfl)
      obtain ⟨-, -, _, hpre, newestFirst, hasOlder, hloop, -, rfl, hval⟩ :=
        (pageAt_eq_ok_iff codec).mp hpage
      cases hpre
      rw [(hwf.eligible_eq_nil_iff).mpr hnone] at hloop
      obtain ⟨rfl, rfl⟩ : newestFirst = [] ∧ hasOlder = false := by
        simpa [pageLoop, eq_comm] using hloop
      obtain ⟨_, hpageValid⟩ := TranscriptPageV1.validate_eq_ok_iff.mp hval
      exact hpageValid.serialized
  · intro hfit cursor hcursor
    have hwat : high ≤ prj.index.sourceHighWater := by
      rw [hcst.water]
      exact hpassed
    have hbd := lt_of_le_of_lt hpassed hcst.bounded
    cases cursor with
    | none =>
      refine hwf.pageAt_default_of_fits codec hwat hbd rfl (fun _ _ => hfit.first codec hwf) ?_
      intro hemp
      exact hfit.empty (hwf.eligible_eq_nil_iff.mp hemp)
    | some cursor =>
      obtain hnone | ⟨given, policy, page, hpage, holder⟩ := hcursor
      · cases hnone
      obtain ⟨pre, hpre, hleft⟩ := hwf.olderCursor_accepted codec hpage holder
      refine hwf.pageAt_default_of_fits codec hwat hbd hpre
        (fun _ _ => hfit.first codec hwf) ?_
      intro hemp
      exact absurd hemp hleft

/-- A projector after a message and a tool call. -/
def twoBlocks :
    Outcome (TranscriptProjectorV1 × List (Option TranscriptProjectionUpdateV1)) := do
  let start ← TranscriptProjectorV1.new "s" "g"
  runCalls (perform toolContracts) start
    [.record (userMessageRecord 1 "m" "hi") "w" "1", .record (toolCallRecord 2 "c") "w" "2"]

theorem twoBlocks_reachable {updates : List (Option TranscriptProjectionUpdateV1)}
    (h : twoBlocks = .ok (prj, updates)) : Reachable toolContracts prj := by
  obtain ⟨start, hstart, hcalls⟩ := Outcome.bind_eq_ok.mp h
  obtain ⟨_, _, _, hfst, hcalls, -⟩ := runCalls_cons_eq_ok_iff.mp hcalls
  obtain ⟨_, _, _, hsec, hnil, -⟩ := runCalls_cons_eq_ok_iff.mp hcalls
  obtain ⟨rfl, -⟩ := runCalls_nil_eq_ok_iff.mp hnil
  exact ((Reachable.start (.new hstart)).call hfst).call hsec

/-- The pages of a message and a tool call fit exactly when a reader can open them. -/
theorem default_pages_iff_toolCall :
    ∃ prj updates, twoBlocks = .ok (prj, updates) ∧ prj.index.orderByBlockId.size = 2 ∧
      ∀ codec : CursorCodec,
        ((∀ cursor, prj.Obtainable codec 2 cursor →
          ∃ page, prj.pageAt codec 2 cursor .default = .ok page) ↔ prj.index.PagesFit codec 2) := by
  have hok : twoBlocks.toOption.map (fun result =>
      (result.1.index.orderByBlockId.size, result.1.invalidated, result.1.lastSequence)) =
        some (2, false, 2) := by
    decide
  obtain ⟨⟨prj, updates⟩, hrun, hfacts⟩ := exists_ok_of_map hok
  simp only [Prod.mk.injEq] at hfacts
  obtain ⟨hsize, hlive, hlast⟩ := hfacts
  exact ⟨prj, updates, hrun, hsize, fun codec =>
    default_pages_iff codec (twoBlocks_reachable hrun) hlive hlast.ge⟩

/-! ### A message that no page can hold -/

/-- A new projector of session `s` and generation `g`. -/
def emptyProjector : TranscriptProjectorV1 := ⟨"s", ⟨"s", "g", 0, ∅, ∅, ∅, ∅⟩, ∅, 0, false⟩

def messageBlock (text : String) : TranscriptBlockV1 where
  blockId := "m"
  blockRevision := "1"
  presentation := some ⟨some "r", "user_message", 0, none, none, none, none⟩
  orderKey := ⟨(1 : Nat).repr, 0⟩
  body := .userText ⟨some text, none⟩

def messagePatch (text : String) : TranscriptPatchV1 :=
  emptyProjector.patchOf 1 "w" "1" (messageBlock text)

def messagePage (text : String) : TranscriptPageV1 where
  schema := transcriptPageSchemaV1
  sessionId := "s"
  projectionVersion := transcriptProjectionVersionV1
  projectionGeneration := "g"
  sourceHighWater := (1 : Nat).repr
  blocks := [messageBlock text]
  olderCursor := none
  hasOlder := false
  resumeCursors := [⟨"w", "1"⟩]

def messageIndex (text : String) : TranscriptBlockIndexV1 :=
  (emptyProjector.index.pushVersion true (messageBlock text).position 1
    (messageBlock text)).pushCursor 1 "w" "1"

variable {text : String}

theorem messageBlock_position (text : String) : (messageBlock text).position = ⟨1, 0⟩ := by
  simp [messageBlock, position]

theorem messageBlock_valid (hbytes : text.utf8ByteSize ≤ transcriptPageInlineContentMaxBytes) :
    (messageBlock text).validate = .ok () := by
  have hemp : (messageBlock "").validate = .ok () := rfl
  simp only [TranscriptBlockV1.validate, ok_rules] at hemp ⊢
  obtain ⟨hid, revision, hrev, sequence, hseq, hpresentation, -⟩ := hemp
  refine ⟨hid, revision, hrev, sequence, hseq, hpresentation, ?_⟩
  show (TranscriptTextContentV1.mk (some text) none).validate = .ok ()
  simpa [TranscriptTextContentV1.validate] using hbytes

/-- The bytes of the block, the patch and the page grow with the literal of the text. -/
theorem messageBlock_size (text : String) :
    (messageBlock text).toJson.size + 2 =
      (messageBlock "").toJson.size + stringSize text := by
  have hemp : size (.string "") = 2 := rfl
  have htext : size (.string text) = stringSize text := by rw [size]
  simp only [messageBlock, TranscriptBlockV1.toJson, TranscriptBlockBodyV1.toJson,
    TranscriptTextContentV1.toJson, jsonOption, memberIfSome, cons_append, nil_append,
    size_object, sizeMembers_eq_sum, map_cons, map_nil, sum_cons,
    sum_nil, length_cons, length_nil, hemp, htext]
  omega

theorem messagePatch_size (text : String) :
    (messagePatch text).toJson.size = 495 + stringSize text := by
  have hemp : (messagePatch "").toJson.size = 497 := rfl
  have hbl := messageBlock_size text
  have hframe : (messagePatch text).frame = (messagePatch "").frame := rfl
  have hitems : ∀ text, sizeItems ((messagePatch text).upserts.map TranscriptBlockV1.toJson) =
      (messageBlock text).toJson.size := fun _ => rfl
  rw [TranscriptPatchV1.toJson_size, hitems] at hemp ⊢
  rw [hframe]
  generalize (messageBlock text).toJson.size = size at hbl ⊢
  omega

theorem messagePage_size (text : String) :
    (messagePage text).toJson.size = 528 + stringSize text := by
  have hemp : (messagePage "").toJson.size = 530 := rfl
  have hbl := messageBlock_size text
  have hframe : (messagePage text).frame = (messagePage "").frame := rfl
  have hitems : ∀ text, sizeItems ((messagePage text).blocks.map TranscriptBlockV1.toJson) =
      (messageBlock text).toJson.size := fun _ => rfl
  rw [TranscriptPageV1.toJson_size, hitems] at hemp ⊢
  rw [hframe]
  generalize (messageBlock text).toJson.size = size at hbl ⊢
  omega

theorem apply_message (hblk : isBlank text = false)
    (hbytes : text.utf8ByteSize ≤ transcriptPageInlineContentMaxBytes)
    (hsize : (messagePatch text).toJson.size ≤ transcriptPatchSerializedMaxBytes) :
    emptyProjector.apply toolContracts (userMessageRecord 1 "m" text) "w" "1" =
      .ok (⟨"s", messageIndex text, ∅, 1, false⟩, .patch (messagePatch text)) := by
  have hval := messageBlock_valid hbytes
  have hnames : isBlank "s" = false ∧ isBlank "g" = false ∧ isBlank "w" = false ∧
      isBlank "1" = false ∧ isBlank "m" = false := by decide
  have hshp : validateEventShape toolContracts (userMessageRecord 1 "m" text).event =
      .ok () := by
    simp [validateEventShape, userMessageRecord, sampleRecord, SessionRecordType.eventVersion,
      payloadObject, asObject?, validateEventPayload, validateUserMessage,
      requiredEventTurnId, requireExactPayloadFields, requiredPayloadString, payloadText?,
      List.lookup, asString?, trimmedText?, hblk, validateMessageAttachmentArray,
      asArray?]
    decide
  have hbl : projectBlock toolContracts ∅ (userMessageRecord 1 "m" text) =
      .ok (∅, some (messageBlock text)) := by
    let payload : Payload :=
      [("messageId", .string "m"), ("text", .string text), ("attachments", .array [])]
    have hid : payloadString payload "messageId" = .ok "m" := by
      simp [payloadString, payloadText?, payload, asString?, hnames]
    have htext : payloadStringAllowEmpty payload "text" = .ok text := by
      simp [payloadStringAllowEmpty, payloadText?, payload, List.lookup, asString?]
    have hcon : textContent (userMessageRecord 1 "m" text).event "text" text 1 =
        ⟨some text, none⟩ := by
      unfold textContent boundedText
      rw [if_pos hbytes]
    show (do
      let block ← projectUserMessage (userMessageRecord 1 "m" text) payload
        ⟨some "r", "user_message", 0, none, none, none, none⟩
      pure (∅, some block)) = _
    simp only [projectUserMessage, hid, htext, ok_bind, hcon, recordBlock]
    rfl
  have hidx : commitIndex emptyProjector.index 1 "w" "1" (some (messageBlock text)) =
      .ok (messageIndex text) := by
    have hpush : emptyProjector.index.applyCommitted 1 (messageBlock text) =
        .ok (emptyProjector.index.pushVersion true (messageBlock text).position 1
          (messageBlock text)) := by
      refine TranscriptBlockIndexV1.applyCommitted_eq_ok_iff.mpr ⟨hval, .inr ⟨true, ?_, rfl⟩⟩
      constructor
      case order => exact .inl ⟨rfl, by simp [emptyProjector], by simp [emptyProjector]⟩
      all_goals simp [messageBlock_position, TranscriptBlockIndexV1.versions, emptyProjector]
    simp only [commitIndex, indexBlock, hpush, ok_bind]
    refine TranscriptBlockIndexV1.recordResumeCursor_eq_ok_iff.mpr
      ⟨⟨hnames.2.2.1, hnames.2.2.2.1, Nat.zero_lt_one, le_rfl, .inr ?_⟩, .inr ⟨?_, rfl⟩⟩
    · simp [emptyProjector, transcriptPageResumeCursorMaxCount, transcriptPageBlockMaxCount]
    · simp [emptyProjector, TranscriptBlockIndexV1.cursorVersions]
  have hpatch : (messagePatch text).validate = .ok () := by
    refine TranscriptPatchV1.validate_eq_ok_iff.mpr ⟨1, ?_⟩
    constructor
    case identity => exact ⟨rfl, hnames.1, rfl, hnames.2.1⟩
    case highWater => exact ⟨decimalValue?_repr 1, by decide⟩
    case streamId => exact hnames.2.2.1
    case appliedCursor => exact hnames.2.2.2.1
    case upserts => simp [messagePatch, patchOf, hval, messageBlock_position]
    case serialized => exact hsize
    all_goals simp [messagePatch, patchOf, transcriptPatchMaxChanges, transcriptPageBlockMaxCount]
  refine apply_eq_ok_iff.mpr ⟨rfl, hshp, rfl, Nat.zero_lt_one, .inr ⟨?_,
    some (messageBlock text), project_eq_ok_iff.mpr ⟨∅, messageIndex text, hbl, hidx, rfl⟩,
    ?_⟩⟩
  · simp [userMessageRecord, sampleRecord]
  · show (do
      (messagePatch text).validate
      pure (TranscriptProjectionUpdateV1.patch (messagePatch text))) = _
    rw [hpatch]
    rfl

theorem eligible_messageIndex (text : String) :
    (messageIndex text).eligible 1 none = [messageBlock text] := by
  have hord : (messageIndex text).blockOrder.toList = [(⟨1, 0⟩, "m")] := by
    have hinsert : (messageIndex text).blockOrder =
        (∅ : Table OrderPosition String).insert (messageBlock text).position "m" := rfl
    rw [hinsert, messageBlock_position]
    decide
  have hvers : (messageIndex text).versions "m" = [⟨1, messageBlock text⟩] := by
    unfold messageIndex
    rw [TranscriptBlockIndexV1.pushCursor_versions, TranscriptBlockIndexV1.pushVersion_versions,
      if_pos (show (messageBlock text).blockId = "m" from rfl)]
    simp [emptyProjector, TranscriptBlockIndexV1.versions]
  have hbl : (messageIndex text).blockAt 1 "m" = some (messageBlock text) := by
    unfold TranscriptBlockIndexV1.blockAt
    rw [hvers]
    rfl
  have hrange : TranscriptBlockIndexV1.inRange 1 none ⟨1, 0⟩ = true := by decide
  unfold TranscriptBlockIndexV1.eligible
  rw [hord]
  simp [hrange, hbl]

/-- A first user message whose page is too large cannot be read. -/
theorem pageAt_message (hsize : transcriptPageSerializedMaxBytes < (messagePage text).toJson.size) :
    (messageIndex text).pageAt codec 1 none .default =
      .error (.err "transcript page policy cannot fit one valid block") := by
  have hresume : (messageIndex text).resumeCursorsAt 1 = [⟨"w", "1"⟩] := by
    show (messageIndex "").resumeCursorsAt 1 = _
    decide
  have hpage : (messageIndex text).pageSize codec 1 [messageBlock text] false =
      (messagePage text).toJson.size := by
    unfold TranscriptBlockIndexV1.pageSize TranscriptBlockIndexV1.buildPage
    rw [hresume]
    rfl
  have hloop : pageLoop .default ((messageIndex text).pageSize codec 1) [messageBlock text] [] 0 =
      ([], true) := by
    have hlarge : TranscriptPagePolicyV1.default.maxSerializedBytes <
        (messageIndex text).pageSize codec 1 [messageBlock text] false := hpage ▸ hsize
    rw [pageLoop, if_neg (by decide)]
    simp [hlarge]
  have hpolicy : default.validate = .ok .default :=
    validate_eq_ok_iff.mpr ⟨default_valid, rfl⟩
  have hwat : ensure (decide (1 ≤ (messageIndex text).sourceHighWater))
      "transcript page sourceHighWater is not fully projected" = .ok () := rfl
  have hpre : (messageIndex text).beforeOrder codec 1 none = .ok none := rfl
  unfold TranscriptBlockIndexV1.pageAt
  rw [hpolicy, ok_bind, hwat, ok_bind, hpre, ok_bind]
  simp only [eligible_messageIndex, hloop]
  rfl

/-- A text of control characters: six bytes each once it is serialized. -/
def controlText (count : Nat) : String := String.ofList (List.replicate count (Char.ofNat 1))

theorem controlText_facts {count : Nat} (hcnt : 0 < count) :
    isBlank (controlText count) = false ∧ (controlText count).utf8ByteSize = count ∧
      stringSize (controlText count) = 6 * count + 2 := by
  have hchar : (Char.ofNat 1).utf8Size = 1 ∧ escapeSize (Char.ofNat 1) = 6 ∧
      isSpace (Char.ofNat 1) = false := by decide
  refine ⟨?_, ?_, ?_⟩
  · simp [isBlank, controlText, hchar, hcnt.ne']
  · rw [controlText, utf8ByteSize_ofList, map_replicate, sum_replicate, hchar.1,
      smul_eq_mul, Nat.mul_one]
  · rw [stringSize_eq_sum, controlText, String.toList_ofList, map_replicate,
      sum_replicate, hchar.2.1, smul_eq_mul, Nat.mul_comm]

/-- A message of 43607 control characters is accepted with a patch of 262139 bytes, but
    no page of the default policy can hold it, whatever the cursors look like. -/
theorem control_text_unserved :
    ∃ prj patch, TranscriptProjectorV1.new "s" "g" = .ok emptyProjector ∧
      emptyProjector.apply toolContracts (userMessageRecord 1 "m" (controlText 43607)) "w" "1" =
        .ok (prj, .patch patch) ∧
      ∀ codec : CursorCodec, prj.pageAt codec 1 none .default =
        .error (.err "transcript page policy cannot fit one valid block") := by
  obtain ⟨hblk, hbytes, hsize⟩ := controlText_facts (show 0 < 43607 by decide)
  refine ⟨_, messagePatch (controlText 43607), rfl, apply_message hblk ?_ ?_,
    fun codec => ?_⟩
  · rw [hbytes]
    decide
  · rw [messagePatch_size, hsize]
    decide
  · rw [pageAt_of_live codec rfl]
    refine pageAt_message codec ?_
    rw [messagePage_size, hsize]
    decide

end TranscriptProjectorV1

end Centaeris
