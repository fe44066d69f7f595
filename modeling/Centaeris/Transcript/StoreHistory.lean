import Centaeris.Transcript.Store

namespace Centaeris

open Foundation HeadRow Outcome Rows List TranscriptBlockV1 Option

/-!
# Every history of the projection store

Commits to any generations and rotations come in any order, with any arguments.
-/

/-! ### Numbers -/

variable {value : String} {n : Nat}

/-- A canonical decimal is read by the standard library too, as the same number. -/
theorem parseU64?_of_decimalValue? (h : decimalValue? value = some n) (hlt : n < u64Size) :
    parseU64? value = some n := by
  unfold decimalValue? at h
  split at h
  · rename_i hcanon
    obtain rfl := Option.some.inj h
    simp only [isCanonicalDecimal, bool_rules] at hcanon
    obtain ⟨⟨hnonempty, -⟩, hdigits⟩ := hcanon
    have hplain : withoutPlus value.toList = value.toList := by
      unfold withoutPlus
      split
      · -- a plus sign is no digit
        rename_i rest hchars
        rw [hchars] at hdigits
        simp [Char.isDigit] at hdigits
      · rfl
    rw [parseU64?, hplain, hnonempty, hdigits]
    simp [Option.filter, hlt]
  · cases h

variable {name : String}

theorem decimalToI64_eq_ok :
    decimalToI64 value name = .ok n ↔ parseU64? value = some n ∧ n < i64Size := by
  simp only [decimalToI64, ok_rules, decide_eq_true_eq]
  constructor
  · rintro ⟨_, hvl, hlt, rfl⟩
    exact ⟨hvl, hlt⟩
  · rintro ⟨hvl, hlt⟩
    exact ⟨n, hvl, hlt, rfl⟩

theorem eq_of_decimalToI64 {m : Nat} (h : decimalValue? value = some n) (hlt : n < u64Size)
    (hread : decimalToI64 value name = .ok m) : m = n :=
  Option.some.inj ((decimalToI64_eq_ok.mp hread).1.symm.trans (parseU64?_of_decimalValue? h hlt))

/-! ### What a valid commit satisfies -/

structure CommittedBlockValid (sourceHighWater : Nat) (item : TranscriptCommittedBlockV1) :
    Prop where
  block : item.block.validate = .ok ()
  applied : ∃ applied, decimalValue? item.appliedSourceSequence = some applied ∧
    applied < u64Size ∧ applied ≤ sourceHighWater

variable {sourceHighWater : Nat} {items : List TranscriptCommittedBlockV1}

theorem committedBlockValid_of_scan {scan scan' : UpsertScan}
    (h : items.foldlM (scanUpsert sourceHighWater) scan = .ok scan') :
    ∀ item ∈ items, CommittedBlockValid sourceHighWater item := by
  induction items generalizing scan with
  | nil =>
    intro item hm
    cases hm
  | cons first rest ih =>
    rw [foldlM_cons, bind_eq_ok] at h
    obtain ⟨mid, hfst, hrest⟩ := h
    intro item hm
    rcases mem_cons.mp hm with rfl | hm
    · simp only [scanUpsert, ok_rules, parseDecimalU64_eq_ok, bool_rules] at hfst
      obtain ⟨hbl, applied, ⟨hvl, hlt⟩, ⟨⟨-, hwat⟩, -⟩, -⟩ := hfst
      exact ⟨hbl, applied, hvl, hlt, by omega⟩
    · exact ih hrest item hm

structure CommitValid (commit : TranscriptProjectionCommitV1) (expected sourceHighWater : Nat) :
    Prop where
  expects : decimalValue? commit.expectedSourceHighWater = some expected ∧ expected < u64Size
  reaches : decimalValue? commit.sourceHighWater = some sourceHighWater ∧ sourceHighWater < u64Size
  advances : expected < sourceHighWater
  blocks : ∀ item ∈ commit.upserts, CommittedBlockValid sourceHighWater item

theorem commitValid_of_validate {commit : TranscriptProjectionCommitV1}
    (h : commit.validate = .ok ()) : ∃ expected source, CommitValid commit expected source := by
  simp only [TranscriptProjectionCommitV1.validate, ok_rules, parseDecimalU64_eq_ok, bool_rules] at h
  obtain ⟨-, -, -, -, expected, hexp, source, hsource, ⟨-, hadvances⟩, -, -, -, -, scan, hscan,
    -⟩ := h
  exact ⟨expected, source, hexp, hsource, by omega, committedBlockValid_of_scan hscan⟩

/-! ### One block version -/

namespace SqliteRuntimeStore

/-- Every version of a block is later than those before it, and stands where the identity
    of the block says. -/
structure VersionsSound (store : SqliteRuntimeStore) : Prop where
  rising : store.blockVersions.Pairwise fun earlier later => earlier.key = later.key →
    earlier.appliedSourceSequence < later.appliedSourceSequence ∧
      earlier.blockRevision < later.blockRevision
  decoded : ∀ row ∈ store.blockVersions, row.block.blockId = row.blockId ∧
    decimalValue? row.block.blockRevision = some row.blockRevision
  placed : ∀ row ∈ store.blockVersions, ∃ identity,
    store.blockIdentity row.generation row.blockId = some identity ∧
      decimalValue? row.block.orderKey.sourceSequence = some identity.order.sequence ∧
      row.block.orderKey.ordinal = identity.order.ordinal

variable {row other : BlockVersionRow}

theorem rising_versions {rows : List BlockVersionRow}
    (hrising : rows.Pairwise fun earlier later => earlier.key = later.key →
      earlier.appliedSourceSequence < later.appliedSourceSequence ∧
        earlier.blockRevision < later.blockRevision) (hrow : row ∈ rows) (hoth : other ∈ rows)
    (hkey : row.key = other.key) :
    (row.appliedSourceSequence < other.appliedSourceSequence →
      row.blockRevision < other.blockRevision) ∧
    (row.appliedSourceSequence = other.appliedSourceSequence → row = other) := by
  induction rows with
  | nil => cases hrow
  | cons first rest ih =>
    rw [pairwise_cons] at hrising
    rcases mem_cons.mp hrow with rfl | hrow'
    · rcases mem_cons.mp hoth with rfl | hoth'
      · exact ⟨fun hlt => absurd hlt (lt_irrefl _), fun _ => rfl⟩
      · obtain ⟨happlied, hrev⟩ := hrising.1 other hoth' hkey
        exact ⟨fun _ => hrev, fun heq => by omega⟩
    · rcases mem_cons.mp hoth with rfl | hoth'
      · obtain ⟨happlied, -⟩ := hrising.1 row hrow' hkey.symm
        exact ⟨fun hlt => by omega, fun heq => by omega⟩
      · exact ih hrising.2 hrow' hoth'

variable {store store' : SqliteRuntimeStore} {commit : TranscriptProjectionCommitV1}

variable {generation : GenerationKey}

theorem saveBlockIdentity_eq_ok {blockId : String} {order : OrderPosition} {applied : Nat}
    (h : store.saveBlockIdentity generation blockId order applied = .ok store') :
    (∃ identities, store' = { store with blockIdentities := identities }) ∧
      (∃ identity, store'.blockIdentity generation blockId = some identity ∧
        identity.order = order) ∧
      ∀ other otherId identity, store.blockIdentity other otherId = some identity →
        store'.blockIdentity other otherId = some identity := by
  unfold saveBlockIdentity at h
  cases hfd : store.blockIdentity generation blockId with
  | some existing =>
    simp only [hfd, ok_rules, beq_iff_eq] at h
    obtain ⟨hord, rfl⟩ := h
    exact ⟨⟨_, rfl⟩, ⟨existing, hfd, hord⟩, fun _ _ _ h => h⟩
  | none =>
    simp only [hfd, ok_rules] at h
    obtain ⟨-, -, -, rfl⟩ := h
    refine ⟨⟨_, rfl⟩, ⟨⟨generation, blockId, order⟩, ?_, rfl⟩, ?_⟩
    · have hnone : select BlockIdentityRow.key store.blockIdentities
          (BlockIdentityRow.key ⟨generation, blockId, order⟩) = none := hfd
      rw [blockIdentity, select_concat_of_none hnone]
      exact if_pos rfl
    · intro other otherId identity hoth
      exact select_concat_of_some hoth

theorem saveBlockVersion_eq_ok {item : TranscriptCommittedBlockV1}
    (hval : CommittedBlockValid sourceHighWater item)
    (h : saveBlockVersion commit store item = .ok store') :
    ∃ identities row,
      store' = { store with
        blockIdentities := identities, blockVersions := store.blockVersions ++ [row] } ∧
      row.generation = commit.generation ∧ row.appliedSourceSequence ≤ sourceHighWater ∧
      (store.VersionsSound → store'.VersionsSound) := by
  obtain ⟨hbl, applied, hvl, hlt, hwat⟩ := hval
  simp only [saveBlockVersion, Outcome.ok_rules] at h
  obtain ⟨_, hreadApplied, orderSequence, hreadOrder, revision, hreadRevision, middle, hident,
    hincreasing, -, -, rfl⟩ := h
  obtain rfl := eq_of_decimalToI64 hvl hlt hreadApplied
  obtain ⟨hrev, hrevisionLt⟩ := revision_of_validate hbl
  obtain rfl := eq_of_decimalToI64 hrev hrevisionLt hreadRevision
  have hseq := sourceSequence_of_validate hbl
  rw [TranscriptOrderKeyV1.sourceSequenceValue, parseDecimalU64_eq_ok] at hseq
  obtain rfl := eq_of_decimalToI64 hseq.1 hseq.2 hreadOrder
  obtain ⟨⟨identities, rfl⟩, ⟨identity, hfd, hord⟩, hkept⟩ := saveBlockIdentity_eq_ok hident
  refine ⟨identities, _, rfl, rfl, hwat, fun hsnd => ⟨?_, ?_, ?_⟩⟩
  · rw [pairwise_append]
    refine ⟨hsnd.rising, pairwise_singleton _ _, ?_⟩
    intro earlier hm later hlat hkey
    rw [mem_singleton] at hlat
    subst hlat
    -- the latest version bounds every version of the block
    have hversion : earlier ∈ store.versionsOf commit.generation item.block.blockId :=
      mem_filter.mpr ⟨hm, beq_iff_eq.mpr hkey⟩
    cases hlatest : Rows.latest BlockVersionRow.appliedSourceSequence
        (store.versionsOf commit.generation item.block.blockId) with
    | none =>
      rw [latest_eq_none] at hlatest
      rw [hlatest] at hversion
      cases hversion
    | some latest =>
      obtain ⟨hlatestMem, hbd⟩ := latest_spec hlatest
      have hlatest' : Rows.latest BlockVersionRow.appliedSourceSequence
          (versionsOf { store with blockIdentities := identities } commit.generation
            item.block.blockId) = some latest := hlatest
      rw [hlatest', all_some] at hincreasing
      simp only [bool_rules, not_le] at hincreasing
      have happlied := hbd earlier hversion
      refine ⟨lt_of_le_of_lt happlied hincreasing.1, ?_⟩
      obtain ⟨hlatestRow, hlatestKey⟩ := mem_filter.mp hlatestMem
      have hsameKey : earlier.key = latest.key := hkey.trans (beq_iff_eq.mp hlatestKey).symm
      obtain ⟨hless, hsame⟩ := rising_versions hsnd.rising hm hlatestRow hsameKey
      rcases happlied.lt_or_eq with hlt | heq
      · exact (hless hlt).trans hincreasing.2
      · rw [hsame heq]
        exact hincreasing.2
  · intro row hm
    rcases mem_append.mp hm with hm | hm
    · exact hsnd.decoded row hm
    · rw [mem_singleton] at hm
      subst hm
      exact ⟨rfl, hrev⟩
  · intro row hm
    rcases mem_append.mp hm with hm | hm
    · obtain ⟨identity, hident, hplc⟩ := hsnd.placed row hm
      exact ⟨identity, hkept _ _ _ hident, hplc⟩
    · rw [mem_singleton] at hm
      subst hm
      refine ⟨identity, hfd, ?_, ?_⟩
      · rw [hord]
        exact hseq.1
      · rw [hord]

theorem VersionsSound.congr (h : store.VersionsSound)
    (hvers : store'.blockVersions = store.blockVersions)
    (hidentities : store'.blockIdentities = store.blockIdentities) : store'.VersionsSound := by
  refine ⟨hvers ▸ h.rising, hvers ▸ h.decoded, ?_⟩
  intro row hm
  rw [hvers] at hm
  obtain ⟨identity, hident, hplc⟩ := h.placed row hm
  refine ⟨identity, ?_, hplc⟩
  rw [blockIdentity, hidentities]
  exact hident

theorem saveBlockVersions_eq_ok (hval : ∀ item ∈ items, CommittedBlockValid sourceHighWater item)
    (h : items.foldlM (saveBlockVersion commit) store = .ok store') :
    ∃ identities rows,
      store' = { store with
        blockIdentities := identities, blockVersions := store.blockVersions ++ rows } ∧
      (∀ row ∈ rows, row.generation = commit.generation ∧
        row.appliedSourceSequence ≤ sourceHighWater) ∧
      (store.VersionsSound → store'.VersionsSound) := by
  induction items generalizing store with
  | nil =>
    obtain rfl := pure_eq_ok.mp h
    refine ⟨store.blockIdentities, [], ?_, ?_, id⟩
    · rw [append_nil]
    · intro row hm
      cases hm
  | cons item items ih =>
    rw [foldlM_cons, bind_eq_ok] at h
    obtain ⟨middle, hitem, hrest⟩ := h
    obtain ⟨_, row, rfl, hgen, hwat, hkeeps⟩ :=
      saveBlockVersion_eq_ok (hval item mem_cons_self) hitem
    obtain ⟨identities, rows, rfl, hrows, hkeepRest⟩ :=
      ih (fun other hm => hval other (mem_cons_of_mem item hm)) hrest
    refine ⟨identities, row :: rows, ?_, ?_, fun hsnd => hkeepRest (hkeeps hsnd)⟩
    · simp
    · intro other hm
      rcases mem_cons.mp hm with rfl | hm
      · exact ⟨hgen, hwat⟩
      · exact hrows other hm

/-! ### The head -/

/-- The high water of a generation; a generation without a head is at zero. -/
def highWater (store : SqliteRuntimeStore) (generation : GenerationKey) : Nat :=
  ((store.head generation).map (·.sourceHighWater)).getD 0

variable {expected : Nat}

/-- The head is there afterwards, valid and where the commit expects it. -/
theorem openHead_eq_ok (h : store.openHead generation expected = .ok store') :
    (∃ heads, store' = { store with heads := heads }) ∧
      store.highWater generation = expected ∧
      (∀ head, store.head generation = some head → head.invalidationReason = none) ∧
      (∃ head, store'.head generation = some head ∧ head.generation = generation ∧
        head.sourceHighWater = expected ∧ head.invalidationReason = none) ∧
      ∀ other, other ≠ generation → store'.head other = store.head other := by
  unfold openHead at h
  cases hfd : store.head generation with
  | some head =>
    cases hrsn : head.invalidationReason with
    | some reason => simp [hfd, hrsn] at h
    | none =>
      simp only [hfd, hrsn, Outcome.ok_rules, beq_iff_eq, Prod.exists, Prod.mk.injEq] at h
      obtain ⟨_, _, ⟨rfl, rfl⟩, hexp, rfl⟩ := h
      refine ⟨⟨_, rfl⟩, ?_, ?_, ⟨head, hfd, (mem_of_select hfd).2, hexp, hrsn⟩,
        fun _ _ => rfl⟩
      · rw [highWater, hfd]
        exact hexp
      · rintro _ ⟨⟩
        exact hrsn
  | none =>
    by_cases hzero : expected = 0
    · simp only [hfd, hzero, if_true, Outcome.ok_rules, Prod.exists, Prod.mk.injEq] at h
      obtain ⟨_, _, ⟨rfl, rfl⟩, -, rfl⟩ := h
      have hselect : ∀ other, select HeadRow.generation
          (store.heads ++ [⟨generation, 0, none⟩]) other =
          if generation = other then some ⟨generation, 0, none⟩ else store.head other := by
        intro other
        have hnone : select HeadRow.generation store.heads
            (HeadRow.generation ⟨generation, 0, none⟩) = none := hfd
        exact select_concat_of_none hnone
      refine ⟨⟨_, rfl⟩, ?_, ?_, ⟨⟨generation, 0, none⟩, ?_, rfl, hzero.symm, rfl⟩, ?_⟩
      · rw [highWater, hfd, hzero]
        rfl
      · rintro _ ⟨⟩
      · rw [head, hselect, if_pos rfl]
      · intro other hoth
        rw [head, hselect, if_neg (Ne.symm hoth)]
    · simp [hfd, hzero] at h

theorem advanceHead_eq_ok {invalidationReason : Option String} {current : HeadRow}
    (hcur : store.head generation = some current) (hwat : current.sourceHighWater = expected)
    (hval : current.invalidationReason = none)
    (h : store.advanceHead generation expected sourceHighWater invalidationReason = .ok store') :
    (∃ heads, store' = { store with heads := heads }) ∧ ∀ other, store'.head other =
      if other = generation then some ⟨generation, sourceHighWater, invalidationReason⟩
      else store.head other := by
  simp only [advanceHead, Outcome.ok_rules] at h
  obtain ⟨-, rfl⟩ := h
  refine ⟨⟨_, rfl⟩, fun other => ?_⟩
  show select HeadRow.generation (update store.heads _ fun row =>
    ⟨row.generation, sourceHighWater, invalidationReason⟩) other = _
  rw [select_update (by intro row; rfl)]
  have hkey := (mem_of_select hcur).2
  by_cases hoth : other = generation
  · subst hoth
    rw [if_pos rfl, show select HeadRow.generation store.heads other = some current from hcur,
      map_some]
    simp [hkey, hwat, hval]
  · rw [if_neg hoth]
    cases hfd : select HeadRow.generation store.heads other with
    | none => exact hfd.symm
    | some row =>
      have hrow := (mem_of_select hfd).2
      rw [map_some, if_neg (by simp [hrow, hoth])]
      exact hfd.symm

/-! ### One commit -/

theorem saveResumeCursors_eq_ok {cursors : List TranscriptResumeCursorV1}
    (h : cursors.foldlM (saveResumeCursor generation sourceHighWater) store = .ok store') :
    ∃ rows, store' = { store with resumeCursors := rows } := by
  refine foldlM_invariant (fun store' : SqliteRuntimeStore =>
    ∃ rows, store' = { store with resumeCursors := rows }) ?_ ⟨_, rfl⟩ h
  rintro middle last cursor - ⟨rows, rfl⟩ hcursor
  simp only [saveResumeCursor, ok_rules] at hcursor
  obtain ⟨-, rfl⟩ := hcursor
  exact ⟨_, rfl⟩

theorem saveRecovery_eq_ok (h : store.saveRecovery commit sourceHighWater = .ok store') :
    ∃ rows, store' = { store with currentRecoveries := rows } := by
  unfold saveRecovery at h
  split at h
  · simp only [ok_rules] at h
    obtain ⟨_, -, rfl⟩ := h
    exact ⟨_, rfl⟩
  · obtain rfl := pure_eq_ok.mp h
    exact ⟨_, rfl⟩

/-- Everything that an applied commit does to the tables. -/
structure CommitEffect (store : SqliteRuntimeStore) (commit : TranscriptProjectionCommitV1)
    (expected sourceHighWater : Nat) (store' : SqliteRuntimeStore) : Prop where
  valid : CommitValid commit expected sourceHighWater
  fresh : store.committed commit.commitId = none
  stands : store.highWater commit.generation = expected
  readable : ∀ head, store.head commit.generation = some head → head.invalidationReason = none
  heads : ∀ other, store'.head other =
    if other = commit.generation then
      some ⟨commit.generation, sourceHighWater, commit.invalidationReason⟩
    else store.head other
  current : store'.currentGenerations = store.currentGenerations
  commits : store'.commits = store.commits ++
    [⟨commit.commitId, commit.generation, expected, sourceHighWater, commit.durable⟩]
  versions : ∃ rows, store'.blockVersions = store.blockVersions ++ rows ∧
    ∀ row ∈ rows, row.generation = commit.generation ∧ row.appliedSourceSequence ≤ sourceHighWater
  sound : store.VersionsSound → store'.VersionsSound

theorem commitEffect_of_applied
    (h : store.commitTranscriptProjection commit = .ok (.applied, store')) :
    ∃ expected sourceHighWater, CommitEffect store commit expected sourceHighWater store' := by
  simp only [commitTranscriptProjection, ok_rules] at h
  obtain ⟨hvalidate, expected, hreadExpected, source, hreadSource, h⟩ := h
  obtain ⟨expected', source', hval⟩ := commitValid_of_validate hvalidate
  obtain rfl := eq_of_decimalToI64 hval.expects.1 hval.expects.2 hreadExpected
  obtain rfl := eq_of_decimalToI64 hval.reaches.1 hval.reaches.2 hreadSource
  refine ⟨expected, source, ?_⟩
  cases hcommitted : store.committed commit.commitId with
  | some existing =>
    simp only [hcommitted] at h
    split at h
    · cases (Prod.mk.inj (pure_eq_ok.mp h)).1
    · cases h
  | none =>
    simp only [hcommitted, ok_rules, Prod.mk.injEq, true_and] at h
    obtain ⟨opened, hopen, blocks, hblocks, cursors, hcursors, recovered, hrec, advanced,
      hadvanced, recorded, hrecorded, rfl⟩ := h
    obtain ⟨⟨heads, rfl⟩, hstands, hreadable, ⟨current, hcur, hkey, hwat, hrsn⟩, hothers⟩ :=
      openHead_eq_ok hopen
    obtain ⟨identities, rows, rfl, hrows, hsnd⟩ := saveBlockVersions_eq_ok hval.blocks hblocks
    obtain ⟨cursorRows, rfl⟩ := saveResumeCursors_eq_ok hcursors
    obtain ⟨recoveryRows, hrecovery⟩ := saveRecovery_eq_ok hrec
    -- nothing since the head was opened has touched it
    have hopened : ∀ other, recovered.head other = head { store with heads := heads } other := by
      intro other
      rw [hrecovery]
      rfl
    obtain ⟨⟨heads', rfl⟩, hheads⟩ :=
      advanceHead_eq_ok ((hopened _).trans hcur) hwat hrsn hadvanced
    subst hrecovery
    simp only [recordCommit, ok_rules] at hrecorded
    obtain ⟨-, rfl⟩ := hrecorded
    refine ⟨hval, hcommitted, hstands, hreadable, fun other => ?_, rfl, rfl, ⟨rows, rfl, hrows⟩,
      fun hpre => ?_⟩
    · refine (hheads other).trans ?_
      by_cases hoth : other = commit.generation
      · rw [if_pos hoth, if_pos hoth]
      · rw [if_neg hoth, if_neg hoth]
        exact hothers other hoth
    · exact (hsnd (hpre.congr rfl rfl)).congr rfl rfl

/-! ### One rotation -/

/-- **Rotations.** What an applied rotation does to the tables, with the checks that it
    passed. -/
structure RotationEffect (store : SqliteRuntimeStore)
    (rotation : TranscriptProjectionGenerationRotationV1) (target : Nat)
    (store' : SqliteRuntimeStore) : Prop where
  names : decimalToI64 rotation.targetSourceHighWater "generation targetSourceHighWater" =
    .ok target
  complete : ∃ head, store.head
      ⟨rotation.sessionId, rotation.projectionVersion, rotation.nextGeneration⟩ = some head ∧
    head.sourceHighWater = target ∧ head.invalidationReason = none
  expected : (store.currentGeneration rotation.sessionId rotation.projectionVersion).map
    (·.projectionGeneration) = rotation.expectedCurrentGeneration
  moved : store'.currentGeneration rotation.sessionId rotation.projectionVersion =
    some ⟨rotation.sessionId, rotation.projectionVersion, rotation.nextGeneration, target⟩
  others : ∀ session version, (session, version) ≠ (rotation.sessionId, rotation.projectionVersion) →
    store'.currentGeneration session version = store.currentGeneration session version
  frame : ∃ rows, store' = { store with currentGenerations := rows }

variable {rotation : TranscriptProjectionGenerationRotationV1}

theorem rotationEffect_of_applied
    (h : store.rotateCurrentTranscriptProjectionGeneration rotation = .ok (.applied, store')) :
    ∃ target, RotationEffect store rotation target store' := by
  simp only [rotateCurrentTranscriptProjectionGeneration, ok_rules, bool_rules,
    isNone_iff_eq_none] at h
  obtain ⟨-, target, htgt, head, hhead, ⟨hwat, hrsn⟩, h⟩ := h
  refine ⟨target, ?_⟩
  split at h
  · cases (Prod.mk.inj (pure_eq_ok.mp h)).1
  · simp only [ok_rules, Prod.mk.injEq, true_and] at h
    obtain ⟨_, hmove, rfl⟩ := h
    unfold moveCurrentGeneration at hmove
    cases hexp : rotation.expectedCurrentGeneration with
    | none =>
      cases hcur : store.currentGeneration rotation.sessionId rotation.projectionVersion with
      | some current => simp [hexp, hcur] at hmove
      | none =>
        simp only [hexp, hcur, ok_rules] at hmove
        obtain ⟨-, rfl⟩ := hmove
        have hnone : select CurrentGenerationRow.session store.currentGenerations
            (CurrentGenerationRow.session ⟨rotation.sessionId, rotation.projectionVersion,
              rotation.nextGeneration, target⟩) = none := hcur
        refine ⟨htgt, ⟨head, hhead, hwat, hrsn⟩, ?_, ?_, ?_, ⟨_, rfl⟩⟩
        · rw [hcur, hexp]
          rfl
        · rw [currentGeneration, select_concat_of_none hnone]
          exact if_pos rfl
        · intro session version hoth
          rw [currentGeneration, select_concat_of_none hnone]
          exact if_neg (Ne.symm hoth)
    | some expected =>
      cases hcur : store.currentGeneration rotation.sessionId rotation.projectionVersion with
      | none => simp [hexp, hcur] at hmove
      | some current =>
        simp only [hexp, hcur, ok_rules, beq_iff_eq] at hmove
        obtain ⟨rfl, -, rfl⟩ := hmove
        obtain ⟨-, hkey⟩ := mem_of_select hcur
        refine ⟨htgt, ⟨head, hhead, hwat, hrsn⟩, ?_, ?_, ?_, ⟨_, rfl⟩⟩
        · rw [hcur, hexp]
          rfl
        · obtain ⟨hses, hversion⟩ : current.sessionId = rotation.sessionId ∧
              current.projectionVersion = rotation.projectionVersion := Prod.mk.inj hkey
          rw [currentGeneration, select_update (by intro row; rfl), ← currentGeneration, hcur,
            map_some, hkey]
          simp [hses, hversion]
        · intro session version hoth
          rw [currentGeneration, select_update (by intro row; rfl), ← currentGeneration]
          cases hfd : store.currentGeneration session version with
          | none => rfl
          | some row =>
            have hrow : row.session = (session, version) := (mem_of_select hfd).2
            rw [map_some, hrow, if_neg]
            simp only [bool_rules, not_and]
            exact fun hsame => absurd hsame hoth

/-! ### One call -/

/-- What a call moves the head of a generation by: an applied commit from where it expects
    the head to where it ends, and any other call by nothing. -/
def advance (store : SqliteRuntimeStore) (generation : GenerationKey) : StoreCall → Nat
  | .commit commit => match store.commitTranscriptProjection commit with
    | .ok (.applied, _) =>
      if generation = commit.generation then
        (parseU64? commit.sourceHighWater).getD 0 - (parseU64? commit.expectedSourceHighWater).getD 0
      else 0
    | _ => 0
  | .rotate _ => 0

theorem unchanged_of_commit_alreadyApplied
    (h : store.commitTranscriptProjection commit = .ok (.alreadyApplied, store')) :
    store' = store := by
  simp only [commitTranscriptProjection, ok_rules] at h
  obtain ⟨-, _, -, _, -, h⟩ := h
  split at h
  · split at h
    · exact (Prod.mk.inj (pure_eq_ok.mp h)).2.symm
    · cases h
  · simp only [bind_eq_ok] at h
    obtain ⟨_, -, _, -, _, -, _, -, _, -, _, -, h⟩ := h
    cases (Prod.mk.inj (pure_eq_ok.mp h)).1

theorem unchanged_of_rotation_alreadyApplied
    (h : store.rotateCurrentTranscriptProjectionGeneration rotation =
      .ok (.alreadyApplied, store')) : store' = store := by
  simp only [rotateCurrentTranscriptProjectionGeneration, ok_rules] at h
  obtain ⟨-, _, -, _, -, -, h⟩ := h
  split at h
  · exact (Prod.mk.inj (pure_eq_ok.mp h)).2.symm
  · simp only [bind_eq_ok] at h
    obtain ⟨_, -, h⟩ := h
    cases (Prod.mk.inj (pure_eq_ok.mp h)).1

/-- **Calls.** A call is an applied commit or an applied rotation, or it leaves the tables
    as they are. -/
inductive CallEffect (store : SqliteRuntimeStore) : StoreCall → SqliteRuntimeStore → Prop
  | unchanged {call : StoreCall} (hadv : ∀ generation, store.advance generation call = 0) :
      CallEffect store call store
  | committed {commit : TranscriptProjectionCommitV1} {expected sourceHighWater : Nat}
      {store' : SqliteRuntimeStore}
      (heff : CommitEffect store commit expected sourceHighWater store')
      (hadv : ∀ generation, store.advance generation (.commit commit) =
        if generation = commit.generation then sourceHighWater - expected else 0) :
      CallEffect store (.commit commit) store'
  | rotated {rotation : TranscriptProjectionGenerationRotationV1} {target : Nat}
      {store' : SqliteRuntimeStore} (heff : RotationEffect store rotation target store') :
      CallEffect store (.rotate rotation) store'

theorem callEffect (store : SqliteRuntimeStore) (call : StoreCall) :
    CallEffect store call (store.perform call) := by
  cases call with
  | commit commit =>
    cases hres : store.commitTranscriptProjection commit with
    | error e =>
      rw [perform, hres]
      exact .unchanged fun generation => by rw [advance, hres]
    | ok result =>
      obtain ⟨disposition, store'⟩ := result
      rw [perform, hres]
      cases disposition with
      | alreadyApplied =>
        obtain rfl := unchanged_of_commit_alreadyApplied hres
        exact .unchanged fun generation => by rw [advance, hres]
      | applied =>
        obtain ⟨expected, source, heff⟩ := commitEffect_of_applied hres
        refine .committed heff fun generation => ?_
        rw [advance, hres,
          parseU64?_of_decimalValue? heff.valid.expects.1 heff.valid.expects.2,
          parseU64?_of_decimalValue? heff.valid.reaches.1 heff.valid.reaches.2]
        rfl
  | rotate rotation =>
    cases hres : store.rotateCurrentTranscriptProjectionGeneration rotation with
    | error e =>
      rw [perform, hres]
      exact .unchanged fun _ => rfl
    | ok result =>
      obtain ⟨disposition, store'⟩ := result
      rw [perform, hres]
      cases disposition with
      | alreadyApplied =>
        obtain rfl := unchanged_of_rotation_alreadyApplied hres
        exact .unchanged fun _ => rfl
      | applied =>
        obtain ⟨target, heff⟩ := rotationEffect_of_applied hres
        exact .rotated heff

variable {call : StoreCall}

theorem highWater_of_callEffect (h : CallEffect store call store') (generation : GenerationKey) :
    store'.highWater generation = store.highWater generation + store.advance generation call := by
  cases h with
  | unchanged hadv => rw [hadv, Nat.add_zero]
  | @committed commit expected source _ heff hadv =>
    rw [hadv, highWater, heff.heads]
    by_cases hsame : generation = commit.generation
    · rw [if_pos hsame, if_pos hsame, hsame, heff.stands]
      have hadvances := heff.valid.advances
      show source = _
      omega
    · rw [if_neg hsame, if_neg hsame]
      rfl
  | @rotated rotation target _ heff =>
    obtain ⟨rows, rfl⟩ := heff.frame
    rfl

/-- What is recorded of a commit stays recorded. -/
theorem committed_of_callEffect (h : CallEffect store call store') {commitId : String}
    {row : CommitRow} (hrow : store.committed commitId = some row) :
    store'.committed commitId = some row := by
  cases h with
  | unchanged => exact hrow
  | committed heff =>
    rw [committed, heff.commits]
    exact select_concat_of_some hrow
  | rotated heff =>
    obtain ⟨rows, rfl⟩ := heff.frame
    exact hrow

theorem invalidated_of_callEffect (h : CallEffect store call store') {head : HeadRow}
    (hhead : store.head generation = some head) (hrsn : head.invalidationReason ≠ none) :
    store'.head generation = some head := by
  cases h with
  | unchanged => exact hhead
  | @committed commit expected source _ heff =>
    rw [heff.heads, if_neg]
    · exact hhead
    · rintro rfl
      exact hrsn (heff.readable head hhead)
  | rotated heff =>
    obtain ⟨rows, rfl⟩ := heff.frame
    exact hhead

/-- **The invariant.** The versions are sound, and none is later than the head of its
    generation. -/
structure Sound (store : SqliteRuntimeStore) : Prop where
  versions : store.VersionsSound
  below : ∀ row ∈ store.blockVersions, ∃ head, store.head row.generation = some head ∧
    row.appliedSourceSequence ≤ head.sourceHighWater

theorem sound_empty : empty.Sound := by
  refine ⟨⟨List.Pairwise.nil, ?_, ?_⟩, ?_⟩
  all_goals
    intro row hm
    cases hm

theorem sound_of_callEffect (h : CallEffect store call store') (hsnd : store.Sound) :
    store'.Sound := by
  cases h with
  | unchanged => exact hsnd
  | @committed commit expected source _ heff =>
    obtain ⟨rows, hvers, hrows⟩ := heff.versions
    refine ⟨heff.sound hsnd.versions, fun row hm => ?_⟩
    rw [hvers] at hm
    rw [heff.heads]
    rcases mem_append.mp hm with hm | hm
    · obtain ⟨head, hhead, hbelow⟩ := hsnd.below row hm
      by_cases hsame : row.generation = commit.generation
      · rw [if_pos hsame]
        refine ⟨_, rfl, ?_⟩
        -- the head has moved forward
        have hstands := heff.stands
        rw [highWater, ← hsame, hhead, map_some, getD_some] at hstands
        have hadvances := heff.valid.advances
        show row.appliedSourceSequence ≤ source
        omega
      · rw [if_neg hsame]
        exact ⟨head, hhead, hbelow⟩
    · obtain ⟨hgen, hwat⟩ := hrows row hm
      rw [if_pos hgen]
      exact ⟨_, rfl, hwat⟩
  | rotated heff =>
    obtain ⟨rows, rfl⟩ := heff.frame
    exact ⟨hsnd.versions.congr rfl rfl, hsnd.below⟩

/-! ### Histories -/

/-- What the applied commits of a history moved a head by. -/
def acceptedAdvances (generation : GenerationKey) : SqliteRuntimeStore → List StoreCall → Nat
  | _, [] => 0
  | store, call :: calls =>
    store.advance generation call + acceptedAdvances generation (store.perform call) calls

/-- A commit was applied in the history. -/
def Accepted (calls : List StoreCall) (commit : TranscriptProjectionCommitV1) : Prop :=
  ∃ front back store', calls = front ++ .commit commit :: back ∧
    (run front).commitTranscriptProjection commit = .ok (.applied, store')

theorem keeps_foldl (holds : SqliteRuntimeStore → Prop)
    (hstep : ∀ store call store', CallEffect store call store' → holds store → holds store')
    (calls : List StoreCall) (h : holds store) : holds (calls.foldl perform store) := by
  induction calls generalizing store with
  | nil => exact h
  | cons call calls ih => exact ih (hstep store call _ (callEffect store call) h)

theorem sound_run (calls : List StoreCall) : (run calls).Sound :=
  keeps_foldl Sound (fun _ _ _ heff hsnd => sound_of_callEffect heff hsnd) calls
    sound_empty

theorem highWater_foldl (generation : GenerationKey) (calls : List StoreCall) :
    (calls.foldl perform store).highWater generation =
      store.highWater generation + acceptedAdvances generation store calls := by
  induction calls generalizing store with
  | nil => rfl
  | cons call calls ih =>
    rw [foldl_cons, ih, highWater_of_callEffect (callEffect store call), acceptedAdvances,
      Nat.add_assoc]

variable {calls : List StoreCall}

theorem Accepted.since (h : Accepted calls commit) (holds : SqliteRuntimeStore → Prop)
    (happlied : ∀ store expected source store', CommitEffect store commit expected source store' →
      holds store')
    (hstep : ∀ store call store', CallEffect store call store' → holds store → holds store') :
    holds (run calls) := by
  obtain ⟨front, back, store', rfl, hres⟩ := h
  obtain ⟨expected, source, heff⟩ := commitEffect_of_applied hres
  have hnow : (run front).perform (.commit commit) = store' := by rw [perform, hres]
  rw [run, foldl_append, foldl_cons]
  refine keeps_foldl holds hstep back ?_
  show holds ((run front).perform (.commit commit))
  rw [hnow]
  exact happlied _ _ _ _ heff

/-- An applied commit is recorded from then on. -/
theorem Accepted.committed (h : Accepted calls commit) :
    ∃ row, (run calls).committed commit.commitId = some row ∧ row.commit = commit.durable := by
  refine h.since (fun store => ∃ row, store.committed commit.commitId = some row ∧
    row.commit = commit.durable) ?_ ?_
  · intro store expected source store' heff
    refine ⟨⟨commit.commitId, commit.generation, expected, source, commit.durable⟩, ?_, rfl⟩
    have hnone : select CommitRow.commitId store.commits (CommitRow.commitId
        ⟨commit.commitId, commit.generation, expected, source, commit.durable⟩) = none :=
      heff.fresh
    rw [SqliteRuntimeStore.committed, heff.commits, select_concat_of_none hnone]
    exact if_pos rfl
  · rintro store call store' heff ⟨row, hrow, hcom⟩
    exact ⟨row, committed_of_callEffect heff hrow, hcom⟩

theorem Accepted.invalidated (h : Accepted calls commit)
    (hrsn : commit.invalidationReason ≠ none) :
    ∃ head, (run calls).head commit.generation = some head ∧ head.invalidationReason ≠ none := by
  refine h.since (fun store => ∃ head, store.head commit.generation = some head ∧
    head.invalidationReason ≠ none) ?_ ?_
  · intro store expected source store' heff
    refine ⟨⟨commit.generation, source, commit.invalidationReason⟩, ?_, hrsn⟩
    rw [heff.heads, if_pos rfl]
  · rintro store call store' heff ⟨head, hhead, hinvalid⟩
    exact ⟨head, invalidated_of_callEffect heff hhead hinvalid, hinvalid⟩

/-- **Replays.** A commit with the id of an applied one is answered without a change when
    it is recorded in the same way, and refused otherwise. -/
theorem Accepted.replay (h : Accepted calls commit) {again : TranscriptProjectionCommitV1}
    (hval : again.validate = .ok ()) (hid : again.commitId = commit.commitId) :
    (again.durable = commit.durable →
      (run calls).commitTranscriptProjection again = .ok (.alreadyApplied, run calls)) ∧
    (again.durable ≠ commit.durable →
      ∃ failure, (run calls).commitTranscriptProjection again = .error failure) := by
  obtain ⟨row, hrow, hcom⟩ := h.committed
  rw [← hid] at hrow
  constructor
  · intro hsame
    -- the numbers of the first commit were in range
    obtain ⟨front, -, store', -, hres⟩ := h
    simp only [commitTranscriptProjection, bind_eq_ok] at hres
    obtain ⟨_, -, expected, hexp, source, hsource, -⟩ := hres
    have hexp' : again.expectedSourceHighWater = commit.expectedSourceHighWater :=
      congrArg (·.expectedSourceHighWater) hsame
    have hsource' : again.sourceHighWater = commit.sourceHighWater :=
      congrArg (·.sourceHighWater) hsame
    rw [commitTranscriptProjection, hval, ok_bind, hexp', hexp, ok_bind,
      hsource', hsource, ok_bind, hrow]
    exact if_pos (hcom.trans hsame.symm)
  · intro hoth
    cases hres : (run calls).commitTranscriptProjection again with
    | error failure => exact ⟨failure, rfl⟩
    | ok result =>
      simp only [commitTranscriptProjection, ok_rules, hrow] at hres
      obtain ⟨-, _, -, _, -, hres⟩ := hres
      rw [if_neg (by rw [hcom]; exact hoth.symm)] at hres
      cases hres

theorem VersionsSound.versions_of_block (h : store.VersionsSound) (hrow : row ∈ store.blockVersions)
    (hoth : other ∈ store.blockVersions) (hkey : row.key = other.key) :
    row.block.orderKey = other.block.orderKey ∧
      (row.appliedSourceSequence < other.appliedSourceSequence →
        row.blockRevision < other.blockRevision) ∧
      (row.appliedSourceSequence = other.appliedSourceSequence → row = other) := by
  refine ⟨?_, ?_⟩
  · obtain ⟨identity, hident, hseq, hordinal⟩ := h.placed row hrow
    obtain ⟨identity', hident', hseq', hordinal'⟩ := h.placed other hoth
    obtain ⟨hgen, hbl⟩ := Prod.mk.inj hkey
    rw [hgen, hbl, hident'] at hident
    obtain rfl := Option.some.inj hident
    have hsequences := decimalValue?_injective hseq hseq'
    have hordinals := hordinal.trans hordinal'.symm
    show (⟨row.block.orderKey.sourceSequence, row.block.orderKey.ordinal⟩ : TranscriptOrderKeyV1) = _
    rw [hsequences, hordinals]
  · exact rising_versions h.rising hrow hoth hkey

theorem currentGeneration_of_callEffect (h : CallEffect store call store')
    {session version : String}
    (hmoved : store'.currentGeneration session version ≠ store.currentGeneration session version) :
    ∃ rotation target head, call = .rotate rotation ∧ rotation.sessionId = session ∧
      rotation.projectionVersion = version ∧
      (store.currentGeneration session version).map (·.projectionGeneration) =
        rotation.expectedCurrentGeneration ∧
      parseU64? rotation.targetSourceHighWater = some target ∧
      store.head ⟨session, version, rotation.nextGeneration⟩ = some head ∧
      head.sourceHighWater = target ∧ head.invalidationReason = none ∧
      store'.currentGeneration session version =
        some ⟨session, version, rotation.nextGeneration, target⟩ := by
  cases h with
  | unchanged => exact absurd rfl hmoved
  | committed heff =>
    rw [currentGeneration, heff.current] at hmoved
    exact absurd rfl hmoved
  | @rotated rotation target _ heff =>
    by_cases hses : (session, version) = (rotation.sessionId, rotation.projectionVersion)
    · obtain ⟨rfl, rfl⟩ := Prod.mk.inj hses
      obtain ⟨head, hhead, hwat, hrsn⟩ := heff.complete
      exact ⟨rotation, target, head, rfl, rfl, rfl, heff.expected,
        (decimalToI64_eq_ok.mp heff.names).1, hhead, hwat, hrsn, heff.moved⟩
    · exact absurd (heff.others session version hses) hmoved

/-- **Histories.** At every point of every history of commits and rotations:

    * no call moves a head back, and each head stands at the sum of its applied advances;
    * a commit with the id of an applied one changes nothing when it differs from it at
      most in its checkpoint and frontier, and is refused otherwise;
    * a generation with an applied invalidation has no further applied commit;
    * every block version was applied at or before the head of its generation, and the
      versions of one block have one order key and rising revisions;
    * the current generation of a session moves only by a rotation that expects where it
      is, to a readable generation whose head is the target. -/
theorem projectionStore_history (calls : List StoreCall) :
    (∀ call generation,
      (run calls).highWater generation ≤ ((run calls).perform call).highWater generation) ∧
    (∀ generation, (run calls).highWater generation =
      acceptedAdvances generation empty calls) ∧
    (∀ commit, Accepted calls commit → ∀ again : TranscriptProjectionCommitV1,
      again.validate = .ok () → again.commitId = commit.commitId →
      (again.durable = commit.durable →
        (run calls).commitTranscriptProjection again = .ok (.alreadyApplied, run calls)) ∧
      (again.durable ≠ commit.durable →
        ∃ failure, (run calls).commitTranscriptProjection again = .error failure)) ∧
    (∀ commit, Accepted calls commit → commit.invalidationReason ≠ none →
      ∀ again : TranscriptProjectionCommitV1, again.generation = commit.generation →
        ∀ store', (run calls).commitTranscriptProjection again ≠ .ok (.applied, store')) ∧
    (∀ row ∈ (run calls).blockVersions,
      (∃ head, (run calls).head row.generation = some head ∧
        row.appliedSourceSequence ≤ head.sourceHighWater) ∧
      decimalValue? row.block.blockRevision = some row.blockRevision ∧
      ∀ other ∈ (run calls).blockVersions, row.key = other.key →
        row.block.orderKey = other.block.orderKey ∧
        (row.appliedSourceSequence < other.appliedSourceSequence →
          row.blockRevision < other.blockRevision) ∧
        (row.appliedSourceSequence = other.appliedSourceSequence → row = other)) ∧
    ∀ call session version,
      ((run calls).perform call).currentGeneration session version ≠
        (run calls).currentGeneration session version →
      ∃ rotation target head, call = .rotate rotation ∧ rotation.sessionId = session ∧
        rotation.projectionVersion = version ∧
        ((run calls).currentGeneration session version).map (·.projectionGeneration) =
          rotation.expectedCurrentGeneration ∧
        parseU64? rotation.targetSourceHighWater = some target ∧
        (run calls).head ⟨session, version, rotation.nextGeneration⟩ = some head ∧
        head.sourceHighWater = target ∧ head.invalidationReason = none ∧
        ((run calls).perform call).currentGeneration session version =
          some ⟨session, version, rotation.nextGeneration, target⟩ := by
  have hsnd := sound_run calls
  refine ⟨fun call generation => ?_, fun generation => ?_, fun commit hacc again hval hid =>
    hacc.replay hval hid, fun commit hacc hrsn again hgen store' happlied => ?_,
    fun row hrow => ⟨hsnd.below row hrow, (hsnd.versions.decoded row hrow).2,
      fun other hoth hkey => hsnd.versions.versions_of_block hrow hoth hkey⟩,
    fun call session version hmoved =>
      currentGeneration_of_callEffect (callEffect (run calls) call) hmoved⟩
  · rw [highWater_of_callEffect (callEffect (run calls) call)]
    exact Nat.le_add_right _ _
  · rw [run, highWater_foldl]
    exact Nat.zero_add _
  · obtain ⟨head, hhead, hinvalid⟩ := hacc.invalidated hrsn
    obtain ⟨expected, source, heff⟩ := commitEffect_of_applied happlied
    rw [← hgen] at hhead
    exact hinvalid (heff.readable head hhead)

/-- A commit that moves a new generation to its first record. -/
def firstCommit : TranscriptProjectionCommitV1 where
  commitId := "c"
  sessionId := "s"
  projectionVersion := transcriptProjectionVersionV1
  projectionGeneration := "g"
  expectedSourceHighWater := "0"
  sourceHighWater := "1"
  upserts := []
  resumeCursors := []
  checkpoint := none
  frontier := none
  invalidationReason := none

def checkpointedCommit : TranscriptProjectionCommitV1 :=
  { firstCommit with
    checkpoint := some ⟨transcriptCheckpointSchemaV1, "s", transcriptProjectionVersionV1, "g", "1",
      "f", "b"⟩
    frontier := some ⟨transcriptFrontierSchemaV1, "f", "s", transcriptProjectionVersionV1, "g", "1",
      []⟩ }

/-- A commit that adds a checkpoint to an applied one is answered as if it were applied. -/
theorem checkpointed_replay_alreadyApplied :
    Accepted [.commit firstCommit] firstCommit ∧ checkpointedCommit.validate = .ok () ∧
      checkpointedCommit.commitId = firstCommit.commitId ∧ checkpointedCommit ≠ firstCommit ∧
      (run [.commit firstCommit]).commitTranscriptProjection checkpointedCommit =
        .ok (.alreadyApplied, run [.commit firstCommit]) := by
  refine ⟨⟨[], [], run [.commit firstCommit], rfl, ?_⟩, ?_, rfl, ?_, ?_⟩
  · decide
  · decide
  · decide
  · decide

end SqliteRuntimeStore

end Centaeris
