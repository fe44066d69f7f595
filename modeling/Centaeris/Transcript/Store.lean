import Centaeris.Foundation.Rows
import Centaeris.Transcript.Recovery

namespace Centaeris

open Foundation

/-!
# The projection store

A projection is stored in tables, by commits that each move the head of one generation
forward, and by rotations that make a generation the current one of its session.

A stored commit is kept as a value in place of its JSON text.
-/

def transcriptProjectionSliceMaxBytes : Nat := transcriptPageSerializedMaxBytes

/-! ### Commits -/

structure TranscriptCommittedBlockV1 where
  appliedSourceSequence : String
  block : TranscriptBlockV1
deriving DecidableEq

def TranscriptCommittedBlockV1.toJson (item : TranscriptCommittedBlockV1) : Json :=
  .object [("appliedSourceSequence", .string item.appliedSourceSequence),
    ("block", item.block.toJson)]

/-- The arguments, and their checks. -/
structure TranscriptProjectionCommitV1 where
  commitId : String
  sessionId : String
  projectionVersion : String
  projectionGeneration : String
  expectedSourceHighWater : String
  sourceHighWater : String
  upserts : List TranscriptCommittedBlockV1
  resumeCursors : List TranscriptResumeCursorV1
  checkpoint : Option TranscriptProjectionCheckpointV1
  frontier : Option TranscriptProjectionFrontierV1
  invalidationReason : Option String
deriving DecidableEq

/-- The scan of the changed blocks: the versions so far, the position of each block, and
    the sequence of the last one. -/
structure UpsertScan where
  committed : List (String × Nat)
  blockOrders : Table String OrderPosition
  previousApplied : Nat

def scanUpsert (sourceHighWater : Nat) (scan : UpsertScan) (item : TranscriptCommittedBlockV1) :
    Outcome UpsertScan := do
  item.block.validate
  let applied ← parseDecimalU64 item.appliedSourceSequence
    "transcript projection appliedSourceSequence"
  ensure (!(applied == 0 || decide (sourceHighWater < applied) ||
      decide (applied < scan.previousApplied)))
    "transcript projection appliedSourceSequence is not ordered within waterline"
  let order ← item.block.orderKey.orderValue
  ensure (decide (order.sequence ≤ applied))
    "transcript projection block orderKey is after its applied sequence"
  ensure (!scan.committed.contains (item.block.blockId, applied))
    "transcript projection commit duplicates a block version"
  ensure ((scan.blockOrders[item.block.blockId]?).all (· == order))
    "transcript projection block orderKey changed within commit"
  pure ⟨(item.block.blockId, applied) :: scan.committed,
    scan.blockOrders.insert item.block.blockId order, applied⟩

def scanCommitCursor : List String → TranscriptResumeCursorV1 → Outcome (List String) :=
  scanFresh TranscriptResumeCursorV1.validate (·.streamId)
    "transcript projection commit duplicates a resume streamId"

namespace TranscriptProjectionCommitV1

def toJson (commit : TranscriptProjectionCommitV1) : Json :=
  .object [("commitId", .string commit.commitId), ("sessionId", .string commit.sessionId),
    ("projectionVersion", .string commit.projectionVersion),
    ("projectionGeneration", .string commit.projectionGeneration),
    ("expectedSourceHighWater", .string commit.expectedSourceHighWater),
    ("sourceHighWater", .string commit.sourceHighWater),
    ("upserts", .array (commit.upserts.map TranscriptCommittedBlockV1.toJson)),
    ("resumeCursors", .array (commit.resumeCursors.map TranscriptResumeCursorV1.toJson)),
    ("checkpoint", jsonOption TranscriptProjectionCheckpointV1.toJson commit.checkpoint),
    ("frontier", jsonOption TranscriptProjectionFrontierV1.toJson commit.frontier),
    ("invalidationReason", jsonOption .string commit.invalidationReason)]

/-- A checkpoint comes with its frontier, and both belong to the commit. -/
def validateRecovery (commit : TranscriptProjectionCommitV1) : Outcome Unit :=
  match commit.checkpoint, commit.frontier with
  | some checkpoint, some frontier => do
    let recovery : TranscriptProjectionRecoveryV1 := ⟨checkpoint, frontier⟩
    recovery.validate
    ensure (checkpoint.sessionId == commit.sessionId &&
        checkpoint.projectionVersion == commit.projectionVersion &&
        checkpoint.projectionGeneration == commit.projectionGeneration &&
        checkpoint.sourceHighWater == commit.sourceHighWater)
      "transcript projection checkpoint binding mismatch"
    ensure (decide (recovery.toJson.size ≤ transcriptCheckpointMaxBytes))
      "transcript checkpoint exceeds maximum bytes"
  | none, none => pure ()
  | _, _ => fail "transcript projection checkpoint and frontier must be committed together"

def validate (commit : TranscriptProjectionCommitV1) : Outcome Unit := do
  requireIdentifier commit.commitId "transcript projection commitId"
  requireIdentifier commit.sessionId "transcript projection sessionId"
  ensure (commit.projectionVersion == transcriptProjectionVersionV1)
    "transcript projectionVersion is unsupported"
  requireIdentifier commit.projectionGeneration "transcript projectionGeneration"
  let expected ← parseDecimalU64 commit.expectedSourceHighWater
    "transcript projection expectedSourceHighWater"
  let sourceHighWater ← parseDecimalU64 commit.sourceHighWater
    "transcript projection sourceHighWater"
  ensure (!(sourceHighWater == 0 || decide (sourceHighWater ≤ expected)))
    "transcript projection sourceHighWater must advance"
  ensure (decide (commit.upserts.length ≤ transcriptProjectionSliceMaxEvents))
    "transcript projection commit exceeds maximum block changes"
  ensure (decide (commit.resumeCursors.length ≤ transcriptProjectionSliceMaxEvents))
    "transcript projection commit exceeds maximum resume cursors"
  ensure (!(commit.invalidationReason.isSome &&
      (!commit.upserts.isEmpty || commit.checkpoint.isSome || commit.frontier.isSome)))
    "invalidated transcript projection cannot commit blocks or a checkpoint"
  commit.invalidationReason.forM
    (requireIdentifier · "transcript projection invalidationReason")
  let _ ← commit.upserts.foldlM (scanUpsert sourceHighWater) ⟨[], ∅, 0⟩
  let _ ← commit.resumeCursors.foldlM scanCommitCursor []
  commit.validateRecovery
  ensure (decide (commit.toJson.size ≤ transcriptProjectionSliceMaxBytes))
    "transcript projection commit exceeds maximum serialized bytes"

/-- A commit as it is recorded: the recovery state is a slot at the head and no part of
    the history. -/
def durable (commit : TranscriptProjectionCommitV1) : TranscriptProjectionCommitV1 :=
  { commit with checkpoint := none, frontier := none }

end TranscriptProjectionCommitV1

inductive TranscriptProjectionCommitDispositionV1 where
  | applied
  | alreadyApplied
deriving DecidableEq

/-! ### Rotations -/

structure TranscriptProjectionGenerationRotationV1 where
  sessionId : String
  projectionVersion : String
  expectedCurrentGeneration : Option String
  nextGeneration : String
  targetSourceHighWater : String
deriving DecidableEq

namespace TranscriptProjectionGenerationRotationV1

/-- A rotation away from a generation goes to another one. -/
def validateExpected (rotation : TranscriptProjectionGenerationRotationV1) (expected : String) :
    Outcome Unit := do
  requireIdentifier expected "transcript generation rotation expectedCurrentGeneration"
  ensure (expected != rotation.nextGeneration)
    "transcript generation rotation must change generation"

def validate (rotation : TranscriptProjectionGenerationRotationV1) : Outcome Unit := do
  requireIdentifier rotation.sessionId "transcript generation rotation sessionId"
  ensure (rotation.projectionVersion == transcriptProjectionVersionV1)
    "transcript projectionVersion is unsupported"
  rotation.expectedCurrentGeneration.forM rotation.validateExpected
  requireIdentifier rotation.nextGeneration "transcript generation rotation nextGeneration"
  let _ ← parseDecimalU64 rotation.targetSourceHighWater
    "transcript generation rotation targetSourceHighWater"
  pure ()

end TranscriptProjectionGenerationRotationV1

inductive TranscriptProjectionGenerationRotationDispositionV1 where
  | applied
  | alreadyApplied
deriving DecidableEq

/-! ### Tables -/

/-- The number of non-negative `i64` values. -/
def i64Size : Nat := 2 ^ 63

def withoutPlus : List Char → List Char
  | '+' :: rest => rest
  | chars => chars

/-- A text that the standard library reads as a `u64`: digits, after a plus sign or not. -/
def parseU64? (value : String) : Option Nat :=
  let digits := withoutPlus value.toList
  if digits.isEmpty || !digits.all Char.isDigit then none
  else (some (Nat.ofDigitChars 10 digits 0)).filter (· < u64Size)

def decimalToI64 (value name : String) : Outcome Nat := do
  let number ← orFail (parseU64? value) ("transcript " ++ name ++ " is not a valid u64")
  ensure (decide (number < i64Size)) ("transcript " ++ name ++ " exceeds SQLite INTEGER range")
  pure number

/-- The key of a head. -/
structure GenerationKey where
  sessionId : String
  projectionVersion : String
  projectionGeneration : String
deriving DecidableEq

def TranscriptProjectionCommitV1.generation (commit : TranscriptProjectionCommitV1) :
    GenerationKey :=
  ⟨commit.sessionId, commit.projectionVersion, commit.projectionGeneration⟩

structure HeadRow where
  generation : GenerationKey
  sourceHighWater : Nat
  invalidationReason : Option String
deriving DecidableEq

structure CurrentGenerationRow where
  sessionId : String
  projectionVersion : String
  projectionGeneration : String
  sourceHighWater : Nat
deriving DecidableEq

def CurrentGenerationRow.session (row : CurrentGenerationRow) : String × String :=
  (row.sessionId, row.projectionVersion)

structure CurrentRecoveryRow where
  generation : GenerationKey
  sourceHighWater : Nat
  checkpoint : TranscriptProjectionCheckpointV1
  frontier : TranscriptProjectionFrontierV1
deriving DecidableEq

structure BlockIdentityRow where
  generation : GenerationKey
  blockId : String
  order : OrderPosition
deriving DecidableEq

def BlockIdentityRow.key (row : BlockIdentityRow) : GenerationKey × String :=
  (row.generation, row.blockId)

structure BlockVersionRow where
  generation : GenerationKey
  blockId : String
  appliedSourceSequence : Nat
  blockRevision : Nat
  block : TranscriptBlockV1
deriving DecidableEq

def BlockVersionRow.key (row : BlockVersionRow) : GenerationKey × String :=
  (row.generation, row.blockId)

structure ResumeCursorRow where
  generation : GenerationKey
  streamId : String
  sourceHighWater : Nat
  cursor : String
deriving DecidableEq

structure CommitRow where
  commitId : String
  generation : GenerationKey
  expectedSourceHighWater : Nat
  sourceHighWater : Nat
  commit : TranscriptProjectionCommitV1
deriving DecidableEq

/-- The tables. -/
structure SqliteRuntimeStore where
  heads : List HeadRow
  currentGenerations : List CurrentGenerationRow
  currentRecoveries : List CurrentRecoveryRow
  blockIdentities : List BlockIdentityRow
  blockVersions : List BlockVersionRow
  resumeCursors : List ResumeCursorRow
  commits : List CommitRow
deriving DecidableEq

/-- How SQLite reports that a uniqueness constraint is violated. -/
def uniqueFailed (table : String) (columns : List String) : String :=
  "UNIQUE constraint failed: " ++ ", ".intercalate (columns.map fun column => table ++ "." ++ column)

def generationColumns : List String := ["session_id", "projection_version", "projection_generation"]

namespace SqliteRuntimeStore

def empty : SqliteRuntimeStore := ⟨[], [], [], [], [], [], []⟩

def head (store : SqliteRuntimeStore) (generation : GenerationKey) : Option HeadRow :=
  Rows.select HeadRow.generation store.heads generation

def blockIdentity (store : SqliteRuntimeStore) (generation : GenerationKey) (blockId : String) :
    Option BlockIdentityRow :=
  Rows.select BlockIdentityRow.key store.blockIdentities (generation, blockId)

def versionsOf (store : SqliteRuntimeStore) (generation : GenerationKey) (blockId : String) :
    List BlockVersionRow :=
  store.blockVersions.filter fun row => row.key == (generation, blockId)

def currentGeneration (store : SqliteRuntimeStore) (sessionId projectionVersion : String) :
    Option CurrentGenerationRow :=
  Rows.select CurrentGenerationRow.session store.currentGenerations (sessionId, projectionVersion)

def committed (store : SqliteRuntimeStore) (commitId : String) : Option CommitRow :=
  Rows.select CommitRow.commitId store.commits commitId

/-! ### Commits -/

/-- The head that a commit moves; the first commit of a generation makes it. -/
def openHead (store : SqliteRuntimeStore) (generation : GenerationKey) (expected : Nat) :
    Outcome SqliteRuntimeStore := do
  let (store, current) ← match store.head generation with
    | some head => match head.invalidationReason with
      | some reason => fail ("transcript projection is invalidated: " ++ reason)
      | none => pure (store, head.sourceHighWater)
    | none =>
      if expected = 0 then
        pure ({ store with heads := store.heads ++ [⟨generation, 0, none⟩] }, 0)
      else fail "transcript projection sourceHighWater conflict: projection head is missing"
  ensure (current == expected)
    ("transcript projection sourceHighWater conflict: expected " ++ expected.repr ++ ", actual " ++
      current.repr)
  pure store

/-- The first version of a block fixes its position. -/
def saveBlockIdentity (store : SqliteRuntimeStore) (generation : GenerationKey) (blockId : String)
    (order : OrderPosition) (applied : Nat) : Outcome SqliteRuntimeStore :=
  match store.blockIdentity generation blockId with
  | some existing => do
    ensure (existing.order == order) "transcript block orderKey changed across revisions"
    pure store
  | none => do
    ensure (applied == order.sequence)
      "transcript block first revision must be applied at its order sourceSequence"
    let row : BlockIdentityRow := ⟨generation, blockId, order⟩
    Rows.unique BlockIdentityRow.key ("save transcript block identity failed: " ++
        uniqueFailed "transcript_block_identities" (generationColumns ++ ["block_id"]))
      store.blockIdentities row
    Rows.unique (fun row => (row.generation, row.order)) ("save transcript block identity failed: " ++
        uniqueFailed "transcript_block_identities"
          (generationColumns ++ ["order_source_sequence", "order_ordinal"]))
      store.blockIdentities row
    pure { store with blockIdentities := store.blockIdentities ++ [row] }

def saveBlockVersion (commit : TranscriptProjectionCommitV1) (store : SqliteRuntimeStore)
    (item : TranscriptCommittedBlockV1) : Outcome SqliteRuntimeStore := do
  let applied ← decimalToI64 item.appliedSourceSequence "appliedSourceSequence"
  let orderSequence ← decimalToI64 item.block.orderKey.sourceSequence "order sourceSequence"
  let revision ← decimalToI64 item.block.blockRevision "blockRevision"
  let store ← store.saveBlockIdentity commit.generation item.block.blockId
    ⟨orderSequence, item.block.orderKey.ordinal⟩ applied
  let previous := Rows.latest BlockVersionRow.appliedSourceSequence
    (store.versionsOf commit.generation item.block.blockId)
  ensure (previous.all fun previous =>
      !(decide (applied ≤ previous.appliedSourceSequence) ||
        decide (revision ≤ previous.blockRevision)))
    "transcript block version is not increasing"
  let row : BlockVersionRow := ⟨commit.generation, item.block.blockId, applied, revision, item.block⟩
  Rows.unique (fun row => (row.key, row.appliedSourceSequence))
    ("save transcript block version failed: " ++ uniqueFailed "transcript_block_versions"
      (generationColumns ++ ["block_id", "applied_source_sequence"])) store.blockVersions row
  Rows.unique (fun row => (row.key, row.blockRevision))
    ("save transcript block version failed: " ++ uniqueFailed "transcript_block_versions"
      (generationColumns ++ ["block_id", "block_revision"])) store.blockVersions row
  pure { store with blockVersions := store.blockVersions ++ [row] }

def saveResumeCursor (generation : GenerationKey) (sourceHighWater : Nat)
    (store : SqliteRuntimeStore) (cursor : TranscriptResumeCursorV1) :
    Outcome SqliteRuntimeStore := do
  let row : ResumeCursorRow := ⟨generation, cursor.streamId, sourceHighWater, cursor.cursor⟩
  Rows.unique (fun row => (row.generation, row.streamId, row.sourceHighWater))
    ("save transcript resume cursor failed: " ++ uniqueFailed "transcript_resume_cursors"
      (generationColumns ++ ["stream_id", "source_high_water"])) store.resumeCursors row
  pure { store with resumeCursors := store.resumeCursors ++ [row] }

/-- The recovery of a commit takes the place of the earlier one. -/
def saveRecovery (commit : TranscriptProjectionCommitV1) (sourceHighWater : Nat)
    (store : SqliteRuntimeStore) : Outcome SqliteRuntimeStore :=
  match commit.checkpoint with
  | some checkpoint => do
    let frontier ← orPanic commit.frontier "validated checkpoint frontier pair"
    let generation : GenerationKey := ⟨checkpoint.sessionId, checkpoint.projectionVersion,
      checkpoint.projectionGeneration⟩
    pure { store with
      currentRecoveries := Rows.upsert CurrentRecoveryRow.generation store.currentRecoveries
        ⟨generation, sourceHighWater, checkpoint, frontier⟩ }
  | none => pure store

/-- The head is moved under the condition that it is still where it was. -/
def advanceHead (generation : GenerationKey) (expected sourceHighWater : Nat)
    (invalidationReason : Option String) (store : SqliteRuntimeStore) :
    Outcome SqliteRuntimeStore := do
  let condition (row : HeadRow) : Bool :=
    row.generation == generation && row.sourceHighWater == expected && row.invalidationReason.isNone
  ensure (store.heads.countP condition == 1)
    "transcript projection sourceHighWater conflict while committing"
  pure { store with
    heads := Rows.update store.heads condition fun row =>
      ⟨row.generation, sourceHighWater, invalidationReason⟩ }

def recordCommit (commit : TranscriptProjectionCommitV1) (expected sourceHighWater : Nat)
    (store : SqliteRuntimeStore) : Outcome SqliteRuntimeStore := do
  let row : CommitRow :=
    ⟨commit.commitId, commit.generation, expected, sourceHighWater, commit.durable⟩
  Rows.unique CommitRow.commitId ("record transcript projection commit failed: " ++
    uniqueFailed "transcript_projection_commits" ["commit_id"]) store.commits row
  pure { store with commits := store.commits ++ [row] }

/-- One commit. -/
def commitTranscriptProjection (store : SqliteRuntimeStore)
    (commit : TranscriptProjectionCommitV1) :
    Outcome (TranscriptProjectionCommitDispositionV1 × SqliteRuntimeStore) := do
  commit.validate
  let expected ← decimalToI64 commit.expectedSourceHighWater "expectedSourceHighWater"
  let sourceHighWater ← decimalToI64 commit.sourceHighWater "sourceHighWater"
  match store.committed commit.commitId with
  | some existing =>
    if existing.commit = commit.durable then pure (.alreadyApplied, store)
    else fail ("transcript projection commitId conflict: " ++ commit.commitId)
  | none => do
    let store ← store.openHead commit.generation expected
    let store ← commit.upserts.foldlM (saveBlockVersion commit) store
    let store ← commit.resumeCursors.foldlM (saveResumeCursor commit.generation sourceHighWater)
      store
    let store ← store.saveRecovery commit sourceHighWater
    let store ← store.advanceHead commit.generation expected sourceHighWater
      commit.invalidationReason
    let store ← store.recordCommit commit expected sourceHighWater
    pure (.applied, store)

/-! ### Rotations -/

/-- The pointer is set when there is none, and moved when it is where it is expected. -/
def moveCurrentGeneration (store : SqliteRuntimeStore)
    (rotation : TranscriptProjectionGenerationRotationV1) (target : Nat)
    (current : Option CurrentGenerationRow) : Outcome SqliteRuntimeStore :=
  match rotation.expectedCurrentGeneration, current with
  | none, none => do
    let row : CurrentGenerationRow :=
      ⟨rotation.sessionId, rotation.projectionVersion, rotation.nextGeneration, target⟩
    Rows.unique CurrentGenerationRow.session ("publish initial transcript generation failed: " ++
      uniqueFailed "transcript_projection_current_generations" ["session_id", "projection_version"])
      store.currentGenerations row
    pure { store with currentGenerations := store.currentGenerations ++ [row] }
  | some expected, some current => do
    ensure (expected == current.projectionGeneration)
      "transcript projection generation rotation conflict"
    let condition (row : CurrentGenerationRow) : Bool :=
      row.session == (rotation.sessionId, rotation.projectionVersion) &&
        row.projectionGeneration == expected
    ensure (store.currentGenerations.countP condition == 1)
      "transcript projection generation rotation conflict"
    pure { store with
      currentGenerations := Rows.update store.currentGenerations condition fun row =>
        ⟨row.sessionId, row.projectionVersion, rotation.nextGeneration, target⟩ }
  | _, _ => fail "transcript projection generation rotation conflict"

/-- One rotation. -/
def rotateCurrentTranscriptProjectionGeneration (store : SqliteRuntimeStore)
    (rotation : TranscriptProjectionGenerationRotationV1) :
    Outcome (TranscriptProjectionGenerationRotationDispositionV1 × SqliteRuntimeStore) := do
  rotation.validate
  let target ← decimalToI64 rotation.targetSourceHighWater "generation targetSourceHighWater"
  let next ← orFail
    (store.head ⟨rotation.sessionId, rotation.projectionVersion, rotation.nextGeneration⟩)
    "next transcript projection generation head is missing"
  ensure (next.sourceHighWater == target && next.invalidationReason.isNone)
    "next transcript projection generation is not complete and readable"
  let current := store.currentGeneration rotation.sessionId rotation.projectionVersion
  if current.any fun row =>
      row.projectionGeneration == rotation.nextGeneration && row.sourceHighWater == target then
    pure (.alreadyApplied, store)
  else do
    let store ← store.moveCurrentGeneration rotation target current
    pure (.applied, store)

end SqliteRuntimeStore

/-! ### Calls -/

inductive StoreCall where
  | commit (commit : TranscriptProjectionCommitV1)
  | rotate (rotation : TranscriptProjectionGenerationRotationV1)
deriving DecidableEq

namespace SqliteRuntimeStore

/-- Calls one after another, each in a transaction of its own, so that a call that fails leaves the
    tables as they were. -/
def perform (store : SqliteRuntimeStore) : StoreCall → SqliteRuntimeStore
  | .commit commit => match store.commitTranscriptProjection commit with
    | .ok (_, store') => store'
    | .error _ => store
  | .rotate rotation => match store.rotateCurrentTranscriptProjectionGeneration rotation with
    | .ok (_, store') => store'
    | .error _ => store

def run (calls : List StoreCall) : SqliteRuntimeStore := calls.foldl perform empty

end SqliteRuntimeStore

end Centaeris
