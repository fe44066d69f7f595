import Centaeris.Foundation.Loops
import Centaeris.Session.Wire
import Centaeris.Transcript.Projector

namespace Centaeris

open Foundation ActiveTombstoneLedger Outcome Json List

/-!
# Which history is hidden

Three readers of a session log decide which records a tombstone has made inactive, each
from another part of the line.

The last two ask more of the envelope than the shape of a record does.  A record is
`Addressed` when its turn and its run are not blank, and `Dated` when its time is not
negative; `tombstone_deciders_agree_iff` says that the three agree on a log exactly when
every record of it is both.
-/

variable (ct : PayloadContracts) (wireErrors : WireErrors)

/-! ### The envelope of a line -/

/-- The check of a turn or a run of a line. -/
def checkOptionalIdentity (members : Payload) (name : String) : Outcome Unit :=
  match members.lookup name with
  | none | some .null => pure ()
  | some value => do
    let text ← orFail value.asString?
      ("session event envelope " ++ name ++ " must be a string")
    ensure (!isBlank text) ("session event envelope " ++ name ++ " must not be empty")

def rejectUnknownKeys (members : Payload) (allowed : List String) (context : String) :
    Outcome Unit :=
  match members.find? fun member => !allowed.contains member.1 with
  | some member => fail (context ++ " contains unknown field: " ++ member.1)
  | none => pure ()

/-- A text that the envelope must have. -/
def requiredEnvelopeString (members : Payload) (name : String) : Outcome String :=
  orFail ((members.lookup name).bind Json.asString?)
    ("session event envelope " ++ name ++ " must be a string")

def parseTranscriptProjectionSourceEnvelope (value : Json) :
    Outcome TranscriptProjectionSourceEnvelopeV1 := do
  let members ← orFail value.asObject? "session record wire must be an object"
  rejectUnknownKeys members wireFields "session record wire"
  let sequence ← orFail ((members.lookup "sequence").bind Json.asU64?)
    "session record wire sequence must be a u64"
  checkOptionalIdentity members "turnId"
  checkOptionalIdentity members "agentRunId"
  let createdAtMs ← orFail ((members.lookup "createdAtMs").bind asI64?)
    "session event envelope createdAtMs must be an i64"
  ensure (decide (0 ≤ createdAtMs)) "session event envelope createdAtMs must not be negative"
  ensure ((members.lookup "payload").any Json.isObject)
    "session event envelope payload must be an object"
  let typeValue ← orFail (members.lookup "type") "session event envelope type is required"
  let eventType ← orFail (decodeRecordType? typeValue)
    ("session event envelope type is unsupported: " ++ wireErrors typeValue)
  let schemaVersion ← requiredEnvelopeString members "schemaVersion"
  let eventVersion ← orFail ((members.lookup "eventVersion").bind asU32?)
    "session event envelope eventVersion must be a u32"
  let eventId ← requiredEnvelopeString members "eventId"
  let sid ← requiredEnvelopeString members "sessionId"
  let envelope : TranscriptProjectionSourceEnvelopeV1 :=
    ⟨.ofNat sequence, schemaVersion, eventVersion, eventType, eventId, sid⟩
  envelope.validate
  pure envelope

structure TranscriptRebuildLedgerFactV1 where
  envelope : TranscriptProjectionSourceEnvelopeV1
  tombstoneTargetEventIds : List String
deriving DecidableEq

/-- From the envelope of the line, and from the payload of a tombstone only. -/
def parseTranscriptRebuildLedgerFact (rawWire : Json) :
    Outcome TranscriptRebuildLedgerFactV1 := do
  let envelope ← parseTranscriptProjectionSourceEnvelope wireErrors rawWire
  if envelope.eventType = .tombstone then do
    let record ← parseWireRecord ct wireErrors rawWire
    let targets ← orPanic ((record.event.payload.get? "targetEventIds").bind Json.asArray?)
      "validated tombstone targetEventIds"
    let tombstoneTargetEventIds ← targets.mapM fun target =>
      orPanic target.asString? "validated tombstone target string"
    pure ⟨envelope, tombstoneTargetEventIds⟩
  else pure ⟨envelope, []⟩

/-- One line of the rebuild's first pass. -/
def applyRebuildLedgerFact (sid : String) (ledger : ActiveTombstoneLedger)
    (rawWire : Json) : Outcome ActiveTombstoneLedger := do
  let fact ← parseTranscriptRebuildLedgerFact ct wireErrors rawWire
  ledger.applyFact sid fact.envelope.eventId fact.envelope.sessionId
    fact.envelope.eventType fact.tombstoneTargetEventIds

/-! ### The recovery filter -/

structure SessionRecoveryFilter where
  sessionId : String
  ledger : ActiveTombstoneLedger

namespace SessionRecoveryFilter

def new (sid : String) : SessionRecoveryFilter := ⟨sid, .empty⟩

/-- The value of a field; a missing field reads as null. -/
def field (members : Payload) (name : String) : Json := (members.lookup name).getD .null

/-- The check of a turn or a run of a line. -/
def checkIdentity (members : Payload) (name : String) : Outcome Unit :=
  match members.lookup name with
  | none | some .null => pure ()
  | some value =>
    ensure (value.asString?.any fun text => !isBlank text)
      ("invalid Session recovery " ++ name)

/-- The targets of a line: only a tombstone has its payload read. -/
def targetsOf (eventType : SessionRecordType) (wire : Json) : Outcome (List String) :=
  if eventType = .tombstone then do
    let record ← parseWireRecord ct wireErrors wire
    let targets ← orFail ((record.event.payload.get? "targetEventIds").bind Json.asArray?)
      "invalid tombstone targets"
    targets.mapM fun value => orFail value.asString? "invalid tombstone target"
  else pure []

/-- From the raw fields of the line. -/
def pushWireEnvelope (filter : SessionRecoveryFilter) (wire : Json) :
    Outcome SessionRecoveryFilter := do
  let root ← orFail wire.asObject? "Session recovery envelope must be an object"
  ensure (root.all fun member => wireFields.contains member.1)
    "Session recovery envelope has unknown fields"
  ensure (field root "schemaVersion" == .string sessionEventSchemaVersion &&
      (field root "eventVersion").asU64? == some sessionEventVersion.toNat)
    "unsupported Session recovery envelope schema/version"
  ensure ((field root "sequence").asU64?.any (· != 0) &&
      (asI64? (field root "createdAtMs")).isSome && (field root "payload").isObject)
    "invalid Session recovery envelope fields"
  let eventId ← orFail ((field root "eventId").asString?.filter fun text =>
    !isBlank text && decide (text.utf8ByteSize ≤ sessionEventIdMaxBytes))
    "invalid Session recovery eventId"
  let sid ← orFail ((field root "sessionId").asString?.filter fun text => !isBlank text)
    "invalid Session recovery sessionId"
  checkIdentity root "agentRunId"
  checkIdentity root "turnId"
  let eventType ← orFail (decodeRecordType? (field root "type"))
    ("unsupported Session recovery type: " ++ wireErrors (field root "type"))
  let targets ← targetsOf ct wireErrors eventType wire
  let ledger ← filter.ledger.applyFact filter.sessionId eventId sid eventType targets
  pure { filter with ledger := ledger }

def isInactive (filter : SessionRecoveryFilter) (eventId : String) : Bool :=
  filter.ledger.isInactive eventId

end SessionRecoveryFilter

/-! ### What the envelopes ask for -/

namespace SessionLogRecord

structure Addressed (event : SessionLogRecord) : Prop where
  turn : ∀ text ∈ event.turnId, isBlank text = false
  run : ∀ text ∈ event.agentRunId, isBlank text = false

def Dated (event : SessionLogRecord) : Prop := 0 ≤ event.createdAtMs

end SessionLogRecord

variable {ct wireErrors}

section Line

variable {members : Payload} {name : String} {identity : Option String}

theorem checkOptionalIdentity_eq_ok (h : optionalText? members name = some identity) :
    checkOptionalIdentity members name = .ok () ↔ ∀ text ∈ identity, isBlank text = false := by
  unfold checkOptionalIdentity
  obtain ⟨hmissing | hnull, rfl⟩ | ⟨text, htext, rfl⟩ := optionalText?_cases h
  · simp [hmissing]
  · simp [hnull]
  · simp [htext, asString?]

theorem checkIdentity_eq_ok (h : optionalText? members name = some identity) :
    SessionRecoveryFilter.checkIdentity members name = .ok () ↔
      ∀ text ∈ identity, isBlank text = false := by
  unfold SessionRecoveryFilter.checkIdentity
  obtain ⟨hmissing | hnull, rfl⟩ | ⟨text, htext, rfl⟩ := optionalText?_cases h
  · simp [hmissing]
  · simp [hnull]
  · simp [htext, asString?]

theorem rejectUnknownKeys_eq_ok {allowed : List String} {context : String} :
    rejectUnknownKeys members allowed context = .ok () ↔
      ∀ member ∈ members, allowed.contains member.1 = true := by
  unfold rejectUnknownKeys
  cases hfd : members.find? fun member => !allowed.contains member.1 with
  | some member =>
    have hbad := find?_some hfd
    simp only [fail_ne_ok, false_iff, not_forall]
    exact ⟨member, mem_of_find?_eq_some hfd, by simpa using hbad⟩
  | none =>
    simp only [pure_eq_ok, true_iff]
    intro member hm
    simpa using find?_eq_none.mp hfd member hm

end Line

def SessionRecordWireV1.envelope (wire : SessionRecordWireV1) :
    TranscriptProjectionSourceEnvelopeV1 :=
  ⟨wire.sequence, wire.schemaVersion, wire.eventVersion, wire.eventType, wire.eventId,
    wire.sessionId⟩

/-- The envelope checks that the shape of a record implies. -/
structure EnvelopeShape (event : SessionLogRecord) : Prop where
  version : event.eventVersion = event.eventType.eventVersion
  schema : event.schemaVersion = sessionEventSchemaVersion
  eventId : isBlank event.eventId = false
  eventIdSize : event.eventId.utf8ByteSize ≤ sessionEventIdMaxBytes
  sessionId : isBlank event.sessionId = false
  payload : event.payload.isObject = true

variable {event : SessionLogRecord}

theorem envelopeShape_of_shape (h : validateEventShape ct event = .ok ()) :
    EnvelopeShape event := by
  obtain ⟨payload, hpay⟩ := payload_isObject_of_shape ct h
  simp only [validateEventShape, ok_rules, bool_rules] at h
  obtain ⟨hversion, hschema, hid, hsize, hses, -⟩ := h
  exact ⟨hversion, hschema, hid, hsize, hses, by rw [hpay]; rfl⟩

section Deciders

variable {members : Payload} {wire : SessionRecordWireV1}

theorem parseTranscriptProjectionSourceEnvelope_eq_ok_iff (hread : wire.ReadFrom members)
    (hseq : wire.sequence ≠ 0) (hshp : EnvelopeShape wire.record)
    {envelope : TranscriptProjectionSourceEnvelopeV1} :
    parseTranscriptProjectionSourceEnvelope wireErrors (.object members) = .ok envelope ↔
      (wire.record.Addressed ∧ wire.record.Dated) ∧ envelope = wire.envelope := by
  obtain ⟨typeValue, hty, hdecoded⟩ := Option.bind_eq_some_iff.mp hread.eventType
  have hpay : (members.lookup "payload").any isObject = true := by
    rw [hread.payload, Option.any_some]
    exact hshp.payload
  have hval : wire.envelope.validate = .ok () := by
    simp only [TranscriptProjectionSourceEnvelopeV1.validate, ok_rules, bool_rules,
      requireIdentifier]
    exact ⟨hseq, hshp.schema, hshp.version, hshp.eventId, hshp.eventIdSize,
      hshp.sessionId⟩
  have hkn : rejectUnknownKeys members wireFields "session record wire" = .ok () :=
    rejectUnknownKeys_eq_ok.mpr hread.known
  simp only [parseTranscriptProjectionSourceEnvelope, requiredEnvelopeString, ok_rules,
    asObject?, Option.some.injEq, exists_eq_left', hkn, true_and, hread.sequence,
    hread.createdAtMs, hread.schemaVersion, hread.eventVersion, hread.eventId, hread.sessionId,
    hty, hdecoded, hpay, checkOptionalIdentity_eq_ok hread.turnId,
    checkOptionalIdentity_eq_ok hread.agentRunId, Option.bind_some, asString?,
    decide_eq_true_eq, UInt64.ofNat_toNat]
  constructor
  · rintro ⟨hturn, hrun, hdated, -, rfl⟩
    exact ⟨⟨⟨hturn, hrun⟩, hdated⟩, rfl⟩
  · rintro ⟨⟨⟨hturn, hrun⟩, hdated⟩, rfl⟩
    exact ⟨hturn, hrun, hdated, hval, rfl⟩

variable {targets : List String}

theorem targetsOf_eq_ok_iff (hty : event.eventType = .tombstone)
    (hobject : event.payload.isObject = true) :
    targetsOf event = .ok targets ↔
      ∃ listed, (event.payload.get? "targetEventIds").bind asArray? = some listed ∧
        List.Forall₂ (fun value target => value.asString? = some target) listed targets := by
  cases hpay : event.payload with
  | object payload =>
    simp only [targetsOf, if_pos hty, payloadObject, requiredPayloadArray, ok_rules, hpay,
      asObject?, Option.some.injEq, exists_eq_left', mapM_orFail_eq_ok_iff]
    rfl
  | _ => simp [hpay, isObject] at hobject

/-- Two readings of one list are the same. -/
theorem forall₂_asString?_unique {listed : List Json} {targets' : List String}
    (h : List.Forall₂ (fun value target => value.asString? = some target) listed targets)
    (h' : List.Forall₂ (fun value target => value.asString? = some target) listed targets') :
    targets' = targets := by
  induction h generalizing targets' with
  | nil =>
    cases h'
    rfl
  | cons hfst _ ih =>
    cases h' with
    | cons hfst' hrest' =>
      rw [Option.mem_unique hfst hfst', ih hrest']

variable {value : Json} {item : SequencedSessionRecord} {sid : String}
variable {ledger ledger' : ActiveTombstoneLedger}

theorem applyRebuildLedgerFact_eq_ok_iff
    (hparse : parseWireRecord ct wireErrors value = .ok item)
    (happly : apply ct ledger sid item.event = .ok ledger')
    (result : ActiveTombstoneLedger) :
    applyRebuildLedgerFact ct wireErrors sid ledger value = .ok result ↔
      (item.event.Addressed ∧ item.event.Dated) ∧ result = ledger' := by
  obtain ⟨wire, hwire, -, hseq, hshp, rfl⟩ := parseWireRecord_eq_ok_iff.mp hparse
  obtain ⟨members, rfl, hread⟩ := decodeSessionRecordWire?_eq_some.mp hwire
  have henvelope := envelopeShape_of_shape hshp
  simp only [apply, ok_rules] at happly
  obtain ⟨-, targets, htgts, hfact⟩ := happly
  -- the fact of an acceptable line carries the targets of its record
  have hreads : ∀ fact, parseTranscriptRebuildLedgerFact ct wireErrors
      (.object members) = .ok fact ↔ (wire.record.Addressed ∧ wire.record.Dated) ∧
        fact = ⟨wire.envelope, targets⟩ := by
    intro fact
    simp only [parseTranscriptRebuildLedgerFact, bind_eq_ok, and_assoc, exists_and_left,
      exists_eq_left, parseTranscriptProjectionSourceEnvelope_eq_ok_iff hread hseq henvelope]
    refine and_congr_right fun _ => and_congr_right fun _ => ?_
    by_cases hty : wire.record.eventType = .tombstone
    · obtain ⟨listed, hlist, hstrings⟩ :=
        (targetsOf_eq_ok_iff hty henvelope.payload).mp htgts
      have hbranch : wire.envelope.eventType = .tombstone := hty
      simp only [if_pos hbranch, hparse, ok_rules, Except.ok.injEq, exists_eq_left', hlist,
        Option.some.injEq, mapM_orPanic_eq_ok_iff]
      constructor
      · rintro ⟨found, hfd, rfl⟩
        rw [forall₂_asString?_unique hstrings hfd]
      · rintro rfl
        exact ⟨targets, hstrings, rfl⟩
    · have hbranch : ¬ wire.envelope.eventType = .tombstone := hty
      rw [targetsOf, if_neg hty, pure_eq_ok] at htgts
      rw [if_neg hbranch, pure_eq_ok, ← htgts]
      exact eq_comm
  simp only [applyRebuildLedgerFact, bind_eq_ok, hreads]
  constructor
  · rintro ⟨_, ⟨hgood, rfl⟩, hres⟩
    exact ⟨hgood, Except.ok.inj (hres.symm.trans hfact)⟩
  · rintro ⟨hgood, rfl⟩
    exact ⟨_, ⟨hgood, rfl⟩, hfact⟩

theorem pushWireEnvelope_eq_ok_iff (hparse : parseWireRecord ct wireErrors value = .ok item)
    (happly : apply ct ledger sid item.event = .ok ledger')
    (result : SessionRecoveryFilter) :
    SessionRecoveryFilter.pushWireEnvelope ct wireErrors ⟨sid, ledger⟩ value =
        .ok result ↔ item.event.Addressed ∧ result = ⟨sid, ledger'⟩ := by
  obtain ⟨wire, hwire, -, hseq, hshp, rfl⟩ := parseWireRecord_eq_ok_iff.mp hparse
  obtain ⟨members, rfl, hread⟩ := decodeSessionRecordWire?_eq_some.mp hwire
  have henvelope := envelopeShape_of_shape hshp
  simp only [apply, ok_rules] at happly
  obtain ⟨-, targets, htgts, hfact⟩ := happly
  -- each raw field reads as the field of the record
  have hfield : ∀ {β : Type} (name : String) (f : Json → Option β) (b : β),
      (members.lookup name).bind f = some b →
        f (SessionRecoveryFilter.field members name) = some b := by
    intro β name f b h
    obtain ⟨found, hfd, hvl⟩ := Option.bind_eq_some_iff.mp h
    rw [SessionRecoveryFilter.field, hfd]
    exact hvl
  have hkn : (members.all fun member => wireFields.contains member.1) = true :=
    all_eq_true.mpr hread.known
  have hschema : SessionRecoveryFilter.field members "schemaVersion" =
      .string sessionEventSchemaVersion := by
    rw [SessionRecoveryFilter.field, hread.schemaVersion, ← henvelope.schema]
    rfl
  have hversion : (SessionRecoveryFilter.field members "eventVersion").asU64? =
      some sessionEventVersion.toNat := by
    rw [hfield _ _ _ hread.eventVersion64]
    exact congrArg (fun version : UInt32 => some version.toNat) henvelope.version
  have hnumber := hfield _ _ _ hread.sequence
  have hcreated := hfield _ _ _ hread.createdAtMs
  have hpay : (SessionRecoveryFilter.field members "payload").isObject = true := by
    rw [SessionRecoveryFilter.field, hread.payload]
    exact henvelope.payload
  have hid : SessionRecoveryFilter.field members "eventId" = .string wire.eventId := by
    rw [SessionRecoveryFilter.field, hread.eventId]
    rfl
  have hses : SessionRecoveryFilter.field members "sessionId" = .string wire.sessionId := by
    rw [SessionRecoveryFilter.field, hread.sessionId]
    rfl
  have hty := hfield _ _ _ hread.eventType
  have hpositive : wire.sequence.toNat ≠ 0 := by
    intro hzero
    exact hseq (UInt64.toNat_inj.mp hzero)
  have hidFilter : (some wire.eventId).filter (fun text =>
      !isBlank text && decide (text.utf8ByteSize ≤ sessionEventIdMaxBytes)) =
        some wire.eventId := by
    have hblk : isBlank wire.eventId = false := henvelope.eventId
    have hsize : wire.eventId.utf8ByteSize ≤ sessionEventIdMaxBytes := henvelope.eventIdSize
    simp [Option.filter, hblk, hsize]
  have hsessionFilter : (some wire.sessionId).filter (fun text => !isBlank text) =
      some wire.sessionId := by
    have hblk : isBlank wire.sessionId = false := henvelope.sessionId
    simp [Option.filter, hblk]
  -- the targets are those of the record
  have htgts' : ∀ found, SessionRecoveryFilter.targetsOf ct wireErrors wire.eventType
      (.object members) = .ok found ↔ found = targets := by
    intro found
    unfold SessionRecoveryFilter.targetsOf
    by_cases hbranch : wire.eventType = .tombstone
    · obtain ⟨listed, hlist, hstrings⟩ :=
        (targetsOf_eq_ok_iff hbranch henvelope.payload).mp htgts
      simp only [if_pos hbranch, hparse, ok_rules, Except.ok.injEq, exists_eq_left', hlist,
        Option.some.injEq, mapM_orFail_eq_ok_iff]
      constructor
      · exact forall₂_asString?_unique hstrings
      · rintro rfl
        exact hstrings
    · have hbranch' : ¬ wire.record.eventType = .tombstone := hbranch
      rw [targetsOf, if_neg hbranch', pure_eq_ok] at htgts
      rw [if_neg hbranch, pure_eq_ok, ← htgts]
      exact eq_comm
  have hfields : (Option.any (fun x => x != 0) (some wire.sequence.toNat) &&
      (some wire.createdAtMs).isSome && true) = true := by
    simp [hpositive]
  simp only [SessionRecoveryFilter.pushWireEnvelope, ok_rules, asObject?, Option.some.injEq,
    exists_eq_left', hkn, true_and, hschema, hversion, hnumber, hcreated, hpay, hid,
    hses, hty, checkIdentity_eq_ok hread.turnId, checkIdentity_eq_ok hread.agentRunId,
    asString?, htgts', exists_eq_left, hidFilter, hsessionFilter, hfields, beq_self_eq_true,
    Bool.and_self]
  constructor
  · rintro ⟨hrun, hturn, found, hfd, rfl⟩
    exact ⟨⟨hturn, hrun⟩, by rw [Except.ok.inj (hfd.symm.trans hfact)]⟩
  · rintro ⟨⟨hturn, hrun⟩, rfl⟩
    exact ⟨hrun, hturn, ledger', hfact, rfl⟩

end Deciders

/-! ### Whole logs -/

variable {wires : List Json} {items : List SequencedSessionRecord} {sid : String}
  {targets : Finset String}

/-- **Agreement.** A log whose lines are records with decided inactive ids is accepted by the
    rebuild and by the recovery filter, with the same inactive ids, exactly when every record
    of it is addressed and dated. -/
theorem tombstone_deciders_agree_iff
    (hparse : wires.mapM (parseWireRecord ct wireErrors) = .ok items)
    (htgts : activeTombstoneTargets ct sid (items.map (·.event)) = .ok targets) :
    (∃ ledger filter,
      wires.foldlM (applyRebuildLedgerFact ct wireErrors sid) .empty = .ok ledger ∧
      wires.foldlM (SessionRecoveryFilter.pushWireEnvelope ct wireErrors)
        (.new sid) = .ok filter ∧
      ∀ eventId, (ledger.isInactive eventId = true ↔ eventId ∈ targets) ∧
        (filter.isInactive eventId = true ↔ eventId ∈ targets)) ↔
      ∀ item ∈ items, item.event.Addressed ∧ item.event.Dated := by
  simp only [activeTombstoneTargets, foldlM_map, ok_rules] at htgts
  obtain ⟨ledger, hled, rfl⟩ := htgts
  have hlines := mapM_eq_ok_iff.mp hparse
  -- both readers follow the ledger of the records line by line
  have hrebuild : ∀ found,
      wires.foldlM (applyRebuildLedgerFact ct wireErrors sid) .empty = .ok found ↔
        (∀ item ∈ items, item.event.Addressed ∧ item.event.Dated) ∧ found = ledger :=
    foldlM_guarded_iff id (fun wire item => parseWireRecord ct wireErrors wire = .ok item)
      (fun item => item.event.Addressed ∧ item.event.Dated)
      (fun _ _ _ _ hline hstep => applyRebuildLedgerFact_eq_ok_iff hline hstep) hlines hled
  have hfilter : ∀ found,
      wires.foldlM (SessionRecoveryFilter.pushWireEnvelope ct wireErrors)
        (.new sid) = .ok found ↔
        (∀ item ∈ items, item.event.Addressed) ∧ found = ⟨sid, ledger⟩ :=
    foldlM_guarded_iff (SessionRecoveryFilter.mk sid)
      (fun wire item => parseWireRecord ct wireErrors wire = .ok item)
      (fun item => item.event.Addressed)
      (fun _ _ _ _ hline hstep => pushWireEnvelope_eq_ok_iff hline hstep) hlines hled
  constructor
  · rintro ⟨found, -, hfd, -⟩
    exact ((hrebuild found).mp hfd).1
  · intro hall
    refine ⟨ledger, ⟨sid, ledger⟩, (hrebuild ledger).mpr ⟨hall, rfl⟩,
      (hfilter ⟨sid, ledger⟩).mpr ⟨fun item hm => (hall item hm).1, rfl⟩, ?_⟩
    intro eventId
    simp only [SessionRecoveryFilter.isInactive, ActiveTombstoneLedger.isInactive,
      decide_eq_true_eq, and_self]

def tombstoneRecord (sequence : UInt64) (target : String) : SequencedSessionRecord :=
  sampleRecord sequence .tombstone (.object [("tombstoneId", .string "x"),
    ("targetEventIds", .array [.string target]), ("reasonType", .string "rewrite")])

def linesOf (items : List SequencedSessionRecord) : List Json :=
  items.filterMap fun item => (wireRecordValue toolContracts item).toOption

/-- A message and its tombstone. -/
def hiddenLog : List SequencedSessionRecord :=
  [userMessageRecord 1 "m" "hello", tombstoneRecord 2 "e1"]

/-- A message from before the epoch. -/
def undatedLog : List SequencedSessionRecord :=
  [{ userMessageRecord 1 "m" "hello" with
      event := { (userMessageRecord 1 "m" "hello").event with createdAtMs := -1 } }]

theorem tombstone_deciders_agree_hidden :
    activeTombstoneTargets toolContracts "s" (hiddenLog.map (·.event)) = .ok {"e1"} ∧
      ∃ ledger filter,
        (linesOf hiddenLog).foldlM (applyRebuildLedgerFact toolContracts (fun _ => "") "s")
          .empty = .ok ledger ∧
        (linesOf hiddenLog).foldlM
          (SessionRecoveryFilter.pushWireEnvelope toolContracts (fun _ => "")) (.new "s") =
            .ok filter ∧
        ∀ eventId, (ledger.isInactive eventId = true ↔ eventId ∈ ({"e1"} : Finset String)) ∧
          (filter.isInactive eventId = true ↔ eventId ∈ ({"e1"} : Finset String)) := by
  have hparse : (linesOf hiddenLog).mapM (parseWireRecord toolContracts (fun _ => "")) =
      .ok hiddenLog := by decide
  have htgts : activeTombstoneTargets toolContracts "s" (hiddenLog.map (·.event)) =
      .ok {"e1"} := by decide
  refine ⟨htgts, (tombstone_deciders_agree_iff hparse htgts).mpr ?_⟩
  intro item hm
  simp only [hiddenLog, mem_cons, not_mem_nil, or_false] at hm
  obtain rfl | rfl := hm
  · exact ⟨⟨by decide, by decide⟩, le_refl (0 : Int)⟩
  · exact ⟨⟨by decide, by decide⟩, le_refl (0 : Int)⟩

/-- A log that is accepted record by record, with no inactive id, and by the recovery
    filter, is refused by the rebuild. -/
theorem undated_record_refused :
    (linesOf undatedLog).mapM (parseWireRecord toolContracts (fun _ => "")) = .ok undatedLog ∧
      activeTombstoneTargets toolContracts "s" (undatedLog.map (·.event)) = .ok ∅ ∧
      ((linesOf undatedLog).foldlM
        (SessionRecoveryFilter.pushWireEnvelope toolContracts (fun _ => "")) (.new "s")).isOk ∧
      ((linesOf undatedLog).foldlM (applyRebuildLedgerFact toolContracts (fun _ => "") "s")
        .empty).map (·.targets) =
          .error (.err "session event envelope createdAtMs must not be negative") := by
  decide

end Centaeris
