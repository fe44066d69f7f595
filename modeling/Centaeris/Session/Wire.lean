import Centaeris.Session.Log

namespace Centaeris

open Foundation SessionRecordType List

/-!
# Session records on the wire

A line of a session log is a flat JSON object.

Errors of the wire format carry their code in front, as they are displayed.
-/

/-! ### Record types by name -/

namespace SessionRecordType

/-- The record types in the order of the source. -/
def all : List SessionRecordType :=
  [sessionMeta, agentRunStarted, agentRunRecoveryAttempted, agentRunExecutionStarted,
    agentRunExecutionEnded, userMessage, hostEventInput, turnSupplement, assistantMessage,
    toolCall, toolResult, toolCallClosure, modelRequestStarted, reasoningBlock, providerUsage,
    phaseEvent, externalEvidenceRef, citationRecorded, artifactPublished, compaction,
    checkpointRef, tombstone, fileFact, agentRunCompleted, agentRunFailed, agentRunInterrupted]

def allowedTypeNames : List String := all.map asStr

/-- The record type that a name stands for. -/
def ofStr? (name : String) : Option SessionRecordType := all.find? (·.asStr == name)

variable {name : String} {eventType : SessionRecordType}

theorem ofStr?_eq_some :
    ofStr? name = some eventType ↔ eventType.asStr = name := by
  constructor
  · intro h
    have hname := find?_some h
    exact beq_iff_eq.mp hname
  · rintro rfl
    cases eventType <;> rfl

theorem mem_allowedTypeNames (h : ofStr? name = some eventType) :
    allowedTypeNames.contains name = true := by
  rw [ofStr?_eq_some] at h
  subst h
  cases eventType <;> rfl

end SessionRecordType

/-- The decoder derived for record types: a name, or the name as the only key of an object
    whose value is null. -/
def decodeRecordType? : Json → Option SessionRecordType
  | .string name => SessionRecordType.ofStr? name
  | .object [(name, .null)] => SessionRecordType.ofStr? name
  | _ => none

/-! ### The flat object -/

/-- The number of a signed integer of 64 bits. -/
def asI64? : Json → Option Int
  | .number (.posInt n) => if n < 2 ^ 63 then some n else none
  | .number (.negInt n) => if n < 2 ^ 63 then some (-(n + 1)) else none
  | _ => none

/-- The number of an unsigned integer of 32 bits. -/
def asU32? (value : Json) : Option UInt32 :=
  value.asU64?.bind fun n => if n < 2 ^ 32 then some (UInt32.ofNat n) else none

/-- The object with its fields read. -/
structure SessionRecordWireV1 where
  schemaVersion : String
  eventVersion : UInt32
  sequence : UInt64
  eventType : SessionRecordType
  eventId : String
  sessionId : String
  turnId : Option String
  agentRunId : Option String
  createdAtMs : Int
  payload : Json
deriving DecidableEq

/-- The names of the fields of a line. -/
def wireFields : List String :=
  ["schemaVersion", "eventVersion", "sequence", "type", "eventId", "sessionId", "turnId",
    "agentRunId", "createdAtMs", "payload"]

/-- A field that may be missing or null. -/
def optionalText? (members : Payload) (key : String) : Option (Option String) :=
  match members.lookup key with
  | none | some .null => some none
  | some (.string text) => some (some text)
  | some _ => none

/-- The fields of a line; no other field is allowed. -/
def decodeSessionRecordWire? (value : Json) : Option SessionRecordWireV1 := do
  let members ← value.asObject?
  guard (members.all fun member => wireFields.contains member.1)
  let schemaVersion ← (members.lookup "schemaVersion").bind Json.asString?
  let eventVersion ← (members.lookup "eventVersion").bind asU32?
  let sequence ← (members.lookup "sequence").bind Json.asU64?
  let eventType ← (members.lookup "type").bind decodeRecordType?
  let eventId ← (members.lookup "eventId").bind Json.asString?
  let sessionId ← (members.lookup "sessionId").bind Json.asString?
  let turnId ← optionalText? members "turnId"
  let agentRunId ← optionalText? members "agentRunId"
  let createdAtMs ← (members.lookup "createdAtMs").bind asI64?
  let payload ← members.lookup "payload"
  pure ⟨schemaVersion, eventVersion, .ofNat sequence, eventType, eventId, sessionId, turnId,
    agentRunId, createdAtMs, payload⟩

def SessionRecordWireV1.record (wire : SessionRecordWireV1) : SessionLogRecord :=
  ⟨wire.schemaVersion, wire.eventVersion, wire.eventType, wire.eventId, wire.sessionId,
    wire.turnId, wire.agentRunId, wire.createdAtMs, wire.payload⟩

/-! ### Parsing -/

def unsupportedText (message : String) : String := "unsupported_session_protocol: " ++ message
def corruptedText (message : String) : String := "corrupted_session: " ++ message

/-- An error of the shape checks, displayed as an error of the wire format. -/
def corruptedShape (result : Outcome Unit) : Outcome Unit :=
  match result with
  | .ok () => pure ()
  | .error (.err message) => fail (corruptedText message)
  | .error (.panicked message) => .error (.panicked message)

/-- What the derived decoder says about a line that it refuses. -/
abbrev WireErrors := Json → String

variable (contracts : PayloadContracts) (wireErrors : WireErrors)

/-- The record of a line, with the shape checks of its type (`parseWireRecord_eq_ok_iff` says what
    an accepted line says). -/
def parseWireRecord (value : Json) : Outcome SequencedSessionRecord := do
  let schema ← orFail ((value.get? "schemaVersion").bind Json.asString?)
    (corruptedText "record schemaVersion is required")
  ensure (schema == sessionEventSchemaVersion)
    (unsupportedText ("unsupported event schemaVersion: " ++ schema))
  let typeName ← orFail ((value.get? "type").bind Json.asString?)
    (corruptedText "record type is required")
  ensure (SessionRecordType.allowedTypeNames.contains typeName)
    (unsupportedText ("unsupported event type: " ++ typeName))
  let eventType ← orFail (SessionRecordType.ofStr? typeName)
    (corruptedText "decode event type failed")
  let eventVersion ← orFail ((value.get? "eventVersion").bind Json.asU64?)
    (corruptedText "record eventVersion is required")
  ensure (eventVersion == eventType.eventVersion.toNat)
    (unsupportedText ("unsupported " ++ eventType.asStr ++ " eventVersion: " ++
      eventVersion.repr))
  let wire ← orFail (decodeSessionRecordWire? value)
    (corruptedText ("decode session record failed: " ++ wireErrors value))
  ensure (wire.sequence != 0) (corruptedText "record sequence must be positive")
  corruptedShape (validateEventShape contracts wire.record)
  pure ⟨wire.sequence, wire.record⟩

/-- The line of a record (`parseWireRecord_wireRecordValue`: lines and records are the same, up to
    identities that are written as null). -/
def wireRecordValue (record : SequencedSessionRecord) : Outcome Json := do
  ensure (record.sequence != 0) (corruptedText "record sequence must be positive")
  corruptedShape (validateEventShape contracts record.event)
  let event := record.event
  pure (.object (
    (event.agentRunId.map fun run => ("agentRunId", Json.string run)).toList ++
    [("createdAtMs", .number (if event.createdAtMs < 0 then .negInt (-event.createdAtMs - 1).toNat
        else .posInt event.createdAtMs.toNat)),
      ("eventId", .string event.eventId),
      ("eventVersion", .number (.posInt event.eventVersion.toNat)),
      ("payload", event.payload),
      ("schemaVersion", .string event.schemaVersion),
      ("sequence", .number (.posInt record.sequence.toNat)),
      ("sessionId", .string event.sessionId)] ++
    (event.turnId.map fun turn => ("turnId", Json.string turn)).toList ++
    [("type", .string event.eventType.asStr)]))

/-! ### Accepted lines -/

variable {contracts wireErrors}

@[simp] theorem corruptedShape_eq_ok {result : Outcome Unit} :
    corruptedShape result = .ok () ↔ result = .ok () := by
  cases result with
  | ok u => simp [corruptedShape]
  | error e => cases e <;> simp [corruptedShape]

namespace SessionRecordWireV1

/-- The members of a line and what its fields are read from. -/
structure ReadFrom (wire : SessionRecordWireV1) (members : Payload) : Prop where
  known : ∀ member ∈ members, wireFields.contains member.1 = true
  schemaVersion : members.lookup "schemaVersion" = some (.string wire.schemaVersion)
  eventVersion : (members.lookup "eventVersion").bind asU32? = some wire.eventVersion
  sequence : (members.lookup "sequence").bind Json.asU64? = some wire.sequence.toNat
  eventType : (members.lookup "type").bind decodeRecordType? = some wire.eventType
  eventId : members.lookup "eventId" = some (.string wire.eventId)
  sessionId : members.lookup "sessionId" = some (.string wire.sessionId)
  turnId : optionalText? members "turnId" = some wire.turnId
  agentRunId : optionalText? members "agentRunId" = some wire.agentRunId
  createdAtMs : (members.lookup "createdAtMs").bind asI64? = some wire.createdAtMs
  payload : members.lookup "payload" = some wire.payload

end SessionRecordWireV1

variable {value : Json} {text : String}

theorem bind_asString?_eq_some {value : Option Json} :
    value.bind Json.asString? = some text ↔ value = some (.string text) := by
  cases value with
  | none => simp
  | some value => cases value <;> simp [Json.asString?]

variable {members : Payload}

theorem optionalText?_cases {key : String} {identity : Option String}
    (h : optionalText? members key = some identity) :
    ((members.lookup key = none ∨ members.lookup key = some .null) ∧ identity = none) ∨
      ∃ text, members.lookup key = some (.string text) ∧ identity = some text := by
  unfold optionalText? at h
  split at h
  · rename_i hmissing
    exact .inl ⟨.inl hmissing, (Option.some.inj h).symm⟩
  · rename_i hnull
    exact .inl ⟨.inr hnull, (Option.some.inj h).symm⟩
  · rename_i text htext
    exact .inr ⟨text, htext, (Option.some.inj h).symm⟩
  · cases h

theorem asU64?_eq_some {n : Nat} :
    value.asU64? = some n ↔ value = .number (.posInt n) ∧ n < 2 ^ 64 := by
  unfold Json.asU64?
  split <;> grind

variable {wire : SessionRecordWireV1}

/-- **Lines.** The decoder reads the fields of an object that has no others. -/
theorem decodeSessionRecordWire?_eq_some :
    decodeSessionRecordWire? value = some wire ↔
      ∃ members, value = .object members ∧ wire.ReadFrom members := by
  have hobject : ∀ members, value.asObject? = some members ↔ value = .object members := by
    intro members
    cases value <;> simp [Json.asObject?]
  simp only [decodeSessionRecordWire?, Option.bind_eq_bind, Option.bind_eq_some_iff,
    Option.pure_def, Option.some.injEq, hobject]
  constructor
  · rintro ⟨members, hvl, _, hkn, schemaVersion, hschema, eventVersion, hversion, sequence,
      hseq, eventType, hty, eventId, hid, sessionId, hses, turnId, hturn, agentRunId,
      hrun, createdAtMs, hcreated, payload, hpay, rfl⟩
    refine ⟨members, hvl, ?_, ?_, Option.bind_eq_some_iff.mpr hversion, ?_,
      Option.bind_eq_some_iff.mpr hty, ?_, ?_, hturn, hrun, Option.bind_eq_some_iff.mpr hcreated,
      hpay⟩
    · simpa [guard] using hkn
    · exact bind_asString?_eq_some.mp (Option.bind_eq_some_iff.mpr hschema)
    · -- the sequence fits into 64 bits
      obtain ⟨found, hfd, hnumber⟩ := hseq
      rw [hfd, Option.bind_some, hnumber]
      show some sequence = some (UInt64.ofNat sequence).toNat
      rw [UInt64.toNat_ofNat_of_lt' (asU64?_eq_some.mp hnumber).2]
    · exact bind_asString?_eq_some.mp (Option.bind_eq_some_iff.mpr hid)
    · exact bind_asString?_eq_some.mp (Option.bind_eq_some_iff.mpr hses)
  · rintro ⟨members, hvl, hread⟩
    have hkn : (members.all fun member => wireFields.contains member.1) = true :=
      all_eq_true.mpr hread.known
    refine ⟨members, hvl, (), if_pos hkn, wire.schemaVersion,
      ⟨_, hread.schemaVersion, rfl⟩, wire.eventVersion,
      Option.bind_eq_some_iff.mp hread.eventVersion, wire.sequence.toNat,
      Option.bind_eq_some_iff.mp hread.sequence, wire.eventType,
      Option.bind_eq_some_iff.mp hread.eventType, wire.eventId, ⟨_, hread.eventId, rfl⟩,
      wire.sessionId, ⟨_, hread.sessionId, rfl⟩, wire.turnId, hread.turnId, wire.agentRunId,
      hread.agentRunId, wire.createdAtMs, Option.bind_eq_some_iff.mp hread.createdAtMs,
      wire.payload, hread.payload, ?_⟩
    rw [UInt64.ofNat_toNat]

theorem SessionRecordWireV1.ReadFrom.eventVersion64 (hread : wire.ReadFrom members) :
    (members.lookup "eventVersion").bind Json.asU64? = some wire.eventVersion.toNat := by
  obtain ⟨found, hfd, hnumber⟩ := Option.bind_eq_some_iff.mp hread.eventVersion
  obtain ⟨n, hn, hlt⟩ := Option.bind_eq_some_iff.mp hnumber
  rw [hfd, Option.bind_some, hn]
  split at hlt
  · rename_i hbd
    rw [← Option.some.inj hlt, UInt32.toNat_ofNat_of_lt' hbd]
  · cases hlt

theorem parseWireRecord_eq_ok_iff {item : SequencedSessionRecord} :
    parseWireRecord contracts wireErrors value = .ok item ↔
      ∃ wire, decodeSessionRecordWire? value = some wire ∧
        value.get? "type" = some (.string wire.eventType.asStr) ∧ wire.sequence ≠ 0 ∧
        validateEventShape contracts wire.record = .ok () ∧
        item = ⟨wire.sequence, wire.record⟩ := by
  simp only [parseWireRecord, Outcome.ok_rules, bool_rules, ne_eq, corruptedShape_eq_ok]
  constructor
  · rintro ⟨schema, -, -, typeName, hname, -, eventType, hty, eventVersion, -, -, wire, hwire,
      hseq, hshp, rfl⟩
    refine ⟨wire, hwire, ?_, hseq, hshp, rfl⟩
    obtain ⟨members, rfl, hread⟩ := decodeSessionRecordWire?_eq_some.mp hwire
    have hsame : ((Json.object members).get? "type").bind decodeRecordType? =
      some wire.eventType := hread.eventType
    rw [bind_asString?_eq_some.mp hname] at hsame
    rw [ofStr?_eq_some.mp hsame]
    exact bind_asString?_eq_some.mp hname
  · rintro ⟨wire, hwire, hname, hseq, hshp, rfl⟩
    have hshp' := hshp
    simp only [validateEventShape, Outcome.ok_rules, beq_iff_eq] at hshp'
    obtain ⟨hversion, hschema, -⟩ := hshp'
    obtain ⟨members, rfl, hread⟩ := decodeSessionRecordWire?_eq_some.mp hwire
    have hty : ofStr? wire.eventType.asStr = some wire.eventType :=
      ofStr?_eq_some.mpr rfl
    refine ⟨wire.schemaVersion, bind_asString?_eq_some.mpr hread.schemaVersion, hschema, _,
      bind_asString?_eq_some.mpr hname, mem_allowedTypeNames hty,
      wire.eventType, hty, _, hread.eventVersion64, ?_, wire, hwire, hseq, hshp, rfl⟩
    exact congrArg UInt32.toNat hversion

/-! ### Round trip -/

/-- The keys of an object stand in order, each once, as in the map that holds them. -/
def KeysSorted : Json → Prop
  | .object members => members.Pairwise (fun a b => a.1 < b.1)
  | _ => True

/-- A line without the identities that are written as null. -/
def withoutNullIdentities : Json → Json
  | .object members => .object (members.filter fun member =>
      !((member.1 == "turnId" || member.1 == "agentRunId") && member.2 == .null))
  | value => value

theorem asU32?_eq_some {n : UInt32} :
    asU32? value = some n ↔ value = .number (.posInt n.toNat) := by
  simp only [asU32?, Option.bind_eq_some_iff, asU64?_eq_some]
  constructor
  · rintro ⟨m, ⟨rfl, -⟩, hm⟩
    split at hm
    · rename_i hlt
      rw [← Option.some.inj hm, UInt32.toNat_ofNat_of_lt' hlt]
    · cases hm
  · rintro rfl
    have hlt := n.toNat_lt
    exact ⟨n.toNat, ⟨rfl, by omega⟩, by rw [if_pos hlt, UInt32.ofNat_toNat]⟩

def timeNumber (t : Int) : Json :=
  .number (if t < 0 then .negInt (-t - 1).toNat else .posInt t.toNat)

theorem asI64?_eq_some {t : Int} :
    asI64? value = some t ↔ value = timeNumber t ∧ -2 ^ 63 ≤ t ∧ t < 2 ^ 63 := by
  unfold asI64? timeNumber
  split
  · grind
  · grind
  · rename_i hpos hneg
    constructor
    · intro h
      cases h
    · -- any time is written as a number of one of the two kinds
      rintro ⟨rfl, -⟩
      by_cases h : t < 0
      · exact (hneg _ (by rw [if_pos h])).elim
      · exact (hpos _ (by rw [if_neg h])).elim

theorem mem_of_lookup {key : String} {found : Json} (h : members.lookup key = some found) :
    (key, found) ∈ members := by
  obtain ⟨before, after, rfl, -⟩ := lookup_eq_some_iff.mp h
  simp

theorem lookup_of_mem (hsort : members.Pairwise (fun a b => a.1 < b.1)) {key : String}
    {found : Json} (h : (key, found) ∈ members) : members.lookup key = some found := by
  induction hsort with
  | nil => cases h
  | @cons head rest hhead _ ih =>
    rcases mem_cons.mp h with rfl | hrest
    · simp [List.lookup]
    · have hne : (key == head.1) = false := beq_false_of_ne (hhead _ hrest).ne'
      obtain ⟨k, v⟩ := head
      rw [List.lookup, hne]
      exact ih hrest

def wireMembers (record : SequencedSessionRecord) : Payload :=
  (record.event.agentRunId.map fun run => ("agentRunId", Json.string run)).toList ++
    [("createdAtMs", timeNumber record.event.createdAtMs),
      ("eventId", .string record.event.eventId),
      ("eventVersion", .number (.posInt record.event.eventVersion.toNat)),
      ("payload", record.event.payload),
      ("schemaVersion", .string record.event.schemaVersion),
      ("sequence", .number (.posInt record.sequence.toNat)),
      ("sessionId", .string record.event.sessionId)] ++
    (record.event.turnId.map fun turn => ("turnId", Json.string turn)).toList ++
    [("type", .string record.event.eventType.asStr)]

theorem wireRecordValue_eq_ok_iff {record : SequencedSessionRecord} :
    wireRecordValue contracts record = .ok value ↔
      record.sequence ≠ 0 ∧ validateEventShape contracts record.event = .ok () ∧
        .object (wireMembers record) = value := by
  simp only [wireRecordValue, Outcome.ok_rules, bne_iff_ne, corruptedShape_eq_ok, wireMembers,
    timeNumber]

theorem wireMembers_sorted (record : SequencedSessionRecord) :
    (wireMembers record).Pairwise (fun a b => a.1 < b.1) := by
  -- the keys are among those of a line with both identities
  refine pairwise_map.mp ?_
  unfold wireMembers
  cases record.event.turnId <;> cases record.event.agentRunId <;>
    dsimp <;> simp only [map_cons, map_nil] <;> decide +kernel

/-- The fields of a written line are those of its record. -/
theorem readFrom_wireMembers (record : SequencedSessionRecord)
    (hlow : -2 ^ 63 ≤ record.event.createdAtMs) (hhigh : record.event.createdAtMs < 2 ^ 63) :
    SessionRecordWireV1.ReadFrom ⟨record.event.schemaVersion, record.event.eventVersion,
      record.sequence, record.event.eventType, record.event.eventId, record.event.sessionId,
      record.event.turnId, record.event.agentRunId, record.event.createdAtMs,
      record.event.payload⟩ (wireMembers record) := by
  obtain ⟨sequence, schema, version, type, id, session, turn, run, created, payload⟩ := record
  have hcreated : asI64? (timeNumber created) = some created :=
    asI64?_eq_some.mpr ⟨rfl, hlow, hhigh⟩
  have hversion : asU32? (.number (.posInt version.toNat)) = some version := asU32?_eq_some.mpr rfl
  have hseq : Json.asU64? (.number (.posInt sequence.toNat)) = some sequence.toNat :=
    asU64?_eq_some.mpr ⟨rfl, sequence.toNat_lt⟩
  have hty : decodeRecordType? (.string type.asStr) = some type := ofStr?_eq_some.mpr rfl
  cases turn <;> cases run <;>
    constructor <;> simp_all [wireMembers, wireFields, List.lookup, optionalText?]

/-- The members of an accepted line, apart from null identities, are those that are written. -/
theorem SessionRecordWireV1.ReadFrom.mem_wireMembers (hread : wire.ReadFrom members)
    (hsort : members.Pairwise (fun a b => a.1 < b.1))
    (hname : members.lookup "type" = some (.string wire.eventType.asStr)) (member : String × Json) :
    member ∈ wireMembers ⟨wire.sequence, wire.record⟩ ↔ member ∈ members ∧
      ¬((member.1 = "turnId" ∨ member.1 = "agentRunId") ∧ member.2 = .null) := by
  obtain ⟨version, hversion, hversion'⟩ := Option.bind_eq_some_iff.mp hread.eventVersion
  obtain ⟨sequence, hseq, hseq'⟩ := Option.bind_eq_some_iff.mp hread.sequence
  obtain ⟨created, hcreated, hcreated'⟩ := Option.bind_eq_some_iff.mp hread.createdAtMs
  rw [asU32?_eq_some.mp hversion'] at hversion
  rw [(asU64?_eq_some.mp hseq').1] at hseq
  rw [(asI64?_eq_some.mp hcreated').1] at hcreated
  have hmem : ∀ key found, (key, found) ∈ members ↔ members.lookup key = some found :=
    fun key found => ⟨lookup_of_mem hsort, mem_of_lookup⟩
  obtain ⟨key, found⟩ := member
  rw [hmem]
  constructor
  · -- a written member was read from the line, and a null identity is not written
    intro h
    rcases optionalText?_cases hread.turnId with ⟨-, hturn⟩ | ⟨turn, hturn', hturn⟩ <;>
      rcases optionalText?_cases hread.agentRunId with ⟨-, hrun⟩ | ⟨run, hrun', hrun⟩ <;>
      simp [wireMembers, SessionRecordWireV1.record, hturn, hrun] at h <;>
      grind [hread.schemaVersion, hread.eventId, hread.sessionId, hread.payload]
  · -- a member of the line has one of the ten names, and its value was read
    rintro ⟨hfd, hnull⟩
    have hkn := hread.known _ (mem_of_lookup hfd)
    simp only [wireFields, contains_cons, bool_rules, contains_nil] at hkn
    rcases optionalText?_cases hread.turnId with ⟨hturn', hturn⟩ | ⟨turn, hturn', hturn⟩ <;>
      rcases optionalText?_cases hread.agentRunId with ⟨hrun', hrun⟩ | ⟨run, hrun', hrun⟩ <;>
      simp [wireMembers, SessionRecordWireV1.record, hturn, hrun] <;>
      rcases hkn with rfl | rfl | rfl | rfl | rfl | rfl | rfl | rfl | rfl | rfl | h <;>
      grind [hread.schemaVersion, hread.eventId, hread.sessionId, hread.payload]

/-- **Round trip.** Every record with a place and the shape of its type is written as a line
    that is read as this record. Every line that is read is written again as it was, without
    the identities that were null. The time is one of 64 bits. -/
theorem parseWireRecord_wireRecordValue (contracts : PayloadContracts) (wireErrors : WireErrors) :
    (∀ record : SequencedSessionRecord, record.sequence ≠ 0 →
      validateEventShape contracts record.event = .ok () →
      -2 ^ 63 ≤ record.event.createdAtMs → record.event.createdAtMs < 2 ^ 63 →
      ∃ value, wireRecordValue contracts record = .ok value ∧
        parseWireRecord contracts wireErrors value = .ok record) ∧
    ∀ value record, KeysSorted value → parseWireRecord contracts wireErrors value = .ok record →
      wireRecordValue contracts record = .ok (withoutNullIdentities value) := by
  constructor
  · intro record hseq hshp hlow hhigh
    refine ⟨_, wireRecordValue_eq_ok_iff.mpr ⟨hseq, hshp, rfl⟩, ?_⟩
    have hread := readFrom_wireMembers record hlow hhigh
    refine parseWireRecord_eq_ok_iff.mpr ⟨_, decodeSessionRecordWire?_eq_some.mpr ⟨_, rfl, hread⟩,
      ?_, hseq, hshp, rfl⟩
    exact lookup_of_mem (wireMembers_sorted record) (by simp [wireMembers])
  · intro value record hsort h
    obtain ⟨wire, hwire, hname, hseq, hshp, rfl⟩ := parseWireRecord_eq_ok_iff.mp h
    obtain ⟨members, rfl, hread⟩ := decodeSessionRecordWire?_eq_some.mp hwire
    refine wireRecordValue_eq_ok_iff.mpr ⟨hseq, hshp, congrArg Json.object ?_⟩
    refine Table.eq_of_strictly_sorted (wireMembers_sorted _) (hsort.filter _) ?_
    intro member
    rw [hread.mem_wireMembers hsort hname, mem_filter]
    simp only [bool_rules, ← Bool.not_eq_true]

/-- A message that names no run. -/
def looseMessage : SequencedSessionRecord :=
  { sequence := 1, event := { (userMessageRecord 1 "m" "hi").event with agentRunId := none } }

/-- The second line has a null in place of its run, which is not written again. -/
theorem parseWireRecord_wireRecordValue_userMessage :
    (∃ value, wireRecordValue toolContracts (userMessageRecord 1 "m" "hi") = .ok value ∧
      parseWireRecord toolContracts (fun _ => "") value = .ok (userMessageRecord 1 "m" "hi")) ∧
    wireRecordValue toolContracts looseMessage = .ok (withoutNullIdentities
      (.object (("agentRunId", .null) :: wireMembers looseMessage))) :=
  have h := parseWireRecord_wireRecordValue toolContracts (fun _ => "")
  ⟨h.1 _ (by decide) (by decide +kernel) (by decide) (by decide),
    h.2 _ _ (by unfold KeysSorted; decide +kernel) (by decide +kernel)⟩

end Centaeris
