import Centaeris.Foundation.JsonRead
import Centaeris.Foundation.JsonMembers
import Centaeris.Foundation.Loops
import Centaeris.Foundation.Table
import Centaeris.Session.Record

namespace Centaeris

open Foundation

/-!
# Stored observations of model requests

A session log does not keep the observations of a model request in its line.  They are files
of a directory beside the log, named by the digests of their texts.  A manifest
lists the observations of a request as changes to those of the request before.

The lines of the log are given by the values they hold.  The hash and the JSON reader are
parameters; texts are written by `Json.render`.
-/

/-- What the storage code takes from outside: the hash, the JSON reader and the file names. -/
structure ObservationCas where
  /-- The digest of a text, in lower-case hexadecimal digits. -/
  sha256Hex : String → String
  sha256Hex_valid : ∀ text, isLowerHex 64 (sha256Hex text) = true
  fromStr : String → Except String Json
  /-- The reader returns values whose doubles have the text of a double. -/
  fromStr_proper : ∀ text value, fromStr text = .ok value → value.proper = true
  /-- The stem and the extension of the log file. -/
  logStem : String
  logExtension : String
  /-- The directory of the stored observations, and how a missing file is reported. -/
  contentDirectory : String
  notFound : String

/-- The files of the directory by name. -/
abbrev ContentFiles := Table String String

structure ObservationContent where
  digest : String
  kind : String
  contentJson : String
deriving DecidableEq

structure ObservationReference where
  kind : String
  digest : String
deriving DecidableEq

structure ObservationChange where
  index : Nat
  reference : ObservationReference
deriving DecidableEq

structure ObservationManifest where
  digest : String
  parentDigest : Option String
  observationCount : Nat
  changes : List ObservationChange
  contentJson : String
deriving DecidableEq

def validKind (kind : String) : Bool :=
  ["system_prompt", "message", "input_image", "tool_catalog", "compaction_prompt"].contains kind

/-! ### Digests and file names -/

def contentDigestDomain : String := "centaeris.model_observation_content.v1\x00"
def manifestDigestDomain : String := "centaeris.model_observation_manifest.v1\x00"

/-- The digits of a digest. -/
def hexOf (digest : String) : String := stripLeading "sha256:" digest

def validateDigest (digest : String) : Outcome Unit :=
  ensure (isLowerHex 64 (hexOf digest)) "model observation content digest is invalid"

def contentFileName (digest : String) : String := hexOf digest ++ ".json"
def manifestFileName (digest : String) : String := "manifest-" ++ (hexOf digest ++ ".json")

section Storage

variable (cas : ObservationCas)

def validateSessionLogPath (sessionId : String) : Outcome Unit :=
  ensure (sessionId != "" &&
      (utf8Bytes sessionId).all (fun byte => (48 ≤ byte && byte ≤ 57) || (65 ≤ byte && byte ≤ 90) ||
        (97 ≤ byte && byte ≤ 122) || byte == 45 || byte == 95 || byte == 46) &&
      cas.logExtension == "jsonl" && cas.logStem == sessionId)
    ("Session log path does not match its validated sessionId: " ++ cas.logStem ++ "." ++
      cas.logExtension)

def digestContent (contentJson : String) : String :=
  "sha256:" ++ cas.sha256Hex (contentDigestDomain ++ contentJson)

def digestManifest (contentJson : String) : String :=
  "sha256:" ++ cas.sha256Hex (manifestDigestDomain ++ contentJson)

def readFile (files : ContentFiles) (name failed : String) : Outcome String :=
  orFail files[name]? (failed ++ ": " ++ cas.notFound)

/-- The text of a failed read of a stored file. -/
def readFailed (action name : String) : String :=
  action ++ " failed for " ++ cas.contentDirectory ++ "/" ++ name

/-! ### Contents -/

def observationContent (observation : Json) : Outcome ObservationContent := do
  ensure (observation.isObject && (observation.get? "contentDigest").isNone)
    "model observation storage payload is invalid"
  let kind ← orFail (((observation.get? "kind").bind Json.asString?).filter (validKind ·))
    "model observation storage kind is invalid"
  let contentJson := observation.render
  pure ⟨digestContent cas contentJson, kind, contentJson⟩

def decodeContent (digest contentJson : String) : Outcome ObservationContent := do
  validateDigest digest
  ensure (digestContent cas contentJson == digest)
    "stored model observation content digest mismatch"
  let value ← mapError (cas.fromStr contentJson) fun error =>
    "decode stored model observation content failed: " ++ error
  ensure (value.render == contentJson) "stored model observation content is not canonical JSON"
  let kind ← orFail (((value.get? "kind").bind Json.asString?).filter (validKind ·))
    "stored model observation content kind is invalid"
  ensure (value.isObject && (value.get? "contentDigest").isNone)
    "stored model observation content fields mismatch"
  pure ⟨digest, kind, contentJson⟩

/-! ### Manifests -/

def ObservationChange.toJson (change : ObservationChange) : Json :=
  .object [("contentDigest", .string change.reference.digest),
    ("index", .number (.posInt change.index)), ("kind", .string change.reference.kind)]

/-- The object of a manifest, with its keys in order. -/
def manifestJson (parentDigest : Option String) (observationCount : Nat)
    (changes : List ObservationChange) : Json :=
  .object [("changes", .array (changes.map ObservationChange.toJson)),
    ("observationCount", .number (.posInt observationCount)),
    ("parentDigest", (parentDigest.map Json.string).getD .null)]

/-- The references that differ from those of the parent, with their places. -/
def changesFrom (parent references : List ObservationReference) : List ObservationChange :=
  (references.zipIdx.filter fun entry => parent[entry.2]? != some entry.1).map fun entry =>
    ⟨entry.2, entry.1⟩

def buildManifest (parentDigest : Option String) (parent references : List ObservationReference) :
    ObservationManifest :=
  let changes := changesFrom parent references
  let contentJson := (manifestJson parentDigest references.length changes).render
  ⟨digestManifest cas contentJson, parentDigest, references.length, changes, contentJson⟩

/-- A member that must be there and of a kind. -/
def memberOf {α : Type} (object : List (String × Json)) (key : String) (read : Json → Option α)
    (message : String) : Outcome α :=
  orFail ((object.lookup key).bind read) message

/-- Whether an object has exactly the given keys. -/
def hasKeys (keys : List String) (object : List (String × Json)) : Bool :=
  object.all (fun member => keys.contains member.1) &&
    keys.all fun key => object.any fun member => member.1 == key

def decodeChange (observationCount : Nat) (previousIndex : Option Nat) (value : Json) :
    Outcome ObservationChange := do
  let object ← orFail value.asObject? "stored model observation manifest change is invalid"
  ensure (hasKeys ["contentDigest", "index", "kind"] object)
    "stored model observation manifest change fields mismatch"
  let index ← memberOf object "index" (fun value => value.asU64?.filter (· < observationCount))
    "stored model observation manifest change index is invalid"
  ensure (previousIndex.all (· < index))
    "stored model observation manifest changes are not ordered"
  let kind ← memberOf object "kind" (fun value => value.asString?.filter (validKind ·))
    "stored model observation manifest change kind is invalid"
  let digest ← memberOf object "contentDigest" Json.asString?
    "stored model observation manifest change contentDigest is invalid"
  validateDigest digest
  pure ⟨index, kind, digest⟩

def decodeChanges (observationCount : Nat) : Option Nat → List Json →
    Outcome (List ObservationChange)
  | _, [] => pure []
  | previousIndex, value :: values => do
    let change ← decodeChange observationCount previousIndex value
    let changes ← decodeChanges observationCount (some change.index) values
    pure (change :: changes)

def decodeParentDigest (digest : String) : Option Json → Outcome (Option String)
  | some .null => pure none
  | some (.string value) => do
    validateDigest value
    ensure (value != digest) "stored model observation manifest self-parent"
    pure (some value)
  | _ => fail "stored model observation manifest parentDigest is invalid"

def decodeManifest (digest contentJson : String) : Outcome ObservationManifest := do
  validateDigest digest
  ensure (digestManifest cas contentJson == digest)
    "stored model observation manifest digest mismatch"
  let value ← mapError (cas.fromStr contentJson) fun error =>
    "decode stored model observation manifest failed: " ++ error
  ensure (value.render == contentJson) "stored model observation manifest is not canonical JSON"
  let object ← orFail value.asObject? "stored model observation manifest is invalid"
  ensure (hasKeys ["changes", "observationCount", "parentDigest"] object)
    "stored model observation manifest fields mismatch"
  let parentDigest ← decodeParentDigest digest (object.lookup "parentDigest")
  let observationCount ← memberOf object "observationCount" Json.asU64?
    "stored model observation manifest count is invalid"
  let values ← memberOf object "changes" Json.asArray?
    "stored model observation manifest changes are invalid"
  let changes ← decodeChanges observationCount none values
  ensure (parentDigest.isSome || changes.zipIdx.all fun entry => entry.1.index == entry.2)
    "root model observation manifest append range has a hole"
  pure ⟨digest, parentDigest, observationCount, changes, contentJson⟩

def applyChange (references : List ObservationReference) (change : ObservationChange) :
    Outcome (List ObservationReference) :=
  if change.index < references.length then do
    ensure (references[change.index]? != some change.reference)
      "model observation manifest contains a redundant change"
    pure (references.set change.index change.reference)
  else do
    ensure (change.index == references.length)
      "model observation manifest append range has a hole"
    pure (references ++ [change.reference])

def applyManifest (manifest : ObservationManifest) (references : List ObservationReference) :
    Outcome (List ObservationReference) := do
  ensure (manifest.parentDigest.isSome || references.isEmpty)
    "root model observation manifest has a parent state"
  let references ← manifest.changes.foldlM applyChange (references.take manifest.observationCount)
  ensure (references.length == manifest.observationCount)
    "model observation manifest count mismatch"
  pure references

/-- The references of the manifests that were read before. -/
abbrev ManifestCache := Table String (List ObservationReference)

/-- The manifests from a digest back to a cached one or to the first, and the references that
    are known there.  No file is read twice, so the number of files bounds the steps. -/
def manifestChain (files : ContentFiles) (cache : ManifestCache) : Nat → List String →
    Option String → Outcome (List ObservationManifest × List ObservationReference)
  | _, _, none => pure ([], [])
  | 0, _, some _ => fail "stored model observation manifest parent cycle"
  | fuel + 1, visiting, some current =>
    match cache[current]? with
    | some references => pure ([], references)
    | none => do
      ensure (!visiting.contains current) "stored model observation manifest parent cycle"
      validateDigest current
      let raw ← readFile cas files (manifestFileName current)
        (readFailed cas "read model observation manifest" (manifestFileName current))
      let manifest ← decodeManifest cas current raw
      let (chain, references) ← manifestChain files cache fuel (current :: visiting)
        manifest.parentDigest
      pure (manifest :: chain, references)

def resolveManifestReferences (files : ContentFiles) (digest : String) (cache : ManifestCache) :
    Outcome (List ObservationReference × ManifestCache) := do
  validateDigest digest
  match cache[digest]? with
  | some references => pure (references, cache)
  | none => do
    let (chain, known) ← manifestChain cas files cache (files.size + 1) [] (some digest)
    let references ← chain.reverse.foldlM (fun references manifest =>
      applyManifest manifest references) known
    pure (references, cache.insert digest references)

/-! ### Lines of model requests -/

def isModelRequest (wire : Json) : Bool :=
  (wire.get? "type").bind Json.asString? == some "model_request_started"

def requireWireSession (wire : Json) (expectedSessionId : String) : Outcome Unit :=
  ensure ((wire.get? "sessionId").bind Json.asString? == some expectedSessionId)
    "stored model request sessionId mismatch"

/-- What a line has at `/payload/observations`. -/
def observationsOf (wire : Json) : Option Json :=
  (wire.get? "payload").bind (·.get? "observations")

/-- The line with another value there. -/
def withObservations (wire value : Json) : Json :=
  match wire, wire.get? "payload" with
  | .object members, some (.object payload) =>
    .object (Json.replaceMember "payload"
      (.object (Json.replaceMember "observations" value payload)) members)
  | wire, _ => wire

def observationManifestDigest (wire : Json) : Outcome String := do
  let object ← orFail ((observationsOf wire).bind Json.asObject?)
    "stored model request observation manifest is required"
  ensure (hasKeys ["manifestDigest"] object)
    "stored model request observation manifest fields mismatch"
  let digest ← memberOf object "manifestDigest" Json.asString?
    "stored model request observation manifestDigest is required"
  validateDigest digest
  pure digest

/-- The manifests that the lines of a log name. -/
def storedManifestDigests (sessionId : String) (log : List Json) : Outcome (List String) :=
  (log.filter isModelRequest).mapM fun wire => do
    requireWireSession wire sessionId
    observationManifestDigest wire

/-! ### Compaction -/

def newContents : List String → List ObservationContent → List ObservationContent
  | _, [] => []
  | known, content :: contents =>
    if known.contains content.digest then newContents known contents
    else content :: newContents (content.digest :: known) contents

def ObservationContent.reference (content : ObservationContent) : ObservationReference :=
  ⟨content.kind, content.digest⟩

def prepareObservationManifest (observations : List Json) (parentDigest : Option String)
    (parent : List ObservationReference) :
    Outcome (List ObservationContent × ObservationManifest × List ObservationReference) := do
  let contents ← observations.mapM (observationContent cas)
  let references := contents.map ObservationContent.reference
  pure (newContents (parent.map (·.digest)) contents,
    buildManifest cas parentDigest parent references, references)

/-- Adds a content to those that are to be stored. -/
def addContent (contents : Table String ObservationContent) (content : ObservationContent) :
    Outcome (Table String ObservationContent) :=
  match contents[content.digest]? with
  | some existing => do
    ensure (existing == content) "model observation content digest conflict"
    pure contents
  | none => pure (contents.insert content.digest content)

/-- Where the loop over the new lines stands. -/
structure CompactState where
  contents : Table String ObservationContent
  parentDigest : Option String
  parentReferences : List ObservationReference
  manifests : List ObservationManifest
  wires : List Json

def compactWire (sessionId : String) (state : CompactState) (wire : Json) :
    Outcome CompactState :=
  if isModelRequest wire then do
    requireWireSession wire sessionId
    let observations ← orFail ((observationsOf wire).bind Json.asArray?)
      "model request storage observations are required"
    let (added, manifest, references) ← prepareObservationManifest cas observations
      state.parentDigest state.parentReferences
    let contents ← added.foldlM addContent state.contents
    pure ⟨contents, some manifest.digest, references, state.manifests ++ [manifest],
      state.wires ++ [withObservations wire
        (.object [("manifestDigest", .string manifest.digest)])]⟩
  else pure { state with wires := state.wires ++ [wire] }

/-- A file to be stored, with the check of what is stored under its name. -/
structure Installation where
  name : String
  contentJson : String
  verify : String → Outcome Unit

def contentInstallation (expected : ObservationContent) : Installation where
  name := contentFileName expected.digest
  contentJson := expected.contentJson
  verify raw := do
    let stored ← decodeContent cas expected.digest raw
    ensure (stored == expected) "model observation content digest conflict"

def manifestInstallation (expected : ObservationManifest) : Installation where
  name := manifestFileName expected.digest
  contentJson := expected.contentJson
  verify raw := do
    let stored ← decodeManifest cas expected.digest raw
    ensure (stored == expected) "model observation manifest digest conflict"

/-- Writes a file that is not there yet. -/
def storeFile (files : ContentFiles) (file : Installation) : ContentFiles :=
  match files[file.name]? with
  | some _ => files
  | none => files.insert file.name file.contentJson

/-- Stores files one after the other and checks each; a file that is there is only checked. -/
def installAll : ContentFiles → List Installation → Outcome Unit × ContentFiles
  | files, [] => (pure (), files)
  | files, file :: rest =>
    match file.verify ((files[file.name]?).getD file.contentJson) with
    | .ok () => installAll (storeFile files file) rest
    | .error failure => (.error failure, storeFile files file)

/-- What the new lines need: where the loop starts, and where it ends. -/
def compactWires (sessionId : String) (log : List Json) (files : ContentFiles)
    (wires : List Json) : Outcome CompactState := do
  let digests ← storedManifestDigests sessionId log
  let parentReferences ← match digests.getLast? with
    | some digest => (·.1) <$> resolveManifestReferences cas files digest ∅
    | none => pure []
  wires.foldlM (compactWire cas sessionId) ⟨∅, digests.getLast?, parentReferences, [], []⟩

/-- The files of a compaction, in the order in which they are stored. -/
def CompactState.installations (state : CompactState) : List Installation :=
  state.contents.toList.map (fun entry => contentInstallation cas entry.2) ++
    state.manifests.map (manifestInstallation cas)

/-- The lines as they are stored, and the directory afterwards, also when the call fails. -/
def compactAndInstallWires (sessionId : String) (log : List Json) (files : ContentFiles)
    (wires : List Json) : Outcome (List Json) × ContentFiles :=
  match validateSessionLogPath cas sessionId with
  | .error failure => (.error failure, files)
  | .ok () =>
    if wires.any isModelRequest then
      match compactWires cas sessionId log files wires with
      | .error failure => (.error failure, files)
      | .ok state =>
        let (result, files') := installAll files (state.installations cas)
        (result.map fun _ => state.wires, files')
    else (.ok wires, files)

/-! ### Hydration -/

/-- What the lines need: the references of each manifest, and the kind of each content. -/
structure HydrateState where
  cache : ManifestCache
  referencesByRoot : Table String (List ObservationReference)
  requested : Table String String

/-- Adds a reference to what is needed. -/
def requestContent (requested : Table String String) (reference : ObservationReference) :
    Outcome (Table String String) :=
  match requested[reference.digest]? with
  | some existingKind => do
    ensure (existingKind == reference.kind) "stored model observation content kind conflict"
    pure requested
  | none => pure (requested.insert reference.digest reference.kind)

def requestWire (sessionId : String) (files : ContentFiles) (state : HydrateState)
    (wire : Json) : Outcome HydrateState :=
  if isModelRequest wire then do
    requireWireSession wire sessionId
    let root ← observationManifestDigest wire
    let (references, cache) ← resolveManifestReferences cas files root state.cache
    let requested ← references.foldlM requestContent state.requested
    pure ⟨cache, state.referencesByRoot.insert root references, requested⟩
  else pure state

def readContent (files : ContentFiles) (contents : Table String ObservationContent)
    (entry : String × String) : Outcome (Table String ObservationContent) := do
  validateDigest entry.1
  let raw ← readFile cas files (contentFileName entry.1)
    (readFailed cas "read model observation content" (contentFileName entry.1))
  let content ← decodeContent cas entry.1 raw
  ensure (content.kind == entry.2) "stored model observation content kind conflict"
  pure (contents.insert entry.1 content)

def hydrateReference (contents : Table String ObservationContent)
    (reference : ObservationReference) : Outcome Json := do
  let content ← orFail contents[reference.digest]? "stored model observation content is missing"
  ensure (content.kind == reference.kind) "stored model observation content binding mismatch"
  mapError (cas.fromStr content.contentJson) fun error =>
    "decode stored model observation content failed: " ++ error

def hydrateWire (state : HydrateState) (contents : Table String ObservationContent)
    (wire : Json) : Outcome Json :=
  if isModelRequest wire then do
    let root ← observationManifestDigest wire
    let references ← orFail state.referencesByRoot[root]?
      "stored model observation manifest is missing"
    let observations ← references.mapM (hydrateReference cas contents)
    pure (withObservations wire (.array observations))
  else pure wire

/-- Puts the observations back. -/
def hydrateWires (sessionId : String) (files : ContentFiles) (wires : List Json) :
    Outcome (List Json) := do
  validateSessionLogPath cas sessionId
  let state ← wires.foldlM (requestWire cas sessionId files) ⟨∅, ∅, ∅⟩
  if state.referencesByRoot.isEmpty then pure wires
  else do
    let contents ← state.requested.toList.foldlM (readContent cas files) ∅
    wires.mapM (hydrateWire cas state contents)

/-! ### Cleanup -/

/-- What the lines of a log need. -/
structure MarkState where
  cache : ManifestCache
  contents : List String
  manifests : List String

def markReference (files : ContentFiles) (marked : List String)
    (reference : ObservationReference) : Outcome (List String) := do
  if marked.contains reference.digest then pure marked
  else do
    validateDigest reference.digest
    let raw ← readFile cas files (contentFileName reference.digest)
      "read reachable model observation content failed"
    let content ← decodeContent cas reference.digest raw
    ensure (content.kind == reference.kind) "stored model observation content kind conflict"
    pure (reference.digest :: marked)

/-- Marks the manifests from a digest back to a marked one or to the first. -/
def markManifests (files : ContentFiles) : Nat → List String → Option String →
    Outcome (List String)
  | _, marked, none => pure marked
  | 0, marked, some _ => pure marked
  | fuel + 1, marked, some digest =>
    if marked.contains digest then pure marked
    else do
      validateDigest digest
      let raw ← readFile cas files (manifestFileName digest)
        "read reachable model observation manifest failed"
      let manifest ← decodeManifest cas digest raw
      markManifests files fuel (digest :: marked) manifest.parentDigest

def markRoot (files : ContentFiles) (state : MarkState) (root : String) : Outcome MarkState := do
  let (references, cache) ← resolveManifestReferences cas files root state.cache
  let contents ← references.foldlM (markReference cas files) state.contents
  let manifests ← markManifests cas files (files.size + 1) state.manifests (some root)
  pure ⟨cache, contents, manifests⟩

def between? (leading trailing text : String) : Option String :=
  let inner := (text.toList.drop leading.length).take
    (text.length - leading.length - trailing.length)
  if leading.toList ++ inner ++ trailing.toList = text.toList then some (String.ofList inner)
  else none

/-- Whether a file of the directory is needed by no line. -/
def isOrphan (state : MarkState) (name : String) : Outcome Bool :=
  if name.toList.head? == some '.' && ".tmp".toList.isSuffixOf name.toList then pure true
  else match between? "manifest-" ".json" name with
    | some hex => do
      ensure (isLowerHex 64 hex) "Session observation manifest filename is invalid"
      pure (!state.manifests.contains ("sha256:" ++ hex))
    | none =>
      match between? "" ".json" name with
      | some hex => do
        ensure (isLowerHex 64 hex) "Session observation content filename is invalid"
        pure (!state.contents.contains ("sha256:" ++ hex))
      | none => fail "Session observation CAS filename is invalid"

/-- Goes through the directory in the order in which it is listed. -/
def sweep (state : MarkState) : ContentFiles → List String → Outcome Unit × ContentFiles
  | files, [] => (pure (), files)
  | files, name :: names =>
    match isOrphan state name with
    | .error failure => (.error failure, files)
    | .ok true => sweep state (files.erase name) names
    | .ok false => sweep state files names

/-- Removes the files that no line needs. -/
def cleanupSessionContentDirectory (sessionId : String) (log : List Json) (files : ContentFiles)
    (listing : List String) : Outcome Unit × ContentFiles :=
  match storedManifestDigests sessionId log with
  | .error failure => (.error failure, files)
  | .ok roots =>
    if roots.isEmpty then (pure (), ∅)
    else match roots.foldlM (markRoot cas files) ⟨∅, [], []⟩ with
      | .error failure => (.error failure, files)
      | .ok state => sweep state files listing

end Storage

end Centaeris
