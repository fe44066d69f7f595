import Centaeris.Foundation.JsonMembers
import Centaeris.Foundation.JsonRead
import Centaeris.Foundation.Utf8
import Centaeris.Session.Record

namespace Centaeris.FileSystemFrame

open Foundation List Outcome

/-!
# Frames of file system requests and results

The bytes of a file travel after a JSON header, with their length and digest in it.
-/

def filesystemFrameHeaderLimit : Nat := 1024 * 1024

def maxExecutionInputBytes : Nat := 64 * 1024 * 1024

def maxPublishedArtifactBytes : Nat := 64 * 1024 * 1024

variable {ρ ω ε : Type}

/-- A request or a result: the bytes of a write, or of a file that was read, and the rest. -/
structure FileSystemMessage (ρ : Type) where
  fields : ρ
  content : Option (List UInt8)
deriving DecidableEq

/-- A message that has a place for bytes, with these. -/
def FileSystemMessage.withContent (message : FileSystemMessage ρ) (bytes : List UInt8) :
    FileSystemMessage ρ :=
  { message with content := message.content.map fun _ => bytes }

/-- `FileSystemFrameMetadata` and `FileSystemResponseFrameMetadata`. -/
structure FrameMetadata (ρ : Type) where
  message : FileSystemMessage ρ
  contentLength : Nat
  contentDigest : String
deriving DecidableEq

/-- Digests, and the JSON text of a header, from which the header is read back. -/
structure FrameCodec (ρ : Type) where
  sha256Hex : List UInt8 → String
  sha256Hex_valid : ∀ bytes, isLowerHex 64 (sha256Hex bytes) = true
  toVec : FrameMetadata ρ → Option (List UInt8)
  fromSlice : List UInt8 → Option (FrameMetadata ρ)
  fromSlice_toVec : ∀ header text, toVec header = some text → fromSlice text = some header

/-- In what the checks of requests and of results differ. -/
structure FrameKind (ρ : Type) where
  complete : ρ → Bool
  maxBytes : Nat
  invalid : String

def requestKind : FrameKind ρ :=
  ⟨fun _ => true, maxExecutionInputBytes, "filesystem_frame_invalid"⟩

/-- A result has an output or an error, not both. -/
def resultKind : FrameKind (Option ω × Option ε) :=
  ⟨fun result => result.1.isSome != result.2.isSome, maxPublishedArtifactBytes,
    "filesystem_result_invalid"⟩

def validDigest (value : String) : Bool :=
  isLowerHex 64 (stripLeading "sha256:" value)

/-- `u32::to_be_bytes`. -/
def toBeBytes (n : Nat) : List UInt8 :=
  [.ofNat (n / 2 ^ 24), .ofNat (n / 2 ^ 16), .ofNat (n / 2 ^ 8), .ofNat n]

def fromBeBytes (bytes : List UInt8) : Nat :=
  bytes.foldl (fun value byte => value * 256 + byte.toNat) 0

def readExact (count : Nat) (bytes : List UInt8) : Outcome (List UInt8 × List UInt8) := do
  ensure (count ≤ bytes.length) "filesystem_frame_incomplete"
  return (bytes.take count, bytes.drop count)

/-- The content, after which nothing may follow. -/
def readContent (length : Nat) (bytes : List UInt8) : Outcome (List UInt8) := do
  let (content, rest) ← readExact length bytes
  ensure rest.isEmpty "filesystem_frame_trailing_bytes"
  return content

section Frames

variable (kind : FrameKind ρ) (codec : FrameCodec ρ)

def digest (bytes : List UInt8) : String := "sha256:" ++ codec.sha256Hex bytes

def validate (header : FrameMetadata ρ) : Outcome Unit := do
  ensure (kind.complete header.message.fields && header.contentLength ≤ kind.maxBytes &&
    validDigest header.contentDigest) kind.invalid
  match header.message.content with
  | some content => ensure content.isEmpty kind.invalid
  | none =>
    ensure (header.contentLength == 0 && header.contentDigest == digest codec []) kind.invalid

/-- The header of a message, whose bytes are taken out. -/
def fromMessage (message : FileSystemMessage ρ) : FrameMetadata ρ × List UInt8 :=
  let bytes := message.content.getD []
  (⟨message.withContent [], bytes.length, digest codec bytes⟩, bytes)

def checkContent (bytes : List UInt8) (length : Nat) (expected : String) : Outcome Unit :=
  ensure (bytes.length == length && digest codec bytes == expected)
    "filesystem_frame_content_mismatch"

/-- `into_request` and `into_result`. -/
def intoMessage (header : FrameMetadata ρ) (bytes : List UInt8) :
    Outcome (FileSystemMessage ρ) := do
  validate kind codec header
  checkContent codec bytes header.contentLength header.contentDigest
  return header.message.withContent bytes

def writeFrame (header : FrameMetadata ρ) (bytes : List UInt8) : Outcome (List UInt8) := do
  let text ← orFail (codec.toVec header) "filesystem_frame_invalid"
  ensure (text.length != 0 && text.length ≤ filesystemFrameHeaderLimit)
    "filesystem_frame_header_too_large"
  return toBeBytes text.length ++ text ++ bytes

def readHeader (bytes : List UInt8) : Outcome (FrameMetadata ρ × List UInt8) := do
  let (length, bytes) ← readExact 4 bytes
  ensure (fromBeBytes length != 0 && fromBeBytes length ≤ filesystemFrameHeaderLimit)
    "filesystem_frame_header_too_large"
  let (text, bytes) ← readExact (fromBeBytes length) bytes
  let header ← orFail (codec.fromSlice text) "filesystem_frame_invalid"
  return (header, bytes)

def readFilesystem (bytes : List UInt8) : Outcome (FileSystemMessage ρ) := do
  let (header, bytes) ← readHeader codec bytes
  validate kind codec header
  let bytes ← readContent header.contentLength bytes
  intoMessage kind codec header bytes

def readFilesystemRequest : List UInt8 → Outcome (FileSystemMessage ρ) :=
  readFilesystem requestKind codec

def writeFilesystemRequest (request : FileSystemMessage ρ) : Outcome (List UInt8) := do
  let (header, bytes) := fromMessage codec request
  validate requestKind codec header
  writeFrame codec header bytes

variable (codec' : FrameCodec (Option ω × Option ε))

def readFilesystemResult : List UInt8 → Outcome (FileSystemMessage (Option ω × Option ε)) :=
  readFilesystem resultKind codec'

/-- The header of a result is not validated as that of a request is. -/
def fromResult (result : FileSystemMessage (Option ω × Option ε)) :
    Outcome (FrameMetadata (Option ω × Option ε) × List UInt8) := do
  ensure (resultKind.complete result.fields) "filesystem_result_invalid"
  ensure ((result.content.getD []).length ≤ maxPublishedArtifactBytes) "filesystem_frame_invalid"
  return fromMessage codec' result

def writeFilesystemResult (result : FileSystemMessage (Option ω × Option ε)) :
    Outcome (List UInt8) := do
  let (header, bytes) ← fromResult codec' result
  writeFrame codec' header bytes

end Frames

/-- A frame from which a message is read, and nothing once it is damaged. -/
structure FrameSound (read : List UInt8 → Outcome (FileSystemMessage ρ))
    (sha256Hex : List UInt8 → String) (message : FileSystemMessage ρ) (frame : List UInt8) :
    Prop where
  reads : read frame = .ok message
  front : ∀ n < frame.length, ∀ other, read (frame.take n) ≠ .ok other
  more : ∀ extra ≠ [], ∀ other, read (frame ++ extra) ≠ .ok other
  changed : ∀ changed, changed.length = (message.content.getD []).length →
    sha256Hex changed ≠ sha256Hex (message.content.getD []) → ∀ other,
    read (frame.take (frame.length - (message.content.getD []).length) ++ changed) ≠ .ok other

section Sound

variable {kind : FrameKind ρ} {codec : FrameCodec ρ} {bytes content : List UInt8}
  {message : FileSystemMessage ρ}

theorem fromBeBytes_toBeBytes {n : Nat} (h : n ≤ filesystemFrameHeaderLimit) :
    fromBeBytes (toBeBytes n) = n := by
  simp only [filesystemFrameHeaderLimit] at h
  simp [fromBeBytes, toBeBytes]
  omega

theorem validDigest_digest (codec : FrameCodec ρ) (bytes : List UInt8) :
    validDigest (digest codec bytes) = true := by
  have hleading : "sha256:".toList.length = "sha256:".length := rfl
  simp [validDigest, digest, stripLeading, codec.sha256Hex_valid, ← hleading]

theorem readExact_eq_ok {count : Nat} {front rest : List UInt8} :
    readExact count bytes = .ok (front, rest) ↔ bytes = front ++ rest ∧ front.length = count := by
  simp only [readExact, ok_rules, decide_eq_true_eq, Prod.mk.injEq]
  constructor
  · rintro ⟨hle, rfl, rfl⟩
    exact ⟨(take_append_drop count bytes).symm, length_take_of_le hle⟩
  · rintro ⟨rfl, rfl⟩
    exact ⟨by simp, take_left, drop_left⟩

theorem readContent_eq_ok {length : Nat} :
    readContent length bytes = .ok content ↔ bytes = content ∧ content.length = length := by
  simp only [readContent, ok_rules, Prod.exists, readExact_eq_ok, List.isEmpty_iff]
  constructor
  · rintro ⟨front, rest, ⟨rfl, rfl⟩, rfl, rfl⟩
    exact ⟨append_nil front, rfl⟩
  · rintro ⟨rfl, hlen⟩
    exact ⟨bytes, [], ⟨(append_nil bytes).symm, hlen⟩, rfl, rfl⟩

/-- A header in bytes, after four bytes with its length. -/
def HeaderIn (codec : FrameCodec ρ) (length text : List UInt8) (header : FrameMetadata ρ) : Prop :=
  length.length = 4 ∧ text.length = fromBeBytes length ∧ text.length ≠ 0 ∧
    text.length ≤ filesystemFrameHeaderLimit ∧ codec.fromSlice text = some header

/-- What a frame that is read consists of. -/
theorem readFilesystem_eq_ok_iff : readFilesystem kind codec bytes = .ok message ↔
    ∃ length text content header, bytes = length ++ text ++ content ∧
      HeaderIn codec length text header ∧ validate kind codec header = .ok () ∧
      content.length = header.contentLength ∧ digest codec content = header.contentDigest ∧
      header.message.withContent content = message := by
  simp only [readFilesystem, readHeader, intoMessage, checkContent, ok_rules, bool_rules,
    Prod.exists, Prod.mk.injEq, readExact_eq_ok, readContent_eq_ok]
  constructor
  · rintro ⟨header, _, ⟨length, _, ⟨rfl, hfour⟩, ⟨hsome, hlim⟩, text, content, ⟨rfl, htext⟩, _,
      hheader, rfl, rfl⟩, hval, _, ⟨rfl, -⟩, -, ⟨hlen, hdig⟩, rfl⟩
    rw [← htext] at hsome hlim
    exact ⟨length, text, content, _, (append_assoc ..).symm,
      ⟨hfour, htext, hsome, hlim, hheader⟩, hval, hlen, hdig, rfl⟩
  · rintro ⟨length, text, content, header, rfl, ⟨hfour, htext, hsome, hlim, hheader⟩, hval,
      hlen, hdig, rfl⟩
    rw [htext] at hsome hlim
    exact ⟨header, content, ⟨length, _, ⟨append_assoc .., hfour⟩, ⟨hsome, hlim⟩, text, content,
      ⟨rfl, htext⟩, _, hheader, rfl, rfl⟩, hval, _, ⟨rfl, hlen⟩, hval, ⟨hlen, hdig⟩,
      rfl⟩

variable {length length' text text' content' : List UInt8} {header header' : FrameMetadata ρ}

/-- Bytes are a frame in one way only, and no frame is a front part of another one. -/
theorem parts_unique (h : HeaderIn codec length text header)
    (h' : HeaderIn codec length' text' header')
    (hbytes : length ++ text ++ content = length' ++ text' ++ content') :
    header = header' ∧ content = content' := by
  obtain ⟨hfour, htext, -, -, hheader⟩ := h
  obtain ⟨hfour', htext', -, -, hheader'⟩ := h'
  rw [append_assoc, append_assoc] at hbytes
  obtain ⟨rfl, hrest⟩ := append_inj hbytes (hfour.trans hfour'.symm)
  obtain ⟨rfl, hcon⟩ := append_inj hrest (htext.trans htext'.symm)
  exact ⟨Option.mem_unique hheader hheader', hcon⟩

/-- No frame is a proper front part of another one. -/
theorem eq_nil_of_read {extra : List UInt8} {other : FileSystemMessage ρ}
    (h : readFilesystem kind codec bytes = .ok message)
    (h' : readFilesystem kind codec (bytes ++ extra) = .ok other) : extra = [] := by
  obtain ⟨length, text, content, header, rfl, hheader, -, hlen, -⟩ :=
    readFilesystem_eq_ok_iff.mp h
  obtain ⟨_, _, _, _, hbytes, hheader', -, hlen', -⟩ := readFilesystem_eq_ok_iff.mp h'
  rw [append_assoc _ content] at hbytes
  obtain ⟨rfl, rfl⟩ := parts_unique hheader hheader' hbytes
  rw [length_append] at hlen'
  exact length_eq_zero_iff.mp (by omega)

/-- **Written frames.** -/
theorem frame_sound {frame : List UInt8} (hcomplete : kind.complete message.fields = true)
    (hsize : (message.content.getD []).length ≤ kind.maxBytes)
    (h : writeFrame codec (fromMessage codec message).1 (message.content.getD []) = .ok frame) :
    FrameSound (readFilesystem kind codec) codec.sha256Hex message frame := by
  simp only [writeFrame, ok_rules, bool_rules] at h
  obtain ⟨text, htext, ⟨hsome, hlim⟩, rfl⟩ := h
  have hheader : HeaderIn codec (toBeBytes text.length) text (fromMessage codec message).1 :=
    ⟨rfl, (fromBeBytes_toBeBytes hlim).symm, hsome, hlim, codec.fromSlice_toVec _ _ htext⟩
  have hval : validate kind codec (fromMessage codec message).1 = .ok () := by
    cases hcon : message.content <;>
      simp_all [validate, fromMessage, FileSystemMessage.withContent, validDigest_digest, ensure]
  have hsame : (message.withContent []).withContent (message.content.getD []) = message := by
    obtain ⟨fields, content⟩ := message
    cases content <;> rfl
  have hread : readFilesystem kind codec
      (toBeBytes text.length ++ text ++ message.content.getD []) = .ok message :=
    readFilesystem_eq_ok_iff.mpr ⟨_, _, _, _, rfl, hheader, hval, rfl, rfl, hsame⟩
  refine ⟨hread, ?_, ?_, ?_⟩
  · intro n hn other hok
    rw [← take_append_drop n (toBeBytes _ ++ text ++ _)] at hread
    have := drop_eq_nil_iff.mp (eq_nil_of_read hok hread)
    omega
  · intro extra hextra other hok
    exact hextra (eq_nil_of_read hread hok)
  · intro changed hlen hdiffers other hok
    rw [length_append, Nat.add_sub_cancel, take_left] at hok
    obtain ⟨_, _, _, _, hbytes, hheader', -, -, hdig, -⟩ := readFilesystem_eq_ok_iff.mp hok
    obtain ⟨rfl, rfl⟩ := parts_unique hheader hheader' hbytes
    exact hdiffers ((String.append_right_inj _).mp hdig)

end Sound

/-- **Frames round trip and reject damage.** A request or a result for which a frame is written is
    read back from it, and nothing is read from a proper front part of the frame, from the frame
    with more bytes after it, or from the frame with other content of the same length, unless its
    digest is that of the content. -/
theorem filesystem_frames_sound (codec : FrameCodec ρ)
    (codec' : FrameCodec (Option ω × Option ε)) :
    (∀ request frame, writeFilesystemRequest codec request = .ok frame →
      FrameSound (readFilesystemRequest codec) codec.sha256Hex request frame) ∧
    ∀ result frame, writeFilesystemResult codec' result = .ok frame →
      FrameSound (readFilesystemResult codec') codec'.sha256Hex result frame := by
  constructor
  · intro request frame h
    simp only [writeFilesystemRequest, validate, ok_rules, bool_rules] at h
    obtain ⟨⟨⟨⟨-, hsize⟩, -⟩, -⟩, hframe⟩ := h
    exact frame_sound rfl hsize hframe
  · intro result frame h
    simp only [writeFilesystemResult, fromResult, ok_rules, decide_eq_true_eq, Prod.exists] at h
    obtain ⟨_, _, ⟨hcomplete, hsize, hheader⟩, hframe⟩ := h
    cases hheader
    exact frame_sound hcomplete hsize hframe

/-! ### JSON headers -/

section JsonHeader

variable (encode : ρ → Json) (decode : Json → Option ρ)

def headerJson (header : FrameMetadata ρ) : Json :=
  .object [("content", jsonOption (fun _ => .array []) header.message.content),
    ("contentDigest", .string header.contentDigest),
    ("contentLength", .number (.posInt header.contentLength)),
    ("message", encode header.message.fields)]

def headerOfJson (value : Json) : Option (FrameMetadata ρ) := do
  let content ← value.get? "content"
  let contentDigest ← (value.get? "contentDigest").bind Json.asString?
  let contentLength ← (value.get? "contentLength").bind Json.asU64?
  let fields ← (value.get? "message").bind decode
  some ⟨⟨fields, content.asArray?.map fun _ => []⟩, contentLength, contentDigest⟩

/-- The text of a header from which the bytes are taken out. -/
def writeHeaderJson (header : FrameMetadata ρ) : Option (List UInt8) :=
  if header.message.content.getD [] = [] ∧ header.contentLength < 2 ^ 64 then
    some (utf8Bytes (headerJson encode header).render)
  else none

def readHeaderJson (text : List UInt8) : Option (FrameMetadata ρ) :=
  ((String.fromUTF8? ⟨text.toArray⟩).bind Json.read?).bind (headerOfJson decode)

variable {encode decode}

theorem readHeaderJson_writeHeaderJson
    (hfields : ∀ fields, (encode fields).proper = true ∧ decode (encode fields) = some fields)
    (header : FrameMetadata ρ) (text : List UInt8)
    (h : writeHeaderJson encode header = some text) :
    readHeaderJson decode text = some header := by
  obtain ⟨⟨fields, content⟩, length, digest⟩ := header
  obtain ⟨hprop, hdec⟩ := hfields fields
  rw [writeHeaderJson, Option.ite_none_right_eq_some, Option.some_inj] at h
  obtain ⟨⟨hemp, hlen⟩, rfl⟩ := h
  have hcnt : (Json.number (.posInt length)).asU64? = some length := if_pos hlen
  have hread : (headerJson encode ⟨⟨fields, content⟩, length, digest⟩).proper = true := by
    cases content <;>
      simp [headerJson, jsonOption, Json.proper, Json.properMembers, Json.properItems,
        Number.proper, hprop]
  rw [readHeaderJson, utf8Bytes_eq_flatMap, fromUTF8?_utf8EncodeChar, String.ofList_toList,
    Option.bind_some, Json.read?_render hread, Option.bind_some]
  have hcontent : (headerJson encode ⟨⟨fields, content⟩, length, digest⟩).get? "content"
      = some (jsonOption (fun _ => .array []) content) := rfl
  have hdigest : (headerJson encode ⟨⟨fields, content⟩, length, digest⟩).get? "contentDigest"
      = some (.string digest) := rfl
  have hlength : (headerJson encode ⟨⟨fields, content⟩, length, digest⟩).get? "contentLength"
      = some (.number (.posInt length)) := rfl
  have hmessage : (headerJson encode ⟨⟨fields, content⟩, length, digest⟩).get? "message"
      = some (encode fields) := rfl
  simp only [headerOfJson, hcontent, hdigest, hlength, hmessage, hcnt, hdec, Json.asString?,
    Option.bind_eq_bind, Option.bind_some]
  cases content with
  | none => rfl
  | some bytes =>
    have hbytes : bytes = [] := hemp
    rw [hbytes]
    rfl

end JsonHeader

def jsonCodec (encode : ρ → Json) (decode : Json → Option ρ)
    (hfields : ∀ fields, (encode fields).proper = true ∧ decode (encode fields) = some fields) :
    FrameCodec ρ where
  sha256Hex := sampleSha256Hex
  sha256Hex_valid _ := isLowerHex_hexDigits _
  toVec := writeHeaderJson encode
  fromSlice := readHeaderJson decode
  fromSlice_toVec := readHeaderJson_writeHeaderJson hfields

def requestCodec : FrameCodec String := jsonCodec .string Json.asString? fun _ => ⟨rfl, rfl⟩

/-- The name of an output or the text of an error, or nothing. -/
def resultJson (result : Option String × Option String) : Json :=
  .array [jsonOption .string result.1, jsonOption .string result.2]

def resultOfJson : Json → Option (Option String × Option String)
  | .array [output, error] => some (output.asString?, error.asString?)
  | _ => none

theorem resultOfJson_resultJson (result : Option String × Option String) :
    (resultJson result).proper = true ∧ resultOfJson (resultJson result) = some result := by
  obtain ⟨output, error⟩ := result
  cases output <;> cases error <;> exact ⟨rfl, rfl⟩

def resultCodec : FrameCodec (Option String × Option String) :=
  jsonCodec resultJson resultOfJson resultOfJson_resultJson

def requestSample : FileSystemMessage String := ⟨"write", some [1, 2, 3]⟩

def resultSample : FileSystemMessage (Option String × Option String) :=
  ⟨(some "read", none), some [7, 7]⟩

/-- A request and a result with their bytes: both are read back, and neither is with another
    last byte. -/
theorem filesystem_frames_sound_samples :
    (∃ frame, writeFilesystemRequest requestCodec requestSample = .ok frame ∧
      FrameSound (readFilesystemRequest requestCodec) sampleSha256Hex requestSample frame ∧
      ∀ other, readFilesystemRequest requestCodec (frame.take (frame.length - 3) ++ [1, 2, 4]) ≠
        .ok other) ∧
    ∃ frame, writeFilesystemResult resultCodec resultSample = .ok frame ∧
      FrameSound (readFilesystemResult resultCodec) sampleSha256Hex resultSample frame ∧
      ∀ other, readFilesystemResult resultCodec (frame.take (frame.length - 2) ++ [7, 8]) ≠
        .ok other := by
  obtain ⟨hreq, hres⟩ := filesystem_frames_sound requestCodec resultCodec
  constructor
  · have hwr : (writeFilesystemRequest requestCodec requestSample).toOption.map
        List.length = some 147 := by decide +kernel
    obtain ⟨frame, hframe, -⟩ := exists_ok_of_map hwr
    have hsnd := hreq requestSample frame hframe
    exact ⟨frame, hframe, hsnd, hsnd.changed [1, 2, 4] rfl (by decide +kernel)⟩
  · have hwr : (writeFilesystemResult resultCodec resultSample).toOption.map
        List.length = some 152 := by decide +kernel
    obtain ⟨frame, hframe, -⟩ := exists_ok_of_map hwr
    have hsnd := hres resultSample frame hframe
    exact ⟨frame, hframe, hsnd, hsnd.changed [7, 8] rfl (by decide +kernel)⟩

end Centaeris.FileSystemFrame
