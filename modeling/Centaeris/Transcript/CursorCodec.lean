import Centaeris.Foundation.Base64
import Centaeris.Foundation.JsonText
import Centaeris.Transcript.Index

namespace Centaeris

open Foundation Option

/-!
# The page cursor codec

The index knows its cursor encoding by two laws (`CursorCodec`).  This module writes the
encoding out and shows that it obeys them.
-/

def ofUtf8Bytes (bytes : List UInt8) : Option String := String.fromUTF8? ⟨bytes.toArray⟩

theorem ofUtf8Bytes_utf8Bytes (s : String) : ofUtf8Bytes (utf8Bytes s) = some s := by
  have harray : (⟨(utf8Bytes s).toArray⟩ : ByteArray) = s.toByteArray := by
    simp [utf8Bytes]
  rw [ofUtf8Bytes, harray, String.fromUTF8?, dif_pos s.isValidUTF8]
  rfl

/-- The compact JSON text of a cursor in URL-safe Base64. -/
def encodePageCursor (cursor : TranscriptPageCursorV1) : String :=
  String.ofList (Base64.encode (utf8Bytes cursor.toJson.render))

/-- The key of a member after the punctuation before it. -/
def readKey (opening key : String) (input : List Char) : Option (List Char) := do
  let input ← Json.readLiteral opening.toList input
  let input ← Json.readLiteral (Json.renderString key).toList input
  Json.readLiteral ":".toList input

def readMember (opening key : String) (input : List Char) : Option (String × List Char) :=
  (readKey opening key input).bind Json.readString

/-- Reads the text of a cursor in the order its members are written. -/
def readPageCursor (input : List Char) : Option TranscriptPageCursorV1 := do
  let (schema, input) ← readMember "\x7b" "schema" input
  let (sessionId, input) ← readMember "," "sessionId" input
  let (projectionVersion, input) ← readMember "," "projectionVersion" input
  let (projectionGeneration, input) ← readMember "," "projectionGeneration" input
  let (sourceHighWater, input) ← readMember "," "sourceHighWater" input
  let input ← readKey "," "before" input
  let (sourceSequence, input) ← readMember "\x7b" "sourceSequence" input
  let input ← readKey "," "ordinal" input
  let (ordinal, input) ← Json.readNat input
  if input = ['\x7d', '\x7d'] ∧ ordinal < UInt32.size then
    pure ⟨schema, sessionId, projectionVersion, projectionGeneration, sourceHighWater,
      ⟨sourceSequence, UInt32.ofNat ordinal⟩⟩
  else none

/-- Reads such a text back. -/
def decodePageCursor (cursor : String) : Option TranscriptPageCursorV1 := do
  let bytes ← Base64.decode (charsOf cursor)
  let text ← ofUtf8Bytes bytes
  readPageCursor (charsOf text)

theorem readKey_append (opening key : String) (rest : List Char) :
    readKey opening key (opening.toList ++ ((Json.renderString key).toList ++
      (":".toList ++ rest))) = some rest := by
  simp only [readKey, Json.readLiteral_append, bind_eq_bind, bind_some]

theorem readPageCursor_render (cursor : TranscriptPageCursorV1) :
    readPageCursor cursor.toJson.render.toList = some cursor := by
  have hordinal := cursor.before.ordinal.toNat_lt
  have hclose : "\x7d".toList ++ "\x7d".toList = ['\x7d', '\x7d'] := rfl
  simp only [TranscriptPageCursorV1.toJson, TranscriptOrderKeyV1.toJson, Json.render,
    Json.renderMembers, Number.render, String.toList_append, List.append_assoc, hclose]
  unfold readPageCursor
  simp only [readMember, readKey_append, Json.readString_renderString, bind_eq_bind, bind_some]
  rw [Json.readNat_repr _ (by decide), bind_some, if_pos ⟨rfl, hordinal⟩]
  simp

theorem decodePageCursor_encodePageCursor (cursor : TranscriptPageCursorV1) :
    decodePageCursor (encodePageCursor cursor) = some cursor := by
  unfold decodePageCursor encodePageCursor
  rw [charsOf_eq, String.toList_ofList, Base64.decode_encode]
  simp only [bind_eq_bind, bind_some, ofUtf8Bytes_utf8Bytes, charsOf_eq, readPageCursor_render]

/-- **Codec.** Cursors as JSON in URL-safe Base64 obey the laws the index relies on. -/
def jsonCursorCodec : CursorCodec where
  encode := encodePageCursor
  decode := decodePageCursor
  decode_encode := decodePageCursor_encodePageCursor
  encode_nonblank := by
    intro cursor
    refine Base64.encode_not_blank ?_
    intro hemp
    have hsize := utf8Bytes_length cursor.toJson.render
    rw [hemp, Json.render_utf8ByteSize, TranscriptPageCursorV1.toJson, Json.size,
      List.length_nil] at hsize
    omega

end Centaeris
