import Centaeris.Foundation.Text

namespace Foundation

open List

/-!
# JSON values and their compact encodings
-/

/-- A JSON number: an integer, or a double given by its shortest decimal text. -/
inductive Number where
  | posInt (n : Nat)
  | negInt (n : Nat)
  | float (text : String)
deriving DecidableEq

/-- The compact text, with the escapes of the usual writers: two characters for the quotation mark,
    the backslash and five control characters, six for the other control characters, every other
    character as it is. -/
def Number.render : Number → String
  | .posInt n => n.repr
  | .negInt n => "-" ++ (n + 1).repr
  | .float text => text

/-- JSON values; an object keeps its members in the order they are written. -/
inductive Json where
  | null
  | bool (b : Bool)
  | number (n : Number)
  | string (s : String)
  | array (items : List Json)
  | object (members : List (String × Json))
deriving Inhabited

namespace Json

/-! ### Equality -/

mutual

/-- Structural equality test of two values. -/
def same : Json → Json → Bool
  | .null, .null => true
  | .bool a, .bool b => a == b
  | .number a, .number b => a == b
  | .string a, .string b => a == b
  | .array as, .array bs => sameItems as bs
  | .object as, .object bs => sameMembers as bs
  | _, _ => false

/-- Structural equality test of two arrays. -/
def sameItems : List Json → List Json → Bool
  | [], [] => true
  | a :: as, b :: bs => same a b && sameItems as bs
  | _, _ => false

/-- Structural equality test of two objects. -/
def sameMembers : List (String × Json) → List (String × Json) → Bool
  | [], [] => true
  | (k, a) :: as, (l, b) :: bs => k == l && same a b && sameMembers as bs
  | _, _ => false

end

mutual

theorem same_iff : ∀ a b : Json, same a b = true ↔ a = b
  | .null, b => by cases b <;> simp [same]
  | .bool _, b => by cases b <;> simp [same]
  | .number _, b => by cases b <;> simp [same]
  | .string _, b => by cases b <;> simp [same]
  | .array as, b => by cases b <;> simp [same, sameItems_iff as]
  | .object as, b => by cases b <;> simp [same, sameMembers_iff as]

theorem sameItems_iff : ∀ as bs : List Json, sameItems as bs = true ↔ as = bs
  | [], bs => by cases bs <;> simp [sameItems]
  | a :: as, bs => by
    cases bs with
    | nil => simp [sameItems]
    | cons b bs => simp [sameItems, same_iff a, sameItems_iff as]

theorem sameMembers_iff :
    ∀ as bs : List (String × Json), sameMembers as bs = true ↔ as = bs
  | [], bs => by cases bs <;> simp [sameMembers]
  | (k, a) :: as, bs => by
    cases bs with
    | nil => simp [sameMembers]
    | cons b bs =>
      obtain ⟨l, b⟩ := b
      simp [sameMembers, same_iff a, sameMembers_iff as]

end

instance : DecidableEq Json := fun a b => decidable_of_iff _ (same_iff a b)

/-! ### Members -/

/-- Member lookup, and the value of a given kind. -/
def get? : Json → String → Option Json
  | .object members, key => members.lookup key
  | _, _ => none

def asString? : Json → Option String
  | .string s => some s
  | _ => none

/-- The number of a non-negative integer of 64 bits. -/
def asU64? : Json → Option Nat
  | .number (.posInt n) => if n < 2 ^ 64 then some n else none
  | _ => none

def asBool? : Json → Option Bool
  | .bool b => some b
  | _ => none

def asArray? : Json → Option (List Json)
  | .array items => some items
  | _ => none

def asObject? : Json → Option (List (String × Json))
  | .object members => some members
  | _ => none

/-- Whether the value is an object. -/
def isObject : Json → Bool
  | .object _ => true
  | _ => false

/-! ### Compact text -/

/-- A hexadecimal digit in lower case. -/
def hexDigit (n : Nat) : Char := Nat.digitChar n

/-- The characters that stand for `c` inside a string. -/
def escapeChar (c : Char) : List Char :=
  if c = '"' then ['\\', '"']
  else if c = '\\' then ['\\', '\\']
  else if c.toNat = 8 then ['\\', 'b']
  else if c.toNat = 12 then ['\\', 'f']
  else if c.toNat = 10 then ['\\', 'n']
  else if c.toNat = 13 then ['\\', 'r']
  else if c.toNat = 9 then ['\\', 't']
  else if c.toNat < 32 then
    ['\\', 'u', '0', '0', hexDigit (c.toNat / 16), hexDigit (c.toNat % 16)]
  else [c]

/-- The number of bytes that stand for `c` inside a string. -/
def escapeSize (c : Char) : Nat :=
  if c = '"' ∨ c = '\\' ∨ c.toNat = 8 ∨ c.toNat = 12 ∨ c.toNat = 10 ∨ c.toNat = 13 ∨
      c.toNat = 9 then 2
  else if c.toNat < 32 then 6
  else c.utf8Size

def renderString (s : String) : String :=
  "\"" ++ String.ofList (s.toList.flatMap escapeChar) ++ "\""

/-- The number of bytes that stand for one UTF-8 byte inside a string. -/
def escapeByteSize (b : UInt8) : Nat :=
  let n := b.toNat
  if n < 32 then if n = 8 ∨ n = 9 ∨ n = 10 ∨ n = 12 ∨ n = 13 then 2 else 6
  else if n = 34 ∨ n = 92 then 2
  else 1

/-- The number of bytes of a string literal, counted byte by byte. -/
def stringSize (s : String) : Nat := ((utf8Bytes s).map escapeByteSize).sum + 2

mutual

def render : Json → String
  | .null => "null"
  | .bool true => "true"
  | .bool false => "false"
  | .number n => n.render
  | .string s => renderString s
  | .array items => "[" ++ renderItems items ++ "]"
  | .object members => "\x7b" ++ renderMembers members ++ "\x7d"

/-- The items of an array, separated by commas. -/
def renderItems : List Json → String
  | [] => ""
  | [item] => render item
  | item :: rest => render item ++ "," ++ renderItems rest

/-- The members of an object, separated by commas. -/
def renderMembers : List (String × Json) → String
  | [] => ""
  | [(key, value)] => renderString key ++ ":" ++ render value
  | (key, value) :: rest => renderString key ++ ":" ++ render value ++ "," ++ renderMembers rest

end

/-! ### Byte counts -/

mutual

/-- The number of UTF-8 bytes of that text, computed from the value (`Json.render_utf8ByteSize`). -/
def size : Json → Nat
  | .null => 4
  | .bool true => 4
  | .bool false => 5
  | .number n => n.render.utf8ByteSize
  | .string s => stringSize s
  | .array items => sizeItems items + 2
  | .object members => sizeMembers members + 2

/-- The bytes of the items of an array with the commas between them. -/
def sizeItems : List Json → Nat
  | [] => 0
  | [item] => size item
  | item :: rest => size item + 1 + sizeItems rest

/-- The bytes of the members of an object with the commas between them. -/
def sizeMembers : List (String × Json) → Nat
  | [] => 0
  | [(key, value)] => stringSize key + 1 + size value
  | (key, value) :: rest => stringSize key + 1 + size value + 1 + sizeMembers rest

end

theorem utf8ByteSize_ofList (cs : List Char) :
    (String.ofList cs).utf8ByteSize = (cs.map Char.utf8Size).sum := by
  induction cs with
  | nil => rfl
  | cons c cs ih =>
    rw [String.ofList_cons, String.utf8ByteSize_append, String.utf8ByteSize_singleton, ih,
      map_cons, sum_cons]

theorem utf8ByteSize_eq_sum (s : String) :
    s.utf8ByteSize = (s.toList.map Char.utf8Size).sum := by
  rw [← utf8ByteSize_ofList, String.ofList_toList]

theorem utf8Size_eq_one_of_lt {c : Char} (h : c.toNat < 128) : c.utf8Size = 1 := by
  rw [Char.utf8Size_eq_one_iff, UInt32.le_iff_toNat_le]
  have hval : c.val.toNat = c.toNat := rfl
  have h127 : (127 : UInt32).toNat = 127 := rfl
  omega

private theorem hexDigit_utf8Size {n : Nat} (h : n < 16) : (hexDigit n).utf8Size = 1 := by
  unfold hexDigit
  interval_cases n <;> rfl

/-- The escape of one character has the counted number of bytes. -/
theorem escapeChar_size (c : Char) :
    ((escapeChar c).map Char.utf8Size).sum = escapeSize c := by
  unfold escapeChar escapeSize
  have hback : '\\'.utf8Size = 1 := rfl
  by_cases hctl : c.toNat < 32
  · have hq : c ≠ '"' := by rintro rfl; revert hctl; decide
    have hb : c ≠ '\\' := by rintro rfl; revert hctl; decide
    have hhigh := hexDigit_utf8Size (n := c.toNat / 16) (by omega)
    have hlow := hexDigit_utf8Size (n := c.toNat % 16) (by omega)
    have hu : 'u'.utf8Size = 1 := rfl
    have hz : '0'.utf8Size = 1 := rfl
    split_ifs <;> simp_all <;> rfl
  · split_ifs <;> simp_all
    all_goals rfl

/-- The bytes of one character are escaped as the character is. -/
theorem escapeByteSize_utf8EncodeChar (c : Char) :
    ((String.utf8EncodeChar c).map escapeByteSize).sum = escapeSize c := by
  have hquote : c = '"' ↔ c.toNat = 34 := ⟨fun h => h ▸ rfl, fun h => Char.toNat_inj.mp h⟩
  have hback : c = '\\' ↔ c.toNat = 92 := ⟨fun h => h ▸ rfl, fun h => Char.toNat_inj.mp h⟩
  by_cases hc : c.toNat < 128
  · have hbyte : (UInt8.ofNat c.toNat).toNat = c.toNat := by
      rw [UInt8.toNat_ofNat']
      omega
    rw [utf8EncodeChar_ascii hc]
    simp only [map_cons, map_nil, sum_cons, sum_nil, escapeByteSize, hbyte,
      escapeSize, hquote, hback, utf8Size_eq_one_of_lt hc]
    split_ifs <;> omega
  · have hone : ∀ b ∈ String.utf8EncodeChar c, escapeByteSize b = 1 := by
      intro b hb
      have := le_of_mem_utf8EncodeChar (by omega) hb
      unfold escapeByteSize
      simp only
      rw [if_neg (by omega), if_neg (by omega)]
    rw [map_congr_left hone, map_const', sum_replicate,
      String.length_utf8EncodeChar, smul_eq_mul, Nat.mul_one]
    simp only [escapeSize, hquote, hback]
    rw [if_neg (by omega), if_neg (by omega)]

theorem stringSize_eq_sum (s : String) :
    stringSize s = (s.toList.map escapeSize).sum + 2 := by
  have hsum : ∀ cs : List Char, ((cs.flatMap String.utf8EncodeChar).map escapeByteSize).sum =
      (cs.map escapeSize).sum := by
    intro cs
    induction cs with
    | nil => rfl
    | cons c cs ih =>
      rw [flatMap_cons, map_append, sum_append, escapeByteSize_utf8EncodeChar, ih,
        map_cons, sum_cons]
  rw [stringSize, utf8Bytes_eq_flatMap, hsum]

theorem renderString_utf8ByteSize (s : String) :
    (renderString s).utf8ByteSize = stringSize s := by
  have hquote : "\"".utf8ByteSize = 1 := rfl
  have hsum : ∀ cs : List Char, ((cs.flatMap escapeChar).map Char.utf8Size).sum =
      (cs.map escapeSize).sum := by
    intro cs
    induction cs with
    | nil => rfl
    | cons c cs ih =>
      rw [flatMap_cons, map_append, sum_append, escapeChar_size, ih, map_cons, sum_cons]
  rw [stringSize_eq_sum]
  unfold renderString
  rw [String.utf8ByteSize_append, String.utf8ByteSize_append, hquote, utf8ByteSize_ofList, hsum]
  omega

mutual

theorem render_utf8ByteSize : ∀ j : Json, (render j).utf8ByteSize = size j
  | .null => rfl
  | .bool true => rfl
  | .bool false => rfl
  | .number _ => rfl
  | .string s => renderString_utf8ByteSize s
  | .array items => by
    have hopen : "[".utf8ByteSize = 1 := rfl
    have hclose : "]".utf8ByteSize = 1 := rfl
    rw [render, size, String.utf8ByteSize_append, String.utf8ByteSize_append,
      renderItems_utf8ByteSize items, hopen, hclose]
    omega
  | .object members => by
    have hopen : "\x7b".utf8ByteSize = 1 := rfl
    have hclose : "\x7d".utf8ByteSize = 1 := rfl
    rw [render, size, String.utf8ByteSize_append, String.utf8ByteSize_append,
      renderMembers_utf8ByteSize members, hopen, hclose]
    omega

theorem renderItems_utf8ByteSize : ∀ items : List Json,
    (renderItems items).utf8ByteSize = sizeItems items
  | [] => rfl
  | [item] => by rw [renderItems, sizeItems, render_utf8ByteSize item]
  | item :: next :: rest => by
    have hcomma : ",".utf8ByteSize = 1 := rfl
    rw [renderItems, sizeItems, String.utf8ByteSize_append, String.utf8ByteSize_append,
      render_utf8ByteSize item, renderItems_utf8ByteSize (next :: rest), hcomma]
    all_goals simp

theorem renderMembers_utf8ByteSize : ∀ members : List (String × Json),
    (renderMembers members).utf8ByteSize = sizeMembers members
  | [] => rfl
  | [(key, value)] => by
    have hcolon : ":".utf8ByteSize = 1 := rfl
    rw [renderMembers, sizeMembers, String.utf8ByteSize_append, String.utf8ByteSize_append,
      render_utf8ByteSize value, renderString_utf8ByteSize, hcolon]
  | (key, value) :: next :: rest => by
    have hcolon : ":".utf8ByteSize = 1 := rfl
    have hcomma : ",".utf8ByteSize = 1 := rfl
    rw [renderMembers, sizeMembers, String.utf8ByteSize_append, String.utf8ByteSize_append,
      String.utf8ByteSize_append, String.utf8ByteSize_append, render_utf8ByteSize value,
      renderMembers_utf8ByteSize (next :: rest), renderString_utf8ByteSize, hcolon, hcomma]
    all_goals simp

end

theorem size_array (items : List Json) : size (.array items) = sizeItems items + 2 := by
  rw [size]

theorem size_object (members : List (String × Json)) :
    size (.object members) = sizeMembers members + 2 := by
  rw [size]

/-- The bytes of an object's members: key, colon and value of each, and the commas. -/
theorem sizeMembers_eq_sum (members : List (String × Json)) :
    sizeMembers members =
      (members.map fun member => stringSize member.1 + 1 + size member.2).sum +
        (members.length - 1) := by
  induction members with
  | nil => rfl
  | cons member rest ih =>
    cases rest with
    | nil => simp [sizeMembers]
    | cons next rest =>
      rw [sizeMembers, ih]
      · simp only [map_cons, sum_cons, length_cons]
        omega
      · simp

/-- The bytes of an array's items are those of each item and one for each comma. -/
theorem sizeItems_eq_sum (items : List Json) :
    sizeItems items = (items.map size).sum + (items.length - 1) := by
  induction items with
  | nil => rfl
  | cons item rest ih =>
    cases rest with
    | nil => simp [sizeItems]
    | cons next rest =>
      rw [sizeItems, ih]
      · simp only [map_cons, sum_cons, length_cons]
        omega
      · simp

end Json

end Foundation
