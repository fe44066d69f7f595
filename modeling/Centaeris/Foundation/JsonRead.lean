import Centaeris.Foundation.JsonText

namespace Foundation

open List

/-!
# Compact JSON texts determine their values
-/

/-! ### Numbers -/

def isNumberChar (c : Char) : Bool :=
  c.isDigit || c == '-' || c == '+' || c == '.' || c == 'e' || c == 'E'

/-- The characters that tell the text of a double from that of an integer. -/
def isFloatMark (c : Char) : Bool := c == '.' || c == 'e' || c == 'E'

/-- The doubles of a value have the text of a double, not of an integer. -/
def Number.proper : Number → Bool
  | .float text => text.toList.all isNumberChar && text.toList.any isFloatMark
  | _ => true

/-- The number of a text of number characters. -/
def numberOf? (token : List Char) : Option Number :=
  if token.any isFloatMark then some (.float (String.ofList token))
  else match token with
    | '-' :: digits =>
      match decimalValue? (String.ofList digits) with
      | some (n + 1) => some (.negInt n)
      | _ => none
    | digits => (decimalValue? (String.ofList digits)).map .posInt

variable {c : Char}

theorem isDigit_of_mem_repr {n : Nat} (h : c ∈ n.repr.toList) : c.isDigit = true := by
  rw [Nat.toList_repr] at h
  exact Nat.isDigit_of_mem_toDigits (by decide) (by decide) h

theorem digit_ne_mark (h : c.isDigit = true) : isFloatMark c = false ∧ c ≠ '-' := by
  constructor
  · simp only [isFloatMark, Bool.or_eq_false_iff, beq_eq_false_iff_ne]
    refine ⟨⟨?_, ?_⟩, ?_⟩ <;>
      · rintro rfl
        revert h
        decide
  · rintro rfl
    revert h
    decide

theorem any_mark_repr (n : Nat) : n.repr.toList.any isFloatMark = false := by
  rw [any_eq_false]
  intro c hc
  simp [(digit_ne_mark (isDigit_of_mem_repr hc)).1]

variable {n : Number}

theorem numberOf?_render (h : n.proper = true) :
    numberOf? n.render.toList = some n := by
  cases n with
  | posInt n =>
    have hhead : ∀ rest, n.repr.toList ≠ '-' :: rest := by
      intro rest heq
      have hm : '-' ∈ n.repr.toList := by
        rw [heq]
        exact mem_cons_self
      exact (digit_ne_mark (isDigit_of_mem_repr hm)).2 rfl
    simp only [Number.render, numberOf?, any_mark_repr, Bool.false_eq_true, if_false,
      String.ofList_toList, decimalValue?_repr, Option.map_some]
  | negInt n =>
    have htext : ("-" ++ (n + 1).repr).toList = '-' :: (n + 1).repr.toList := by simp
    have hmark : ('-' :: (n + 1).repr.toList).any isFloatMark = false := by
      rw [any_cons, any_mark_repr]
      decide
    simp only [Number.render, htext, numberOf?, hmark, Bool.false_eq_true, if_false,
      String.ofList_toList, decimalValue?_repr]
  | float text =>
    simp only [Number.proper, Bool.and_eq_true] at h
    simp only [Number.render, numberOf?, h.2, if_true, String.ofList_toList]

theorem isNumberChar_of_mem_render (h : n.proper = true) :
    ∀ c ∈ n.render.toList, isNumberChar c = true := by
  intro c hc
  cases n with
  | posInt n => simp [isNumberChar, isDigit_of_mem_repr hc]
  | negInt n =>
    have htext : (Number.negInt n).render.toList = '-' :: (n + 1).repr.toList := by
      simp [Number.render]
    rw [htext] at hc
    rcases mem_cons.mp hc with rfl | hc
    · rfl
    · simp [isNumberChar, isDigit_of_mem_repr hc]
  | float text =>
    simp only [Number.proper, Bool.and_eq_true, all_eq_true] at h
    exact h.1 c hc

theorem render_ne_nil (h : n.proper = true) : n.render.toList ≠ [] := by
  intro hnil
  have hread := numberOf?_render h
  rw [hnil] at hread
  cases n <;> simp [numberOf?, decimalValue?, isCanonicalDecimal] at hread

namespace Json

/-! ### The reader -/

mutual

/-- Reads a value from the front of a compact text. -/
def readValue : Nat → List Char → Option (Json × List Char)
  | 0, _ => none
  | fuel + 1, input =>
    match input with
    | 'n' :: 'u' :: 'l' :: 'l' :: rest => some (.null, rest)
    | 't' :: 'r' :: 'u' :: 'e' :: rest => some (.bool true, rest)
    | 'f' :: 'a' :: 'l' :: 's' :: 'e' :: rest => some (.bool false, rest)
    | '"' :: rest => (readStringBody rest).map fun (body, rest) => (.string (String.ofList body), rest)
    | '[' :: ']' :: rest => some (.array [], rest)
    | '[' :: rest => (readItems fuel rest).map fun (items, rest) => (.array items, rest)
    | '\x7b' :: '\x7d' :: rest => some (.object [], rest)
    | '\x7b' :: rest => (readMembers fuel rest).map fun (members, rest) => (.object members, rest)
    | input => (numberOf? (input.takeWhile isNumberChar)).map fun n =>
        (.number n, input.dropWhile isNumberChar)

/-- Reads the items of an array and its closing bracket. -/
def readItems : Nat → List Char → Option (List Json × List Char)
  | 0, _ => none
  | fuel + 1, input =>
    match readValue fuel input with
    | some (item, ',' :: rest) => (readItems fuel rest).map fun (items, rest) => (item :: items, rest)
    | some (item, ']' :: rest) => some ([item], rest)
    | _ => none

/-- Reads the members of an object and its closing brace. -/
def readMembers : Nat → List Char → Option (List (String × Json) × List Char)
  | 0, _ => none
  | fuel + 1, input =>
    match readString input with
    | some (key, ':' :: rest) =>
      match readValue fuel rest with
      | some (value, ',' :: rest) =>
        (readMembers fuel rest).map fun (members, rest) => ((key, value) :: members, rest)
      | some (value, '\x7d' :: rest) => some ([(key, value)], rest)
      | _ => none
    | _ => none

end

/-! ### Reading back -/

mutual

def proper : Json → Bool
  | .number n => n.proper
  | .array items => properItems items
  | .object members => properMembers members
  | _ => true

def properItems : List Json → Bool
  | [] => true
  | item :: items => proper item && properItems items

def properMembers : List (String × Json) → Bool
  | [] => true
  | (_, value) :: members => proper value && properMembers members

end

theorem proper_of_mem {items : List Json} {item : Json} (h : properItems items = true)
    (hmem : item ∈ items) : item.proper = true := by
  induction items with
  | nil => cases hmem
  | cons first items ih =>
    rw [properItems, Bool.and_eq_true] at h
    rcases mem_cons.mp hmem with rfl | hmem
    · exact h.1
    · exact ih h.2 hmem

variable {value : Json}

theorem proper_of_lookup {members : List (String × Json)} {key : String}
    (h : properMembers members = true) (hlookup : members.lookup key = some value) :
    value.proper = true := by
  induction members with
  | nil => cases hlookup
  | cons member members ih =>
    obtain ⟨name, first⟩ := member
    rw [properMembers, Bool.and_eq_true] at h
    rw [lookup_cons] at hlookup
    split at hlookup
    · cases hlookup
      exact h.1
    · exact ih h.2 hlookup

/-- What comes after a value in a text does not go on with a number. -/
def Delimited (rest : List Char) : Prop := ∀ c ∈ rest.head?, isNumberChar c = false

variable {rest : List Char}

theorem delimited_cons (h : isNumberChar c = false) :
    Delimited (c :: rest) := by
  rintro _ ⟨⟩
  exact h

variable {fuel : Nat}

theorem readValue_number (hc : isNumberChar c = true) :
    readValue (fuel + 1) (c :: rest) =
      (numberOf? ((c :: rest).takeWhile isNumberChar)).map fun n =>
        (.number n, (c :: rest).dropWhile isNumberChar) := by
  rw [readValue.eq_def]
  split
  · rename_i heq
    cases heq
  · rename_i heq
    cases heq
    split <;> first
      | rfl
      | (rename_i heq
         cases heq
         exact absurd hc (by decide))

theorem readValue_render_number (h : n.proper = true) (hrest : Delimited rest) (fuel : Nat) :
    readValue (fuel + 1) (n.render.toList ++ rest) = some (.number n, rest) := by
  have hchars := isNumberChar_of_mem_render h
  cases htext : n.render.toList with
  | nil => exact absurd htext (render_ne_nil h)
  | cons c token =>
    have hc : isNumberChar c = true := by
      apply hchars
      rw [htext]
      exact mem_cons_self
    rw [cons_append, readValue_number hc, ← cons_append, ← htext]
    have htake : (n.render.toList ++ rest).takeWhile isNumberChar = n.render.toList := by
      rw [takeWhile_append_of_pos hchars]
      cases rest with
      | nil => simp
      | cons d rest => simp [hrest d rfl]
    have hdrop : (n.render.toList ++ rest).dropWhile isNumberChar = rest := by
      rw [dropWhile_append_of_pos hchars]
      cases rest with
      | nil => simp
      | cons d rest => simp [hrest d rfl]
    rw [htake, hdrop, numberOf?_render h]
    rfl

/-- The text of a value begins with something else than a closing bracket. -/
theorem exists_head_render (h : value.proper = true) :
    ∃ c rest, value.render.toList = c :: rest ∧ c ≠ ']' := by
  cases value with
  | null => exact ⟨'n', "ull".toList, rfl, by decide⟩
  | bool b => cases b <;> exact ⟨_, _, rfl, by decide⟩
  | number n =>
    have hproper : n.proper = true := by simpa [proper] using h
    cases htext : n.render.toList with
    | nil => exact absurd htext (render_ne_nil hproper)
    | cons c rest =>
      refine ⟨c, rest, by rw [render, htext], ?_⟩
      rintro rfl
      have hchar := isNumberChar_of_mem_render hproper ']' (by rw [htext]; exact mem_cons_self)
      exact absurd hchar (by decide)
  | string text => exact ⟨'"', _, by simp [render, renderString]; rfl, by decide⟩
  | array items => exact ⟨'[', _, by simp [render]; rfl, by decide⟩
  | object members => exact ⟨'\x7b', _, by simp [render]; rfl, by decide⟩

theorem readValue_bracket {fuel : Nat} {c : Char} {rest : List Char} (h : c ≠ ']') :
    readValue (fuel + 1) ('[' :: c :: rest) =
      (readItems fuel (c :: rest)).map fun (items, rest) => (.array items, rest) := by
  rw [readValue.eq_def]
  simp [h]

theorem readValue_brace :
    readValue (fuel + 1) ('\x7b' :: '"' :: rest) =
      (readMembers fuel ('"' :: rest)).map fun (members, rest) => (.object members, rest) := by
  rw [readValue.eq_def]
  rfl

mutual

/-- The steps that reading a value back takes. -/
def steps : Json → Nat
  | .array items => 1 + stepsItems items
  | .object members => 1 + stepsMembers members
  | _ => 1

def stepsItems : List Json → Nat
  | [] => 0
  | item :: items => 1 + steps item + stepsItems items

def stepsMembers : List (String × Json) → Nat
  | [] => 0
  | (_, value) :: members => 1 + steps value + stepsMembers members

end

mutual

/-- **Values.** A proper value is read back from its text, whatever follows. -/
theorem readValue_render : ∀ (value : Json) (fuel : Nat) (rest : List Char),
    value.proper = true → value.steps ≤ fuel → Delimited rest →
    readValue fuel (value.render.toList ++ rest) = some (value, rest)
  | value, 0, rest, _, hfuel, _ => by cases value <;> simp [steps] at hfuel
  | .null, fuel + 1, rest, _, _, _ => by simp [render, readValue]
  | .bool true, fuel + 1, rest, _, _, _ => by simp [render, readValue]
  | .bool false, fuel + 1, rest, _, _, _ => by simp [render, readValue]
  | .number n, fuel + 1, rest, hprop, _, hrest => by
    rw [render]
    exact readValue_render_number (by simpa [proper] using hprop) hrest fuel
  | .string text, fuel + 1, rest, _, _, _ => by
    have hread := readString_renderString text rest
    have htext : (renderString text).toList ++ rest =
        '"' :: (text.toList.flatMap escapeChar ++ '"' :: rest) := by
      simp [renderString]
    rw [htext, readString, Option.map_eq_some_iff] at hread
    obtain ⟨⟨body, rest'⟩, hbody, hpair⟩ := hread
    cases hpair
    rw [render, htext, readValue, hbody]
    rfl
  | .array [], fuel + 1, rest, _, _, _ => by simp [render, renderItems, readValue]
  | .array (item :: items), fuel + 1, rest, hprop, hfuel, _ => by
    have hitems : properItems (item :: items) = true := by simpa [proper] using hprop
    have hread := readItems_render item items fuel rest hitems (by simp [steps] at hfuel; omega)
    obtain ⟨c, tail, htail, hc⟩ : ∃ c tail,
        (renderItems (item :: items)).toList ++ ']' :: rest = c :: tail ∧ c ≠ ']' := by
      have hitem : item.proper = true := by
        rw [properItems, Bool.and_eq_true] at hitems
        exact hitems.1
      obtain ⟨c, tail, hhead, hc⟩ := exists_head_render hitem
      cases items <;> exact ⟨c, _, by simp [renderItems, hhead]; rfl, hc⟩
    have htext : (render (.array (item :: items))).toList ++ rest =
        '[' :: ((renderItems (item :: items)).toList ++ ']' :: rest) := by
      simp [render]
    rw [htext, htail, readValue_bracket hc, ← htail, hread]
    rfl
  | .object [], fuel + 1, rest, _, _, _ => by simp [render, renderMembers, readValue]
  | .object (member :: members), fuel + 1, rest, hprop, hfuel, _ => by
    have hmembers : properMembers (member :: members) = true := by simpa [proper] using hprop
    have hread := readMembers_render member members fuel rest hmembers
      (by simp [steps] at hfuel; omega)
    obtain ⟨tail, htail⟩ : ∃ tail,
        (renderMembers (member :: members)).toList ++ '\x7d' :: rest = '"' :: tail := by
      cases members <;> exact ⟨_, by simp [renderMembers, renderString]; rfl⟩
    have htext : (render (.object (member :: members))).toList ++ rest =
        '\x7b' :: ((renderMembers (member :: members)).toList ++ '\x7d' :: rest) := by
      simp [render]
    rw [htext, htail, readValue_brace, ← htail, hread]
    rfl

theorem readItems_render : ∀ (item : Json) (items : List Json) (fuel : Nat) (rest : List Char),
    properItems (item :: items) = true → stepsItems (item :: items) ≤ fuel →
    readItems fuel ((renderItems (item :: items)).toList ++ ']' :: rest) =
      some (item :: items, rest)
  | item, items, 0, rest, _, hfuel => by simp [stepsItems] at hfuel
  | item, [], fuel + 1, rest, hproper, hfuel => by
    simp only [properItems, Bool.and_true, stepsItems] at hproper hfuel
    have hread := readValue_render item fuel (']' :: rest) hproper (by omega)
      (delimited_cons (by decide))
    rw [renderItems, readItems, hread]
    rfl
  | item, next :: items, fuel + 1, rest, hproper, hfuel => by
    rw [properItems, Bool.and_eq_true] at hproper
    rw [stepsItems] at hfuel
    have hread := readValue_render item fuel
      (',' :: ((renderItems (next :: items)).toList ++ ']' :: rest)) hproper.1 (by omega)
      (delimited_cons (by decide))
    have hrest := readItems_render next items fuel rest hproper.2 (by omega)
    have htext : (renderItems (item :: next :: items)).toList ++ ']' :: rest =
        item.render.toList ++ ',' :: ((renderItems (next :: items)).toList ++ ']' :: rest) := by
      simp [renderItems]
    rw [htext, readItems, hread]
    simp only [hrest, Option.map_some]

theorem readMembers_render : ∀ (member : String × Json) (members : List (String × Json))
    (fuel : Nat) (rest : List Char),
    properMembers (member :: members) = true → stepsMembers (member :: members) ≤ fuel →
    readMembers fuel ((renderMembers (member :: members)).toList ++ '\x7d' :: rest) =
      some (member :: members, rest)
  | member, members, 0, rest, _, hfuel => by simp [stepsMembers] at hfuel
  | (key, value), [], fuel + 1, rest, hproper, hfuel => by
    simp only [properMembers, Bool.and_true, stepsMembers] at hproper hfuel
    have hread := readValue_render value fuel ('\x7d' :: rest) hproper (by omega)
      (delimited_cons (by decide))
    have hkey := readString_renderString key (':' :: (value.render.toList ++ '\x7d' :: rest))
    have htext : (renderMembers [(key, value)]).toList ++ '\x7d' :: rest =
        (renderString key).toList ++ ':' :: (value.render.toList ++ '\x7d' :: rest) := by
      simp [renderMembers]
    rw [htext, readMembers, hkey]
    simp only [hread]
  | (key, value), next :: members, fuel + 1, rest, hproper, hfuel => by
    rw [properMembers, Bool.and_eq_true] at hproper
    rw [stepsMembers] at hfuel
    have hread := readValue_render value fuel
      (',' :: ((renderMembers (next :: members)).toList ++ '\x7d' :: rest)) hproper.1 (by omega)
      (delimited_cons (by decide))
    have hrest := readMembers_render next members fuel rest hproper.2 (by omega)
    have hkey := readString_renderString key (':' :: (value.render.toList ++
      ',' :: ((renderMembers (next :: members)).toList ++ '\x7d' :: rest)))
    have htext : (renderMembers ((key, value) :: next :: members)).toList ++ '\x7d' :: rest =
        (renderString key).toList ++ ':' :: (value.render.toList ++
          ',' :: ((renderMembers (next :: members)).toList ++ '\x7d' :: rest)) := by
      simp [renderMembers]
    rw [htext, readMembers, hkey]
    simp only [hread, hrest, Option.map_some]

end

mutual

/-- Reading back takes no more steps than the text has characters. -/
theorem steps_le_length : ∀ value : Json, value.proper = true →
    value.steps ≤ value.render.toList.length
  | .null, _ => by decide
  | .bool true, _ => by decide
  | .bool false, _ => by decide
  | .number n, h => by
    have hne := render_ne_nil (by simpa [proper] using h : n.proper = true)
    simp only [render, steps]
    exact length_pos_iff.mpr hne
  | .string text, _ => by simp [render, steps, renderString]
  | .array items, h => by
    have hitems := stepsItems_le_length items (by simpa [proper] using h)
    simp only [steps, render, String.toList_append, length_append] at hitems ⊢
    have hopen : "[".toList.length = 1 := rfl
    have hclose : "]".toList.length = 1 := rfl
    omega
  | .object members, h => by
    have hmembers := stepsMembers_le_length members (by simpa [proper] using h)
    simp only [steps, render, String.toList_append, length_append] at hmembers ⊢
    have hopen : "\x7b".toList.length = 1 := rfl
    have hclose : "\x7d".toList.length = 1 := rfl
    omega

theorem stepsItems_le_length : ∀ items : List Json, properItems items = true →
    stepsItems items ≤ (renderItems items).toList.length + 1
  | [], _ => by decide
  | [item], h => by
    have hitem := steps_le_length item (by simpa [properItems] using h)
    simp only [stepsItems, renderItems]
    omega
  | item :: next :: items, h => by
    rw [properItems, Bool.and_eq_true] at h
    have hitem := steps_le_length item h.1
    have hitems := stepsItems_le_length (next :: items) h.2
    have hcomma : ",".toList.length = 1 := rfl
    simp only [stepsItems, renderItems, String.toList_append, length_append] at hitems ⊢
    omega

theorem stepsMembers_le_length : ∀ members : List (String × Json),
    properMembers members = true → stepsMembers members ≤ (renderMembers members).toList.length + 1
  | [], _ => by decide
  | [(key, value)], h => by
    have hvalue := steps_le_length value (by simpa [properMembers] using h)
    simp only [stepsMembers, renderMembers, String.toList_append, length_append]
    omega
  | (key, value) :: next :: members, h => by
    rw [properMembers, Bool.and_eq_true] at h
    have hvalue := steps_le_length value h.1
    have hmembers := stepsMembers_le_length (next :: members) h.2
    have hcomma : ",".toList.length = 1 := rfl
    simp only [stepsMembers, renderMembers, String.toList_append, length_append] at hmembers ⊢
    omega

end

/-- A reader of compact texts. -/
def read? (text : String) : Option Json :=
  match readValue (charsOf text).length (charsOf text) with
  | some (value, []) => some value
  | _ => none

/-- A proper value is read back from its text. -/
theorem read?_render (h : value.proper = true) :
    read? value.render = some value := by
  have hread := readValue_render value value.render.toList.length [] h
    (steps_le_length value h) nofun
  rw [append_nil] at hread
  rw [read?, charsOf_eq, hread]

/-- So two proper values with the same text are equal, whatever reader produced them. -/
theorem render_injective {a b : Json} (ha : a.proper = true) (hb : b.proper = true)
    (h : a.render = b.render) : a = b := by
  have hread := read?_render ha
  rw [h, read?_render hb] at hread
  exact (Option.some.inj hread).symm

end Json

end Foundation
