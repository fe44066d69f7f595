import Mathlib.Data.List.Basic
import Mathlib.Data.List.DropRight
import Mathlib.Data.List.Nodup

namespace Foundation

open List

/-!
# Places in a list
-/

variable {α : Type} {p : α → Bool}

/-- The last element with a property, and its place (`lastWhere?_split`, `lastWhere?_eq_none_iff`,
    `lastWhere?_eq_some`). -/
def lastWhere? (p : α → Bool) (l : List α) : Option (α × Nat) :=
  l.zipIdx.reverse.find? fun entry => p entry.1

variable {l : List α}

theorem lastWhere?_eq_none_iff :
    lastWhere? p l = none ↔ ∀ a ∈ l, p a = false := by
  rw [lastWhere?, find?_eq_none]
  constructor
  · intro h a ha
    obtain ⟨i, hi, rfl⟩ := getElem_of_mem ha
    have hent : (l[i], i) ∈ l.zipIdx.reverse := by
      rw [mem_reverse, mem_zipIdx_iff_getElem?]
      exact getElem?_eq_getElem hi
    simpa using h _ hent
  · rintro h ⟨a, i⟩ hent
    have ha : a ∈ l := fst_mem_of_mem_zipIdx (mem_reverse.mp hent)
    simp [h a ha]

variable {front back : List α} {a : α}

theorem lastWhere?_split (ha : p a = true) (hback : ∀ b ∈ back, p b = false) :
    lastWhere? p (front ++ a :: back) = some (a, front.length) := by
  have hnone : (back.zipIdx (front.length + 1)).reverse.find? (fun entry => p entry.1) = none := by
    rw [find?_eq_none]
    rintro ⟨b, i⟩ hent
    have hb : b ∈ back := fst_mem_of_mem_zipIdx (mem_reverse.mp hent)
    simp [hback b hb]
  rw [lastWhere?, zipIdx_append, zipIdx_cons, Nat.zero_add, reverse_append,
    reverse_cons, find?_append, find?_append, hnone]
  simp [ha]

/-- The place of the first element with a property. -/
theorem findIdx?_split (ha : p a = true) (hfront : ∀ b ∈ front, p b = false) :
    (front ++ a :: back).findIdx? p = some front.length := by
  rw [findIdx?_append, findIdx?_eq_none_iff.mpr hfront]
  simp [findIdx?_cons, ha]

/-- A list cut at its last element with a property. -/
theorem exists_last_split (h : ∃ a ∈ l, p a = true) :
    ∃ front a back, l = front ++ a :: back ∧ p a = true ∧ ∀ b ∈ back, p b = false := by
  induction l with
  | nil =>
    obtain ⟨a, ha, -⟩ := h
    cases ha
  | cons c l ih =>
    by_cases hlat : ∃ a ∈ l, p a = true
    · obtain ⟨front, a, back, rfl, ha, hback⟩ := ih hlat
      exact ⟨c :: front, a, back, rfl, ha, hback⟩
    · push Not at hlat
      obtain ⟨a, hm, ha⟩ := h
      rcases mem_cons.mp hm with rfl | hm
      · exact ⟨[], a, l, rfl, ha, fun b hb => by simpa using hlat b hb⟩
      · exact absurd ha (hlat a hm)

variable {place : Nat}

theorem lastWhere?_eq_some (h : lastWhere? p l = some (a, place)) :
    ∃ front back, l = front ++ a :: back ∧ place = front.length ∧ p a = true ∧
      ∀ b ∈ back, p b = false := by
  by_cases hexists : ∃ b ∈ l, p b = true
  · obtain ⟨front, b, back, rfl, hb, hback⟩ := exists_last_split hexists
    rw [lastWhere?_split hb hback] at h
    cases h
    exact ⟨front, back, rfl, rfl, hb, hback⟩
  · rw [lastWhere?_eq_none_iff.mpr] at h
    · cases h
    · intro b hb
      by_contra hp
      exact hexists ⟨b, hb, by simpa using hp⟩

/-- When the later part of a list has an element with a property, the last one is there. -/
theorem le_of_lastWhere? (hback : ∃ b ∈ back, p b = true)
    (h : lastWhere? p (front ++ back) = some (a, place)) :
    front.length ≤ place := by
  obtain ⟨before, b, after, rfl, hb, haft⟩ := exists_last_split hback
  rw [← append_assoc, lastWhere?_split hb haft] at h
  cases h
  simp

variable {lead : List α}

/-- The elements between two cuts. -/
theorem exists_between {rest : List α} (h : front ++ a :: back = lead ++ rest)
    (hlt : front.length < lead.length) :
    ∃ between, lead = front ++ a :: between ∧ back = between ++ rest := by
  rcases append_eq_append_iff.mp h with ⟨as, hlead, hback⟩ | ⟨as, hfront, -⟩
  · cases as with
    | nil =>
      rw [hlead, append_nil] at hlt
      omega
    | cons b between =>
      rw [cons_append] at hback
      cases hback
      exact ⟨between, hlead, rfl⟩
  · rw [hfront, length_append] at hlt
    omega

/-- Cuts after a part of the list, and of a filtered list. -/
theorem exists_split_after (h : lead ++ l = front ++ a :: back) (ha : p a = true)
    (hlead : ∀ b ∈ lead, p b = false) :
    ∃ between, front = lead ++ between ∧ l = between ++ a :: back := by
  rcases append_eq_append_iff.mp h with ⟨as, hfront, hl⟩ | ⟨as, hlead', hback⟩
  · exact ⟨as, hfront, hl⟩
  · cases as with
    | nil => exact ⟨[], by simpa using hlead'.symm, by simpa using hback.symm⟩
    | cons b as =>
      rw [cons_append] at hback
      cases hback
      have hm : a ∈ lead := by
        rw [hlead']
        exact mem_append_right _ mem_cons_self
      rw [hlead a hm] at ha
      cases ha

theorem exists_split_of_filter (h : l.filter p = front ++ a :: back) :
    ∃ before after, l = before ++ a :: after ∧ before.filter p = front ∧
      after.filter p = back := by
  obtain ⟨l₁, l₂, rfl, hfront, hrest⟩ := filter_eq_append_iff.mp h
  obtain ⟨skipped, after, rfl, hskipped, -, haft⟩ := filter_eq_cons_iff.mp hrest
  refine ⟨l₁ ++ skipped, after, (append_assoc ..).symm, ?_, haft⟩
  rw [filter_append, hfront, filter_eq_nil_iff.mpr (by simpa using hskipped), append_nil]

/-- A list cut at one of its numbered elements. -/
theorem exists_split_of_mem_zipIdx {start : Nat} (h : (a, place) ∈ l.zipIdx start) :
    ∃ front back, l = front ++ a :: back ∧ place = start + front.length := by
  induction l generalizing start with
  | nil => cases h
  | cons b l ih =>
    rw [zipIdx_cons] at h
    rcases mem_cons.mp h with heq | hm
    · cases heq
      exact ⟨[], l, rfl, rfl⟩
    · obtain ⟨front, back, rfl, rfl⟩ := ih hm
      exact ⟨b :: front, back, rfl, by rw [length_cons]; omega⟩

/-- A list without the elements with a property at its end. -/
theorem rdropWhile_split (ha : p a = false) (hback : ∀ b ∈ back, p b = true) :
    (front ++ a :: back).rdropWhile p = front ++ [a] := by
  rw [append_cons, List.rdropWhile, reverse_append,
    dropWhile_append_of_pos (fun b hb => hback b (mem_reverse.mp hb)),
    reverse_append, reverse_singleton, singleton_append,
    dropWhile_cons_of_neg (by simp [ha])]
  simp

end Foundation
