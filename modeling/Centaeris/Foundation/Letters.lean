import Centaeris.Foundation.Outcome

namespace Foundation

open List

/-!
# Letters of a history

Many entries of a state depend on a part of its history only: the entry of a key is
decided by the events that name the key.  Those events, in their order, are the word of
the key.
-/

variable {α κ : Type} [DecidableEq κ]

/-- The events of a history that name a key. -/
def wordOf (key : α → Option κ) (k : κ) (as : List α) : List α :=
  as.filter fun a => key a = some k

variable {key : α → Option κ} {k : κ} {as bs : List α} {a : α}

@[simp] theorem wordOf_nil : wordOf key k [] = [] := rfl

@[simp] theorem wordOf_append : wordOf key k (as ++ bs) = wordOf key k as ++ wordOf key k bs :=
  filter_append as bs

theorem wordOf_cons_of_key (h : key a = some k) :
    wordOf key k (a :: as) = a :: wordOf key k as :=
  filter_cons_of_pos (by simpa using h)

theorem wordOf_cons_of_ne (h : key a ≠ some k) : wordOf key k (a :: as) = wordOf key k as :=
  filter_cons_of_neg (by simpa using h)

theorem mem_wordOf : a ∈ wordOf key k as ↔ a ∈ as ∧ key a = some k := by
  simp [wordOf]

/-- A filter that looks at one key only is a filter of its word. -/
theorem filter_eq_filter_wordOf {p q : α → Bool}
    (h : ∀ a, p a = true ↔ key a = some k ∧ q a = true) :
    as.filter p = (wordOf key k as).filter q := by
  rw [wordOf, filter_filter]
  apply filter_congr
  intro a _
  rw [Bool.eq_iff_iff, h a]
  simp [and_comm]

/-- A place in the history is a place in the word. -/
theorem wordOf_split (h : key a = some k) :
    wordOf key k (as ++ a :: bs) = wordOf key k as ++ a :: wordOf key k bs := by
  rw [wordOf_append, wordOf_cons_of_key h]

/-- A place in the word is a place in the history. -/
theorem exists_split_of_wordOf {front back : List α} (h : wordOf key k as = front ++ a :: back) :
    ∃ front' back', as = front' ++ a :: back' ∧ key a = some k ∧
      wordOf key k front' = front ∧ wordOf key k back' = back := by
  obtain ⟨front', rest, rfl, hfront, hrest⟩ := filter_eq_append_iff.mp h
  obtain ⟨middle, back', rfl, hmid, ha, hback⟩ := filter_eq_cons_iff.mp hrest
  refine ⟨front' ++ middle, back', by simp, by simpa using ha, ?_, hback⟩
  have hnone : wordOf key k middle = [] := filter_eq_nil_iff.mpr hmid
  rw [wordOf_append, hnone, append_nil]
  exact hfront

/-- What holds at every event of a key holds at every letter of its word. -/
theorem forall_split_iff {P : List α → α → List α → Prop} :
    (∀ front a back, as = front ++ a :: back → key a = some k →
      P (wordOf key k front) a (wordOf key k back)) ↔
    ∀ front a back, wordOf key k as = front ++ a :: back → P front a back := by
  constructor
  · intro h front a back hword
    obtain ⟨front', back', rfl, ha, rfl, rfl⟩ := exists_split_of_wordOf hword
    exact h front' a back' rfl ha
  · rintro h front a back rfl ha
    exact h _ a _ (wordOf_split ha)

/-- The places of a list are its head and the places of its tail. -/
theorem forall_split_cons {P : List α → α → List α → Prop} :
    (∀ front b back, a :: as = front ++ b :: back → P front b back) ↔
      P [] a as ∧ ∀ front b back, as = front ++ b :: back → P (a :: front) b back := by
  constructor
  · intro h
    refine ⟨h [] a as rfl, ?_⟩
    rintro front b back rfl
    exact h (a :: front) b back rfl
  · rintro ⟨hfst, hrest⟩ front b back hsp
    cases front with
    | nil =>
      obtain ⟨rfl, rfl⟩ := cons.inj hsp
      exact hfst
    | cons c front =>
      obtain ⟨rfl, hback⟩ := cons.inj hsp
      exact hrest front b back hback

theorem wordOf_eq_nil : wordOf key k as = [] ↔ ∀ a ∈ as, key a ≠ some k := by
  simp [wordOf]

/-- The last letter is the last event of its key. -/
theorem getLast?_wordOf_eq_some : (wordOf key k as).getLast? = some a ↔
    ∃ before between, as = before ++ a :: between ∧ key a = some k ∧
      ∀ b ∈ between, key b ≠ some k := by
  constructor
  · intro h
    obtain ⟨front, hfront⟩ := getLast?_eq_some_iff.mp h
    obtain ⟨before, between, hsp, ha, -, hnone⟩ := exists_split_of_wordOf hfront
    exact ⟨before, between, hsp, ha, wordOf_eq_nil.mp hnone⟩
  · rintro ⟨before, between, rfl, ha, hnone⟩
    rw [wordOf_split ha, wordOf_eq_nil.mpr hnone]
    exact getLast?_concat

variable {γ : Type}

/-- What is read off the last letter, after one more event. -/
theorem getLast?_map_wordOf_concat (read : α → γ) (d : γ) :
    ((wordOf key k (as ++ [a])).getLast?.map read).getD d =
      if key a = some k then read a else ((wordOf key k as).getLast?.map read).getD d := by
  by_cases h : key a = some k
  · rw [if_pos h, wordOf_append, wordOf_cons_of_key h, wordOf_nil]
    simp
  · rw [if_neg h, wordOf_append, wordOf_cons_of_ne h, wordOf_nil, append_nil]

/-- An entry that each event of its key overwrites is read off the last letter. -/
theorem foldlM_lastLetter {σ : Type} {step : σ → α → Outcome σ} {view : σ → κ → γ} {read : α → γ}
    {s s' : σ} (hstep : ∀ s s' a, step s a = .ok s' → ∀ k, view s' k =
      if key a = some k then read a else view s k) (hrun : as.foldlM step s = .ok s') (k : κ) :
    view s' k = ((wordOf key k as).getLast?.map read).getD (view s k) := by
  have hstart : view s k = ((wordOf key k []).getLast?.map read).getD (view s k) := rfl
  have hinv := foldlM_invariant_trace (fun t done =>
    view t k = ((wordOf key k done).getLast?.map read).getD (view s k)) ?_ hstart hrun
  · simpa using hinv
  · intro t t' a front back _ ht hta
    rw [nil_append] at ht ⊢
    rw [hstep t t' a hta k, ht, getLast?_map_wordOf_concat]

end Foundation
