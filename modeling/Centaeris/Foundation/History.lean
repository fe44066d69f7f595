import Centaeris.Foundation.Outcome

namespace Foundation

open List

/-!
# Histories

A history is a list of entries, each with the time it was made, in order of time.
Looking up what held at an earlier time is stable: entries made later do not matter.
-/

variable {α : Type} (time : α → Nat)

/-- Binary search for the newest entry made at most at `t`: the last one of the front part made at
    most at `t`. -/
def latestAt (entries : List α) (t : Nat) : Option α :=
  (entries.takeWhile (fun entry => time entry ≤ t)).getLast?

/-- The first entry made at most at `t` when going back from the newest. -/
def lastRecorded (entries : List α) (t : Nat) : Option α :=
  entries.reverse.find? (fun entry => time entry ≤ t)

variable {time}

variable {entries : List α} {entry : α} {t : Nat}

/-- **Stability.** A later entry changes nothing at earlier times. -/
theorem latestAt_append_later (h : t < time entry) :
    latestAt time (entries ++ [entry]) t = latestAt time entries t := by
  unfold latestAt
  rw [takeWhile_append]
  have hstop : List.takeWhile (fun entry => decide (time entry ≤ t)) [entry] = [] := by
    simp [h]
  split
  · rename_i hall
    rw [hstop, append_nil, ( takeWhile_prefix _).eq_of_length hall]
  · rfl

theorem lastRecorded_append_later (h : t < time entry) :
    lastRecorded time (entries ++ [entry]) t = lastRecorded time entries t := by
  unfold lastRecorded
  rw [reverse_append, reverse_singleton, singleton_append, find?_cons_of_neg]
  simpa using h

/-- A list ordered by a transitive relation stays so when its last element stands before
    a new one. -/
theorem pairwise_concat {R : α → α → Prop} (htrans : ∀ a b c, R a b → R b c → R a c)
    (hsort : entries.Pairwise R) (hlast : ∀ last ∈ entries.getLast?, R last entry) :
    (entries ++ [entry]).Pairwise R := by
  rw [pairwise_append]
  refine ⟨hsort, pairwise_singleton _ _, ?_⟩
  intro a ha b hb
  rw [mem_singleton.mp hb]
  cases hgl : entries.getLast? with
  | none =>
    rw [getLast?_eq_none_iff] at hgl
    rw [hgl] at ha
    cases ha
  | some last =>
    obtain ⟨init, rfl⟩ := getLast?_eq_some_iff.mp hgl
    rw [pairwise_append] at hsort
    rcases mem_append_last.mp ha with hinit | rfl
    · exact htrans a last entry (hsort.2.2 a hinit last mem_cons_self) (hlast last hgl)
    · exact hlast _ hgl

section

variable (hsort : entries.Pairwise (fun a b => time a < time b))

include hsort

/-- In order of time: every entry made at most at `t` is in the front part. -/
private theorem mem_takeWhile_of_sorted (hm : entry ∈ entries) (hle : time entry ≤ t) :
    entry ∈ entries.takeWhile (fun entry => time entry ≤ t) := by
  induction entries with
  | nil => cases hm
  | cons a rest ih =>
    rw [pairwise_cons] at hsort
    have ha : time a ≤ t := by
      rcases mem_cons.mp hm with rfl | hrest
      · exact hle
      · exact le_trans (le_of_lt (hsort.1 entry hrest)) hle
    rw [takeWhile_cons_of_pos (by simpa using ha)]
    rcases mem_cons.mp hm with rfl | hrest
    · exact mem_cons_self
    · exact mem_cons_of_mem a (ih hsort.2 hrest)

theorem time_le_of_getLast? {last : α}
    (hlast : entries.getLast? = some last) (hm : entry ∈ entries) :
    time entry ≤ time last := by
  obtain ⟨init, rfl⟩ := getLast?_eq_some_iff.mp hlast
  rw [pairwise_append] at hsort
  rcases mem_append.mp hm with hinit | hsame
  · exact le_of_lt (hsort.2.2 entry hinit last mem_cons_self)
  · rw [mem_singleton.mp hsame]

/-- In a history in order of time it is the entry with the greatest time at most `t`. -/
theorem latestAt_eq_some_iff :
    latestAt time entries t = some entry ↔
      entry ∈ entries ∧ time entry ≤ t ∧ ∀ other ∈ entries, time other ≤ t →
        time other ≤ time entry := by
  have hfront : (entries.takeWhile (fun entry => time entry ≤ t)).Pairwise
      (fun a b => time a < time b) :=
    hsort.sublist ( takeWhile_prefix _).sublist
  constructor
  · intro h
    have hm : entry ∈ entries.takeWhile (fun entry => time entry ≤ t) :=
      mem_of_getLast? h
    refine ⟨( takeWhile_prefix _).subset hm, by simpa using mem_takeWhile_imp hm, ?_⟩
    intro other hoth hle
    exact time_le_of_getLast? hfront h (mem_takeWhile_of_sorted hsort hoth hle)
  · rintro ⟨hm, hle, hmax⟩
    have hfrontMem := mem_takeWhile_of_sorted hsort hm hle
    cases hlast : latestAt time entries t with
    | none =>
      rw [latestAt, getLast?_eq_none_iff] at hlast
      rw [hlast] at hfrontMem
      cases hfrontMem
    | some last =>
      have hlastMem : last ∈ entries.takeWhile (fun entry => time entry ≤ t) :=
        mem_of_getLast? hlast
      have hlastLe : time last ≤ time entry :=
        hmax last (( takeWhile_prefix _).subset hlastMem)
          (by simpa using mem_takeWhile_imp hlastMem)
      have hentryLe : time entry ≤ time last := time_le_of_getLast? hfront hlast hfrontMem
      -- Equal times at two places of a strictly ordered list are one place.
      obtain ⟨init, hinit⟩ := getLast?_eq_some_iff.mp hlast
      rw [hinit] at hfrontMem hfront
      rw [pairwise_append] at hfront
      rcases mem_append.mp hfrontMem with hin | hsame
      · have := hfront.2.2 entry hin last mem_cons_self
        omega
      · rw [mem_singleton.mp hsame]

/-- Something is found as soon as one entry was made at most at `t`. -/
theorem latestAt_isSome_of_mem
    (hm : entry ∈ entries) (hle : time entry ≤ t) : (latestAt time entries t).isSome := by
  have hfront := mem_takeWhile_of_sorted hsort hm hle
  rw [latestAt, getLast?_isSome]
  exact ne_nil_of_mem hfront

end

theorem mem_of_latestAt (h : latestAt time entries t = some entry) :
    entry ∈ entries ∧ time entry ≤ t := by
  have hm : entry ∈ entries.takeWhile (fun entry => time entry ≤ t) := mem_of_getLast? h
  exact ⟨( takeWhile_prefix _).subset hm, by simpa using mem_takeWhile_imp hm⟩

theorem mem_of_lastRecorded (h : lastRecorded time entries t = some entry) :
    entry ∈ entries ∧ time entry ≤ t :=
  ⟨mem_reverse.mp (mem_of_find?_eq_some h), by simpa using find?_some h⟩

end Foundation
