import Centaeris.Foundation.Outcome

namespace Foundation

open List

/-!
# Selections from an order of first arrival

Things are listed in the order in which they first arrive, and a selection lists some of
them in that order.
-/

variable {α : Type} [DecidableEq α]

/-- A thing is listed when it arrives for the first time. -/
def arrive (order : List α) (a : α) : List α := if a ∈ order then order else order ++ [a]

variable {order : List α} {a : α} {p : α → Bool}

theorem mem_arrive {b : α} : b ∈ arrive order a ↔ b ∈ order ∨ b = a := by
  unfold arrive
  split
  · rename_i h
    exact ⟨.inl, fun hb => hb.elim id fun hab => hab ▸ h⟩
  · simp

theorem nodup_arrive (h : order.Nodup) : (arrive order a).Nodup := by
  unfold arrive
  split
  · exact h
  · rename_i hnew
    rw [nodup_append]
    refine ⟨h, nodup_singleton a, ?_⟩
    rintro b hb _ hc rfl
    rw [mem_singleton] at hc
    exact hnew (hc ▸ hb)

/-- An arrival that was listed changes nothing, also in a list made from the same order. -/
theorem arrive_of_mem (h : a ∈ order) : arrive order a = order := if_pos h

theorem arrive_of_not_mem (h : a ∉ order) : arrive order a = order ++ [a] := if_neg h

/-- A selection that takes one more thing. -/
theorem filter_or_split {front back : List α} (hfront : a ∉ front) (hback : a ∉ back) :
    (front ++ a :: back).filter (fun b => p b || b == a) =
      front.filter p ++ a :: back.filter p := by
  have hoth : ∀ xs : List α, a ∉ xs → xs.filter (fun b => p b || b == a) = xs.filter p := by
    intro xs hxs
    apply filter_congr
    intro b hb
    have hne : (b == a) = false := beq_false_of_ne fun hba => hxs (hba ▸ hb)
    rw [hne, Bool.or_false]
  rw [filter_append, hoth front hfront, filter_cons_of_pos (by simp), hoth back hback]

/-- A selection that takes one more thing gains it at its end exactly when it takes nothing that
    arrived later. -/
theorem filter_or_eq_concat_iff (hnodup : order.Nodup) (hm : a ∈ order) (ha : p a = false) :
    order.filter (fun b => p b || b == a) = order.filter p ++ [a] ↔
      ∀ front back, order = front ++ a :: back → ∀ b ∈ back, p b = false := by
  have hplaces : ∀ front back, order = front ++ a :: back → a ∉ front ∧ a ∉ back := by
    rintro front back rfl
    rw [nodup_append, nodup_cons] at hnodup
    obtain ⟨-, ⟨hback, -⟩, hdisjoint⟩ := hnodup
    exact ⟨fun hfront => hdisjoint a hfront a mem_cons_self rfl, hback⟩
  constructor
  · rintro h front back rfl b hb
    obtain ⟨hfront, hback⟩ := hplaces front back rfl
    rw [filter_or_split hfront hback, filter_append,
      filter_cons_of_neg (by simp [ha]), append_assoc, append_cancel_left_eq] at h
    -- the selected things after it would have to start with it
    cases hselected : back.filter p with
    | nil =>
      rw [filter_eq_nil_iff] at hselected
      simpa using hselected b hb
    | cons first rest =>
      rw [hselected, cons_append] at h
      have hfst : first ∈ back.filter p := by simp [hselected]
      rw [← (List.cons.inj h).1] at hfst
      exact absurd (mem_filter.mp hfst).1 hback
  · intro h
    obtain ⟨front, back, hsp⟩ := append_of_mem hm
    obtain ⟨hfront, hback⟩ := hplaces front back hsp
    have hnone : back.filter p = [] := by
      rw [filter_eq_nil_iff]
      intro b hb
      simp [h front back hsp b hb]
    rw [hsp, filter_or_split hfront hback, filter_append,
      filter_cons_of_neg (by simp [ha]), hnone, append_nil]

/-- The selection after the arrival of a thing that it takes from now on. -/
theorem filter_arrive_of_not_mem (hnew : a ∉ order) :
    (arrive order a).filter (fun b => p b || b == a) = order.filter p ++ [a] := by
  rw [arrive_of_not_mem hnew, filter_or_split hnew not_mem_nil, filter_nil]

theorem filter_arrive_of_selected (hm : a ∈ order.filter p) :
    (arrive order a).filter (fun b => p b || b == a) = order.filter p := by
  obtain ⟨hlist, ha⟩ := mem_filter.mp hm
  rw [arrive_of_mem hlist]
  apply filter_congr
  intro b _
  by_cases hba : b = a
  · rw [hba, ha, Bool.true_or]
  · rw [beq_false_of_ne hba, Bool.or_false]

theorem mem_filter_arrive : a ∈ (arrive order a).filter (fun b => p b || b == a) :=
  mem_filter.mpr ⟨mem_arrive.mpr (.inr rfl), by simp⟩

/-- A selection stays as it is exactly when it has the thing. -/
theorem filter_arrive_eq_self_iff :
    order.filter p = (arrive order a).filter (fun b => p b || b == a) ↔ a ∈ order.filter p :=
  ⟨fun h => h ▸ mem_filter_arrive, fun h => (filter_arrive_of_selected h).symm⟩

/-- **Taken in order.** Something is added at the end of the selection.  The result is the
    selection that also takes `a` exactly when it was `a`, and nothing selected arrived
    after it. -/
theorem arrive_filter_eq_iff {b : α} (hnodup : order.Nodup) (hb : b ∈ order → b = a)
    (hp : p a = true → a ∈ order) :
    arrive (order.filter p) b = (arrive order a).filter (fun c => p c || c == a) ↔
      b = a ∧ (a ∉ order.filter p →
        ∀ front back, order = front ++ a :: back → ∀ c ∈ back, p c = false) := by
  by_cases hm : a ∈ order.filter p
  · rw [filter_arrive_of_selected hm]
    constructor
    · intro h
      have hin : b ∈ order.filter p := h ▸ mem_arrive.mpr (.inr rfl)
      exact ⟨hb (mem_filter.mp hin).1, fun hnot => absurd hm hnot⟩
    · rintro ⟨rfl, -⟩
      exact arrive_of_mem hm
  · have hgains : ∀ c, arrive (order.filter p) c =
        (arrive order a).filter (fun c => p c || c == a) → c = a := by
      intro c h
      have hin : a ∈ arrive (order.filter p) c := h ▸ mem_filter_arrive
      exact ((mem_arrive.mp hin).resolve_left hm).symm
    have hunselected : p a = false := by
      by_contra hpa
      rw [Bool.not_eq_false] at hpa
      exact hm (mem_filter.mpr ⟨hp hpa, hpa⟩)
    constructor
    · intro h
      obtain rfl := hgains b h
      refine ⟨rfl, fun _ => ?_⟩
      rw [arrive_of_not_mem hm] at h
      by_cases hlist : b ∈ order
      · rw [arrive_of_mem hlist] at h
        exact (filter_or_eq_concat_iff hnodup hlist hunselected).mp h.symm
      · rintro front back rfl
        exact absurd (mem_append_right front mem_cons_self) hlist
    · rintro ⟨rfl, hlat⟩
      rw [arrive_of_not_mem hm]
      by_cases hlist : b ∈ order
      · rw [arrive_of_mem hlist]
        exact ((filter_or_eq_concat_iff hnodup hlist hunselected).mpr (hlat hm)).symm
      · rw [filter_arrive_of_not_mem hlist]

end Foundation
