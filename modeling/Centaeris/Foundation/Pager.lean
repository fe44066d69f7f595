import Centaeris.Foundation.Outcome

namespace Foundation

/-!
# Walking a paged listing

A listing is read page by page: each page gives some items and, while more are left, a
cursor from which to go on.
-/

variable {γ π α : Type}

/-- The cursors a walk asks for, and a finished walk with its pages. -/
inductive Visited (fetch : Option γ → Outcome π) (next : π → Option γ) : Option γ → Prop
  | start : Visited fetch next none
  | follow {cursor : Option γ} {page : π} {after : γ} : Visited fetch next cursor →
      fetch cursor = .ok page → next page = some after → Visited fetch next (some after)

inductive Walk (fetch : Option γ → Outcome π) (next : π → Option γ) : Option γ → List π → Prop
  | last {cursor : Option γ} {page : π} : fetch cursor = .ok page → next page = none →
      Walk fetch next cursor [page]
  | more {cursor : Option γ} {page : π} {after : γ} {pages : List π} :
      fetch cursor = .ok page → next page = some after →
      Walk fetch next (some after) pages → Walk fetch next cursor (page :: pages)

variable {fetch : Option γ → Outcome π} {next : π → Option γ} {cursor : Option γ} {pages : List π}

theorem Walk.unique {pages' : List π} (h : Walk fetch next cursor pages)
    (h' : Walk fetch next cursor pages') : pages = pages' := by
  induction h generalizing pages' with
  | last hfetch hnext =>
    cases h' with
    | last hfetch' hnext' =>
      rw [hfetch, Except.ok.injEq] at hfetch'
      rw [hfetch']
    | more hfetch' hnext' _ =>
      rw [hfetch, Except.ok.injEq] at hfetch'
      rw [← hfetch', hnext] at hnext'
      cases hnext'
  | more hfetch hnext _ ih =>
    cases h' with
    | last hfetch' hnext' =>
      rw [hfetch, Except.ok.injEq] at hfetch'
      rw [← hfetch', hnext] at hnext'
      cases hnext'
    | more hfetch' hnext' hrest =>
      rw [hfetch, Except.ok.injEq] at hfetch'
      subst hfetch'
      rw [hnext, Option.some.injEq] at hnext'
      subst hnext'
      rw [ih hrest]

theorem Walk.served (h : Walk fetch next cursor pages) :
    ∀ page ∈ pages, ∃ cursor, fetch cursor = .ok page := by
  induction h with
  | last hfetch _ =>
    intro page hpage
    rw [List.mem_singleton] at hpage
    exact ⟨_, hpage ▸ hfetch⟩
  | more hfetch _ _ ih =>
    intro page hpage
    rcases List.mem_cons.mp hpage with rfl | hrest
    · exact ⟨_, hfetch⟩
    · exact ih page hrest

/-- The law that makes a walk exact: a page is a front part of what is left at its cursor, and its
    continuation is what is left after it. -/
structure Pager (γ π α : Type) where
  fetch : Option γ → Outcome π
  items : π → List α
  next : π → Option γ
  rest : Option γ → List α
  fetch_last : ∀ cursor page, fetch cursor = .ok page → next page = none →
    rest cursor = items page
  fetch_more : ∀ cursor page after, fetch cursor = .ok page → next page = some after →
    items page ≠ [] ∧ rest cursor = items page ++ rest (some after)

variable (pager : Pager γ π α)

/-- The pages of a finished walk, put together, are the listing. -/
theorem Pager.walk_items (h : Walk pager.fetch pager.next cursor pages) :
    pages.flatMap pager.items = pager.rest cursor := by
  induction h with
  | last hfetch hnext =>
    rw [pager.fetch_last _ _ hfetch hnext, List.flatMap_singleton]
  | more hfetch hnext _ ih =>
    rw [(pager.fetch_more _ _ _ hfetch hnext).2, List.flatMap_cons, ih]

/-- If every page asked for is served, the walk ends. -/
theorem Pager.exists_walk (hserved : ∀ cursor, Visited pager.fetch pager.next cursor →
      ∃ page, pager.fetch cursor = .ok page) (hvisited : Visited pager.fetch pager.next cursor) :
    ∃ pages, Walk pager.fetch pager.next cursor pages := by
  -- Induction on the number of items left.
  induction hn : (pager.rest cursor).length using Nat.strong_induction_on generalizing cursor with
  | _ n ih =>
    obtain ⟨page, hpage⟩ := hserved cursor hvisited
    cases hnext : pager.next page with
    | none => exact ⟨[page], .last hpage hnext⟩
    | some after =>
      obtain ⟨hne, hrest⟩ := pager.fetch_more cursor page after hpage hnext
      have hshorter : (pager.rest (some after)).length < n := by
        have hpos := List.length_pos_iff.mpr hne
        rw [hrest, List.length_append] at hn
        omega
      obtain ⟨pages, hpages⟩ := ih _ hshorter (.follow hvisited hpage hnext) rfl
      exact ⟨page :: pages, .more hpage hnext hpages⟩

end Foundation
