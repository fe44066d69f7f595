import Mathlib.Data.List.Basic

namespace Foundation

open List

/-!
# Answered at once and in order

A list of things, some of which open keys and some of which answer one.
-/

/-- What a thing does to the open keys. -/
inductive Move (κ : Type) where
  | plain
  | opens (keys : List κ)
  | answers (key : κ)
deriving DecidableEq

variable {α κ : Type} {move : α → Option (Move κ)}

/-- The keys are answered in the order in which they were opened, and until then nothing else
    comes. -/
inductive Paired (move : α → Option (Move κ)) : List κ → List α → Prop
  | done : Paired move [] []
  | plain {a : α} {rest : List α} (hmove : move a = some .plain) (hrest : Paired move [] rest) :
      Paired move [] (a :: rest)
  | opens {a : α} {rest : List α} {keys : List κ} (hmove : move a = some (.opens keys))
      (hrest : Paired move keys rest) : Paired move [] (a :: rest)
  | answers {a : α} {rest : List α} {key : κ} {pending : List κ}
      (hmove : move a = some (.answers key)) (hrest : Paired move pending rest) :
      Paired move (key :: pending) (a :: rest)

/-- The keys that are open after one thing. -/
def takeMove [DecidableEq κ] : Option (Move κ) → List κ → Option (List κ)
  | some .plain, [] => some []
  | some (.opens keys), [] => some keys
  | some (.answers key), expected :: pending => if expected = key then some pending else none
  | _, _ => none

theorem paired_cons_iff [DecidableEq κ] {pending : List κ} {a : α} {rest : List α} :
    Paired move pending (a :: rest) ↔
      ∃ next, takeMove (move a) pending = some next ∧ Paired move next rest := by
  constructor
  · intro h
    cases h with
    | plain hmove hrest => exact ⟨_, by rw [hmove]; rfl, hrest⟩
    | opens hmove hrest => exact ⟨_, by rw [hmove]; rfl, hrest⟩
    | answers hmove hrest => exact ⟨_, by rw [hmove]; exact if_pos rfl, hrest⟩
  · rintro ⟨next, htake, hrest⟩
    unfold takeMove at htake
    split at htake
    · rename_i hmove
      cases htake
      exact .plain hmove hrest
    · rename_i hmove
      cases htake
      exact .opens hmove hrest
    · rename_i hmove
      split at htake
      · rename_i hkey
        cases htake
        exact hkey ▸ .answers hmove hrest
      · cases htake
    · cases htake

namespace Paired

variable {pending : List κ} {front back : List α} {a : α}

/-- Nothing is open between two such lists, and in front of a thing that does not answer. -/
theorem append (h : Paired move pending front) (hback : Paired move [] back) :
    Paired move pending (front ++ back) := by
  induction h with
  | done => exact hback
  | plain hmove _ ih => exact .plain hmove ih
  | opens hmove _ ih => exact .opens hmove ih
  | answers hmove _ ih => exact .answers hmove ih

theorem split (ha : ∀ key, move a ≠ some (.answers key))
    (h : Paired move pending (front ++ a :: back)) :
    Paired move pending front ∧ Paired move [] (a :: back) := by
  induction front generalizing pending with
  | nil =>
    cases h with
    | plain hmove hrest => exact ⟨.done, .plain hmove hrest⟩
    | opens hmove hrest => exact ⟨.done, .opens hmove hrest⟩
    | answers hmove _ => exact absurd hmove (ha _)
  | cons b front ih =>
    cases h with
    | plain hmove hrest => exact ⟨.plain hmove (ih hrest).1, (ih hrest).2⟩
    | opens hmove hrest => exact ⟨.opens hmove (ih hrest).1, (ih hrest).2⟩
    | answers hmove hrest => exact ⟨.answers hmove (ih hrest).1, (ih hrest).2⟩

/-- Plain things at the end play no role. -/
theorem of_append_plain (hback : ∀ b ∈ back, move b = some .plain)
    (h : Paired move pending (front ++ back)) : Paired move pending front := by
  cases back with
  | nil => rwa [append_nil] at h
  | cons b back =>
    refine (split (fun key => ?_) h).1
    rw [hback b mem_cons_self]
    exact nofun

theorem of_plain (h : ∀ b ∈ back, move b = some .plain) : Paired move [] back := by
  induction back with
  | nil => exact .done
  | cons b back ih =>
    exact .plain (h b mem_cons_self) (ih fun c hc => h c (mem_cons_of_mem b hc))

/-- Only the moves of the things in the list matter. -/
theorem congr {move' : α → Option (Move κ)} (h : Paired move pending front)
    (hmove : ∀ a ∈ front, move' a = move a) : Paired move' pending front := by
  induction h with
  | done => exact .done
  | @plain a rest ha _ ih =>
    rw [forall_mem_cons] at hmove
    exact .plain (hmove.1.trans ha) (ih hmove.2)
  | @opens a rest keys ha _ ih =>
    rw [forall_mem_cons] at hmove
    exact .opens (hmove.1.trans ha) (ih hmove.2)
  | @answers a rest key pending ha _ ih =>
    rw [forall_mem_cons] at hmove
    exact .answers (hmove.1.trans ha) (ih hmove.2)

/-- Every answer has its key from somewhere. -/
theorem opened {key : κ} (h : Paired move pending (front ++ a :: back))
    (ha : move a = some (.answers key)) :
    key ∈ pending ∨ ∃ b ∈ front, ∃ keys, move b = some (.opens keys) ∧ key ∈ keys := by
  induction front generalizing pending with
  | nil =>
    cases h with
    | plain hmove _ => rw [hmove] at ha; cases ha
    | opens hmove _ => rw [hmove] at ha; cases ha
    | answers hmove _ =>
      rw [hmove] at ha
      cases ha
      exact .inl mem_cons_self
  | cons b front ih =>
    cases h with
    | plain _ hrest =>
      rcases ih hrest with hnone | ⟨c, hc, hopens⟩
      · cases hnone
      · exact .inr ⟨c, mem_cons_of_mem b hc, hopens⟩
    | opens hmove hrest =>
      rcases ih hrest with hkey | ⟨c, hc, hopens⟩
      · exact .inr ⟨b, mem_cons_self, _, hmove, hkey⟩
      · exact .inr ⟨c, mem_cons_of_mem b hc, hopens⟩
    | answers _ hrest =>
      rcases ih hrest with hkey | ⟨c, hc, hopens⟩
      · exact .inl (mem_cons_of_mem _ hkey)
      · exact .inr ⟨c, mem_cons_of_mem b hc, hopens⟩

end Paired

end Foundation
