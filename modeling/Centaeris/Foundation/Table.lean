import Centaeris.Foundation.Outcome

namespace Foundation

open List

/-!
# Tables

A table is a finite map with an order on its keys (`Std.ExtTreeMap`); it stands for
ordered and for unordered maps of a program, since equal tables are those with equal
lookups.  The lookup lemmas are stated with equality of keys.
-/

/-- A finite map from `κ` to `α`. -/
abbrev Table (κ α : Type) [Ord κ] := Std.ExtTreeMap κ α

namespace Table

variable {κ α : Type} [LinearOrder κ]

@[simp] theorem getElem?_insert (t : Table κ α) (k a : κ) (v : α) :
    (t.insert k v)[a]? = if k = a then some v else t[a]? := by
  rw [Std.ExtTreeMap.getElem?_insert]
  simp only [Std.LawfulEqOrd.compare_eq_iff_eq]

@[simp] theorem getElem?_erase (t : Table κ α) (k a : κ) :
    (t.erase k)[a]? = if k = a then none else t[a]? := by
  rw [Std.ExtTreeMap.getElem?_erase]
  simp only [Std.LawfulEqOrd.compare_eq_iff_eq]

@[simp] theorem getElem?_empty (a : κ) : (∅ : Table κ α)[a]? = none :=
  Std.ExtTreeMap.getElem?_empty

variable {t u : Table κ α}

/-- Tables with the same lookups are equal. -/
theorem ext (h : ∀ k : κ, t[k]? = u[k]?) : t = u :=
  Std.ExtTreeMap.ext_getElem? h

/-- The entries in key order. -/
theorem sorted_toList (t : Table κ α) : t.toList.Pairwise (fun a b => a.1 < b.1) := by
  refine Std.ExtTreeMap.ordered_keys_toList.imp ?_
  intro a b h
  exact compare_lt_iff_lt.mp h

variable {k a : κ} {v w : α}

/-- What is found after an insertion is the new entry, or was found under another key. -/
theorem found_of_insert (h : (t.insert k v)[a]? = some w) :
    k = a ∧ v = w ∨ k ≠ a ∧ t[a]? = some w := by
  rw [getElem?_insert] at h
  split at h
  · exact .inl ⟨‹_›, Option.some.inj h⟩
  · exact .inr ⟨‹_›, h⟩

theorem found_of_erase (h : (t.erase k)[a]? = some w) : k ≠ a ∧ t[a]? = some w := by
  rw [getElem?_erase] at h
  split at h
  · cases h
  · exact ⟨‹_›, h⟩

/-- An insertion under a new key keeps what was found. -/
theorem insert_keeps (hnew : t[k]? = none) (h : t[a]? = some w) :
    (t.insert k v)[a]? = some w := by
  rw [getElem?_insert, if_neg]
  · exact h
  · rintro rfl
    rw [hnew] at h
    cases h

theorem mem_toList : (k, v) ∈ t.toList ↔ t[k]? = some v :=
  Std.ExtTreeMap.mem_toList_iff_getElem?_eq_some

/-- Sizes by keys. -/
theorem size_le_of_subset (h : ∀ k, k ∈ t → k ∈ u) : t.size ≤ u.size := by
  rw [← Std.ExtTreeMap.length_keys, ← Std.ExtTreeMap.length_keys]
  apply List.Subperm.length_le
  apply subperm_of_subset Std.ExtTreeMap.nodup_keys
  intro k hk
  exact Std.ExtTreeMap.mem_keys.mpr (h k (Std.ExtTreeMap.mem_keys.mp hk))

theorem size_lt_of_subset (h : ∀ k, k ∈ t → k ∈ u) (hk : k ∈ u) (hmissing : k ∉ t) :
    t.size < u.size := by
  rw [← Std.ExtTreeMap.length_keys, ← Std.ExtTreeMap.length_keys]
  have hnodup : (k :: t.keys).Nodup :=
    nodup_cons.mpr ⟨fun hin => hmissing (Std.ExtTreeMap.mem_keys.mp hin),
      Std.ExtTreeMap.nodup_keys⟩
  have hsubset : k :: t.keys ⊆ u.keys := by
    intro a ha
    rcases mem_cons.mp ha with rfl | ha
    · exact Std.ExtTreeMap.mem_keys.mpr hk
    · exact Std.ExtTreeMap.mem_keys.mpr (h a (Std.ExtTreeMap.mem_keys.mp ha))
  exact (subperm_of_subset hnodup hsubset).length_le

theorem mem_of_getElem?_eq_some (h : t[k]? = some v) : k ∈ t := by
  rw [Std.ExtTreeMap.mem_iff_isSome_getElem?, h]
  rfl

/-- Different keys of a table are not more than its size. -/
theorem length_le_size {ks : List κ} (hnodup : ks.Nodup) (h : ∀ k ∈ ks, k ∈ t) :
    ks.length ≤ t.size := by
  rw [← Std.ExtTreeMap.length_keys]
  apply List.Subperm.length_le
  apply subperm_of_subset hnodup
  intro k hk
  exact Std.ExtTreeMap.mem_keys.mpr (h k hk)

/-- Inserting what is already there changes nothing. -/
theorem insert_of_getElem?_eq_some (h : t[k]? = some v) :
    t.insert k v = t := by
  apply ext
  intro a
  rw [getElem?_insert]
  by_cases hk : k = a
  · rw [if_pos hk, ← hk, h]
  · rw [if_neg hk]

/-- An insertion changes nothing exactly when the entry is already there. -/
theorem insert_eq_self_iff :
    t.insert k v = t ↔ t[k]? = some v := by
  refine ⟨fun h => ?_, insert_of_getElem?_eq_some⟩
  rw [← h, getElem?_insert, if_pos rfl]

variable {β : Type}

/-- Lists in the order of an asymmetric relation with the same members are equal. -/
theorem eq_of_pairwise_asymm {γ : Type} {r : γ → γ → Prop} {as bs : List γ}
    (hasymm : ∀ a b, r a b → ¬r b a) (has : as.Pairwise r) (hbs : bs.Pairwise r)
    (hm : ∀ x, x ∈ as ↔ x ∈ bs) : as = bs := by
  have hnodup : ∀ xs : List γ, xs.Pairwise r → xs.Nodup := by
    intro xs hxs
    refine hxs.imp ?_
    rintro a _ hr rfl
    exact hasymm a a hr hr
  refine List.Perm.eq_of_pairwise ?_ has hbs
    ((perm_ext_iff_of_nodup (hnodup as has) (hnodup bs hbs)).mpr hm)
  intro a b _ _ hab hba
  exact absurd hba (hasymm a b hab)

theorem eq_of_strictly_sorted {as bs : List (κ × β)} (has : as.Pairwise (fun a b => a.1 < b.1))
    (hbs : bs.Pairwise (fun a b => a.1 < b.1)) (hm : ∀ x, x ∈ as ↔ x ∈ bs) : as = bs :=
  eq_of_pairwise_asymm (fun _ _ => lt_asymm) has hbs hm

section Keyed

variable {β : Type} (f : κ → α → Option β) (t : Table κ α)

private theorem sorted_keyed :
    (t.toList.filterMap (fun entry => (f entry.1 entry.2).map (entry.1, ·))).Pairwise
      (fun a b => a.1 < b.1) := by
  rw [pairwise_filterMap]
  refine (sorted_toList t).imp ?_
  intro a b hlt x hx y hy
  obtain ⟨_, -, rfl⟩ := Option.map_eq_some_iff.mp hx
  obtain ⟨_, -, rfl⟩ := Option.map_eq_some_iff.mp hy
  exact hlt

private theorem mem_keyed {b : β} :
    (k, b) ∈ t.toList.filterMap (fun entry => (f entry.1 entry.2).map (entry.1, ·)) ↔
      (t[k]?).bind (f k) = some b := by
  simp only [mem_filterMap, Prod.exists, mem_toList, Option.map_eq_some_iff, Prod.mk.injEq,
    Option.bind_eq_some_iff]
  constructor
  · rintro ⟨k', v, hv, b', hb, rfl, rfl⟩
    exact ⟨v, hv, hb⟩
  · rintro ⟨v, hv, hb⟩
    exact ⟨k, v, hv, b, hb, rfl, rfl⟩

private theorem map_snd_keyed :
    (t.toList.filterMap (fun entry => (f entry.1 entry.2).map (entry.1, ·))).map Prod.snd =
      t.toList.filterMap (fun entry => f entry.1 entry.2) := by
  rw [map_filterMap]
  refine filterMap_congr fun entry _ => ?_
  cases f entry.1 entry.2 <;> rfl

end Keyed

/-- A listing depends only on what each key gives. -/
theorem filterMap_toList_congr {α' : Type} {u : Table κ α'} (f : κ → α → Option β)
    (g : κ → α' → Option β) (h : ∀ k : κ, (t[k]?).bind (f k) = (u[k]?).bind (g k)) :
    t.toList.filterMap (fun entry => f entry.1 entry.2) =
      u.toList.filterMap (fun entry => g entry.1 entry.2) := by
  -- the kept values with their keys are strictly sorted lists with the same members
  have hkeyed : t.toList.filterMap (fun entry => (f entry.1 entry.2).map (entry.1, ·)) =
      u.toList.filterMap (fun entry => (g entry.1 entry.2).map (entry.1, ·)) := by
    refine eq_of_strictly_sorted (sorted_keyed f t) (sorted_keyed g u) ?_
    rintro ⟨k, b⟩
    rw [mem_keyed f t, mem_keyed g u, h]
  have hvalues := congrArg (List.map Prod.snd) hkeyed
  rwa [map_snd_keyed, map_snd_keyed] at hvalues

end Table

end Foundation
