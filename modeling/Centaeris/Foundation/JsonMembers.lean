import Centaeris.Foundation.Json

namespace Foundation

/-!
# Writing values and members
-/

/-- An optional value and a signed integer as they are written. -/
def jsonOption {α : Type} (encode : α → Json) : Option α → Json
  | none => .null
  | some a => encode a

def jsonInt : Int → Json
  | .ofNat n => .number (.posInt n)
  | .negSucc n => .number (.negInt n)

namespace Json

/-- The value of a member set, with the members in the order of their keys. -/
def insertMember (key : String) (value : Json) : List (String × Json) → List (String × Json)
  | [] => [(key, value)]
  | (name, old) :: members =>
    if key == name then (name, value) :: members
    else if key < name then (key, value) :: (name, old) :: members
    else (name, old) :: insertMember key value members

def setMember? (key : String) (value : Json) : Json → Option Json
  | .object members => some (.object (insertMember key value members))
  | .null => some (.object [(key, value)])
  | _ => none

/-- The members with one value replaced. -/
def replaceMember (key : String) (value : Json) : List (String × Json) → List (String × Json)
  | [] => []
  | (name, old) :: members =>
    if key == name then (name, value) :: members
    else (name, old) :: replaceMember key value members

variable {key other : String} {value old : Json} {members : List (String × Json)}

theorem lookup_replaceMember_self (h : members.lookup key = some old) :
    (replaceMember key value members).lookup key = some value := by
  induction members with
  | nil => cases h
  | cons member members ih =>
    obtain ⟨name, current⟩ := member
    rw [List.lookup_cons] at h
    by_cases hkey : key == name
    · simp [replaceMember, List.lookup_cons, hkey]
    · simp only [hkey, Bool.false_eq_true, replaceMember, if_false, List.lookup_cons] at h ⊢
      exact ih h

theorem lookup_replaceMember_ne (h : other ≠ key) :
    (replaceMember key value members).lookup other = members.lookup other := by
  induction members with
  | nil => rfl
  | cons member members ih =>
    obtain ⟨name, current⟩ := member
    by_cases hkey : key == name
    · have hoth : (other == name) = false := by
        rw [beq_eq_false_iff_ne, ← beq_iff_eq.mp hkey]
        exact h
      simp [replaceMember, hkey, List.lookup_cons, hoth]
    · simp only [replaceMember, hkey, Bool.false_eq_true, if_false, List.lookup_cons, ih]

/-- Replacing a value and putting the old one back changes nothing. -/
theorem replaceMember_lookup (h : members.lookup key = some old) :
    replaceMember key old members = members := by
  induction members with
  | nil => rfl
  | cons member members ih =>
    obtain ⟨name, current⟩ := member
    rw [List.lookup_cons] at h
    by_cases hkey : key == name
    · simp only [hkey] at h
      cases h
      simp [replaceMember, hkey]
    · simp only [hkey] at h
      simp [replaceMember, hkey, ih h]

/-- Of two values only the later one stays. -/
theorem replaceMember_replaceMember :
    replaceMember key value (replaceMember key old members) = replaceMember key value members := by
  induction members with
  | nil => rfl
  | cons member members ih =>
    obtain ⟨name, current⟩ := member
    by_cases hkey : key == name
    · simp [replaceMember, hkey]
    · simp [replaceMember, hkey, ih]

end Json

end Foundation
