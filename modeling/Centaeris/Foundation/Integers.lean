import Mathlib

namespace Foundation

/-!
# Machine integers

Bounded integers are numbers with the bound written out where it matters.
-/

/-- The largest `u32`. -/
def u32Limit : Nat := 2 ^ 32 - 1

def i64Max : Int := 2 ^ 63 - 1

def i64Min : Int := -(2 ^ 63)

/-- The sum that stays at the largest `u32`. -/
def satAdd32 (a b : Nat) : Nat := min (a + b) u32Limit

theorem satAdd32_of_le {a b : Nat} (h : a + b ≤ u32Limit) : satAdd32 a b = a + b :=
  min_eq_left h

/-- An integer as the `i64` with the same last 64 bits. -/
def wrapI64 (n : Int) : Int := Int.bmod n (2 ^ 64)

def satSubI64 (a b : Int) : Int := max i64Min (min i64Max (a - b))

end Foundation
