import Mathlib.Data.Int.Basic
import Mathlib.Tactic.Common

/-!
# Integers of a machine

A C++ integer type is the range of its values.  An arithmetic result outside the range of a signed
type is undefined (`checked`), while a conversion between types wraps around (`wrap`).
-/

namespace MasterControl
namespace Foundation

/-- The values of an integer type. -/
structure IntRange where
  min : ℤ
  max : ℤ
  min_le_max : min ≤ max

namespace IntRange

def int32 : IntRange := ⟨-2147483648, 2147483647, by decide⟩

def int64 : IntRange := ⟨-9223372036854775808, 9223372036854775807, by decide⟩

def uint32 : IntRange := ⟨0, 4294967295, by decide⟩

variable (r : IntRange) {n : ℤ}

def Holds (n : ℤ) : Prop := r.min ≤ n ∧ n ≤ r.max

instance : DecidablePred r.Holds := fun _ => inferInstanceAs (Decidable (_ ∧ _))

/-- The result of an arithmetic operation, if it is one. -/
def checked (n : ℤ) : Option ℤ := if r.Holds n then some n else none

/-- A conversion to the type. -/
def wrap (n : ℤ) : ℤ := (n - r.min) % (r.max - r.min + 1) + r.min

variable {r}

theorem checked_of_holds (h : r.Holds n) : r.checked n = some n := if_pos h

theorem checked_eq_none_iff : r.checked n = none ↔ ¬ r.Holds n := by
  constructor
  · intro hnone hholds
    rw [checked_of_holds hholds] at hnone
    cases hnone
  · intro h
    exact if_neg h

theorem checked_eq_some_iff {m : ℤ} : r.checked n = some m ↔ r.Holds n ∧ n = m := by
  rw [checked, Option.ite_none_right_eq_some, Option.some_inj]

theorem holds_wrap (r : IntRange) (n : ℤ) : r.Holds (r.wrap n) := by
  have hle := r.min_le_max
  have hpos : 0 < r.max - r.min + 1 := by omega
  have hlow := Int.emod_nonneg (n - r.min) (Int.ne_of_gt hpos)
  have hhigh := Int.emod_lt_of_pos (n - r.min) hpos
  rw [Holds, wrap]
  omega

/-- A conversion keeps exactly the values of the type. -/
theorem wrap_eq_self_iff : r.wrap n = n ↔ r.Holds n := by
  constructor
  · intro h
    rw [← h]
    exact holds_wrap r n
  · rintro ⟨hmin, hmax⟩
    rw [wrap, Int.emod_eq_of_lt (by omega) (by omega)]
    omega

/-- What is not too small for the type only gets smaller. -/
theorem wrap_le (h : r.min ≤ n) : r.wrap n ≤ n := by
  have hle := r.min_le_max
  have hnonneg := Int.mul_nonneg (a := r.max - r.min + 1) (by omega)
    (Int.ediv_nonneg (a := n - r.min) (b := r.max - r.min + 1) (by omega) (by omega))
  rw [wrap, Int.emod_def]
  omega

end IntRange

/-- An integer in a JSON document: the library keeps those of 64 bits, signed or unsigned. -/
structure JsonInteger where
  value : ℤ
  min_le : -9223372036854775808 ≤ value
  le_max : value ≤ 18446744073709551615

end Foundation
end MasterControl
