import MasterControl.Foundation.Json
import Mathlib.Algebra.Group.Nat.Defs
import Mathlib.Data.List.Basic
import Mathlib.Data.List.Induction
import Mathlib.Data.List.TakeWhile

/-!
# Texts as bytes

A `std::string` is a list of bytes, not necessarily UTF-8.  `validUtf8` is the test that a
strict JSON writer makes, as a machine that reads one byte after the other.  `decimal`
writes a number and `stoull` reads one back; `stoi` reads the digits a text starts with.  `getLines`
are the lines of a text.
-/

namespace MasterControl
namespace Foundation

/-! ## UTF-8 -/

/-- What the next byte has to be: the first of a character, or one within bounds, after which
so many continuation bytes are still owed. -/
inductive Utf8State where
  | lead
  | owed (low high : UInt8) (more : Nat)

/-- Between two characters, or before the last continuation bytes. -/
def Utf8State.continuing : Nat → Utf8State
  | 0 => .lead
  | more + 1 => .owed 0x80 0xBF more

def Utf8State.next : Utf8State → UInt8 → Option Utf8State
  | .lead, b =>
    if b < 0x80 then some .lead
    else if 0xC2 ≤ b ∧ b ≤ 0xDF then some (.owed 0x80 0xBF 0)
    else if b = 0xE0 then some (.owed 0xA0 0xBF 1)
    else if b = 0xED then some (.owed 0x80 0x9F 1)
    else if 0xE1 ≤ b ∧ b ≤ 0xEF then some (.owed 0x80 0xBF 1)
    else if b = 0xF0 then some (.owed 0x90 0xBF 2)
    else if 0xF1 ≤ b ∧ b ≤ 0xF3 then some (.owed 0x80 0xBF 2)
    else if b = 0xF4 then some (.owed 0x80 0x8F 2)
    else none
  | .owed low high more, b => if low ≤ b ∧ b ≤ high then some (.continuing more) else none

def Utf8State.run : Utf8State → Bytes → Option Utf8State
  | state, [] => some state
  | state, b :: text => (state.next b).bind fun state => run state text

/-- Whether a text is UTF-8. -/
def validUtf8 (text : Bytes) : Bool :=
  match Utf8State.run .lead text with
  | some .lead => true
  | _ => false

/-! ## Lines -/

/-- The lines that `std::getline` gives. -/
def getLines (text : Bytes) : List Bytes :=
  let parts := text.splitOn 10
  if parts.getLast? = some [] then parts.dropLast else parts

/-! ## Decimal numbers -/

def isSpaceByte (b : UInt8) : Bool := b = 32 || (9 ≤ b && b ≤ 13)

def isDigitByte (b : UInt8) : Bool := 48 ≤ b && b ≤ 57

/-- `std::to_string`. -/
def decimal (n : Nat) : Bytes := (Nat.toDigits 10 n).map fun c => c.toNat.toUInt8

/-- The value of a run of digits. -/
def decimalValue (digits : Bytes) : Nat :=
  digits.foldl (fun value b => 10 * value + (b.toNat - 48)) 0

/-- `std::stoull`: blanks, a sign, and the digits that follow, whatever comes after them.
`none` is an exception. -/
def stoull (text : Bytes) : Option Nat :=
  let text := text.dropWhile isSpaceByte
  let negative := text.head? = some 45
  let text := if negative || text.head? = some 43 then text.tail else text
  let digits := text.takeWhile isDigitByte
  let value := decimalValue digits
  if digits = [] then none
  else if 2 ^ 64 ≤ value then none
  else some (if negative then (2 ^ 64 - value) % 2 ^ 64 else value)

/-- `std::stoi`; `none` is an exception. -/
def stoi (text : Bytes) : Option ℤ :=
  let text := text.dropWhile isSpaceByte
  let negative := text.head? = some 45
  let text := if negative || text.head? = some 43 then text.tail else text
  let digits := text.takeWhile isDigitByte
  let value : ℤ := if negative then -decimalValue digits else decimalValue digits
  if digits = [] || value < -2147483648 || 2147483648 ≤ value then none else some value

section Decimal

variable {n m : Nat}

/-- A digit is neither a blank nor a sign. -/
theorem not_space_of_digit {b : UInt8} (h : isDigitByte b = true) :
    isSpaceByte b = false ∧ b ≠ 45 ∧ b ≠ 43 := by
  simp only [isDigitByte, isSpaceByte, Bool.and_eq_true, decide_eq_true_eq, Bool.or_eq_false_iff,
    Bool.and_eq_false_iff, decide_eq_false_iff_not] at h ⊢
  grind

theorem isDigitByte_of_mem_decimal {b : UInt8} (h : b ∈ decimal n) : isDigitByte b = true := by
  obtain ⟨c, hc, rfl⟩ := List.mem_map.mp h
  have hdigit := Nat.isDigit_of_mem_toDigits (by decide) le_rfl hc
  simp only [Char.isDigit, Bool.and_eq_true, decide_eq_true_eq, ge_iff_le, UInt32.le_iff_toNat_le]
    at hdigit
  have hlow : 48 ≤ c.toNat := hdigit.1
  have hhigh : c.toNat ≤ 57 := hdigit.2
  have hbyte : c.toNat.toUInt8.toNat = c.toNat := by
    simp only [Nat.toUInt8, UInt8.toNat_ofNat']
    omega
  simp only [isDigitByte, Bool.and_eq_true, decide_eq_true_eq, UInt8.le_iff_toNat_le, hbyte]
  exact ⟨hlow, hhigh⟩

theorem decimal_ne_nil (n : Nat) : decimal n ≠ [] := by
  rw [decimal, Ne, List.map_eq_nil_iff]
  exact Nat.toDigits_ne_nil

/-- A number ends in a zero exactly when it is a multiple of ten. -/
theorem getLast?_decimal : (decimal n).getLast? = some 48 ↔ 10 ∣ n := by
  have hlast : (Nat.toDigits 10 n).getLast? = some (n % 10).digitChar := by
    rw [Nat.toDigits_eq_if (by decide)]
    split_ifs with hsmall
    · rw [List.getLast?_singleton, Nat.mod_eq_of_lt hsmall]
    · exact List.getLast?_concat
  have hzero : ∀ r, r < 10 → (r.digitChar.toNat.toUInt8 = 48 ↔ r = 0) := by decide
  rw [decimal, List.getLast?_map, hlast, Option.map_some, Option.some.injEq,
    hzero _ (Nat.mod_lt n (by decide)), Nat.dvd_iff_mod_eq_zero]

theorem decimalValue_decimal (n : Nat) : decimalValue (decimal n) = n := by
  have hvalue : Nat.ofDigitChars 10 (Nat.toDigits 10 n) 0 = n := Nat.ofDigitChars_ten_toDigits
  rw [Nat.ofDigitChars_eq_foldl] at hvalue
  rw [decimalValue, decimal, List.foldl_map]
  refine Eq.trans (List.foldl_ext _ _ _ fun value c hc => ?_) hvalue
  have hdigit := Nat.isDigit_of_mem_toDigits (by decide) le_rfl hc
  simp only [Char.isDigit, Bool.and_eq_true, decide_eq_true_eq, ge_iff_le, UInt32.le_iff_toNat_le]
    at hdigit
  have hhigh : c.toNat ≤ 57 := hdigit.2
  have hbyte : c.toNat.toUInt8.toNat = c.toNat := by
    simp only [Nat.toUInt8, UInt8.toNat_ofNat']
    omega
  rw [hbyte]
  rfl

/-- A written number is read back. -/
theorem stoull_decimal (h : n < 2 ^ 64) : stoull (decimal n) = some n := by
  have hall : ∀ b ∈ decimal n, isDigitByte b = true := fun b hb => isDigitByte_of_mem_decimal hb
  obtain ⟨b, digits, heq⟩ := List.exists_cons_of_ne_nil (decimal_ne_nil n)
  have hb : isDigitByte b = true := hall b (by rw [heq]; exact List.mem_cons_self)
  have hfirst := not_space_of_digit hb
  have htake : (decimal n).takeWhile isDigitByte = decimal n :=
    List.takeWhile_eq_self_iff.mpr hall
  have hdrop : (decimal n).dropWhile isSpaceByte = decimal n := by
    rw [heq, List.dropWhile_cons, hfirst.1]
    rfl
  have hhead : ∀ c, b ≠ c → (decimal n).head? ≠ some c := by
    intro c hc hsome
    rw [heq] at hsome
    exact hc (Option.some.inj hsome)
  simp only [stoull, hdrop, hhead 45 hfirst.2.1, hhead 43 hfirst.2.2, decide_false, Bool.or_self,
    Bool.false_eq_true, if_false, htake, decimalValue_decimal, decimal_ne_nil, not_le.mpr h]

end Decimal

/-! ## A number in front of other text -/

section Leading

variable {digits rest : Bytes}

theorem decimalValue_concat (digits : Bytes) (b : UInt8) :
    decimalValue (digits ++ [b]) = 10 * decimalValue digits + (b.toNat - 48) := by
  rw [decimalValue, List.foldl_append]
  rfl

theorem decimalValue_lt (h : ∀ b ∈ digits, isDigitByte b = true) :
    decimalValue digits < 10 ^ digits.length := by
  induction digits using List.reverseRecOn with
  | nil => exact Nat.one_pos
  | append_singleton digits b ih =>
    have hvalue := ih fun c hc => h c (List.mem_append_left _ hc)
    have hb := h b (List.mem_append_right _ (List.mem_singleton_self b))
    simp only [isDigitByte, Bool.and_eq_true, decide_eq_true_eq, UInt8.le_iff_toNat_le] at hb
    have hhigh : b.toNat ≤ 57 := hb.2
    rw [decimalValue_concat, List.length_append, List.length_singleton, pow_succ]
    omega

theorem stoi_digits (hne : digits ≠ []) (h : ∀ b ∈ digits, isDigitByte b = true)
    (hrest : ∀ b ∈ rest.head?, isDigitByte b = false) (hsmall : decimalValue digits < 2147483648) :
    stoi (digits ++ rest) = some (decimalValue digits : ℤ) := by
  obtain ⟨b, front, rfl⟩ := List.exists_cons_of_ne_nil hne
  obtain ⟨hspace, hminus, hplus⟩ := not_space_of_digit (h b List.mem_cons_self)
  have hdrop : ((b :: front) ++ rest).dropWhile isSpaceByte = (b :: front) ++ rest := by
    rw [List.cons_append, List.dropWhile_cons_of_neg (by simp [hspace])]
  have htake : ((b :: front) ++ rest).takeWhile isDigitByte = b :: front := by
    rw [List.takeWhile_append_of_pos h]
    cases rest with
    | nil => exact List.append_nil _
    | cons c rest =>
      rw [List.takeWhile_cons_of_neg (by simp [hrest c rfl]), List.append_nil]
  have hhead : ∀ c, b ≠ c → ((b :: front) ++ rest).head? ≠ some c := fun c hc hsome =>
    hc (Option.some.inj hsome)
  simp only [stoi, hdrop, hhead 45 hminus, hhead 43 hplus, decide_false, Bool.or_self,
    Bool.false_eq_true, if_false, htake]
  exact if_neg (by simp; omega)

/-- Blanks are skipped, and then there has to be a digit or a sign. -/
theorem stoi_eq_none {b : UInt8} (hdigit : isDigitByte b = false)
    (hminus : b ≠ 45) (hplus : b ≠ 43) (hdrop : digits.dropWhile isSpaceByte = b :: rest) :
    stoi digits = none := by
  have hhead : ∀ c, b ≠ c → (b :: rest).head? ≠ some c := fun c hc hsome =>
    hc (Option.some.inj hsome)
  have htake : (b :: rest).takeWhile isDigitByte = [] := by
    rw [List.takeWhile_cons_of_neg (by simp [hdigit])]
  simp only [stoi, hdrop, hhead 45 hminus, hhead 43 hplus, decide_false, Bool.or_self,
    Bool.false_eq_true, if_false, htake]
  exact if_pos (by simp)

theorem length_decimal {n k : ℕ} (hlow : 10 ^ k ≤ n) (hhigh : n < 10 ^ (k + 1)) :
    (decimal n).length = k + 1 := by
  rw [decimal, List.length_map]
  have hle := (Nat.length_toDigits_le_iff (n := n) (b := 10) (by decide) k.succ_pos).mpr hhigh
  rcases Nat.eq_zero_or_pos k with rfl | hpos
  · have := List.length_pos_iff.mpr (Nat.toDigits_ne_nil (b := 10) (n := n))
    omega
  · have hlt := mt (Nat.length_toDigits_le_iff (n := n) (b := 10) (by decide) hpos).mp
      (not_lt.mpr hlow)
    omega

end Leading

end Foundation
end MasterControl
