import MasterControl.Foundation.ByteText
import MasterControl.Foundation.Uri

/-!
# SQL texts

Between the words of an SQL text stand blanks and comments, and a semicolon alone is an empty
statement.  `behindTrivia` is what is left of a text from its first word on, and `firstWord` is that
word.  Where blanks alone stand in front, a reader who knows no comments finds the same word
(`behindTrivia_of_word`).
-/

namespace MasterControl
namespace Foundation

/-- Where a reader of an SQL text stands. -/
inductive Trivia where
  | outside
  | line
  | block

/-- The text behind blanks, comments and empty statements.  A comment that is not closed extends to
the end. -/
def skipFrom : Trivia → Bytes → Bytes
  | _, [] => []
  | .outside, 45 :: 45 :: rest => skipFrom .line rest
  | .outside, 47 :: 42 :: rest => skipFrom .block rest
  | .outside, b :: rest =>
    if isSpaceByte b || b = 59 then skipFrom .outside rest else b :: rest
  | .line, b :: rest => skipFrom (if b = 10 then .outside else .line) rest
  | .block, 42 :: 47 :: rest => skipFrom .outside rest
  | .block, _ :: rest => skipFrom .block rest

def behindTrivia (sql : Bytes) : Bytes := skipFrom .outside sql

def isWordByte (b : UInt8) : Bool :=
  isAlphaByte b || isDigitByte b || b = 95 || b = 36 || 128 ≤ b

def upperByte (b : UInt8) : UInt8 := if 97 ≤ b && b ≤ 122 then b - 32 else b

def upperBytes (text : Bytes) : Bytes := text.map upperByte

/-- The first word, in capital letters. -/
def firstWord (sql : Bytes) : Bytes := upperBytes ((behindTrivia sql).takeWhile isWordByte)

/-- What a C string holds. -/
def cString (text : Bytes) : Bytes := text.takeWhile (· ≠ 0)

section Trivia

variable {sql rest : Bytes} {b : UInt8}

theorem behindTrivia_cons_of_blank (h : (isSpaceByte b || b = 59) = true) (rest : Bytes) :
    behindTrivia (b :: rest) = behindTrivia rest := by
  unfold behindTrivia
  rw [skipFrom]
  · rw [if_pos h]
  · rintro more rfl -
    cases h
  · rintro more rfl -
    cases h

/-- A letter is neither a blank nor the start of a comment. -/
theorem behindTrivia_cons_of_alpha (h : isAlphaByte b = true) (rest : Bytes) :
    behindTrivia (b :: rest) = b :: rest := by
  unfold behindTrivia
  rw [skipFrom]
  · refine if_neg ?_
    rw [isAlphaByte, Bool.or_eq_true, Bool.and_eq_true, Bool.and_eq_true] at h
    simp only [decide_eq_true_eq, UInt8.le_iff_toNat_le] at h
    simp only [isSpaceByte, Bool.or_eq_true, Bool.and_eq_true, decide_eq_true_eq,
      UInt8.le_iff_toNat_le, ← UInt8.toNat_inj]
    have h65 : (65 : UInt8).toNat = 65 := rfl
    have h90 : (90 : UInt8).toNat = 90 := rfl
    have h97 : (97 : UInt8).toNat = 97 := rfl
    have h122 : (122 : UInt8).toNat = 122 := rfl
    have h32 : (32 : UInt8).toNat = 32 := rfl
    have h13 : (13 : UInt8).toNat = 13 := rfl
    have h59 : (59 : UInt8).toNat = 59 := rfl
    omega
  · rintro more rfl -
    cases h
  · rintro more rfl -
    cases h

/-- Blanks and semicolons hold no word. -/
theorem behindTrivia_of_all (h : sql.all fun b => isSpaceByte b || b = 59) :
    behindTrivia sql = [] := by
  induction sql with
  | nil => rfl
  | cons b sql ih =>
    rw [List.all_cons, Bool.and_eq_true] at h
    rw [behindTrivia_cons_of_blank h.1, ih h.2]

theorem behindTrivia_dropWhile (sql : Bytes) :
    behindTrivia (sql.dropWhile isSpaceByte) = behindTrivia sql := by
  induction sql with
  | nil => rfl
  | cons b sql ih =>
    rw [List.dropWhile_cons]
    split_ifs with hb
    · rw [ih, behindTrivia_cons_of_blank (by rw [hb, Bool.true_or])]
    · rfl

/-- Where a word stands behind the blanks, nothing else is skipped. -/
theorem behindTrivia_of_word (h : (sql.dropWhile isSpaceByte).takeWhile isAlphaByte ≠ []) :
    behindTrivia sql = sql.dropWhile isSpaceByte := by
  rw [← behindTrivia_dropWhile]
  cases hsql : sql.dropWhile isSpaceByte with
  | nil => rfl
  | cons b rest =>
    rw [hsql, List.takeWhile_cons] at h
    split_ifs at h with hb
    · exact behindTrivia_cons_of_alpha hb rest
    · exact absurd rfl h

end Trivia

section CString

variable {text : Bytes}

theorem cString_eq_self (h : 0 ∉ text) : cString text = text := by
  refine List.takeWhile_eq_self_iff.mpr fun b hb => decide_eq_true ?_
  rintro rfl
  exact h hb

theorem zero_not_mem_cString (text : Bytes) : 0 ∉ cString text := by
  intro h
  have hne := List.mem_takeWhile_imp h
  exact of_decide_eq_true hne rfl

theorem dropWhile_cString (text : Bytes) :
    (cString text).dropWhile isSpaceByte = cString (text.dropWhile isSpaceByte) := by
  induction text with
  | nil => rfl
  | cons b text ih =>
    unfold cString at ih ⊢
    rw [List.takeWhile_cons, List.dropWhile_cons]
    split_ifs with hzero hb
    · rw [List.dropWhile_cons, if_pos hb, ih]
    · rw [List.dropWhile_cons, if_neg hb, List.takeWhile_cons, if_pos hzero]
    · rw [decide_eq_true_iff, not_not] at hzero
      rw [hzero] at *
      contradiction
    · rw [List.takeWhile_cons, if_neg hzero]
      rfl

theorem takeWhile_cString (text : Bytes) :
    (cString text).takeWhile isAlphaByte = text.takeWhile isAlphaByte := by
  rw [cString, List.takeWhile_takeWhile]
  congr 1
  funext b
  by_cases hb : b = 0
  · rw [hb]
    rfl
  · simp [hb]

end CString

section Words

variable {word : Bytes}

/-- What is written in capital letters is a word of letters. -/
theorem isAlphaByte_of_upperByte {b c : UInt8} (h : upperByte b = c) (hc : 65 ≤ c ∧ c ≤ 90) :
    isAlphaByte b = true := by
  unfold upperByte at h
  rw [isAlphaByte, Bool.or_eq_true]
  split_ifs at h with hb
  · exact Or.inr hb
  · rw [h]
    exact Or.inl (by rw [Bool.and_eq_true]; exact ⟨decide_eq_true hc.1, decide_eq_true hc.2⟩)

/-- A word of capital letters is read by letters alone. -/
theorem takeWhile_isAlphaByte (text : Bytes) (hword : ∀ c ∈ word, 65 ≤ c ∧ c ≤ 90)
    (h : upperBytes (text.takeWhile isWordByte) = word) :
    text.takeWhile isAlphaByte = text.takeWhile isWordByte := by
  have hletters : ∀ b ∈ text.takeWhile isWordByte, isAlphaByte b = true := by
    intro b hb
    have hmem : upperByte b ∈ word := by
      rw [← h]
      exact List.mem_map_of_mem hb
    exact isAlphaByte_of_upperByte rfl (hword _ hmem)
  have hboth : text.takeWhile isAlphaByte = (text.takeWhile isWordByte).takeWhile isAlphaByte := by
    rw [List.takeWhile_takeWhile]
    congr 1
    funext b
    by_cases hb : isAlphaByte b = true
    · simp [isWordByte, hb]
    · simp [hb]
  rw [hboth]
  exact List.takeWhile_eq_self_iff.mpr hletters

end Words

end Foundation
end MasterControl
