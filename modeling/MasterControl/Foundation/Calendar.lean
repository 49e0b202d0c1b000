import Mathlib.Data.List.TakeWhile
import Mathlib.Data.String.Basic
import Mathlib.Order.Monotone.Basic
import Mathlib.Tactic.Common

/-!
# UTC times and their texts

A time is a number of seconds since the beginning of 1970.  `gmtime` breaks it down by the
Gregorian calendar, `putTime` writes it as in `2026-01-31T23:59:59Z`, and `readTime` reads
such a text back.  Up to the year 9999 every field of the text has a fixed width, so the
order of the texts is the order of the times (`formatUtc_lt`); what is written is read back
(`readTime_formatUtc`).
-/

namespace MasterControl
namespace Foundation

/-! ## Decimal fields -/

/-- The character of a digit. -/
def digit (d : Nat) : Char := Char.ofNat (48 + d)

/-- A number in decimal, with zeros in front up to a width. -/
def pad : Nat → Nat → List Char
  | 0, n => if n = 0 then [] else Nat.toDigits 10 n
  | width + 1, n => pad width (n / 10) ++ [digit (n % 10)]

theorem pad_succ (width n : Nat) : pad (width + 1) n = pad width (n / 10) ++ [digit (n % 10)] := rfl

section Pad

variable {w n m : Nat}

theorem digit_lt_digit {d e : Nat} (h : d < e) (he : e < 10) : digit d < digit e := by
  have hall : ∀ e < 10, ∀ d < e, digit d < digit e := by decide
  exact hall e he d h

theorem length_pad (h : n < 10 ^ w) : (pad w n).length = w := by
  induction w generalizing n with
  | zero =>
    rw [Nat.pow_zero, Nat.lt_one_iff] at h
    rw [pad, if_pos h, List.length_nil]
  | succ w ih =>
    rw [Nat.pow_succ] at h
    rw [pad_succ, List.length_append, ih (by omega), List.length_singleton]

/-- Before a longer or shorter rest, a smaller list of the same length stays smaller. -/
theorem append_lt_append {u v x y : List Char} (hlen : u.length = v.length) (h : u < v) :
    u ++ x < v ++ y := by
  induction u generalizing v with
  | nil => rw [List.eq_nil_of_length_eq_zero hlen.symm] at h; exact absurd h (List.not_lt_nil _)
  | cons a u ih =>
    cases v with
    | nil => cases hlen
    | cons b v =>
      rw [List.cons_append, List.cons_append, List.cons_lt_cons_iff]
      rcases List.cons_lt_cons_iff.mp h with hab | ⟨hab, huv⟩
      · exact Or.inl hab
      · exact Or.inr ⟨hab, ih (Nat.succ.inj hlen) huv⟩

/-- Fields of one width are ordered as their numbers. -/
theorem pad_lt_pad (h : n < m) (hm : m < 10 ^ w) : pad w n < pad w m := by
  induction w generalizing n m with
  | zero => omega
  | succ w ih =>
    rw [Nat.pow_succ] at hm
    rw [pad_succ, pad_succ]
    rcases Nat.lt_or_ge (n / 10) (m / 10) with hdiv | hdiv
    · refine append_lt_append ?_ (ih hdiv (by omega))
      rw [length_pad (by omega), length_pad (by omega)]
    · have heq : n / 10 = m / 10 := by omega
      rw [heq]
      refine List.append_left_lt ?_
      exact List.cons_lt_cons_iff.mpr (Or.inl (digit_lt_digit (by omega) (by omega)))

/-- Texts of two fields are ordered by the first fields, then by the rest. -/
theorem pad_append_lt {x y : List Char} (hn : n < 10 ^ w) (hm : m < 10 ^ w)
    (h : n < m ∨ (n = m ∧ x < y)) : pad w n ++ x < pad w m ++ y := by
  rcases h with h | ⟨rfl, h⟩
  · exact append_lt_append (by rw [length_pad hn, length_pad hm]) (pad_lt_pad h hm)
  · exact List.append_left_lt h

end Pad

/-! ## Reading a field -/

/-- The value of a run of digits. -/
def digitsValue (digits : List Char) : Nat :=
  digits.foldl (fun value c => value * 10 + (c.toNat - 48)) 0

/-- A number of at least one and at most `width` digits, within bounds, at the front. -/
def readNumber (width low high : Nat) (text : List Char) : Option (Nat × List Char) :=
  let digits := (text.take width).takeWhile Char.isDigit
  let value := digitsValue digits
  if digits.isEmpty || value < low || high < value then none
  else some (value, text.drop digits.length)

/-- One given character at the front. -/
def readLiteral (c : Char) : List Char → Option (List Char)
  | [] => none
  | a :: text => if a = c then some text else none

section Read

variable {w n low high : Nat} {rest : List Char}

theorem isDigit_digit {d : Nat} (h : d < 10) : (digit d).isDigit = true := by
  have hall : ∀ d < 10, (digit d).isDigit = true := by decide
  exact hall d h

theorem toNat_digit {d : Nat} (h : d < 10) : (digit d).toNat - 48 = d := by
  have hall : ∀ d < 10, (digit d).toNat - 48 = d := by decide
  exact hall d h

theorem isDigit_of_mem_pad (h : n < 10 ^ w) : ∀ c ∈ pad w n, c.isDigit = true := by
  induction w generalizing n with
  | zero =>
    rw [Nat.pow_zero, Nat.lt_one_iff] at h
    rw [pad, if_pos h]
    intro c hc
    cases hc
  | succ w ih =>
    rw [Nat.pow_succ] at h
    intro c hc
    rcases List.mem_append.mp hc with hc | hc
    · exact ih (by omega) c hc
    · rw [List.mem_singleton.mp hc]
      exact isDigit_digit (by omega)

theorem digitsValue_pad (h : n < 10 ^ w) : digitsValue (pad w n) = n := by
  induction w generalizing n with
  | zero =>
    rw [Nat.pow_zero, Nat.lt_one_iff] at h
    rw [pad, if_pos h, h]
    rfl
  | succ w ih =>
    rw [Nat.pow_succ] at h
    have hdiv := ih (n := n / 10) (by omega)
    rw [digitsValue] at hdiv
    rw [pad_succ, digitsValue, List.foldl_append, hdiv, List.foldl_cons, List.foldl_nil,
      toNat_digit (by omega)]
    omega

/-- A field within its bounds is read back. -/
theorem readNumber_pad (hw : 0 < w) (h : n < 10 ^ w) (hlow : low ≤ n) (hhigh : n ≤ high) :
    readNumber w low high (pad w n ++ rest) = some (n, rest) := by
  have hlen := length_pad h
  have hdigits : ((pad w n ++ rest).take w).takeWhile Char.isDigit = pad w n := by
    rw [List.take_left' hlen, List.takeWhile_eq_self_iff]
    exact isDigit_of_mem_pad h
  have hne : (pad w n).isEmpty = false := by
    rw [List.isEmpty_eq_false_iff, ← List.length_pos_iff, hlen]
    exact hw
  simp only [readNumber, hdigits, digitsValue_pad h, hne, Bool.false_or, List.drop_left]
  rw [if_neg]
  simp only [Bool.or_eq_true, decide_eq_true_eq, not_or, not_lt]
  exact ⟨hlow, hhigh⟩

end Read

/-! ## Dates -/

structure Date where
  year : Nat
  month : Nat
  day : Nat
  deriving DecidableEq

def isLeapYear (year : Nat) : Bool := year % 4 = 0 && (year % 100 ≠ 0 || year % 400 = 0)

def daysInMonth (year month : Nat) : Nat :=
  if month = 2 then if isLeapYear year then 29 else 28
  else if month = 4 ∨ month = 6 ∨ month = 9 ∨ month = 11 then 30
  else 31

/-- The next day. -/
def Date.next (d : Date) : Date :=
  if d.day < daysInMonth d.year d.month then { d with day := d.day + 1 }
  else if d.month < 12 then { year := d.year, month := d.month + 1, day := 1 }
  else { year := d.year + 1, month := 1, day := 1 }

/-- The date a number of days after the first of January 1970. -/
def dateOfDay : Nat → Date
  | 0 => { year := 1970, month := 1, day := 1 }
  | n + 1 => (dateOfDay n).next

/-- The days of the months before one in its year. -/
def daysBeforeMonth (year : Nat) : Nat → Nat
  | 0 => 0
  | 1 => 0
  | month + 2 => daysBeforeMonth year (month + 1) + daysInMonth year (month + 1)

/-- The days of the first years from 1970 on. -/
def daysOfYears : Nat → Nat
  | 0 => 0
  | k + 1 => daysOfYears k + if isLeapYear (1970 + k) then 366 else 365

/-- The number of the day of a date from 1970 on. -/
def dayOfDate (d : Date) : Nat :=
  daysOfYears (d.year - 1970) + daysBeforeMonth d.year d.month + (d.day - 1)

/-- A date of the calendar. -/
structure Date.Valid (d : Date) : Prop where
  year : 1970 ≤ d.year
  month : 1 ≤ d.month ∧ d.month ≤ 12
  day : 1 ≤ d.day ∧ d.day ≤ daysInMonth d.year d.month

/-- Dates in their order. -/
def Date.before (d e : Date) : Prop :=
  d.year < e.year ∨ (d.year = e.year ∧
    (d.month < e.month ∨ (d.month = e.month ∧ d.day < e.day)))

theorem daysInMonth_le (year month : Nat) : daysInMonth year month ≤ 31 := by
  unfold daysInMonth
  split_ifs <;> omega

theorem one_le_daysInMonth (year month : Nat) : 1 ≤ daysInMonth year month := by
  unfold daysInMonth
  split_ifs <;> omega

section Dates

variable {d e f : Date}

theorem Date.before_trans (hde : d.before e) (hef : e.before f) : d.before f := by
  unfold Date.before at *
  omega

theorem Date.before_next (d : Date) : d.before d.next := by
  unfold Date.before Date.next
  split_ifs with hday hmonth
  · exact Or.inr ⟨rfl, Or.inr ⟨rfl, Nat.lt_succ_self _⟩⟩
  · exact Or.inr ⟨rfl, Or.inl (Nat.lt_succ_self _)⟩
  · exact Or.inl (Nat.lt_succ_self _)

theorem Date.Valid.next (h : d.Valid) : d.next.Valid := by
  unfold Date.next
  split_ifs with hday hmonth
  · exact ⟨h.year, h.month, Nat.le_add_left 1 _, hday⟩
  · exact ⟨h.year, ⟨Nat.le_add_left 1 _, hmonth⟩, le_rfl, one_le_daysInMonth _ _⟩
  · exact ⟨Nat.le_succ_of_le h.year, ⟨le_rfl, Nat.le_add_left 1 11⟩, le_rfl, one_le_daysInMonth _ _⟩

theorem valid_dateOfDay (n : Nat) : (dateOfDay n).Valid := by
  induction n with
  | zero => exact ⟨le_rfl, ⟨le_rfl, by decide⟩, le_rfl, by decide⟩
  | succ n ih => exact ih.next

theorem dateOfDay_before {n m : Nat} (h : n < m) : (dateOfDay n).before (dateOfDay m) := by
  induction m with
  | zero => omega
  | succ m ih =>
    have hnext := (dateOfDay m).before_next
    rcases Nat.lt_succ_iff_lt_or_eq.mp h with h | rfl
    · exact Date.before_trans (ih h) hnext
    · exact hnext

theorem daysBeforeMonth_december (year : Nat) :
    daysBeforeMonth year 12 + 31 = if isLeapYear year then 366 else 365 := by
  cases h : isLeapYear year <;> simp [daysBeforeMonth, daysInMonth, h]

/-- The next day has the next number. -/
theorem dayOfDate_next (h : d.Valid) : dayOfDate d.next = dayOfDate d + 1 := by
  obtain ⟨hyear, ⟨hmonth₁, hmonth₂⟩, hday₁, hday₂⟩ := h
  unfold Date.next
  split_ifs with hlast hmonth
  · simp only [dayOfDate]
    omega
  · -- The last day of a month: the month is added to those before.
    obtain ⟨month, hm⟩ : ∃ month, d.month = month + 1 := ⟨d.month - 1, by omega⟩
    rw [hm] at hlast hday₂
    simp only [dayOfDate, hm, daysBeforeMonth]
    omega
  · -- The last day of December: the year is added to those before.
    obtain ⟨k, hk⟩ : ∃ k, d.year = 1970 + k := ⟨d.year - 1970, by omega⟩
    have hm : d.month = 12 := by omega
    have hlen : daysInMonth d.year 12 = 31 := rfl
    have hdecember := daysBeforeMonth_december d.year
    have hjanuary : ∀ year, daysBeforeMonth year 1 = 0 := fun _ => rfl
    rw [hm, hlen] at hlast hday₂
    rw [hk] at hdecember
    simp only [dayOfDate, hm, hk, hjanuary, Nat.add_assoc, Nat.add_sub_cancel_left, daysOfYears]
    omega

/-- A day is found again from its date. -/
theorem dayOfDate_dateOfDay (n : Nat) : dayOfDate (dateOfDay n) = n := by
  induction n with
  | zero => rfl
  | succ n ih => rw [dateOfDay, dayOfDate_next (valid_dateOfDay n), ih]

end Dates

/-! ## Times -/

/-- A time broken down. -/
structure Tm where
  date : Date
  hour : Nat
  minute : Nat
  second : Nat

def gmtime (time : Nat) : Tm where
  date := dateOfDay (time / 86400)
  hour := time % 86400 / 3600
  minute := time % 3600 / 60
  second := time % 60

/-- `_mkgmtime`: a date before 1970 is an error. -/
def timegm (tm : Tm) : Int :=
  if tm.date.year < 1970 then -1
  else dayOfDate tm.date * 86400 + tm.hour * 3600 + tm.minute * 60 + tm.second

/-- `%Y-%m-%dT%H:%M:%SZ`. -/
def putTime (tm : Tm) : List Char :=
  pad 4 tm.date.year ++ '-' :: (pad 2 tm.date.month ++ '-' :: (pad 2 tm.date.day ++ 'T' ::
    (pad 2 tm.hour ++ ':' :: (pad 2 tm.minute ++ ':' :: (pad 2 tm.second ++ ['Z'])))))

/-- A time as an ISO-8601 text. -/
def formatUtc (time : Nat) : String := String.ofList (putTime (gmtime time))

/-- What `std::get_time` accepts under the same format; what follows is left unread. -/
def getTime (text : List Char) : Option Tm := do
  let (year, text) ← readNumber 4 0 9999 text
  let text ← readLiteral '-' text
  let (month, text) ← readNumber 2 1 12 text
  let text ← readLiteral '-' text
  let (day, text) ← readNumber 2 1 31 text
  let text ← readLiteral 'T' text
  let (hour, text) ← readNumber 2 0 23 text
  let text ← readLiteral ':' text
  let (minute, text) ← readNumber 2 0 59 text
  let text ← readLiteral ':' text
  let (second, text) ← readNumber 2 0 60 text
  let _ ← readLiteral 'Z' text
  pure { date := { year, month, day }, hour, minute, second }

/-- An ISO-8601 text as a time. -/
def readTime (text : String) : Option Int := (getTime text.toList).map timegm

/-- The year of a time. -/
def yearOf (time : Nat) : Nat := (gmtime time).date.year

section Times

variable {a b : Nat}

theorem timegm_gmtime (time : Nat) : timegm (gmtime time) = time := by
  have hyear := (valid_dateOfDay (time / 86400)).year
  simp only [timegm, gmtime, dayOfDate_dateOfDay, not_lt.mpr hyear, if_false]
  omega

theorem yearOf_mono (h : a ≤ b) : yearOf a ≤ yearOf b := by
  rcases Nat.lt_or_ge (a / 86400) (b / 86400) with hday | hday
  · have hbefore := dateOfDay_before hday
    unfold Date.before at hbefore
    simp only [yearOf, gmtime]
    omega
  · have heq : a / 86400 = b / 86400 := by omega
    simp only [yearOf, gmtime, heq, le_rfl]

/-- Later times have larger texts. -/
theorem formatUtc_lt_formatUtc (h : a < b) (hb : yearOf b < 10000) : formatUtc a < formatUtc b := by
  have ha : yearOf a < 10000 := (yearOf_mono h.le).trans_lt hb
  have hva := valid_dateOfDay (a / 86400)
  have hvb := valid_dateOfDay (b / 86400)
  have hda := daysInMonth_le (dateOfDay (a / 86400)).year (dateOfDay (a / 86400)).month
  have hdb := daysInMonth_le (dateOfDay (b / 86400)).year (dateOfDay (b / 86400)).month
  have hma := hva.month
  have hmb := hvb.month
  have hya := hva.day
  have hyb := hvb.day
  rw [formatUtc, formatUtc, String.lt_iff_toList_lt, String.toList_ofList, String.toList_ofList]
  simp only [putTime, gmtime]
  simp only [yearOf, gmtime] at ha hb
  have hseparated : ∀ (c : Char) {x y : List Char}, x < y → c :: x < c :: y :=
    fun c x y h => List.cons_lt_cons_iff.mpr (Or.inr ⟨rfl, h⟩)
  rcases Nat.lt_or_ge (a / 86400) (b / 86400) with hday | hday
  · -- The dates decide.
    rcases dateOfDay_before hday with hyear | ⟨hyear, hmonth | ⟨hmonth, hdate⟩⟩
    · exact pad_append_lt (by omega) (by omega) (Or.inl hyear)
    · refine pad_append_lt (by omega) (by omega) (Or.inr ⟨hyear, hseparated _ ?_⟩)
      exact pad_append_lt (by omega) (by omega) (Or.inl hmonth)
    · refine pad_append_lt (by omega) (by omega) (Or.inr ⟨hyear, hseparated _ ?_⟩)
      refine pad_append_lt (by omega) (by omega) (Or.inr ⟨hmonth, hseparated _ ?_⟩)
      exact pad_append_lt (by omega) (by omega) (Or.inl hdate)
  · -- The dates are one, and the times of day decide.
    have heq : a / 86400 = b / 86400 := by omega
    rw [heq]
    refine List.append_left_lt (hseparated _ (List.append_left_lt (hseparated _
      (List.append_left_lt (hseparated _ ?_)))))
    refine pad_append_lt (by omega) (by omega) ?_
    rcases Nat.lt_or_ge (a % 86400 / 3600) (b % 86400 / 3600) with hhour | hhour
    · exact Or.inl hhour
    refine Or.inr ⟨by omega, hseparated _ (pad_append_lt (by omega) (by omega) ?_)⟩
    rcases Nat.lt_or_ge (a % 3600 / 60) (b % 3600 / 60) with hminute | hminute
    · exact Or.inl hminute
    refine Or.inr ⟨by omega, hseparated _ (pad_append_lt (by omega) (by omega) (Or.inl ?_))⟩
    omega

/-- Up to the year 9999 the order of the texts is the order of the times, also against later
times. -/
theorem lt_of_formatUtc_lt (ha : yearOf a < 10000) (h : formatUtc a < formatUtc b) : a < b := by
  by_contra hba
  rcases Nat.lt_or_eq_of_le (Nat.le_of_not_lt hba) with hlt | rfl
  · exact lt_asymm h (formatUtc_lt_formatUtc hlt ha)
  · exact lt_irrefl _ h

/-- A written time is read back. -/
theorem readTime_formatUtc (h : yearOf a < 10000) : readTime (formatUtc a) = some (a : Int) := by
  have hvalid := valid_dateOfDay (a / 86400)
  have hdays := daysInMonth_le (dateOfDay (a / 86400)).year (dateOfDay (a / 86400)).month
  have hmonth := hvalid.month
  have hday := hvalid.day
  simp only [yearOf, gmtime] at h
  have htm : getTime (putTime (gmtime a)) = some (gmtime a) := by
    simp only [getTime, putTime, gmtime]
    rw [readNumber_pad (by decide) (by omega) (by omega) (by omega)]
    simp only [Option.bind_eq_bind, Option.bind_some, readLiteral, if_true]
    rw [readNumber_pad (by decide) (by omega) (by omega) (by omega)]
    simp only [Option.bind_some, if_true]
    rw [readNumber_pad (by decide) (by omega) (by omega) (by omega)]
    simp only [Option.bind_some, if_true]
    rw [readNumber_pad (by decide) (by omega) (by omega) (by omega)]
    simp only [Option.bind_some, if_true]
    rw [readNumber_pad (by decide) (by omega) (by omega) (by omega)]
    simp only [Option.bind_some, if_true]
    rw [readNumber_pad (by decide) (by omega) (by omega) (by omega)]
    rfl
  rw [readTime, formatUtc, String.toList_ofList, htm, Option.map_some, timegm_gmtime]

end Times

end Foundation
end MasterControl
