import MasterControl.Http.Request

/-!
# How the headers are scanned

`parseContentLengthHeader` and `findHeaderValueCaseInsensitive` go through a request by position:
from the first line break to the first empty line, one line after the other, and in each of them up
to the first colon.  Here the scanning is modelled as it is written.  It finds the lines of the
request behind the first one and before the first empty one (`requestFields_eq`), so it agrees with
the reading by lines (`scan_eq`) and with what a reader of the headers expects
(`extractsLength`), where the blanks at the end of a name or value include carriage returns.
-/

namespace MasterControl
namespace Http

open Foundation

/-! ## Scanning -/

def crlf : Bytes := [13, 10]

def substr (text : Bytes) (pos count : ℕ) : Bytes := (text.drop pos).take count

def blockEnd (rawRequest : Bytes) : ℕ :=
  (findFrom headerEndMark rawRequest 0).getD rawRequest.length

/-- The end of the line from a position on, at most the end of the block. -/
def lineEndFrom (rawRequest : Bytes) (blockEnd lineStart : ℕ) : ℕ :=
  match findFrom crlf rawRequest lineStart with
  | none => blockEnd
  | some lineEnd => if blockEnd < lineEnd then blockEnd else lineEnd

/-- What stands before and behind the colon of a line. -/
def fieldAt (rawRequest : Bytes) (lineStart lineEnd : ℕ) : Option (Bytes × Bytes) :=
  match findFrom [58] rawRequest lineStart with
  | none => none
  | some colon =>
    if colon < lineEnd then
      some (substr rawRequest lineStart (colon - lineStart),
        substr rawRequest (colon + 1) (lineEnd - colon - 1))
    else none

theorem le_lineEndFrom {rawRequest : Bytes} {blockEnd lineStart : ℕ} (h : lineStart < blockEnd) :
    lineStart ≤ lineEndFrom rawRequest blockEnd lineStart := by
  unfold lineEndFrom
  split
  · exact h.le
  · rename_i lineEnd hfind
    split
    · exact h.le
    · exact le_of_findFrom hfind

/-- The loop over the lines. -/
def scanFields (rawRequest : Bytes) (blockEnd lineStart : ℕ) : List (Bytes × Bytes) :=
  if lineStart < blockEnd then
    (fieldAt rawRequest lineStart (lineEndFrom rawRequest blockEnd lineStart)).toList ++
      scanFields rawRequest blockEnd (lineEndFrom rawRequest blockEnd lineStart + 2)
  else []
  termination_by blockEnd - lineStart
  decreasing_by
    rename_i h
    have hle : lineStart ≤ lineEndFrom rawRequest blockEnd lineStart := le_lineEndFrom h
    omega

/-- The fields of a request, behind the request line. -/
def requestFields (rawRequest : Bytes) : List (Bytes × Bytes) :=
  match findFrom crlf rawRequest 0 with
  | none => []
  | some lineEnd => scanFields rawRequest (blockEnd rawRequest) (lineEnd + 2)

def isNamed (headerName : Bytes) (field : Bytes × Bytes) : Bool :=
  equalsIgnoreCase (trimValue field.1) headerName

def findHeaderValueCaseInsensitive (rawRequest headerName : Bytes) : Bytes :=
  match (requestFields rawRequest).find? (isNamed headerName) with
  | none => []
  | some field => trimValue field.2

/-- The loop over the elements of a value. -/
def scanElements (rawValue : Bytes) (tokenStart : ℕ) : List Bytes :=
  if tokenStart ≤ rawValue.length then
    match h : findFrom [44] rawValue tokenStart with
    | none => [trimValue (substr rawValue tokenStart (rawValue.length - tokenStart))]
    | some comma =>
      trimValue (substr rawValue tokenStart (comma - tokenStart)) ::
        scanElements rawValue (comma + 1)
  else []
  termination_by rawValue.length + 1 - tokenStart
  decreasing_by
    have hle := le_of_findFrom h
    omega

/-- The loop over the letters of an element, in 64 bits. -/
def parsedValue (value : Bytes) : Option ℕ :=
  if value = [] ∨ 18 < value.length then none
  else
    value.foldlM (fun parsed c =>
      if c < 48 || 57 < c then none
      else some ((parsed * 10 + (c.toNat - 48)) % 18446744073709551616)) 0

/-- The loop over the elements. -/
def agreedValue : Option ℕ → List Bytes → ContentLengthParse
  | expected, [] => { present := true, valid := true, value := expected.getD 0 }
  | expected, value :: values =>
    match parsedValue value with
    | none => { present := true }
    | some parsed =>
      match expected with
      | none => agreedValue (some parsed) values
      | some expected =>
        if parsed ≠ expected then { present := true } else agreedValue (some expected) values

/-- `parseContentLengthHeader`, by position. -/
def scanContentLength (rawRequest : Bytes) : ContentLengthParse :=
  match (requestFields rawRequest).filter (isNamed (asciiBytes "Content-Length")) with
  | [] => {}
  | fields => agreedValue none (fields.flatMap fun field => scanElements field.2 0)

/-! ## The lines of a request -/

/-- The lines behind the first one and before the first empty one. -/
def headerLines (rawRequest : Bytes) : List Bytes :=
  (crlfLines rawRequest).tail.takeWhile (· ≠ [])

section Lines

variable {s line rest : Bytes}

theorem crlfLines_cons_of_not_front {b : UInt8} (h : ¬ crlf <+: b :: s) :
    crlfLines (b :: s) = match crlfLines s with
      | [] => [[b]]
      | line :: lines => (b :: line) :: lines := by
  refine crlfLines.eq_3 b s ?_
  rintro t rfl rfl
  exact h ⟨t, rfl⟩

theorem crlfLines_of_cut (h : cut crlf s = some (line, rest)) :
    crlfLines s = line :: crlfLines rest := by
  induction s generalizing line with
  | nil => cases h
  | cons b s ih =>
    by_cases hfront : crlf <+: b :: s
    · rw [cut_cons_of_front hfront] at h
      obtain ⟨rfl, rfl⟩ := Prod.mk.injEq .. ▸ Option.some.inj h
      obtain ⟨t, ht⟩ := hfront
      rw [← ht]
      rfl
    · rw [cut_cons_of_not_front hfront] at h
      obtain ⟨⟨line', rest'⟩, hcut, hfound⟩ := Option.map_eq_some_iff.mp h
      obtain ⟨rfl, rfl⟩ := Prod.mk.injEq .. ▸ hfound
      rw [crlfLines_cons_of_not_front hfront, ih hcut]

theorem crlfLines_of_cut_eq_none (h : cut crlf s = none) : crlfLines s = [s] := by
  induction s with
  | nil => rfl
  | cons b s ih =>
    have hfront : ¬ crlf <+: b :: s := by
      intro hfront
      rw [cut_cons_of_front hfront] at h
      cases h
    rw [cut_cons_of_not_front hfront, Option.map_eq_none_iff] at h
    rw [crlfLines_cons_of_not_front hfront, ih h]

/-- What stands before the first line break is a line of its own. -/
theorem cut_front_eq_none (h : cut crlf s = some (line, rest)) : cut crlf line = none := by
  have hfront := cut_take_of_lt (n := line.length) h (by simp [crlf])
  rwa [eq_of_cut h, List.append_assoc, List.take_left] at hfront

/-- Behind the first line break something else may stand. -/
theorem cut_refill (h : cut crlf s = some (line, rest)) (t : Bytes) :
    cut crlf (line ++ crlf ++ t) = some (line, t) := by
  have hfront := cut_take_of_le (n := line.length + crlf.length) h le_rfl
  rw [eq_of_cut h, ← List.length_append, List.take_left, List.length_append, Nat.sub_self,
    List.take_zero] at hfront
  exact cut_append hfront t

/-- A line break at the front is an empty line. -/
theorem crlfLines_of_front (h : crlf <+: s) : ∃ lines, crlfLines s = [] :: lines := by
  obtain ⟨t, rfl⟩ := h
  exact ⟨crlfLines t, rfl⟩

theorem headerBlock_cons_of_not_front {b : UInt8} (h : ¬ headerEndMark <+: b :: s) :
    headerBlock (b :: s) = b :: headerBlock s := by
  rw [headerBlock, headerBlock, cut_cons_of_not_front h]
  cases cut headerEndMark s <;> rfl

/-- The block behind a line. -/
theorem headerBlock_of_cut (h : cut crlf s = some (line, rest)) :
    headerBlock s = if crlf.isPrefixOf rest then line else line ++ crlf ++ headerBlock rest := by
  induction s generalizing line with
  | nil => cases h
  | cons b s ih =>
    by_cases hfront : crlf <+: b :: s
    · rw [cut_cons_of_front hfront] at h
      obtain ⟨rfl, rfl⟩ := Prod.mk.injEq .. ▸ Option.some.inj h
      obtain ⟨t, ht⟩ := hfront
      rw [← ht, List.drop_left]
      by_cases hempty : crlf <+: t
      · -- an empty line follows
        rw [if_pos (List.isPrefixOf_iff_prefix.mpr hempty), headerBlock]
        obtain ⟨u, rfl⟩ := hempty
        have hmark : headerEndMark <+: crlf ++ (crlf ++ u) := ⟨u, rfl⟩
        rw [show crlf ++ (crlf ++ u) = 13 :: (10 :: (crlf ++ u)) from rfl] at hmark ⊢
        rw [cut_cons_of_front hmark]
      · have hmark : ¬ headerEndMark <+: 13 :: 10 :: t := by
          rintro ⟨u, hu⟩
          exact hempty ⟨u, (List.cons.inj (List.cons.inj hu).2).2⟩
        have hmark' : ¬ headerEndMark <+: 10 :: t := by
          rintro ⟨u, hu⟩
          cases (List.cons.inj hu).1
        rw [if_neg (by rwa [List.isPrefixOf_iff_prefix])]
        rw [show crlf ++ t = 13 :: 10 :: t from rfl, headerBlock_cons_of_not_front hmark,
          headerBlock_cons_of_not_front hmark']
        rfl
    · rw [cut_cons_of_not_front hfront] at h
      obtain ⟨⟨line', rest'⟩, hcut, hfound⟩ := Option.map_eq_some_iff.mp h
      obtain ⟨rfl, rfl⟩ := Prod.mk.injEq .. ▸ hfound
      have hmark : ¬ headerEndMark <+: b :: s := fun hmark =>
        hfront (List.IsPrefix.trans ⟨crlf, rfl⟩ hmark)
      rw [headerBlock_cons_of_not_front hmark, ih hcut]
      split_ifs <;> rfl

theorem headerBlock_of_cut_eq_none (h : cut crlf s = none) : headerBlock s = s := by
  have hmark : cut headerEndMark s = none := by
    rw [← Option.not_isSome_iff_eq_none, isSome_cut_iff]
    intro hinfix
    have hcrlf : crlf <:+: headerEndMark := ⟨[], crlf, rfl⟩
    rw [← Option.not_isSome_iff_eq_none, isSome_cut_iff] at h
    exact h (hcrlf.trans hinfix)
  rw [headerBlock, hmark]

end Lines

/-! ## The scan finds the lines -/

section Scan

variable {rawRequest line more rest : Bytes} {start stop : ℕ}

/-- The colon of a line is looked for in the whole text. -/
theorem fieldAt_eq (h : rawRequest.drop start = line ++ more) (hstop : stop = start + line.length) :
    fieldAt rawRequest start stop = cut [58] line := by
  have htake : line = (line ++ more).take line.length := List.take_left.symm
  unfold fieldAt
  cases hfind : findFrom [58] rawRequest start with
  | none =>
    rw [findFrom_eq_none_iff, h] at hfind
    rw [htake, cut_take_of_none hfind]
  | some colon =>
    obtain ⟨name, value, hcut, rfl⟩ := findFrom_eq_some_iff.mp hfind
    rw [h] at hcut
    dsimp only
    split_ifs with hinside
    · have hlength : name.length + 1 ≤ line.length := by omega
      have hline := cut_take_of_le hcut hlength
      rw [← htake] at hline
      have hsplit : rawRequest.drop start = name ++ [58] ++ value := h.trans (eq_of_cut hcut)
      have hvalue : rawRequest.drop (start + name.length + 1) = value := by
        rw [Nat.add_assoc, ← List.drop_drop, hsplit]
        exact List.drop_left' (by simp)
      rw [hline, substr, substr, Nat.add_sub_cancel_left, hvalue, hsplit, List.append_assoc,
        List.take_left, hstop]
      have hcount : start + line.length - (start + name.length) - 1 =
          line.length - (name.length + [(58 : UInt8)].length) := by
        rw [List.length_singleton]
        omega
      rw [hcount]
    · have hlength : line.length < name.length + 1 := by omega
      rw [htake, cut_take_of_lt hcut hlength]

/-- What the loop finds from the start of a line on. -/
theorem scanFields_eq {blockEnd : ℕ} (h : rawRequest.drop start = rest)
    (hend : if crlf.isPrefixOf rest then blockEnd + 2 = start
      else blockEnd = start + (headerBlock rest).length) :
    scanFields rawRequest blockEnd start =
      ((crlfLines rest).takeWhile (· ≠ [])).filterMap (cut [58]) := by
  induction hn : rest.length using Nat.strong_induction_on generalizing rest start with
  | _ n ih =>
    by_cases hempty : crlf <+: rest
    · -- the first empty line
      rw [if_pos (List.isPrefixOf_iff_prefix.mpr hempty)] at hend
      obtain ⟨lines, hlines⟩ := crlfLines_of_front hempty
      rw [scanFields, if_neg (by omega), hlines, List.takeWhile_cons_of_neg (by simp)]
      rfl
    · rw [if_neg (by rwa [List.isPrefixOf_iff_prefix])] at hend
      cases hcut : cut crlf rest with
      | none =>
        -- the last line
        have hblock := headerBlock_of_cut_eq_none hcut
        rw [hblock] at hend
        rw [crlfLines_of_cut_eq_none hcut]
        by_cases hnil : rest = []
        · rw [hnil] at hend
          rw [scanFields, if_neg (by simp [hend]), hnil]
          rfl
        · have hpos : 0 < rest.length := List.length_pos_iff.mpr hnil
          have hstop : lineEndFrom rawRequest blockEnd start = blockEnd := by
            have hfind : findFrom crlf rawRequest start = none := by
              rw [findFrom_eq_none_iff, h, hcut]
            rw [lineEndFrom, hfind]
          have hline : rawRequest.drop start = rest ++ [] := by rw [h, List.append_nil]
          rw [scanFields, if_pos (by omega), hstop, fieldAt_eq hline hend, scanFields,
            if_neg (by omega), List.append_nil, List.takeWhile_cons_of_pos (by simpa using hnil)]
          cases hfield : cut [58] rest <;> simp [hfield]
      | some found =>
        obtain ⟨line, rest'⟩ := found
        have hrest := eq_of_cut hcut
        have hblock := headerBlock_of_cut hcut
        have hnil : line ≠ [] := by
          rintro rfl
          exact hempty ⟨rest', hrest.symm⟩
        have hpos : 0 < line.length := List.length_pos_iff.mpr hnil
        have hlength := congrArg List.length hrest
        rw [List.length_append, List.length_append] at hlength
        have hcrlf : crlf.length = 2 := rfl
        have hnext : rawRequest.drop (start + line.length + 2) = rest' := by
          rw [Nat.add_assoc, ← List.drop_drop, h, hrest]
          exact List.drop_left' (by rw [List.length_append, hcrlf])
        have hinside : line.length ≤ (headerBlock rest).length := by
          rw [hblock]
          split_ifs
          · exact le_rfl
          · rw [List.length_append, List.length_append]
            omega
        have hstop : lineEndFrom rawRequest blockEnd start = start + line.length := by
          have hfind : findFrom crlf rawRequest start = some (start + line.length) :=
            findFrom_eq_some_iff.mpr ⟨line, rest', by rw [h, hcut], rfl⟩
          rw [lineEndFrom, hfind]
          exact if_neg (by omega)
        have hend' : if crlf.isPrefixOf rest' then blockEnd + 2 = start + line.length + 2
            else blockEnd = start + line.length + 2 + (headerBlock rest').length := by
          split_ifs with hfront
          · rw [hblock, if_pos hfront] at hend
            omega
          · rw [hblock, if_neg hfront, List.length_append, List.length_append, hcrlf] at hend
            omega
        have hlater := ih rest'.length (by omega) hnext hend' rfl
        have hline : rawRequest.drop start = line ++ (crlf ++ rest') := by
          rw [h, hrest, List.append_assoc]
        rw [scanFields, if_pos (by omega), hstop, fieldAt_eq hline rfl, hlater,
          crlfLines_of_cut hcut, List.takeWhile_cons_of_pos (by simpa using hnil)]
        cases hfield : cut [58] line <;> simp [hfield]

/-- **The fields that the scan finds** are those of the header lines. -/
theorem requestFields_eq (rawRequest : Bytes) :
    requestFields rawRequest = (headerLines rawRequest).filterMap (cut [58]) := by
  unfold requestFields headerLines
  cases hcut : cut crlf rawRequest with
  | none =>
    have hfind : findFrom crlf rawRequest 0 = none := findFrom_eq_none_iff.mpr hcut
    rw [hfind, crlfLines_of_cut_eq_none hcut]
    rfl
  | some found =>
    obtain ⟨line, rest⟩ := found
    have hfind : findFrom crlf rawRequest 0 = some line.length :=
      findFrom_eq_some_iff.mpr ⟨line, rest, hcut, (Nat.zero_add _).symm⟩
    have hraw := eq_of_cut hcut
    have hcrlf : crlf.length = 2 := rfl
    have hnext : rawRequest.drop (line.length + 2) = rest := by
      rw [hraw]
      exact List.drop_left' (by rw [List.length_append, hcrlf])
    have hend : blockEnd rawRequest = (headerBlock rawRequest).length := by
      rw [blockEnd, headerBlock, findFrom, List.drop_zero]
      cases cut headerEndMark rawRequest with
      | none => rfl
      | some found => exact Nat.zero_add _
    have hblock := headerBlock_of_cut hcut
    rw [hfind, crlfLines_of_cut hcut, List.tail_cons]
    refine scanFields_eq hnext ?_
    rw [hend, hblock]
    split_ifs
    · rfl
    · rw [List.length_append, List.length_append, hcrlf]

end Scan

/-! ## Elements -/

section Elements

variable {s value : Bytes}

theorem cut_singleton_eq_none_iff {b : UInt8} : cut [b] s = none ↔ b ∉ s := by
  rw [← Option.not_isSome_iff_eq_none, isSome_cut_iff, List.singleton_infix_iff]

/-- What stands before the first occurrence of a byte does not hold it. -/
theorem not_mem_of_cut_singleton {b : UInt8} {front rest : Bytes}
    (h : cut [b] s = some (front, rest)) : b ∉ front := by
  have hfront := cut_take_of_lt (n := front.length) h (by simp)
  rw [eq_of_cut h, List.append_assoc, List.take_left] at hfront
  exact cut_singleton_eq_none_iff.mp hfront

theorem scanElements_eq {rawValue rest : Bytes} {tokenStart : ℕ}
    (h : rawValue.drop tokenStart = rest) (hstart : tokenStart ≤ rawValue.length) :
    scanElements rawValue tokenStart = (rest.splitOn 44).map trimValue := by
  induction hn : rest.length using Nat.strong_induction_on generalizing rest tokenStart with
  | _ n ih =>
    have hlength : rest.length = rawValue.length - tokenStart := by rw [← h, List.length_drop]
    rw [scanElements, if_pos hstart]
    split
    · rename_i hfind
      rw [findFrom_eq_none_iff, h, cut_singleton_eq_none_iff] at hfind
      rw [List.splitOn_eq_singleton hfind, substr, h, ← hlength, List.take_length]
      rfl
    · rename_i comma hfind
      obtain ⟨element, others, hcut, rfl⟩ := findFrom_eq_some_iff.mp hfind
      rw [h] at hcut
      have hrest := eq_of_cut hcut
      have hcount := congrArg List.length hrest
      rw [List.length_append, List.length_append, List.length_singleton] at hcount
      have hnext : rawValue.drop (tokenStart + element.length + 1) = others := by
        rw [Nat.add_assoc, ← List.drop_drop, h, hrest]
        exact List.drop_left' (by rw [List.length_append, List.length_singleton])
      have hlater := ih others.length (by omega) hnext (by omega) rfl
      rw [hlater, substr, h, Nat.add_sub_cancel_left, hrest, List.append_assoc, List.take_left,
        List.singleton_append,
        List.splitOn_append_cons_self_of_not_mem (not_mem_of_cut_singleton hcut), List.map_cons]

/-- Eighteen digits do not overflow. -/
theorem foldlM_digits (h : ∀ b ∈ value, isDigitByte b = true) (hlength : value.length ≤ 18) :
    (value.foldlM (fun parsed c =>
      if c < 48 || 57 < c then none
      else some ((parsed * 10 + (c.toNat - 48)) % 18446744073709551616)) 0 : Option ℕ) =
      some (decimalValue value) := by
  induction value using List.reverseRecOn with
  | nil => rfl
  | append_singleton value b ih =>
    rw [List.length_append, List.length_singleton] at hlength
    have hdigits : ∀ c ∈ value, isDigitByte c = true :=
      fun c hc => h c (List.mem_append_left _ hc)
    have hb := h b (List.mem_append_right _ (List.mem_singleton_self b))
    have hsmall : decimalValue (value ++ [b]) < 10 ^ 18 := by
      refine (decimalValue_lt h).trans_le (Nat.pow_le_pow_right (by omega) ?_)
      rw [List.length_append, List.length_singleton]
      exact hlength
    rw [isDigitByte, Bool.and_eq_true, decide_eq_true_iff, decide_eq_true_iff,
      UInt8.le_iff_toNat_le, UInt8.le_iff_toNat_le] at hb
    have hinside : ¬ (decide (b < 48) || decide (57 < b)) = true := by
      rw [Bool.or_eq_true, decide_eq_true_iff, decide_eq_true_iff, UInt8.lt_iff_toNat_lt,
        UInt8.lt_iff_toNat_lt]
      omega
    rw [decimalValue_concat] at hsmall ⊢
    rw [List.foldlM_append, ih hdigits (by omega), Option.bind_eq_bind, Option.bind_some,
      List.foldlM_cons, if_neg hinside, Option.bind_eq_bind, Option.bind_some, List.foldlM_nil,
      Nat.mul_comm, Nat.mod_eq_of_lt (by omega)]
    rfl

theorem foldlM_not_digits {n : ℕ} {b : UInt8} (hb : b ∈ value) (hdigit : isDigitByte b = false) :
    (value.foldlM (fun parsed c =>
      if c < 48 || 57 < c then none
      else some ((parsed * 10 + (c.toNat - 48)) % 18446744073709551616)) n : Option ℕ) = none := by
  induction value generalizing n with
  | nil => cases hb
  | cons c value ih =>
    rw [List.foldlM_cons]
    rcases List.mem_cons.mp hb with rfl | hb
    · have houtside : (decide (b < 48) || decide (57 < b)) = true := by
        rw [isDigitByte, Bool.and_eq_false_iff, decide_eq_false_iff_not, decide_eq_false_iff_not,
          UInt8.not_le, UInt8.not_le] at hdigit
        rwa [Bool.or_eq_true, decide_eq_true_iff, decide_eq_true_iff]
      rw [if_pos houtside]
      rfl
    · split_ifs
      · rfl
      · exact ih hb

theorem parsedValue_eq (value : Bytes) : parsedValue value = lengthOf value := by
  unfold parsedValue lengthOf
  by_cases hlength : value = [] ∨ 18 < value.length
  · rw [if_pos hlength, if_pos hlength]
  · rw [if_neg hlength, if_neg hlength]
    rw [not_or, Nat.not_lt] at hlength
    by_cases hdigits : value.all isDigitByte = true
    · rw [if_pos hdigits, foldlM_digits (List.all_eq_true.mp hdigits) hlength.2]
    · rw [if_neg hdigits]
      rw [Bool.not_eq_true, List.all_eq_false] at hdigits
      obtain ⟨b, hb, hdigit⟩ := hdigits
      exact foldlM_not_digits hb (Bool.eq_false_iff.mpr hdigit)

theorem agreedValue_some (expected : ℕ) (values : List Bytes) : agreedValue (some expected) values =
    if values.all fun other => lengthOf other = some expected then
      { present := true, valid := true, value := expected }
    else { present := true } := by
  induction values with
  | nil => rfl
  | cons value values ih =>
    rw [agreedValue, parsedValue_eq, List.all_cons]
    cases hvalue : lengthOf value with
    | none => rfl
    | some parsed =>
      dsimp only
      by_cases hparsed : parsed = expected
      · rw [if_neg (not_not.mpr hparsed), ih, hparsed, decide_eq_true rfl, Bool.true_and]
      · have hne : ¬ some parsed = some expected := fun h => hparsed (Option.some.inj h)
        rw [if_pos hparsed, decide_eq_false hne, Bool.false_and, if_neg Bool.false_ne_true]

theorem agreedValue_none {values : List Bytes} (h : values ≠ []) :
    agreedValue none values = contentLengthOf values := by
  cases values with
  | nil => exact absurd rfl h
  | cons value values =>
    rw [agreedValue, parsedValue_eq, contentLengthOf]
    cases lengthOf value with
    | none => rfl
    | some parsed => exact agreedValue_some parsed values

end Elements

/-- What a header line contributes. -/
theorem contentLengthValues_eq (line : Bytes) : contentLengthValues line =
    (((cut [58] line).toList.filter (isNamed (asciiBytes "Content-Length"))).flatMap fun field =>
      scanElements field.2 0) := by
  unfold contentLengthValues
  cases cut [58] line with
  | none => rfl
  | some field =>
    obtain ⟨name, rawValue⟩ := field
    dsimp only
    rw [Option.toList_some, List.filter_singleton, isNamed]
    split_ifs with hname
    · have helements : scanElements rawValue 0 = (rawValue.splitOn 44).map trimValue :=
        scanElements_eq rfl (Nat.zero_le _)
      rw [hname, cond_true, List.flatMap_singleton, helements]
    · rw [Bool.not_eq_true] at hname
      rw [hname, cond_false, List.flatMap_nil]

/-! ## The scan agrees with the reading by lines -/

section Agreement

variable {s rest : Bytes}

/-- Of the header block, what stands behind the first line says what the header lines say. -/
theorem flatMap_headerBlock (h : ¬ crlf <+: rest) :
    (crlfLines (headerBlock rest)).flatMap contentLengthValues =
      ((crlfLines rest).takeWhile (· ≠ [])).flatMap contentLengthValues := by
  induction hn : rest.length using Nat.strong_induction_on generalizing rest with
  | _ n ih =>
    cases hcut : cut crlf rest with
    | none =>
      rw [headerBlock_of_cut_eq_none hcut, crlfLines_of_cut_eq_none hcut]
      by_cases hnil : rest = []
      · rw [hnil]
        rfl
      · rw [List.takeWhile_cons_of_pos (by simpa using hnil), List.takeWhile_nil]
    | some found =>
      obtain ⟨line, rest'⟩ := found
      have hrest := eq_of_cut hcut
      have hlength := congrArg List.length hrest
      rw [List.length_append, List.length_append] at hlength
      have hcrlf : crlf.length = 2 := rfl
      have hnil : line ≠ [] := by
        rintro rfl
        exact h ⟨rest', hrest.symm⟩
      rw [crlfLines_of_cut hcut, List.takeWhile_cons_of_pos (by simpa using hnil),
        headerBlock_of_cut hcut]
      by_cases hempty : crlf <+: rest'
      · obtain ⟨lines, hlines⟩ := crlfLines_of_front hempty
        rw [if_pos (List.isPrefixOf_iff_prefix.mpr hempty), hlines,
          List.takeWhile_cons_of_neg (by simp), crlfLines_of_cut_eq_none (cut_front_eq_none hcut)]
      · rw [if_neg (by rwa [List.isPrefixOf_iff_prefix]), crlfLines_of_cut (cut_refill hcut _),
          List.flatMap_cons, List.flatMap_cons, ih rest'.length (by omega) hempty rfl]

/-- The values of the header lines. -/
theorem flatMap_headerLines (rawRequest : Bytes) :
    (crlfLines (headerBlock rawRequest)).tail.flatMap contentLengthValues =
      (headerLines rawRequest).flatMap contentLengthValues := by
  unfold headerLines
  cases hcut : cut crlf rawRequest with
  | none =>
    rw [headerBlock_of_cut_eq_none hcut, crlfLines_of_cut_eq_none hcut]
    rfl
  | some found =>
    obtain ⟨line, rest⟩ := found
    rw [crlfLines_of_cut hcut, headerBlock_of_cut hcut]
    by_cases hempty : crlf <+: rest
    · obtain ⟨lines, hlines⟩ := crlfLines_of_front hempty
      rw [if_pos (List.isPrefixOf_iff_prefix.mpr hempty),
        crlfLines_of_cut_eq_none (cut_front_eq_none hcut), List.tail_cons, List.tail_cons, hlines]
      rfl
    · rw [if_neg (by rwa [List.isPrefixOf_iff_prefix]), crlfLines_of_cut (cut_refill hcut _),
        List.tail_cons, List.tail_cons, flatMap_headerBlock hempty]

theorem scanElements_ne_nil (rawValue : Bytes) : scanElements rawValue 0 ≠ [] := by
  have helements : scanElements rawValue 0 = (rawValue.splitOn 44).map trimValue :=
    scanElements_eq rfl (Nat.zero_le _)
  rw [helements]
  intro h
  exact List.splitOn_ne_nil _ _ (List.map_eq_nil_iff.mp h)

theorem flatMap_filter_filterMap {α β γ : Type} (f : α → Option β) (p : β → Bool)
    (g : β → List γ) (l : List α) :
    ((l.filterMap f).filter p).flatMap g =
      l.flatMap fun a => ((f a).toList.filter p).flatMap g := by
  induction l with
  | nil => rfl
  | cons a l ih =>
    rw [List.flatMap_cons, ← ih]
    cases hfa : f a with
    | none => rw [List.filterMap_cons_none hfa, Option.toList_none, List.filter_nil]; rfl
    | some b =>
      rw [List.filterMap_cons_some hfa, Option.toList_some, ← List.singleton_append,
        List.filter_append, List.flatMap_append]

/-- The values of the header lines stand in the fields of that name. -/
theorem flatMap_contentLengthValues (rawRequest : Bytes) :
    (headerLines rawRequest).flatMap contentLengthValues =
      ((requestFields rawRequest).filter (isNamed (asciiBytes "Content-Length"))).flatMap
        fun field => scanElements field.2 0 := by
  rw [requestFields_eq, flatMap_filter_filterMap]
  exact List.flatMap_congr fun line _ => contentLengthValues_eq line

/-- **The scan reads the length that the header lines say.** -/
theorem scan_eq (rawRequest : Bytes) :
    scanContentLength rawRequest = parseContentLengthHeader rawRequest := by
  rw [parseContentLengthHeader, flatMap_headerLines, flatMap_contentLengthValues, scanContentLength]
  split
  · rename_i hnone
    rw [hnone]
    rfl
  · rename_i hsome
    obtain ⟨field, hfield⟩ := List.exists_mem_of_ne_nil _ hsome
    refine agreedValue_none fun hnil => ?_
    exact scanElements_ne_nil field.2 (List.flatMap_eq_nil_iff.mp hnil field hfield)

end Agreement

/-! ## Blanks -/

def isBlankOrReturn (b : UInt8) : Bool := isBlankByte b || b = 13

/-- The blanks in front are dropped, and the blanks and carriage returns at the end. -/
def trimEnds (text : Bytes) : Bytes := (text.dropWhile isBlankByte).rdropWhile isBlankOrReturn

section Blanks

variable {text : Bytes}

theorem all_dropWhile_iff : (text.dropWhile isBlankByte).all isBlankOrReturn = true ↔
    text.all isBlankOrReturn = true := by
  rw [List.all_eq_true, List.all_eq_true]
  constructor
  · intro h b hb
    rw [← List.takeWhile_append_dropWhile (p := isBlankByte) (l := text), List.mem_append] at hb
    rcases hb with hb | hb
    · have hblank := List.mem_takeWhile_imp hb
      rw [isBlankOrReturn, hblank, Bool.true_or]
    · exact h b hb
  · exact fun h b hb => h b ((List.dropWhile_sublist _).mem hb)

/-- What holds more than blanks and carriage returns is trimmed at its ends. -/
theorem trimValue_of_more (h : ¬ text.all isBlankOrReturn = true) :
    trimValue text = trimEnds text :=
  if_neg fun hall => h (all_dropWhile_iff.mp hall)

/-- Of blanks and carriage returns nothing else is left. -/
theorem trimValue_of_none (h : text.all isBlankOrReturn = true) :
    trimValue text = if text.head?.any isBlankByte then text.dropWhile isBlankByte else [] := by
  have hvalue : trimValue text = if (text.dropWhile isBlankByte).length = text.length then []
      else text.dropWhile isBlankByte := if_pos (all_dropWhile_iff.mpr h)
  rw [hvalue]
  cases text with
  | nil => rfl
  | cons b text =>
    rw [List.head?_cons, Option.any_some, List.dropWhile_cons]
    by_cases hb : isBlankByte b = true
    · have hlength := (List.dropWhile_sublist isBlankByte (l := text)).length_le
      rw [if_pos hb, if_pos hb, if_neg (by rw [List.length_cons]; omega)]
    · rw [if_neg hb, if_neg hb, if_pos rfl]

theorem trimEnds_of_none (h : text.all isBlankOrReturn = true) : trimEnds text = [] := by
  rw [trimEnds, List.rdropWhile_eq_nil_iff]
  exact List.all_eq_true.mp (all_dropWhile_iff.mpr h)

theorem all_trimValue_of_none (h : text.all isBlankOrReturn = true) :
    (trimValue text).all isBlankOrReturn = true := by
  rw [trimValue_of_none h]
  split
  · exact all_dropWhile_iff.mpr h
  · rfl

/-- Blanks and carriage returns are no name. -/
theorem not_named_of_all (h : text.all isBlankOrReturn = true) :
    equalsIgnoreCase text (asciiBytes "Content-Length") = false := by
  rw [equalsIgnoreCase, decide_eq_false_iff_not]
  intro hname
  have hletter : (99 : UInt8) ∈ lowerBytes (asciiBytes "Content-Length") := by decide +kernel
  rw [← hname, lowerBytes, List.mem_map] at hletter
  obtain ⟨b, hb, hlower⟩ := hletter
  have hblank := List.all_eq_true.mp h b hb
  rw [isBlankOrReturn, isBlankByte, Bool.or_eq_true, Bool.or_eq_true, decide_eq_true_iff,
    decide_eq_true_iff, decide_eq_true_iff] at hblank
  rcases hblank with (rfl | rfl) | rfl <;> cases hlower

/-- Blanks and carriage returns are no number. -/
theorem lengthOf_of_all (h : text.all isBlankOrReturn = true) : lengthOf text = none := by
  unfold lengthOf
  split_ifs with hlength hdigits
  · rfl
  · cases text with
    | nil => exact absurd (Or.inl rfl) hlength
    | cons b text =>
      rw [List.all_cons, Bool.and_eq_true] at h hdigits
      have hblank := h.1
      rw [isBlankOrReturn, isBlankByte, Bool.or_eq_true, Bool.or_eq_true, decide_eq_true_iff,
        decide_eq_true_iff, decide_eq_true_iff] at hblank
      rcases hblank with (rfl | rfl) | rfl <;> cases hdigits.1
  · rfl

theorem named_trimValue (text : Bytes) : equalsIgnoreCase (trimValue text)
      (asciiBytes "Content-Length") =
    equalsIgnoreCase (trimEnds text) (asciiBytes "Content-Length") := by
  by_cases h : text.all isBlankOrReturn = true
  · rw [not_named_of_all (all_trimValue_of_none h), trimEnds_of_none h]
    exact (not_named_of_all rfl).symm
  · rw [trimValue_of_more h]

theorem lengthOf_trimValue (text : Bytes) :
    lengthOf (trimValue text) = lengthOf (trimEnds text) := by
  by_cases h : text.all isBlankOrReturn = true
  · rw [lengthOf_of_all (all_trimValue_of_none h), trimEnds_of_none h]
    rfl
  · rw [trimValue_of_more h]

/-- A blank, and behind it blanks and carriage returns, of these at least one. -/
def hidesReturn (text : Bytes) : Bool :=
  text.head?.any isBlankByte && text.contains 13 && text.all isBlankOrReturn

/-- Only there the end is not trimmed. -/
theorem trimValue_eq (h : hidesReturn text = false) : trimValue text = trimEnds text := by
  by_cases hall : text.all isBlankOrReturn = true
  · rw [trimValue_of_none hall, trimEnds_of_none hall]
    split_ifs with hhead
    · rw [hidesReturn, hhead, hall, Bool.true_and, Bool.and_true, ← Bool.not_eq_true,
        List.contains_iff_mem] at h
      rw [List.dropWhile_eq_nil_iff]
      intro b hb
      have hblank := List.all_eq_true.mp hall b hb
      rw [isBlankOrReturn, Bool.or_eq_true, decide_eq_true_iff] at hblank
      exact hblank.resolve_right fun hreturn => h (hreturn ▸ hb)
    · rfl
  · exact trimValue_of_more hall

end Blanks

/-! ## What a reader of the headers expects -/

/-- One to eighteen digits denote a number. -/
structure Denotes (n : ℕ) (text : Bytes) : Prop where
  length_pos : 1 ≤ text.length
  length_le : text.length ≤ 18
  digits : ∀ b ∈ text, isDigitByte b = true
  value : decimalValue text = n

/-- What stands behind the first colon of the header lines that name the content length. -/
def lengthLines (trimmed : Bytes → Bytes) (rawRequest : Bytes) : List Bytes :=
  (((headerLines rawRequest).filterMap (cut [58])).filter fun field =>
    equalsIgnoreCase (trimmed field.1) (asciiBytes "Content-Length")).map Prod.snd

/-- **The length of a request**, where names and elements are trimmed in a given way. -/
structure ExtractsLength (trimmed : Bytes → Bytes) (rawRequest : Bytes) : Prop where
  present : (scanContentLength rawRequest).present = true ↔ lengthLines trimmed rawRequest ≠ []
  valid : ∀ n, (scanContentLength rawRequest).valid = true ∧
    (scanContentLength rawRequest).value = n ↔ lengthLines trimmed rawRequest ≠ [] ∧
      ∀ rawValue ∈ lengthLines trimmed rawRequest, ∀ element ∈ rawValue.splitOn 44,
        Denotes n (trimmed element)
  body : ∀ block body, cut headerEndMark rawRequest = some (block, body) → ∀ other,
    scanContentLength (block ++ headerEndMark ++ other) = scanContentLength rawRequest
  value : ∀ rawValue, lengthLines trimmed rawRequest = [rawValue] → hidesReturn rawValue = false →
    findHeaderValueCaseInsensitive rawRequest (asciiBytes "Content-Length") = trimmed rawValue

section Extraction

variable {values : List Bytes} {rawRequest value text : Bytes} {n : ℕ}

theorem lengthOf_eq_some_iff : lengthOf text = some n ↔ Denotes n text := by
  unfold lengthOf
  constructor
  · intro h
    split_ifs at h with hlength hdigits
    rw [not_or, Nat.not_lt] at hlength
    exact ⟨List.length_pos_iff.mpr hlength.1, hlength.2, List.all_eq_true.mp hdigits,
      Option.some.inj h⟩
  · rintro ⟨hpos, hle, hdigits, rfl⟩
    have hlength : ¬ (text = [] ∨ 18 < text.length) := by
      rw [not_or, Nat.not_lt]
      exact ⟨List.length_pos_iff.mp hpos, hle⟩
    rw [if_neg hlength, if_pos (List.all_eq_true.mpr hdigits)]

theorem present_contentLengthOf : (contentLengthOf values).present = true ↔ values ≠ [] := by
  cases values with
  | nil => simp [contentLengthOf]
  | cons value others =>
    refine iff_of_true ?_ (List.cons_ne_nil value others)
    rw [contentLengthOf]
    split
    · rfl
    · split <;> rfl

theorem valid_contentLengthOf : (contentLengthOf values).valid = true ∧
    (contentLengthOf values).value = n ↔
      values ≠ [] ∧ ∀ value ∈ values, lengthOf value = some n := by
  cases values with
  | nil => simp [contentLengthOf]
  | cons value others =>
    rw [contentLengthOf, List.forall_mem_cons]
    cases hvalue : lengthOf value with
    | none => simp
    | some expected =>
      dsimp only
      split_ifs with hall
      · rw [List.all_eq_true] at hall
        constructor
        · rintro ⟨-, rfl⟩
          exact ⟨List.cons_ne_nil value others, rfl, fun other hother =>
            of_decide_eq_true (hall other hother)⟩
        · rintro ⟨-, hexpected, -⟩
          exact ⟨rfl, Option.some.inj hexpected⟩
      · refine iff_of_false (by simp) ?_
        rintro ⟨-, hexpected, hothers⟩
        refine hall (List.all_eq_true.mpr fun other hother => decide_eq_true ?_)
        rw [hothers other hother, hexpected]

/-- The lines by name. -/
theorem lengthLines_eq (rawRequest : Bytes) : lengthLines trimEnds rawRequest =
    ((requestFields rawRequest).filter (isNamed (asciiBytes "Content-Length"))).map Prod.snd := by
  rw [lengthLines, requestFields_eq]
  congr 2
  funext field
  exact (named_trimValue field.1).symm

/-- The elements of the lines. -/
theorem values_eq (rawRequest : Bytes) :
    (headerLines rawRequest).flatMap contentLengthValues =
      (lengthLines trimEnds rawRequest).flatMap fun rawValue =>
        (rawValue.splitOn 44).map trimValue := by
  rw [flatMap_contentLengthValues, lengthLines_eq, List.flatMap_map]
  exact List.flatMap_congr fun field _ => scanElements_eq rfl (Nat.zero_le _)

/-- The scan says what the elements say together. -/
theorem scanContentLength_eq (rawRequest : Bytes) : scanContentLength rawRequest =
    contentLengthOf ((lengthLines trimEnds rawRequest).flatMap fun rawValue =>
      (rawValue.splitOn 44).map trimValue) := by
  rw [scan_eq, parseContentLengthHeader, flatMap_headerLines, values_eq]

theorem elements_ne_nil_iff {rawValues : List Bytes} :
    (rawValues.flatMap fun rawValue => (rawValue.splitOn 44).map trimValue) ≠ [] ↔
      rawValues ≠ [] := by
  rw [not_iff_not, List.flatMap_eq_nil_iff]
  constructor
  · intro h
    by_contra hne
    obtain ⟨rawValue, hmem⟩ := List.exists_mem_of_ne_nil _ hne
    exact List.splitOn_ne_nil _ _ (List.map_eq_nil_iff.mp (h rawValue hmem))
  · rintro rfl rawValue hmem
    cases hmem

/-- What stands behind the header block does not matter. -/
theorem scanContentLength_body {block body : Bytes}
    (h : cut headerEndMark rawRequest = some (block, body)) (other : Bytes) :
    scanContentLength (block ++ headerEndMark ++ other) = scanContentLength rawRequest := by
  have hfront := cut_take_of_le (n := block.length + headerEndMark.length) h le_rfl
  rw [eq_of_cut h, ← List.length_append, List.take_left] at hfront
  have hother := cut_append hfront other
  have hmark : block.length + 4 = (block ++ headerEndMark).length := by
    rw [List.length_append]
    rfl
  have hleft := parseContentLength_take hother hmark.le
  have hright := parseContentLength_take h hmark.le
  rw [List.take_left] at hleft
  rw [eq_of_cut h, List.take_left] at hright
  rw [scan_eq, scan_eq, ← hleft, hright, ← eq_of_cut h]

/-- **The length of a request is what its header lines say**, where the blanks in front are
dropped and the blanks and carriage returns at the end. -/
theorem extractsLength (rawRequest : Bytes) : ExtractsLength trimEnds rawRequest where
  present := by
    rw [scanContentLength_eq, present_contentLengthOf, elements_ne_nil_iff]
  valid := by
    intro n
    rw [scanContentLength_eq, valid_contentLengthOf, elements_ne_nil_iff]
    refine and_congr_right fun _ => ?_
    rw [List.forall_mem_flatMap]
    refine forall₂_congr fun rawValue _ => ?_
    rw [List.forall_mem_map]
    refine forall₂_congr fun element _ => ?_
    rw [lengthOf_trimValue, lengthOf_eq_some_iff]
  body := fun _ _ h other => scanContentLength_body h other
  value := by
    intro rawValue hlines hhides
    rw [lengthLines_eq, List.map_eq_singleton_iff] at hlines
    obtain ⟨field, hfields, rfl⟩ := hlines
    have hfirst : (requestFields rawRequest).find? (isNamed (asciiBytes "Content-Length")) =
        some field := by rw [← List.head?_filter, hfields, List.head?_cons]
    rw [findHeaderValueCaseInsensitive, hfirst]
    exact trimValue_eq hhides

/-- A second carriage return at the end is dropped, which a reader that trims blanks only would
keep; one in front is kept, which a reader that trims both would drop. -/
theorem carriageReturn_trimmed :
    ¬ ExtractsLength (trim isBlankByte)
      (asciiBytes "GET / HTTP/1.1\r\nContent-Length: 5\r\r\n\r\n") ∧
    ¬ ExtractsLength (trim isBlankOrReturn)
      (asciiBytes "GET / HTTP/1.1\r\nContent-Length:\r5\r\n\r\n") := by
  constructor
  · intro h
    have hvalid := h.valid 5
    rw [scan_eq] at hvalid
    have hdenotes := (hvalid.mp (by decide +kernel)).2
    have helement := hdenotes (asciiBytes " 5\r") (by decide +kernel) (asciiBytes " 5\r")
      (by decide +kernel)
    have hdigit := helement.digits 13 (by decide +kernel)
    cases hdigit
  · intro h
    have hvalid := h.valid 5
    rw [scan_eq] at hvalid
    have hcode : ¬ ((parseContentLengthHeader (asciiBytes
        "GET / HTTP/1.1\r\nContent-Length:\r5\r\n\r\n")).valid = true ∧ (parseContentLengthHeader
        (asciiBytes "GET / HTTP/1.1\r\nContent-Length:\r5\r\n\r\n")).value = 5) := by
      decide +kernel
    refine hcode (hvalid.mpr ?_)
    have hlines : lengthLines (trim isBlankOrReturn)
        (asciiBytes "GET / HTTP/1.1\r\nContent-Length:\r5\r\n\r\n") = [[13, 53]] := by
      decide +kernel
    rw [hlines]
    refine ⟨List.cons_ne_nil _ _, ?_⟩
    simp only [List.forall_mem_singleton]
    have helements : [13, 53].splitOn (44 : UInt8) = [[13, 53]] := by decide +kernel
    rw [helements, List.forall_mem_singleton]
    have htrim : trim isBlankOrReturn [13, 53] = [53] := by decide +kernel
    rw [htrim]
    exact lengthOf_eq_some_iff.mp (by decide +kernel)

end Extraction

end Http
end MasterControl
