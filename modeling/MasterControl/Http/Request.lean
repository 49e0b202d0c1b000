import MasterControl.Foundation.ByteText
import MasterControl.Foundation.KeyedList
import MasterControl.Foundation.Search
import MasterControl.Foundation.Trim
import MasterControl.Foundation.Uri

/-!
# The request of an admin client

Two functions read the bytes of a request, by different rules.  `parseContentLengthHeader`
looks at the lines between the first line break and the first empty line, where a line ends
with `\r\n`; `parseRequest` reads lines that end with `\n`, and its headers end at the first
line that is empty or holds `\r` alone.

`parseContentLengthHeader` depends on the header block only (`parseContentLength_take`).
What `parseRequest` takes for the body is what stands behind the header block exactly when no
earlier line of the block is blank for it (`body_parseRequest_iff`).
-/

namespace MasterControl
namespace Http

open Foundation

structure HttpRequest where
  method : Bytes := []
  path : Bytes := []
  query : Bytes := []
  headers : List (Bytes × Bytes) := []
  body : Bytes := []
  remoteAddress : Bytes := []
deriving DecidableEq

/-! ## The length of the body -/

def equalsIgnoreCase (a b : Bytes) : Bool := lowerBytes a = lowerBytes b

def isBlankByte (b : UInt8) : Bool := b = 32 || b = 9

/-- The blanks in front, and the blanks and carriage returns at the end.  Where nothing else
is left, the end is found at `npos`, and `npos - first + 1` letters are kept from there. -/
def trimValue (text : Bytes) : Bytes :=
  let rest := text.dropWhile isBlankByte
  if rest.all fun b => isBlankByte b || b = 13 then
    if rest.length = text.length then [] else rest
  else rest.rdropWhile fun b => isBlankByte b || b = 13

/-- The lines of a text, ended with `\r\n`. -/
def crlfLines : Bytes → List Bytes
  | [] => [[]]
  | 13 :: 10 :: rest => [] :: crlfLines rest
  | b :: rest =>
    match crlfLines rest with
    | [] => [[b]]
    | line :: lines => (b :: line) :: lines

/-- The end of a header block. -/
def headerEndMark : Bytes := [13, 10, 13, 10]

/-- The text up to the first empty line, or all of it. -/
def headerBlock (rawRequest : Bytes) : Bytes :=
  match cut headerEndMark rawRequest with
  | none => rawRequest
  | some (block, _) => block

structure ContentLengthParse where
  present : Bool := false
  valid : Bool := false
  value : Nat := 0
deriving DecidableEq

/-- The values of a header line that names the content length, and none of another one. -/
def contentLengthValues (line : Bytes) : List Bytes :=
  match cut [58] line with
  | none => []
  | some (name, rawValue) =>
    if equalsIgnoreCase (trimValue name) (asciiBytes "Content-Length") then
      (rawValue.splitOn 44).map trimValue
    else []

/-- A value of at most eighteen digits. -/
def lengthOf (value : Bytes) : Option Nat :=
  if value = [] ∨ 18 < value.length then none
  else if value.all isDigitByte then some (decimalValue value)
  else none

/-- What the values of all such lines say together. -/
def contentLengthOf (values : List Bytes) : ContentLengthParse :=
  match values with
  | [] => {}
  | value :: others =>
    match lengthOf value with
    | none => { present := true }
    | some expected =>
      if others.all fun other => lengthOf other = some expected then
        { present := true, valid := true, value := expected }
      else { present := true }

def parseContentLengthHeader (rawRequest : Bytes) : ContentLengthParse :=
  contentLengthOf ((crlfLines (headerBlock rawRequest)).tail.flatMap contentLengthValues)

/-! ## The request -/

/-- `headers[name] = value`. -/
def putHeader (headers : List (Bytes × Bytes)) (name value : Bytes) : List (Bytes × Bytes) :=
  upsertFirst (fun header => header.1 = name) (name, value) headers

/-- A header line: what stands before the first colon, and behind it without one blank.  A
line without a colon is skipped. -/
def readHeaderLine (headers : List (Bytes × Bytes)) (headerLine : Bytes) :
    List (Bytes × Bytes) :=
  let headerLine := if headerLine.getLast? = some 13 then headerLine.dropLast else headerLine
  match cut [58] headerLine with
  | none => headers
  | some (name, value) =>
    putHeader headers name (if value.head? = some 32 then value.tail else value)

/-- Whether a line ends the headers. -/
def isBlankLine (headerLine : Bytes) : Bool := headerLine = [13] || headerLine = []

/-- The header lines, with the letters of the current line, and the body. -/
def readHeaders (headerLine : Bytes) (headers : List (Bytes × Bytes)) :
    Bytes → List (Bytes × Bytes) × Bytes
  | [] => (if isBlankLine headerLine then headers else readHeaderLine headers headerLine, [])
  | b :: rest =>
    if b = 10 then
      if isBlankLine headerLine then (headers, rest)
      else readHeaders [] (readHeaderLine headers headerLine) rest
    else readHeaders (headerLine ++ [b]) headers rest

/-- `stream >> word`: the word and what stands behind it. -/
def readWord (text : Bytes) : Bytes × Bytes :=
  (text.dropWhile isSpaceByte).span fun b => !isSpaceByte b

/-- What stands behind the first line break. -/
def behindLine (text : Bytes) : Bytes := (text.dropWhile (· ≠ 10)).tail

def parseRequest (rawRequest : Bytes) : HttpRequest :=
  let requestLine := rawRequest.takeWhile (· ≠ 10)
  let requestLine := if requestLine.getLast? = some 13 then requestLine.dropLast else requestLine
  let (method, rest) := readWord requestLine
  let (target, _) := readWord rest
  let (path, query) :=
    match cut [63] target with
    | none => (target, [])
    | some (path, query) => (path, query)
  let (headers, body) := readHeaders [] [] (behindLine rawRequest)
  { method, path, query, headers, body }

/-! ## What depends on the header block -/

section HeaderBlock

variable {rawRequest block rest : Bytes} {n : Nat}

/-- The length is read from the header block alone. -/
theorem parseContentLength_take (h : cut headerEndMark rawRequest = some (block, rest))
    (hn : block.length + 4 ≤ n) :
    parseContentLengthHeader (rawRequest.take n) = parseContentLengthHeader rawRequest := by
  have hblock : headerBlock (rawRequest.take n) = headerBlock rawRequest := by
    rw [headerBlock, headerBlock, cut_take_of_le h hn, h]
  rw [parseContentLengthHeader, parseContentLengthHeader, hblock]

/-- Without a header line that names it there is no length. -/
theorem value_of_absent (h : (parseContentLengthHeader rawRequest).present = false) :
    (parseContentLengthHeader rawRequest).value = 0 := by
  unfold parseContentLengthHeader contentLengthOf at h ⊢
  split at h
  · rfl
  · split at h
    · cases h
    · split at h <;> cases h

end HeaderBlock

/-! ## Where the body starts -/

/-- Whether a line of the block, read up to `\n`, is blank. -/
def blankLineInside (block : Bytes) : Bool :=
  (cut [10, 10] (block ++ [13, 10])).isSome || (cut [10, 13, 10] (block ++ [13, 10])).isSome

section Body

variable {rawRequest block rest line blank : Bytes} {headers : List (Bytes × Bytes)}

theorem isBlankLine_iff : isBlankLine line = true ↔ line = [13] ∨ line = [] := by
  rw [isBlankLine, Bool.or_eq_true, decide_eq_true_iff, decide_eq_true_iff]

theorem blankLineInside_iff : blankLineInside block = true ↔
    ∃ a blank c, isBlankLine blank = true ∧
      block ++ [13, 10] = a ++ 10 :: (blank ++ 10 :: c) := by
  rw [blankLineInside, Bool.or_eq_true, isSome_cut_iff, isSome_cut_iff]
  constructor
  · rintro (⟨a, c, h⟩ | ⟨a, c, h⟩)
    · exact ⟨a, [], c, rfl, by rw [← h, List.append_assoc]; rfl⟩
    · exact ⟨a, [13], c, rfl, by rw [← h, List.append_assoc]; rfl⟩
  · rintro ⟨a, blank, c, hblank, h⟩
    rcases isBlankLine_iff.mp hblank with rfl | rfl
    · exact Or.inr ⟨a, c, by rw [h, List.append_assoc]; rfl⟩
    · exact Or.inl ⟨a, c, by rw [h, List.append_assoc]; rfl⟩

/-- A blank line is read over. -/
theorem readHeaders_blank (hblank : isBlankLine blank = true) (headers : List (Bytes × Bytes))
    (rest : Bytes) : readHeaders [] headers (blank ++ 10 :: rest) = (headers, rest) := by
  rcases isBlankLine_iff.mp hblank with rfl | rfl <;> rfl

/-- The body starts at a blank line or before, by induction on what stands before it. -/
theorem suffix_readHeaders (hblank : isBlankLine blank = true) (a line : Bytes)
    (headers : List (Bytes × Bytes)) :
    rest <:+ (readHeaders line headers (a ++ 10 :: (blank ++ 10 :: rest))).2 := by
  induction a generalizing line headers with
  | nil =>
    rw [List.nil_append, readHeaders, if_pos rfl]
    split
    · exact ⟨blank ++ [10], by rw [List.append_assoc]; rfl⟩
    · rw [readHeaders_blank hblank]
  | cons b a ih =>
    rw [List.cons_append, readHeaders]
    split
    · split
      · exact ⟨a ++ 10 :: (blank ++ [10]), by simp⟩
      · exact ih [] _
    · exact ih (line ++ [b]) headers

/-- Where there is a body, a blank line stands before it. -/
theorem readHeaders_body (line : Bytes) (headers : List (Bytes × Bytes)) (text : Bytes) :
    (readHeaders line headers text).2 = [] ∨ ∃ a blank, isBlankLine blank = true ∧
      10 :: (line ++ text) = a ++ 10 :: (blank ++ 10 :: (readHeaders line headers text).2) := by
  induction text generalizing line headers with
  | nil => exact Or.inl rfl
  | cons b text ih =>
    by_cases hb : b = 10
    · by_cases hline : isBlankLine line = true
      · rw [readHeaders, if_pos hb, if_pos hline, hb]
        exact Or.inr ⟨[], line, hline, rfl⟩
      · rw [readHeaders, if_pos hb, if_neg hline, hb]
        rcases ih [] (readHeaderLine headers line) with hnil | ⟨a, blank, hblank, htext⟩
        · exact Or.inl hnil
        · refine Or.inr ⟨10 :: (line ++ a), blank, hblank, ?_⟩
          rw [List.cons_append, List.append_assoc, ← htext]
          rfl
    · rw [readHeaders, if_neg hb]
      rcases ih (line ++ [b]) headers with hnil | ⟨a, blank, hblank, htext⟩
      · exact Or.inl hnil
      · exact Or.inr ⟨a, blank, hblank, by rw [← htext, List.append_assoc]; rfl⟩

theorem body_parseRequest (rawRequest : Bytes) :
    (parseRequest rawRequest).body = (readHeaders [] [] (behindLine rawRequest)).2 := rfl

theorem behindLine_cons (b : UInt8) (text : Bytes) :
    behindLine (b :: text) = if b = 10 then text else behindLine text := by
  by_cases hb : b = 10 <;> simp [behindLine, hb]

/-- The body of a request starts at a blank line or before. -/
theorem suffix_body (hblank : isBlankLine blank = true) (a rest : Bytes) :
    rest <:+ (parseRequest (a ++ 10 :: (blank ++ 10 :: rest))).body := by
  rw [body_parseRequest]
  induction a with
  | nil =>
    rw [List.nil_append, behindLine_cons, if_pos rfl, readHeaders_blank hblank]
  | cons b a ih =>
    rw [List.cons_append, behindLine_cons]
    split
    · exact suffix_readHeaders hblank a [] []
    · exact ih

/-- Before a body there is a line break, and a blank line behind it. -/
theorem body_behind_blank (rawRequest : Bytes) : (parseRequest rawRequest).body = [] ∨
    ∃ a blank, isBlankLine blank = true ∧
      rawRequest = a ++ 10 :: (blank ++ 10 :: (parseRequest rawRequest).body) := by
  rw [body_parseRequest]
  induction rawRequest with
  | nil => exact Or.inl rfl
  | cons b text ih =>
    rw [behindLine_cons]
    by_cases hb : b = 10
    · rw [if_pos hb, hb]
      exact readHeaders_body [] [] text
    · rw [if_neg hb]
      rcases ih with hnil | ⟨a, blank, hblank, htext⟩
      · exact Or.inl hnil
      · refine Or.inr ⟨b :: a, blank, hblank, ?_⟩
        rw [List.cons_append, ← htext]

/-- What stands behind the header block belongs to the body. -/
theorem suffix_body_of_cut (h : cut headerEndMark rawRequest = some (block, rest)) :
    rest <:+ (parseRequest rawRequest).body := by
  have hblank : isBlankLine [13] = true := rfl
  have hsuffix := suffix_body hblank (block ++ [13]) rest
  have hsame : block ++ [13] ++ 10 :: ([13] ++ 10 :: rest) = rawRequest := by
    rw [eq_of_cut h, List.append_assoc, List.append_assoc]
    rfl
  rwa [hsame] at hsuffix

/-- **The body is what stands behind the header block exactly when no earlier line of the
block is blank.** -/
theorem body_parseRequest_iff (h : cut headerEndMark rawRequest = some (block, rest)) :
    (parseRequest rawRequest).body = rest ↔ blankLineInside block = false := by
  have hraw : rawRequest = block ++ [13, 10, 13, 10] ++ rest := eq_of_cut h
  rw [← Bool.not_eq_true, blankLineInside_iff]
  constructor
  · rintro hbody ⟨a, blank, c, hblank, hblock⟩
    have hearlier := suffix_body hblank a (c ++ [13, 10] ++ rest)
    have hsame : a ++ 10 :: (blank ++ 10 :: (c ++ [13, 10] ++ rest)) = rawRequest := by
      have hfront : rawRequest = block ++ [13, 10] ++ ([13, 10] ++ rest) := by
        rw [hraw, List.append_assoc, List.append_assoc]
        rfl
      rw [hfront, hblock]
      simp
    rw [hsame, hbody] at hearlier
    have hlength := hearlier.length_le
    simp only [List.length_append, List.length_cons, List.length_nil] at hlength
    omega
  · intro hinside
    obtain ⟨c, hc⟩ := suffix_body_of_cut h
    rcases body_behind_blank rawRequest with hnil | ⟨a, blank, hblank, htext⟩
    · rw [hnil] at hc ⊢
      exact (List.append_eq_nil_iff.mp hc).2.symm
    · rw [← hc] at htext ⊢
      have hblock : block ++ [13, 10, 13, 10] = a ++ 10 :: (blank ++ 10 :: c) := by
        refine (List.append_left_inj rest).mp ?_
        rw [← hraw, htext]
        simp
      rcases List.eq_nil_or_concat c with rfl | ⟨c, last, rfl⟩
      · rfl
      · -- a body that starts earlier takes the end of the block with it
        exfalso
        rcases List.eq_nil_or_concat c with rfl | ⟨c, last', rfl⟩
        · have hlast : block ++ [13, 10] ++ [13, 10] = a ++ 10 :: blank ++ [10, last] := by
            rw [List.append_assoc]
            exact hblock.trans (by simp)
          have hends := List.append_inj_right' hlast rfl
          cases hends
        · refine hinside ⟨a, blank, c, hblank, ?_⟩
          have hlast : block ++ [13, 10] ++ [13, 10] =
              a ++ 10 :: (blank ++ 10 :: c) ++ [last', last] := by
            rw [List.append_assoc]
            exact hblock.trans (by simp)
          exact List.append_inj_left' hlast rfl

end Body

end Http
end MasterControl
