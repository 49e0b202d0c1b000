import Mathlib.Data.List.Induction
import Mathlib.Tactic.Common

/-!
# TOML, line by line

`readToml` reads the documents in which every value stands on one line: basic strings, booleans and
decimal integers, under bare keys, in tables with bare names.  Arrays, inline tables, dates, floats
and strings of several lines are not read.

A text between quotes is read back exactly when it holds no quote, no backslash and no control
character (`readTomlLine_text_iff`).  A text that holds one is read as a shorter one or not at all,
since what is read of a line is never longer than the line (`length_le_of_readTomlLine`).
-/

namespace MasterControl
namespace Foundation

/-! ## Characters -/

/-- A control character other than the tab. -/
def isControl (c : Char) : Bool := (c.toNat < 32 && c ≠ '\t') || c.toNat = 127

def isTomlBlank (c : Char) : Bool := c = ' ' || c = '\t'

def isBareKeyChar (c : Char) : Bool := c.isAlphanum || c = '_' || c = '-'

def hexValue (c : Char) : Option ℕ :=
  if c.isDigit then some (c.toNat - 48)
  else if 65 ≤ c.toNat ∧ c.toNat ≤ 70 then some (c.toNat - 55)
  else if 97 ≤ c.toNat ∧ c.toNat ≤ 102 then some (c.toNat - 87)
  else none

/-! ## Basic strings -/

/-- Where in a basic string, or behind it, a reader is. -/
inductive TomlTextState where
  | inside (value : List Char)
  | escaped (value : List Char)
  | hex (value : List Char) (more code : ℕ)
  | closed (value : List Char)
  | comment (value : List Char)
  | broken
  deriving DecidableEq

namespace TomlTextState

def value : TomlTextState → List Char
  | inside value | escaped value | hex value _ _ | closed value | comment value => value
  | broken => []

/-- Behind a backslash. -/
def unescape (value : List Char) (c : Char) : TomlTextState :=
  match c with
  | 'b' => inside (value ++ [Char.ofNat 8])
  | 't' => inside (value ++ ['\t'])
  | 'n' => inside (value ++ ['\n'])
  | 'f' => inside (value ++ [Char.ofNat 12])
  | 'r' => inside (value ++ ['\r'])
  | 'u' => hex value 3 0
  | 'U' => hex value 7 0
  | _ => if c.toNat = 34 ∨ c = '\\' then inside (value ++ [c]) else broken

/-- Behind a digit of a character's number, of which so many are still owed. -/
def unescapeHex (value : List Char) (code : ℕ) : ℕ → TomlTextState
  | 0 => if code.isValidChar then inside (value ++ [Char.ofNat code]) else broken
  | more + 1 => hex value more code

def next : TomlTextState → Char → TomlTextState
  | inside value, c =>
    if c.toNat = 34 then closed value
    else if c = '\\' then escaped value
    else if isControl c then broken
    else inside (value ++ [c])
  | escaped value, c => unescape value c
  | hex value more code, c =>
    match hexValue c with
    | none => broken
    | some digit => unescapeHex value (16 * code + digit) more
  | closed value, c =>
    if isTomlBlank c then closed value else if c = '#' then comment value else broken
  | comment value, c => if isControl c then broken else comment value
  | broken, _ => broken

/-- What has been read at the end of the line. -/
def accept : TomlTextState → Option (List Char)
  | closed value | comment value => some value
  | _ => none

end TomlTextState

/-- The text behind an opening quote. -/
def readBasicString (text : List Char) : Option (List Char) :=
  (text.foldl TomlTextState.next (.inside [])).accept

/-! ## Lines -/

inductive TomlValue where
  | text (value : List Char)
  | boolean (value : Bool)
  | integer (value : ℕ)
  deriving DecidableEq

inductive TomlLine where
  | blank
  | table (name : List (List Char))
  | member (key : List Char) (value : TomlValue)
  deriving DecidableEq

def trimToml (text : List Char) : List Char :=
  ((text.dropWhile isTomlBlank).reverse.dropWhile isTomlBlank).reverse

def isBareKey (key : List Char) : Bool := key ≠ [] && key.all isBareKeyChar

/-- What follows a value or a name: nothing, or a comment. -/
def isTomlEnd (text : List Char) : Bool :=
  match text.dropWhile isTomlBlank with
  | [] => true
  | c :: comment => c = '#' && !comment.any isControl

/-- A boolean or a number. -/
def readTomlScalar (text : List Char) : Option TomlValue :=
  if text = "true".toList then some (.boolean true)
  else if text = "false".toList then some (.boolean false)
  else if text ≠ [] ∧ text.all Char.isDigit = true ∧ (text.head? = some '0' → text.length = 1) then
    some (.integer (Nat.ofDigitChars 10 text 0))
  else none

def readTomlValue (text : List Char) : Option TomlValue :=
  match text with
  | [] => none
  | c :: rest =>
    if c.toNat = 34 then (readBasicString rest).map .text
    else
      let scalar := text.takeWhile Char.isAlphanum
      if isTomlEnd (text.dropWhile Char.isAlphanum) then readTomlScalar scalar else none

/-- A key, an equals sign and a value. -/
def readTomlMember (text : List Char) : Option TomlLine :=
  let key := text.takeWhile isBareKeyChar
  match (text.dropWhile isBareKeyChar).dropWhile isTomlBlank with
  | '=' :: rest =>
    if key = [] then none else (readTomlValue (rest.dropWhile isTomlBlank)).map (.member key)
  | _ => none

/-- The name of a table, behind its opening bracket. -/
def readTomlTable (text : List Char) : Option TomlLine :=
  let name := ((text.takeWhile (· ≠ ']')).splitOn '.').map trimToml
  match text.dropWhile (· ≠ ']') with
  | [] => none
  | _ :: rest => if name.all isBareKey && isTomlEnd rest then some (.table name) else none

/-- A line without the blanks in front. -/
def readTomlStart : List Char → Option TomlLine
  | [] => some .blank
  | c :: rest =>
    if c = '#' then if rest.any isControl then none else some .blank
    else if c = '[' then readTomlTable rest
    else readTomlMember (c :: rest)

/-- A line without the carriage return at its end. -/
def withoutReturn (text : List Char) : List Char :=
  if text.getLast? = some '\r' then text.dropLast else text

def readTomlLine (text : List Char) : Option TomlLine :=
  readTomlStart ((withoutReturn text).dropWhile isTomlBlank)

/-! ## Documents -/

structure TomlTable where
  name : List (List Char)
  members : List (List Char × TomlValue)
  deriving DecidableEq

/-- The tables with a line more, the one that is being read first.  No name and no key stands
twice. -/
def addTomlLine : List TomlTable → TomlLine → Option (List TomlTable)
  | tables, .blank => some tables
  | tables, .table name =>
    if tables.any (·.name = name) then none else some (⟨name, []⟩ :: tables)
  | [], .member _ _ => none
  | table :: tables, .member key value =>
    if table.members.any (·.1 = key) then none
    else some ({ table with members := table.members ++ [(key, value)] } :: tables)

def addTomlText (tables : List TomlTable) (text : List Char) : Option (List TomlTable) :=
  (readTomlLine text).bind (addTomlLine tables)

/-- The tables of a document, the last one first. -/
def readToml (text : List Char) : Option (List TomlTable) :=
  (text.splitOn '\n').foldlM addTomlText [⟨[], []⟩]

/-! ## What is read of a string -/

namespace TomlTextState

/-- A character that stands for itself in a basic string. -/
def plain (c : Char) : Bool := c.toNat ≠ 34 && c ≠ '\\' && !isControl c

variable {state : TomlTextState} {text value : List Char} {c : Char}

theorem next_of_plain (h : plain c = true) (value : List Char) :
    next (inside value) c = inside (value ++ [c]) := by
  rw [plain, Bool.and_eq_true, Bool.and_eq_true, decide_eq_true_iff, decide_eq_true_iff,
    Bool.not_eq_true'] at h
  rw [next, if_neg h.1.1, if_neg h.1.2, h.2]
  rfl

theorem foldl_of_plain (h : ∀ c ∈ text, plain c = true) (value : List Char) :
    text.foldl next (inside value) = inside (value ++ text) := by
  induction text generalizing value with
  | nil => rw [List.append_nil]; rfl
  | cons c text ih =>
    rw [List.foldl_cons, next_of_plain (h c List.mem_cons_self),
      ih fun d hd => h d (List.mem_cons_of_mem c hd), List.append_assoc]
    rfl

theorem length_value_unescapeHex (value : List Char) (code more : ℕ) :
    (unescapeHex value code more).value.length ≤ value.length + 1 := by
  cases more with
  | zero =>
    rw [unescapeHex]
    split_ifs
    · exact Nat.le_of_eq List.length_append
    · exact Nat.zero_le _
  | succ more => exact Nat.le_succ _

theorem length_value_unescape (value : List Char) (c : Char) :
    (unescape value c).value.length ≤ value.length + 1 := by
  have hconcat : ∀ d : Char, (inside (value ++ [d])).value.length ≤ value.length + 1 :=
    fun d => Nat.le_of_eq List.length_append
  unfold unescape
  split
  · exact hconcat _
  · exact hconcat _
  · exact hconcat _
  · exact hconcat _
  · exact hconcat _
  · exact Nat.le_succ _
  · exact Nat.le_succ _
  · split_ifs
    · exact hconcat c
    · exact Nat.zero_le _

/-- Each character adds one at most. -/
theorem length_value_next (state : TomlTextState) (c : Char) :
    (next state c).value.length ≤ state.value.length + 1 := by
  cases state with
  | inside value =>
    rw [next]
    split_ifs
    · exact Nat.le_succ _
    · exact Nat.le_succ _
    · exact Nat.zero_le _
    · exact Nat.le_of_eq List.length_append
  | escaped value => exact length_value_unescape value c
  | hex value more code =>
    rw [next]
    cases hexValue c with
    | none => exact Nat.zero_le _
    | some digit => exact length_value_unescapeHex value _ more
  | closed value =>
    rw [next]
    split_ifs
    · exact Nat.le_succ _
    · exact Nat.le_succ _
    · exact Nat.zero_le _
  | comment value =>
    rw [next]
    split_ifs
    · exact Nat.zero_le _
    · exact Nat.le_succ _
  | broken => exact Nat.zero_le _

/-- What is left of a text that does not stand for itself is shorter. -/
theorem foldl_cases (text : List Char) :
    ((∀ c ∈ text, plain c = true) ∧ text.foldl next (inside []) = inside text) ∨
      (text.foldl next (inside [])).value.length < text.length ∨
      text.foldl next (inside []) = broken := by
  induction text using List.reverseRecOn with
  | nil => exact .inl ⟨fun c hc => (by cases hc), rfl⟩
  | append_singleton text c ih =>
    rw [List.foldl_append, List.length_append, List.length_singleton, List.foldl_cons,
      List.foldl_nil]
    rcases ih with ⟨hplain, hstate⟩ | hshort | hbroken
    · rw [hstate]
      by_cases hc : plain c = true
      · refine .inl ⟨fun d hd => ?_, next_of_plain hc text⟩
        rcases List.mem_append.mp hd with hd | hd
        · exact hplain d hd
        · rwa [List.mem_singleton.mp hd]
      · right
        rw [next]
        split_ifs with hquote hslash hcontrol
        · exact .inl (Nat.lt_succ_self _)
        · exact .inl (Nat.lt_succ_self _)
        · exact .inr rfl
        · refine absurd ?_ hc
          rw [plain, decide_eq_true hquote, decide_eq_true hslash, Bool.eq_false_iff.mpr hcontrol]
          rfl
    · exact .inr (.inl (Nat.lt_of_le_of_lt (length_value_next _ c) (Nat.succ_lt_succ hshort)))
    · rw [hbroken]
      exact .inr (.inr rfl)

theorem length_le_of_accept (h : accept (text.foldl next (inside [])) = some value) :
    value.length ≤ text.length := by
  have hvalue : ∀ state : TomlTextState, accept state = some value → state.value = value := by
    intro state h
    cases state <;> first | exact Option.some.inj h | cases h
  have hsame := hvalue _ h
  rcases foldl_cases text with ⟨-, hstate⟩ | hshort | hbroken
  · rw [hstate] at h
    cases h
  · rw [hsame] at hshort
    exact Nat.le_of_lt hshort
  · rw [hbroken] at h
    cases h

/-- The closing quote adds nothing. -/
theorem value_of_accept_quote (hc : c.toNat = 34) (h : accept (next state c) = some value) :
    state.value = value ∧ state ≠ broken := by
  cases state with
  | inside value' =>
    rw [next, if_pos hc] at h
    exact ⟨Option.some.inj h, fun h => by cases h⟩
  | escaped value' =>
    obtain rfl : c = '"' := Char.toNat_inj.mp hc
    cases h
  | hex value' more code =>
    obtain rfl : c = '"' := Char.toNat_inj.mp hc
    cases h
  | closed value' =>
    obtain rfl : c = '"' := Char.toNat_inj.mp hc
    cases h
  | comment value' =>
    obtain rfl : c = '"' := Char.toNat_inj.mp hc
    exact ⟨Option.some.inj h, fun h => by cases h⟩
  | broken => cases h

/-- Exactly the texts that stand for themselves are read back behind a quote. -/
theorem accept_quote_iff (hc : c.toNat = 34) :
    accept (next (text.foldl next (inside [])) c) = some text ↔ ∀ d ∈ text, plain d = true := by
  constructor
  · intro h
    obtain ⟨hvalue, hunbroken⟩ := value_of_accept_quote hc h
    rcases foldl_cases text with ⟨hplain, -⟩ | hshort | hbroken
    · exact hplain
    · rw [hvalue] at hshort
      exact absurd hshort (Nat.lt_irrefl _)
    · exact absurd hbroken hunbroken
  · intro hplain
    rw [foldl_of_plain hplain, next, if_pos hc]
    rfl

end TomlTextState

theorem length_le_of_readBasicString {text value : List Char}
    (h : readBasicString text = some value) : value.length ≤ text.length :=
  TomlTextState.length_le_of_accept h

theorem readBasicString_quote_iff {text : List Char} :
    readBasicString (text ++ ['"']) = some text ↔ ∀ c ∈ text, TomlTextState.plain c = true := by
  rw [readBasicString, List.foldl_append]
  exact TomlTextState.accept_quote_iff rfl

/-! ## Lines with a text -/

section Lines

variable {key text value back : List Char} {line : TomlLine} {tables tables' : List TomlTable}

/-- A line that gives a key a text, up to its end. -/
def tomlTextLine (key text : List Char) : List Char := key ++ " = \"".toList ++ text

theorem takeWhile_key (h : isBareKey key = true) (c : Char) (hc : isBareKeyChar c = false)
    (back : List Char) : (key ++ c :: back).takeWhile isBareKeyChar = key ∧
      (key ++ c :: back).dropWhile isBareKeyChar = c :: back := by
  rw [isBareKey, Bool.and_eq_true, List.all_eq_true] at h
  rw [List.takeWhile_append_of_pos h.2, List.dropWhile_append_of_pos h.2,
    List.takeWhile_cons_of_neg (by rw [hc]; exact Bool.false_ne_true),
    List.dropWhile_cons_of_neg (by rw [hc]; exact Bool.false_ne_true), List.append_nil]
  exact ⟨rfl, rfl⟩

theorem readTomlMember_text (h : isBareKey key = true) (text : List Char) :
    readTomlMember (tomlTextLine key text) =
      (readBasicString text).map fun value => .member key (.text value) := by
  obtain ⟨htake, hdrop⟩ := takeWhile_key h ' ' rfl ("= \"".toList ++ text)
  have hline : tomlTextLine key text = key ++ ' ' :: ("= \"".toList ++ text) := by
    rw [tomlTextLine, List.append_assoc]
    rfl
  have hne : key ≠ [] := by
    rintro rfl
    cases h
  rw [hline, readTomlMember, htake, hdrop]
  show (if key = [] then none else (readTomlValue ('"' :: text)).map (TomlLine.member key)) = _
  have hquote : '"'.toNat = 34 := rfl
  rw [if_neg hne, readTomlValue, if_pos hquote, Option.map_map]
  rfl

theorem readTomlStart_text (h : isBareKey key = true) (text : List Char) :
    readTomlStart ((tomlTextLine key text).dropWhile isTomlBlank) =
      readTomlMember (tomlTextLine key text) := by
  rw [isBareKey, Bool.and_eq_true, decide_eq_true_iff] at h
  obtain ⟨c, key, rfl⟩ := List.exists_cons_of_ne_nil h.1
  have hc := List.all_eq_true.mp h.2 c List.mem_cons_self
  have hne : ∀ d, isBareKeyChar d = false → c ≠ d := by
    rintro d hd rfl
    rw [hc] at hd
    cases hd
  have hblank : ¬ isTomlBlank c = true := by
    rw [isTomlBlank, decide_eq_false (hne ' ' rfl), decide_eq_false (hne '\t' rfl)]
    exact Bool.false_ne_true
  show readTomlStart ((c :: (key ++ " = \"".toList ++ text)).dropWhile isTomlBlank) = _
  rw [List.dropWhile_cons_of_neg hblank, readTomlStart, if_neg (hne '#' rfl), if_neg (hne '[' rfl)]
  rfl

/-- The end of the text is the end of the line. -/
theorem withoutReturn_text (key text : List Char) :
    withoutReturn (tomlTextLine key text) = tomlTextLine key (withoutReturn text) := by
  rcases List.eq_nil_or_concat text with rfl | ⟨text, c, rfl⟩
  · have hline : tomlTextLine key [] = key ++ " = ".toList ++ ['"'] := by
      rw [tomlTextLine, List.append_nil, List.append_assoc]
      rfl
    rw [withoutReturn, hline, List.getLast?_concat, if_neg (by decide), ← hline]
    rfl
  · unfold withoutReturn
    rw [List.concat_eq_append, tomlTextLine, ← List.append_assoc, List.getLast?_concat,
      List.getLast?_concat, List.dropLast_concat, List.dropLast_concat]
    split_ifs
    · rfl
    · rw [List.append_assoc]
      rfl

/-- A line is a key and a text, whatever is read of the text. -/
theorem readTomlLine_text (h : isBareKey key = true) (text : List Char) :
    readTomlLine (tomlTextLine key text) =
      (readBasicString (withoutReturn text)).map fun value => .member key (.text value) := by
  rw [readTomlLine, withoutReturn_text, readTomlStart_text h, readTomlMember_text h]

theorem length_withoutReturn (text : List Char) : (withoutReturn text).length ≤ text.length := by
  unfold withoutReturn
  split_ifs
  · rw [List.length_dropLast]
    exact Nat.sub_le _ _
  · exact Nat.le_refl _

/-- What is read of a line is a member with no longer a text. -/
theorem length_le_of_readTomlLine (h : isBareKey key = true)
    (hline : readTomlLine (tomlTextLine key text) = some line) :
    ∃ value, line = .member key (.text value) ∧ value.length ≤ text.length := by
  rw [readTomlLine_text h] at hline
  obtain ⟨value, hvalue, rfl⟩ := Option.map_eq_some_iff.mp hline
  exact ⟨value, rfl,
    Nat.le_trans (length_le_of_readBasicString hvalue) (length_withoutReturn text)⟩

/-- **Exactly the texts that stand for themselves are read back from a line.** -/
theorem readTomlLine_text_iff (h : isBareKey key = true) :
    readTomlLine (tomlTextLine key (text ++ ['"'])) = some (.member key (.text text)) ↔
      ∀ c ∈ text, TomlTextState.plain c = true := by
  have hreturn : withoutReturn (text ++ ['"']) = text ++ ['"'] := by
    rw [withoutReturn, List.getLast?_concat, if_neg (by decide)]
  rw [readTomlLine_text h, hreturn, ← readBasicString_quote_iff]
  constructor
  · intro hline
    obtain ⟨value, hvalue, hmember⟩ := Option.map_eq_some_iff.mp hline
    obtain rfl := TomlValue.text.inj (TomlLine.member.inj hmember).2
    exact hvalue
  · intro hvalue
    rw [hvalue]
    rfl

/-! ## Documents with a text -/

/-- A table of that name gives the key the value. -/
def Binds (tables : List TomlTable) (name : List (List Char)) (key : List Char)
    (value : TomlValue) : Prop :=
  ∃ table ∈ tables, table.name = name ∧ (key, value) ∈ table.members

variable {name : List (List Char)} {bound : TomlValue}

/-- What is bound stays bound. -/
theorem binds_addTomlLine (hbinds : Binds tables name key bound)
    (h : addTomlLine tables line = some tables') : Binds tables' name key bound := by
  obtain ⟨table, hmem, hname, hmember⟩ := hbinds
  cases line with
  | blank =>
    obtain rfl := Option.some.inj h
    exact ⟨table, hmem, hname, hmember⟩
  | table other =>
    cases tables with
    | nil => cases hmem
    | cons first tables =>
      rw [addTomlLine] at h
      split_ifs at h
      obtain rfl := Option.some.inj h
      exact ⟨table, List.mem_cons_of_mem _ hmem, hname, hmember⟩
  | member key' value =>
    cases tables with
    | nil => cases hmem
    | cons first tables =>
      rw [addTomlLine] at h
      split_ifs at h
      obtain rfl := Option.some.inj h
      rcases List.mem_cons.mp hmem with rfl | hmem
      · exact ⟨_, List.mem_cons_self, hname, List.mem_append_left _ hmember⟩
      · exact ⟨table, List.mem_cons_of_mem _ hmem, hname, hmember⟩

theorem binds_foldlM (lines : List (List Char)) (hbinds : Binds tables name key bound)
    (h : lines.foldlM addTomlText tables = some tables') : Binds tables' name key bound := by
  induction lines generalizing tables with
  | nil =>
    obtain rfl := Option.some.inj h
    exact hbinds
  | cons text lines ih =>
    rw [List.foldlM_cons] at h
    obtain ⟨next, hnext, hrest⟩ := Option.bind_eq_some_iff.mp h
    obtain ⟨line, -, hadd⟩ := Option.bind_eq_some_iff.mp hnext
    exact ih (binds_addTomlLine hbinds hadd) hrest

theorem newline_notMem_tomlTextLine (h : isBareKey key = true) (htext : '\n' ∉ text) :
    '\n' ∉ tomlTextLine key text := by
  rw [isBareKey, Bool.and_eq_true] at h
  intro hmem
  rcases List.mem_append.mp hmem with hmem | hmem
  · rcases List.mem_append.mp hmem with hmem | hmem
    · exact absurd (List.all_eq_true.mp h.2 _ hmem) (by decide)
    · exact absurd hmem (by decide)
  · exact htext hmem

theorem newline_notMem_of_plain (h : ∀ c ∈ text, TomlTextState.plain c = true) : '\n' ∉ text :=
  fun hmem => absurd (h _ hmem) (by decide)

variable {front : List Char} {members : List (List Char × TomlValue)} {others : List TomlTable}

/-- A document with a text among other lines. -/
theorem readToml_split (h : isBareKey key = true) (htext : '\n' ∉ text)
    (hfront : (front.splitOn '\n').foldlM addTomlText [⟨[], []⟩] = some tables) :
    readToml (front ++ '\n' :: (tomlTextLine key text ++ '\n' :: back)) =
      (addTomlText tables (tomlTextLine key text)).bind fun tables =>
        (back.splitOn '\n').foldlM addTomlText tables := by
  rw [readToml, List.splitOn_append_cons_self, List.foldlM_append, hfront,
    List.splitOn_append_cons_self_of_not_mem (newline_notMem_tomlTextLine h htext)]
  rfl

/-- A text that stands for itself is bound to its key. -/
theorem readToml_of_plain (h : isBareKey key = true)
    (htext : ∀ c ∈ text, TomlTextState.plain c = true)
    (hfront : (front.splitOn '\n').foldlM addTomlText [⟨[], []⟩] =
      some (⟨name, []⟩ :: others)) :
    readToml (front ++ '\n' :: (tomlTextLine key (text ++ ['"']) ++ '\n' :: back)) =
      (back.splitOn '\n').foldlM addTomlText (⟨name, [(key, .text text)]⟩ :: others) := by
  have hnewline : '\n' ∉ text ++ ['"'] := by
    intro hmem
    rcases List.mem_append.mp hmem with hmem | hmem
    · exact newline_notMem_of_plain htext hmem
    · exact absurd hmem (by decide)
  rw [readToml_split h hnewline hfront, addTomlText, (readTomlLine_text_iff h).mpr htext]
  rfl

/-- What a document binds to the key is the text only if the text stands for itself. -/
theorem plain_of_readToml (h : isBareKey key = true)
    (hfront : (front.splitOn '\n').foldlM addTomlText [⟨[], []⟩] =
      some (⟨name, []⟩ :: others))
    (hread : readToml (front ++ '\n' :: (tomlTextLine key (text ++ ['"']) ++ '\n' :: back)) =
      some tables) :
    ∃ value, Binds tables name key (.text value) ∧
      (value = text → ∀ c ∈ text, TomlTextState.plain c = true) := by
  by_cases hnewline : '\n' ∈ text
  · -- The line ends within the text, so what is read of it is shorter.
    obtain ⟨first, second, rfl, hfirst⟩ := List.eq_append_cons_of_mem hnewline
    have hsplit : front ++ '\n' :: (tomlTextLine key (first ++ '\n' :: second ++ ['"']) ++
        '\n' :: back) =
        front ++ '\n' :: (tomlTextLine key first ++ '\n' :: (second ++ '"' :: '\n' :: back)) := by
      simp only [tomlTextLine, List.append_assoc, List.cons_append, List.nil_append]
    rw [hsplit, readToml_split h hfirst hfront] at hread
    obtain ⟨next, hnext, hrest⟩ := Option.bind_eq_some_iff.mp hread
    obtain ⟨line, hline, hadd⟩ := Option.bind_eq_some_iff.mp hnext
    obtain ⟨value, rfl, hlength⟩ := length_le_of_readTomlLine h hline
    refine ⟨value, binds_foldlM _ ?_ hrest, ?_⟩
    · obtain rfl := Option.some.inj hadd
      exact ⟨_, List.mem_cons_self, rfl, List.mem_singleton_self _⟩
    · rintro rfl
      rw [List.length_append, List.length_cons] at hlength
      omega
  · have hline : '\n' ∉ text ++ ['"'] := by
      intro hmem
      rcases List.mem_append.mp hmem with hmem | hmem
      · exact hnewline hmem
      · exact absurd hmem (by decide)
    rw [readToml_split h hline hfront] at hread
    obtain ⟨next, hnext, hrest⟩ := Option.bind_eq_some_iff.mp hread
    obtain ⟨line, hline, hadd⟩ := Option.bind_eq_some_iff.mp hnext
    obtain ⟨value, rfl, -⟩ := length_le_of_readTomlLine h hline
    refine ⟨value, binds_foldlM _ ?_ hrest, ?_⟩
    · obtain rfl := Option.some.inj hadd
      exact ⟨_, List.mem_cons_self, rfl, List.mem_singleton_self _⟩
    · rintro rfl
      exact (readTomlLine_text_iff h).mp hline

end Lines

end Foundation
end MasterControl
