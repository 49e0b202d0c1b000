import Mathlib.Data.List.Induction
import Mathlib.Tactic.Common

/-!
# The string literals of a PowerShell script

`ScriptReader` reads a script one character after the other, and parts it into code, comments and
string literals.  A text between single quotes ends at the next quote that is not doubled, where
each of five characters is a quote; a here-string ends at a line that starts with a quote and an at
sign.  Here-strings in double quotes and subexpressions in a text are not read.

What is spliced into a literal is the literal's value, and the rest of the script is read as before,
exactly when it holds no quote (`readScript_literal_iff`).
-/

namespace MasterControl
namespace Foundation

/-- An apostrophe, or one of the typographic quotes that count as one. -/
def isSingleQuote (c : Char) : Bool := c.toNat = 39 || (8216 ≤ c.toNat && c.toNat ≤ 8219)

def isDoubleQuote (c : Char) : Bool := c.toNat = 34 || (8220 ≤ c.toNat && c.toNat ≤ 8222)

def isLineEnd (c : Char) : Bool := c = '\n' || c = '\r'

inductive ScriptPiece where
  | code (c : Char)
  | literal (value : List Char)
  | expandable (text : List Char)
  | hereLiteral (value : List Char)
  deriving DecidableEq

/-- Where in a script a reader is. -/
inductive ScriptMode where
  | code
  /-- Behind an at sign, with which a here-string begins. -/
  | atSign
  /-- Behind a backtick. -/
  | escaped
  | comment
  | literal (value : List Char)
  /-- Behind a quote, which may be doubled. -/
  | literalQuote (value : List Char)
  | expandable (text : List Char)
  | expandableEscaped (text : List Char)
  | expandableQuote (text : List Char)
  /-- Before the first line of a here-string. -/
  | hereHead
  /-- Behind a line end of a here-string, which is not part of its value if this is the last one. -/
  | hereLine (value lineEnd : List Char)
  | hereQuote (value lineEnd : List Char) (quote : Char)
  | here (value : List Char)
  | broken
  deriving DecidableEq

structure ScriptReader where
  mode : ScriptMode
  pieces : List ScriptPiece
  deriving DecidableEq

namespace ScriptReader

/-- A character of the code. -/
def inCode (pieces : List ScriptPiece) (c : Char) : ScriptReader :=
  if isSingleQuote c then ⟨.literal [], pieces⟩
  else if isDoubleQuote c then ⟨.expandable [], pieces⟩
  else if c = '@' then ⟨.atSign, pieces⟩
  else if c = '#' then ⟨.comment, pieces⟩
  else if c.toNat = 96 then ⟨.escaped, pieces ++ [.code c]⟩
  else ⟨.code, pieces ++ [.code c]⟩

/-- A character of a here-string that does not end it. -/
def inHere (value : List Char) (c : Char) : ScriptMode :=
  if isLineEnd c then .hereLine value [c] else .here (value ++ [c])

def next (reader : ScriptReader) (c : Char) : ScriptReader :=
  match reader.mode with
  | .code => inCode reader.pieces c
  | .atSign =>
    if isSingleQuote c then ⟨.hereHead, reader.pieces⟩
    else if isDoubleQuote c then ⟨.broken, reader.pieces⟩
    else inCode (reader.pieces ++ [.code '@']) c
  | .escaped => ⟨.code, reader.pieces ++ [.code c]⟩
  | .comment => if isLineEnd c then ⟨.code, reader.pieces ++ [.code c]⟩ else reader
  | .literal value =>
    if isSingleQuote c then ⟨.literalQuote value, reader.pieces⟩
    else ⟨.literal (value ++ [c]), reader.pieces⟩
  | .literalQuote value =>
    if isSingleQuote c then ⟨.literal (value ++ [c]), reader.pieces⟩
    else inCode (reader.pieces ++ [.literal value]) c
  | .expandable text =>
    if isDoubleQuote c then ⟨.expandableQuote text, reader.pieces⟩
    else if c.toNat = 96 then ⟨.expandableEscaped (text ++ [c]), reader.pieces⟩
    else if c = '(' ∧ text.getLast? = some '$' then ⟨.broken, reader.pieces⟩
    else ⟨.expandable (text ++ [c]), reader.pieces⟩
  | .expandableEscaped text => ⟨.expandable (text ++ [c]), reader.pieces⟩
  | .expandableQuote text =>
    if isDoubleQuote c then ⟨.expandable (text ++ [c]), reader.pieces⟩
    else inCode (reader.pieces ++ [.expandable text]) c
  | .hereHead =>
    if c = '\n' then ⟨.hereLine [] [], reader.pieces⟩
    else if c = ' ' ∨ c = '\t' ∨ c = '\r' then reader
    else ⟨.broken, reader.pieces⟩
  | .hereLine value lineEnd =>
    if isSingleQuote c then ⟨.hereQuote value lineEnd c, reader.pieces⟩
    else if c = '\n' ∧ lineEnd = ['\r'] then ⟨.hereLine value (lineEnd ++ [c]), reader.pieces⟩
    else ⟨inHere (value ++ lineEnd) c, reader.pieces⟩
  | .hereQuote value lineEnd quote =>
    if c = '@' then ⟨.code, reader.pieces ++ [.hereLiteral value]⟩
    else ⟨inHere (value ++ lineEnd ++ [quote]) c, reader.pieces⟩
  | .here value => ⟨inHere value c, reader.pieces⟩
  | .broken => reader

/-- The pieces at the end of the script, if no literal is left open. -/
def finish (reader : ScriptReader) : Option (List ScriptPiece) :=
  match reader.mode with
  | .code | .comment => some reader.pieces
  | .atSign => some (reader.pieces ++ [.code '@'])
  | .literalQuote value => some (reader.pieces ++ [.literal value])
  | .expandableQuote text => some (reader.pieces ++ [.expandable text])
  | _ => none

def read (text : List Char) (reader : ScriptReader) : ScriptReader := text.foldl next reader

end ScriptReader

open ScriptReader

/-- The pieces of a script. -/
def readScript (text : List Char) : Option (List ScriptPiece) := (read text ⟨.code, []⟩).finish

/-- The pieces of a text that begins and ends in the code. -/
def codePieces (text : List Char) : List ScriptPiece := (read text ⟨.code, []⟩).pieces

namespace ScriptReader

variable {text more value w : List Char} {pieces : List ScriptPiece} {reader : ScriptReader}
  {c : Char}

theorem read_append (text more : List Char) (reader : ScriptReader) :
    read (text ++ more) reader = read more (read text reader) := List.foldl_append

theorem read_cons (c : Char) (text : List Char) (reader : ScriptReader) :
    read (c :: text) reader = read text (next reader c) := rfl

theorem read_concat (text : List Char) (c : Char) (reader : ScriptReader) :
    read (text ++ [c]) reader = next (read text reader) c := by
  rw [read_append]
  rfl

/-- A reader with pieces before its own. -/
def behind (pieces : List ScriptPiece) (reader : ScriptReader) : ScriptReader :=
  ⟨reader.mode, pieces ++ reader.pieces⟩

theorem inCode_behind (pieces own : List ScriptPiece) (c : Char) :
    inCode (pieces ++ own) c = behind pieces (inCode own c) := by
  unfold inCode
  split_ifs <;> simp only [behind, List.append_assoc]

/-- What has been read does not matter for what follows. -/
theorem next_behind (pieces : List ScriptPiece) (reader : ScriptReader) (c : Char) :
    next (behind pieces reader) c = behind pieces (next reader c) := by
  obtain ⟨mode, own⟩ := reader
  cases mode
  all_goals
    simp only [next, behind, List.append_assoc]
    try split_ifs
    all_goals simp only [behind, ← List.append_assoc, inCode_behind]

theorem read_behind (pieces : List ScriptPiece) (text : List Char) (reader : ScriptReader) :
    read text (behind pieces reader) = behind pieces (read text reader) := by
  induction text generalizing reader with
  | nil => rfl
  | cons c text ih => rw [read_cons, next_behind, ih, read_cons]

/-- Pieces are only added. -/
theorem prefix_read (text : List Char) (reader : ScriptReader) :
    reader.pieces <+: (read text reader).pieces := by
  have hread := read_behind reader.pieces text ⟨reader.mode, []⟩
  have hreader : behind reader.pieces ⟨reader.mode, []⟩ = reader := by
    rw [behind, List.append_nil]
  rw [hreader] at hread
  exact ⟨_, (congrArg ScriptReader.pieces hread).symm⟩

theorem prefix_finish {found : List ScriptPiece} (h : finish reader = some found) :
    reader.pieces <+: found := by
  unfold finish at h
  split at h
  · exact (Option.some.inj h) ▸ List.prefix_rfl
  · exact (Option.some.inj h) ▸ List.prefix_rfl
  · exact (Option.some.inj h) ▸ List.prefix_append _ _
  · exact (Option.some.inj h) ▸ List.prefix_append _ _
  · exact (Option.some.inj h) ▸ List.prefix_append _ _
  · cases h

/-! ## What is spliced into a literal -/

theorem next_literal (hc : isSingleQuote c = false) (value : List Char) :
    next ⟨.literal value, pieces⟩ c = ⟨.literal (value ++ [c]), pieces⟩ := by
  rw [next, hc]
  rfl

theorem next_literal_quote (hc : isSingleQuote c = true) (value : List Char) :
    next ⟨.literal value, pieces⟩ c = ⟨.literalQuote value, pieces⟩ := by
  rw [next, hc]
  rfl

theorem next_literalQuote (hc : isSingleQuote c = false) (value : List Char) :
    next ⟨.literalQuote value, pieces⟩ c = inCode (pieces ++ [.literal value]) c := by
  rw [next, hc]
  rfl

theorem next_literalQuote_quote (hc : isSingleQuote c = true) (value : List Char) :
    next ⟨.literalQuote value, pieces⟩ c = ⟨.literal (value ++ [c]), pieces⟩ := by
  rw [next, hc]
  rfl

theorem next_atSign_quote (hc : isSingleQuote c = true) :
    next ⟨.atSign, pieces⟩ c = ⟨.hereHead, pieces⟩ := by
  rw [next, hc]
  rfl

theorem next_hereLine (hc : isSingleQuote c = false) (value lineEnd : List Char) :
    next ⟨.hereLine value lineEnd, pieces⟩ c =
      if c = '\n' ∧ lineEnd = ['\r'] then ⟨.hereLine value (lineEnd ++ [c]), pieces⟩
      else ⟨inHere (value ++ lineEnd) c, pieces⟩ := by
  rw [next, hc]
  rfl

theorem next_hereLine_quote (hc : isSingleQuote c = true) (value lineEnd : List Char) :
    next ⟨.hereLine value lineEnd, pieces⟩ c = ⟨.hereQuote value lineEnd c, pieces⟩ := by
  rw [next, hc]
  rfl

theorem read_literal (h : ∀ c ∈ text, isSingleQuote c = false) (value : List Char) :
    read text ⟨.literal value, pieces⟩ = ⟨.literal (value ++ text), pieces⟩ := by
  induction text generalizing value with
  | nil => rw [List.append_nil]; rfl
  | cons c text ih =>
    rw [read_cons, next_literal (h c List.mem_cons_self),
      ih fun d hd => h d (List.mem_cons_of_mem c hd), List.append_assoc]
    rfl

/-- A quote that is not doubled ends the literal. -/
theorem prefix_closed {quote : Char} (hquote : isSingleQuote quote = true)
    (hc : isSingleQuote c = false) (more : List Char) :
    pieces ++ [.literal value] <+:
      (read (quote :: c :: more) ⟨.literal value, pieces⟩).pieces := by
  rw [read_cons, next_literal_quote hquote, read_cons, next_literalQuote hc]
  have hcode := prefix_read more (inCode (pieces ++ [.literal value]) c)
  have hself : pieces ++ [.literal value] <+: (inCode (pieces ++ [.literal value]) c).pieces := by
    have hbehind := inCode_behind (pieces ++ [.literal value]) [] c
    rw [List.append_nil] at hbehind
    rw [hbehind]
    exact List.prefix_append _ _
  exact hself.trans hcode

/-- What a literal holds of a text with quotes in it is shorter than the text. -/
theorem read_literal_cases (pieces : List ScriptPiece) (text : List Char) :
    ((∀ c ∈ text, isSingleQuote c = false) ∧
        read text ⟨.literal [], pieces⟩ = ⟨.literal text, pieces⟩) ∨
      (∃ value, pieces ++ [.literal value] <+: (read text ⟨.literal [], pieces⟩).pieces ∧
        value.length < text.length) ∨
      (∃ value, read text ⟨.literal [], pieces⟩ = ⟨.literal value, pieces⟩ ∧
        value.length < text.length) ∨
      ∃ value quote, read text ⟨.literal [], pieces⟩ = ⟨.literalQuote value, pieces⟩ ∧
        value.length < text.length ∧ text.getLast? = some quote ∧
        isSingleQuote quote = true := by
  induction text using List.reverseRecOn with
  | nil => exact .inl ⟨fun c hc => (by cases hc), rfl⟩
  | append_singleton text c ih =>
    rw [read_concat, List.length_append, List.length_singleton, List.getLast?_concat]
    rcases ih with ⟨hplain, hread⟩ | ⟨value, hstart, hlength⟩ | ⟨value, hread, hlength⟩ |
      ⟨value, quote, hread, hlength, -, -⟩
    · rw [hread]
      cases hc : isSingleQuote c with
      | false =>
        refine .inl ⟨fun d hd => ?_, next_literal hc text⟩
        rcases List.mem_append.mp hd with hd | hd
        · exact hplain d hd
        · rwa [List.mem_singleton.mp hd]
      | true =>
        exact .inr (.inr (.inr
          ⟨text, c, next_literal_quote hc text, Nat.lt_succ_self _, rfl, hc⟩))
    · have hgrown := prefix_read [c] (read text ⟨.literal [], pieces⟩)
      exact .inr (.inl ⟨value, hstart.trans hgrown, Nat.lt_succ_of_lt hlength⟩)
    · rw [hread]
      cases hc : isSingleQuote c with
      | false =>
        refine .inr (.inr (.inl ⟨_, next_literal hc value, ?_⟩))
        rw [List.length_append]
        exact Nat.succ_lt_succ hlength
      | true =>
        exact .inr (.inr (.inr
          ⟨value, c, next_literal_quote hc value, Nat.lt_succ_of_lt hlength, rfl, hc⟩))
    · rw [hread]
      cases hc : isSingleQuote c with
      | false =>
        refine .inr (.inl ⟨value, ?_, Nat.lt_succ_of_lt hlength⟩)
        rw [next_literalQuote hc]
        have hbehind := inCode_behind (pieces ++ [.literal value]) [] c
        rw [List.append_nil] at hbehind
        rw [hbehind]
        exact List.prefix_append _ _
      | true =>
        refine .inr (.inr (.inl ⟨_, next_literalQuote_quote hc value, ?_⟩))
        rw [List.length_append]
        exact Nat.succ_lt_succ hlength

end ScriptReader

section Splice

variable {front back seg more text : List Char} {quote quote' c : Char}

/-- A script up to a place in its code. -/
theorem read_front (h : (read front ⟨.code, []⟩).mode = .code) :
    read front ⟨.code, []⟩ = ⟨.code, codePieces front⟩ :=
  congrArg (fun mode => ScriptReader.mk mode (codePieces front)) h

theorem read_back (h : (read back ⟨.code, []⟩).mode = .code) (pieces : List ScriptPiece) :
    read back ⟨.code, pieces⟩ = ⟨.code, pieces ++ codePieces back⟩ := by
  have hread := read_behind pieces back ⟨.code, []⟩
  rw [read_front h, behind, behind, List.append_nil] at hread
  exact hread

theorem eq_of_prefix {pieces rest : List ScriptPiece} {value : List Char}
    (h : pieces ++ [.literal value] <+: pieces ++ .literal text :: rest) : value = text := by
  obtain ⟨more, hmore⟩ := h
  rw [List.append_assoc] at hmore
  have hcons := List.append_cancel_left hmore
  exact ScriptPiece.literal.inj (List.cons.inj hcons).1

/-- **The value of the literal is what is spliced into it exactly when that holds no quote.**  The
code behind the literal holds a quote too, in front of which there are other characters. -/
theorem readScript_literal_iff (hfront : (read front ⟨.code, []⟩).mode = .code)
    (hquote : isSingleQuote quote = true) (hback : back = seg ++ quote' :: c :: more)
    (hmode : (read back ⟨.code, []⟩).mode = .code) (hne : seg ≠ [])
    (hseg : ∀ c ∈ seg, isSingleQuote c = false) (hquote' : isSingleQuote quote' = true)
    (hc : isSingleQuote c = false) :
    readScript (front ++ quote :: (text ++ quote :: back)) =
        some (codePieces front ++ .literal text :: codePieces back) ↔
      ∀ c ∈ text, isSingleQuote c = false := by
  have hopen : read (front ++ quote :: (text ++ quote :: back)) ⟨.code, []⟩ =
      read (quote :: back) (read text ⟨.literal [], codePieces front⟩) := by
    rw [read_append, read_front hfront, read_cons, read_append]
    refine congrArg (fun reader => read (quote :: back) (read text reader)) ?_
    rw [next, inCode, if_pos hquote]
  obtain ⟨first, rest, rfl⟩ := List.exists_cons_of_ne_nil hne
  have hfirst := hseg first List.mem_cons_self
  constructor
  · intro h
    rw [readScript, hopen] at h
    have hgrown := prefix_finish h
    have hcancel {value : List Char} (hvalue : codePieces front ++ [.literal value] <+:
        (read (quote :: back) (read text ⟨.literal [], codePieces front⟩)).pieces) :
        value = text := eq_of_prefix (hvalue.trans hgrown)
    rcases read_literal_cases (codePieces front) text with ⟨hplain, -⟩ |
      ⟨value, hstart, hlength⟩ | ⟨value, hread, hlength⟩ |
      ⟨value, last, hread, -, hlast, hlastQuote⟩
    · exact hplain
    · rw [hcancel (hstart.trans (prefix_read _ _))] at hlength
      exact absurd hlength (Nat.lt_irrefl _)
    · rw [hread, hback] at hcancel
      rw [hcancel (prefix_closed hquote hfirst _)] at hlength
      exact absurd hlength (Nat.lt_irrefl _)
    · -- The last quote is doubled by the one that should end the literal.
      have hover : codePieces front ++ [.literal (value ++ [quote] ++ first :: rest)] <+:
          (read (quote' :: c :: more)
            ⟨.literal (value ++ [quote] ++ first :: rest), codePieces front⟩).pieces :=
        prefix_closed hquote' hc more
      rw [hread, hback, read_cons, next_literalQuote_quote hquote, read_append,
        read_literal hseg] at hcancel
      rw [← hcancel hover, List.getLast?_append, List.getLast?_cons, Option.some_or,
        ← List.getLast?_cons] at hlast
      have hmem := List.mem_of_getLast? hlast
      rw [hseg last hmem] at hlastQuote
      cases hlastQuote
  · intro hplain
    rw [readScript, hopen, read_literal hplain, List.nil_append, read_cons,
      next_literal_quote hquote]
    have hcode : read back ⟨.literalQuote text, codePieces front⟩ =
        read back ⟨.code, codePieces front ++ [.literal text]⟩ := by
      rw [hback, List.cons_append, read_cons, read_cons, next_literalQuote hfirst]
      rfl
    rw [hcode, read_back hmode, List.append_assoc]
    rfl

/-- The mode behind a text without quotes at the beginning of a here-string. -/
theorem read_here_cases (pieces : List ScriptPiece)
    (h : ∀ c ∈ text, isSingleQuote c = false) :
    ScriptReader.read text ⟨.hereLine [] [], pieces⟩ = ⟨.here text, pieces⟩ ∨
      ∃ value lineEnd, value ++ lineEnd = text ∧
        ScriptReader.read text ⟨.hereLine [] [], pieces⟩ = ⟨.hereLine value lineEnd, pieces⟩ ∧
        (lineEnd = ['\r'] → text.getLast? = some '\r') := by
  induction text using List.reverseRecOn with
  | nil => exact .inr ⟨[], [], rfl, rfl, fun h => by cases h⟩
  | append_singleton text c ih =>
    have hc := h c List.mem_concat_self
    have hin : ∀ value, next ⟨.here value, pieces⟩ c = ⟨inHere value c, pieces⟩ := fun value => rfl
    have hself : ⟨inHere text c, pieces⟩ = ScriptReader.mk (.here (text ++ [c])) pieces ∨
        ∃ value lineEnd, value ++ lineEnd = text ++ [c] ∧
          ⟨inHere text c, pieces⟩ = ScriptReader.mk (.hereLine value lineEnd) pieces ∧
          (lineEnd = ['\r'] → (text ++ [c]).getLast? = some '\r') := by
      unfold inHere
      split_ifs
      · refine .inr ⟨text, [c], rfl, rfl, fun hreturn => ?_⟩
        rw [List.getLast?_concat, (List.cons.inj hreturn).1]
      · exact .inl rfl
    rw [read_concat]
    rcases ih fun d hd => h d (List.mem_append_left _ hd) with hread |
      ⟨value, lineEnd, hvalue, hread, -⟩
    · rw [hread, hin]
      exact hself
    · rw [hread, next_hereLine hc]
      by_cases hreturn : c = '\n' ∧ lineEnd = ['\r']
      · rw [if_pos hreturn]
        refine .inr ⟨value, lineEnd ++ [c], ?_, rfl, fun hlast => ?_⟩
        · rw [← List.append_assoc, hvalue]
        · rw [hreturn.2] at hlast
          cases hlast
      · rw [if_neg hreturn, hvalue]
        exact hself

/-- A text without quotes that does not end with a carriage return is the value of its
here-string. -/
theorem readScript_hereLiteral (hfront : (ScriptReader.read front ⟨.code, []⟩).mode = .code)
    (hback : (ScriptReader.read back ⟨.code, []⟩).mode = .code)
    (hquote : isSingleQuote quote = true) (htext : ∀ c ∈ text, isSingleQuote c = false)
    (hlast : text.getLast? ≠ some '\r') :
    readScript (front ++ '@' :: quote :: '\n' :: (text ++ '\n' :: quote :: '@' :: back)) =
      some (codePieces front ++ .hereLiteral text :: codePieces back) := by
  have hopen : ∀ rest, ScriptReader.read (front ++ '@' :: quote :: '\n' :: rest) ⟨.code, []⟩ =
      ScriptReader.read rest ⟨.hereLine [] [], codePieces front⟩ := by
    intro rest
    rw [read_append, read_front hfront, read_cons, read_cons, read_cons]
    refine congrArg (ScriptReader.read rest) ?_
    have hat : next ⟨.code, codePieces front⟩ '@' = ⟨.atSign, codePieces front⟩ := rfl
    rw [hat, next_atSign_quote hquote]
    rfl
  have hline : next (ScriptReader.read text ⟨.hereLine [] [], codePieces front⟩) '\n' =
      ⟨.hereLine text ['\n'], codePieces front⟩ := by
    rcases read_here_cases (codePieces front) htext with hread |
      ⟨value, lineEnd, hvalue, hread, hreturn⟩
    · rw [hread]
      rfl
    · have hno : ¬ ('\n' = '\n' ∧ lineEnd = ['\r']) := fun h => hlast (hreturn h.2)
      have hnewline : isSingleQuote '\n' = false := rfl
      rw [hread, next_hereLine hnewline, if_neg hno, hvalue]
      rfl
  rw [readScript, hopen, read_append, read_cons, hline, read_cons,
    next_hereLine_quote hquote, read_cons]
  have hclose : next ⟨.hereQuote text ['\n'] quote, codePieces front⟩ '@' =
      ⟨.code, codePieces front ++ [.hereLiteral text]⟩ := rfl
  rw [hclose, read_back hback, List.append_assoc]
  rfl

end Splice

end Foundation
end MasterControl
