import MasterControl.Foundation.Json

/-!
# How a command line is split

A program on Windows gets one text and splits it into arguments itself.  The rules of the C
runtime: blanks separate, quotation marks enclose blanks, two quotation marks inside quotes
are one, and a backslash is special only before a quotation mark.  They are the same for bytes and
for the units of wide strings, so a text is a list of any letters among which these can be told
apart (`CommandLetter`).

A text without quotation marks that does not end with a backslash may be put between
quotation marks (`Quotable`), and comes back as it is (`splitFrom_quoted`).  Any text does that
is quoted by `quoteWindowsArgument`, which doubles backslashes in front of quotation marks
(`commandArguments_joinCommandArguments`).
-/

namespace MasterControl
namespace Foundation

universe u

/-- Letters among which a command line is split. -/
class CommandLetter (α : Type u) where
  backslash : α
  quote : α
  blank : α
  tab : α
  newline : α
  verticalTab : α
  distinct : [backslash, quote, blank, tab, newline, verticalTab].Nodup

export CommandLetter (backslash quote blank tab newline verticalTab)

instance : CommandLetter UInt8 where
  backslash := 92
  quote := 34
  blank := 32
  tab := 9
  newline := 10
  verticalTab := 11
  distinct := by decide

/-- The units of a wide string. -/
instance : CommandLetter UInt16 where
  backslash := 92
  quote := 34
  blank := 32
  tab := 9
  newline := 10
  verticalTab := 11
  distinct := by decide

/-- Outside quotes, inside them, or behind a quotation mark that may end them. -/
inductive QuoteMode where
  | plain
  | quoted
  | closing
deriving DecidableEq

/-- The mode once it is clear that no second quotation mark follows. -/
def QuoteMode.settled : QuoteMode → QuoteMode
  | closing => plain
  | mode => mode

variable {α : Type u} [DecidableEq α] [CommandLetter α]

section Letters

omit [DecidableEq α]

theorem quote_ne_backslash : (quote : α) ≠ backslash := by
  have h := CommandLetter.distinct (α := α)
  simp only [List.nodup_cons, List.mem_cons, not_or] at h
  exact fun heq => h.1.1 heq.symm

theorem blank_ne_backslash : (blank : α) ≠ backslash := by
  have h := CommandLetter.distinct (α := α)
  simp only [List.nodup_cons, List.mem_cons, not_or] at h
  exact fun heq => h.1.2.1 heq.symm

theorem blank_ne_quote : (blank : α) ≠ quote := by
  have h := CommandLetter.distinct (α := α)
  simp only [List.nodup_cons, List.mem_cons, not_or] at h
  exact fun heq => h.2.1.1 heq.symm

end Letters

/-- The arguments of a text, with a number of backslashes that are not yet counted, and the
argument that has begun. -/
def splitFrom : QuoteMode → Nat → Option (List α) → List α → List (List α)
  | _, _, none, [] => []
  | _, slashes, some arg, [] => [arg ++ List.replicate slashes backslash]
  | mode, slashes, current, b :: rest =>
    let arg := current.getD []
    if b = backslash then splitFrom mode.settled (slashes + 1) (some arg) rest
    else if b = quote then
      let arg := arg ++ List.replicate (slashes / 2) backslash
      if slashes % 2 = 1 then splitFrom mode.settled 0 (some (arg ++ [quote])) rest
      else
        match mode with
        | .plain => splitFrom .quoted 0 (some arg) rest
        | .quoted => splitFrom .closing 0 (some arg) rest
        | .closing => splitFrom .quoted 0 (some (arg ++ [quote])) rest
    else if mode ≠ .quoted ∧ (b = blank ∨ b = tab) then
      match current with
      | none => splitFrom .plain 0 none rest
      | some arg => (arg ++ List.replicate slashes backslash) :: splitFrom .plain 0 none rest
    else splitFrom mode.settled 0 (some (arg ++ List.replicate slashes backslash ++ [b])) rest

theorem splitFrom_cons (mode : QuoteMode) (slashes : Nat) (current : Option (List α)) (b : α)
    (rest : List α) :
    splitFrom mode slashes current (b :: rest) =
      let arg := current.getD []
      if b = backslash then splitFrom mode.settled (slashes + 1) (some arg) rest
      else if b = quote then
        let arg := arg ++ List.replicate (slashes / 2) backslash
        if slashes % 2 = 1 then splitFrom mode.settled 0 (some (arg ++ [quote])) rest
        else
          match mode with
          | .plain => splitFrom .quoted 0 (some arg) rest
          | .quoted => splitFrom .closing 0 (some arg) rest
          | .closing => splitFrom .quoted 0 (some (arg ++ [quote])) rest
      else if mode ≠ .quoted ∧ (b = blank ∨ b = tab) then
        match current with
        | none => splitFrom .plain 0 none rest
        | some arg => (arg ++ List.replicate slashes backslash) :: splitFrom .plain 0 none rest
      else splitFrom mode.settled 0 (some (arg ++ List.replicate slashes backslash ++ [b])) rest := by
  cases current <;> rfl

/-- The arguments of a command line. -/
def commandArguments (command : List α) : List (List α) := splitFrom .plain 0 none command

/-- A text that may be put between quotation marks as it is. -/
def Quotable (text : List α) : Prop := quote ∉ text ∧ text.getLast? ≠ some backslash

instance (text : List α) : Decidable (Quotable text) := inferInstanceAs (Decidable (_ ∧ _))

/-- A quotation mark outside quotes begins them. -/
theorem splitFrom_opening (rest : List α) :
    splitFrom .plain 0 none (quote :: rest) = splitFrom .quoted 0 (some []) rest := by
  rw [splitFrom_cons]
  dsimp only
  rw [if_neg quote_ne_backslash, if_pos rfl, if_neg (by decide)]
  rfl

/-- A quotation mark behind an even number of backslashes may end quotes. -/
theorem splitFrom_ending (slashes : Nat) (arg rest : List α) :
    splitFrom .quoted (slashes * 2) (some arg) (quote :: rest) =
      splitFrom .closing 0 (some (arg ++ List.replicate slashes backslash)) rest := by
  rw [splitFrom_cons]
  dsimp only
  rw [if_neg quote_ne_backslash, if_pos rfl, if_neg (by omega), Nat.mul_div_cancel _ (by decide),
    Option.getD_some]

/-- A blank outside quotes ends an argument. -/
theorem splitFrom_separator {mode : QuoteMode} (hmode : mode ≠ .quoted) (slashes : Nat)
    (arg rest : List α) : splitFrom mode slashes (some arg) (blank :: rest) =
      (arg ++ List.replicate slashes backslash) :: splitFrom .plain 0 none rest := by
  rw [splitFrom_cons]
  dsimp only
  rw [if_neg blank_ne_backslash, if_neg blank_ne_quote, if_pos ⟨hmode, Or.inl rfl⟩]

/-- The rest of a quoted text, behind its first letters. -/
theorem splitFrom_inside (arg : List α) (slashes : Nat) {text : List α} (hquote : quote ∉ text)
    (hlast : (List.replicate slashes backslash ++ text).getLast? ≠ some backslash) (rest : List α) :
    splitFrom .quoted slashes (some arg) (text ++ quote :: blank :: rest) =
      (arg ++ List.replicate slashes backslash ++ text) :: splitFrom .plain 0 none rest := by
  induction text generalizing arg slashes with
  | nil =>
    have hslashes : slashes = 0 := by
      by_contra hne
      refine hlast ?_
      rw [List.append_nil, List.getLast?_replicate, if_neg hne]
    subst hslashes
    have hending := splitFrom_ending 0 arg (blank :: rest)
    rw [Nat.zero_mul] at hending
    have hclosing : QuoteMode.closing ≠ .quoted := nofun
    rw [List.nil_append, hending, splitFrom_separator hclosing, List.replicate_zero]
  | cons b text ih =>
    have hb : b ≠ quote := fun h => hquote (h ▸ List.mem_cons_self)
    have htext : quote ∉ text := fun h => hquote (List.mem_cons_of_mem b h)
    rw [List.cons_append, splitFrom_cons]
    by_cases hslash : b = backslash
    · have hstack : List.replicate (slashes + 1) backslash ++ text =
          List.replicate slashes backslash ++ b :: text := by
        rw [hslash, List.replicate_succ', List.append_assoc, List.singleton_append]
      dsimp only
      rw [if_pos hslash, Option.getD_some]
      show splitFrom .quoted (slashes + 1) (some arg) _ = _
      rw [ih _ _ htext (by rwa [hstack]), List.append_assoc, hstack, List.append_assoc]
    · have hend : (List.replicate 0 backslash ++ text).getLast? ≠ some backslash := by
        rw [List.replicate_zero, List.nil_append]
        intro h
        rw [List.getLast?_append, List.getLast?_cons, h] at hlast
        exact hlast rfl
      dsimp only
      rw [if_neg hslash, if_neg hb, if_neg (by simp), Option.getD_some]
      show splitFrom .quoted 0 (some _) _ = _
      rw [ih _ _ htext hend, List.replicate_zero, List.append_nil, List.append_assoc _ [b],
        List.singleton_append]

/-- **A quoted text comes back.** -/
theorem splitFrom_quoted {text : List α} (h : Quotable text) (rest : List α) :
    splitFrom .plain 0 none (quote :: (text ++ quote :: blank :: rest)) =
      text :: splitFrom .plain 0 none rest := by
  have hinside := splitFrom_inside [] 0 h.1
    (by simpa using h.2) rest
  rw [List.replicate_zero, List.append_nil, List.nil_append] at hinside
  rw [← hinside, splitFrom_opening]

/-! ## Joining arguments -/

/-- The inside of a quoted argument and the closing mark, with the backslashes that are not
written yet. -/
def quoteFrom : Nat → List α → List α
  | slashes, [] => List.replicate (slashes * 2) backslash ++ [quote]
  | slashes, b :: rest =>
    if b = backslash then quoteFrom (slashes + 1) rest
    else if b = quote then List.replicate (slashes * 2 + 1) backslash ++ quote :: quoteFrom 0 rest
    else List.replicate slashes backslash ++ b :: quoteFrom 0 rest

def requiresQuotes (argument : List α) : Bool :=
  argument.any fun b => b ∈ [blank, tab, newline, verticalTab, quote]

def quoteWindowsArgument (argument : List α) : List α :=
  if argument = [] then [quote, quote]
  else if !requiresQuotes argument then argument
  else quote :: quoteFrom 0 argument

def joinCommandArguments : List (List α) → List α
  | [] => []
  | [argument] => quoteWindowsArgument argument
  | argument :: arguments =>
    quoteWindowsArgument argument ++ blank :: joinCommandArguments arguments

/-- Backslashes are counted. -/
theorem splitFrom_replicate {mode : QuoteMode} (hmode : mode.settled = mode) (slashes k : Nat)
    (arg rest : List α) :
    splitFrom mode slashes (some arg) (List.replicate k backslash ++ rest) =
      splitFrom mode (slashes + k) (some arg) rest := by
  induction k generalizing slashes with
  | zero => rfl
  | succ k ih =>
    rw [List.replicate_succ, List.cons_append, splitFrom_cons]
    dsimp only
    rw [if_pos rfl, Option.getD_some, hmode, ih, Nat.add_assoc, Nat.add_comm 1 k]

/-- A letter that is neither a backslash nor a quotation mark nor a separator ends a row of
backslashes. -/
theorem splitFrom_letter {mode : QuoteMode} {b : α} (hslash : b ≠ backslash) (hquote : b ≠ quote)
    (hblank : mode = .quoted ∨ (b ≠ blank ∧ b ≠ tab)) (slashes : Nat) (arg rest : List α) :
    splitFrom mode slashes (some arg) (b :: rest) =
      splitFrom mode.settled 0 (some (arg ++ List.replicate slashes backslash ++ [b])) rest := by
  rw [splitFrom_cons]
  dsimp only
  rw [if_neg hslash, if_neg hquote, if_neg, Option.getD_some]
  rintro ⟨hmode, hb⟩
  rcases hblank with hquoted | ⟨hspace, htab⟩
  · exact hmode hquoted
  · rcases hb with rfl | rfl
    · exact hspace rfl
    · exact htab rfl

/-- The inside of a quoted argument comes back, whatever it holds. -/
theorem splitFrom_quoteFrom (arg : List α) (slashes : Nat) (text rest : List α) :
    splitFrom .quoted 0 (some arg) (quoteFrom slashes text ++ rest) =
      splitFrom .closing 0 (some (arg ++ List.replicate slashes backslash ++ text)) rest := by
  induction text generalizing arg slashes with
  | nil =>
    rw [quoteFrom, List.append_assoc, splitFrom_replicate rfl, Nat.zero_add, List.singleton_append,
      splitFrom_ending, List.append_nil]
  | cons b text ih =>
    rw [quoteFrom]
    split_ifs with hslash hquote
    · rw [ih, hslash, List.replicate_succ', ← List.append_assoc, List.append_assoc _ [backslash],
        List.singleton_append]
    · subst hquote
      rw [List.append_assoc, splitFrom_replicate rfl, Nat.zero_add, List.cons_append, splitFrom_cons]
      dsimp only
      rw [if_neg quote_ne_backslash, if_pos rfl, if_pos (by omega), Option.getD_some]
      show splitFrom .quoted 0 _ _ = _
      rw [ih, List.replicate_zero, List.append_nil, List.append_assoc _ [quote],
        List.singleton_append, show (slashes * 2 + 1) / 2 = slashes by omega]
    · rw [List.append_assoc, splitFrom_replicate rfl, Nat.zero_add, List.cons_append,
        splitFrom_letter hslash hquote (Or.inl rfl)]
      show splitFrom .quoted 0 _ _ = _
      rw [ih, List.replicate_zero, List.append_nil, List.append_assoc _ [b],
        List.singleton_append]

/-- A text that is read as it stands: it has no blank, no tab and no quotation mark. -/
def Unquoted (text : List α) : Prop := ∀ b ∈ text, b ≠ blank ∧ b ≠ tab ∧ b ≠ quote

instance (text : List α) : Decidable (Unquoted text) := inferInstanceAs (Decidable (∀ b ∈ text, _))

theorem unquoted_of_not_requiresQuotes {text : List α} (h : requiresQuotes text = false) :
    Unquoted text := by
  intro b hb
  rw [requiresQuotes, List.any_eq_false] at h
  have hb := h b hb
  simp only [decide_eq_true_eq, List.mem_cons, List.not_mem_nil, or_false, not_or] at hb
  exact ⟨hb.1, hb.2.1, hb.2.2.2.2⟩

/-- An unquoted text comes back. -/
theorem splitFrom_plain (arg : List α) (slashes : Nat) {text : List α} (h : Unquoted text)
    (rest : List α) :
    ∃ arg' slashes', arg' ++ List.replicate slashes' backslash =
        arg ++ List.replicate slashes backslash ++ text ∧
      splitFrom .plain slashes (some arg) (text ++ rest) =
        splitFrom .plain slashes' (some arg') rest := by
  induction text generalizing arg slashes with
  | nil => exact ⟨arg, slashes, by rw [List.append_nil], rfl⟩
  | cons b text ih =>
    obtain ⟨hspace, htab, hquote⟩ := h b List.mem_cons_self
    have htext : Unquoted text := fun c hc => h c (List.mem_cons_of_mem b hc)
    by_cases hslash : b = backslash
    · obtain ⟨arg', slashes', hsame, hsplit⟩ := ih arg (slashes + 1) htext
      refine ⟨arg', slashes', ?_, ?_⟩
      · rw [hsame, hslash, List.replicate_succ', ← List.append_assoc,
          List.append_assoc _ [backslash], List.singleton_append]
      · rw [← hsplit, List.cons_append, splitFrom_cons]
        dsimp only
        rw [if_pos hslash]
        rfl
    · obtain ⟨arg', slashes', hsame, hsplit⟩ :=
        ih (arg ++ List.replicate slashes backslash ++ [b]) 0 htext
      refine ⟨arg', slashes', ?_, ?_⟩
      · rw [hsame, List.replicate_zero, List.append_nil, List.append_assoc _ [b],
          List.singleton_append]
      · rw [← hsplit, List.cons_append,
          splitFrom_letter hslash hquote (Or.inr ⟨hspace, htab⟩)]
        rfl

/-- What follows an argument: nothing, or a separator and more. -/
def afterArgument : Option (List α) → List α
  | none => []
  | some rest => blank :: rest

/-- The arguments in what follows. -/
def argumentsAfter : Option (List α) → List (List α)
  | none => []
  | some rest => commandArguments rest

/-- A letter that is no separator begins an argument. -/
theorem splitFrom_begin {b : α} (hspace : b ≠ blank) (htab : b ≠ tab) (rest : List α) :
    splitFrom .plain 0 none (b :: rest) = splitFrom .plain 0 (some []) (b :: rest) := by
  have hblank : ¬ (b = blank ∨ b = tab) := not_or.mpr ⟨hspace, htab⟩
  rw [splitFrom_cons, splitFrom_cons]
  simp only [hblank, and_false, if_false, Option.getD_none, Option.getD_some]

theorem splitFrom_afterArgument (mode : QuoteMode) (hmode : mode ≠ .quoted) (slashes : Nat)
    (arg : List α) (after : Option (List α)) :
    splitFrom mode slashes (some arg) (afterArgument after) =
      (arg ++ List.replicate slashes backslash) :: argumentsAfter after := by
  cases after with
  | none => rw [afterArgument, splitFrom]; rfl
  | some rest =>
    rw [afterArgument, splitFrom_separator hmode]
    rfl

/-- An unquoted argument comes back, whatever follows it. -/
theorem commandArguments_unquoted {argument : List α} (hne : argument ≠ [])
    (h : Unquoted argument) (after : Option (List α)) :
    commandArguments (argument ++ afterArgument after) = argument :: argumentsAfter after := by
  obtain ⟨b, rest, rfl⟩ := List.exists_cons_of_ne_nil hne
  obtain ⟨hspace, htab, -⟩ := h b List.mem_cons_self
  have hstart : commandArguments (b :: rest ++ afterArgument after) =
      splitFrom .plain 0 (some []) (b :: rest ++ afterArgument after) :=
    splitFrom_begin hspace htab _
  obtain ⟨arg', slashes', hsame, hsplit⟩ := splitFrom_plain [] 0 h (afterArgument after)
  rw [hstart, hsplit, splitFrom_afterArgument .plain QuoteMode.noConfusion, hsame]
  rfl

/-- A quoted argument comes back, whatever it holds and whatever follows it. -/
theorem commandArguments_quoted (argument : List α) (after : Option (List α)) :
    commandArguments (quote :: quoteFrom 0 argument ++ afterArgument after) =
      argument :: argumentsAfter after := by
  rw [commandArguments, List.cons_append, splitFrom_opening, splitFrom_quoteFrom,
    splitFrom_afterArgument .closing QuoteMode.noConfusion]
  simp only [List.replicate_zero, List.append_nil, List.nil_append]

/-- **An argument comes back**, whatever follows it. -/
theorem commandArguments_quoteWindowsArgument (argument : List α) (after : Option (List α)) :
    commandArguments (quoteWindowsArgument argument ++ afterArgument after) =
      argument :: argumentsAfter after := by
  unfold quoteWindowsArgument
  split_ifs with hempty hplain
  · subst hempty
    exact commandArguments_quoted [] after
  · rw [Bool.not_eq_true'] at hplain
    exact commandArguments_unquoted hempty (unquoted_of_not_requiresQuotes hplain) after
  · exact commandArguments_quoted argument after

/-- **Joined arguments are split as they were.** -/
theorem commandArguments_joinCommandArguments (arguments : List (List α)) :
    commandArguments (joinCommandArguments arguments) = arguments := by
  induction arguments with
  | nil => rfl
  | cons argument arguments ih =>
    cases arguments with
    | nil =>
      have hlast := commandArguments_quoteWindowsArgument argument none
      rwa [afterArgument, List.append_nil] at hlast
    | cons next arguments =>
      have hfirst := commandArguments_quoteWindowsArgument argument
        (some (joinCommandArguments (next :: arguments)))
      rw [joinCommandArguments.eq_3 _ _ (List.cons_ne_nil _ _)]
      rw [afterArgument, argumentsAfter, ih] at hfirst
      exact hfirst

end Foundation
end MasterControl
