import MasterControl.Foundation.CommandLine

/-!
# Argument quoting

`joinCommandArguments` writes the program and its arguments as one wide string, which the program
splits again.  By the rules for arguments everything comes back (`split_joinCommandArguments`).  The
first of them is read by a rule of its own where it names the program: quotation marks enclose
blanks, and backslashes mean nothing.  The arguments come back then, too, and so does the name of
the program, unless it is quoted and ends with a backslash.
-/

namespace MasterControl
namespace Packages

open Foundation

universe u

variable {α : Type u} [DecidableEq α] [CommandLetter α]

/-! ## The rule for the name of the program -/

/-- The name at the beginning of a command line, and what follows it. -/
def programName : Bool → List α → List α × List α
  | _, [] => ([], [])
  | quoted, b :: rest =>
    if b = quote then programName (!quoted) rest
    else if !quoted && (b = blank || b = tab) then ([], rest)
    else (b :: (programName quoted rest).1, (programName quoted rest).2)

/-- The arguments of a command line, of which the first names the program. -/
def programArguments (command : List α) : List (List α) :=
  (programName false command).1 :: commandArguments (programName false command).2

theorem programName_quoted {text : List α} (h : quote ∉ text) (rest : List α) :
    programName true (text ++ quote :: rest) =
      (text ++ (programName false rest).1, (programName false rest).2) := by
  induction text with
  | nil =>
    rw [List.nil_append, programName, if_pos rfl]
    rfl
  | cons b text ih =>
    rw [List.mem_cons, not_or] at h
    have hb : b ≠ quote := fun heq => h.1 heq.symm
    rw [List.cons_append, programName, if_neg hb, if_neg (by simp), ih h.2]
    rfl

theorem programName_plain {text : List α} (h : Unquoted text) (rest : List α) :
    programName false (text ++ rest) =
      (text ++ (programName false rest).1, (programName false rest).2) := by
  induction text with
  | nil => rfl
  | cons b text ih =>
    obtain ⟨hspace, htab, hquote⟩ := h b List.mem_cons_self
    have htext : Unquoted text := fun c hc => h c (List.mem_cons_of_mem b hc)
    have hblank : ¬ (!false && (decide (b = blank) || decide (b = tab))) = true := by
      simp only [hspace, htab, decide_false, Bool.or_self, Bool.and_false, Bool.false_eq_true,
        not_false_iff]
    rw [List.cons_append, programName, if_neg hquote, if_neg hblank, ih htext]
    rfl

theorem programName_afterArgument (after : Option (List α)) :
    programName false (afterArgument after) = ([], after.getD []) := by
  cases after with
  | none => rfl
  | some rest =>
    rw [afterArgument, programName, if_neg blank_ne_quote, if_pos (by simp)]
    rfl

/-- A name without quotation marks between quotation marks: the backslashes at its end are
doubled. -/
theorem quoteFrom_of_notMem {text : List α} (h : quote ∉ text) (slashes : Nat) :
    ∃ n, quoteFrom slashes text =
        List.replicate slashes backslash ++ text ++ List.replicate n backslash ++ [quote] ∧
      (n = 0 ↔ (List.replicate slashes backslash ++ text).getLast? ≠ some backslash) := by
  induction text generalizing slashes with
  | nil =>
    refine ⟨slashes, ?_, ?_⟩
    · rw [quoteFrom, Nat.mul_two, List.append_nil, List.replicate_append_replicate]
    · rw [List.append_nil, List.getLast?_replicate]
      constructor
      · rintro rfl
        rw [if_pos rfl]
        exact (Option.some_ne_none backslash).symm
      · intro hne
        by_contra hslashes
        rw [if_neg hslashes] at hne
        exact hne rfl
  | cons b text ih =>
    rw [List.mem_cons, not_or] at h
    have hb : b ≠ quote := fun heq => h.1 heq.symm
    by_cases hslash : b = backslash
    · obtain ⟨n, hquoted, hn⟩ := ih h.2 (slashes + 1)
      have hstack : List.replicate (slashes + 1) backslash ++ text =
          List.replicate slashes backslash ++ b :: text := by
        rw [hslash, List.replicate_succ', List.append_assoc, List.singleton_append]
      rw [hstack] at hquoted hn
      exact ⟨n, by rw [quoteFrom, if_pos hslash, hquoted], hn⟩
    · obtain ⟨n, hquoted, hn⟩ := ih h.2 0
      refine ⟨n, ?_, ?_⟩
      · rw [quoteFrom, if_neg hslash, if_neg hb, hquoted]
        simp only [List.replicate_zero, List.nil_append, List.append_assoc, List.cons_append]
      · rw [hn, List.replicate_zero, List.nil_append, List.getLast?_append, List.getLast?_cons]
        cases text.getLast? with
        | none =>
          refine iff_of_true (Option.some_ne_none _).symm fun heq => hslash ?_
          exact Option.some.inj heq
        | some last => rfl

/-- How the name of the program is read again. -/
theorem programName_quoteWindowsArgument {program : List α} (hne : program ≠ [])
    (hquote : quote ∉ program) (after : Option (List α)) :
    ∃ n, programName false (quoteWindowsArgument program ++ afterArgument after) =
        (program ++ List.replicate n backslash, after.getD []) ∧
      (n = 0 ↔ ¬ (requiresQuotes program = true ∧ program.getLast? = some backslash)) := by
  rw [quoteWindowsArgument, if_neg hne]
  cases hquotes : requiresQuotes program with
  | false =>
    refine ⟨0, ?_, iff_of_true rfl fun h => Bool.false_ne_true h.1⟩
    rw [Bool.not_false, if_pos rfl, programName_plain (unquoted_of_not_requiresQuotes hquotes),
      programName_afterArgument]
    rfl
  | true =>
    obtain ⟨n, hquoted, hn⟩ := quoteFrom_of_notMem hquote 0
    rw [List.replicate_zero, List.nil_append] at hquoted hn
    have hinside : quote ∉ program ++ List.replicate n backslash := by
      rw [List.mem_append, not_or]
      exact ⟨hquote, fun h => quote_ne_backslash (List.eq_of_mem_replicate h)⟩
    refine ⟨n, ?_, ?_⟩
    · rw [Bool.not_true, if_neg Bool.false_ne_true, hquoted, List.cons_append, programName,
        if_pos rfl, Bool.not_false, List.append_assoc _ [quote], List.singleton_append,
        programName_quoted hinside, programName_afterArgument, List.append_nil]
    · rw [hn]
      simp only [true_and, ne_eq]

/-! ## Wide strings -/

abbrev WideString := List UInt16

/-- What follows the program. -/
def argumentsText : List WideString → Option WideString
  | [] => none
  | argument :: arguments => some (joinCommandArguments (argument :: arguments))

theorem joinCommandArguments_cons (program : WideString) (arguments : List WideString) :
    joinCommandArguments (program :: arguments) =
      quoteWindowsArgument program ++ afterArgument (argumentsText arguments) := by
  cases arguments with
  | nil => exact (List.append_nil _).symm
  | cons argument arguments => rfl

/-- **Joined arguments come back**, and by the rule for names the program does, too, unless it is
quoted and ends with a backslash. -/
theorem split_joinCommandArguments {program : WideString} (arguments : List WideString)
    (hne : program ≠ []) (hquote : quote ∉ program) :
    commandArguments (joinCommandArguments (program :: arguments)) = program :: arguments ∧
      (programArguments (joinCommandArguments (program :: arguments))).tail = arguments ∧
      (programArguments (joinCommandArguments (program :: arguments)) = program :: arguments ↔
        ¬ (requiresQuotes program = true ∧ program.getLast? = some backslash)) := by
  obtain ⟨n, hname, hn⟩ :=
    programName_quoteWindowsArgument hne hquote (argumentsText arguments)
  have hrest : commandArguments ((argumentsText arguments).getD []) = arguments := by
    cases arguments with
    | nil => rfl
    | cons argument arguments => exact commandArguments_joinCommandArguments _
  have hsplit : programArguments (joinCommandArguments (program :: arguments)) =
      (program ++ List.replicate n backslash) :: arguments := by
    rw [programArguments, joinCommandArguments_cons, hname, hrest]
  refine ⟨commandArguments_joinCommandArguments _, ?_, ?_⟩
  · rw [hsplit, List.tail_cons]
  · rw [hsplit, ← hn, List.cons.injEq, and_iff_left rfl, List.append_right_eq_self,
      List.replicate_eq_nil_iff]

/-- A program with a blank in its name, an argument with a row of backslashes before a quotation
mark and at its end, and an empty one. -/
theorem split_joinCommandArguments_blank :
    commandArguments (joinCommandArguments
      ([97, 32, 98] :: [[92, 92, 34, 32, 92], []] : List WideString)) =
        [[97, 32, 98], [92, 92, 34, 32, 92], []] :=
  (split_joinCommandArguments [[92, 92, 34, 32, 92], []] (by decide) (by decide)).1

end Packages
end MasterControl
