import MasterControl.Packages.ArgumentQuoting
import Mathlib.Data.List.TakeWhile

/-!
# The command lines of the tools worker

`gitRun` and `runCommandLineTool` write the program, and behind a blank each argument as
`quoteArg` has it.  Its loop takes a row of backslashes and the letter behind it, and steps back to
that letter, which is then written once more.  So what the program gets is every argument with the
letters behind its backslashes doubled (`split_fullCommand`), and it gets the arguments themselves
if and only if their backslashes are all at the end (`split_fullCommand_iff`).
-/

namespace MasterControl
namespace Worker

open Foundation Packages

universe u

variable {α : Type u} [DecidableEq α] [CommandLetter α]

/-! ## `quoteArg` -/

def needsQuote (arg : List α) : Bool :=
  arg.any fun c => c = blank || c = tab || c = quote || c = backslash

/-- The loop over the letters of an argument, from one of them on. -/
def quoteLoop : List α → List α
  | [] => []
  | c :: rest =>
    if c = quote then [backslash, quote] ++ quoteLoop rest
    else if c = backslash then
      let backslashes := (rest.takeWhile (· = backslash)).length + 1
      match h : rest.dropWhile (· = backslash) with
      | [] => List.replicate (backslashes * 2) backslash
      | next :: tail =>
        -- The index goes back to the letter behind the row, which is not skipped.
        (if next = quote then List.replicate (backslashes * 2) backslash ++ [backslash, quote]
          else List.replicate backslashes backslash ++ [next]) ++ quoteLoop (next :: tail)
    else c :: quoteLoop rest
  termination_by arg => arg.length
  decreasing_by
    · exact Nat.lt_succ_self _
    · rw [← h]
      exact Nat.lt_succ_of_le (List.dropWhile_suffix _).length_le
    · exact Nat.lt_succ_self _

def quoteArg (arg : List α) : List α :=
  if arg = [] then [quote, quote]
  else if !needsQuote arg then arg
  else quote :: (quoteLoop arg ++ [quote])

/-- The text for `CreateProcessW`. -/
def fullCommand (exe : List α) (args : List (List α)) : List α :=
  args.foldl (fun full a => full ++ blank :: quoteArg a) exe

/-! ## What is written -/

/-- An argument with every letter behind a row of backslashes doubled; whether the last letter
was a backslash. -/
def stutter : Bool → List α → List α
  | _, [] => []
  | behind, c :: rest =>
    if c = backslash then c :: stutter true rest
    else if behind then c :: c :: stutter false rest
    else c :: stutter false rest

theorem stutter_cons (behind : Bool) (c : α) (rest : List α) :
    stutter behind (c :: rest) =
      if c = backslash then c :: stutter true rest
      else if behind then c :: c :: stutter false rest
      else c :: stutter false rest := rfl

/-- No backslash stands before another letter. -/
def TrailingBackslashes (arg : List α) : Prop :=
  arg.IsChain fun c next => c = backslash → next = backslash

instance (arg : List α) : Decidable (TrailingBackslashes arg) :=
  inferInstanceAs (Decidable (arg.IsChain _))

theorem stutter_replicate (behind : Bool) (n : ℕ) (rest : List α) :
    stutter behind (List.replicate (n + 1) backslash ++ rest) =
      List.replicate (n + 1) backslash ++ stutter true rest := by
  induction n generalizing behind with
  | zero => rw [List.replicate_one, List.singleton_append, stutter, if_pos rfl]; rfl
  | succ n ih =>
    rw [List.replicate_succ, List.cons_append, stutter, if_pos rfl, ih, List.cons_append]

theorem quoteFrom_replicate (slashes n : ℕ) (rest : List α) :
    quoteFrom slashes (List.replicate n backslash ++ rest) = quoteFrom (slashes + n) rest := by
  induction n generalizing slashes with
  | zero => rfl
  | succ n ih =>
    rw [List.replicate_succ, List.cons_append, quoteFrom, if_pos rfl, ih, Nat.add_right_comm,
      Nat.add_assoc]

theorem stutter_true_cons {next : α} (h : next ≠ backslash) (tail : List α) :
    stutter true (next :: tail) = next :: stutter false (next :: tail) := by
  rw [stutter_cons, stutter_cons, if_neg h, if_neg h, if_pos rfl, if_neg Bool.false_ne_true]

theorem takeWhile_backslash (rest : List α) :
    rest.takeWhile (· = backslash) =
      List.replicate (rest.takeWhile (· = backslash)).length backslash := by
  rw [List.eq_replicate_iff]
  refine ⟨rfl, fun b hb => ?_⟩
  have hb := List.mem_takeWhile_imp hb
  exact of_decide_eq_true hb

/-- A row of backslashes and what stands behind it. -/
theorem backslash_cons_eq {rest behind : List α}
    (h : rest.dropWhile (· = backslash) = behind) :
    backslash :: rest =
      List.replicate ((rest.takeWhile (· = backslash)).length + 1) backslash ++ behind := by
  rw [← h, List.replicate_succ, ← takeWhile_backslash, List.cons_append,
    List.takeWhile_append_dropWhile]

theorem ne_backslash_of_dropWhile {rest tail : List α} {next : α}
    (h : rest.dropWhile (· = backslash) = next :: tail) : next ≠ backslash := by
  have hhead := List.head?_dropWhile_not (· = backslash) rest
  rw [h] at hhead
  exact of_decide_eq_false hhead

/-- **The loop quotes the stuttered argument**. -/
theorem quoteLoop_append_quote (arg : List α) :
    quoteLoop arg ++ [quote] = quoteFrom 0 (stutter false arg) := by
  fun_induction quoteLoop arg with
  | case1 => rfl
  | case2 rest ih =>
    rw [stutter_cons, if_neg quote_ne_backslash, if_neg Bool.false_ne_true, quoteFrom,
      if_neg quote_ne_backslash, if_pos rfl, List.append_assoc, ih]
    rfl
  | case3 rest backslashes hrest hquote =>
    rw [backslash_cons_eq hrest, stutter_replicate, stutter, quoteFrom_replicate, quoteFrom,
      Nat.zero_add]
  | case4 rest backslashes next tail hrest hquote ih =>
    have hnext := ne_backslash_of_dropWhile hrest
    rw [backslash_cons_eq hrest, stutter_replicate, quoteFrom_replicate, Nat.zero_add,
      stutter_true_cons hnext, quoteFrom, if_neg hnext, List.append_assoc, ih]
    by_cases hmark : next = quote
    · subst hmark
      rw [if_pos rfl, if_pos rfl, List.replicate_succ']
      simp only [List.append_assoc, List.cons_append, List.nil_append]
      rfl
    · rw [if_neg hmark, if_neg hmark, List.append_assoc]
      rfl
  | case5 c rest hquote hslash ih =>
    rw [stutter_cons, if_neg hslash, if_neg Bool.false_ne_true, quoteFrom, if_neg hslash, if_neg hquote,
      List.cons_append, ih]
    rfl

/-- Nothing but backslashes makes the loop stutter. -/
theorem stutter_of_notMem {arg : List α} (h : backslash ∉ arg) : stutter false arg = arg := by
  induction arg with
  | nil => rfl
  | cons c rest ih =>
    rw [List.mem_cons, not_or] at h
    rw [stutter_cons, if_neg (Ne.symm h.1), if_neg Bool.false_ne_true, ih h.2]

theorem length_le_length_stutter (behind : Bool) (arg : List α) :
    arg.length ≤ (stutter behind arg).length := by
  induction arg generalizing behind with
  | nil => exact Nat.zero_le _
  | cons c rest ih =>
    rw [stutter_cons]
    split_ifs
    · exact Nat.succ_le_succ (ih true)
    · exact Nat.succ_le_succ (le_trans (ih false) (Nat.le_succ _))
    · exact Nat.succ_le_succ (ih false)

/-- An argument is written once exactly when its backslashes are all at the end. -/
theorem stutter_eq_self_iff (behind : Bool) (arg : List α) :
    stutter behind arg = arg ↔
      TrailingBackslashes (if behind then backslash :: arg else arg) := by
  induction arg generalizing behind with
  | nil => cases behind <;> exact iff_of_true rfl (by simp [TrailingBackslashes])
  | cons c rest ih =>
    by_cases hslash : c = backslash
    · subst hslash
      rw [stutter_cons, if_pos rfl, List.cons.injEq, and_iff_right rfl, ih true, if_pos rfl]
      cases behind with
      | false => rfl
      | true =>
        rw [if_pos rfl, TrailingBackslashes, TrailingBackslashes, List.isChain_cons_cons]
        exact (and_iff_right fun _ => rfl).symm
    · rw [stutter_cons, if_neg hslash]
      cases behind with
      | true =>
        rw [if_pos rfl, if_pos rfl]
        refine iff_of_false (fun h => ?_) fun h => ?_
        · have hlength := congrArg List.length h
          have hle := length_le_length_stutter false rest
          rw [List.length_cons, List.length_cons, List.length_cons] at hlength
          omega
        · rw [TrailingBackslashes, List.isChain_cons_cons] at h
          exact hslash (h.1 rfl)
      | false =>
        rw [if_neg Bool.false_ne_true, if_neg Bool.false_ne_true, List.cons.injEq,
          and_iff_right rfl, ih false, if_neg Bool.false_ne_true]
        cases rest with
        | nil => simp [TrailingBackslashes]
        | cons next rest =>
          rw [TrailingBackslashes, TrailingBackslashes, List.isChain_cons_cons]
          exact (and_iff_right fun h => absurd h hslash).symm

/-! ## What the program gets -/

theorem plain_of_not_needsQuote {arg : List α} (h : needsQuote arg = false) :
    Unquoted arg ∧ backslash ∉ arg := by
  rw [needsQuote, List.any_eq_false] at h
  simp only [Bool.or_eq_true, decide_eq_true_eq, not_or] at h
  constructor
  · intro b hb
    obtain ⟨⟨⟨hspace, htab⟩, hquote⟩, -⟩ := h b hb
    exact ⟨hspace, htab, hquote⟩
  · intro hmem
    exact (h _ hmem).2 rfl

/-- An argument comes back stuttered, whatever follows it. -/
theorem commandArguments_quoteArg (arg : List α) (after : Option (List α)) :
    commandArguments (quoteArg arg ++ afterArgument after) =
      stutter false arg :: argumentsAfter after := by
  unfold quoteArg
  split_ifs with hempty hplain
  · subst hempty
    exact commandArguments_quoted [] after
  · rw [Bool.not_eq_true'] at hplain
    obtain ⟨hunquoted, hslash⟩ := plain_of_not_needsQuote hplain
    rw [stutter_of_notMem hslash, commandArguments_unquoted hempty hunquoted]
  · rw [quoteLoop_append_quote, commandArguments_quoted]

/-- What stands behind the program. -/
def argumentsOf : List (List α) → Option (List α)
  | [] => none
  | a :: args => some (quoteArg a ++ afterArgument (argumentsOf args))

theorem fullCommand_eq (exe : List α) (args : List (List α)) :
    fullCommand exe args = exe ++ afterArgument (argumentsOf args) := by
  induction args generalizing exe with
  | nil => exact (List.append_nil exe).symm
  | cons a args ih =>
    have hstep : fullCommand exe (a :: args) = fullCommand (exe ++ blank :: quoteArg a) args := rfl
    rw [hstep, ih, List.append_assoc, List.cons_append]
    rfl

theorem commandArguments_argumentsOf (args : List (List α)) :
    argumentsAfter (argumentsOf args) = args.map (stutter false) := by
  induction args with
  | nil => rfl
  | cons a args ih =>
    rw [argumentsOf, argumentsAfter, commandArguments_quoteArg, ih, List.map_cons]

/-- **What a command line is split into**, by the rules for arguments, and with the rule for the
name of the program. -/
theorem split_fullCommand {exe : List α} (hne : exe ≠ []) (hexe : Unquoted exe)
    (args : List (List α)) :
    commandArguments (fullCommand exe args) = exe :: args.map (stutter false) ∧
      programArguments (fullCommand exe args) = exe :: args.map (stutter false) := by
  constructor
  · rw [fullCommand_eq, commandArguments_unquoted hne hexe, commandArguments_argumentsOf]
  · rw [fullCommand_eq, programArguments, programName_plain hexe, programName_afterArgument,
      List.append_nil, ← commandArguments_argumentsOf]
    cases argumentsOf args with
    | none => rfl
    | some rest => rfl

theorem map_stutter_eq_self_iff (args : List (List α)) :
    args.map (stutter false) = args ↔ ∀ arg ∈ args, TrailingBackslashes arg := by
  have hid : args.map (stutter false) = args ↔ args.map (stutter false) = args.map id := by
    rw [List.map_id]
  rw [hid, List.map_inj_left]
  exact forall₂_congr fun arg _ => stutter_eq_self_iff false arg

/-- **A command line is split into what was written** if and only if every backslash of an argument
has none but backslashes behind it. -/
theorem split_fullCommand_iff {exe : WideString} (hne : exe ≠ []) (hexe : Unquoted exe)
    (args : List WideString) :
    (commandArguments (fullCommand exe args) = exe :: args ↔
        ∀ arg ∈ args, TrailingBackslashes arg) ∧
      (programArguments (fullCommand exe args) = exe :: args ↔
        ∀ arg ∈ args, TrailingBackslashes arg) := by
  obtain ⟨hcommand, hprogram⟩ := split_fullCommand hne hexe args
  rw [hcommand, hprogram, List.cons.injEq, and_iff_right rfl]
  exact ⟨map_stutter_eq_self_iff args, map_stutter_eq_self_iff args⟩

/-! ### A path -/

/-- The program of `gitRun`. -/
def git : WideString := [103, 105, 116]

/-- A blank, and a backslash at the end. -/
theorem split_fullCommand_trailing :
    programArguments (fullCommand git [[97, 32, 98], [99, 92]]) =
      git :: [[97, 32, 98], [99, 92]] :=
  (split_fullCommand_iff (by decide) (by decide) [[97, 32, 98], [99, 92]]).2.mpr (by decide)

/-- The letter behind the backslash of a path comes twice. -/
theorem path_not_verbatim :
    ¬ ∀ (exe : WideString) (args : List WideString), exe ≠ [] → Unquoted exe →
      (∀ arg ∈ args, 0 ∉ arg) → programArguments (fullCommand exe args) = exe :: args := by
  intro h
  have hpath := h git [[67, 58, 92, 120]] (by decide) (by decide) (by decide)
  rw [(split_fullCommand (by decide) (by decide) _).2] at hpath
  exact absurd hpath (by decide)

end Worker
end MasterControl
