import MasterControl.Foundation.ByteText
import Mathlib.Algebra.GroupWithZero.Nat

/-!
# Reading a shell script

The part of the POSIX shell language that is words, assignments and `&&`: a letter stands for
itself (`ordinary`), is quoted by a backslash, or stands between single quotes; blanks
separate words; everything else is outside this part, and reading it gives `none`.

A text in single quotes is one word, letter by letter (`tokens_quotePosixShellArgument`).  A
word of a script is never longer than the script, and one that is as long is the whole script,
which then has ordinary letters only (`weight_tokens_le`, `ordinary_of_tokens_word`).
-/

namespace MasterControl
namespace Foundation

/-! ## Words -/

/-- The letters of a word, each with whether it was quoted. -/
abbrev Word := List (UInt8 × Bool)

/-- The text of a word, after quotes are removed. -/
def Word.text (word : Word) : Bytes := List.map Prod.fst word

def unquoted (text : Bytes) : Word := text.map fun b => (b, false)

def quotedLetters (text : Bytes) : Word := text.map fun b => (b, true)

inductive Token where
  | word (word : Word)
  | andIf
deriving DecidableEq

def isNameByte (b : UInt8) : Bool :=
  (65 ≤ b && b ≤ 90) || (97 ≤ b && b ≤ 122) || isDigitByte b || b = 95

/-- A letter that means itself where nothing is quoted. -/
def ordinary (b : UInt8) : Bool := isNameByte b || b ∈ asciiBytes "+,-./:=@^%" || 128 ≤ b

/-- What the letters in front mean for the next one. -/
inductive Quoting where
  | plain
  | quoted
  | escaped
  | behindAnd
deriving DecidableEq

def isBlankByte (b : UInt8) : Bool := b = 32 || b = 9

/-- The word that has begun, if any, in front of the tokens behind it. -/
def flush : Option Word → List Token → List Token
  | none, ts => ts
  | some word, ts => .word word :: ts

/-- The tokens of a text, with the word that has begun. -/
def tokens : Quoting → Option Word → Bytes → Option (List Token)
  | .plain, current, [] => some (flush current [])
  | _, _, [] => none
  | .plain, current, b :: rest =>
    if isBlankByte b then (tokens .plain none rest).map (flush current)
    else if ordinary b then tokens .plain (some (current.getD [] ++ [(b, false)])) rest
    else if b = 39 then tokens .quoted (some (current.getD [])) rest
    else if b = 92 then tokens .escaped current rest
    else if b = 38 then (tokens .behindAnd none rest).map (flush current)
    else none
  | .quoted, current, b :: rest =>
    if b = 39 then tokens .plain (some (current.getD [])) rest
    else tokens .quoted (some (current.getD [] ++ [(b, true)])) rest
  | .escaped, current, b :: rest =>
    if b = 10 then none else tokens .plain (some (current.getD [] ++ [(b, true)])) rest
  | .behindAnd, _, b :: rest =>
    if b = 38 then (tokens .plain none rest).map (Token.andIf :: ·) else none

/-! ## Commands -/

/-- A simple command: the assignments in front, and its words. -/
structure SimpleCommand where
  assignments : List (Bytes × Bytes)
  argv : List Bytes
deriving DecidableEq

def isNameLetter (letter : UInt8 × Bool) : Bool := !letter.2 && isNameByte letter.1

/-- A text that a shell takes for the name of a variable. -/
def isIdentifier (name : Bytes) : Bool :=
  name ≠ [] && name.all isNameByte && !(name.head?.any isDigitByte)

/-- The name and the value of a word that is an assignment. -/
def assignmentOf (word : Word) : Option (Bytes × Bytes) :=
  let name := word.takeWhile isNameLetter
  match word.dropWhile isNameLetter with
  | (61, false) :: value =>
    if isIdentifier (Word.text name) then some (Word.text name, Word.text value) else none
  | _ => none

/-- The words a shell keeps for itself, where they are not quoted. -/
def reservedWords : List Bytes :=
  ["if", "then", "else", "elif", "fi", "do", "done", "case", "esac", "while", "until", "for",
    "in", "function", "select", "time"].map asciiBytes

def isReserved (word : Word) : Bool :=
  word.all (!·.2) && reservedWords.contains (Word.text word)

def simpleCommand : List Word → Option SimpleCommand
  | [] => some ⟨[], []⟩
  | word :: words =>
    match assignmentOf word with
    | some assignment =>
      (simpleCommand words).map fun command =>
        { command with assignments := assignment :: command.assignments }
    | none => if isReserved word then none else some ⟨[], (word :: words).map Word.text⟩

/-- The words between the operators. -/
def groups : List Token → List (List Word)
  | [] => [[]]
  | .andIf :: ts => [] :: groups ts
  | .word word :: ts =>
    match groups ts with
    | [] => [[word]]
    | group :: rest => (word :: group) :: rest

def simpleCommands : List (List Word) → Option (List SimpleCommand)
  | [] => some []
  | group :: rest =>
    if group = [] then none
    else
      (simpleCommand group).bind fun command => (simpleCommands rest).map (command :: ·)

/-- The commands of a script, of which each is run if the one before it ended well. -/
def commandsOf (text : Bytes) : Option (List SimpleCommand) :=
  match tokens .plain none text with
  | none => none
  | some [] => some []
  | some ts => simpleCommands (groups ts)

/-! ## Running a script -/

/-- A program that is started, with the variables that are passed on to it beyond those of the
session. -/
structure Invocation where
  directory : Bytes
  environment : List (Bytes × Bytes)
  argv : List Bytes
deriving DecidableEq

structure Outcome where
  /-- The programs that were started, in order. -/
  started : List Invocation
  exitCode : Nat
  output : Bytes
deriving DecidableEq

/-- A machine with a POSIX shell. -/
structure Machine where
  /-- The directory in which a session begins. -/
  login : Bytes
  /-- Where `cd` with an operand leads. -/
  enter : Bytes → Bytes → Option Bytes
  /-- Where `cd` alone leads. -/
  goHome : Bytes → Option Bytes
  /-- The variables of a session that are passed on. -/
  exported : Bytes → Bool
  /-- The names a shell runs itself, other than `cd`. -/
  builtIn : Bytes → Bool
  /-- The exit code and the output of every other program. -/
  program : Invocation → Nat × Bytes
  sh_not_builtIn : builtIn (asciiBytes "sh") = false

/-- The state of a shell. -/
structure Shell where
  directory : Bytes
  environment : List (Bytes × Bytes)

def wordCd : Bytes := asciiBytes "cd"

def wordSh : Bytes := asciiBytes "sh"

def wordLc : Bytes := asciiBytes "-lc"

/-- Where `cd` leads, `none` where it fails; with more than one operand that is not said. -/
def changeDirectory (m : Machine) (directory : Bytes) : List Bytes → Option (Option Bytes)
  | [] => some (m.goHome directory)
  | [operand] => some (m.enter directory operand)
  | _ => none

/-- One command: what came of it, and the shell behind it. -/
def execute (m : Machine) (run : Invocation → Outcome) (shell : Shell) (command : SimpleCommand) :
    Option (Outcome × Shell) :=
  match command.argv with
  | [] =>
    some (⟨[], 0, []⟩, { shell with
      environment := shell.environment ++ command.assignments.filter (m.exported ·.1) })
  | name :: operands =>
    if name = wordCd then
      (changeDirectory m shell.directory operands).map fun
        | none => (⟨[], 1, []⟩, shell)
        | some directory => (⟨[], 0, []⟩, { shell with directory })
    else if m.builtIn name then none
    else
      some (run ⟨shell.directory, shell.environment ++ command.assignments, name :: operands⟩,
        shell)

/-- The commands of a script, up to the first that fails. -/
def executeAll (m : Machine) (run : Invocation → Outcome) :
    Shell → List SimpleCommand → Option Outcome
  | _, [] => some ⟨[], 0, []⟩
  | shell, command :: commands =>
    match execute m run shell command with
    | none => none
    | some (outcome, shell) =>
      if outcome.exitCode ≠ 0 then some outcome
      else
        (executeAll m run shell commands).map fun rest =>
          ⟨outcome.started ++ rest.started, rest.exitCode, outcome.output ++ rest.output⟩

/-- A script; `none` where it leaves the part of the language that is described here. -/
def runScript (m : Machine) (run : Invocation → Outcome) (shell : Shell) (text : Bytes) :
    Option Outcome :=
  (commandsOf text).bind (executeAll m run shell)

/-- A program that is not a shell with a script. -/
def runLeaf (m : Machine) (invocation : Invocation) : Outcome :=
  ⟨[invocation], (m.program invocation).1, (m.program invocation).2⟩

/-- A program; of a shell with a script, what the script starts too.  The number bounds how
deep shells are followed. -/
def runWithin (m : Machine) : Nat → Invocation → Outcome
  | 0, invocation => runLeaf m invocation
  | depth + 1, invocation =>
    match invocation.argv with
    | name :: option :: text :: _ =>
      if name = wordSh ∧ option = wordLc then
        match runScript m (runWithin m depth)
            ⟨invocation.directory, invocation.environment⟩ text with
        | some outcome => { outcome with started := invocation :: outcome.started }
        | none => runLeaf m invocation
      else runLeaf m invocation
    | _ => runLeaf m invocation

/-- The letters of some texts, and one separator for each. -/
def letters (texts : List Bytes) : Nat := (texts.map fun text => text.length + 1).sum

/-- A program that is started.  A script is shorter than the arguments it came in, so its own
shells are followed to the end. -/
def runProgram (m : Machine) (invocation : Invocation) : Outcome :=
  runWithin m (letters invocation.argv) invocation

/-! ## Quoting -/

/-- A text between single quotes, each single quote of its own behind a backslash. -/
def quotePosixShellArgument (argument : Bytes) : Bytes :=
  if argument = [] then [39, 39]
  else 39 :: argument.flatMap (fun b => if b = 39 then [39, 92, 39, 39] else [b]) ++ [39]

/-- Inside the quotes, up to the closing one. -/
theorem tokens_inside_quotes (word : Word) (text rest : Bytes) :
    tokens .quoted (some word)
        (text.flatMap (fun b => if b = 39 then [39, 92, 39, 39] else [b]) ++ 39 :: rest) =
      tokens .plain (some (word ++ quotedLetters text)) rest := by
  induction text generalizing word with
  | nil =>
    rw [List.flatMap_nil, List.nil_append, tokens, if_pos rfl, quotedLetters, List.map_nil,
      List.append_nil, Option.getD_some]
  | cons b text ih =>
    have hletters : word ++ quotedLetters (b :: text) =
        word ++ [(b, true)] ++ quotedLetters text := by
      rw [List.append_assoc]
      rfl
    rw [List.flatMap_cons, List.append_assoc, hletters, ← ih]
    split_ifs with hb
    · subst hb
      rfl
    · rw [List.singleton_append, tokens, if_neg hb, Option.getD_some]

/-- **A quoted text is read as it is**, as part of the word that it stands in. -/
theorem tokens_quotePosixShellArgument (current : Option Word) (text rest : Bytes) :
    tokens .plain current (quotePosixShellArgument text ++ rest) =
      tokens .plain (some (current.getD [] ++ quotedLetters text)) rest := by
  have hopen : ∀ inside, tokens .plain current (39 :: inside) =
      tokens .quoted (some (current.getD [])) inside := fun _ => rfl
  unfold quotePosixShellArgument
  split_ifs with hempty
  · subst hempty
    rw [List.cons_append, hopen]
    exact tokens_inside_quotes (current.getD []) [] rest
  · rw [List.append_assoc, List.cons_append, hopen, List.singleton_append, tokens_inside_quotes]

theorem not_blank_of_ordinary {b : UInt8} (h : ordinary b = true) : isBlankByte b = false := by
  by_contra hblank
  rw [Bool.not_eq_false, isBlankByte, Bool.or_eq_true, decide_eq_true_iff,
    decide_eq_true_iff] at hblank
  rcases hblank with rfl | rfl
  · exact absurd h (by decide)
  · exact absurd h (by decide)

theorem tokens_ordinary {b : UInt8} (h : ordinary b = true) (current : Option Word)
    (rest : Bytes) :
    tokens .plain current (b :: rest) =
      tokens .plain (some (current.getD [] ++ [(b, false)])) rest := by
  rw [tokens, if_neg (by rw [not_blank_of_ordinary h]; exact Bool.false_ne_true), if_pos h]

/-- A text of ordinary letters goes on with the word that has begun. -/
theorem tokens_unquoted {text : Bytes} (h : text.all ordinary = true) (word : Word)
    (rest : Bytes) :
    tokens .plain (some word) (text ++ rest) =
      tokens .plain (some (word ++ unquoted text)) rest := by
  induction text generalizing word with
  | nil => rw [List.nil_append, unquoted, List.map_nil, List.append_nil]
  | cons b text ih =>
    rw [List.all_cons, Bool.and_eq_true] at h
    rw [List.cons_append, tokens_ordinary h.1, Option.getD_some, ih h.2, List.append_assoc]
    rfl

/-- A text of ordinary letters begins a word. -/
theorem tokens_begin {text : Bytes} (h : text.all ordinary = true) (hne : text ≠ [])
    (rest : Bytes) :
    tokens .plain none (text ++ rest) = tokens .plain (some (unquoted text)) rest := by
  obtain ⟨b, text, rfl⟩ := List.exists_cons_of_ne_nil hne
  rw [List.all_cons, Bool.and_eq_true] at h
  rw [List.cons_append, tokens_ordinary h.1, Option.getD_none, List.nil_append,
    tokens_unquoted h.2]
  rfl

/-- A blank ends the word. -/
theorem tokens_blank (word : Word) (rest : Bytes) :
    tokens .plain (some word) (32 :: rest) = (tokens .plain none rest).map (.word word :: ·) :=
  rfl

/-! ## Sizes -/

/-- The letters of a token that count, and one separator for a word. -/
def Token.weight : Token → Nat
  | .word letters => letters.length + 1
  | .andIf => 1

def weight (ts : List Token) : Nat := (ts.map Token.weight).sum

/-- The letters of the word that has begun. -/
def begun (current : Option Word) : Nat := (current.getD []).length

/-- What the letters in front leave for the separator of the last word. -/
def Quoting.slack : Quoting → Nat
  | plain | escaped | behindAnd => 1
  | quoted => 0

@[simp] theorem weight_nil : weight [] = 0 := rfl

@[simp] theorem weight_cons (t : Token) (ts : List Token) :
    weight (t :: ts) = t.weight + weight ts := List.sum_cons

theorem weight_flush_le (current : Option Word) (ts : List Token) :
    weight (flush current ts) ≤ begun current + 1 + weight ts := by
  cases current with
  | none => exact Nat.le_add_left ..
  | some word =>
    rw [flush, weight_cons]
    rfl

/-- **The words of a script fit into it**, each with a separator. -/
theorem weight_tokens_le {mode : Quoting} {current : Option Word} {text : Bytes}
    {ts : List Token} (h : tokens mode current text = some ts)
    (hmode : mode = .behindAnd → current = none) :
    weight ts ≤ begun current + text.length + mode.slack := by
  induction text generalizing mode current ts with
  | nil =>
    cases mode with
    | plain =>
      rw [← Option.some.inj h]
      exact weight_flush_le current []
    | quoted => cases h
    | escaped => cases h
    | behindAnd => cases h
  | cons b text ih =>
    have hgrown : ∀ letter, begun (some (current.getD [] ++ [letter])) = begun current + 1 :=
      fun letter => List.length_append
    have hkept : begun (some (current.getD [])) = begun current := rfl
    cases mode with
    | plain =>
      rw [tokens] at h
      split_ifs at h with hblank hordinary hquote hslash hand
      · obtain ⟨rest, hrest, rfl⟩ := Option.map_eq_some_iff.mp h
        have hle := ih hrest nofun
        have hflush := weight_flush_le current rest
        cases current with
        | none =>
          simp only [flush, begun, Quoting.slack, List.length_cons, Option.getD_none,
            List.length_nil] at hle ⊢
          omega
        | some word =>
          simp only [begun, Quoting.slack, List.length_cons, Option.getD_none, Option.getD_some,
            List.length_nil] at hle hflush ⊢
          omega
      · have hle := ih h nofun
        rw [hgrown] at hle
        simp only [Quoting.slack, List.length_cons] at hle ⊢
        omega
      · have hle := ih h nofun
        rw [hkept] at hle
        simp only [Quoting.slack, List.length_cons] at hle ⊢
        omega
      · have hle := ih h nofun
        simp only [Quoting.slack, List.length_cons] at hle ⊢
        omega
      · obtain ⟨rest, hrest, rfl⟩ := Option.map_eq_some_iff.mp h
        have hle := ih hrest fun _ => rfl
        have hflush := weight_flush_le current rest
        cases current with
        | none =>
          simp only [flush, begun, Quoting.slack, List.length_cons, Option.getD_none,
            List.length_nil] at hle ⊢
          omega
        | some word =>
          simp only [begun, Quoting.slack, List.length_cons, Option.getD_none, Option.getD_some,
            List.length_nil] at hle hflush ⊢
          omega
    | quoted =>
      rw [tokens] at h
      split_ifs at h with hquote
      · have hle := ih h nofun
        rw [hkept] at hle
        simp only [Quoting.slack, List.length_cons] at hle ⊢
        omega
      · have hle := ih h nofun
        rw [hgrown] at hle
        simp only [Quoting.slack, List.length_cons] at hle ⊢
        omega
    | escaped =>
      rw [tokens] at h
      split_ifs at h with hnewline
      have hle := ih h nofun
      rw [hgrown] at hle
      simp only [Quoting.slack, List.length_cons] at hle ⊢
      omega
    | behindAnd =>
      rw [tokens] at h
      split_ifs at h with hand
      obtain ⟨rest, hrest, rfl⟩ := Option.map_eq_some_iff.mp h
      have hle := ih hrest nofun
      rw [hmode rfl]
      simp only [weight_cons, Token.weight, begun, Quoting.slack, List.length_cons,
        Option.getD_none, List.length_nil] at hle ⊢
      omega

/-- The second `&` is an operator. -/
theorem exists_of_tokens_behindAnd {text : Bytes} {ts : List Token}
    (h : tokens .behindAnd none text = some ts) : ∃ rest, ts = .andIf :: rest := by
  cases text with
  | nil => cases h
  | cons b text =>
    rw [tokens] at h
    split_ifs at h with hand
    obtain ⟨rest, -, rfl⟩ := Option.map_eq_some_iff.mp h
    exact ⟨rest, rfl⟩

/-- A script that is one word, and has no letter more than the word, has ordinary letters
only. -/
theorem ordinary_of_tokens_word {current : Option Word} {text : Bytes} {word : Word}
    (h : tokens .plain current text = some [.word word])
    (hlength : begun current + text.length ≤ word.length) : text.all ordinary = true := by
  induction text generalizing current with
  | nil => rfl
  | cons b text ih =>
    have hword : weight [.word word] = word.length + 1 := rfl
    rw [List.length_cons] at hlength
    rw [tokens] at h
    split_ifs at h with hblank hordinary hquote hslash hand
    · obtain ⟨rest, hrest, hflush⟩ := Option.map_eq_some_iff.mp h
      have hle := weight_tokens_le hrest nofun
      cases current with
      | none =>
        have hflush : rest = [.word word] := hflush
        rw [hflush, hword] at hle
        simp only [begun, Quoting.slack, Option.getD_none, List.length_nil] at hle hlength
        omega
      | some begunWord =>
        obtain ⟨hsame, -⟩ := List.cons.inj hflush
        have hsame : begunWord = word := Token.word.inj hsame
        simp only [hsame, begun, Option.getD_some] at hlength
        omega
    · rw [List.all_cons, hordinary, Bool.true_and]
      refine ih h ?_
      simp only [begun, Option.getD_some, List.length_append, List.length_singleton] at hlength ⊢
      omega
    · have hle := weight_tokens_le h nofun
      simp only [hword, begun, Quoting.slack, Option.getD_some] at hle hlength
      omega
    · have hle := weight_tokens_le h nofun
      simp only [hword, Quoting.slack] at hle hlength
      omega
    · obtain ⟨rest, hrest, hflush⟩ := Option.map_eq_some_iff.mp h
      obtain ⟨behind, rfl⟩ := exists_of_tokens_behindAnd hrest
      cases current with
      | none => cases hflush
      | some begunWord => cases hflush

/-! ## Sizes of commands -/

/-- The letters of the assignments, and two separators for each. -/
def assignmentLetters (assignments : List (Bytes × Bytes)) : Nat :=
  (assignments.map fun a => a.1.length + a.2.length + 2).sum

def SimpleCommand.weight (command : SimpleCommand) : Nat :=
  assignmentLetters command.assignments + letters command.argv

def wordsWeight (words : List Word) : Nat := (words.map fun word => List.length word + 1).sum

@[simp] theorem letters_nil : letters [] = 0 := rfl

@[simp] theorem letters_cons (text : Bytes) (texts : List Bytes) :
    letters (text :: texts) = text.length + 1 + letters texts := List.sum_cons

theorem letters_eq_zero_iff {texts : List Bytes} : letters texts = 0 ↔ texts = [] := by
  cases texts with
  | nil => simp
  | cons text texts => simp

@[simp] theorem assignmentLetters_nil : assignmentLetters [] = 0 := rfl

@[simp] theorem assignmentLetters_cons (a : Bytes × Bytes) (assignments : List (Bytes × Bytes)) :
    assignmentLetters (a :: assignments) =
      a.1.length + a.2.length + 2 + assignmentLetters assignments := List.sum_cons

@[simp] theorem assignmentLetters_append (as bs : List (Bytes × Bytes)) :
    assignmentLetters (as ++ bs) = assignmentLetters as + assignmentLetters bs := by
  unfold assignmentLetters
  rw [List.map_append, List.sum_append]

theorem assignmentLetters_filter_le (p : Bytes × Bytes → Bool)
    (assignments : List (Bytes × Bytes)) :
    assignmentLetters (assignments.filter p) ≤ assignmentLetters assignments := by
  induction assignments with
  | nil => exact le_refl _
  | cons a assignments ih =>
    rw [List.filter_cons]
    split_ifs
    · rw [assignmentLetters_cons, assignmentLetters_cons]
      omega
    · rw [assignmentLetters_cons]
      omega

@[simp] theorem wordsWeight_cons (word : Word) (words : List Word) :
    wordsWeight (word :: words) = List.length word + 1 + wordsWeight words := List.sum_cons

theorem length_text (word : Word) : (Word.text word).length = List.length word :=
  List.length_map _

theorem letters_map_text (words : List Word) :
    letters (words.map Word.text) = wordsWeight words := by
  induction words with
  | nil => rfl
  | cons word words ih => rw [List.map_cons, letters_cons, wordsWeight_cons, length_text, ih]

theorem length_of_assignmentOf {word : Word} {a : Bytes × Bytes}
    (h : assignmentOf word = some a) : List.length word = a.1.length + a.2.length + 1 := by
  have hsplit := congrArg List.length (List.takeWhile_append_dropWhile (p := isNameLetter)
    (l := word))
  unfold assignmentOf at h
  dsimp only at h
  split at h
  · rename_i value hvalue
    split_ifs at h
    obtain rfl := Option.some.inj h
    rw [List.length_append, hvalue, List.length_cons] at hsplit
    rw [length_text, length_text, ← hsplit, Nat.add_assoc]
  · cases h

/-- A simple command has the letters of its words. -/
theorem weight_simpleCommand {words : List Word} {command : SimpleCommand}
    (h : simpleCommand words = some command) : command.weight = wordsWeight words := by
  induction words generalizing command with
  | nil =>
    obtain rfl := Option.some.inj h
    rfl
  | cons word words ih =>
    rw [simpleCommand] at h
    cases ha : assignmentOf word with
    | some a =>
      rw [ha] at h
      obtain ⟨rest, hrest, rfl⟩ := Option.map_eq_some_iff.mp h
      have hlength := length_of_assignmentOf ha
      have hweight := ih hrest
      simp only [SimpleCommand.weight, assignmentLetters_cons, wordsWeight_cons] at hweight ⊢
      omega
    | none =>
      rw [ha] at h
      dsimp only at h
      split_ifs at h
      obtain rfl := Option.some.inj h
      simp only [SimpleCommand.weight, assignmentLetters_nil, letters_map_text, Nat.zero_add]

/-- A word of a command is a word of its text. -/
theorem mem_words_of_mem_argv {words : List Word} {command : SimpleCommand} {text : Bytes}
    (h : simpleCommand words = some command) (htext : text ∈ command.argv) :
    ∃ word ∈ words, Word.text word = text := by
  induction words generalizing command with
  | nil =>
    obtain rfl := Option.some.inj h
    cases htext
  | cons word words ih =>
    rw [simpleCommand] at h
    cases ha : assignmentOf word with
    | some a =>
      rw [ha] at h
      obtain ⟨rest, hrest, rfl⟩ := Option.map_eq_some_iff.mp h
      obtain ⟨found, hfound, hsame⟩ := ih hrest htext
      exact ⟨found, List.mem_cons_of_mem _ hfound, hsame⟩
    | none =>
      rw [ha] at h
      dsimp only at h
      split_ifs at h
      obtain rfl := Option.some.inj h
      exact List.mem_map.mp htext

def commandsWeight (commands : List SimpleCommand) : Nat :=
  (commands.map SimpleCommand.weight).sum

@[simp] theorem commandsWeight_cons (command : SimpleCommand) (commands : List SimpleCommand) :
    commandsWeight (command :: commands) = command.weight + commandsWeight commands :=
  List.sum_cons

theorem weight_simpleCommands {gs : List (List Word)} {commands : List SimpleCommand}
    (h : simpleCommands gs = some commands) :
    commandsWeight commands = (gs.map wordsWeight).sum := by
  induction gs generalizing commands with
  | nil =>
    obtain rfl := Option.some.inj h
    rfl
  | cons group gs ih =>
    rw [simpleCommands] at h
    split_ifs at h
    obtain ⟨command, hcommand, h⟩ := Option.bind_eq_some_iff.mp h
    obtain ⟨rest, hrest, rfl⟩ := Option.map_eq_some_iff.mp h
    rw [commandsWeight_cons, List.map_cons, List.sum_cons, weight_simpleCommand hcommand,
      ih hrest]

theorem mem_group_of_mem_commands {gs : List (List Word)} {commands : List SimpleCommand}
    {command : SimpleCommand} (h : simpleCommands gs = some commands)
    (hcommand : command ∈ commands) : ∃ group ∈ gs, simpleCommand group = some command := by
  induction gs generalizing commands with
  | nil =>
    obtain rfl := Option.some.inj h
    cases hcommand
  | cons group gs ih =>
    rw [simpleCommands] at h
    split_ifs at h
    obtain ⟨first, hfirst, h⟩ := Option.bind_eq_some_iff.mp h
    obtain ⟨rest, hrest, rfl⟩ := Option.map_eq_some_iff.mp h
    rcases List.mem_cons.mp hcommand with rfl | hcommand
    · exact ⟨group, List.mem_cons_self, hfirst⟩
    · obtain ⟨found, hfound, hsame⟩ := ih hrest hcommand
      exact ⟨found, List.mem_cons_of_mem _ hfound, hsame⟩

theorem groups_ne_nil (ts : List Token) : groups ts ≠ [] := by
  cases ts with
  | nil => exact List.cons_ne_nil _ _
  | cons t ts =>
    cases t with
    | andIf => exact List.cons_ne_nil _ _
    | word letters =>
      rw [groups]
      split
      · exact List.cons_ne_nil _ _
      · exact List.cons_ne_nil _ _

theorem sum_wordsWeight_groups_le (ts : List Token) :
    ((groups ts).map wordsWeight).sum ≤ weight ts := by
  induction ts with
  | nil => exact le_refl _
  | cons t ts ih =>
    cases t with
    | andIf =>
      rw [groups, List.map_cons, List.sum_cons, weight_cons]
      exact Nat.add_le_add (Nat.zero_le _) ih
    | word letters =>
      rw [groups]
      cases hgroups : groups ts with
      | nil => exact absurd hgroups (groups_ne_nil ts)
      | cons group gs =>
        rw [hgroups, List.map_cons, List.sum_cons] at ih
        rw [weight_cons, List.map_cons, List.sum_cons, wordsWeight_cons, Token.weight]
        omega

theorem mem_tokens_of_mem_groups {ts : List Token} {group : List Word} {word : Word}
    (hgroup : group ∈ groups ts) (hword : word ∈ group) : Token.word word ∈ ts := by
  induction ts generalizing group with
  | nil =>
    rw [List.mem_singleton.mp hgroup] at hword
    cases hword
  | cons t ts ih =>
    cases t with
    | andIf =>
      rcases List.mem_cons.mp hgroup with rfl | hgroup
      · cases hword
      · exact List.mem_cons_of_mem _ (ih hgroup hword)
    | word letters =>
      rw [groups] at hgroup
      cases hgroups : groups ts with
      | nil => exact absurd hgroups (groups_ne_nil ts)
      | cons first gs =>
        rw [hgroups] at hgroup ih
        rcases List.mem_cons.mp hgroup with rfl | hgroup
        · rcases List.mem_cons.mp hword with rfl | hword
          · exact List.mem_cons_self
          · exact List.mem_cons_of_mem _ (ih List.mem_cons_self hword)
        · exact List.mem_cons_of_mem _ (ih (List.mem_cons_of_mem _ hgroup) hword)

theorem Token.weight_pos (t : Token) : 0 < t.weight := by
  cases t with
  | word letters => exact Nat.succ_pos _
  | andIf => exact Nat.one_pos

theorem weight_le_of_mem {ts : List Token} {t : Token} (h : t ∈ ts) : t.weight ≤ weight ts := by
  induction ts with
  | nil => cases h
  | cons first rest ih =>
    rw [weight_cons]
    rcases List.mem_cons.mp h with rfl | h
    · exact Nat.le_add_right _ _
    · exact (ih h).trans (Nat.le_add_left _ _)

/-- A token that weighs as much as all is the only one. -/
theorem eq_singleton_of_weight_le {ts : List Token} {t : Token} (hmem : t ∈ ts)
    (hle : weight ts ≤ t.weight) : ts = [t] := by
  cases ts with
  | nil => cases hmem
  | cons first rest =>
    rw [weight_cons] at hle
    rcases List.mem_cons.mp hmem with rfl | hmem
    · cases rest with
      | nil => rfl
      | cons next rest =>
        have hpos := next.weight_pos
        rw [weight_cons] at hle
        omega
    · have hrest := weight_le_of_mem hmem
      have hpos := first.weight_pos
      omega

theorem commandsOf_eq_some {text : Bytes} {commands : List SimpleCommand}
    (h : commandsOf text = some commands) :
    ∃ ts, tokens .plain none text = some ts ∧
      (ts = [] ∧ commands = [] ∨ simpleCommands (groups ts) = some commands) := by
  unfold commandsOf at h
  split at h
  · cases h
  · rename_i htokens
    exact ⟨[], htokens, Or.inl ⟨rfl, (Option.some.inj h).symm⟩⟩
  · rename_i ts _ htokens
    exact ⟨ts, htokens, Or.inr h⟩

/-- **The commands of a script fit into it.** -/
theorem weight_commandsOf_le {text : Bytes} {commands : List SimpleCommand}
    (h : commandsOf text = some commands) : commandsWeight commands ≤ text.length + 1 := by
  obtain ⟨ts, htokens, ⟨rfl, rfl⟩ | hcommands⟩ := commandsOf_eq_some h
  · exact Nat.zero_le _
  · have htext := weight_tokens_le htokens nofun
    have hgroups := sum_wordsWeight_groups_le ts
    rw [weight_simpleCommands hcommands]
    simp only [begun, Quoting.slack, Option.getD_none, List.length_nil] at htext
    omega

/-- A script that is a word of one of its own commands has ordinary letters only. -/
theorem ordinary_of_mem_argv {text : Bytes} {commands : List SimpleCommand}
    {command : SimpleCommand} (h : commandsOf text = some commands)
    (hcommand : command ∈ commands) (htext : text ∈ command.argv) : text.all ordinary = true := by
  obtain ⟨ts, htokens, ⟨rfl, rfl⟩ | hcommands⟩ := commandsOf_eq_some h
  · cases hcommand
  · obtain ⟨group, hgroup, hsimple⟩ := mem_group_of_mem_commands hcommands hcommand
    obtain ⟨word, hword, hsame⟩ := mem_words_of_mem_argv hsimple htext
    have hlength : List.length word = text.length := by rw [← length_text, hsame]
    have hle := weight_tokens_le htokens nofun
    simp only [begun, Quoting.slack, Option.getD_none, List.length_nil] at hle
    have hsingle := eq_singleton_of_weight_le (mem_tokens_of_mem_groups hgroup hword)
      (by rw [Token.weight]; omega)
    rw [hsingle] at htokens
    refine ordinary_of_tokens_word htokens ?_
    rw [begun, Option.getD_none, List.length_nil]
    omega

/-! ## What a script starts -/

section Running

variable {m : Machine} {run run' : Invocation → Outcome} {shell shell' : Shell}
  {command : SimpleCommand} {commands : List SimpleCommand} {outcome : Outcome}

/-- What one command can do: start no program, or start the program it names. -/
theorem execute_cases (h : execute m run shell command = some (outcome, shell')) :
    (outcome.started = [] ∧
      assignmentLetters shell'.environment ≤
        assignmentLetters shell.environment + command.weight) ∨
    ((∃ name, command.argv.head? = some name ∧ name ≠ wordCd ∧ m.builtIn name = false) ∧
      shell' = shell ∧
      outcome =
        run ⟨shell.directory, shell.environment ++ command.assignments, command.argv⟩) := by
  unfold execute at h
  cases hargv : command.argv with
  | nil =>
    rw [hargv] at h
    obtain ⟨rfl, rfl⟩ := Prod.mk.inj (Option.some.inj h)
    refine Or.inl ⟨rfl, ?_⟩
    have hfilter := assignmentLetters_filter_le (m.exported ·.1) command.assignments
    rw [assignmentLetters_append, SimpleCommand.weight]
    omega
  | cons name operands =>
    rw [hargv] at h
    dsimp only at h
    split_ifs at h with hcd hbuiltIn
    · obtain ⟨target, -, htarget⟩ := Option.map_eq_some_iff.mp h
      cases target with
      | none =>
        obtain ⟨rfl, rfl⟩ := Prod.mk.inj htarget
        exact Or.inl ⟨rfl, Nat.le_add_right _ _⟩
      | some directory =>
        obtain ⟨rfl, rfl⟩ := Prod.mk.inj htarget
        exact Or.inl ⟨rfl, Nat.le_add_right _ _⟩
    · obtain ⟨rfl, rfl⟩ := Prod.mk.inj (Option.some.inj h)
      exact Or.inr ⟨⟨name, rfl, hcd, Bool.eq_false_iff.mpr hbuiltIn⟩, rfl, rfl⟩

/-- The first program that a script starts is the program of one of its commands, and its
variables and arguments are letters of the script. -/
theorem started_head_of_executeAll (hrun : ∀ i, (run i).started.head? = some i)
    (h : executeAll m run shell commands = some outcome) {first : Invocation}
    (hfirst : outcome.started.head? = some first) :
    (∃ command ∈ commands, first.argv = command.argv) ∧
      (∃ name, first.argv.head? = some name ∧ name ≠ wordCd ∧ m.builtIn name = false) ∧
      assignmentLetters first.environment + letters first.argv ≤
        assignmentLetters shell.environment + commandsWeight commands := by
  induction commands generalizing shell outcome with
  | nil =>
    obtain rfl := Option.some.inj h
    cases hfirst
  | cons command commands ih =>
    rw [executeAll] at h
    cases hexecute : execute m run shell command with
    | none =>
      rw [hexecute] at h
      cases h
    | some result =>
      obtain ⟨done, behind⟩ := result
      rw [hexecute] at h
      dsimp only at h
      rcases execute_cases hexecute with ⟨hstarted, hbehind⟩ | ⟨hname, rfl, rfl⟩
      · -- no program yet: the first one is started by a later command
        split_ifs at h with hexit
        · obtain rfl := Option.some.inj h
          rw [hstarted] at hfirst
          cases hfirst
        · obtain ⟨rest, hrest, rfl⟩ := Option.map_eq_some_iff.mp h
          rw [hstarted, List.nil_append] at hfirst
          obtain ⟨⟨found, hfound, hsame⟩, hname, hle⟩ := ih hrest hfirst
          refine ⟨⟨found, List.mem_cons_of_mem _ hfound, hsame⟩, hname, ?_⟩
          rw [commandsWeight_cons]
          omega
      · have hhead : first =
            ⟨behind.directory, behind.environment ++ command.assignments, command.argv⟩ := by
          have hdone := hrun
            ⟨behind.directory, behind.environment ++ command.assignments, command.argv⟩
          split_ifs at h with hexit
          · obtain rfl := Option.some.inj h
            exact Option.some.inj (hfirst.symm.trans hdone)
          · obtain ⟨rest, -, rfl⟩ := Option.map_eq_some_iff.mp h
            rw [List.head?_append, hdone, Option.some_or] at hfirst
            exact (Option.some.inj hfirst).symm
        refine ⟨⟨command, List.mem_cons_self, by rw [hhead]⟩, by rwa [hhead], ?_⟩
        rw [hhead, assignmentLetters_append, commandsWeight_cons, SimpleCommand.weight]
        dsimp only
        omega

/-- A script of one command does what the command does. -/
theorem executeAll_singleton (h : execute m run shell command = some (outcome, shell')) :
    executeAll m run shell [command] = some outcome := by
  rw [executeAll, h]
  dsimp only
  split_ifs with hexit
  · rfl
  · rw [executeAll, Option.map_some, List.append_nil, List.append_nil]
    rw [ne_eq, not_not] at hexit
    rw [← hexit]

/-- A command that names a program starts it. -/
theorem execute_program {name : Bytes} {operands : List Bytes}
    {assignments : List (Bytes × Bytes)} (hcd : name ≠ wordCd) (hbuiltIn : m.builtIn name = false) :
    execute m run shell ⟨assignments, name :: operands⟩ =
      some (run ⟨shell.directory, shell.environment ++ assignments, name :: operands⟩, shell) := by
  unfold execute
  dsimp only
  rw [if_neg hcd, hbuiltIn, if_neg Bool.false_ne_true]

/-- What is run for the programs of a script decides what the script does. -/
theorem executeAll_congr
    (h : ∀ i, letters i.argv ≤ commandsWeight commands → run i = run' i) :
    executeAll m run shell commands = executeAll m run' shell commands := by
  induction commands generalizing shell with
  | nil => rfl
  | cons command commands ih =>
    have hcommand : execute m run shell command = execute m run' shell command := by
      unfold execute
      cases hargv : command.argv with
      | nil => rfl
      | cons name operands =>
        dsimp only
        rw [h]
        show letters (name :: operands) ≤ commandsWeight (command :: commands)
        rw [commandsWeight_cons, SimpleCommand.weight, hargv]
        omega
    have hrest : ∀ behind, executeAll m run behind commands = executeAll m run' behind commands :=
      fun behind => ih fun i hi => h i (by rw [commandsWeight_cons]; omega)
    rw [executeAll, executeAll, hcommand]
    simp only [hrest]

theorem runScript_congr {text : Bytes}
    (h : ∀ i, letters i.argv ≤ text.length + 1 → run i = run' i) :
    runScript m run shell text = runScript m run' shell text := by
  unfold runScript
  cases hcommands : commandsOf text with
  | none => rfl
  | some commands =>
    rw [Option.bind_some, Option.bind_some]
    exact executeAll_congr fun i hi => h i (hi.trans (weight_commandsOf_le hcommands))

theorem head?_started_runWithin (m : Machine) (depth : Nat) (invocation : Invocation) :
    (runWithin m depth invocation).started.head? = some invocation := by
  cases depth with
  | zero => rfl
  | succ depth =>
    unfold runWithin
    split
    · split_ifs
      · split
        · rfl
        · rfl
      · rfl
    · rfl

/-- Following shells deeper than there are letters changes nothing. -/
theorem runWithin_eq {n k : Nat} {invocation : Invocation} (hn : letters invocation.argv ≤ n)
    (hk : letters invocation.argv ≤ k) : runWithin m n invocation = runWithin m k invocation := by
  induction n generalizing invocation k with
  | zero =>
    have hempty := letters_eq_zero_iff.mp (Nat.le_zero.mp hn)
    cases k with
    | zero => rfl
    | succ k => rw [runWithin, runWithin, hempty]
  | succ n ih =>
    cases k with
    | zero =>
      have hempty := letters_eq_zero_iff.mp (Nat.le_zero.mp hk)
      rw [runWithin, runWithin, hempty]
    | succ k =>
      rw [runWithin, runWithin]
      split
      · rename_i name option text params hargv
        split_ifs with hsh
        · rw [hargv, letters_cons, letters_cons, letters_cons] at hn hk
          have hdeeper : ∀ i : Invocation, letters i.argv ≤ text.length + 1 →
              runWithin m n i = runWithin m k i := fun i hi => ih (by omega) (by omega)
          rw [runScript_congr hdeeper]
        · rfl
      · rfl

/-- **A shell with a script runs the script.** -/
theorem runProgram_sh {directory text : Bytes} {environment : List (Bytes × Bytes)}
    (params : List Bytes)
    (h : runScript m (runProgram m) ⟨directory, environment⟩ text = some outcome) :
    runProgram m ⟨directory, environment, wordSh :: wordLc :: text :: params⟩ =
      { outcome with
        started := ⟨directory, environment, wordSh :: wordLc :: text :: params⟩ ::
          outcome.started } := by
  obtain ⟨n, hn⟩ : ∃ n, letters (wordSh :: wordLc :: text :: params) = n + 1 :=
    Nat.exists_eq_add_one_of_ne_zero (by rw [letters_cons]; omega)
  have htext : text.length + 1 ≤ n := by
    rw [letters_cons, letters_cons, letters_cons] at hn
    omega
  have hscript : runScript m (runWithin m n) ⟨directory, environment⟩ text = some outcome := by
    rw [← h]
    exact runScript_congr fun i hi => runWithin_eq (hi.trans htext) (le_refl _)
  rw [runProgram, hn, runWithin]
  dsimp only
  rw [if_pos ⟨rfl, rfl⟩, hscript]

end Running

/-! ## Scripts that are put together -/

theorem assignmentOf_quotedLetters (text : Bytes) : assignmentOf (quotedLetters text) = none := by
  cases text with
  | nil => rfl
  | cons b text =>
    have hstop : isNameLetter (b, true) = false := rfl
    rw [assignmentOf, quotedLetters, List.map_cons, List.dropWhile_cons, hstop,
      if_neg Bool.false_ne_true]
    split
    · rename_i value hvalue
      cases hvalue
    · rfl

theorem isReserved_quotedLetters (text : Bytes) : isReserved (quotedLetters text) = false := by
  cases text with
  | nil => rfl
  | cons b text => rfl

@[simp] theorem text_quotedLetters (text : Bytes) : Word.text (quotedLetters text) = text := by
  rw [Word.text, quotedLetters, List.map_map]
  exact List.map_id text

@[simp] theorem text_unquoted (text : Bytes) : Word.text (unquoted text) = text := by
  rw [Word.text, unquoted, List.map_map]
  exact List.map_id text

@[simp] theorem text_append (a b : Word) : Word.text (a ++ b) = Word.text a ++ Word.text b :=
  List.map_append

/-- An assignment whose value is quoted. -/
def assignmentWord (a : Bytes × Bytes) : Word := unquoted a.1 ++ (61, false) :: quotedLetters a.2

theorem assignmentOf_assignmentWord {a : Bytes × Bytes} (h : isIdentifier a.1 = true) :
    assignmentOf (assignmentWord a) = some a := by
  have hname : ∀ letter ∈ unquoted a.1, isNameLetter letter = true := by
    rw [isIdentifier, Bool.and_eq_true, Bool.and_eq_true, List.all_eq_true] at h
    intro letter hletter
    obtain ⟨b, hb, rfl⟩ := List.mem_map.mp hletter
    rw [isNameLetter, h.1.2 b hb]
    rfl
  have hstop : isNameLetter (61, false) = false := by decide
  have htake : (assignmentWord a).takeWhile isNameLetter = unquoted a.1 := by
    rw [assignmentWord, List.takeWhile_append_of_pos hname, List.takeWhile_cons, hstop,
      if_neg Bool.false_ne_true, List.append_nil]
  have hdrop : (assignmentWord a).dropWhile isNameLetter = (61, false) :: quotedLetters a.2 := by
    rw [assignmentWord, List.dropWhile_append_of_pos hname, List.dropWhile_cons, hstop,
      if_neg Bool.false_ne_true]
  rw [assignmentOf, htake, hdrop]
  show (if isIdentifier (Word.text (unquoted a.1)) then
    some (Word.text (unquoted a.1), Word.text (quotedLetters a.2)) else none) = some a
  rw [text_unquoted, text_quotedLetters, if_pos h]

/-- Assignments in front of a quoted command. -/
theorem simpleCommand_assigned {assignments : List (Bytes × Bytes)}
    (h : ∀ a ∈ assignments, isIdentifier a.1 = true) (name : Bytes) (operands : List Bytes) :
    simpleCommand (assignments.map assignmentWord ++ (name :: operands).map quotedLetters) =
      some ⟨assignments, name :: operands⟩ := by
  induction assignments with
  | nil =>
    rw [List.map_nil, List.nil_append, List.map_cons, simpleCommand, assignmentOf_quotedLetters]
    dsimp only
    rw [isReserved_quotedLetters, if_neg Bool.false_ne_true, ← List.map_cons, List.map_map]
    congr 2
    exact (List.map_congr_left fun text _ => text_quotedLetters text).trans (List.map_id _)
  | cons a assignments ih =>
    rw [List.map_cons, List.cons_append, simpleCommand,
      assignmentOf_assignmentWord (h a List.mem_cons_self)]
    dsimp only
    rw [ih fun b hb => h b (List.mem_cons_of_mem a hb), Option.map_some]

theorem groups_words (words : List Word) : groups (words.map Token.word) = [words] := by
  induction words with
  | nil => rfl
  | cons word words ih => rw [List.map_cons, groups, ih]

theorem groups_words_andIf (words : List Word) (ts : List Token) :
    groups (words.map Token.word ++ .andIf :: ts) = words :: groups ts := by
  induction words with
  | nil => rfl
  | cons word words ih => rw [List.map_cons, List.cons_append, groups, ih]

/-- Quoted arguments, each behind a blank. -/
theorem tokens_arguments (word : Word) (arguments : List Bytes) :
    tokens .plain (some word)
        (arguments.flatMap fun argument => 32 :: quotePosixShellArgument argument) =
      some ((word :: arguments.map quotedLetters).map Token.word) := by
  induction arguments generalizing word with
  | nil => rfl
  | cons argument arguments ih =>
    rw [List.flatMap_cons, List.cons_append, tokens_blank, tokens_quotePosixShellArgument,
      Option.getD_none, List.nil_append, ih]
    rfl

theorem ordinary_of_isIdentifier {name : Bytes} (h : isIdentifier name = true) :
    name.all ordinary = true ∧ name ≠ [] := by
  rw [isIdentifier, Bool.and_eq_true, Bool.and_eq_true, List.all_eq_true,
    decide_eq_true_iff] at h
  refine ⟨List.all_eq_true.mpr fun b hb => ?_, h.1.1⟩
  rw [ordinary, h.1.2 b hb]
  rfl

/-- Assignments, each in front of a blank. -/
theorem tokens_assignments {assignments : List (Bytes × Bytes)}
    (h : ∀ a ∈ assignments, isIdentifier a.1 = true) (rest : Bytes) :
    tokens .plain none
        (assignments.flatMap (fun a => a.1 ++ 61 :: quotePosixShellArgument a.2 ++ [32]) ++ rest) =
      (tokens .plain none rest).map (((assignments.map assignmentWord).map Token.word) ++ ·) := by
  induction assignments with
  | nil =>
    rw [List.flatMap_nil, List.nil_append]
    exact Option.map_id'.symm
  | cons a assignments ih =>
    obtain ⟨hordinary, hne⟩ := ordinary_of_isIdentifier (h a List.mem_cons_self)
    have hequals : ∀ word behind, tokens .plain (some word) (61 :: behind) =
        tokens .plain (some (word ++ [(61, false)])) behind := fun _ _ => rfl
    rw [List.flatMap_cons, List.append_assoc, List.append_assoc, List.append_assoc,
      List.cons_append, tokens_begin hordinary hne, hequals, tokens_quotePosixShellArgument,
      Option.getD_some, List.append_assoc, List.singleton_append, List.singleton_append,
      tokens_blank, ih fun b hb => h b (List.mem_cons_of_mem a hb), Option.map_map]
    rfl

end Foundation
end MasterControl
