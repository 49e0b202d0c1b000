import MasterControl.Apple.Hosts
import MasterControl.Foundation.CommandLine
import MasterControl.Foundation.PosixShell

/-!
# Remote commands over ssh

`executeSshCommand` puts a request into a script, every text of it quoted, and passes the
script to `ssh` as one argument behind `sh -lc`.  But `ssh` joins the arguments behind the
destination with blanks, and the login shell reads the result as a script of its own.  What
`sh` gets as its script is the first word of ours.

`CommandDelivered` says that the host runs what was requested.  A request survives the second
reading (`Survives`) if it is one word that needs no quotes; or if it names a directory, and
that is where the session begins anyway, since the rest of the script is then left to the login
shell.  An inspection asks for `sh -lc <probe>`, so `sh` is run without a script for every
probe, and what the inspection reports is how that ends.
-/

namespace MasterControl
namespace Apple

open Foundation

structure AppleRemoteCommandRequest where
  executable : Bytes
  arguments : List Bytes := []
  workingDirectory : Bytes := []
  /-- In the order of their names. -/
  environment : List (Bytes × Bytes) := []

structure ProcessCaptureResult where
  launched : Bool
  exitCode : Int
  stdoutText : Bytes
  stderrText : Bytes

/-! ## The Windows side -/

def buildRemoteShellScript (request : AppleRemoteCommandRequest) : Bytes :=
  (if request.workingDirectory ≠ [] then
    asciiBytes "cd " ++ quotePosixShellArgument request.workingDirectory ++ asciiBytes " && "
  else []) ++
    (request.environment.flatMap (fun a => a.1 ++ 61 :: quotePosixShellArgument a.2 ++ [32]) ++
      (quotePosixShellArgument request.executable ++
        request.arguments.flatMap fun argument => 32 :: quotePosixShellArgument argument))

/-- The destination. -/
def sshTarget (host : AppleRemoteHost) : Bytes :=
  if host.username ≠ [] then host.username ++ 64 :: host.address else host.address

def sshArguments (sshPath : Bytes) (host : AppleRemoteHost) (request : AppleRemoteCommandRequest) :
    List Bytes :=
  [sshPath, asciiBytes "-o", asciiBytes "BatchMode=yes", asciiBytes "-o",
      asciiBytes "ConnectTimeout=8"] ++
    (if host.port ≠ 0 then [asciiBytes "-p", decimal host.port.toNat] else []) ++
    [sshTarget host, wordSh, wordLc, buildRemoteShellScript request]

def sshCommandLine (sshPath : Bytes) (host : AppleRemoteHost)
    (request : AppleRemoteCommandRequest) : Bytes :=
  joinCommandArguments (sshArguments sshPath host request)

def executeSshCommand (sshPath : Option Bytes) (runProcessCapture : Bytes → ProcessCaptureResult)
    (host : AppleRemoteHost) (request : AppleRemoteCommandRequest) : AppleRemoteCommandResult :=
  let result : AppleRemoteCommandResult := { hostId := host.hostId, transport := .ssh }
  match sshPath with
  | none =>
    { result with errorMessage := asciiBytes "ssh.exe is not available on the Windows host." }
  | some sshPath =>
    let process := runProcessCapture (sshCommandLine sshPath host request)
    let succeeded := process.launched && process.exitCode = 0
    let text :=
      trimCopy (if process.stderrText = [] then process.stdoutText else process.stderrText)
    { result with
      launched := process.launched
      exitCode := process.exitCode
      stdoutText := process.stdoutText
      stderrText := process.stderrText
      rawResponse := if process.stdoutText = [] then process.stderrText else process.stdoutText
      succeeded
      errorMessage :=
        if succeeded then []
        else if text = [] && !process.launched then
          asciiBytes "SSH remote command could not be launched."
        else text }

/-! ## The remote side -/

/-- What `ssh` takes for a destination, not for an option. -/
def IsDestination (target : Bytes) : Prop := target ≠ [] ∧ target.head? ≠ some 45

instance (target : Bytes) : Decidable (IsDestination target) :=
  inferInstanceAs (Decidable (_ ∧ _))

/-- The text for the login shell: what stands behind the destination, joined with blanks. -/
def remoteCommand : List Bytes → Option Bytes
  | argument :: next :: rest =>
    if argument = asciiBytes "-o" ∨ argument = asciiBytes "-p" then remoteCommand rest
    else if argument = [] ∨ argument.head? = some 45 then none
    else some (List.intercalate [32] (next :: rest))
  | _ => none

/-- A session: `ssh` splits its command line and has the login shell run the text. -/
def sshSession (m : Machine) (commandLine : Bytes) : Option Outcome :=
  (remoteCommand (commandArguments commandLine).tail).bind
    (runScript m (runProgram m) ⟨m.login, []⟩)

/-- What the process shows: the exit code and the output of the session, or 255. -/
def capture (m : Machine) (commandLine : Bytes) : ProcessCaptureResult :=
  match sshSession m commandLine with
  | some outcome => ⟨true, outcome.exitCode, outcome.output, []⟩
  | none => ⟨true, 255, [], []⟩

/-! ## What was asked for -/

/-- The directory of a request. -/
def requestedDirectory (m : Machine) (request : AppleRemoteCommandRequest) : Option Bytes :=
  if request.workingDirectory = [] then some m.login
  else m.enter m.login request.workingDirectory

/-- The program of a request. -/
def requestedProgram (request : AppleRemoteCommandRequest) (directory : Bytes) : Invocation :=
  ⟨directory, request.environment, request.executable :: request.arguments⟩

/-- The host runs the requested program, in its directory and with its variables, behind the
`sh` that was to run the script and nothing besides; and its success is what is reported.
Where the directory cannot be entered, nothing is run and that is a failure. -/
def CommandDelivered (m : Machine) (sshPath : Bytes) (host : AppleRemoteHost)
    (request : AppleRemoteCommandRequest) : Prop :=
  ∃ session, sshSession m (sshCommandLine sshPath host request) = some session ∧
    let result := executeSshCommand (some sshPath) (capture m) host request
    match requestedDirectory m request with
    | none => session.started.tail = [] ∧ result.succeeded = false
    | some directory =>
      let program := runProgram m (requestedProgram request directory)
      session.started.tail = program.started ∧ result.succeeded = decide (program.exitCode = 0)

/-- A name that the shell looks for as a program. -/
def NamesProgram (m : Machine) (name : Bytes) : Prop := name ≠ wordCd ∧ m.builtIn name = false

instance (m : Machine) (name : Bytes) : Decidable (NamesProgram m name) :=
  inferInstanceAs (Decidable (_ ∧ _))

/-- A text that a shell takes for the name of a program, as it is. -/
def PlainName (m : Machine) (name : Bytes) : Prop :=
  name ≠ [] ∧ name.all ordinary = true ∧ assignmentOf (unquoted name) = none ∧
    isReserved (unquoted name) = false ∧ NamesProgram m name

instance (m : Machine) (name : Bytes) : Decidable (PlainName m name) :=
  inferInstanceAs (Decidable (_ ∧ _ ∧ _ ∧ _ ∧ _))

/-- The request comes through the second reading. -/
def Survives (m : Machine) (request : AppleRemoteCommandRequest) : Prop :=
  if request.workingDirectory = [] then
    request.environment = [] ∧ request.arguments = [] ∧ PlainName m request.executable
  else
    (m.goHome m.login = none ∧ m.enter m.login request.workingDirectory = none) ∨
      (m.goHome m.login ≠ none ∧ m.enter m.login request.workingDirectory = some m.login ∧
        NamesProgram m request.executable)

/-- The word of the script that `sh` gets for its script. -/
def firstWord (request : AppleRemoteCommandRequest) : Bytes :=
  if request.workingDirectory ≠ [] then wordCd
  else
    match request.environment with
    | [] => request.executable
    | a :: _ => a.1 ++ 61 :: a.2

/-- The second reading stays in the part of the shell language that is described, and the shell
is asked for a program. -/
def Described (m : Machine) (request : AppleRemoteCommandRequest) : Prop :=
  if request.workingDirectory = [] then
    (runScript m (runProgram m) ⟨m.login, []⟩ (firstWord request)).isSome = true
  else NamesProgram m request.executable

instance (m : Machine) (request : AppleRemoteCommandRequest) : Decidable (Described m request) :=
  inferInstanceAs (Decidable (if request.workingDirectory = [] then
    (runScript m (runProgram m) ⟨m.login, []⟩ (firstWord request)).isSome = true
  else NamesProgram m request.executable))

/-! ## The two readings -/

/-- The text for the login shell. -/
def loginText (request : AppleRemoteCommandRequest) : Bytes :=
  asciiBytes "sh -lc " ++ buildRemoteShellScript request

theorem intercalate_triple (a b c : Bytes) :
    List.intercalate [32] [a, b, c] = a ++ 32 :: (b ++ 32 :: c) := by
  simp [List.intercalate]

theorem remoteCommand_sshArguments {sshPath : Bytes} {host : AppleRemoteHost}
    {request : AppleRemoteCommandRequest} (h : IsDestination (sshTarget host)) :
    remoteCommand (sshArguments sshPath host request).tail = some (loginText request) := by
  have hdestination : remoteCommand
      [sshTarget host, wordSh, wordLc, buildRemoteShellScript request] =
        some (loginText request) := by
    have hoption : ¬ (sshTarget host = asciiBytes "-o" ∨ sshTarget host = asciiBytes "-p") := by
      rintro (heq | heq)
      · rw [heq] at h
        exact h.2 rfl
      · rw [heq] at h
        exact h.2 rfl
    rw [remoteCommand, if_neg hoption, if_neg (not_or.mpr h), intercalate_triple]
    rfl
  unfold sshArguments
  split_ifs with hport
  · exact hdestination
  · exact hdestination

theorem sshSession_eq {m : Machine} {sshPath : Bytes} {host : AppleRemoteHost}
    {request : AppleRemoteCommandRequest} (h : IsDestination (sshTarget host)) :
    sshSession m (sshCommandLine sshPath host request) =
      runScript m (runProgram m) ⟨m.login, []⟩ (loginText request) := by
  rw [sshSession, sshCommandLine, commandArguments_joinCommandArguments,
    remoteCommand_sshArguments h, Option.bind_some]

/-- A command of the login shell that begins with `sh`. -/
theorem simpleCommand_sh (words : List Word) :
    simpleCommand (unquoted wordSh :: words) = some ⟨[], wordSh :: words.map Word.text⟩ := by
  have hassignment : assignmentOf (unquoted wordSh) = none := by decide
  have hreserved : isReserved (unquoted wordSh) = false := by decide
  rw [simpleCommand, hassignment]
  dsimp only
  rw [hreserved, if_neg Bool.false_ne_true, List.map_cons, text_unquoted]

/-- The words of a request behind its directory. -/
def requestWords (request : AppleRemoteCommandRequest) : List Word :=
  request.environment.map assignmentWord ++
    (request.executable :: request.arguments).map quotedLetters

section Reading

variable {request : AppleRemoteCommandRequest}
  (hnames : ∀ a ∈ request.environment, isIdentifier a.1 = true)

include hnames

theorem tokens_request :
    tokens .plain none
        (request.environment.flatMap
            (fun a => a.1 ++ 61 :: quotePosixShellArgument a.2 ++ [32]) ++
          (quotePosixShellArgument request.executable ++
            request.arguments.flatMap fun argument => 32 :: quotePosixShellArgument argument)) =
      some ((requestWords request).map Token.word) := by
  rw [tokens_assignments hnames, tokens_quotePosixShellArgument, Option.getD_none,
    List.nil_append, tokens_arguments, Option.map_some, requestWords, List.map_append]
  rfl

/-- Without a directory, the login shell reads one command: `sh`, with the words of the request
for its arguments. -/
theorem commandsOf_loginText (hdirectory : request.workingDirectory = []) :
    commandsOf (loginText request) =
      some [⟨[], wordSh :: wordLc :: (requestWords request).map Word.text⟩] := by
  have htokens : tokens .plain none (loginText request) =
      some ((unquoted wordSh :: unquoted wordLc :: requestWords request).map Token.word) := by
    have hsh : ∀ rest, tokens .plain none (asciiBytes "sh -lc " ++ rest) =
        ((tokens .plain none rest).map (.word (unquoted wordLc) :: ·)).map
          (.word (unquoted wordSh) :: ·) := fun _ => rfl
    rw [loginText, hsh, buildRemoteShellScript, if_neg (not_not.mpr hdirectory),
      List.nil_append, tokens_request hnames]
    rfl
  unfold commandsOf
  rw [htokens]
  simp only [List.map_cons]
  rw [← List.map_cons, ← List.map_cons, groups_words, simpleCommands,
    if_neg (List.cons_ne_nil _ _), simpleCommand_sh]
  rfl

/-- With a directory, it reads two: `sh -lc cd`, and the request. -/
theorem commandsOf_loginText_cd (hdirectory : request.workingDirectory ≠ []) :
    commandsOf (loginText request) =
      some [⟨[], [wordSh, wordLc, wordCd, request.workingDirectory]⟩,
        ⟨request.environment, request.executable :: request.arguments⟩] := by
  have htokens : tokens .plain none (loginText request) =
      some ([unquoted wordSh, unquoted wordLc, unquoted wordCd,
        quotedLetters request.workingDirectory].map Token.word ++
          .andIf :: (requestWords request).map Token.word) := by
    have hsh : ∀ rest, tokens .plain none (asciiBytes "sh -lc " ++ (asciiBytes "cd " ++ rest)) =
        (((tokens .plain none rest).map (.word (unquoted wordCd) :: ·)).map
          (.word (unquoted wordLc) :: ·)).map (.word (unquoted wordSh) :: ·) := fun _ => rfl
    have hand : ∀ word rest, tokens .plain (some word) (asciiBytes " && " ++ rest) =
        ((((tokens .plain none rest).map (flush none)).map (Token.andIf :: ·)).map
          (flush none)).map (.word word :: ·) := fun _ _ => rfl
    rw [loginText, buildRemoteShellScript, if_pos hdirectory, List.append_assoc,
      List.append_assoc, hsh, tokens_quotePosixShellArgument, Option.getD_none, List.nil_append,
      hand, tokens_request hnames]
    rfl
  have hgroups : groups ([unquoted wordSh, unquoted wordLc, unquoted wordCd,
        quotedLetters request.workingDirectory].map Token.word ++
          .andIf :: (requestWords request).map Token.word) =
      [[unquoted wordSh, unquoted wordLc, unquoted wordCd,
        quotedLetters request.workingDirectory], requestWords request] := by
    rw [groups_words_andIf, groups_words]
  have hwords : requestWords request ≠ [] := by
    rw [requestWords, List.map_cons]
    exact List.append_ne_nil_of_right_ne_nil _ (List.cons_ne_nil _ _)
  have hrequest : simpleCommand (requestWords request) =
      some ⟨request.environment, request.executable :: request.arguments⟩ :=
    simpleCommand_assigned hnames _ _
  unfold commandsOf
  rw [htokens]
  show simpleCommands (groups _) = _
  rw [hgroups, simpleCommands, if_neg (List.cons_ne_nil _ _), simpleCommand_sh, simpleCommands,
    if_neg hwords, hrequest]
  simp only [List.map_cons, List.map_nil, text_unquoted, text_quotedLetters]
  rfl

end Reading

/-! ## Sessions -/

section Sessions

variable {m : Machine} {sshPath : Bytes} {host : AppleRemoteHost}
  {request : AppleRemoteCommandRequest}

/-- What is reported is the exit code of the session. -/
theorem succeeded_executeSshCommand {session : Outcome}
    (h : sshSession m (sshCommandLine sshPath host request) = some session) :
    (executeSshCommand (some sshPath) (capture m) host request).succeeded =
      decide (session.exitCode = 0) := by
  have hcapture : capture m (sshCommandLine sshPath host request) =
      ⟨true, session.exitCode, session.output, []⟩ := by
    rw [capture, h]
  unfold executeSshCommand
  dsimp only
  rw [hcapture, Bool.true_and]
  exact decide_eq_decide.mpr Int.natCast_eq_zero

/-- What is delivered can be read off the session. -/
theorem commandDelivered_iff {session : Outcome}
    (h : sshSession m (sshCommandLine sshPath host request) = some session) :
    CommandDelivered m sshPath host request ↔
      match requestedDirectory m request with
      | none => session.started.tail = [] ∧ session.exitCode ≠ 0
      | some directory =>
        session.started.tail = (runProgram m (requestedProgram request directory)).started ∧
          (session.exitCode = 0 ↔
            (runProgram m (requestedProgram request directory)).exitCode = 0) := by
  have hone : CommandDelivered m sshPath host request ↔
      match requestedDirectory m request with
      | none => session.started.tail = [] ∧ decide (session.exitCode = 0) = false
      | some directory =>
        session.started.tail = (runProgram m (requestedProgram request directory)).started ∧
          decide (session.exitCode = 0) =
            decide ((runProgram m (requestedProgram request directory)).exitCode = 0) := by
    rw [← succeeded_executeSshCommand h]
    constructor
    · rintro ⟨found, hfound, hdelivered⟩
      rwa [Option.some.inj (hfound.symm.trans h)] at hdelivered
    · exact fun hdelivered => ⟨session, h, hdelivered⟩
  rw [hone]
  cases requestedDirectory m request with
  | none => exact and_congr_right' decide_eq_false_iff_not
  | some directory => exact and_congr_right' decide_eq_decide

theorem map_text_requestWords (request : AppleRemoteCommandRequest)
    (hdirectory : request.workingDirectory = []) :
    ∃ params, (requestWords request).map Word.text = firstWord request :: params := by
  unfold firstWord requestWords
  rw [if_neg (not_not.mpr hdirectory)]
  cases request.environment with
  | nil =>
    refine ⟨(request.arguments.map quotedLetters).map Word.text, ?_⟩
    rw [List.map_nil, List.nil_append, List.map_cons, List.map_cons, text_quotedLetters]
  | cons a rest =>
    refine ⟨(rest.map assignmentWord ++
      (request.executable :: request.arguments).map quotedLetters).map Word.text, ?_⟩
    rw [List.map_cons, List.cons_append, List.map_cons, assignmentWord, text_append, text_unquoted]
    congr 2
    exact congrArg (61 :: ·) (text_quotedLetters a.2)

/-- A program of the login shell that is named `sh`. -/
theorem execute_sh (run : Invocation → Outcome) (shell : Shell) (operands : List Bytes) :
    execute m run shell ⟨[], wordSh :: operands⟩ =
      some (run ⟨shell.directory, shell.environment, wordSh :: operands⟩, shell) := by
  have hcd : wordSh ≠ wordCd := by decide
  rw [execute_program hcd m.sh_not_builtIn, List.append_nil]

/-- Without a directory, a session runs the first word of the script. -/
theorem sshSession_firstWord (sshPath : Bytes) (hdestination : IsDestination (sshTarget host))
    (hnames : ∀ a ∈ request.environment, isIdentifier a.1 = true)
    (hdirectory : request.workingDirectory = []) {inner : Outcome}
    (h : runScript m (runProgram m) ⟨m.login, []⟩ (firstWord request) = some inner) :
    ∃ params, sshSession m (sshCommandLine sshPath host request) =
      some { inner with
        started := ⟨m.login, [], wordSh :: wordLc :: firstWord request :: params⟩ ::
          inner.started } := by
  obtain ⟨params, hwords⟩ := map_text_requestWords request hdirectory
  refine ⟨params, ?_⟩
  rw [sshSession_eq hdestination, runScript, commandsOf_loginText hnames hdirectory,
    Option.bind_some, hwords, executeAll_singleton (execute_sh _ _ _)]
  exact congrArg some (runProgram_sh params h)

/-- How `cd` alone ends. -/
def homeExitCode (m : Machine) : Nat := if m.goHome m.login = none then 1 else 0

theorem runScript_cd (m : Machine) :
    runScript m (runProgram m) ⟨m.login, []⟩ wordCd = some ⟨[], homeExitCode m, []⟩ := by
  have hcommands : commandsOf wordCd = some [⟨[], [wordCd]⟩] := by decide
  have hexecute : execute m (runProgram m) ⟨m.login, []⟩ ⟨[], [wordCd]⟩ =
      some (match m.goHome m.login with
        | none => (⟨[], 1, []⟩, ⟨m.login, []⟩)
        | some directory => (⟨[], 0, []⟩, ⟨directory, []⟩)) := by
    unfold execute
    dsimp only
    rw [if_pos rfl]
    rfl
  rw [runScript, hcommands, Option.bind_some, homeExitCode]
  cases hhome : m.goHome m.login with
  | none =>
    rw [hhome] at hexecute
    exact executeAll_singleton hexecute
  | some directory =>
    rw [hhome] at hexecute
    exact executeAll_singleton hexecute

/-- With a directory, a session runs `sh -lc cd`, and then what is asked for where the session
began. -/
theorem sshSession_cd (m : Machine) (sshPath : Bytes)
    (hdestination : IsDestination (sshTarget host))
    (hnames : ∀ a ∈ request.environment, isIdentifier a.1 = true)
    (hdirectory : request.workingDirectory ≠ []) :
    ∃ sh, sshSession m (sshCommandLine sshPath host request) =
      if m.goHome m.login = none then some ⟨[sh], 1, []⟩
      else
        (executeAll m (runProgram m) ⟨m.login, []⟩
          [⟨request.environment, request.executable :: request.arguments⟩]).map
            fun rest => ⟨sh :: rest.started, rest.exitCode, rest.output⟩ := by
  refine ⟨⟨m.login, [], [wordSh, wordLc, wordCd, request.workingDirectory]⟩, ?_⟩
  rw [sshSession_eq hdestination, runScript, commandsOf_loginText_cd hnames hdirectory,
    Option.bind_some, executeAll, execute_sh]
  have hshell := runProgram_sh [request.workingDirectory] (runScript_cd m)
  dsimp only
  rw [hshell]
  unfold homeExitCode
  by_cases hhome : m.goHome m.login = none
  · rw [if_pos hhome, if_pos hhome]
    exact if_pos Nat.one_ne_zero
  · rw [if_neg hhome, if_neg hhome]
    exact if_neg (not_not.mpr rfl)

/-- The first program of what is asked for. -/
theorem head?_requested (m : Machine) (request : AppleRemoteCommandRequest) (directory : Bytes) :
    (runProgram m (requestedProgram request directory)).started.head? =
      some (requestedProgram request directory) := head?_started_runWithin ..

theorem commandsOf_plainName {name : Bytes} (hne : name ≠ [])
    (hordinary : name.all ordinary = true) :
    commandsOf name = simpleCommands [[unquoted name]] := by
  have htokens := tokens_begin hordinary hne []
  rw [List.append_nil] at htokens
  unfold commandsOf
  rw [htokens]
  rfl

/-- **A request that survives is delivered.** -/
theorem commandDelivered_of_survives (hdestination : IsDestination (sshTarget host))
    (hnames : ∀ a ∈ request.environment, isIdentifier a.1 = true) (h : Survives m request) :
    CommandDelivered m sshPath host request := by
  unfold Survives at h
  split_ifs at h with hdirectory
  · obtain ⟨henvironment, harguments, hne, hordinary, hassignment, hreserved, hcd, hbuiltIn⟩ := h
    have hword : firstWord request = request.executable := by
      rw [firstWord, if_neg (not_not.mpr hdirectory), henvironment]
    have hcommand : commandsOf request.executable = some [⟨[], [request.executable]⟩] := by
      rw [commandsOf_plainName hne hordinary, simpleCommands, if_neg (List.cons_ne_nil _ _),
        simpleCommand, hassignment]
      dsimp only
      rw [hreserved, if_neg Bool.false_ne_true, List.map_singleton, text_unquoted]
      rfl
    have hinner : runScript m (runProgram m) ⟨m.login, []⟩ (firstWord request) =
        some (runProgram m (requestedProgram request m.login)) := by
      rw [hword, runScript, hcommand, Option.bind_some,
        executeAll_singleton (execute_program hcd hbuiltIn), requestedProgram, henvironment,
        harguments]
      rfl
    obtain ⟨params, hsession⟩ := sshSession_firstWord sshPath hdestination hnames hdirectory hinner
    rw [commandDelivered_iff hsession, requestedDirectory, if_pos hdirectory]
    exact ⟨rfl, Iff.rfl⟩
  · obtain ⟨sh, hsession⟩ := sshSession_cd m sshPath hdestination hnames hdirectory
    rcases h with ⟨hhome, henter⟩ | ⟨hhome, henter, hcd, hbuiltIn⟩
    · rw [if_pos hhome] at hsession
      rw [commandDelivered_iff hsession, requestedDirectory, if_neg hdirectory, henter]
      exact ⟨rfl, Nat.one_ne_zero⟩
    · rw [if_neg hhome, executeAll_singleton (execute_program hcd hbuiltIn), Option.map_some]
        at hsession
      rw [commandDelivered_iff hsession, requestedDirectory, if_neg hdirectory, henter]
      exact ⟨rfl, Iff.rfl⟩

/-- A word that is a command by itself is neither an assignment nor reserved. -/
theorem plain_of_simpleCommand {word : Word} {command : SimpleCommand}
    (h : simpleCommand [word] = some command) (hargv : command.argv ≠ []) :
    assignmentOf word = none ∧ isReserved word = false := by
  rw [simpleCommand] at h
  cases hassignment : assignmentOf word with
  | none =>
    rw [hassignment] at h
    dsimp only at h
    refine ⟨rfl, ?_⟩
    by_contra hreserved
    rw [if_pos (Bool.of_not_eq_false hreserved)] at h
    cases h
  | some a =>
    rw [hassignment] at h
    obtain rfl := Option.some.inj h
    exact absurd rfl hargv

/-- A first word that starts the requested program is the name of the program, and that is all
that was requested. -/
theorem survives_of_started {inner : Outcome} (hdirectory : request.workingDirectory = [])
    (h : runScript m (runProgram m) ⟨m.login, []⟩ (firstWord request) = some inner)
    (hhead : inner.started.head? = some (requestedProgram request m.login)) :
    request.environment = [] ∧ request.arguments = [] ∧ PlainName m request.executable := by
  obtain ⟨commands, hcommands, hexecute⟩ := Option.bind_eq_some_iff.mp h
  obtain ⟨⟨command, hcommand, hargv⟩, ⟨name, hname, hcd, hbuiltIn⟩, hle⟩ :=
    started_head_of_executeAll (fun i => head?_started_runWithin m _ i) hexecute hhead
  have hfits := weight_commandsOf_le hcommands
  simp only [requestedProgram, assignmentLetters_nil, letters_cons] at hle
  -- a variable does not leave room for the program
  have henvironment : request.environment = [] := by
    cases henv : request.environment with
    | nil => rfl
    | cons a rest =>
      have hword : firstWord request = a.1 ++ 61 :: a.2 := by
        rw [firstWord, if_neg (not_not.mpr hdirectory), henv]
      rw [hword, List.length_append, List.length_cons] at hfits
      rw [henv, assignmentLetters_cons] at hle
      omega
  have hword : firstWord request = request.executable := by
    rw [firstWord, if_neg (not_not.mpr hdirectory), henvironment]
  rw [hword] at hcommands hfits
  -- the program does not leave room for an argument
  have harguments : request.arguments = [] := letters_eq_zero_iff.mp (by omega)
  have hargv : command.argv = [request.executable] := by
    rw [← hargv, requestedProgram, harguments]
  have hordinary : request.executable.all ordinary = true :=
    ordinary_of_mem_argv hcommands hcommand (by rw [hargv]; exact List.mem_singleton_self _)
  have hne : request.executable ≠ [] := by
    intro hempty
    rw [hempty] at hcommands
    obtain rfl : [] = commands := Option.some.inj hcommands
    cases hcommand
  obtain rfl : request.executable = name := Option.some.inj hname
  rw [commandsOf_plainName hne hordinary] at hcommands
  obtain ⟨group, hgroup, hsimple⟩ := mem_group_of_mem_commands hcommands hcommand
  rw [List.mem_singleton.mp hgroup] at hsimple
  obtain ⟨hassignment, hreserved⟩ :=
    plain_of_simpleCommand hsimple (by rw [hargv]; exact List.cons_ne_nil _ _)
  exact ⟨henvironment, harguments, hne, hordinary, hassignment, hreserved, hcd, hbuiltIn⟩

/-- **A request that is delivered survives**, where the second reading is described. -/
theorem survives_of_commandDelivered (hdestination : IsDestination (sshTarget host))
    (hnames : ∀ a ∈ request.environment, isIdentifier a.1 = true) (hdescribed : Described m request)
    (h : CommandDelivered m sshPath host request) : Survives m request := by
  unfold Described at hdescribed
  unfold Survives
  by_cases hdirectory : request.workingDirectory = []
  · rw [if_pos hdirectory] at hdescribed ⊢
    obtain ⟨inner, hinner⟩ := Option.isSome_iff_exists.mp hdescribed
    obtain ⟨params, hsession⟩ := sshSession_firstWord sshPath hdestination hnames hdirectory hinner
    rw [commandDelivered_iff hsession, requestedDirectory, if_pos hdirectory] at h
    have hhead : inner.started.head? = some (requestedProgram request m.login) := by
      rw [← head?_requested, ← h.1, List.tail_cons]
    exact survives_of_started hdirectory hinner hhead
  · rw [if_neg hdirectory] at hdescribed ⊢
    obtain ⟨sh, hsession⟩ := sshSession_cd m sshPath hdestination hnames hdirectory
    by_cases hhome : m.goHome m.login = none
    · rw [if_pos hhome] at hsession
      rw [commandDelivered_iff hsession, requestedDirectory, if_neg hdirectory] at h
      cases henter : m.enter m.login request.workingDirectory with
      | none => exact Or.inl ⟨hhome, rfl⟩
      | some directory =>
        -- something was to be run, and nothing is
        rw [henter] at h
        have hhead := head?_requested m request directory
        rw [← h.1] at hhead
        cases hhead
    · rw [if_neg hhome,
        executeAll_singleton (execute_program hdescribed.1 hdescribed.2), Option.map_some]
        at hsession
      rw [commandDelivered_iff hsession, requestedDirectory, if_neg hdirectory] at h
      have hstarted := head?_requested m request m.login
      cases henter : m.enter m.login request.workingDirectory with
      | none =>
        rw [henter] at h
        have hnothing : (runProgram m (requestedProgram request m.login)).started = [] := h.1
        rw [hnothing] at hstarted
        cases hstarted
      | some directory =>
        rw [henter] at h
        have hsame : (runProgram m (requestedProgram request m.login)).started =
            (runProgram m (requestedProgram request directory)).started := h.1
        rw [hsame, head?_requested] at hstarted
        have hlogin : directory = m.login :=
          congrArg Invocation.directory (Option.some.inj hstarted)
        exact Or.inr ⟨hhome, by rw [hlogin], hdescribed⟩

end Sessions

/-! ## Inspections over ssh -/

/-- The request for a probe. -/
def probeRequest (command : Bytes) : AppleRemoteCommandRequest where
  executable := wordSh
  arguments := [wordLc, command]

/-- What an inspection over ssh gets from a machine. -/
def sshProbe (m : Machine) (sshPath : Option Bytes) (host : AppleRemoteHost) (probe : Probe) :
    Probe :=
  { probe with
    sshFound := sshPath.isSome
    runRemoteCommand := fun command =>
      executeSshCommand sshPath (capture m) host (probeRequest command) }

/-- The probe was run by a shell, and ended well. -/
def ProbeRan (m : Machine) (sshPath : Option Bytes) (host : AppleRemoteHost) (command : Bytes) :
    Prop :=
  ∃ path ∈ sshPath, ∃ session,
    sshSession m (sshCommandLine path host (probeRequest command)) = some session ∧
      ∃ i ∈ session.started, i.argv = [wordSh, wordLc, command] ∧ (runProgram m i).exitCode = 0

/-- What the inspection reports was found out by a probe. -/
def InspectionHonest (m : Machine) (sshPath : Option Bytes) (host : AppleRemoteHost)
    (probe : Probe) : Prop :=
  let inspected := inspectSshHost (sshProbe m sshPath host probe) host
  (inspected.toolchain.xcodeInstalled = true →
      ProbeRan m sshPath host (asciiBytes "xcodebuild -version")) ∧
    (inspected.toolchain.macosSdkAvailable = true →
      ProbeRan m sshPath host (asciiBytes "xcrun --sdk macosx --show-sdk-path")) ∧
    (inspected.toolchain.iosSdkAvailable = true →
      ProbeRan m sshPath host (asciiBytes "xcrun --sdk iphoneos --show-sdk-path")) ∧
    (inspected.signing.signingReady = true →
      ProbeRan m sshPath host (asciiBytes "security find-identity -v -p codesigning"))

/-- The program that every probe comes down to: `sh`, without a script. -/
def bareShell (m : Machine) : Invocation := ⟨m.login, [], [wordSh]⟩

/-- The inspection has nothing to report: `sh` without a script fails, or there is no `ssh` and
the record has no flag from an earlier time. -/
def NothingReported (m : Machine) (sshPath : Option Bytes) (host : AppleRemoteHost) : Prop :=
  match sshPath with
  | some _ => (m.program (bareShell m)).1 ≠ 0
  | none =>
    host.toolchain.xcodeInstalled = false ∧ host.toolchain.macosSdkAvailable = false ∧
      host.toolchain.iosSdkAvailable = false ∧ host.signing.signingReady = false

section Inspections

variable {m : Machine} {sshPath : Bytes} {host : AppleRemoteHost} {probe : Probe}

theorem runScript_sh (m : Machine) :
    runScript m (runProgram m) ⟨m.login, []⟩ wordSh = some (runLeaf m (bareShell m)) := by
  have hcommands : commandsOf wordSh = some [⟨[], [wordSh]⟩] := by decide
  rw [runScript, hcommands, Option.bind_some, executeAll_singleton (execute_sh _ _ _)]
  rfl

/-- A probe runs `sh` without a script. -/
theorem sshSession_probe (m : Machine) (sshPath : Bytes)
    (hdestination : IsDestination (sshTarget host)) (command : Bytes) :
    ∃ params, sshSession m (sshCommandLine sshPath host (probeRequest command)) =
      some ⟨[⟨m.login, [], wordSh :: wordLc :: wordSh :: params⟩, bareShell m],
        (m.program (bareShell m)).1, (m.program (bareShell m)).2⟩ := by
  have hnames : ∀ a ∈ (probeRequest command).environment, isIdentifier a.1 = true := nofun
  exact sshSession_firstWord sshPath hdestination hnames rfl (runScript_sh m)

/-- No probe is run. -/
theorem not_probeRan (hdestination : IsDestination (sshTarget host)) {command : Bytes}
    (hcommand : command ≠ wordSh) : ¬ ProbeRan m (some sshPath) host command := by
  rintro ⟨path, hpath, session, hsession, i, hi, hargv, -⟩
  obtain rfl := Option.mem_some_iff.mp hpath
  obtain ⟨params, hprobe⟩ := sshSession_probe m sshPath hdestination command
  obtain rfl := Option.some.inj (hprobe.symm.trans hsession)
  rcases List.mem_cons.mp hi with rfl | hi
  · exact hcommand (List.cons.inj (List.cons.inj (List.cons.inj hargv).2).2).1.symm
  · rw [List.mem_singleton.mp hi] at hargv
    cases (List.cons.inj hargv).2

/-- What a probe answers is how `sh` without a script ends. -/
theorem answered_probe (hdestination : IsDestination (sshTarget host)) (command : Bytes) :
    (executeSshCommand (some sshPath) (capture m) host (probeRequest command)).answered =
      decide ((m.program (bareShell m)).1 = 0) := by
  obtain ⟨params, hprobe⟩ := sshSession_probe m sshPath hdestination command
  have hlaunched : (executeSshCommand (some sshPath) (capture m) host
      (probeRequest command)).launched = true := by
    unfold executeSshCommand
    dsimp only
    rw [capture, hprobe]
  rw [AppleRemoteCommandResult.answered, hlaunched, succeeded_executeSshCommand hprobe,
    Bool.true_and]

/-- **An inspection over ssh is honest exactly when it has nothing to report.** -/
theorem inspectionHonest_iff (hdestination : IsDestination (sshTarget host))
    (path? : Option Bytes) :
    InspectionHonest m path? host probe ↔ NothingReported m path? host := by
  cases path? with
  | none =>
    have hnever : ∀ command, ¬ ProbeRan m none host command := by
      rintro command ⟨path, hpath, -⟩
      cases hpath
    have hflags : InspectionHonest m none host probe ↔
        (host.toolchain.xcodeInstalled = true → ProbeRan m none host _) ∧
          (host.toolchain.macosSdkAvailable = true → ProbeRan m none host _) ∧
          (host.toolchain.iosSdkAvailable = true → ProbeRan m none host _) ∧
          (host.signing.signingReady = true → ProbeRan m none host _) := Iff.rfl
    rw [hflags]
    simp only [hnever, imp_false, Bool.not_eq_true]
    rfl
  | some path =>
    constructor
    · rintro ⟨hxcode, -⟩ hzero
      refine not_probeRan hdestination (by decide) (hxcode ?_)
      exact (answered_probe hdestination _).trans (decide_eq_true hzero)
    · intro hfails
      have hfalse : ∀ command, (executeSshCommand (some path) (capture m) host
          (probeRequest command)).answered = false :=
        fun command => (answered_probe hdestination command).trans (decide_eq_false hfails)
      refine ⟨fun h => ?_, fun h => ?_, fun h => ?_, fun h => ?_⟩
      · exact absurd (h.symm.trans (hfalse _)) (by decide)
      · exact absurd (h.symm.trans (hfalse _)) (by decide)
      · exact absurd (h.symm.trans (hfalse _)) (by decide)
      · have hanswered := (Bool.and_eq_true_iff.mp h).1
        exact absurd (hanswered.symm.trans (hfalse _)) (by decide)

end Inspections

/-! ## The identities of the signing probe -/

def identitiesText : Bytes := asciiBytes " valid identities found"

/-- The output of the signing probe, which ends with how many identities there are. -/
def identitiesOutput (front : Bytes) (n : Nat) : Bytes := front ++ decimal n ++ identitiesText

/-- The number is read as it is: it is zero, or it neither ends in a zero nor follows another
report of none. -/
def ReadAsWritten (front : Bytes) (n : Nat) : Prop :=
  n = 0 ∨ ¬ 10 ∣ n ∧ ¬ asciiBytes "0 valid identities found" <:+: front

theorem none_found_iff (front : Bytes) (n : Nat) :
    asciiBytes "0 valid identities found" <:+: identitiesOutput front n ↔
      10 ∣ n ∨ asciiBytes "0 valid identities found" <:+: front := by
  have hborder : ∀ k, k < identitiesText.length → 0 < k →
      ¬ identitiesText.drop k <+: identitiesText := by decide
  have hdigits : (100 : UInt8) ∉ decimal n := fun h =>
    absurd (isDigitByte_of_mem_decimal h) (by decide)
  have hends : (asciiBytes "0 valid identities found").getLast? = some 100 := by decide
  have hnumber : (front ++ decimal n).getLast? = some 48 ↔ 10 ∣ n := by
    rw [List.getLast?_append_of_ne_nil _ (decimal_ne_nil n), getLast?_decimal]
  have hfront := infix_append_iff_of_getLast (w := front) hends hdigits
  rw [← hnumber, ← hfront]
  exact cons_infix_append_iff (fun k hpos hlt => hborder k hlt hpos) 48 (front ++ decimal n)

/-- **The number of identities is read right** exactly when it is read as it is written. -/
theorem identitiesFound_iff (front : Bytes) (n : Nat) :
    identitiesFound (identitiesOutput front n) = decide (0 < n) ↔ ReadAsWritten front n := by
  have hfound : identitiesFound (identitiesOutput front n) = true ↔
      ¬ (10 ∣ n ∨ asciiBytes "0 valid identities found" <:+: front) := by
    rw [← none_found_iff, ← isSome_cut_iff, identitiesFound, Option.isNone_iff_eq_none,
      Option.not_isSome_iff_eq_none]
  unfold ReadAsWritten
  rcases Nat.eq_zero_or_pos n with rfl | hpos
  · rw [decide_eq_false (Nat.lt_irrefl 0), ← Bool.not_eq_true, hfound]
    exact iff_of_true (not_not.mpr (Or.inl (Nat.dvd_zero 10))) (Or.inl rfl)
  · rw [decide_eq_true hpos, hfound, not_or]
    exact (or_iff_right (Nat.pos_iff_ne_zero.mp hpos)).symm

/-- The signing flag of an inspection whose signing probe was answered. -/
theorem signingReady_inspectSshHost {probe : Probe} {host : AppleRemoteHost}
    (hfound : probe.sshFound = true)
    (hanswered :
      (probe.runRemoteCommand (asciiBytes "security find-identity -v -p codesigning")).answered =
        true) :
    (inspectSshHost probe host).signing.signingReady =
      identitiesFound (probe.runRemoteCommand
        (asciiBytes "security find-identity -v -p codesigning")).stdoutText := by
  unfold inspectSshHost
  dsimp only
  rw [hfound, Bool.not_true, if_neg Bool.false_ne_true, hanswered, Bool.true_and]
  rfl

/-! ## Fidelity -/

/-- **What comes of a remote command over ssh.**  A request is delivered if it survives the second
reading, and, where that reading is described, only then; an inspection is honest exactly when
it has nothing to report; and a number of identities is read right exactly when it is read as
it is written. -/
theorem remote_command_fidelity (m : Machine) (sshPath : Bytes) (host : AppleRemoteHost)
    (hdestination : IsDestination (sshTarget host)) :
    (∀ request : AppleRemoteCommandRequest,
        (∀ a ∈ request.environment, isIdentifier a.1 = true) →
          (Survives m request → CommandDelivered m sshPath host request) ∧
            (Described m request → CommandDelivered m sshPath host request →
              Survives m request)) ∧
      (∀ path? probe, InspectionHonest m path? host probe ↔ NothingReported m path? host) ∧
      ∀ (probe : Probe) (front : Bytes) (n : Nat), probe.sshFound = true →
        (probe.runRemoteCommand
          (asciiBytes "security find-identity -v -p codesigning")).answered = true →
        (probe.runRemoteCommand
          (asciiBytes "security find-identity -v -p codesigning")).stdoutText =
            identitiesOutput front n →
        ((inspectSshHost probe host).signing.signingReady = decide (0 < n) ↔
          ReadAsWritten front n) := by
  refine ⟨fun request hnames => ⟨?_, ?_⟩, fun path? probe => ?_, ?_⟩
  · exact commandDelivered_of_survives hdestination hnames
  · exact survives_of_commandDelivered hdestination hnames
  · exact inspectionHonest_iff hdestination path?
  · intro probe front n hfound hanswered houtput
    rw [signingReady_inspectSshHost hfound hanswered, houtput, identitiesFound_iff]

/-! ## A machine -/

/-- A Mac on which every program ends well. -/
def willingMac : Machine where
  login := asciiBytes "/Users/ci"
  enter _ operand := some operand
  goHome _ := some (asciiBytes "/Users/ci")
  exported name := name = asciiBytes "PATH"
  builtIn name := name = asciiBytes "exit"
  program _ := (0, [])
  sh_not_builtIn := by decide

def sshExe : Bytes := asciiBytes "C:\\Windows\\System32\\OpenSSH\\ssh.exe"

/-- The host that is asked. -/
def buildMac : AppleRemoteHost where
  hostId := asciiBytes "build-mac"
  displayName := asciiBytes "Build Mac"
  transport := .ssh
  platforms := [.macOS]
  address := asciiBytes "build-mac.local"
  username := asciiBytes "ci"

theorem buildMac_sw_vers :
    CommandDelivered willingMac sshExe buildMac { executable := asciiBytes "sw_vers" } := by
  have hnames : ∀ a ∈ ([] : List (Bytes × Bytes)), isIdentifier a.1 = true := nofun
  refine ((remote_command_fidelity willingMac sshExe buildMac (by decide)).1 _ hnames).1 ?_
  exact ⟨rfl, rfl, by decide⟩

/-- `xcodebuild -version` arrives as `xcodebuild`. -/
theorem xcodebuild_version_lost :
    ¬ CommandDelivered willingMac sshExe buildMac
      { executable := asciiBytes "xcodebuild", arguments := [asciiBytes "-version"] } := by
  intro h
  have hnames : ∀ a ∈ ([] : List (Bytes × Bytes)), isIdentifier a.1 = true := nofun
  have hsurvives := survives_of_commandDelivered (by decide) hnames (by decide) h
  exact absurd hsurvives.2.1 (by decide)

end Apple
end MasterControl
