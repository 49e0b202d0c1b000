import MasterControl.Foundation.ByteText
import MasterControl.Foundation.JsonAccess
import MasterControl.Foundation.MachineIntegers
import MasterControl.Foundation.Search

/-!
# What the worker makes of a captured output

`runProcessCaptured` reads the output of a child until it exits or the time is over; a child that
is out of time is terminated, with exit code 1.  What is longer than 1 MB is cut and marked.

`searchGrep` looks at the exit code only, and 1 is also how ripgrep says that there are no
matches: a search that was terminated, or cut, looks complete.  `httpBridgeGet` finds the status
behind the last occurrence of a mark, which may have been cut away.  `captured_output_iff` says
exactly when they are right.
-/

namespace MasterControl
namespace Worker

open Foundation IntRange

/-! ## A child process -/

/-- How the loop over the pipes ends. -/
inductive Ending where
  /-- The child exits within a wait. -/
  | exited (code : UInt32)
  /-- The time is over, and then the child exits before it can be terminated. -/
  | exitedLate (code : UInt32)
  /-- The time is over, and `TerminateProcess` gives the child the exit code 1. -/
  | terminated
  /-- The time is over, and a second later the child has not gone. -/
  | stillActive
  deriving DecidableEq

/-- What a child does while it is watched. -/
structure Child where
  /-- What each round of the loop reads from the two pipes. -/
  reads : List (Bytes × Bytes)
  ending : Ending
  /-- What is drained from the pipes after the loop. -/
  drained : Bytes × Bytes
  deriving DecidableEq

inductive Launch where
  /-- `CreatePipe` fails, for `stdout` or `stderr`. -/
  | noPipe (pipe : String)
  /-- `CreateProcessW` fails. -/
  | notCreated (lastError : ℕ)
  | started (child : Child)

def Ending.exitCode : Ending → UInt32
  | exited code => code
  | exitedLate code => code
  | terminated => 1
  | stillActive => 259

def Ending.timedOut : Ending → Bool
  | exited _ => false
  | _ => true

/-- The child has come to its own end. -/
def Ending.completed : Ending → Bool
  | exited _ => true
  | exitedLate _ => true
  | _ => false

/-- All that the child has written to `stdout`. -/
def Child.stdout (child : Child) : Bytes :=
  (child.reads.map Prod.fst).flatten ++ child.drained.1

def Child.stderr (child : Child) : Bytes :=
  (child.reads.map Prod.snd).flatten ++ child.drained.2

structure ProcessRunResult where
  stdoutText : Bytes := []
  stderrText : Bytes := []
  exitCode : ℤ := 0
  timedOut : Bool := false
  launchFailed : Bool := false
  launchError : Bytes := []

def kCapBytes : ℕ := 1048576

/-- `"\n...[truncated to 1 MB]"`. -/
def truncationMark : Bytes := 10 :: asciiBytes "...[truncated to 1 MB]"

def capOutput (text : Bytes) : Bytes :=
  if kCapBytes < text.length then text.take kCapBytes ++ truncationMark else text

def runProcessCaptured : Launch → ProcessRunResult
  | .noPipe pipe =>
    { launchFailed := true
      launchError := asciiBytes ("CreatePipe(" ++ pipe ++ ") failed.") }
  | .notCreated lastError =>
    { launchFailed := true
      launchError := asciiBytes "CreateProcessW failed (Win32 error " ++ decimal lastError ++
        asciiBytes ")" }
  | .started child =>
    { stdoutText := capOutput child.stdout
      stderrText := capOutput child.stderr
      exitCode := int32.wrap child.ending.exitCode.toNat
      timedOut := child.ending.timedOut }

/-! ## `search.grep` -/

structure GrepMatch where
  file : String
  line : ℤ
  text : String
  deriving DecidableEq

/-- `json::parse`, and the conversion of a floating-point number to `int`. -/
structure JsonReader where
  parse : Bytes → Option Json
  intOfReal : String → ℤ

/-- `value("line_number", 0)`; `none` where it throws. -/
def JsonReader.lineNumber (reader : JsonReader) (data : Json) : Option ℤ :=
  match data with
  | .object members =>
    match Json.lookup "line_number" members with
    | none => some 0
    | some (.integer n) => some (int32.wrap n)
    | some (.boolean value) => some (if value then 1 else 0)
    | some (.real digits) => some (reader.intOfReal digits)
    | some _ => none
  | _ => none

/-- The string `text` of a member that is an object, else the empty string; `none` where it
throws. -/
def textOf (key : String) (data : Json) : Option String :=
  match data.member? key with
  | some (.object members) => Json.valueString "text" "" (.object members)
  | _ => some ""

def popBack (letter : Char) (text : String) : String :=
  if text.toList.getLast? = some letter then String.ofList text.toList.dropLast else text

/-- The match that a line of ripgrep's output reports; `none` where the line is passed over. -/
def JsonReader.matchOf (reader : JsonReader) (line : Bytes) : Option GrepMatch := do
  guard (line ≠ [])
  let j ← reader.parse line
  let type ← Json.valueString "type" "" j
  guard (type = "match")
  let data ← j.member? "data"
  let file ← textOf "path" data
  let lineNumber ← reader.lineNumber data
  let text ← textOf "lines" data
  some ⟨file, lineNumber, popBack '\r' (popBack '\n' text)⟩

/-- The loop over the lines. -/
def collectMatches (reader : JsonReader) (maxMatches : ℕ) :
    List Bytes → List GrepMatch → List GrepMatch
  | [], found => found
  | line :: rest, found =>
    if found.length < maxMatches then
      match reader.matchOf line with
      | some m => collectMatches reader maxMatches rest (found ++ [m])
      | none => collectMatches reader maxMatches rest found
    else found

structure GrepRequest where
  pattern : Bytes
  path : Bytes
  glob : Bytes
  maxMatches : ℤ
  timeoutMs : ℤ

def GrepRequest.clampedMax (request : GrepRequest) : ℕ :=
  let maxMatches := if request.maxMatches ≤ 0 then 200 else request.maxMatches
  let maxMatches := if maxMatches > 5000 then 5000 else maxMatches
  (if maxMatches < 1 then 1 else maxMatches).toNat

/-- The members of an answer that is an error. -/
structure GrepFailure where
  error : String
  rgExitCode : ℤ
  rgTimedOut : Bool
  rgError : Bytes
  rgStderr : Bytes

structure GrepReport where
  tool : String := "ripgrep"
  ranFallback : Bool := false
  pattern : Bytes
  path : Bytes
  glob : Bytes
  maxMatches : ℕ
  matchCount : ℕ
  /-- `matches`. -/
  found : List GrepMatch
  failure : Option GrepFailure

def searchGrep (reader : JsonReader) (request : GrepRequest) (rg : Launch) : GrepReport :=
  let maxMatches := request.clampedMax
  let searchRoot := if request.path = [] then asciiBytes "." else request.path
  let rgResult := runProcessCaptured rg
  if rgResult.launchFailed = false ∧ (rgResult.exitCode = 0 ∨ rgResult.exitCode = 1) then
    let found := collectMatches reader maxMatches (getLines rgResult.stdoutText) []
    { pattern := request.pattern, path := searchRoot, glob := request.glob, maxMatches
      matchCount := found.length, found, failure := none }
  else
    { pattern := request.pattern, path := searchRoot, glob := request.glob, maxMatches
      matchCount := 0, found := []
      failure := some
        { error := "ripgrep (rg.exe) is required for search.grep and was not available or " ++
            "returned an execution error."
          rgExitCode := rgResult.exitCode
          rgTimedOut := rgResult.timedOut
          rgError := rgResult.launchError
          rgStderr := rgResult.stderrText } }

/-! ## The bridge to the admin interface -/

/-- `"\n__MCOS_HTTP_STATUS__:"`. -/
def sentinel : Bytes := 10 :: asciiBytes "__MCOS_HTTP_STATUS__:"

/-- A response body, parsed if that is possible. -/
inductive BridgeBody where
  | json (body : Json)
  | text (bodyText : Bytes)

def JsonReader.bridgeBody (reader : JsonReader) (body : Bytes) : BridgeBody :=
  match reader.parse body with
  | some value => .json value
  | none => .text body

inductive BridgeOutcome where
  | bridgeFailed (bridgeError : Bytes)
  | answered (httpStatus curlExitCode : ℤ) (curlStderr : Bytes) (body : BridgeBody)

structure BridgeReport where
  url : Bytes
  timeoutMs : ℤ
  outcome : BridgeOutcome

def bridgeTimeoutMs (requested : ℤ) : ℤ :=
  let timeoutMs := if requested ≤ 0 then 5000 else requested
  let timeoutMs := if timeoutMs > 60000 then 60000 else timeoutMs
  if timeoutMs < 100 then 100 else timeoutMs

/-- The status and the body in what curl has printed. -/
def splitStatus (printed : Bytes) : ℤ × Bytes :=
  match cutLast sentinel printed with
  | some (body, behind) => ((stoi behind).getD 0, body)
  | none => (0, printed)

def httpBridgeGet (reader : JsonReader) (url : Bytes) (timeoutMsRequested : ℤ) (curl : Launch) :
    BridgeReport where
  url := url
  timeoutMs := bridgeTimeoutMs timeoutMsRequested
  outcome :=
    let runResult := runProcessCaptured curl
    if runResult.launchFailed then .bridgeFailed runResult.launchError
    else if runResult.timedOut then
      .bridgeFailed (asciiBytes "curl invocation timed out before response.")
    else
      let (statusCode, body) := splitStatus runResult.stdoutText
      .answered statusCode runResult.exitCode runResult.stderrText (reader.bridgeBody body)

/-! ## When the search is right -/

section Search

variable (reader : JsonReader) (request : GrepRequest)

/-- What is said about a search that is no error. -/
def HonestSearch (rg : Launch) : Prop :=
  (searchGrep reader request rg).failure = none →
    ∃ child, rg = .started child ∧ child.ending.completed = true ∧
      child.stdout.length ≤ kCapBytes ∧ (searchGrep reader request rg).found =
        ((getLines child.stdout).filterMap reader.matchOf).take request.clampedMax

/-- The exit codes of a ripgrep that has found something, or nothing. -/
def Child.ExitsNormally (child : Child) : Prop :=
  child.ending.exitCode = 0 ∨ child.ending.exitCode = 1

variable {reader request}

theorem collectMatches_eq (maxMatches : ℕ) (lines : List Bytes) (found : List GrepMatch)
    (h : found.length ≤ maxMatches) : collectMatches reader maxMatches lines found =
      (found ++ lines.filterMap reader.matchOf).take maxMatches := by
  induction lines generalizing found with
  | nil => rw [collectMatches, List.filterMap_nil, List.append_nil, List.take_of_length_le h]
  | cons line rest ih =>
    rw [collectMatches]
    split_ifs with hroom
    · cases hmatch : reader.matchOf line with
      | none =>
        rw [List.filterMap_cons_none hmatch]
        exact ih found h
      | some m =>
        have hlength : (found ++ [m]).length ≤ maxMatches := by
          rw [List.length_append, List.length_singleton]
          omega
        rw [List.filterMap_cons_some hmatch, List.append_cons]
        exact ih _ hlength
    · rw [List.take_append_of_le_length (by omega), List.take_of_length_le h]

theorem capOutput_of_le {text : Bytes} (h : text.length ≤ kCapBytes) : capOutput text = text :=
  if_neg h.not_gt

theorem exitCode_normal_iff (child : Child) :
    ((runProcessCaptured (.started child)).exitCode = 0 ∨
      (runProcessCaptured (.started child)).exitCode = 1) ↔ child.ExitsNormally := by
  have hlt := child.ending.exitCode.toNat_lt
  have hzero : child.ending.exitCode = 0 ↔ child.ending.exitCode.toNat = 0 := UInt32.toNat_inj.symm
  have hone : child.ending.exitCode = 1 ↔ child.ending.exitCode.toNat = 1 := UInt32.toNat_inj.symm
  rw [Child.ExitsNormally, hzero, hone]
  have hmin : int32.min = -2147483648 := rfl
  have hsize : int32.max - int32.min + 1 = 4294967296 := rfl
  have hcode : (runProcessCaptured (.started child)).exitCode =
      int32.wrap child.ending.exitCode.toNat := rfl
  rw [hcode, wrap, hsize, hmin]
  omega

theorem failure_eq_none_iff {rg : Launch} : (searchGrep reader request rg).failure = none ↔
    ∃ child, rg = .started child ∧ child.ExitsNormally := by
  rw [searchGrep]
  cases rg with
  | noPipe pipe => simp [runProcessCaptured]
  | notCreated lastError => simp [runProcessCaptured]
  | started child =>
    have hexit := exitCode_normal_iff child
    by_cases hnormal : child.ExitsNormally
    · rw [if_pos ⟨rfl, hexit.mpr hnormal⟩]
      exact iff_of_true rfl ⟨child, rfl, hnormal⟩
    · rw [if_neg fun h => hnormal (hexit.mp h.2)]
      refine iff_of_false (by simp) ?_
      rintro ⟨child', hstarted, hnormal'⟩
      obtain rfl := Launch.started.inj hstarted
      exact hnormal hnormal'

theorem found_of_le {child : Child} (hnormal : child.ExitsNormally)
    (hle : child.stdout.length ≤ kCapBytes) :
    (searchGrep reader request (.started child)).found =
      ((getLines child.stdout).filterMap reader.matchOf).take request.clampedMax := by
  have hexit := (exitCode_normal_iff child).mpr hnormal
  have hlines : (runProcessCaptured (.started child)).stdoutText = child.stdout :=
    capOutput_of_le hle
  rw [searchGrep, if_pos ⟨rfl, hexit⟩, hlines]
  exact collectMatches_eq request.clampedMax _ [] (Nat.zero_le _)

theorem honestSearch_iff (rg : Launch) : HonestSearch reader request rg ↔
    ∀ child, rg = .started child → child.ExitsNormally →
      child.ending.completed = true ∧ child.stdout.length ≤ kCapBytes := by
  rw [HonestSearch, failure_eq_none_iff]
  constructor
  · rintro honest child rfl hnormal
    obtain ⟨child', hstarted, hcompleted, hle, -⟩ := honest ⟨child, rfl, hnormal⟩
    obtain rfl := Launch.started.inj hstarted
    exact ⟨hcompleted, hle⟩
  · rintro hwhen ⟨child, rfl, hnormal⟩
    obtain ⟨hcompleted, hle⟩ := hwhen child rfl hnormal
    exact ⟨child, rfl, hcompleted, hle, found_of_le hnormal hle⟩

end Search

/-! ## When the bridge is right -/

/-- A status as curl prints it, with three digits. -/
structure HttpStatus where
  code : ℕ
  low : 100 ≤ code
  high : code ≤ 999

section Bridge

variable {status : HttpStatus} {body : Bytes} {n : ℕ}

/-- What curl prints with `-w "\n__MCOS_HTTP_STATUS__:%{http_code}"`. -/
def curlOutput (status : HttpStatus) (body : Bytes) : Bytes :=
  body ++ sentinel ++ decimal status.code

theorem notMem_decimal (k : ℕ) : 10 ∉ (decimal k) := fun h =>
  absurd (isDigitByte_of_mem_decimal h) (by decide)

theorem not_sentinel_infix_append_mark {digits : Bytes} (h : 10 ∉ digits) :
    ¬ sentinel <:+: digits ++ truncationMark := by
  rw [sentinel, infix_append_iff_of_head h]
  decide

theorem splitStatus_of_behind {behind : Bytes} (h : ¬ sentinel <:+: behind) :
    splitStatus (body ++ sentinel ++ behind) = ((stoi behind).getD 0, body) := by
  have hcut : cutLast sentinel (body ++ sentinel ++ behind) = some (body, behind) :=
    cutLast_append_of_head (by decide) h
  rw [splitStatus, hcut]

/-- A whole output is split where curl has put the mark. -/
theorem splitStatus_curlOutput (status : HttpStatus) (body : Bytes) :
    splitStatus (curlOutput status body) = ((status.code : ℤ), body) := by
  have hmark : ¬ sentinel <:+: decimal status.code := fun h =>
    notMem_decimal status.code (h.subset (List.mem_cons_self))
  have hvalue : decimalValue (decimal status.code) = status.code := decimalValue_decimal _
  have hstatus : stoi (decimal status.code) = some (status.code : ℤ) := by
    have hsmall : decimalValue (decimal status.code) < 2147483648 := by
      have hhigh := status.high
      omega
    have hstoi : stoi (decimal status.code ++ []) =
        some (decimalValue (decimal status.code) : ℤ) :=
      stoi_digits (decimal_ne_nil status.code) (fun b hb => isDigitByte_of_mem_decimal hb)
        (fun b hb => by cases hb) hsmall
    rwa [List.append_nil, hvalue] at hstoi
  rw [curlOutput, splitStatus_of_behind hmark, hstatus]
  rfl

/-- A status with a digit cut off is another one. -/
theorem stoi_take_ne (hn : n < 3) :
    (stoi ((decimal status.code).take n ++ truncationMark)).getD 0 ≠ status.code := by
  have hlow := status.low
  have hdigits : ∀ b ∈ (decimal status.code).take n, isDigitByte b = true := fun b hb =>
    isDigitByte_of_mem_decimal (List.mem_of_mem_take hb)
  have hlt : decimalValue ((decimal status.code).take n) < 100 := by
    have hvalue := decimalValue_lt hdigits
    have hlength : ((decimal status.code).take n).length ≤ 2 := by
      rw [List.length_take]
      omega
    exact hvalue.trans_le (Nat.pow_le_pow_right (by decide) hlength)
  by_cases hnil : (decimal status.code).take n = []
  · have hdrop : truncationMark.dropWhile isSpaceByte = 46 :: truncationMark.drop 2 := rfl
    have hnone := stoi_eq_none (by decide) (by decide) (by decide) hdrop
    rw [hnil, List.nil_append, hnone]
    show (0 : ℤ) ≠ _
    omega
  · have hmark : ∀ b ∈ truncationMark.head?, isDigitByte b = false := fun b hb => by
      obtain rfl : 10 = b := Option.some.inj hb
      decide
    rw [stoi_digits hnil hdigits hmark (by omega), Option.getD_some]
    omega

/-- An output that is cut: the status is another one, or the body is cut where it has the mark in
it. -/
theorem splitStatus_take (hn : n < (curlOutput status body).length) :
    (splitStatus ((curlOutput status body).take n ++ truncationMark)).1 ≠ status.code ∨
      sentinel <:+: body ∧
        (splitStatus ((curlOutput status body).take n ++ truncationMark)).2 ≠ body := by
  have hdigits : (decimal status.code).length = 3 :=
    length_decimal (k := 2) status.low (by have := status.high; omega)
  rw [curlOutput, List.length_append, hdigits] at hn
  rw [curlOutput, List.take_append]
  by_cases hwhole : (body ++ sentinel).length ≤ n
  · left
    have hmark : ¬ sentinel <:+:
        (decimal status.code).take (n - (body ++ sentinel).length) ++ truncationMark :=
      not_sentinel_infix_append_mark fun h => notMem_decimal _ (List.mem_of_mem_take h)
    rw [List.take_of_length_le hwhole, List.append_assoc, splitStatus_of_behind hmark]
    exact stoi_take_ne (by omega)
  · have hnone : n - (body ++ sentinel).length = 0 := by omega
    rw [hnone, List.take_zero, List.append_nil, splitStatus]
    cases hcut : cutLast sentinel ((body ++ sentinel).take n ++ truncationMark) with
    | none =>
      left
      have hlow := status.low
      show (0 : ℤ) ≠ _
      omega
    | some found =>
      right
      obtain ⟨before, behind⟩ := found
      have hmark : ¬ sentinel <:+: truncationMark := by decide
      rcases append_cons_eq_needle (by decide) (eq_of_cutLast hcut) with
        ⟨between, htake⟩ | ⟨front, hfront⟩
      · -- the mark that is found stands in front of curl's, which is not whole
        have hprinted : body ++ sentinel =
            before ++ sentinel ++ (between ++ (body ++ sentinel).drop n) := by
          conv_lhs => rw [← List.take_append_drop n (body ++ sentinel)]
          rw [htake, List.append_assoc]
          rfl
        rcases append_cons_eq_needle (by decide) hprinted with ⟨rest, hbody⟩ | ⟨front, hfront⟩
        · refine ⟨⟨before, rest, hbody.symm⟩, fun heq => ?_⟩
          obtain rfl : before = body := heq
          have hlength := congrArg List.length hbody
          simp at hlength
        · have hlength := congrArg List.length hfront
          simp only [List.length_append, List.length_drop] at hlength hwhole
          omega
      · exact absurd ⟨front, behind, hfront.symm⟩ hmark

variable (reader : JsonReader) (url : Bytes) (timeoutMs : ℤ)

/-- The status and the body of a response are reported, or the bridge as failed. -/
def HonestBridge (curl : Launch) (status : HttpStatus) (body : Bytes) : Prop :=
  (∃ bridgeError,
    (httpBridgeGet reader url timeoutMs curl).outcome = .bridgeFailed bridgeError) ∨
  ∃ curlExitCode curlStderr, (httpBridgeGet reader url timeoutMs curl).outcome =
    .answered status.code curlExitCode curlStderr (reader.bridgeBody body)

variable {reader url timeoutMs}

theorem outcome_of_timedOut {child : Child} (h : child.ending.timedOut = true) :
    (httpBridgeGet reader url timeoutMs (.started child)).outcome =
      .bridgeFailed (asciiBytes "curl invocation timed out before response.") := by
  simp [httpBridgeGet, runProcessCaptured, h]

theorem outcome_of_not_timedOut {child : Child} (h : child.ending.timedOut = false) :
    (httpBridgeGet reader url timeoutMs (.started child)).outcome =
      .answered (splitStatus (capOutput child.stdout)).1 (int32.wrap child.ending.exitCode.toNat)
        (capOutput child.stderr) (reader.bridgeBody (splitStatus (capOutput child.stdout)).2) := by
  simp [httpBridgeGet, runProcessCaptured, h]

/-- A text that is no JSON is reported as another body than each other text. -/
theorem bridgeBody_ne {text : Bytes} (hparse : reader.parse body = none) (hne : text ≠ body) :
    reader.bridgeBody text ≠ reader.bridgeBody body := by
  have hbody : reader.bridgeBody body = .text body := by
    rw [JsonReader.bridgeBody, hparse]
  rw [hbody, JsonReader.bridgeBody]
  cases reader.parse text with
  | none => exact fun h => hne (BridgeBody.text.inj h)
  | some value => exact BridgeBody.noConfusion

theorem honestBridge_iff {curl : Launch}
    (rejects : ∀ text, sentinel <:+: text → reader.parse text = none)
    (prints : ∀ child, curl = .started child → child.ending.timedOut = false →
      child.stdout = curlOutput status body) :
    HonestBridge reader url timeoutMs curl status body ↔
      ∀ child, curl = .started child → child.ending.timedOut = true ∨
        child.stdout.length ≤ kCapBytes := by
  cases curl with
  | noPipe pipe => exact iff_of_true (.inl ⟨_, rfl⟩) fun child h => by cases h
  | notCreated lastError => exact iff_of_true (.inl ⟨_, rfl⟩) fun child h => by cases h
  | started child =>
    cases htime : child.ending.timedOut with
    | true =>
      refine iff_of_true (.inl ⟨_, outcome_of_timedOut htime⟩) fun child' h => .inl ?_
      rwa [← Launch.started.inj h]
    | false =>
      have hprints := prints child rfl htime
      rw [HonestBridge, outcome_of_not_timedOut htime, hprints]
      by_cases hle : (curlOutput status body).length ≤ kCapBytes
      · rw [capOutput_of_le hle, splitStatus_curlOutput]
        refine iff_of_true (.inr ⟨_, _, rfl⟩) fun child' h => .inr ?_
        rwa [← Launch.started.inj h, hprints]
      · refine iff_of_false ?_ fun hwhen => ?_
        · rw [capOutput, if_pos (not_le.mp hle)]
          rintro (⟨bridgeError, hfailed⟩ | ⟨curlExitCode, curlStderr, hanswered⟩)
          · cases hfailed
          · obtain ⟨hstatus, -, -, hbody⟩ := BridgeOutcome.answered.inj hanswered
            rcases splitStatus_take (not_le.mp hle) with hne | ⟨hmark, hne⟩
            · exact hne hstatus
            · exact bridgeBody_ne (rejects body hmark) hne hbody
        · rcases hwhen child rfl with htrue | hshort
          · rw [htime] at htrue
            cases htrue
          · exact hle (hprints ▸ hshort)

end Bridge

/-- A reader that takes nothing for JSON but `null`. -/
def nullReader : JsonReader where
  parse text := if text = asciiBytes "null" then some .null else none
  intOfReal _ := 0

theorem parse_nullReader {text : Bytes} (h : sentinel <:+: text) :
    nullReader.parse text = none := by
  refine if_neg fun heq => ?_
  rw [heq] at h
  exact absurd h (by decide)

def anyRequest : GrepRequest := ⟨asciiBytes "x", [], [], 0, 0⟩

/-- A child that writes a text and exits. -/
def writer (text : Bytes) (code : UInt32) : Child := ⟨[(text, [])], .exited code, ([], [])⟩

end Worker
end MasterControl
