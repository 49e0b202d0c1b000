import MasterControl.Configuration.Document

/-!
# Starting with the configuration that is on disk

The constructor of the configuration service reads the file and decodes it.  Whatever goes wrong
on the way is the same to it: it takes the default configuration and writes that to the file at
once.  A configuration that does decode is pruned and completed, and written again where that
changed it.

So a file that exists and does not load survives just where the write of the default document
fails before it touches the file (`keepsFile_iff`).
-/

namespace MasterControl
namespace Configuration

open Foundation

/-! ## The file -/

/-- How `copy_file` ends. -/
inductive CopyOutcome where
  | copied
  /-- It fails, and leaves this in the file. -/
  | failed (left : Option Bytes)
  deriving DecidableEq

/-- How the steps of `writeJsonFile` go. -/
structure WriteSteps where
  createDirectories : Bool := true
  openTemporary : Bool := true
  streamGood : Bool := true
  rename : Bool := true
  copyFile : CopyOutcome := .copied
  deriving DecidableEq

/-- `writeJsonFile`: what the file holds afterwards, and the answer. -/
def writeDocument (steps : WriteSteps) (text : Bytes) (file : Option Bytes) :
    Option Bytes × Bool :=
  if !steps.createDirectories then (file, false)
  else if !steps.openTemporary then (file, false)
  else if !steps.streamGood then (file, false)
  else if steps.rename then (some text, true)
  else
    match steps.copyFile with
    | .copied => (some text, true)
    | .failed left => (left, false)

/-- How opening and reading the file goes. -/
structure ReadOutcome where
  opens : Bool := true
  /-- The bytes after which reading breaks off, if it does. -/
  breaksOff : Option ℕ := none
  deriving DecidableEq

/-- What the stream delivers of the file, if it is open. -/
def ReadOutcome.received (outcome : ReadOutcome) (file : Option Bytes) : Option Bytes :=
  if outcome.opens then
    file.map fun content => (outcome.breaksOff.map fun n => content.take n).getD content
  else none

/-- `readJsonFile`: null where the file does not open or does not parse. -/
def readJsonFile (format : DocumentFormat) (received : Option Bytes) : Json :=
  match received with
  | none => .null
  | some bytes => (format.read bytes).getD .null

/-! ## The constructor -/

/-- What the configuration in memory was made of. -/
inductive InForce where
  /-- The document that was read. -/
  | decoded (document : Json)
  /-- `buildDefaultConfiguration()`. -/
  | default

/-- The world around a start. -/
structure StartupEnvironment where
  format : DocumentFormat
  /-- The document of `buildDefaultConfiguration()` on this machine. -/
  defaultDocument : Json
  /-- The configuration without the features that were removed, if it had any. -/
  prune : Json → Option Json
  /-- The configuration with what was missing in it, if anything was. -/
  selfHeal : Json → Option Json
  read : ReadOutcome
  /-- The first write, and the second one if there is one. -/
  write : WriteSteps
  writeAgain : WriteSteps

/-- The service after its construction. -/
structure Startup where
  inForce : InForce
  file : Option Bytes

/-- `json.empty()`. -/
def isEmptyJson : Json → Bool
  | .null => true
  | .array elements => elements.isEmpty
  | .object members => members.isEmpty
  | _ => false

/-- Whether the constructor takes what it has read. -/
def loads (json : Json) : Bool := !isEmptyJson json && Document.appConfiguration json

namespace StartupEnvironment

/-- The text of the default document. -/
def defaultText (env : StartupEnvironment) : Bytes := env.format.dump env.defaultDocument

/-- `persistLocked` where something changed. -/
def persistIf (env : StartupEnvironment) (steps : WriteSteps) (changed : Option Json)
    (file : Option Bytes) : Option Bytes :=
  match changed with
  | none => file
  | some document => (writeDocument steps (env.format.dump document) file).1

/-- The constructor of `FileBackedConfigurationService`. -/
def construct (env : StartupEnvironment) (file : Option Bytes) : Startup :=
  let json := readJsonFile env.format (env.read.received file)
  if loads json then
    let pruned := env.prune json
    let file := env.persistIf env.write pruned file
    { inForce := .decoded json
      file := env.persistIf env.writeAgain (env.selfHeal (pruned.getD json)) file }
  else
    { inForce := .default
      file := (writeDocument env.write env.defaultText file).1 }

/-- What `json.get<AppConfiguration>()` takes of the file. -/
def decodes (env : StartupEnvironment) (content : Bytes) : Option Json :=
  ((env.read.received (some content)).bind env.format.read).filter Document.appConfiguration

/-- The file does not open, or what is read of it is no JSON, or does not decode. -/
def Unusable (env : StartupEnvironment) (content : Bytes) : Prop :=
  (env.decodes content).isNone = true

instance (env : StartupEnvironment) (content : Bytes) : Decidable (env.Unusable content) :=
  inferInstanceAs (Decidable ((env.decodes content).isNone = true))

end StartupEnvironment

/-- The write ends before it touches the file, or what it leaves there is what was there. -/
def Spares (steps : WriteSteps) (text content : Bytes) : Prop :=
  steps.createDirectories = false ∨ steps.openTemporary = false ∨ steps.streamGood = false ∨
    match steps.rename, steps.copyFile with
    | true, _ | false, .copied => text = content
    | false, .failed left => left = some content

/-! ## What survives -/

variable {env : StartupEnvironment} {content text : Bytes} {steps : WriteSteps}

/-- **What a write leaves alone.** -/
theorem writeDocument_eq_iff :
    (writeDocument steps text (some content)).1 = some content ↔ Spares steps text content := by
  obtain ⟨directories, temporary, good, rename, copy⟩ := steps
  unfold writeDocument Spares
  cases directories with
  | false => simp
  | true =>
    cases temporary with
    | false => simp
    | true =>
      cases good with
      | false => simp
      | true =>
        cases rename with
        | true => simp
        | false => cases copy <;> simp

/-- An unusable file is not loaded. -/
theorem not_loads_of_unusable (h : env.Unusable content) :
    loads (readJsonFile env.format (env.read.received (some content))) = false := by
  unfold StartupEnvironment.Unusable StartupEnvironment.decodes at h
  unfold readJsonFile
  cases hreceived : env.read.received (some content) with
  | none => rfl
  | some bytes =>
    rw [hreceived, Option.bind_some] at h
    dsimp only
    cases hparsed : env.format.read bytes with
    | none => rfl
    | some json =>
      rw [hparsed] at h
      rw [Option.getD_some, loads]
      cases haccepts : Document.appConfiguration json with
      | false => exact Bool.and_false _
      | true =>
        rw [Option.filter_some_pos haccepts] at h
        cases h

/-- A bad part anywhere in the document makes it unusable. -/
theorem unusable_of_bad_part {json part : Json} {accepts : Acceptor} {bytes : Bytes}
    (hreceived : env.read.received (some content) = some bytes)
    (hparsed : env.format.read bytes = some json)
    (hpart : Acceptor.Demands Document.appConfiguration json accepts part)
    (hbad : accepts part = false) : env.Unusable content := by
  unfold StartupEnvironment.Unusable StartupEnvironment.decodes
  rw [hreceived, Option.bind_some, hparsed, Option.filter_some_neg (by simp [hpart.refuses hbad])]
  rfl

/-- **An unusable file survives a start** if and only if the write of the default document fails
before it touches the file, or leaves there what was there. -/
theorem keepsFile_iff (env : StartupEnvironment) (content : Bytes) :
    (env.Unusable content → (env.construct (some content)).file = some content) ↔
      (env.Unusable content → Spares env.write env.defaultText content) := by
  refine forall_congr' fun h => ?_
  rw [StartupEnvironment.construct, not_loads_of_unusable h, if_neg Bool.false_ne_true]
  exact writeDocument_eq_iff

/-! ### One unknown word -/

/-- A client, and a pool whose kind is written with the wrong dash. -/
def misspeltPool : Bytes := asciiBytes <|
  "\x7b\"lanClients\": [\x7b\"clientId\": \"laptop\"\x7d], " ++
    "\"pools\": [\x7b\"kind\": \"mcp_server\"\x7d]\x7d"

def misspeltDocument : Json :=
  .object [("lanClients", .array [.object [("clientId", .string "laptop")]]),
    ("pools", .array [.object [("kind", .string "mcp_server")]])]

/-- A start at which everything works, with a default document of one member. -/
def workingStart : StartupEnvironment where
  format :=
    { read := fun content => if content = misspeltPool then some misspeltDocument else none
      dump := fun _ => asciiBytes "\x7b\n  \"browserPort\": 7300\n\x7d" }
  defaultDocument := .object [("browserPort", .integer 7300)]
  prune _ := none
  selfHeal _ := none
  read := {}
  write := {}
  writeAgain := {}

theorem misspelt_pool_costs_everything :
    ¬ ∀ env content, StartupEnvironment.Unusable env content →
      (env.construct (some content)).file = some content := by
  intro h
  have hlost := h workingStart misspeltPool (by decide +kernel)
  exact absurd hlost (by decide +kernel)

end Configuration
end MasterControl
