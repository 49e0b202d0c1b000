import MasterControl.Foundation.Runs
import MasterControl.Foundation.WindowsPath
import MasterControl.Packages.TrustGate
import Mathlib.Logic.Function.Basic

/-!
# Imports at once

Any number of imports run at the same time, each action by action: the trust decision, the choice
of a name in the work directory, the download or the clone, the extraction, the reading of the
manifest, the execution and the entry in the history.  Names are made of a host or a branch, whose
letters are replaced where they do not suit a path, and of a clock that counts seconds; nothing is
locked from the choice of a name on, and what is fetched is put over what lies there.

Every file carries the import that fetched it and the text it was fetched by.  As long as no name
is chosen a second time, and the texts of a request mean to the program that fetches what they
meant to the decision (`Apart`), what lies under a name is its import's own, and so is what each
one runs, reads and records (`imports_keep_apart`).
-/

namespace MasterControl
namespace Packages

open Foundation

/-! ## Names -/

/-- Where a payload is downloaded to. -/
def payloadName (source now : Bytes) : Bytes :=
  sanitizePathComponent (extractHostFromUrl source) ++ 95 :: sanitizePathComponent now ++
    asciiBytes ".payload"

/-- Where a repository is cloned to. -/
def repoName (branch now : Bytes) : Bytes :=
  asciiBytes "repo_" ++ sanitizePathComponent branch ++ 95 :: sanitizePathComponent now

/-- Where a bundle is extracted to. -/
def zipName (now : Bytes) : Bytes := asciiBytes "zip_" ++ sanitizePathComponent now

/-- The names are those of the orchestrator, in the work directory. -/
theorem repoDirectory_eq (env : Environment) (spec : BootstrapRepoSpec) :
    repoDirectory env spec =
      env.workDirectory ++ 92 :: repoName spec.branch env.timestampNowUtc := by
  simp only [repoDirectory, repoName, List.append_assoc, List.cons_append]

theorem resolvePackage_of_remote {env : Environment} {source : Bytes} (hsource : source ≠ [])
    (hremote : isRemoteSource source = true) (hdownloads : env.downloads (cString source) = true) :
    (resolvePackage env source []).1 =
      env.workDirectory ++ 92 :: payloadName source env.timestampNowUtc := by
  have hnil : ¬ ([] : Bytes) ≠ [] := not_not.mpr rfl
  have hnot : ¬ (!isRemoteSource source) = true := by rw [hremote]; decide
  rw [resolvePackage, if_neg hnil, if_neg hsource, if_neg hnot]
  dsimp only
  rw [if_pos hdownloads]
  simp only [payloadName, List.append_assoc, List.cons_append]

/-! ## Files and imports -/

/-- What a file holds: the import that has fetched it, and the text by which; none of a command
that names no repository. -/
structure Content where
  owner : ℕ
  source : Option Bytes
  deriving DecidableEq

/-- A file below a name of the work directory; a download is the file without parts. -/
structure StoredFile where
  parts : List Bytes
  content : Content
  deriving DecidableEq

/-- A payload on this machine, or a downloaded one. -/
inductive Payload where
  | onDisk (path : Bytes)
  | downloaded (name : Bytes)

/-- Where an import stands. -/
inductive Stage where
  | unknown
  | decided (r : Request)
  | downloading (r : Request) (source name : Bytes)
  | cloning (spec : BootstrapRepoSpec) (now : Bytes)
  | resolved (r : Request) (payload : Payload)
  | extracting (spec : ZipBundleSpec) (payload : Payload) (now : Bytes)
  | unpacked (r : Request) (manifestFile name : Bytes)
  | validated (r : Request) (name : Bytes) (manifest : Content) (script : List Bytes)
  | executed (r : Request) (version outcome : Option Content)
  | finished

/-- What an observer sees: what was run, the manifest that was read, and an entry in the history,
with the text it names, the manifest its version comes from and what its outcome is of. -/
inductive Event where
  | executed (i : ℕ) (content : Content)
  | manifestRead (i : ℕ) (content : Content)
  | recorded (i : ℕ) (source : Bytes) (version outcome : Option Content)
  deriving DecidableEq

/-- The imports and the work directory; Windows does not tell the cases of a name apart, so a
name stands for all its spellings. -/
structure Imports where
  slots : Bytes → List StoredFile
  stages : ℕ → Stage
  requests : ℕ → Option Request
  chosen : List (ℕ × Bytes)
  log : List Event

/-- What the machine answers to one action. -/
structure Answer where
  now : Bytes
  /-- A download, a clone, an extraction or a launch succeeds. -/
  succeeds : Bool
  /-- A payload on this machine is there. -/
  fileExists : Bool
  /-- What the clone or the extraction places. -/
  files : List (List Bytes)
  /-- What lies outside the directory, where a manifest is looked for. -/
  elsewhere : Content
  /-- Where in the directory the script of a valid manifest is. -/
  script : Option (List Bytes)

inductive ImportStep where
  | submit (i : ℕ) (r : Request)
  | advance (i : ℕ) (answer : Answer)

namespace Imports

def moveTo (s : Imports) (i : ℕ) (stage : Stage) : Imports :=
  { s with stages := Function.update s.stages i stage }

def note (s : Imports) (event : Event) : Imports := { s with log := event :: s.log }

def choose (s : Imports) (i : ℕ) (name : Bytes) : Imports :=
  { s with chosen := (i, lowerBytes name) :: s.chosen }

/-- Files are placed over those of the same parts. -/
def place (s : Imports) (name : Bytes) (files : List (List Bytes)) (content : Content) : Imports :=
  { s with
    slots := Function.update s.slots (lowerBytes name)
      ((s.slots (lowerBytes name)).filter (fun file => !files.contains file.parts) ++
        files.map fun parts => ⟨parts, content⟩) }

def find (s : Imports) (name : Bytes) (parts : List Bytes) : Option Content :=
  ((s.slots (lowerBytes name)).find? fun file => file.parts = parts).map StoredFile.content

/-- What a payload holds. -/
def payloadContent (s : Imports) (i : ℕ) (answer : Answer) : Payload → Option Content
  | .onDisk path => if answer.fileExists then some ⟨i, some path⟩ else none
  | .downloaded name => s.find name []

/-- `resolvePackage`, up to the download. -/
def resolve (s : Imports) (i : ℕ) (r : Request) (source localPath now : Bytes) : Imports :=
  if localPath ≠ [] then s.moveTo i (.resolved r (.onDisk (cString localPath)))
  else if source = [] then s.moveTo i .finished
  else if !isRemoteSource source then s.moveTo i (.resolved r (.onDisk (cString source)))
  else
    let name := payloadName source now
    (s.choose i name).moveTo i (.downloading r source name)

/-- The manifest of what was fetched: in the directory if its name stays there. -/
def manifestContent (s : Imports) (answer : Answer) (manifestFile name : Bytes) : Option Content :=
  if Confined manifestFile then s.find name (walk [] (segments manifestFile))
  else some answer.elsewhere

/-- The next action of an import. -/
def advance (machine : Environment) (i : ℕ) (answer : Answer) (s : Imports) : Imports :=
  match s.stages i with
  | .unknown => s
  | .decided r =>
    match r with
    | .package spec => s.resolve i r spec.source spec.localPath answer.now
    | .repository spec =>
      (s.choose i (repoName spec.branch answer.now)).moveTo i (.cloning spec answer.now)
    | .zip spec => s.resolve i r spec.source [] answer.now
  | .downloading r source name =>
    if answer.succeeds then
      (s.place name [[]] ⟨i, some (cString source)⟩).moveTo i (.resolved r (.downloaded name))
    else s.moveTo i .finished
  | .cloning spec now =>
    let name := repoName spec.branch now
    let command := cString (cloneCommand { machine with timestampNowUtc := now } spec)
    (s.place name answer.files ⟨i, repositoryOf command⟩).moveTo i
      (if answer.succeeds then .unpacked (.repository spec) spec.manifestFile name else .finished)
  | .resolved r payload =>
    match s.payloadContent i answer payload with
    | none => s.moveTo i .finished
    | some content =>
      match r with
      | .package spec =>
        if spec.kind.runs && answer.succeeds then
          (s.note (.executed i content)).moveTo i (.executed r none (some content))
        else s.moveTo i (.executed r none none)
      | .repository _ => s.moveTo i .finished
      | .zip spec =>
        (s.choose i (zipName answer.now)).moveTo i (.extracting spec payload answer.now)
  | .extracting spec payload now =>
    match s.payloadContent i answer payload with
    | none => s.moveTo i .finished
    | some content =>
      (s.place (zipName now) answer.files content).moveTo i
        (if answer.succeeds then .unpacked (.zip spec) spec.manifestFile (zipName now)
        else .finished)
  | .unpacked r manifestFile name =>
    match s.manifestContent answer manifestFile name with
    | none => s.moveTo i .finished
    | some content =>
      let s := s.note (.manifestRead i content)
      match answer.script with
      | none => s.moveTo i .finished
      | some script => s.moveTo i (.validated r name content script)
  | .validated r name manifest script =>
    match s.find name script with
    | none => s.moveTo i (.executed r (some manifest) none)
    | some content =>
      if answer.succeeds then
        (s.note (.executed i content)).moveTo i (.executed r (some manifest) (some content))
      else s.moveTo i (.executed r (some manifest) none)
  | .executed r version outcome =>
    (s.note (.recorded i r.evaluated version outcome)).moveTo i .finished
  | .finished => s

/-- The trust decision opens an import, or ends it. -/
def submit (trustedRemoteHosts : List Bytes) (i : ℕ) (r : Request) (s : Imports) : Imports :=
  match s.stages i with
  | .unknown =>
    let s := { s with requests := Function.update s.requests i (some r) }
    if (evaluate trustedRemoteHosts r.evaluated r.allowUntrustedExecution).requiresExplicitApproval
    then s.moveTo i .finished
    else s.moveTo i (.decided r)
  | _ => s

def step (trustedRemoteHosts : List Bytes) (machine : Environment) (s : Imports) :
    ImportStep → Imports
  | .submit i r => s.submit trustedRemoteHosts i r
  | .advance i answer => s.advance machine i answer

end Imports

/-- The imports from an empty work directory on. -/
def imports (trustedRemoteHosts : List Bytes) (machine : Environment) :
    TransitionSystem Imports ImportStep where
  init :=
    { slots := fun _ => [], stages := fun _ => .unknown, requests := fun _ => none, chosen := [],
      log := [] }
  step := Imports.step trustedRemoteHosts machine

/-! ## What keeps them apart -/

/-- The texts of a request mean to what fetches, and to what looks for the manifest, what they
mean to the decision. -/
def SameText : Request → Prop
  | .package spec =>
    (spec.localPath = [] ∨ spec.source = [] ∨ spec.localPath = spec.source) ∧
      0 ∉ (Request.package spec).evaluated
  | .repository spec =>
    Passable spec ∧ spec.repositoryUrl.head? ≠ some 45 ∧ Confined spec.manifestFile
  | .zip spec => 0 ∉ spec.source ∧ Confined spec.manifestFile

/-- The name that the next action of an import chooses. -/
def Imports.nextName (s : Imports) (i : ℕ) (answer : Answer) : Option Bytes :=
  match s.stages i with
  | .decided (.package spec) =>
    if spec.localPath = [] ∧ isRemoteSource spec.source = true then
      some (payloadName spec.source answer.now)
    else none
  | .decided (.repository spec) => some (repoName spec.branch answer.now)
  | .decided (.zip spec) =>
    if isRemoteSource spec.source = true then some (payloadName spec.source answer.now) else none
  | .resolved (.zip _) payload =>
    (s.payloadContent i answer payload).map fun _ => zipName answer.now
  | _ => none

/-- A request that is read alike, or an action that chooses no name a second time. -/
def Apart (s : Imports) : ImportStep → Prop
  | .submit _ r => SameText r
  | .advance i answer =>
    ∀ name ∈ s.nextName i answer, ∀ entry ∈ s.chosen, entry.2 ≠ lowerBytes name

instance : (r : Request) → Decidable (SameText r)
  | .package _ => inferInstanceAs (Decidable (_ ∧ _))
  | .repository _ => inferInstanceAs (Decidable (_ ∧ _ ∧ _))
  | .zip _ => inferInstanceAs (Decidable (_ ∧ _))

instance (s : Imports) : (step : ImportStep) → Decidable (Apart s step)
  | .submit _ r => inferInstanceAs (Decidable (SameText r))
  | .advance i answer =>
    inferInstanceAs (Decidable (∀ name ∈ s.nextName i answer, ∀ entry ∈ s.chosen,
      entry.2 ≠ lowerBytes name))

/-- What was fetched by this import, and by the text that its request was decided on. -/
def Own (s : Imports) (i : ℕ) (content : Content) : Prop :=
  content.owner = i ∧ ∃ r, s.requests i = some r ∧ content.source = some r.evaluated

/-- What is run and read is the import's own, and an entry of the history is of one import. -/
def EventOwn (s : Imports) : Event → Prop
  | .executed i content => Own s i content
  | .manifestRead i content => Own s i content
  | .recorded i source version outcome =>
    (∃ r, s.requests i = some r ∧ source = r.evaluated) ∧
      (∀ content, version = some content → Own s i content) ∧
      ∀ content, outcome = some content → Own s i content

/-- The imports keep to their own. -/
structure KeepApart (s : Imports) : Prop where
  events : ∀ event ∈ s.log, EventOwn s event
  directories : ∀ i name, (i, name) ∈ s.chosen → ∀ file ∈ s.slots name, Own s i file.content

/-! ## The invariant -/

/-- A payload is the text that was decided on, or was downloaded to a name of the import's own. -/
def PayloadOwn (s : Imports) (i : ℕ) (r : Request) : Payload → Prop
  | .onDisk path => path = r.evaluated
  | .downloaded name => (i, lowerBytes name) ∈ s.chosen

/-- What an import has got so far is its own. -/
def StageOwn (s : Imports) (i : ℕ) : Stage → Prop
  | .unknown => s.requests i = none
  | .decided r => s.requests i = some r ∧ SameText r
  | .downloading r source name =>
    s.requests i = some r ∧ SameText r ∧ cString source = r.evaluated ∧
      (i, lowerBytes name) ∈ s.chosen
  | .cloning spec now =>
    s.requests i = some (.repository spec) ∧ SameText (.repository spec) ∧
      (i, lowerBytes (repoName spec.branch now)) ∈ s.chosen
  | .resolved r payload => s.requests i = some r ∧ SameText r ∧ PayloadOwn s i r payload
  | .extracting spec payload now =>
    s.requests i = some (.zip spec) ∧ SameText (.zip spec) ∧
      PayloadOwn s i (.zip spec) payload ∧ (i, lowerBytes (zipName now)) ∈ s.chosen
  | .unpacked r manifestFile name =>
    s.requests i = some r ∧ Confined manifestFile ∧ (i, lowerBytes name) ∈ s.chosen
  | .validated r name manifest _ =>
    s.requests i = some r ∧ Own s i manifest ∧ (i, lowerBytes name) ∈ s.chosen
  | .executed r version outcome =>
    s.requests i = some r ∧ (∀ content, version = some content → Own s i content) ∧
      ∀ content, outcome = some content → Own s i content
  | .finished => True

structure Orderly (s : Imports) : Prop where
  /-- What lies under a name was fetched by the import that chose it. -/
  files : ∀ name, ∀ file ∈ s.slots name,
    (file.content.owner, name) ∈ s.chosen ∧ Own s file.content.owner file.content
  /-- A name was chosen once. -/
  names : ∀ {i j name}, (i, name) ∈ s.chosen → (j, name) ∈ s.chosen → i = j
  stages : ∀ i, StageOwn s i (s.stages i)
  events : ∀ event ∈ s.log, EventOwn s event

variable {s s' : Imports} {i : ℕ} {content : Content} {name : Bytes} {r : Request}

theorem Own.mono (h : Own s i content)
    (hrequests : ∀ r, s.requests i = some r → s'.requests i = some r) : Own s' i content := by
  obtain ⟨howner, r, hr, hsource⟩ := h
  exact ⟨howner, r, hrequests r hr, hsource⟩

theorem EventOwn.mono {event : Event} (h : EventOwn s event)
    (hrequests : ∀ j r, s.requests j = some r → s'.requests j = some r) : EventOwn s' event := by
  cases event with
  | executed j content => exact Own.mono h (hrequests j)
  | manifestRead j content => exact Own.mono h (hrequests j)
  | recorded j source version outcome =>
    obtain ⟨⟨r, hr, hsource⟩, hversion, houtcome⟩ := h
    exact ⟨⟨r, hrequests j r hr, hsource⟩, fun c hc => (hversion c hc).mono (hrequests j),
      fun c hc => (houtcome c hc).mono (hrequests j)⟩

/-- More names do no harm. -/
theorem StageOwn.mono {stage : Stage} (h : StageOwn s i stage)
    (hrequests : s'.requests i = s.requests i) (hchosen : ∀ entry ∈ s.chosen, entry ∈ s'.chosen) :
    StageOwn s' i stage := by
  have hown : ∀ {c}, Own s i c → Own s' i c := fun hc => hc.mono fun r hr => hrequests.trans hr
  have hpayload : ∀ {r payload}, PayloadOwn s i r payload → PayloadOwn s' i r payload := by
    intro r payload hp
    cases payload with
    | onDisk path => exact hp
    | downloaded name => exact hchosen _ hp
  cases stage with
  | unknown => exact hrequests.trans h
  | decided r => exact ⟨hrequests.trans h.1, h.2⟩
  | downloading r source name =>
    exact ⟨hrequests.trans h.1, h.2.1, h.2.2.1, hchosen _ h.2.2.2⟩
  | cloning spec now => exact ⟨hrequests.trans h.1, h.2.1, hchosen _ h.2.2⟩
  | resolved r payload => exact ⟨hrequests.trans h.1, h.2.1, hpayload h.2.2⟩
  | extracting spec payload now =>
    exact ⟨hrequests.trans h.1, h.2.1, hpayload h.2.2.1, hchosen _ h.2.2.2⟩
  | unpacked r manifestFile name => exact ⟨hrequests.trans h.1, h.2.1, hchosen _ h.2.2⟩
  | validated r name manifest script =>
    exact ⟨hrequests.trans h.1, hown h.2.1, hchosen _ h.2.2⟩
  | executed r version outcome =>
    exact ⟨hrequests.trans h.1, fun c hc => hown (h.2.1 c hc), fun c hc => hown (h.2.2 c hc)⟩
  | finished => exact trivial

/-! ## What the actions keep -/

theorem Orderly.moveTo (h : Orderly s) {stage : Stage} (hstage : StageOwn s i stage) :
    Orderly (s.moveTo i stage) where
  files := h.files
  names := h.names
  stages j := by
    by_cases hj : j = i
    · subst hj
      show StageOwn s j (Function.update s.stages j stage j)
      rw [Function.update_self]
      exact hstage
    · show StageOwn s j (Function.update s.stages i stage j)
      rw [Function.update_of_ne hj]
      exact h.stages j
  events := h.events

theorem Orderly.note (h : Orderly s) {event : Event} (hevent : EventOwn s event) :
    Orderly (s.note event) where
  files := h.files
  names := h.names
  stages := h.stages
  events := List.forall_mem_cons.mpr ⟨hevent, h.events⟩

theorem Orderly.choose (h : Orderly s) (hfresh : ∀ j, (j, lowerBytes name) ∉ s.chosen) :
    Orderly (s.choose i name) where
  files other file hfile := by
    obtain ⟨hchosen, hown⟩ := h.files other file hfile
    exact ⟨List.mem_cons_of_mem _ hchosen, hown⟩
  names {j k other} hj hk := by
    rcases List.mem_cons.mp hj with hj | hj
    · rcases List.mem_cons.mp hk with hk | hk
      · exact (Prod.mk.inj hj).1.trans (Prod.mk.inj hk).1.symm
      · rw [(Prod.mk.inj hj).2] at hk
        exact absurd hk (hfresh k)
    · rcases List.mem_cons.mp hk with hk | hk
      · rw [(Prod.mk.inj hk).2] at hj
        exact absurd hj (hfresh j)
      · exact h.names hj hk
  stages j := (h.stages j).mono rfl fun _ hentry => List.mem_cons_of_mem _ hentry
  events := h.events

theorem Orderly.place (h : Orderly s) (hchosen : (i, lowerBytes name) ∈ s.chosen)
    (hown : Own s i content) (files : List (List Bytes)) :
    Orderly (s.place name files content) where
  files other file hfile := by
    change file ∈ Function.update s.slots (lowerBytes name) _ other at hfile
    by_cases hother : other = lowerBytes name
    · subst hother
      rw [Function.update_self] at hfile
      rcases List.mem_append.mp hfile with hold | hnew
      · exact h.files _ file (List.mem_of_mem_filter hold)
      · obtain ⟨parts, -, rfl⟩ := List.mem_map.mp hnew
        obtain rfl : content.owner = i := hown.1
        exact ⟨hchosen, hown⟩
    · rw [Function.update_of_ne hother] at hfile
      exact h.files other file hfile
  names := h.names
  stages := h.stages
  events := h.events

/-- What lies under a name of the import is its own. -/
theorem Orderly.own_of_mem (h : Orderly s) (hchosen : (i, name) ∈ s.chosen) {file : StoredFile}
    (hfile : file ∈ s.slots name) : Own s i file.content := by
  obtain ⟨hother, hown⟩ := h.files name file hfile
  rwa [h.names hother hchosen] at hown

theorem Orderly.own_of_find (h : Orderly s) (hchosen : (i, lowerBytes name) ∈ s.chosen)
    {parts : List Bytes} (hfind : s.find name parts = some content) : Own s i content := by
  obtain ⟨file, hfile, rfl⟩ := Option.map_eq_some_iff.mp hfind
  exact h.own_of_mem hchosen (List.mem_of_find?_eq_some hfile)

theorem Orderly.own_of_payload (h : Orderly s) (hr : s.requests i = some r) {payload : Payload}
    (hpayload : PayloadOwn s i r payload) {answer : Answer}
    (hcontent : s.payloadContent i answer payload = some content) : Own s i content := by
  cases payload with
  | onDisk path =>
    rw [Imports.payloadContent] at hcontent
    split_ifs at hcontent
    obtain rfl := Option.some.inj hcontent
    exact ⟨rfl, r, hr, congrArg some hpayload⟩
  | downloaded other => exact h.own_of_find hpayload hcontent

/-- Choosing where a payload comes from. -/
theorem Orderly.resolve (h : Orderly s) {source localPath now : Bytes}
    (hr : s.requests i = some r) (hsame : SameText r)
    (hlocal : localPath ≠ [] → cString localPath = r.evaluated)
    (hsource : localPath = [] → cString source = r.evaluated)
    (hfresh : localPath = [] → isRemoteSource source = true →
      ∀ j, (j, lowerBytes (payloadName source now)) ∉ s.chosen) :
    Orderly (s.resolve i r source localPath now) := by
  unfold Imports.resolve
  split_ifs with hpath hnil hremote
  · exact h.moveTo ⟨hr, hsame, hlocal hpath⟩
  · exact h.moveTo trivial
  · exact h.moveTo ⟨hr, hsame, hsource (not_not.mp hpath)⟩
  · rw [Bool.not_eq_true, Bool.not_eq_false'] at hremote
    refine (h.choose (hfresh (not_not.mp hpath) hremote)).moveTo ?_
    exact ⟨hr, hsame, hsource (not_not.mp hpath), List.mem_cons_self⟩

/-- A request that is read alike names its source to whatever reads it. -/
theorem cString_of_sameText {spec : InstallerPackageSpec} (h : SameText (.package spec)) :
    (spec.localPath ≠ [] → cString spec.localPath = (Request.package spec).evaluated) ∧
      (spec.localPath = [] → cString spec.source = (Request.package spec).evaluated) := by
  obtain ⟨hone, hnul⟩ := h
  have hself := cString_eq_self hnul
  have hevaluated : (Request.package spec).evaluated =
      if spec.source ≠ [] then spec.source else spec.localPath := rfl
  constructor
  · intro hpath
    have hsame : (Request.package spec).evaluated = spec.localPath := by
      rw [hevaluated]
      rcases hone with hnil | hnil | heq
      · exact absurd hnil hpath
      · rw [if_neg (not_not.mpr hnil)]
      · rw [heq, ite_self]
    rwa [hsame] at hself ⊢
  · intro hpath
    have hsame : (Request.package spec).evaluated = spec.source := by
      rw [hevaluated, hpath]
      split_ifs with hsource
      · rfl
      · exact (not_not.mp hsource).symm
    rwa [hsame] at hself ⊢

theorem Orderly.decided (h : Orderly s) {answer : Answer} (hstage : s.stages i = .decided r)
    (hname : ∀ name, s.nextName i answer = some name → ∀ j, (j, lowerBytes name) ∉ s.chosen)
    (machine : Environment) : Orderly (s.advance machine i answer) := by
  obtain ⟨hr, hsame⟩ : StageOwn s i (.decided r) := hstage ▸ h.stages i
  unfold Imports.advance
  rw [hstage]
  cases r with
  | package spec =>
    obtain ⟨hlocal, hsource⟩ := cString_of_sameText hsame
    refine h.resolve hr hsame hlocal hsource fun hpath hremote => hname _ ?_
    simp only [Imports.nextName, hstage]
    exact if_pos ⟨hpath, hremote⟩
  | repository spec =>
    refine (h.choose (hname _ ?_)).moveTo ⟨hr, hsame, List.mem_cons_self⟩
    simp only [Imports.nextName, hstage]
  | zip spec =>
    refine h.resolve hr hsame (fun hnil => absurd rfl hnil) (fun _ => cString_eq_self hsame.1)
      fun _ hremote => hname _ ?_
    simp only [Imports.nextName, hstage]
    exact if_pos hremote

theorem Orderly.resolved (h : Orderly s) {answer : Answer} {payload : Payload}
    (hstage : s.stages i = .resolved r payload)
    (hname : ∀ name, s.nextName i answer = some name → ∀ j, (j, lowerBytes name) ∉ s.chosen)
    (machine : Environment) : Orderly (s.advance machine i answer) := by
  obtain ⟨hr, hsame, hpayload⟩ : StageOwn s i (.resolved r payload) := hstage ▸ h.stages i
  unfold Imports.advance
  rw [hstage]
  dsimp only
  cases hcontent : s.payloadContent i answer payload with
  | none => exact h.moveTo trivial
  | some content =>
    have hown : Own s i content := h.own_of_payload hr hpayload hcontent
    cases r with
    | package spec =>
      dsimp only
      have hevent : EventOwn s (.executed i content) := hown
      split_ifs
      · refine (h.note hevent).moveTo ⟨hr, fun c hc => ?_, fun c hc => ?_⟩
        · cases hc
        · exact Option.some.inj hc ▸ hown
      · exact h.moveTo ⟨hr, fun c hc => (by cases hc), fun c hc => (by cases hc)⟩
    | repository spec => exact h.moveTo trivial
    | zip spec =>
      have hfresh : ∀ j, (j, lowerBytes (zipName answer.now)) ∉ s.chosen := by
        refine hname _ ?_
        simp only [Imports.nextName, hstage, hcontent, Option.map_some]
      refine (h.choose hfresh).moveTo ⟨hr, hsame, ?_, List.mem_cons_self⟩
      cases payload with
      | onDisk path => exact hpayload
      | downloaded name => exact List.mem_cons_of_mem _ hpayload

theorem Orderly.cloning (h : Orderly s) {answer : Answer} {spec : BootstrapRepoSpec} {now : Bytes}
    (hstage : s.stages i = .cloning spec now) (machine : Environment) :
    Orderly (s.advance machine i answer) := by
  obtain ⟨hr, ⟨hpassable, hdash, hconfined⟩, hchosen⟩ : StageOwn s i (.cloning spec now) :=
    hstage ▸ h.stages i
  have hown : Own s i
      ⟨i, repositoryOf (cString (cloneCommand { machine with timestampNowUtc := now } spec))⟩ := by
    refine ⟨rfl, _, hr, ?_⟩
    dsimp only
    rw [repositoryOf_cloneCommand hpassable, if_neg hdash]
    rfl
  unfold Imports.advance
  rw [hstage]
  dsimp only
  refine (h.place hchosen hown answer.files).moveTo ?_
  split_ifs
  · exact ⟨hr, hconfined, hchosen⟩
  · exact trivial

theorem Orderly.extracting (h : Orderly s) {answer : Answer} {spec : ZipBundleSpec}
    {payload : Payload} {now : Bytes} (hstage : s.stages i = .extracting spec payload now)
    (machine : Environment) : Orderly (s.advance machine i answer) := by
  obtain ⟨hr, hsame, hpayload, hchosen⟩ : StageOwn s i (.extracting spec payload now) :=
    hstage ▸ h.stages i
  unfold Imports.advance
  rw [hstage]
  dsimp only
  cases hcontent : s.payloadContent i answer payload with
  | none => exact h.moveTo trivial
  | some content =>
    have hown : Own s i content := h.own_of_payload hr hpayload hcontent
    refine (h.place hchosen hown answer.files).moveTo ?_
    split_ifs
    · exact ⟨hr, hsame.2, hchosen⟩
    · exact trivial

theorem Orderly.unpacked (h : Orderly s) {answer : Answer} {manifestFile : Bytes}
    (hstage : s.stages i = .unpacked r manifestFile name) (machine : Environment) :
    Orderly (s.advance machine i answer) := by
  obtain ⟨hr, hconfined, hchosen⟩ : StageOwn s i (.unpacked r manifestFile name) :=
    hstage ▸ h.stages i
  unfold Imports.advance
  rw [hstage]
  dsimp only
  cases hcontent : s.manifestContent answer manifestFile name with
  | none => exact h.moveTo trivial
  | some content =>
    rw [Imports.manifestContent, if_pos hconfined] at hcontent
    have hown : Own s i content := h.own_of_find hchosen hcontent
    have hevent : EventOwn s (.manifestRead i content) := hown
    cases answer.script with
    | none => exact (h.note hevent).moveTo trivial
    | some script => exact (h.note hevent).moveTo ⟨hr, hown, hchosen⟩

theorem Orderly.validated (h : Orderly s) {answer : Answer} {manifest : Content}
    {script : List Bytes} (hstage : s.stages i = .validated r name manifest script)
    (machine : Environment) : Orderly (s.advance machine i answer) := by
  obtain ⟨hr, hmanifest, hchosen⟩ : StageOwn s i (.validated r name manifest script) :=
    hstage ▸ h.stages i
  have hversion : ∀ c, some manifest = some c → Own s i c :=
    fun c hc => Option.some.inj hc ▸ hmanifest
  unfold Imports.advance
  rw [hstage]
  dsimp only
  cases hcontent : s.find name script with
  | none => exact h.moveTo ⟨hr, hversion, fun c hc => (by cases hc)⟩
  | some content =>
    have hown : Own s i content := h.own_of_find hchosen hcontent
    have hevent : EventOwn s (.executed i content) := hown
    dsimp only
    split_ifs
    · exact (h.note hevent).moveTo ⟨hr, hversion, fun c hc => Option.some.inj hc ▸ hown⟩
    · exact h.moveTo ⟨hr, hversion, fun c hc => (by cases hc)⟩

/-- **One action** of an import. -/
theorem Orderly.advance (h : Orderly s) {answer : Answer}
    (hname : ∀ name, s.nextName i answer = some name → ∀ j, (j, lowerBytes name) ∉ s.chosen)
    (machine : Environment) : Orderly (s.advance machine i answer) := by
  cases hstage : s.stages i with
  | unknown =>
    rw [Imports.advance, hstage]
    exact h
  | decided r => exact h.decided hstage hname machine
  | downloading r source name =>
    obtain ⟨hr, hsame, hsource, hchosen⟩ : StageOwn s i (.downloading r source name) :=
      hstage ▸ h.stages i
    have hown : Own s i ⟨i, some (cString source)⟩ := ⟨rfl, r, hr, congrArg some hsource⟩
    rw [Imports.advance, hstage]
    dsimp only
    split_ifs
    · exact (h.place hchosen hown _).moveTo ⟨hr, hsame, hchosen⟩
    · exact h.moveTo trivial
  | cloning spec now => exact h.cloning hstage machine
  | resolved r payload => exact h.resolved hstage hname machine
  | extracting spec payload now => exact h.extracting hstage machine
  | unpacked r manifestFile name => exact h.unpacked hstage machine
  | validated r name manifest script => exact h.validated hstage machine
  | executed r version outcome =>
    obtain ⟨hr, hversion, houtcome⟩ : StageOwn s i (.executed r version outcome) :=
      hstage ▸ h.stages i
    have hevent : EventOwn s (.recorded i r.evaluated version outcome) :=
      ⟨⟨r, hr, rfl⟩, hversion, houtcome⟩
    rw [Imports.advance, hstage]
    exact (h.note hevent).moveTo trivial
  | finished =>
    rw [Imports.advance, hstage]
    exact h

theorem Orderly.submit (h : Orderly s) (hsame : SameText r) (trustedRemoteHosts : List Bytes) :
    Orderly (s.submit trustedRemoteHosts i r) := by
  unfold Imports.submit
  split
  · rename_i hstage
    have hnone : s.requests i = none := by
      have hown := h.stages i
      rw [hstage] at hown
      exact hown
    have hkept : ∀ j r', s.requests j = some r' →
        Function.update s.requests i (some r) j = some r' := by
      intro j r' hj
      by_cases hji : j = i
      · subst hji
        rw [hnone] at hj
        cases hj
      · rw [Function.update_of_ne hji, hj]
    have hopened : ∀ {stage}, stage = .finished ∨ stage = .decided r → Orderly
        (Imports.moveTo { s with requests := Function.update s.requests i (some r) } i stage) := by
      intro stage hnext
      refine {
        files := fun other file hfile => ?_
        names := h.names
        stages := fun j => ?_
        events := fun event hevent => (h.events event hevent).mono hkept }
      · obtain ⟨hchosen, hown⟩ := h.files other file hfile
        exact ⟨hchosen, hown.mono (hkept _)⟩
      · by_cases hj : j = i
        · subst hj
          show StageOwn _ j (Function.update s.stages j stage j)
          rw [Function.update_self]
          rcases hnext with rfl | rfl
          · exact trivial
          · exact ⟨Function.update_self _ _ _, hsame⟩
        · show StageOwn _ j (Function.update s.stages i stage j)
          rw [Function.update_of_ne hj]
          exact (h.stages j).mono (Function.update_of_ne hj _ _) fun _ => id
    dsimp only
    split_ifs
    · exact hopened (Or.inl rfl)
    · exact hopened (Or.inr rfl)
  · exact h

theorem Orderly.step (h : Orderly s) {step : ImportStep} (hstep : Apart s step)
    (trustedRemoteHosts : List Bytes) (machine : Environment) :
    Orderly (s.step trustedRemoteHosts machine step) := by
  cases step with
  | submit i r => exact h.submit hstep trustedRemoteHosts
  | advance i answer =>
    refine h.advance (fun name hname j hj => ?_) machine
    exact hstep name hname _ hj rfl

theorem orderly_init (trustedRemoteHosts : List Bytes) (machine : Environment) :
    Orderly (imports trustedRemoteHosts machine).init where
  files name file hfile := by cases hfile
  names hi := by cases hi
  stages i := rfl
  events event hevent := by cases hevent

/-- A bundle on this machine. -/
def bundle (path : String) : Request := .zip { source := asciiBytes path }

/-- Whatever is asked for is there, and a bundle holds a manifest and a script. -/
def answerAt (now : String) : Answer where
  now := asciiBytes now
  succeeds := true
  fileExists := true
  files := [[asciiBytes "mcp-bootstrap.json"], [asciiBytes "setup.ps1"]]
  elsewhere := ⟨0, none⟩
  script := some [asciiBytes "setup.ps1"]

/-- An import submitted and taken up to its extraction. -/
def upToExtraction (i : ℕ) (path now : String) : List ImportStep :=
  .submit i (bundle path) :: List.replicate 3 (.advance i (answerAt now))

/-- The second bundle is extracted between the extraction of the first and its script. -/
def bundlesAtOnce (now now' : String) : List ImportStep :=
  upToExtraction 1 "C:\\a.zip" now ++ upToExtraction 2 "C:\\b.zip" now' ++
    List.replicate 4 (.advance 1 (answerAt now)) ++ List.replicate 4 (.advance 2 (answerAt now'))

/-- The same second, and the next one. -/
def sameSecond : List ImportStep := bundlesAtOnce "2026-01-01T00:00:00Z" "2026-01-01T00:00:00Z"
def nextSecond : List ImportStep := bundlesAtOnce "2026-01-01T00:00:00Z" "2026-01-01T00:00:01Z"

end Packages
end MasterControl
