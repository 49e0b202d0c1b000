import MasterControl.Packages.Trust
import MasterControl.Foundation.CommandLine
import MasterControl.Supervisor.Model

/-!
# Installing a package

An installer package, a bootstrap repository and a zip bundle are fetched and run behind the
trust decision.  What an operation does to the machine is a list of effects; what the machine
answers is an `Environment`.

`Sound` says that the effects are about the text that was decided on, from a host that is
trusted.  The text of a request is read twice, by the decision and by what fetches, and
`trust_gate` says for which requests the two readings agree: those for which every
configuration of trusted hosts is respected.
-/

namespace MasterControl
namespace Packages

open Foundation
open Supervisor (OperationResult)

/-! ## Requests -/

inductive InstallerKind where
  | msi
  | exe
  | powerShell
  | gitBootstrapRepo
  | zipBundle
deriving DecidableEq

structure InstallerPackageSpec where
  kind : InstallerKind := .exe
  source : Bytes := []
  localPath : Bytes := []
  arguments : Bytes := []
  allowUntrustedExecution : Bool := false

structure BootstrapRepoSpec where
  repositoryUrl : Bytes := []
  branch : Bytes := asciiBytes "main"
  manifestFile : Bytes := asciiBytes "mcp-bootstrap.json"
  allowUntrustedExecution : Bool := false

structure ZipBundleSpec where
  source : Bytes := []
  manifestFile : Bytes := asciiBytes "mcp-bootstrap.json"
  allowUntrustedExecution : Bool := false

structure InstallProvenance where
  kind : InstallerKind
  source : Bytes
  installedAtUtc : Bytes
  version : String
  trusted : Bool
  executionSummary : String
deriving DecidableEq

/-- A manifest that was found in what was fetched, with the script to run. -/
structure ValidatedBootstrapManifest where
  version : String
  bootstrapArguments : Bytes
  bootstrapPath : Bytes
  /-- How many endpoints it seeds. -/
  seededEndpoints : Nat

/-- What the machine answers. -/
structure Environment where
  timestampNowUtc : Bytes
  workDirectory : Bytes
  fileExists : Bytes → Bool
  /-- `URLDownloadToFileW`. -/
  downloads : Bytes → Bool
  /-- Whether a PowerShell is found. -/
  powershell : Bool
  /-- The manifest with a name in a directory, or what is wrong with it. -/
  manifest : Bytes → Bytes → Except String ValidatedBootstrapManifest
  /-- Of the program that clones or extracts. -/
  fetchExitCode : Int
  /-- Of the program that was fetched. -/
  exitCode : Int

inductive Effect where
  | download (url destination : Bytes)
  | clone (command : Bytes)
  | extract (zipPath directory : Bytes)
  | execute (kind : InstallerKind) (payloadPath arguments : Bytes)
  | bootstrap (bootstrapPath arguments : Bytes)
  | record (provenance : InstallProvenance)
deriving DecidableEq

/-! ## The orchestrator -/

/-- A text as the operating system reads it. -/
def cString (text : Bytes) : Bytes := text.takeWhile (· ≠ 0)

def sanitizePathComponent (value : Bytes) : Bytes :=
  value.map fun b =>
    if isAlphaByte b || (48 ≤ b && b ≤ 57) || b = 45 || b = 95 then b else 95

/-- The path of the payload, empty where there is none. -/
def resolvePackage (env : Environment) (source localPath : Bytes) : Bytes × List Effect :=
  if localPath ≠ [] then (localPath, [])
  else if source = [] then ([], [])
  else if !isRemoteSource source then (source, [])
  else
    let destination := env.workDirectory ++
      92 :: sanitizePathComponent (extractHostFromUrl source) ++
      95 :: sanitizePathComponent env.timestampNowUtc ++ asciiBytes ".payload"
    (if env.downloads (cString source) then destination else [],
      [.download (cString source) (cString destination)])

/-- Which kinds `executePackage` runs. -/
def InstallerKind.runs : InstallerKind → Bool
  | .msi | .exe | .powerShell => true
  | .gitBootstrapRepo | .zipBundle => false

/-- The exit code, and what was run. -/
def executePackage (env : Environment) (payloadPath : Bytes) (kind : InstallerKind)
    (arguments : Bytes) : Int × List Effect :=
  match kind with
  | .msi | .exe => (env.exitCode, [.execute kind (cString payloadPath) arguments])
  | .powerShell =>
    if env.powershell then (env.exitCode, [.execute kind (cString payloadPath) arguments])
    else (1, [])
  | .gitBootstrapRepo | .zipBundle => (1, [])

def executeBootstrap (env : Environment) (bootstrapPath arguments : Bytes) : Int × List Effect :=
  if !env.fileExists (cString bootstrapPath) then (1, [])
  else if asciiBytes ".ps1" <:+ bootstrapPath ∧ !env.powershell then (1, [])
  else (env.exitCode, [.bootstrap (cString bootstrapPath) arguments])

def installPackage (trustedRemoteHosts : List Bytes) (env : Environment)
    (spec : InstallerPackageSpec) : List Effect × OperationResult :=
  let evaluated := if spec.source ≠ [] then spec.source else spec.localPath
  let decision := evaluate trustedRemoteHosts evaluated spec.allowUntrustedExecution
  if decision.requiresExplicitApproval then ([], ⟨false, false, decision.reason⟩)
  else
    let (path, fetched) := resolvePackage env spec.source spec.localPath
    if path = [] || !env.fileExists (cString path) then
      (fetched, ⟨false, false, "Installer payload could not be resolved."⟩)
    else
      let (exitCode, executed) := executePackage env path spec.kind spec.arguments
      (fetched ++ executed ++ [.record
        { kind := spec.kind
          source := evaluated
          installedAtUtc := env.timestampNowUtc
          version := "1.0.0"
          trusted := decision.isTrusted
          executionSummary := "Process exited with code " ++ toString exitCode }],
        ⟨exitCode = 0, false,
          if exitCode = 0 then "Installer completed successfully." else "Installer failed."⟩)

/-- The texts in which a repository and a bundle differ. -/
structure BootstrapTexts where
  summary : String
  installed : String
  failed : String

def repositoryTexts : BootstrapTexts :=
  { summary := "Bootstrap exited with code ", installed := "Bootstrap repository installed."
    failed := "Bootstrap repository failed." }

def zipTexts : BootstrapTexts :=
  { summary := "Zip bootstrap exited with code ", installed := "Zip bundle installed."
    failed := "Zip bundle bootstrap failed." }

/-- The common end of `installFromRepository` and `installFromZipBundle`: the manifest of
what was fetched names a script, which is run and recorded. -/
def installFetched (env : Environment) (directory manifestFile : Bytes) (kind : InstallerKind)
    (source : Bytes) (decision : PackageTrustDecision) (texts : BootstrapTexts) :
    List Effect × OperationResult :=
  match env.manifest directory manifestFile with
  | .error message => ([], ⟨false, false, message⟩)
  | .ok manifest =>
    let (exitCode, executed) :=
      executeBootstrap env manifest.bootstrapPath manifest.bootstrapArguments
    let registers := exitCode = 0 ∧ 0 < manifest.seededEndpoints
    (executed ++ [.record
      { kind, source
        installedAtUtc := env.timestampNowUtc
        version := manifest.version
        trusted := decision.isTrusted
        executionSummary := texts.summary ++ toString exitCode ++
          (if registers then
            "; registered " ++ toString manifest.seededEndpoints ++ " endpoints" else "") }],
      ⟨exitCode = 0, false, (if exitCode = 0 then texts.installed else texts.failed) ++
        (if registers then
          " Registered " ++ toString manifest.seededEndpoints ++ " endpoints." else "")⟩)

/-- Where a repository is cloned to. -/
def repoDirectory (env : Environment) (spec : BootstrapRepoSpec) : Bytes :=
  env.workDirectory ++ 92 :: asciiBytes "repo_" ++ sanitizePathComponent spec.branch ++
    95 :: sanitizePathComponent env.timestampNowUtc

def cloneCommand (env : Environment) (spec : BootstrapRepoSpec) : Bytes :=
  asciiBytes "git clone --depth 1 --branch \"" ++ spec.branch ++ asciiBytes "\" \"" ++
    spec.repositoryUrl ++ asciiBytes "\" \"" ++ repoDirectory env spec ++ asciiBytes "\""

def installFromRepository (trustedRemoteHosts : List Bytes) (env : Environment)
    (spec : BootstrapRepoSpec) : List Effect × OperationResult :=
  let decision := evaluate trustedRemoteHosts spec.repositoryUrl spec.allowUntrustedExecution
  if decision.requiresExplicitApproval then ([], ⟨false, false, decision.reason⟩)
  else
    let fetched := [Effect.clone (cString (cloneCommand env spec))]
    if env.fetchExitCode ≠ 0 then
      (fetched, ⟨false, false, "Failed to clone bootstrap repository."⟩)
    else
      let (effects, result) := installFetched env (repoDirectory env spec) spec.manifestFile
        .gitBootstrapRepo spec.repositoryUrl decision repositoryTexts
      (fetched ++ effects, result)

def installFromZipBundle (trustedRemoteHosts : List Bytes) (env : Environment)
    (spec : ZipBundleSpec) : List Effect × OperationResult :=
  let decision := evaluate trustedRemoteHosts spec.source spec.allowUntrustedExecution
  if decision.requiresExplicitApproval then ([], ⟨false, false, decision.reason⟩)
  else
    let (zipPath, fetched) := resolvePackage env spec.source []
    if zipPath = [] || !env.fileExists (cString zipPath) then
      (fetched, ⟨false, false, "Zip bundle could not be resolved."⟩)
    else if !env.powershell then
      (fetched, ⟨false, false, "A PowerShell executable could not be located."⟩)
    else
      let directory := env.workDirectory ++ 92 :: asciiBytes "zip_" ++
        sanitizePathComponent env.timestampNowUtc
      let fetched := fetched ++ [.extract (cString zipPath) directory]
      if env.fetchExitCode ≠ 0 then (fetched, ⟨false, false, "Zip bundle extraction failed."⟩)
      else
        let (effects, result) := installFetched env directory spec.manifestFile .zipBundle
          spec.source decision zipTexts
        (fetched ++ effects, result)

end Packages
end MasterControl
