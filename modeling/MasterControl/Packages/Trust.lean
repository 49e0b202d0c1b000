import MasterControl.Foundation.Uri

/-!
# The trust decision

`evaluate` decides on a text before it is fetched: a text that does not start with `http://`
or `https://` is local, and for the others the text between `://` and the next slash or colon
is looked up among the trusted hosts.  Where that text is the host of the URL (`HostRead`),
the decision is about the host that is asked (`trusted_of_hostRead`).
-/

namespace MasterControl
namespace Packages

open Foundation

def startsWith (value text : Bytes) : Bool := text.isPrefixOf value

def isRemoteSource (source : Bytes) : Bool :=
  startsWith source (asciiBytes "http://") || startsWith source (asciiBytes "https://")

/-- What stands behind the first `://`. -/
def afterScheme : Bytes → Option Bytes
  | [] => none
  | b :: rest =>
    if startsWith (b :: rest) (asciiBytes "://") then some ((b :: rest).drop 3)
    else afterScheme rest

def extractHostFromUrl (source : Bytes) : Bytes :=
  match afterScheme source with
  | none => []
  | some rest => rest.takeWhile fun b => b ≠ 47 && b ≠ 58

structure PackageTrustDecision where
  isTrusted : Bool
  requiresExplicitApproval : Bool
  reason : String
deriving DecidableEq

/-- `PackageTrustEvaluator::evaluate`. -/
def evaluate (trustedRemoteHosts : List Bytes) (source : Bytes) (allowUntrustedExecution : Bool) :
    PackageTrustDecision :=
  if !isRemoteSource source then ⟨true, false, "Local package source."⟩
  else if extractHostFromUrl source ∈ trustedRemoteHosts then
    ⟨true, false, "Host is allowlisted for unattended execution."⟩
  else if allowUntrustedExecution then
    ⟨false, false, "Explicit approval granted for an untrusted remote source."⟩
  else ⟨false, true, "Remote host is not trusted for unattended execution."⟩

/-! ## Where it leads -/

/-- A local origin, or a host from the list. -/
def Trusted (trustedRemoteHosts : List Bytes) : Origin → Prop
  | .local => True
  | .network none => False
  | .network (some host) => host ∈ trustedRemoteHosts

instance (trustedRemoteHosts : List Bytes) :
    (origin : Origin) → Decidable (Trusted trustedRemoteHosts origin)
  | .local => isTrue trivial
  | .network none => isFalse id
  | .network (some host) => inferInstanceAs (Decidable (host ∈ trustedRemoteHosts))

/-- The decision is about the host that is asked. -/
def HostRead (source : Bytes) : Prop :=
  urlOrigin source = .network (some (extractHostFromUrl source))

instance (source : Bytes) : Decidable (HostRead source) :=
  inferInstanceAs (Decidable (urlOrigin source = _))

section Evaluate

variable {trustedRemoteHosts : List Bytes} {source : Bytes}

/-- What passes without approval is trusted: it is not remote, or its host, as it is read
here, is in the list. -/
theorem evaluate_passes_iff : (evaluate trustedRemoteHosts source false).requiresExplicitApproval =
      false ↔ (isRemoteSource source = true → extractHostFromUrl source ∈ trustedRemoteHosts) := by
  unfold evaluate
  cases isRemoteSource source
  · exact iff_of_true rfl fun h => (by cases h)
  · by_cases hhost : extractHostFromUrl source ∈ trustedRemoteHosts
    · simp [hhost]
    · simp [hhost]

theorem isTrusted_of_passes
    (h : (evaluate trustedRemoteHosts source false).requiresExplicitApproval = false) :
    (evaluate trustedRemoteHosts source false).isTrusted = true := by
  rw [evaluate_passes_iff] at h
  unfold evaluate
  cases hremote : isRemoteSource source
  · rfl
  · simp [h hremote]

theorem trusted_of_hostRead (hread : HostRead source)
    (hhost : extractHostFromUrl source ∈ trustedRemoteHosts) :
    Trusted trustedRemoteHosts (urlOrigin source) := by
  rw [hread]
  exact hhost

/-- A remote text is a URL with an authority. -/
theorem urlOrigin_of_isRemoteSource (h : isRemoteSource source = true) :
    ∃ rest, afterScheme source = some rest ∧
      urlOrigin source = .network (some (hostOf (authority rest))) := by
  rcases Bool.or_eq_true_iff.mp h with h | h
  all_goals
    obtain ⟨rest, rfl⟩ := List.isPrefixOf_iff_prefix.mp h
    exact ⟨rest, rfl, rfl⟩

/-- The two readings differ in nothing but user information, brackets, and a query or a
fragment right behind the host. -/
theorem hostRead_of_plain (hremote : isRemoteSource source = true) {rest : Bytes}
    (hrest : afterScheme source = some rest) (huser : 64 ∉ authority rest)
    (hbracket : (authority rest).head? ≠ some 91)
    (hquery : ∀ b ∈ extractHostFromUrl source, b ≠ 63 ∧ b ≠ 35) : HostRead source := by
  obtain ⟨rest', hrest', horigin⟩ := urlOrigin_of_isRemoteSource hremote
  obtain rfl : rest = rest' := Option.some.inj (hrest.symm.trans hrest')
  have hextract : extractHostFromUrl source = rest.takeWhile fun b => b ≠ 47 && b ≠ 58 := by
    rw [extractHostFromUrl, hrest]
  rw [HostRead, horigin, hostOf_plain huser hbracket, authority, List.takeWhile_takeWhile]
  have hcut : (rest.takeWhile fun b => b ≠ 47 && b ≠ 58).takeWhile (fun b => b ≠ 63 && b ≠ 35) =
      extractHostFromUrl source := by
    rw [← hextract, List.takeWhile_eq_self_iff]
    intro b hb
    simpa using hquery b hb
  rw [List.takeWhile_takeWhile] at hcut
  rw [← hcut]
  congr 3
  funext b
  simp only [Bool.and_eq_true, decide_eq_true_eq, decide_eq_decide]
  tauto

end Evaluate

end Packages
end MasterControl
