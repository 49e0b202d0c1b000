import MasterControl.Foundation.Separators
import MasterControl.Packages.Install

/-!
# What passes the trust gate

A request is *sound* in what it does when everything that is fetched or run is named by the
text that was decided on and comes from a file or from a trusted host, and the record says
so.  `ReadAlike` is the condition on the text of a request under which its readers agree; it
does not mention the trusted hosts.  `trust_gate` is the equivalence of the two over all
configurations and all machines.
-/

namespace MasterControl
namespace Packages

open Foundation
open Supervisor (OperationResult)

inductive Request where
  | package (spec : InstallerPackageSpec)
  | repository (spec : BootstrapRepoSpec)
  | zip (spec : ZipBundleSpec)

namespace Request

/-- The text that the decision is about. -/
def evaluated : Request → Bytes
  | package spec => if spec.source ≠ [] then spec.source else spec.localPath
  | repository spec => spec.repositoryUrl
  | zip spec => spec.source

def allowUntrustedExecution : Request → Bool
  | package spec => spec.allowUntrustedExecution
  | repository spec => spec.allowUntrustedExecution
  | zip spec => spec.allowUntrustedExecution

/-- What the operation does to the machine. -/
def effects (trustedRemoteHosts : List Bytes) (env : Environment) : Request → List Effect
  | package spec => (installPackage trustedRemoteHosts env spec).1
  | repository spec => (installFromRepository trustedRemoteHosts env spec).1
  | zip spec => (installFromZipBundle trustedRemoteHosts env spec).1

end Request

/-! ## Soundness -/

/-- The repository that a `git clone` is told to fetch: the seventh argument, unless it is an
option. -/
def repositoryOf (command : Bytes) : Option Bytes :=
  match commandArguments command with
  | _ :: _ :: _ :: _ :: _ :: _ :: url :: _ => if url.head? = some 45 then none else some url
  | _ => none

/-- A file that is run: the one that was decided on, or one that was downloaded. -/
def PayloadSound (trustedRemoteHosts : List Bytes) (evaluated : Bytes) (effects : List Effect)
    (path : Bytes) : Prop :=
  path = evaluated ∧ Trusted trustedRemoteHosts (pathOrigin path) ∨
    ∃ url, Effect.download url path ∈ effects

/-- What an effect has to be, among the others. -/
def EffectSound (trustedRemoteHosts : List Bytes) (evaluated : Bytes) (effects : List Effect) :
    Effect → Prop
  | .download url _ => url = evaluated ∧ Trusted trustedRemoteHosts (urlOrigin url)
  | .clone command =>
    repositoryOf command = some evaluated ∧ Trusted trustedRemoteHosts (urlOrigin evaluated)
  | .extract path _ => PayloadSound trustedRemoteHosts evaluated effects path
  | .execute _ path _ => PayloadSound trustedRemoteHosts evaluated effects path
  | .bootstrap _ _ => True
  | .record provenance => provenance.source = evaluated ∧ provenance.trusted = true

/-- Everything that is fetched or run is what was decided on, from a trusted origin, and is
recorded as such. -/
def Sound (trustedRemoteHosts : List Bytes) (evaluated : Bytes) (effects : List Effect) : Prop :=
  ∀ effect ∈ effects, EffectSound trustedRemoteHosts evaluated effects effect

/-! ## Requests that are read alike -/

/-- A text that is fetched by `URLDownloadToFileW`, or opened as a path and run. -/
def FetchedAlike (source : Bytes) : Prop :=
  0 ∉ source ∧ if isRemoteSource source then HostRead source else pathOrigin source = .local

/-- A repository whose branch and URL reach `git` as they are. -/
def Passable (spec : BootstrapRepoSpec) : Prop :=
  (Quotable spec.branch ∧ 0 ∉ spec.branch) ∧ Quotable spec.repositoryUrl ∧ 0 ∉ spec.repositoryUrl

/-- The condition on the text of a request. -/
def ReadAlike : Request → Prop
  | .package spec =>
    if spec.localPath ≠ [] then
      spec.kind.runs = true → cString spec.localPath = (Request.package spec).evaluated ∧
        pathOrigin (cString spec.localPath) = .local
    else isRemoteSource spec.source = true ∨ spec.kind.runs = true → FetchedAlike spec.source
  | .repository spec =>
    Passable spec ∧ spec.repositoryUrl.head? ≠ some 45 ∧
      if isRemoteSource spec.repositoryUrl then HostRead spec.repositoryUrl
      else urlOrigin spec.repositoryUrl = .local
  | .zip spec => FetchedAlike spec.source

instance (source : Bytes) : Decidable (FetchedAlike source) :=
  inferInstanceAs (Decidable (_ ∧ _))

instance (spec : BootstrapRepoSpec) : Decidable (Passable spec) :=
  inferInstanceAs (Decidable (_ ∧ _))

instance : (r : Request) → Decidable (ReadAlike r)
  | .package spec => inferInstanceAs (Decidable (if spec.localPath ≠ [] then _ else _))
  | .repository _ => inferInstanceAs (Decidable (_ ∧ _))
  | .zip spec => inferInstanceAs (Decidable (FetchedAlike spec.source))

/-- A request whose texts reach the program that fetches them. -/
def Request.Passable : Request → Prop
  | .package _ => True
  | .repository spec => Packages.Passable spec
  | .zip _ => True

/-! ## Enough -/

section Sufficiency

variable {trustedRemoteHosts : List Bytes} {env : Environment} {effects : List Effect}
  {effect : Effect} {source path : Bytes}

theorem cString_eq_self {text : Bytes} (h : 0 ∉ text) : cString text = text :=
  takeWhile_ne_eq_self_iff.mpr h

theorem mem_executePackage {kind : InstallerKind} {arguments : Bytes}
    (h : effect ∈ (executePackage env path kind arguments).2) :
    effect = .execute kind (cString path) arguments ∧ kind.runs = true := by
  unfold executePackage at h
  split at h
  · exact ⟨List.mem_singleton.mp h, rfl⟩
  · exact ⟨List.mem_singleton.mp h, rfl⟩
  · split_ifs at h
    · exact ⟨List.mem_singleton.mp h, rfl⟩
    · cases h
  · cases h
  · cases h

/-- The end of a bootstrap runs a script of what was fetched, and records the request. -/
theorem mem_installFetched {directory manifestFile : Bytes} {kind : InstallerKind}
    {decision : PackageTrustDecision} {texts : BootstrapTexts}
    (htrusted : decision.isTrusted = true)
    (h : effect ∈ (installFetched env directory manifestFile kind source decision texts).1) :
    EffectSound trustedRemoteHosts source effects effect := by
  unfold installFetched at h
  split at h
  · cases h
  · rcases List.mem_append.mp h with h | h
    · unfold executeBootstrap at h
      split_ifs at h
      · cases h
      · cases h
      · rw [List.mem_singleton.mp h]
        exact trivial
    · rw [List.mem_singleton.mp h]
      exact ⟨rfl, htrusted⟩

/-- A package that is fetched as it was decided on. -/
theorem resolvePackage_sound (env : Environment) (effects : List Effect) (halike : FetchedAlike source)
    (hpasses : isRemoteSource source = true → extractHostFromUrl source ∈ trustedRemoteHosts)
    (hsubset : (resolvePackage env source []).2 ⊆ effects) :
    (∀ effect ∈ (resolvePackage env source []).2,
        EffectSound trustedRemoteHosts source effects effect) ∧
      ((resolvePackage env source []).1 ≠ [] →
        PayloadSound trustedRemoteHosts source effects
          (cString (resolvePackage env source []).1)) := by
  obtain ⟨hnul, hread⟩ := halike
  have hcString := cString_eq_self hnul
  unfold resolvePackage at hsubset ⊢
  rw [if_neg (not_not_intro rfl)] at hsubset ⊢
  by_cases hnil : source = []
  · rw [if_pos hnil]
    exact ⟨fun _ h => (by cases h), fun h => absurd rfl h⟩
  · rw [if_neg hnil] at hsubset ⊢
    cases hremote : isRemoteSource source with
    | false =>
      rw [hremote, if_neg Bool.false_ne_true] at hread
      refine ⟨fun _ h => (by cases h), fun _ => Or.inl ⟨hcString, ?_⟩⟩
      show Trusted trustedRemoteHosts (pathOrigin (cString source))
      rw [hcString, hread]
      exact trivial
    | true =>
      rw [hremote, if_pos rfl] at hread
      rw [hremote] at hsubset
      refine ⟨fun effect h => ?_, fun hne => Or.inr ⟨cString source, hsubset ?_⟩⟩
      · rw [List.mem_singleton.mp h]
        show cString source = source ∧ Trusted trustedRemoteHosts (urlOrigin (cString source))
        rw [hcString]
        exact ⟨rfl, trusted_of_hostRead hread (hpasses hremote)⟩
      · -- the payload is the download when there is one
        have hdownloads : env.downloads (cString source) = true := by
          by_contra hfails
          exact hne (if_neg hfails)
        refine List.mem_singleton.mpr ?_
        show Effect.download _ (cString (if env.downloads (cString source) then _ else _)) = _
        rw [if_pos hdownloads]

theorem evaluated_of_localPath_eq_nil {spec : InstallerPackageSpec} (h : spec.localPath = []) :
    (Request.package spec).evaluated = spec.source := by
  show (if spec.source ≠ [] then spec.source else spec.localPath) = spec.source
  split_ifs with hsource
  · rfl
  · rw [h, not_not.mp hsource]

/-- A package whose two paths are read alike. -/
theorem package_resolved_sound (env : Environment) (effects : List Effect)
    {spec : InstallerPackageSpec} (halike : ReadAlike (.package spec))
    (hpasses : isRemoteSource (Request.package spec).evaluated = true →
      extractHostFromUrl (Request.package spec).evaluated ∈ trustedRemoteHosts)
    (hsubset : (resolvePackage env spec.source spec.localPath).2 ⊆ effects) :
    (∀ effect ∈ (resolvePackage env spec.source spec.localPath).2,
        EffectSound trustedRemoteHosts (Request.package spec).evaluated effects effect) ∧
      (spec.kind.runs = true → (resolvePackage env spec.source spec.localPath).1 ≠ [] →
        PayloadSound trustedRemoteHosts (Request.package spec).evaluated effects
          (cString (resolvePackage env spec.source spec.localPath).1)) := by
  rw [ReadAlike] at halike
  by_cases hlocal : spec.localPath = []
  · rw [if_neg (not_not_intro hlocal)] at halike
    rw [evaluated_of_localPath_eq_nil hlocal] at hpasses ⊢
    rw [hlocal] at hsubset ⊢
    by_cases hneeded : isRemoteSource spec.source = true ∨ spec.kind.runs = true
    · obtain ⟨hfetched, hpayload⟩ :=
        resolvePackage_sound env effects (halike hneeded) hpasses hsubset
      exact ⟨hfetched, fun _ => hpayload⟩
    · -- nothing is fetched and nothing is run
      obtain ⟨hremote, hruns⟩ := not_or.mp hneeded
      have hnothing : (resolvePackage env spec.source []).2 = [] := by
        unfold resolvePackage
        rw [if_neg (not_not_intro rfl), Bool.eq_false_iff.mpr hremote]
        by_cases hnil : spec.source = []
        · rw [if_pos hnil]
        · rw [if_neg hnil]
          rfl
      refine ⟨fun effect h => ?_, fun h => absurd h hruns⟩
      rw [hnothing] at h
      cases h
  · rw [if_pos hlocal] at halike
    have hresolved : resolvePackage env spec.source spec.localPath = (spec.localPath, []) :=
      if_pos hlocal
    rw [hresolved]
    refine ⟨fun _ h => (by cases h), fun hruns _ => Or.inl ⟨(halike hruns).1, ?_⟩⟩
    rw [(halike hruns).2]
    exact trivial

theorem installPackage_sound {spec : InstallerPackageSpec}
    (hallow : spec.allowUntrustedExecution = false) (halike : ReadAlike (.package spec)) :
    Sound trustedRemoteHosts (Request.package spec).evaluated
      (installPackage trustedRemoteHosts env spec).1 := by
  have hevaluated : (if spec.source ≠ [] then spec.source else spec.localPath) =
      (Request.package spec).evaluated := rfl
  unfold installPackage
  rw [hallow, hevaluated]
  dsimp only
  cases hblocked : (evaluate trustedRemoteHosts (Request.package spec).evaluated
    false).requiresExplicitApproval with
  | true => exact fun _ h => (by cases h)
  | false =>
    have hpasses := evaluate_passes_iff.mp hblocked
    have hresolved := fun effects => package_resolved_sound env effects halike hpasses
    rw [if_neg Bool.false_ne_true]
    generalize resolvePackage env spec.source spec.localPath = resolved at hresolved
    obtain ⟨path, fetched⟩ := resolved
    dsimp only at hresolved ⊢
    by_cases hmissing : (decide (path = []) || !env.fileExists (cString path)) = true
    · rw [if_pos hmissing]
      exact (hresolved fetched (List.Subset.refl _)).1
    · rw [if_neg hmissing]
      have hpath : path ≠ [] := by
        rintro rfl
        exact hmissing rfl
      intro effect h
      obtain ⟨hfetched, hpayload⟩ := hresolved _ (List.Subset.trans
        (List.subset_append_left fetched _) (List.subset_append_left _ _))
      rcases List.mem_append.mp h with h | h
      · rcases List.mem_append.mp h with h | h
        · exact hfetched effect h
        · obtain ⟨rfl, hruns⟩ := mem_executePackage h
          exact hpayload hruns hpath
      · rw [List.mem_singleton.mp h]
        exact ⟨rfl, isTrusted_of_passes hblocked⟩

theorem installFromZipBundle_sound {spec : ZipBundleSpec}
    (hallow : spec.allowUntrustedExecution = false) (halike : FetchedAlike spec.source) :
    Sound trustedRemoteHosts spec.source (installFromZipBundle trustedRemoteHosts env spec).1 := by
  unfold installFromZipBundle
  rw [hallow]
  dsimp only
  cases hblocked : (evaluate trustedRemoteHosts spec.source false).requiresExplicitApproval with
  | true => exact fun _ h => (by cases h)
  | false =>
    have hresolved := fun effects =>
      resolvePackage_sound env effects halike (evaluate_passes_iff.mp hblocked)
    rw [if_neg Bool.false_ne_true]
    generalize resolvePackage env spec.source [] = resolved at hresolved
    obtain ⟨path, fetched⟩ := resolved
    dsimp only at hresolved ⊢
    by_cases hmissing : (decide (path = []) || !env.fileExists (cString path)) = true
    · rw [if_pos hmissing]
      exact (hresolved fetched (List.Subset.refl _)).1
    have hpath : path ≠ [] := by
      rintro rfl
      exact hmissing rfl
    rw [if_neg hmissing]
    by_cases hshell : (!env.powershell) = true
    · rw [if_pos hshell]
      exact (hresolved fetched (List.Subset.refl _)).1
    rw [if_neg hshell]
    by_cases hfails : env.fetchExitCode ≠ 0
    · rw [if_pos hfails]
      intro effect h
      obtain ⟨hfetched, hpayload⟩ := hresolved _ (List.subset_append_left fetched _)
      rcases List.mem_append.mp h with h | h
      · exact hfetched effect h
      · rw [List.mem_singleton.mp h]
        exact hpayload hpath
    · rw [if_neg hfails]
      intro effect h
      obtain ⟨hfetched, hpayload⟩ := hresolved _ (List.Subset.trans
        (List.subset_append_left fetched _) (List.subset_append_left _ _))
      rcases List.mem_append.mp h with h | h
      · rcases List.mem_append.mp h with h | h
        · exact hfetched effect h
        · rw [List.mem_singleton.mp h]
          exact hpayload hpath
      · exact mem_installFetched (isTrusted_of_passes hblocked) h

theorem cString_append {a b : Bytes} (h : 0 ∉ a) : cString (a ++ b) = a ++ cString b :=
  takeWhile_ne_append h b

/-- The words in front of the branch. -/
theorem splitFrom_cloneWords (rest : Bytes) :
    splitFrom .plain 0 none (asciiBytes "git clone --depth 1 --branch " ++ rest) =
      asciiBytes "git" :: asciiBytes "clone" :: asciiBytes "--depth" :: asciiBytes "1" ::
        asciiBytes "--branch" :: splitFrom .plain 0 none rest := by
  rfl

/-- A branch and a URL that may be quoted reach `git` as they are; a URL that looks like an
option is taken for one. -/
theorem repositoryOf_cloneCommand {spec : BootstrapRepoSpec} (h : Passable spec) :
    repositoryOf (cString (cloneCommand env spec)) =
      if spec.repositoryUrl.head? = some 45 then none else some spec.repositoryUrl := by
  obtain ⟨⟨hbranch, hbranchNul⟩, hurl, hurlNul⟩ := h
  have hcommand : cloneCommand env spec =
      (asciiBytes "git clone --depth 1 --branch " ++ 34 :: (spec.branch ++ 34 :: 32 :: 34 ::
        (spec.repositoryUrl ++ [34, 32]))) ++ 34 :: (repoDirectory env spec ++ [34]) := by
    have hwords : asciiBytes "git clone --depth 1 --branch \"" =
        asciiBytes "git clone --depth 1 --branch " ++ [34] := rfl
    have hbetween : asciiBytes "\" \"" = [34, 32, 34] := rfl
    have hend : asciiBytes "\"" = [34] := rfl
    rw [cloneCommand, hwords, hbetween, hend]
    simp only [List.append_assoc, List.cons_append, List.nil_append]
  have hnul : 0 ∉ asciiBytes "git clone --depth 1 --branch " ++ 34 :: (spec.branch ++
      34 :: 32 :: 34 :: (spec.repositoryUrl ++ [34, 32])) := by
    simp only [List.mem_append, List.mem_cons, hbranchNul, hurlNul]
    decide
  have hsplit : ∀ rest, commandArguments (asciiBytes "git clone --depth 1 --branch " ++
      34 :: (spec.branch ++ 34 :: 32 :: 34 :: (spec.repositoryUrl ++ 34 :: 32 :: rest))) =
      asciiBytes "git" :: asciiBytes "clone" :: asciiBytes "--depth" :: asciiBytes "1" ::
        asciiBytes "--branch" :: spec.branch :: spec.repositoryUrl ::
          splitFrom .plain 0 none rest := by
    intro rest
    have hquoted {text : Bytes} (htext : Quotable text) (rest : Bytes) :
        splitFrom .plain 0 none (34 :: (text ++ 34 :: 32 :: rest)) =
          text :: splitFrom .plain 0 none rest :=
      splitFrom_quoted htext rest
    rw [commandArguments, splitFrom_cloneWords, hquoted hbranch, hquoted hurl]
  rw [repositoryOf, hcommand, cString_append hnul]
  simp only [List.append_assoc, List.cons_append, List.nil_append, hsplit]

theorem installFromRepository_sound {spec : BootstrapRepoSpec}
    (hallow : spec.allowUntrustedExecution = false) (halike : ReadAlike (.repository spec)) :
    Sound trustedRemoteHosts spec.repositoryUrl
      (installFromRepository trustedRemoteHosts env spec).1 := by
  obtain ⟨hpassable, hdash, hread⟩ := halike
  have hrepository : repositoryOf (cString (cloneCommand env spec)) = some spec.repositoryUrl := by
    rw [repositoryOf_cloneCommand hpassable, if_neg hdash]
  unfold installFromRepository
  rw [hallow]
  dsimp only
  cases hblocked :
      (evaluate trustedRemoteHosts spec.repositoryUrl false).requiresExplicitApproval with
  | true => exact fun _ h => (by cases h)
  | false =>
    have horigin : Trusted trustedRemoteHosts (urlOrigin spec.repositoryUrl) := by
      cases hremote : isRemoteSource spec.repositoryUrl with
      | true =>
        rw [hremote, if_pos rfl] at hread
        exact trusted_of_hostRead hread (evaluate_passes_iff.mp hblocked hremote)
      | false =>
        rw [hremote, if_neg Bool.false_ne_true] at hread
        rw [hread]
        exact trivial
    rw [if_neg Bool.false_ne_true]
    by_cases hfails : env.fetchExitCode ≠ 0
    · rw [if_pos hfails]
      intro effect h
      rw [List.mem_singleton.mp h]
      exact ⟨hrepository, horigin⟩
    · rw [if_neg hfails]
      intro effect h
      rcases List.mem_cons.mp h with rfl | h
      · exact ⟨hrepository, horigin⟩
      · exact mem_installFetched (isTrusted_of_passes hblocked) h

end Sufficiency

/-! ## Needed -/

section Necessity

/-- A machine on which everything is found and everything succeeds. -/
def generousEnvironment : Environment where
  timestampNowUtc := []
  workDirectory := []
  fileExists _ := true
  downloads _ := true
  powershell := true
  manifest _ _ := .error "Bootstrap manifest is missing."
  fetchExitCode := 0
  exitCode := 0

variable {source : Bytes} {trustedRemoteHosts : List Bytes}

theorem not_mem_of_cString_eq_self {text : Bytes} (h : cString text = text) : 0 ∉ text :=
  takeWhile_ne_eq_self_iff.mp h

theorem local_of_trusted_nil {origin : Origin} (h : Trusted [] origin) : origin = .local := by
  rcases origin with _ | (_ | host)
  · rfl
  · exact absurd h id
  · exact absurd h List.not_mem_nil

/-- A remote text is not a path to another machine. -/
theorem pathOrigin_of_isRemoteSource (h : isRemoteSource source = true) :
    pathOrigin source = .local := by
  rcases Bool.or_eq_true_iff.mp h with h | h
  all_goals
    obtain ⟨rest, rfl⟩ := List.isPrefixOf_iff_prefix.mp h
    rfl

/-- If the one host that the decision reads is the host that is asked, it is read right. -/
theorem hostRead_of_trusted (hremote : isRemoteSource source = true)
    (h : Trusted [extractHostFromUrl source] (urlOrigin source)) : HostRead source := by
  obtain ⟨rest, -, horigin⟩ := urlOrigin_of_isRemoteSource hremote
  rw [HostRead, horigin]
  rw [horigin] at h
  rw [List.mem_singleton.mp h]

/-- A configuration that lets a text through: its host, as it is read, or none if it is not
remote. -/
def letThrough (source : Bytes) : List Bytes :=
  if isRemoteSource source then [extractHostFromUrl source] else []

theorem evaluate_letThrough (source : Bytes) :
    (evaluate (letThrough source) source false).requiresExplicitApproval = false := by
  refine evaluate_passes_iff.mpr fun hremote => ?_
  rw [letThrough, if_pos hremote]
  exact List.mem_singleton_self _

theorem pathOrigin_of_trusted (h : Trusted (letThrough source) (pathOrigin source)) :
    pathOrigin source = .local := by
  cases hremote : isRemoteSource source with
  | true => exact pathOrigin_of_isRemoteSource hremote
  | false =>
    rw [letThrough, hremote, if_neg Bool.false_ne_true] at h
    exact local_of_trusted_nil h

/-- What a download and a payload say about the text. -/
theorem fetchedAlike_of_sound (effects : List Effect)
    (hremote : isRemoteSource source = true → ∃ destination,
      EffectSound (letThrough source) source effects (.download (cString source) destination))
    (hlocal : isRemoteSource source = false →
      cString source = source ∧ Trusted (letThrough source) (pathOrigin (cString source))) :
    FetchedAlike source := by
  cases h : isRemoteSource source with
  | true =>
    obtain ⟨destination, hurl, horigin⟩ := hremote h
    rw [hurl, letThrough, if_pos h] at horigin
    exact ⟨not_mem_of_cString_eq_self hurl, by
      rw [if_pos h]
      exact hostRead_of_trusted h horigin⟩
  | false =>
    obtain ⟨hpath, horigin⟩ := hlocal h
    rw [hpath] at horigin
    exact ⟨not_mem_of_cString_eq_self hpath, by
      rw [if_neg (by rw [h]; exact Bool.false_ne_true)]
      exact pathOrigin_of_trusted horigin⟩

theorem executePackage_generous (path : Bytes) {kind : InstallerKind} (arguments : Bytes)
    (h : kind.runs = true) :
    (executePackage generousEnvironment path kind arguments).2 =
      [.execute kind (cString path) arguments] := by
  cases kind with
  | msi => rfl
  | exe => rfl
  | powerShell => rfl
  | gitBootstrapRepo => cases h
  | zipBundle => cases h

/-- What a package does on a generous machine: it is fetched, run if its kind is, and
recorded. -/
theorem installPackage_generous {spec : InstallerPackageSpec}
    (hallow : spec.allowUntrustedExecution = false)
    (hpath : (resolvePackage generousEnvironment spec.source spec.localPath).1 ≠ []) :
    ∃ provenance, (Request.package spec).effects (letThrough (Request.package spec).evaluated)
        generousEnvironment =
      (resolvePackage generousEnvironment spec.source spec.localPath).2 ++
        (executePackage generousEnvironment
          (resolvePackage generousEnvironment spec.source spec.localPath).1 spec.kind
          spec.arguments).2 ++ [.record provenance] := by
  have hevaluated : (if spec.source ≠ [] then spec.source else spec.localPath) =
      (Request.package spec).evaluated := rfl
  have hfound : (decide ((resolvePackage generousEnvironment spec.source spec.localPath).1 = []) ||
      !generousEnvironment.fileExists
        (cString (resolvePackage generousEnvironment spec.source spec.localPath).1)) = false := by
    rw [decide_eq_false hpath]
    rfl
  show ∃ provenance, (installPackage _ _ _).1 = _
  unfold installPackage
  rw [hallow, hevaluated]
  dsimp only
  rw [evaluate_letThrough, if_neg Bool.false_ne_true, hfound, if_neg Bool.false_ne_true]
  exact ⟨_, rfl⟩

/-- Of a text that is not empty: where it leads on a generous machine. -/
theorem resolvePackage_generous (hne : source ≠ []) :
    (isRemoteSource source = true → ∃ destination,
        resolvePackage generousEnvironment source [] =
          (destination, [.download (cString source) (cString destination)]) ∧ destination ≠ []) ∧
      (isRemoteSource source = false →
        resolvePackage generousEnvironment source [] = (source, [])) := by
  unfold resolvePackage
  rw [if_neg (not_not_intro rfl), if_neg hne]
  refine ⟨fun hremote => ?_, fun hlocal => ?_⟩
  · rw [hremote]
    refine ⟨_, rfl, fun hempty => ?_⟩
    have hdownloads : generousEnvironment.downloads (cString source) = true := rfl
    rw [if_pos hdownloads] at hempty
    simp at hempty
  · rw [hlocal]
    rfl

theorem package_readAlike {spec : InstallerPackageSpec}
    (hallow : spec.allowUntrustedExecution = false)
    (h : ∀ trustedRemoteHosts env, Sound trustedRemoteHosts (Request.package spec).evaluated
      ((Request.package spec).effects trustedRemoteHosts env)) : ReadAlike (.package spec) := by
  have hsound := h (letThrough (Request.package spec).evaluated) generousEnvironment
  rw [ReadAlike]
  by_cases hlocal : spec.localPath = []
  · rw [if_neg (not_not_intro hlocal)]
    intro hneeded
    by_cases hnil : spec.source = []
    · rw [hnil]
      exact ⟨List.not_mem_nil, rfl⟩
    obtain ⟨hremote, hfile⟩ := resolvePackage_generous hnil
    have hevaluated := evaluated_of_localPath_eq_nil hlocal
    refine fetchedAlike_of_sound
      ((Request.package spec).effects (letThrough spec.source) generousEnvironment)
      (fun hisRemote => ?_) fun hisLocal => ?_
    · obtain ⟨destination, hresolved, hne⟩ := hremote hisRemote
      obtain ⟨provenance, heffects⟩ := installPackage_generous hallow (by
        rw [hlocal, hresolved]
        exact hne)
      rw [hevaluated] at hsound heffects
      refine ⟨cString destination, hsound _ ?_⟩
      rw [heffects, hlocal, hresolved]
      exact List.mem_cons_self
    · have hruns := hneeded.resolve_left (by rw [hisLocal]; exact Bool.false_ne_true)
      have hresolved := hfile hisLocal
      obtain ⟨provenance, heffects⟩ := installPackage_generous hallow (by
        rw [hlocal, hresolved]
        exact hnil)
      rw [hevaluated] at hsound heffects
      rw [heffects, hlocal, hresolved, executePackage_generous _ _ hruns] at hsound
      rcases hsound (.execute spec.kind (cString spec.source) spec.arguments)
        List.mem_cons_self with hpayload | ⟨url, hdownload⟩
      · exact ⟨hpayload.1, hpayload.2⟩
      · simp at hdownload
  · rw [if_pos hlocal]
    intro hruns
    have hresolved : resolvePackage generousEnvironment spec.source spec.localPath =
        (spec.localPath, []) := if_pos hlocal
    obtain ⟨provenance, heffects⟩ := installPackage_generous hallow (by rwa [hresolved])
    rw [heffects, hresolved, executePackage_generous _ _ hruns] at hsound
    rcases hsound (.execute spec.kind (cString spec.localPath) spec.arguments)
      List.mem_cons_self with hpayload | ⟨url, hdownload⟩
    · obtain ⟨hpath, horigin⟩ := hpayload
      rw [hpath] at horigin ⊢
      exact ⟨rfl, pathOrigin_of_trusted horigin⟩
    · simp at hdownload

/-- What a bundle does on a generous machine: it is fetched and extracted. -/
theorem installFromZipBundle_generous {spec : ZipBundleSpec}
    (hallow : spec.allowUntrustedExecution = false)
    (hpath : (resolvePackage generousEnvironment spec.source []).1 ≠ []) :
    ∃ directory, (installFromZipBundle (letThrough spec.source) generousEnvironment spec).1 =
      (resolvePackage generousEnvironment spec.source []).2 ++
        [.extract (cString (resolvePackage generousEnvironment spec.source []).1) directory] := by
  have hfound : (decide ((resolvePackage generousEnvironment spec.source []).1 = []) ||
      !generousEnvironment.fileExists
        (cString (resolvePackage generousEnvironment spec.source []).1)) = false := by
    rw [decide_eq_false hpath]
    rfl
  unfold installFromZipBundle
  rw [hallow]
  dsimp only
  rw [evaluate_letThrough, if_neg Bool.false_ne_true, hfound, if_neg Bool.false_ne_true]
  exact ⟨_, List.append_nil _⟩

theorem zip_readAlike {spec : ZipBundleSpec} (hallow : spec.allowUntrustedExecution = false)
    (h : ∀ trustedRemoteHosts env, Sound trustedRemoteHosts spec.source
      (installFromZipBundle trustedRemoteHosts env spec).1) : FetchedAlike spec.source := by
  by_cases hnil : spec.source = []
  · rw [hnil]
    exact ⟨List.not_mem_nil, rfl⟩
  have hsound := h (letThrough spec.source) generousEnvironment
  obtain ⟨hremote, hfile⟩ := resolvePackage_generous hnil
  refine fetchedAlike_of_sound
    (installFromZipBundle (letThrough spec.source) generousEnvironment spec).1
    (fun hisRemote => ?_) fun hisLocal => ?_
  · obtain ⟨destination, hresolved, hne⟩ := hremote hisRemote
    obtain ⟨directory, heffects⟩ := installFromZipBundle_generous hallow (by rwa [hresolved])
    refine ⟨cString destination, hsound _ ?_⟩
    rw [heffects, hresolved]
    exact List.mem_cons_self
  · have hresolved := hfile hisLocal
    obtain ⟨directory, heffects⟩ := installFromZipBundle_generous hallow (by rwa [hresolved])
    rw [heffects, hresolved] at hsound
    rcases hsound (.extract (cString spec.source) directory) List.mem_cons_self with
      hpayload | ⟨url, hdownload⟩
    · exact ⟨hpayload.1, hpayload.2⟩
    · simp at hdownload

theorem repository_readAlike {spec : BootstrapRepoSpec}
    (hallow : spec.allowUntrustedExecution = false) (hpassable : Passable spec)
    (h : ∀ trustedRemoteHosts env, Sound trustedRemoteHosts spec.repositoryUrl
      (installFromRepository trustedRemoteHosts env spec).1) : ReadAlike (.repository spec) := by
  have hsound := h (letThrough spec.repositoryUrl) generousEnvironment
  unfold installFromRepository at hsound
  rw [hallow] at hsound
  dsimp only at hsound
  rw [evaluate_letThrough, if_neg Bool.false_ne_true] at hsound
  obtain ⟨hrepository, horigin⟩ :=
    hsound (.clone (cString (cloneCommand generousEnvironment spec))) List.mem_cons_self
  rw [repositoryOf_cloneCommand hpassable] at hrepository
  refine ⟨hpassable, fun hdash => ?_, ?_⟩
  · rw [if_pos hdash] at hrepository
    cases hrepository
  · cases hremote : isRemoteSource spec.repositoryUrl with
    | true =>
      rw [letThrough, if_pos hremote] at horigin
      rw [if_pos rfl]
      exact hostRead_of_trusted hremote horigin
    | false =>
      rw [letThrough, hremote, if_neg Bool.false_ne_true] at horigin
      rw [if_neg Bool.false_ne_true]
      exact local_of_trusted_nil horigin

end Necessity

/-! ## The gate -/

/-- A remote text whose host is not trusted does nothing to the machine. -/
theorem effects_of_untrusted {r : Request} (hallow : r.allowUntrustedExecution = false)
    {trustedRemoteHosts : List Bytes} (hremote : isRemoteSource r.evaluated = true)
    (hhost : extractHostFromUrl r.evaluated ∉ trustedRemoteHosts) (env : Environment) :
    r.effects trustedRemoteHosts env = [] := by
  have hblocked :
      (evaluate trustedRemoteHosts r.evaluated false).requiresExplicitApproval = true := by
    rw [← Bool.not_eq_false, evaluate_passes_iff]
    exact fun h => hhost (h hremote)
  cases r with
  | package spec =>
    have hevaluated : (if spec.source ≠ [] then spec.source else spec.localPath) =
        (Request.package spec).evaluated := rfl
    show (installPackage _ _ _).1 = []
    unfold installPackage
    rw [show spec.allowUntrustedExecution = false from hallow, hevaluated]
    dsimp only
    rw [hblocked, if_pos rfl]
  | repository spec =>
    show (installFromRepository _ _ _).1 = []
    unfold installFromRepository
    rw [show spec.allowUntrustedExecution = false from hallow]
    dsimp only
    rw [show (evaluate trustedRemoteHosts spec.repositoryUrl false).requiresExplicitApproval = true
      from hblocked, if_pos rfl]
  | zip spec =>
    show (installFromZipBundle _ _ _).1 = []
    unfold installFromZipBundle
    rw [show spec.allowUntrustedExecution = false from hallow]
    dsimp only
    rw [show (evaluate trustedRemoteHosts spec.source false).requiresExplicitApproval = true
      from hblocked, if_pos rfl]

/-- A package from a trusted host. -/
def plainDownload : InstallerPackageSpec where
  source := asciiBytes "https://downloads.example/setup.exe"

/-- A package from another host, behind user information that looks like the trusted one. -/
def disguisedDownload : InstallerPackageSpec where
  source := asciiBytes "http://downloads.example:x@evil.example/setup.exe"

end Packages
end MasterControl
