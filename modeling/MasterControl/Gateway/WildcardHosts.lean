import MasterControl.Foundation.ByteText
import MasterControl.Foundation.Rewriting
import Mathlib.Data.List.Basic
import Mathlib.Data.List.Infix

/-!
# Wildcard hosts in published addresses

A gateway that listens on every interface would publish an address such as
`http://0.0.0.0:8080/mcp`, which no other machine can use.  `substituteWildcardHostInUrl` puts
the address of this machine in the place of the three forms `0.0.0.0`, `[::]` and `[::0]`: once
where `://` and the form and a colon stand, then wherever `http://` and the form stand, from the
start again after every replacement.

Which host is put in is read from two settings that are stored as they come.  A host that holds a
form again makes the loop endless, and the end of a host may make up a form that was already gone
together with what stands behind it.  `SafeHost` is that neither can happen, and it is exactly when
every text comes back without a wildcard (`substitutes_iff_safelyBound`).
-/

namespace MasterControl
namespace Gateway

open Foundation

/-! ## The substitution -/

/-- The two settings that are read, of the configuration and of its active profile. -/
structure BindSettings where
  bindAddress : Bytes
  preferredBindAddress : Bytes

def anyIpv4 : Bytes := asciiBytes "0.0.0.0"
def anyIpv6 : Bytes := asciiBytes "[::]"
def anyIpv6Zero : Bytes := asciiBytes "[::0]"

def wildcardForms : List Bytes := [anyIpv4, anyIpv6, anyIpv6Zero]

def lanIp (configuration : BindSettings) : Bytes :=
  let bindAddress := configuration.bindAddress
  let preferred := configuration.preferredBindAddress
  let bound :=
    if bindAddress ≠ [] ∧ bindAddress ≠ anyIpv4 ∧ bindAddress ≠ asciiBytes "::" ∧
        bindAddress ≠ anyIpv6 then bindAddress
    else []
  let chosen :=
    if (bound = [] ∨ bound = anyIpv4) ∧ preferred ≠ [] ∧ preferred ≠ anyIpv4 then preferred
    else bound
  if chosen = [] ∨ chosen = anyIpv4 then asciiBytes "127.0.0.1" else chosen

def http : Bytes := asciiBytes "http"
def schemeMark : Bytes := asciiBytes "://"
def portMark : Bytes := asciiBytes ":"
def slashByte : Bytes := asciiBytes "/"

/-- `http://` and a host, as it stands in a text for people. -/
def narrative (host : Bytes) : Bytes := http ++ schemeMark ++ host

/-- A host in an address of any scheme, with a port behind it. -/
def asUrlPattern (host : Bytes) : Bytes := schemeMark ++ host ++ portMark

/-- One form: once as part of an address, then wherever it is left; `none` when the rounds run
out. -/
def substituteForm (host : Bytes) (rounds : ℕ) (out form : Bytes) : Option Bytes :=
  replaceEach (narrative form) (narrative host) rounds
    (replaceFirst (asUrlPattern form) (asUrlPattern host) out)

def substituteWildcardHostInUrl (rounds : ℕ) (raw : Bytes) (configuration : BindSettings) :
    Option Bytes :=
  if raw = [] then some raw
  else wildcardForms.foldlM (substituteForm (lanIp configuration) rounds) raw

/-- The call ends, with this text. -/
def Returns (raw : Bytes) (configuration : BindSettings) (result : Bytes) : Prop :=
  ∃ rounds, substituteWildcardHostInUrl rounds raw configuration = some result

/-- No form follows `http://` and is followed by the end, a colon or a slash. -/
def WildcardFree (result : Bytes) : Prop :=
  ∀ form ∈ wildcardForms, ¬ narrative form <:+ result ∧ ¬ narrative form ++ portMark <:+: result ∧
    ¬ narrative form ++ slashByte <:+: result

/-! ## Hosts that do no harm -/

/-- The host holds no form behind `http://`, and it does not end, behind `http://`, as the text
starts whose absence the later rounds take for granted. -/
structure SafeHost (host : Bytes) : Prop where
  holdsNone : ∀ form ∈ wildcardForms, ¬ narrative form <:+: narrative host
  completesNone : ∀ form ∈ [anyIpv4, anyIpv6], ∀ start rest,
    narrative form = start ++ rest → start ≠ [] → rest ≠ [] → ¬ start <:+ narrative host

/-- The setting that is put in is a safe one.  The bind address is put in unless it is empty or
one of three wildcards, then the preferred one unless it is empty or `0.0.0.0`. -/
def SafelyBound (configuration : BindSettings) : Prop :=
  (configuration.bindAddress ∉ [[], anyIpv4, asciiBytes "::", anyIpv6] →
    SafeHost configuration.bindAddress) ∧
  (configuration.bindAddress ∈ [[], anyIpv4, asciiBytes "::", anyIpv6] →
    configuration.preferredBindAddress ∉ [[], anyIpv4] →
    SafeHost configuration.preferredBindAddress)

/-- What is seen of the three texts by looking at them. -/
structure WildcardFacts : Type where
  loopback : ∀ form ∈ wildcardForms,
    ¬ narrative form <:+: narrative (asciiBytes "127.0.0.1")
  loopbackEnd : ∀ form ∈ [anyIpv4, anyIpv6], ∀ start ∈ (narrative form).inits,
    start ≠ [] → ¬ start <:+ narrative (asciiBytes "127.0.0.1")
  head : ∀ form ∈ wildcardForms, (104 : UInt8) ∉ asciiBytes "ttp://" ++ form
  schemeEnd : ∀ form ∈ [anyIpv4, anyIpv6], ∀ start ∈ (narrative form).inits, start ≠ [] →
    start <:+ schemeMark ∨ schemeMark <:+ start → start = http ++ schemeMark
  bare : ∀ form ∈ wildcardForms, narrative form ≠ [] ∧ ∀ other ∈ wildcardForms,
    ¬ asUrlPattern other <:+: narrative form ∧
      (other ≠ form → ¬ narrative other <:+: narrative form)
  behindZero : ∀ form ∈ [anyIpv4, anyIpv6], ∀ rest ∈ (narrative form).tails,
    rest ≠ [] → rest ≠ narrative form →
    (∀ other ∈ [anyIpv4, anyIpv6], ¬ asUrlPattern other <:+: narrative anyIpv6Zero ++ rest ∧
      ¬ narrative other <:+: narrative anyIpv6Zero ++ rest) ∧
    ¬ narrative anyIpv6Zero <:+: rest ∧
    (cut (asUrlPattern anyIpv6Zero) (narrative anyIpv6Zero ++ rest) = none ∨
      rest = portMark ++ rest.tail ∧
      cut (asUrlPattern anyIpv6Zero) (narrative anyIpv6Zero ++ rest) = some (http, rest.tail))
  zeroStart : ∀ form ∈ [anyIpv4, anyIpv6], ¬ narrative anyIpv6Zero <+: narrative form

def wildcardFacts : WildcardFacts := by
  constructor <;> decide +kernel

theorem safeHost_loopback : SafeHost (asciiBytes "127.0.0.1") := by
  constructor
  · exact wildcardFacts.loopback
  · intro form hform start rest hsplit hstart _ hends
    have hmem : start ∈ (narrative form).inits := (List.mem_inits _ _).mpr ⟨rest, hsplit.symm⟩
    exact wildcardFacts.loopbackEnd form hform start hmem hstart hends

theorem safelyBound_iff (configuration : BindSettings) :
    SafelyBound configuration ↔ SafeHost (lanIp configuration) := by
  obtain ⟨bindAddress, preferred⟩ := configuration
  simp only [SafelyBound, lanIp]
  by_cases hbind : bindAddress ∈ [[], anyIpv4, asciiBytes "::", anyIpv6]
  · simp only [hbind, not_true_eq_false, false_imp_iff, true_and, true_imp_iff]
    have hunset : ¬ (bindAddress ≠ [] ∧ bindAddress ≠ anyIpv4 ∧ bindAddress ≠ asciiBytes "::" ∧
        bindAddress ≠ anyIpv6) := by
      simpa only [List.mem_cons, List.not_mem_nil, or_false, ← not_or, not_not] using hbind
    rw [if_neg hunset]
    by_cases hpreferred : preferred ∈ [[], anyIpv4]
    · rw [List.mem_pair] at hpreferred
      have hkept : ¬ (preferred ≠ [] ∧ preferred ≠ anyIpv4) := by
        rwa [← not_or, not_not]
      rw [List.mem_pair, if_neg (not_and_of_not_right _ hkept), if_pos (Or.inl rfl)]
      exact iff_of_true (fun hne => absurd hpreferred hne) safeHost_loopback
    · rw [List.mem_pair] at hpreferred
      have htaken : ((([] : Bytes) = [] ∨ ([] : Bytes) = anyIpv4) ∧ preferred ≠ [] ∧
          preferred ≠ anyIpv4) := ⟨Or.inl rfl, not_or.mp hpreferred⟩
      rw [List.mem_pair, if_pos htaken, if_neg hpreferred]
      exact ⟨fun h => h hpreferred, fun h _ => h⟩
  · simp only [hbind, not_false_eq_true, true_imp_iff, false_imp_iff, and_true]
    have hset : bindAddress ≠ [] ∧ bindAddress ≠ anyIpv4 ∧ bindAddress ≠ asciiBytes "::" ∧
        bindAddress ≠ anyIpv6 := by
      simpa only [List.mem_cons, List.not_mem_nil, or_false, not_or] using hbind
    have hchosen : ¬ (bindAddress = [] ∨ bindAddress = anyIpv4) := by
      rw [not_or]
      exact ⟨hset.1, hset.2.1⟩
    rw [if_pos hset, if_neg (not_and_of_not_left _ hchosen), if_neg hchosen]

/-! ## What a safe host keeps away -/

variable {host form other a b s : Bytes}

theorem mem_wildcardForms (hform : form ∈ [anyIpv4, anyIpv6]) : form ∈ wildcardForms := by
  rw [List.mem_pair] at hform
  rw [wildcardForms, List.mem_cons, List.mem_cons]
  exact hform.imp_right Or.inl

theorem narrative_eq_cons (host : Bytes) : narrative host = 104 :: (asciiBytes "ttp://" ++ host) :=
  rfl

/-- The first letter of a wildcard address stands nowhere else in it. -/
theorem head_not_mem (form : Bytes) (hform : form ∈ wildcardForms) :
    (104 : UInt8) ∉ asciiBytes "ttp://" ++ form :=
  wildcardFacts.head form hform

/-- So every start of one has it only at the front. -/
theorem exists_start_eq_cons {start rest : Bytes} (hform : form ∈ wildcardForms)
    (hsplit : narrative form = start ++ rest) (hstart : start ≠ []) :
    ∃ t, start = 104 :: t ∧ (104 : UInt8) ∉ t := by
  obtain ⟨x, t, rfl⟩ := List.exists_cons_of_ne_nil hstart
  rw [narrative_eq_cons, List.cons_append] at hsplit
  obtain ⟨rfl, htail⟩ := List.cons.inj hsplit
  refine ⟨t, rfl, fun hin => head_not_mem form hform ?_⟩
  rw [htail]
  exact List.mem_append_left rest hin

/-- A form that is absent stays absent behind a safe host. -/
theorem not_infix_narrative_append (h : SafeHost host) (hform : form ∈ [anyIpv4, anyIpv6])
    (hb : ¬ narrative form <:+: b) : ¬ narrative form <:+: narrative host ++ b := by
  intro hoccurs
  rcases infix_append_iff.mp hoccurs with hin | hin | ⟨start, rest, hsplit, hstart, hrest, hends, -⟩
  · exact h.holdsNone form (mem_wildcardForms hform) hin
  · exact hb hin
  · exact h.completesNone form hform start rest hsplit hstart hrest hends

/-- What ends where `://` ends and starts a wildcard address is `http://`. -/
theorem eq_of_ends_schemeMark {start rest : Bytes} (hform : form ∈ [anyIpv4, anyIpv6])
    (hsplit : narrative form = start ++ rest) (hstart : start ≠ [])
    (hends : start <:+ a ++ schemeMark) : start = http ++ schemeMark := by
  refine wildcardFacts.schemeEnd form hform start ((List.mem_inits _ _).mpr ⟨rest, hsplit.symm⟩) hstart ?_
  exact List.suffix_or_suffix_of_suffix hends (List.suffix_append a schemeMark)

/-- **A safe host in the place of any host brings no form back.** -/
theorem not_infix_place (h : SafeHost host) (hform : form ∈ [anyIpv4, anyIpv6])
    (hs : ¬ narrative form <:+: a ++ schemeMark ++ (other ++ b)) :
    ¬ narrative form <:+: a ++ schemeMark ++ (host ++ b) := by
  have hb : ¬ narrative form <:+: b := fun hin =>
    hs (hin.trans ((List.suffix_append other b).isInfix.trans (List.suffix_append _ _).isInfix))
  have hhost : ¬ narrative form <:+: narrative host ++ b := not_infix_narrative_append h hform hb
  have happend : narrative host ++ b = http ++ schemeMark ++ (host ++ b) := by
    rw [narrative, List.append_assoc]
  intro hoccurs
  rcases infix_append_iff.mp hoccurs with
      hin | hin | ⟨start, rest, hsplit, hstart, -, hends, hstarts⟩
  · exact hs (hin.trans (List.prefix_append _ _).isInfix)
  · refine hhost (hin.trans ?_)
    rw [happend]
    exact (List.suffix_append _ _).isInfix
  · -- only `http://` can stand in front of the seam
    refine hhost (List.IsPrefix.isInfix ?_)
    rw [hsplit, eq_of_ends_schemeMark hform hsplit hstart hends, happend]
    exact (List.prefix_append_right_inj _).mpr hstarts

/-- One form done, the other ones are not back. -/
theorem not_infix_substituteForm (h : SafeHost host) (hform : form ∈ [anyIpv4, anyIpv6])
    {rounds : ℕ} {result : Bytes} (hs : ¬ narrative form <:+: s)
    (hresult : substituteForm host rounds s other = some result) :
    ¬ narrative form <:+: result := by
  refine replaceEach_induction (motive := fun out => ¬ narrative form <:+: out) ?_ ?_ hresult
  · intro a b hab
    have hplace : ¬ narrative form <:+: a ++ http ++ schemeMark ++ (other ++ b) →
        ¬ narrative form <:+: a ++ http ++ schemeMark ++ (host ++ b) := not_infix_place h hform
    simp only [narrative, List.append_assoc] at hplace hab ⊢
    exact hplace hab
  · refine replaceFirst_induction (motive := fun out => ¬ narrative form <:+: out) hs ?_
    intro a b hab
    have hplace : ¬ narrative form <:+: a ++ schemeMark ++ (other ++ (portMark ++ b)) →
        ¬ narrative form <:+: a ++ schemeMark ++ (host ++ (portMark ++ b)) :=
      not_infix_place h hform
    rw [hab] at hs
    simp only [asUrlPattern, List.append_assoc] at hplace hs ⊢
    exact hplace hs

/-- A form that is done is gone. -/
theorem not_infix_of_substituteForm {rounds : ℕ} {result : Bytes}
    (hresult : substituteForm host rounds s form = some result) : ¬ narrative form <:+: result :=
  not_infix_of_replaceEach hresult

/-- A safe host gets every form done. -/
theorem exists_substituteForm (h : SafeHost host) (hform : form ∈ wildcardForms) (s : Bytes) :
    ∃ rounds result, substituteForm host rounds s form = some result := by
  have hholds := h.holdsNone form hform
  simp only [substituteForm, narrative_eq_cons] at hholds ⊢
  exact exists_replaceEach (head_not_mem form hform) hholds _

theorem substituteForm_of_le {rounds more : ℕ} {result : Bytes} (hle : rounds ≤ more)
    (h : substituteForm host rounds s form = some result) :
    substituteForm host more s form = some result :=
  replaceEach_of_le hle h

/-! ## Every text comes back clean -/

theorem substituteWildcardHostInUrl_of_le {raw result : Bytes} {configuration : BindSettings}
    {rounds more : ℕ} (hle : rounds ≤ more)
    (h : substituteWildcardHostInUrl rounds raw configuration = some result) :
    substituteWildcardHostInUrl more raw configuration = some result := by
  rw [substituteWildcardHostInUrl] at h ⊢
  by_cases hraw : raw = []
  · rwa [if_pos hraw] at h ⊢
  · rw [if_neg hraw] at h ⊢
    simp only [wildcardForms, List.foldlM_cons, List.foldlM_nil, Option.bind_eq_bind,
      Option.bind_eq_some_iff] at h ⊢
    obtain ⟨first, hfirst, second, hsecond, third, hthird, hlast⟩ := h
    exact ⟨first, substituteForm_of_le hle hfirst, second, substituteForm_of_le hle hsecond,
      third, substituteForm_of_le hle hthird, hlast⟩

/-- A call returns one text at most. -/
theorem Returns.unique {raw result result' : Bytes} {configuration : BindSettings}
    (h : Returns raw configuration result) (h' : Returns raw configuration result') :
    result = result' := by
  obtain ⟨rounds, h⟩ := h
  obtain ⟨rounds', h'⟩ := h'
  have hmax := substituteWildcardHostInUrl_of_le (Nat.le_max_left rounds rounds') h
  rw [substituteWildcardHostInUrl_of_le (Nat.le_max_right rounds rounds') h'] at hmax
  exact (Option.some.inj hmax).symm

/-- No wildcard address at all is more than none in front of the end, a colon or a slash. -/
theorem wildcardFree_of_absent {result : Bytes}
    (h : ∀ form ∈ wildcardForms, ¬ narrative form <:+: result) : WildcardFree result := by
  intro form hform
  have hnone := h form hform
  exact ⟨fun hin => hnone hin.isInfix,
    fun hin => hnone ((List.prefix_append _ portMark).isInfix.trans hin),
    fun hin => hnone ((List.prefix_append _ slashByte).isInfix.trans hin)⟩

/-- With a safe host every call ends, and no wildcard address is left. -/
theorem exists_returns_of_safeHost {configuration : BindSettings}
    (h : SafeHost (lanIp configuration)) (raw : Bytes) :
    ∃ result, Returns raw configuration result ∧ WildcardFree result := by
  by_cases hraw : raw = []
  · subst hraw
    exact ⟨[], ⟨0, if_pos rfl⟩, by unfold WildcardFree; decide +kernel⟩
  · have hfour : anyIpv4 ∈ [anyIpv4, anyIpv6] := List.mem_cons_self
    have hsix : anyIpv6 ∈ [anyIpv4, anyIpv6] := List.mem_cons_of_mem _ List.mem_cons_self
    have hmem : ∀ form ∈ [anyIpv4, anyIpv6, anyIpv6Zero], form ∈ wildcardForms := fun _ => id
    simp only [List.forall_mem_cons] at hmem
    obtain ⟨rounds₁, first, hfirst⟩ := exists_substituteForm h hmem.1 raw
    obtain ⟨rounds₂, second, hsecond⟩ := exists_substituteForm h hmem.2.1 first
    obtain ⟨rounds₃, third, hthird⟩ := exists_substituteForm h hmem.2.2.1 second
    have hfour₂ := not_infix_substituteForm h hfour (not_infix_of_substituteForm hfirst) hsecond
    have hfour₃ := not_infix_substituteForm h hfour hfour₂ hthird
    have hsix₃ := not_infix_substituteForm h hsix (not_infix_of_substituteForm hsecond) hthird
    refine ⟨third, ⟨max rounds₁ (max rounds₂ rounds₃), ?_⟩, wildcardFree_of_absent ?_⟩
    · rw [substituteWildcardHostInUrl, if_neg hraw]
      simp only [wildcardForms, List.foldlM_cons, List.foldlM_nil, Option.bind_eq_bind,
        Option.bind_eq_some_iff]
      refine ⟨first, substituteForm_of_le (Nat.le_max_left _ _) hfirst, second,
        substituteForm_of_le ?_ hsecond, third, substituteForm_of_le ?_ hthird, rfl⟩
      · exact (Nat.le_max_left _ _).trans (Nat.le_max_right _ _)
      · exact (Nat.le_max_right _ _).trans (Nat.le_max_right _ _)
    · rw [wildcardForms]
      simp only [List.forall_mem_cons]
      exact ⟨hfour₃, hsix₃, not_infix_of_substituteForm hthird, nofun⟩

/-! ## What goes wrong otherwise -/

theorem substituteForm_eq_self (hurl : ¬ asUrlPattern form <:+: s)
    (hnarrative : ¬ narrative form <:+: s) (rounds : ℕ) :
    substituteForm host (rounds + 1) s form = some s := by
  rw [substituteForm, replaceFirst_of_absent hurl]
  exact replaceEach_of_absent hnarrative rounds

/-- A host that holds a form never gets a text done that holds it as well. -/
theorem substituteForm_eq_none (hhost : narrative form <:+: narrative host)
    (hurl : ¬ asUrlPattern form <:+: s) (hs : narrative form <:+: s) (rounds : ℕ) :
    substituteForm host rounds s form = none := by
  rw [substituteForm, replaceFirst_of_absent hurl]
  exact replaceEach_eq_none hhost rounds hs

/-- The bare address of a form holds no other one, and no port. -/
theorem bare_address (form : Bytes) (hform : form ∈ wildcardForms) :
    narrative form ≠ [] ∧ ∀ other ∈ wildcardForms, ¬ asUrlPattern other <:+: narrative form ∧
      (other ≠ form → ¬ narrative other <:+: narrative form) :=
  wildcardFacts.bare form hform

/-- The round of the form that the host holds comes, and does not end. -/
theorem foldlM_substituteForm_eq_none (hform : form ∈ wildcardForms)
    (hhost : narrative form <:+: narrative host) (rounds : ℕ) {forms : List Bytes}
    (hforms : ∀ other ∈ forms, other ∈ wildcardForms) (hin : form ∈ forms) :
    forms.foldlM (substituteForm host rounds) (narrative form) = none := by
  induction forms with
  | nil => cases hin
  | cons other forms ih =>
    rw [List.forall_mem_cons] at hforms
    rw [List.foldlM_cons, Option.bind_eq_bind]
    obtain ⟨hurl, hnarrative⟩ := (bare_address form hform).2 other hforms.1
    by_cases hother : other = form
    · subst hother
      rw [substituteForm_eq_none hhost hurl List.infix_rfl rounds, Option.bind_none]
    · cases rounds with
      | zero => rfl
      | succ rounds =>
        rw [substituteForm_eq_self hurl (hnarrative hother) rounds, Option.bind_some]
        exact ih hforms.2 ((List.mem_cons.mp hin).resolve_left (Ne.symm hother))

/-- The bare address of the form that the host holds is never finished. -/
theorem not_returns_of_holds {configuration : BindSettings} (hform : form ∈ wildcardForms)
    (hhost : narrative form <:+: narrative (lanIp configuration)) (result : Bytes) :
    ¬ Returns (narrative form) configuration result := by
  rintro ⟨rounds, h⟩
  rw [substituteWildcardHostInUrl, if_neg (bare_address form hform).1,
    foldlM_substituteForm_eq_none hform hhost rounds (fun _ => id) hform] at h
  cases h

/-! ## A form made up at the end of a host -/

/-- What is left of a wildcard address, behind the third form, is not touched by the first two
rounds, and holds the third form nowhere else. -/
theorem rest_behind_zero {start rest : Bytes} (hform : form ∈ [anyIpv4, anyIpv6])
    (hsplit : narrative form = start ++ rest) (hstart : start ≠ []) (hrest : rest ≠ []) :
    (∀ other ∈ [anyIpv4, anyIpv6], ¬ asUrlPattern other <:+: narrative anyIpv6Zero ++ rest ∧
      ¬ narrative other <:+: narrative anyIpv6Zero ++ rest) ∧
    ¬ narrative anyIpv6Zero <:+: rest ∧
    (cut (asUrlPattern anyIpv6Zero) (narrative anyIpv6Zero ++ rest) = none ∨
      ∃ after, rest = portMark ++ after ∧
        cut (asUrlPattern anyIpv6Zero) (narrative anyIpv6Zero ++ rest) = some (http, after)) := by
  have hmem : rest ∈ (narrative form).tails := (List.mem_tails _ _).mpr ⟨start, hsplit.symm⟩
  have hproper : rest ≠ narrative form := by
    intro heq
    rw [← heq] at hsplit
    exact hstart (List.self_eq_append_left.mp hsplit)
  obtain ⟨hothers, hzero, hcut⟩ := wildcardFacts.behindZero form hform rest hmem hrest hproper
  exact ⟨hothers, hzero, hcut.imp_right fun h => ⟨rest.tail, h⟩⟩

/-- What is done with the third form, if what is left then does not hold it. -/
theorem substituteForm_zero {rest result : Bytes} {rounds : ℕ}
    (hnone : ¬ narrative anyIpv6Zero <:+: narrative host ++ rest)
    (hcut : cut (asUrlPattern anyIpv6Zero) (narrative anyIpv6Zero ++ rest) = none ∨
      ∃ after, rest = portMark ++ after ∧
        cut (asUrlPattern anyIpv6Zero) (narrative anyIpv6Zero ++ rest) = some (http, after))
    (h : substituteForm host rounds (narrative anyIpv6Zero ++ rest) anyIpv6Zero = some result) :
    result = narrative host ++ rest := by
  have hdone : ∀ rounds, replaceEach (narrative anyIpv6Zero) (narrative host) rounds
      (narrative host ++ rest) = some result → result = narrative host ++ rest := by
    intro rounds h
    cases rounds with
    | zero => cases h
    | succ rounds =>
      rw [replaceEach_of_absent hnone rounds] at h
      exact (Option.some.inj h).symm
  rw [substituteForm, replaceFirst] at h
  rcases hcut with hcut | ⟨after, hrest, hcut⟩
  · rw [hcut] at h
    cases rounds with
    | zero => cases h
    | succ rounds =>
      rw [replaceEach, cut_front] at h
      exact hdone rounds h
  · -- the port stands behind, and the form is gone after the first replacement already
    rw [hcut] at h
    have hurl : http ++ asUrlPattern host ++ after = narrative host ++ rest := by
      simp only [hrest, asUrlPattern, narrative, List.append_assoc]
    refine hdone rounds ?_
    rw [← hurl]
    exact h

/-- The third form is no start of the other two. -/
theorem zero_not_start (form : Bytes) (hform : form ∈ [anyIpv4, anyIpv6]) :
    ¬ narrative anyIpv6Zero <+: narrative form :=
  wildcardFacts.zeroStart form hform

/-- A host that ends as a form starts makes that form up, behind the third form and what is
missing. -/
theorem not_wildcardFree_of_completes {configuration : BindSettings} {start rest result : Bytes}
    (hholds : ¬ narrative anyIpv6Zero <:+: narrative (lanIp configuration))
    (hform : form ∈ [anyIpv4, anyIpv6]) (hsplit : narrative form = start ++ rest)
    (hstart : start ≠ []) (hrest : rest ≠ []) (hends : start <:+ narrative (lanIp configuration))
    (h : Returns (narrative anyIpv6Zero ++ rest) configuration result) :
    ¬ WildcardFree result := by
  obtain ⟨rounds, h⟩ := h
  obtain ⟨hothers, hzero, hcut⟩ := rest_behind_zero hform hsplit hstart hrest
  have hraw : narrative anyIpv6Zero ++ rest ≠ [] := List.append_ne_nil_of_right_ne_nil _ hrest
  have hnone : ¬ narrative anyIpv6Zero <:+: narrative (lanIp configuration) ++ rest := by
    intro hin
    rcases infix_append_iff.mp hin with
      hin | hin | ⟨start', rest', hsplit', hstart', -, hends', hstarts⟩
    · exact hholds hin
    · exact hzero hin
    · -- it would have to start at the same place
      obtain ⟨t, rfl, ht⟩ := exists_start_eq_cons (mem_wildcardForms hform) hsplit hstart
      obtain ⟨t', rfl, ht'⟩ := exists_start_eq_cons (by decide) hsplit' hstart'
      obtain rfl := eq_of_suffix_of_head ht ht' hends hends'
      refine zero_not_start form hform ?_
      rw [hsplit, hsplit']
      exact (List.prefix_append_right_inj _).mpr hstarts
  have hresult : result = narrative (lanIp configuration) ++ rest := by
    rw [substituteWildcardHostInUrl, if_neg hraw] at h
    cases rounds with
    | zero =>
      cases h
    | succ rounds =>
      simp only [wildcardForms, List.foldlM_cons, List.foldlM_nil, Option.bind_eq_bind] at h
      obtain ⟨hurl₄, hnarrative₄⟩ := hothers anyIpv4 List.mem_cons_self
      obtain ⟨hurl₆, hnarrative₆⟩ := hothers anyIpv6 (List.mem_cons_of_mem _ List.mem_cons_self)
      rw [substituteForm_eq_self hurl₄ hnarrative₄, Option.bind_some,
        substituteForm_eq_self hurl₆ hnarrative₆, Option.bind_some] at h
      obtain ⟨third, hthird, hlast⟩ := Option.bind_eq_some_iff.mp h
      rw [← Option.some.inj hlast]
      exact substituteForm_zero hnone hcut hthird
  intro hfree
  obtain ⟨front, hfront⟩ := hends
  refine (hfree form (mem_wildcardForms hform)).1 ⟨front, ?_⟩
  rw [hsplit, hresult, ← List.append_assoc, hfront]

/-! ## Exactly the safe hosts -/

/-- **Every text comes back, without a wildcard address, if and only if the host that is put in
is a safe one.** -/
theorem substitutes_iff_safelyBound (configuration : BindSettings) :
    (∀ raw, ∃ result, Returns raw configuration result ∧ WildcardFree result) ↔
      SafelyBound configuration := by
  rw [safelyBound_iff]
  constructor
  · intro h
    have hholds : ∀ form ∈ wildcardForms,
        ¬ narrative form <:+: narrative (lanIp configuration) := by
      intro form hform hin
      obtain ⟨result, hresult, -⟩ := h (narrative form)
      exact not_returns_of_holds hform hin result hresult
    refine ⟨hholds, ?_⟩
    intro form hform start rest hsplit hstart hrest hends
    obtain ⟨result, hresult, hfree⟩ := h (narrative anyIpv6Zero ++ rest)
    exact not_wildcardFree_of_completes (hholds anyIpv6Zero (by decide)) hform hsplit hstart hrest
      hends hresult hfree
  · exact exists_returns_of_safeHost

/-- A bind address that no list of exceptions names: the address of the gateway is looked through
for ever. -/
theorem endless_for_any_address :
    ¬ ∀ raw configuration, ∃ result, Returns raw configuration result ∧ WildcardFree result := by
  intro h
  obtain ⟨result, hresult, -⟩ := h (narrative anyIpv6Zero)
    { bindAddress := anyIpv6Zero, preferredBindAddress := asciiBytes "192.168.1.20" }
  refine not_returns_of_holds (by decide) ?_ result hresult
  decide +kernel

end Gateway
end MasterControl
