import MasterControl.Configuration.Records
import Mathlib.Tactic.Common

/-!
# The resource envelope of a process

A process is started with a cap on its processor time and on its memory, which
`buildProcessResourcePolicy` computes of the shares in the configuration and of the memory of the
machine.  The share of the processor is clamped.  The share of the memory is not: it is cast to 64
bits and multiplied.

Only `ResourceAllocationService::update` checks that shares are percentages; what replaces or
patches the whole configuration takes any integer.  So the memory limit is the share of the memory
just where the share is at most 100, or the launch is denied for another reason
(`withinEnvelope_iff`).
-/

namespace MasterControl
namespace Configuration
namespace Records

open Supervisor

/-! ## The policy -/

structure ProcessResourcePolicy where
  enforce : Bool := false
  denyLaunch : Bool := false
  cpuRate : UInt32 := 0
  processMemoryLimitBytes : UInt64 := 0
  summary : String := ""
  denialMessage : String := ""
  deriving DecidableEq

def resourceEnvelopeDenialMessage (profile : ResourceAllocationProfile) (requiresNetwork : Bool) :
    Option String :=
  if profile.cpuPercent ≤ 0 then
    some "Resource policy denied launch because CPU allocation is 0%."
  else if profile.memoryPercent ≤ 0 then
    some "Resource policy denied launch because memory allocation is 0%."
  else if profile.storagePercent ≤ 0 then
    some "Resource policy denied launch because storage allocation is 0%."
  else if requiresNetwork ∧ profile.bandwidthPercent ≤ 0 then
    some ("Resource policy denied launch because bandwidth allocation is 0% for " ++
      "network-governed work.")
  else none

/-- `std::clamp`. -/
def clamp (value low high : Int32) : Int32 :=
  if value < low then low else if high < value then high else value

/-- A launch that is not to happen. -/
def deniedPolicy (denialMessage : String) : ProcessResourcePolicy :=
  { denyLaunch := true, denialMessage }

/-- The memory limit: the product of 64 bits, and a hundredth of it. -/
def memoryLimit (totalPhys : UInt64) (memoryPercent : Int32) : UInt64 :=
  totalPhys * UInt64.ofInt memoryPercent.toInt / 100

/-- `buildProcessResourcePolicy`; `totalPhys` is what `GlobalMemoryStatusEx` tells, if it does. -/
def buildProcessResourcePolicy (totalPhys : Option UInt64)
    (profile : Option ResourceAllocationProfile) (requiresNetwork : Bool) :
    ProcessResourcePolicy :=
  match profile with
  | none => {}
  | some profile =>
    match resourceEnvelopeDenialMessage profile requiresNetwork with
    | some denialMessage => deniedPolicy denialMessage
    | none =>
      let total := totalPhys.getD 0
      if total = 0 then
        deniedPolicy ("Resource policy could not determine total physical memory for process " ++
          "enforcement.")
      else
        let cpuRate := UInt32.ofInt ((clamp profile.cpuPercent 1 100).toInt * 100)
        let limit := memoryLimit total profile.memoryPercent
        if limit = 0 then
          { deniedPolicy "Resource policy computed a zero-byte memory ceiling for the process launch."
            with cpuRate }
        else
          { enforce := true
            cpuRate
            processMemoryLimitBytes := limit
            summary :=
              "CPU cap " ++ toString profile.cpuPercent ++ "%, memory cap " ++
                toString profile.memoryPercent ++ "%, storage envelope " ++
                toString profile.storagePercent ++ "%" ++
                (if requiresNetwork then
                  ", bandwidth envelope " ++ toString profile.bandwidthPercent ++ "%"
                else "") ++ "." }

/-! ## The check of the allocation service -/

def isValidPercent (value : Int32) : Bool := 0 ≤ value && value ≤ 100

/-- `ResourceAllocationService::update`. -/
def updateResourceAllocation (configuration : AppConfiguration)
    (profile : ResourceAllocationProfile) (persisted : Bool) : OperationResult × AppConfiguration :=
  if !isValidPercent profile.cpuPercent || !isValidPercent profile.memoryPercent ||
      !isValidPercent profile.bandwidthPercent || !isValidPercent profile.storagePercent then
    ({ succeeded := false, requiresConfirmation := false,
       message := "Resource allocation values must be between 0 and 100." }, configuration)
  else
    ({ succeeded := persisted, requiresConfirmation := false,
       message :=
        if persisted then "Resource allocation updated."
        else "Resource allocation could not be written to disk." },
      { configuration with resourceAllocation := profile })

/-! ## What a policy is to be -/

/-- A share that the work needs is not positive. -/
def LacksShare (profile : ResourceAllocationProfile) (requiresNetwork : Bool) : Prop :=
  profile.cpuPercent ≤ 0 ∨ profile.memoryPercent ≤ 0 ∨ profile.storagePercent ≤ 0 ∨
    (requiresNetwork = true ∧ profile.bandwidthPercent ≤ 0)

/-- The launch is denied, or its caps are the shares; and it is denied where a share is lacking. -/
structure WithinEnvelope (totalPhys : Option UInt64) (profile : ResourceAllocationProfile)
    (requiresNetwork : Bool) (policy : ProcessResourcePolicy) : Prop where
  denied : LacksShare profile requiresNetwork → policy.denyLaunch = true
  capped : policy.denyLaunch = false → ∃ total, totalPhys = some total ∧
    (100 ≤ policy.cpuRate.toNat ∧ policy.cpuRate.toNat ≤ 10000) ∧
    (1 ≤ profile.memoryPercent.toInt ∧ profile.memoryPercent.toInt ≤ 100) ∧
    (policy.processMemoryLimitBytes.toNat : Int) =
      total.toNat * profile.memoryPercent.toInt / 100 ∧
    policy.processMemoryLimitBytes ≤ total ∧
    total.toNat * profile.memoryPercent.toInt < 18446744073709551616

/-- The conditions on shares and memory under which the limit is right. -/
def LimitIsShare (totalPhys : Option UInt64) (profile : ResourceAllocationProfile)
    (requiresNetwork : Bool) : Prop :=
  profile.memoryPercent.toInt ≤ 100 ∨ LacksShare profile requiresNetwork ∨
    (totalPhys.getD 0).toNat * profile.memoryPercent.toInt % 18446744073709551616 < 100

/-! ## The arithmetic -/

section Arithmetic

variable {totalPhys : Option UInt64} {total : UInt64} {profile : ResourceAllocationProfile}
  {requiresNetwork : Bool} {percent : Int32}

theorem lacksShare_iff : LacksShare profile requiresNetwork ↔
    (resourceEnvelopeDenialMessage profile requiresNetwork).isSome = true := by
  rw [LacksShare, resourceEnvelopeDenialMessage]
  split_ifs with hcpu hmemory hstorage hbandwidth
  · exact iff_of_true (.inl hcpu) rfl
  · exact iff_of_true (.inr (.inl hmemory)) rfl
  · exact iff_of_true (.inr (.inr (.inl hstorage))) rfl
  · exact iff_of_true (.inr (.inr (.inr hbandwidth))) rfl
  · refine iff_of_false ?_ Bool.false_ne_true
    rintro (h | h | h | h)
    · exact hcpu h
    · exact hmemory h
    · exact hstorage h
    · exact hbandwidth h

theorem toInt_pos_of_not_le (h : ¬ percent ≤ 0) : 0 < percent.toInt := by
  rw [Int32.le_iff_toInt_le, not_le] at h
  exact h

/-- A positive share is cast as it is, and the product wraps. -/
theorem toNat_memoryLimit (h : 0 < percent.toInt) (total : UInt64) :
    ((memoryLimit total percent).toNat : Int) =
      total.toNat * percent.toInt % 18446744073709551616 / 100 := by
  have hlt := percent.toInt_lt
  have hcast : (UInt64.ofInt percent.toInt).toNat = percent.toInt.toNat := by
    rw [UInt64.ofInt, UInt64.toNat_ofNat']
    omega
  rw [memoryLimit, UInt64.toNat_div, UInt64.toNat_mul, hcast]
  push_cast
  rw [Int.toNat_of_nonneg h.le]

/-- The clamped share of the processor, in hundredths. -/
theorem toNat_cpuRate (value : Int32) :
    100 ≤ (UInt32.ofInt ((clamp value 1 100).toInt * 100)).toNat ∧
      (UInt32.ofInt ((clamp value 1 100).toInt * 100)).toNat ≤ 10000 := by
  have hclamp : 1 ≤ (clamp value 1 100).toInt ∧ (clamp value 1 100).toInt ≤ 100 := by
    have hlow : (1 : Int32).toInt = 1 := rfl
    have hhigh : (100 : Int32).toInt = 100 := rfl
    rw [clamp]
    split_ifs with h1 h2
    · omega
    · omega
    · rw [Int32.lt_iff_toInt_lt] at h1 h2
      omega
  have hwhole : (clamp value 1 100).toInt * 100 % 2 ^ 32 = (clamp value 1 100).toInt * 100 :=
    Int.emod_eq_of_lt (by omega) (by omega)
  rw [UInt32.ofInt, hwhole, UInt32.toNat_ofNat', Nat.mod_eq_of_lt (by omega)]
  omega

end Arithmetic

/-! ## The limit is the share -/

section Envelope

variable {totalPhys : Option UInt64} {profile : ResourceAllocationProfile}
  {requiresNetwork : Bool}

/-- What is denied is within the envelope. -/
theorem withinEnvelope_of_denied {policy : ProcessResourcePolicy} (h : policy.denyLaunch = true) :
    WithinEnvelope totalPhys profile requiresNetwork policy :=
  ⟨fun _ => h, fun hallowed => absurd (h.symm.trans hallowed) Bool.false_ne_true.symm⟩

/-- **The memory limit of a process is its share** if and only if the share is at most 100, or the
launch is denied because a share is lacking or because the product has wrapped to almost nothing. -/
theorem withinEnvelope_iff (totalPhys : Option UInt64) (profile : ResourceAllocationProfile)
    (requiresNetwork : Bool) (hmemory : ∀ total, totalPhys = some total → total.toNat < 2 ^ 48) :
    WithinEnvelope totalPhys profile requiresNetwork
        (buildProcessResourcePolicy totalPhys (some profile) requiresNetwork) ↔
      LimitIsShare totalPhys profile requiresNetwork := by
  rw [buildProcessResourcePolicy, LimitIsShare]
  dsimp only
  cases hdenial : resourceEnvelopeDenialMessage profile requiresNetwork with
  | some message =>
    have hlacks : LacksShare profile requiresNetwork := lacksShare_iff.mpr (by rw [hdenial]; rfl)
    exact iff_of_true (withinEnvelope_of_denied rfl) (.inr (.inl hlacks))
  | none =>
    have hshares : ¬ LacksShare profile requiresNetwork := by
      rw [lacksShare_iff, hdenial]
      exact Bool.false_ne_true
    have hpositive : 0 < profile.memoryPercent.toInt :=
      toInt_pos_of_not_le fun hle => hshares (.inr (.inl hle))
    have hlimit := toNat_memoryLimit hpositive (totalPhys.getD 0)
    dsimp only
    rw [or_iff_right (a := LacksShare _ _) hshares]
    by_cases htotal : totalPhys.getD 0 = 0
    · rw [if_pos htotal]
      refine iff_of_true (withinEnvelope_of_denied rfl) (.inr ?_)
      rw [htotal]
      simp
    by_cases hzero : memoryLimit (totalPhys.getD 0) profile.memoryPercent = 0
    · rw [if_neg htotal, if_pos hzero]
      refine iff_of_true (withinEnvelope_of_denied rfl) (.inr ?_)
      rw [hzero] at hlimit
      have hwrapped : (totalPhys.getD 0).toNat * profile.memoryPercent.toInt %
          18446744073709551616 / 100 = 0 := hlimit.symm
      omega
    · -- the launch is allowed
      rw [if_neg htotal, if_neg hzero]
      obtain ⟨total, rfl⟩ : ∃ total, totalPhys = some total := by
        cases totalPhys with
        | none => exact absurd rfl htotal
        | some total => exact ⟨total, rfl⟩
      rw [Option.getD_some] at hlimit hzero ⊢
      have hnonzero : (memoryLimit total profile.memoryPercent).toNat ≠ 0 :=
        fun h => hzero (UInt64.toNat_inj.mp h)
      have hsmall := hmemory total rfl
      constructor
      · intro hwithin
        obtain ⟨_, -, -, hpercent, -⟩ := hwithin.capped rfl
        exact .inl hpercent.2
      · rintro (hpercent | hwrapped)
        · have hproduct : (total.toNat : Int) * profile.memoryPercent.toInt ≤ total.toNat * 100 :=
            mul_le_mul_of_nonneg_left hpercent (Int.natCast_nonneg _)
          have hwhole : (total.toNat : Int) * profile.memoryPercent.toInt %
              18446744073709551616 = total.toNat * profile.memoryPercent.toInt :=
            Int.emod_eq_of_lt (mul_nonneg (Int.natCast_nonneg _) hpositive.le) (by omega)
          rw [hwhole] at hlimit
          refine ⟨fun hlacks => absurd hlacks hshares, fun _ => ⟨total, rfl,
            toNat_cpuRate profile.cpuPercent, ⟨hpositive, hpercent⟩, hlimit, ?_, by omega⟩⟩
          rw [UInt64.le_iff_toNat_le]
          dsimp only
          omega
        · omega

/-- Shares that the allocation service takes are within the envelope. -/
theorem withinEnvelope_of_update {configuration : AppConfiguration} {persisted : Bool}
    (hmemory : ∀ total, totalPhys = some total → total.toNat < 2 ^ 48)
    (hupdate : (updateResourceAllocation configuration profile persisted).1.succeeded = true) :
    WithinEnvelope totalPhys profile requiresNetwork
      (buildProcessResourcePolicy totalPhys (some profile) requiresNetwork) := by
  refine (withinEnvelope_iff totalPhys profile requiresNetwork hmemory).mpr (.inl ?_)
  rw [updateResourceAllocation] at hupdate
  by_cases hinvalid : (!isValidPercent profile.cpuPercent || !isValidPercent profile.memoryPercent
      || !isValidPercent profile.bandwidthPercent || !isValidPercent profile.storagePercent) = true
  · rw [if_pos hinvalid] at hupdate
    cases hupdate
  simp only [Bool.or_eq_true, not_or, Bool.not_eq_true, Bool.not_eq_false', isValidPercent,
    Bool.and_eq_true, decide_eq_true_eq, Int32.le_iff_toInt_le] at hinvalid
  exact hinvalid.1.1.2.2

end Envelope

/-- Half of the memory of a machine with 16 GiB. -/
theorem withinEnvelope_half :
    WithinEnvelope (some 17179869184) {} false
      (buildProcessResourcePolicy (some 17179869184) (some {}) false) := by
  refine (withinEnvelope_iff (some 17179869184) {} false ?_).mpr (.inl (by decide))
  intro total htotal
  rw [← Option.some.inj htotal]
  decide

/-- Two hundred percent of it. -/
theorem doubled_share_exceeds_memory :
    ¬ WithinEnvelope (some 17179869184) { memoryPercent := 200 } false
        (buildProcessResourcePolicy (some 17179869184) (some { memoryPercent := 200 }) false) ∧
      (17179869184 : UInt64) < (buildProcessResourcePolicy (some 17179869184)
        (some { memoryPercent := 200 }) false).processMemoryLimitBytes := by
  refine ⟨fun hwithin => ?_, by decide⟩
  obtain ⟨_, -, -, hpercent, -⟩ := hwithin.capped (by decide)
  exact absurd hpercent.2 (by decide)

end Records
end Configuration
end MasterControl
