import Offload.Proofs.Sweep.Fatality
import Offload.Proofs.Sweep.Independence

/-!
# Sweeps of the host itself

The platform that stands for the host has one device, and this device has no fault. So what becomes
of a run on it is up to the configuration alone, and for one that could run at all, up to the
program text (`Run.refusals_reference`). A sweep of that platform reports on the one device
(`Sweep.all_reference`).
-/

namespace Offload

/-- The program text is accepted, and the first kernel called `vecadd` in it has four parameters. -/
def Source.DeclaresVectorAdd (source : String) : Prop :=
  ∃ declared decl, Source.scan source = .ok declared ∧
    declared.find? (fun decl => decl.name = "vecadd") = some decl ∧ decl.params = 4

instance (source : String) : Decidable (Source.DeclaresVectorAdd source) :=
  decidable_of_iff
    (((Source.scan source).toOption.bind fun declared =>
      declared.find? fun decl => decl.name = "vecadd").any (·.params = 4)) <| by
    cases hscan : Source.scan source with
    | error fault => simp [Source.DeclaresVectorAdd, hscan, Except.toOption]
    | ok declared => simp [Source.DeclaresVectorAdd, hscan, Except.toOption, Option.any_eq_true]

example : Source.DeclaresVectorAdd "__kernel void vecadd(a, b, c, n)" := by decide +kernel

theorem Config.kernelSource_of_validate {config : Config} (h : config.validate = .ok ()) :
    Text.isBlankText config.kernelSource = false := by
  rw [validate] at h
  split_ifs at h with _ _ hblank
  exact Bool.eq_false_iff.2 hblank

/-- The one device of the platform that stands for the host. -/
def Host.Device.reference : Host.Device := { name := "Host Reference CPU", kind := .cpu }

namespace Run

/-- Nothing but its program text speaks against a configuration that a device could run. -/
theorem refusals_reference {config : Config} (hvalid : config.validate = .ok ())
    (hentry : config.entryPoint = "vecadd") :
    (refusals Host.Device.reference config).findSome? id = none ↔
      Source.DeclaresVectorAdd config.kernelSource := by
  have hcount : config.elements.toNat ≤ 2147483647 :=
    UInt64.le_iff_toNat_le.1 (config.elements_le_of_validate hvalid)
  have hsized : oversized Host.Device.reference config.elements = false := by
    have hlt : 4 * config.elements.toNat < UInt64.size :=
      Nat.lt_of_le_of_lt (Nat.mul_le_mul_left 4 hcount) (by decide)
    simp [oversized, Host.Device.reference, hlt]
  have hblank := Config.kernelSource_of_validate hvalid
  simp only [List.findSome?_eq_none_iff, refusals, setupRefusals, buildRefusals, entryRefusals,
    hentry, hsized, hblank, countRefusal?, Nat.not_lt.2 hcount]
  cases hscan : Source.scan config.kernelSource with
  | error fault => simp [Source.DeclaresVectorAdd, hscan]
  | ok declared =>
    have hfound : declaration? config.kernelSource "vecadd" =
        declared.find? fun decl => decl.name = "vecadd" := by rw [declaration?, hscan]
    have hdeclares : Source.DeclaresVectorAdd config.kernelSource ↔
        ∃ decl, declaration? config.kernelSource "vecadd" = some decl ∧ decl.params = 4 := by
      simp only [Source.DeclaresVectorAdd, hscan, hfound]
      constructor
      · rintro ⟨_, decl, ⟨⟩, h⟩
        exact ⟨decl, h⟩
      · rintro ⟨decl, h⟩
        exact ⟨declared, decl, rfl, h⟩
    rw [hdeclares]
    cases declaration? config.kernelSource "vecadd" with
    | none => simp
    | some decl => simp [Host.Device.reference]

variable {κ κ' : Type} [Clock Id κ] [Clock Id κ']

/-- A run on a device of the host backend completes if there is nothing against it and the device
    does not count backwards. -/
theorem onDevice_isCompleted (device : Host.Device) (config : Config)
    {world : World (Host.backend Id κ) κ'} (hworld : Startable device world.backend) :
    (Outcome.ofResult
        ((onDevice (B := Host.backend Id κ) device config).run world).1).isCompleted = true ↔
      (refusals device config).findSome? id = none ∧ device.backwardsClock = false := by
  have hresult := onDevice_failsOr_reported device config world hworld
  generalize ((onDevice (B := Host.backend Id κ) device config).run world).1 = result at *
  cases hrefusal : (refusals device config).findSome? id with
  | some failure =>
    rw [hrefusal] at hresult
    obtain rfl : result = .error failure := hresult
    simp [Outcome.ofResult, Outcome.isCompleted]
  | none =>
    rw [hrefusal] at hresult
    simp only [FailsOr, Reported] at hresult
    split at hresult
    · rename_i hbackwards
      obtain ⟨_, _, -, rfl⟩ := hresult
      simp [Outcome.ofResult, Outcome.isCompleted, hbackwards]
    · rename_i hforwards
      obtain ⟨_, rfl, -⟩ := hresult
      simp [Outcome.ofResult, Outcome.isCompleted, hforwards]

end Run

namespace Sweep

open Writer

variable {κ κ' ω : Type} [Clock Id κ] [Clock Id κ'] [Writer Id ω]

/-- A sweep of the platform that stands for the host, with a writer that refuses nothing, leaves the
    result of its one device, which has completed if the program text declares the kernel, provided
    that the clock does not run backwards. -/
theorem all_reference {config : Config} (hvalid : config.validate = .ok ())
    (hentry : config.entryPoint = "vecadd") (clock : κ) (hostClock : κ') {writer : ω}
    (hunfailing : Unfailing writer) :
    ∃ result,
      (all (B := Host.backend Id κ) config writer
        ⟨Host.State.initial clock [Host.Platform.reference], hostClock, []⟩).1.1 =
          .ok ⟨"host", 1, [result]⟩ ∧
      (Clock.Steady false clock →
        (result.outcome.isCompleted = true ↔ Source.DeclaresVectorAdd config.kernelSource)) := by
  let world : World (Host.backend Id κ) κ' :=
    ⟨Host.State.initial clock [Host.Platform.reference], hostClock, []⟩
  have hreachable : Host.State.Reachable
      { Host.State.initial clock [Host.Platform.reference] with enumerationFault := none } :=
    .initial
  let declared (device : Host.Device) (outcome : Outcome) : Prop :=
    device = .reference → Clock.Steady false clock →
      (outcome.isCompleted = true ↔ Source.DeclaresVectorAdd config.kernelSource)
  have hrun (device : Host.Device) (found : World (Host.backend Id κ) κ')
      (hfound : found.backend.Reachable) (hlater : Clock.Later clock found.backend.store.clock) :
      declared device
        (.ofResult ((Run.onDevice (B := Host.backend Id κ) device config).run found).1) := by
    rintro rfl hsteady
    rw [Run.onDevice_isCompleted .reference config ⟨hfound, hsteady.later hlater⟩,
      Run.refusals_reference hvalid hentry]
    exact and_iff_left rfl
  obtain ⟨_, _, hgroups, hended, -⟩ := all_hosted declared hvalid world hreachable rfl
    (List.cons_ne_nil _ _) hrun hunfailing
  obtain _ | ⟨hgroup, _ | _⟩ := hgroups
  obtain _ | ⟨hshown, _ | _⟩ := hgroup
  exact ⟨_, congrArg Prod.fst hended, hshown.outcome rfl⟩

end Sweep

end Offload
