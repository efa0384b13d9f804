import Offload.Proofs.Sweep.Swept

/-!
# Fatal failures

A sweep ends early exactly for the failures that are called fatal, and records only others. What a
run on a device can fail with follows from its plan: each action has its own failure, and the only
fatal one among them, an element count too large for the kernel, is excluded by the check of the
configuration (`Run.onDevice_not_fatal`). Before its first output a sweep calls for the platforms at
most (`Sweep.all_fatality`).
-/

namespace Offload

theorem Outcome.ofResult_eq_failed {result : Except Failure Report} {failure : Failure} :
    ofResult result = .failed failure ↔ result = .error failure := by
  cases result <;> simp [ofResult]

theorem Config.validate_fatal {config : Config} {failure : Failure}
    (h : config.validate = .error failure) : failure.isFatal = true := by
  rw [validate] at h
  split_ifs at h <;> cases h <;> rfl

theorem Config.elements_le_of_validate {config : Config} (h : config.validate = .ok ()) :
    config.elements ≤ maxElements := by
  by_contra hlarge
  rw [validate, if_pos (UInt64.not_le.1 hlarge)] at h
  exact nomatch h

namespace Run

variable {H : Handles} {device : H.Device} {config : Config} {handed : Handed H}

theorem Ends.not_fatal {status : Status} {action : Action} {made : List (Exchange H)}
    {failure : Failure} (h : Ends device config handed status action made failure) :
    failure.isFatal = false := by
  cases h <;> rfl

theorem Halts.not_fatal {action : Action} {made : List (Exchange H)} {failure : Failure}
    (h : Halts device config handed action made failure) (hsize : config.elements ≤ maxElements) :
    failure.isFatal = false := by
  cases h with
  | tooMany hlarge => exact absurd hlarge (UInt64.not_lt.2 hsize)
  | refused _ _ hends => exact hends.not_fatal
  | backwards => rfl

/-- No failure of a run on a device is fatal, as long as the kernel can hold the element count. -/
theorem onDevice_not_fatal {B : Backend Id} {κ : Type} [Clock Id κ] (device : B.handles.Device)
    {config : Config} (hsize : config.elements ≤ maxElements) (world : World B κ)
    {failure : Failure}
    (h : ((onDevice (B := B) device config).run world).1 = .error failure) :
    failure.isFatal = false := by
  have hconducted := (onDevice_emits (κ := κ) device config).exchanges world
  rw [(Tracks.onDevice device config world.recording).1.trans h] at hconducted
  obtain ⟨_, _, _, _, _, _, -, -, -, hhalts⟩ := hconducted
  exact hhalts.not_fatal hsize

end Run

namespace Sweep

open Course

theorem Turned.fatal {H : Handles} {config : Config}
    {lists : Except Status (List (PlatformEntry H.Device)) → Prop} {made : List (Exchange H)}
    {failure : Failure} (h : Turned config lists made failure) : failure.isFatal = true := by
  cases h with
  | config hinvalid => exact config.validate_fatal hinvalid
  | enumeration => rfl
  | noPlatforms => rfl

theorem Turned.only_platforms {H : Handles} {config : Config}
    {lists : Except Status (List (PlatformEntry H.Device)) → Prop} {made : List (Exchange H)}
    {failure : Failure} (h : Turned config lists made failure) :
    ∀ call ∈ made, call.1 = .platforms := by
  cases h <;> simp

variable {B : Backend Id} {κ ω : Type} [Clock Id κ] [Writer Id ω]

/-- Every failure that ends a sweep is fatal, and none of those in a summary is. A sweep that ends
    early, but not for its writer, has given nothing to the writer, and it has called for nothing
    but the platforms. -/
theorem all_fatality (config : Config) (world : World B κ) (writer : ω) :
    let ended := all (B := B) config writer world
    match ended.1.1 with
    | .ok summary => ∀ result ∈ summary.devices, ∀ failure, result.outcome = .failed failure →
      failure.isFatal = false
    | .error failure => failure.isFatal = true ∧ ((∃ reason, failure = .output reason) ∨
      ended.1.2 = writer ∧ ∀ call ∈ Run.exchanges (all (B := B.recorded) config writer) world,
        call.1 = .platforms) := by
  intro ended
  have hlist : Run.Ensures (Run.ask (B := B) .platforms : Run B κ _) (fun _ => True)
      fun _ _ => True ∧ True := fun _ _ => ⟨trivial, trivial⟩
  have hrun (hvalid : config.validate = .ok ()) (device : B.handles.Device) :
      Run.Ensures (Run.onDevice (B := B) (κ := κ) device config).run (fun _ => True)
        fun result _ => (∀ failure, Outcome.ofResult result = .failed failure →
          failure.isFatal = false) ∧ True := by
    refine fun world _ => ⟨fun failure hfailed => ?_, trivial⟩
    exact Run.onDevice_not_fatal device (config.elements_le_of_validate hvalid) world
      (Outcome.ofResult_eq_failed.1 hfailed)
  obtain ⟨course, result, last, hswept, hconcludes⟩ :=
    exists_course (fun _ outcome => ∀ failure, outcome = .failed failure →
      failure.isFatal = false) hlist hrun world trivial
  have hended : Concludes course result last [] writer (ended, trace config writer world) :=
    hconcludes ω writer
  rw [← (all_traced config writer world).2]
  clear_value ended
  generalize trace config writer world = happened at hended
  cases hended with
  | cut => exact ⟨rfl, .inl ⟨_, rfl⟩⟩
  | whole hgiven =>
    cases result with
    | ok summary =>
      obtain ⟨entries, -, -, hsummed⟩ := hswept
      intro result hresult
      obtain ⟨_, hfailed⟩ := hsummed.exists_device result hresult
      exact hfailed
    | error failure =>
      obtain ⟨houtputs, hturned⟩ := hswept
      rw [houtputs] at hgiven
      exact ⟨hturned.fatal, .inr ⟨(congrArg Prod.snd hgiven).symm, hturned.only_platforms⟩⟩

end Sweep

end Offload
