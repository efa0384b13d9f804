import Offload.Proofs.Run.Reports
import Offload.Proofs.Run.Sizes
import Offload.Proofs.Sweep.Swept

/-!
# Devices do not depend on each other

What a run on a device of the host backend comes to does not depend on what was asked of the backend
before, the measured times aside (`Run.onDevice_alone`). So each device of a sweep comes to what it
comes to on its own, whatever the other devices did, failed with or are called
(`Sweep.all_devices_alone`).
-/

namespace Offload

/-! ### Measured times -/

/-- A failure without the times in it. -/
def Failure.untimed : Failure → Failure
  | .nonMonotonicTimestamps stage _ _ => .nonMonotonicTimestamps stage 0 0
  | failure => failure

/-- A report without the times in it. -/
def Report.untimed (report : Report) : Report :=
  { report with timings := ⟨0, 0, 0, 0, 0⟩ }

/-- An outcome without the times in it. -/
def Outcome.untimed : Outcome → Outcome
  | .completed report => .completed report.untimed
  | .failed failure => .failed failure.untimed

namespace Run

variable {κ κ' : Type} [Clock Id κ] [Clock Id κ'] (device : Host.Device) (config : Config)

/-- What a run on a device of the host backend comes to, the measured times aside, is the same in
    any two worlds. -/
theorem onDevice_alone {world alone : World (Host.backend Id κ) κ'}
    (hworld : Startable device world.backend) (halone : Startable device alone.backend) :
    (Outcome.ofResult ((onDevice (B := Host.backend Id κ) device config).run world).1).untimed =
      (Outcome.ofResult
        ((onDevice (B := Host.backend Id κ) device config).run alone).1).untimed := by
  have hresult := onDevice_failsOr_reported device config world hworld
  have hresult' := onDevice_failsOr_reported device config alone halone
  have hsize := onDevice_sized (B := Host.backend Id κ) device config world trivial
  have hsize' := onDevice_sized (B := Host.backend Id κ) device config alone trivial
  generalize ((onDevice (B := Host.backend Id κ) device config).run world).1 = result at *
  generalize ((onDevice (B := Host.backend Id κ) device config).run alone).1 = result' at *
  cases hrefusal : (refusals device config).findSome? id with
  | some failure =>
    rw [hrefusal] at hresult hresult'
    obtain rfl : result = .error failure := hresult
    obtain rfl : result' = .error failure := hresult'
    rfl
  | none =>
    rw [hrefusal] at hresult hresult'
    simp only [FailsOr, Reported] at hresult hresult'
    split at hresult
    · rename_i hbackwards
      rw [if_pos hbackwards] at hresult'
      obtain ⟨start, stop, -, rfl⟩ := hresult
      obtain ⟨start', stop', -, rfl⟩ := hresult'
      rfl
    · rename_i hforwards
      rw [if_neg hforwards] at hresult'
      obtain ⟨report, rfl, helements, hverdict⟩ := hresult
      obtain ⟨report', rfl, helements', hverdict'⟩ := hresult'
      obtain ⟨-, -, hdata⟩ := hsize report rfl
      obtain ⟨-, -, hdata'⟩ := hsize' report' rfl
      simp only [Outcome.ofResult, Outcome.untimed, Report.untimed, helements, helements',
        hverdict, hverdict', hdata, hdata']

end Run

namespace Sweep

open Course Writer

section

variable {D : Type} {holds holds' : D → Outcome → Prop}

theorem Shown.imp {platform : String} {entry : DeviceEntry D} {result : DeviceResult}
    (h : Shown holds platform entry result)
    (himp : holds entry.handle result.outcome → holds' entry.handle result.outcome) :
    Shown holds' platform entry result :=
  ⟨h.platform, h.device, h.kind, himp h.outcome⟩

/-- The devices that platforms have listed. -/
def listedDevices (entries : List (PlatformEntry D)) : List D :=
  entries.flatMap fun entry =>
    match entry.devices with
    | .error _ => []
    | .ok devices => devices.map (·.handle)

theorem handle_mem_listedDevices {entries : List (PlatformEntry D)} {entry : PlatformEntry D}
    (hentry : entry ∈ entries) {devices : List (DeviceEntry D)}
    (hlisted : entry.devices = .ok devices) {device : DeviceEntry D} (hdevice : device ∈ devices) :
    device.handle ∈ listedDevices entries := by
  refine List.mem_flatMap.2 ⟨entry, hentry, ?_⟩
  rw [hlisted]
  exact List.mem_map_of_mem hdevice

/-- Of the devices listed, what is possible may depend on their being listed. -/
theorem grouped_imp {entries : List (PlatformEntry D)} {groups : List (List DeviceResult)}
    (h : List.Forall₂ (Grouped holds) entries groups)
    (himp : ∀ device ∈ listedDevices entries, ∀ outcome, holds device outcome →
      holds' device outcome) : List.Forall₂ (Grouped holds') entries groups := by
  have hmem := (List.forall₂_and_left entries groups).2 ⟨fun _ hentry => hentry, h⟩
  refine hmem.imp fun entry results ⟨hentry, hgrouped⟩ => ?_
  rw [Grouped] at hgrouped ⊢
  split at hgrouped
  · exact hgrouped
  · rename_i devices hlisted
    have hdevices := (List.forall₂_and_left devices results).2 ⟨fun _ hdevice => hdevice, hgrouped⟩
    exact hdevices.imp fun device result ⟨hdevice, hshown⟩ =>
      hshown.imp (himp _ (handle_mem_listedDevices hentry hlisted hdevice) _)

end

variable {κ κ' ω : Type} [Clock Id κ] [Clock Id κ'] [Writer Id ω]

/-- The outcome of a device of the host backend is that of any run on it alone, the measured times
    aside, whatever has been asked of the backend before that run. -/
def Alone (κ κ' : Type) [Clock Id κ] [Clock Id κ'] (config : Config) (device : Host.Device)
    (outcome : Outcome) : Prop :=
  ∀ alone : World (Host.backend Id κ) κ', Run.Startable device alone.backend →
    outcome.untimed = (Outcome.ofResult
      ((Run.onDevice (B := Host.backend Id κ) device config).run alone).1).untimed

/-- A sweep over the host backend that is not turned down, with a writer that refuses nothing,
    leaves for each device listed an outcome as runs have it in the states that the sweep comes
    to. -/
theorem all_hosted (holds : Host.Device → Outcome → Prop) {config : Config}
    (hvalid : config.validate = .ok ()) (world : World (Host.backend Id κ) κ')
    (hreachable : world.backend.Reachable) {entries : List (PlatformEntry Host.Device)}
    (hlist : world.backend.list = .ok entries) (hentries : entries ≠ [])
    (hrun : ∀ device (found : World (Host.backend Id κ) κ'), found.backend.Reachable →
      Clock.Later world.backend.store.clock found.backend.store.clock → holds device
        (.ofResult ((Run.onDevice (B := Host.backend Id κ) device config).run found).1))
    {writer : ω} (hunfailing : Unfailing writer) :
    ∃ outputs groups, List.Forall₂ (Grouped holds) entries groups ∧
      (all (B := Host.backend Id κ) config writer world).1 =
        (.ok ⟨"host", entries.length, groups.flatten⟩, (giveAll outputs writer).2) ∧
      Output.textOf outputs =
        Listing.heading ++ Listing.platformsText config.separatorMarker 0 entries groups := by
  let kept (state : Host.State κ) : Prop :=
    state.Reachable ∧ Clock.Later world.backend.store.clock state.store.clock
  have hkeeps (request : Request Host.handles) (state : Host.State κ) (h : kept state) :
      kept (Host.answer (m := Id) request state).state :=
    ⟨.answer request h.1, h.2.trans (Host.State.answer_later request state)⟩
  have hasked : Run.Ensures (Run.ask (B := Host.backend Id κ) .platforms : Run _ κ' _)
      (fun state => state = world.backend)
      fun answer state => answer = .ok entries ∧ kept state := by
    refine .ask fun state hstate => ⟨hstate ▸ hlist, hkeeps _ state ?_⟩
    exact hstate ▸ ⟨hreachable, .refl _⟩
  have hruns (device : Host.Device) :
      Run.Ensures (Run.onDevice (B := Host.backend Id κ) (κ := κ') device config).run kept
        fun result state => holds device (.ofResult result) ∧ kept state :=
    .and (fun found hfound => hrun device found hfound.1 hfound.2)
      (Run.onDevice_keeps (B := Host.backend Id κ) hkeeps device config)
  obtain ⟨course, result, last, hswept, hconcludes⟩ :=
    exists_course (B := Host.backend Id κ) holds hasked (fun _ => hruns) world rfl
  have hended := congrArg (·.1.1) ((hconcludes ω writer).of_unfailing hunfailing)
  cases result with
  | error failure =>
    obtain ⟨-, hturned⟩ := hswept
    generalize calls course = made at hturned
    cases hturned with
    | config hinvalid => cases hvalid.symm.trans hinvalid
    | enumeration hlists => cases hlists
    | noPlatforms hlists => exact absurd (Except.ok.inj hlists).symm hentries
  | ok summary =>
    obtain ⟨listed, hlists, -, groups, hgroups, rfl, htext⟩ := hswept
    obtain rfl : entries = listed := (Except.ok.inj hlists).symm
    exact ⟨outputs course, groups, hgroups, hended, htext⟩

/-- A sweep over the host backend, with a writer that refuses nothing, leaves for each platform the
    results of the devices listed, in their order, each as from a run on the device alone, and it
    writes a heading and the text for these results, which is spelled out here. -/
theorem all_devices_alone {accepted : ω → List UInt8} (hordered : Ordered accepted)
    {config : Config} (hvalid : config.validate = .ok ()) (world : World (Host.backend Id κ) κ')
    (hreachable : world.backend.Reachable) {entries : List (PlatformEntry Host.Device)}
    (hlist : world.backend.list = .ok entries) (hentries : entries ≠ [])
    (hsteady : ∀ device ∈ listedDevices entries,
      Clock.Steady device.backwardsClock world.backend.store.clock)
    (writer : ω) (hunfailing : Unfailing writer) :
    let ended := all (B := Host.backend Id κ) config writer world
    let separator := "\n" ++ String.ofList (List.replicate 43 '~') ++ "\n"
    let className (kind : DeviceClass) : String := match kind with
      | .cpu => "CPU"
      | .gpu => "GPU"
      | .accelerator => "Accelerator"
      | .unknown => "Unknown"
    let deviceText (j : Nat) (result : DeviceResult) : String :=
      "  Device " ++ toString j ++ ": " ++ result.device ++
        " (Type: " ++ className result.kind ++ ")\n" ++
      "--- Benchmarking Device: " ++ result.device ++
        " (Platform: " ++ result.platform ++ ") ---\n" ++
      match result.outcome with
      | .completed report => report.render
      | .failed _ => ""
    let platformText (i : Nat) (entry : PlatformEntry Host.Device)
        (results : List DeviceResult) : String :=
      (if i ≠ 0 ∧ config.separatorMarker.toList <:+: entry.name.toList then separator else "") ++
      ("Platform " ++ toString i ++ ": " ++ entry.name ++
        " (Version: " ++ entry.version ++ ")\n") ++
      match entry.devices with
      | .error _ => ""
      | .ok [] => "  No devices found for this platform.\n"
      | .ok _ => String.join (results.mapIdx deviceText)
    ∃ summary groups, ended.1.1 = .ok summary ∧
      summary = ⟨"host", entries.length, groups.flatten⟩ ∧
      List.Forall₂ (Grouped (Alone κ κ' config)) entries groups ∧
      summary.completed + summary.failed = summary.devices.length ∧
      accepted ended.1.2 = accepted writer ++ textBytes
        ("--- Discovered OpenCL Platforms and Devices ---\n" ++
          String.join ((entries.zip groups).mapIdx fun i listed =>
            platformText i listed.1 listed.2)) := by
  intro ended separator className deviceText platformText
  obtain ⟨outputs, groups, hgroups, hended, htext⟩ := all_hosted (fun device outcome =>
    Clock.Steady device.backwardsClock world.backend.store.clock → Alone κ κ' config device outcome)
    hvalid world hreachable hlist hentries (fun device found hfound hlater hsteady alone halone =>
      Run.onDevice_alone device config ⟨hfound, hsteady.later hlater⟩ halone) hunfailing
  refine ⟨_, groups, congrArg Prod.fst hended, rfl,
    grouped_imp hgroups fun device hdevice _ halone => halone (hsteady device hdevice), ?_, ?_⟩
  · exact Nat.add_sub_cancel' List.countP_le_length
  · have hdevice : Listing.deviceText = deviceText := by
      funext j ⟨_, _, kind, outcome⟩
      cases kind <;> cases outcome <;> rfl
    have hplatform (i : Nat) (entry : PlatformEntry Host.Device) (results : List DeviceResult) :
        Listing.platformText config.separatorMarker i entry results =
          platformText i entry results := by
      obtain ⟨name, version, devices⟩ := entry
      rcases devices with status | _ | ⟨first, rest⟩
      · rfl
      · rfl
      · simp only [Listing.platformText, Listing.listedText, Listing.devicesText, Nat.zero_add,
          hdevice]
        rfl
    have hspelled : Listing.platformsText config.separatorMarker 0 entries groups =
        String.join ((entries.zip groups).mapIdx fun i listed =>
          platformText i listed.1 listed.2) := by
      simp only [Listing.platformsText, Nat.zero_add, hplatform]
    have haccepted : accepted ended.1.2 = accepted writer ++ textBytes (Output.textOf outputs) :=
      (congrArg (accepted ·.2) hended).trans (hordered.giveAll_ok (hunfailing outputs))
    rw [haccepted, htext, hspelled]
    rfl

/-- A platform with one device, one with the marker in its name that fails to list its devices, and
    one without devices. -/
theorem all_devices_alone_of_failed_query :
    let clock := Readings.ofFunction fun _ => 0
    let device : Host.Device := { name := "Host Reference CPU", kind := .cpu }
    let platforms : List Host.Platform := [{ name := "first", version := "1", devices := [device] },
      { name := "NVIDIA CUDA", version := "2", queryFault := some .outOfResources },
      { name := "last", version := "3" }]
    let world : World (Host.backend Id Readings) Readings :=
      ⟨Host.State.initial clock platforms, clock, []⟩
    let entries := platforms.map Host.State.listing
    let ended := all (B := Host.backend Id Readings) {} ({} : Sink) world
    Ordered (fun sink : Sink => textBytes sink.text) ∧ Config.validate {} = .ok () ∧
      Host.State.Reachable world.backend ∧ Host.State.list world.backend = .ok entries ∧
      entries ≠ [] ∧ (∀ device ∈ listedDevices entries,
        Clock.Steady device.backwardsClock world.backend.store.clock) ∧
      Unfailing ({} : Sink) ∧
      ∃ result, ended.1.1 = .ok ⟨"host", 3, [result]⟩ ∧
        Alone Readings Readings {} device result.outcome ∧
        textBytes ended.1.2.text = textBytes
          ("--- Discovered OpenCL Platforms and Devices ---\n" ++
            ("Platform 0: first (Version: 1)\n" ++
              ("  Device 0: Host Reference CPU (Type: CPU)\n" ++
                "--- Benchmarking Device: Host Reference CPU (Platform: first) ---\n" ++
                result.outcome.block)) ++
            ("\n~~~~~~~~~~~~~~~~~~~~~~~~~~~~~~~~~~~~~~~~~~~\n" ++
              "Platform 1: NVIDIA CUDA (Version: 2)\n") ++
            ("Platform 2: last (Version: 3)\n" ++ "  No devices found for this platform.\n")) := by
  intro clock device platforms world entries ended
  have hvalid : Config.validate {} = .ok () := by decide +kernel
  have hreachable : Host.State.Reachable
      { Host.State.initial clock platforms with enumerationFault := none } := .initial
  have hsteady : ∀ device ∈ listedDevices entries,
      Clock.Steady device.backwardsClock world.backend.store.clock :=
    fun _ _ => Readings.steady (fun _ => UInt64.le_refl 0) fun _ _ => by decide
  have hunfailing : Unfailing ({} : Sink) := Sink.unfailing rfl rfl
  have hentries : entries ≠ [] := List.cons_ne_nil _ _
  obtain ⟨summary, groups, hsummary, rfl, hgroups, -, htext⟩ :=
    all_devices_alone Sink.ordered hvalid world hreachable rfl hentries hsteady {} hunfailing
  refine ⟨Sink.ordered, hvalid, hreachable, rfl, hentries, hsteady, hunfailing, ?_⟩
  have hended : all (B := Host.backend Id Readings) {} ({} : Sink) world = ended := rfl
  rw [hended] at hsummary htext
  clear_value ended
  rcases hgroups with _ | ⟨hfirst, _ | ⟨hsecond, _ | ⟨hthird, _ | _⟩⟩⟩
  rename_i group group' group''
  obtain rfl : group' = [] := hsecond
  have hnone : List.Forall₂ (Shown (Alone Readings Readings {}) "last") [] group'' := hthird
  obtain rfl : group'' = [] := List.forall₂_nil_left_iff.1 hnone
  have hshown : List.Forall₂ (Shown (Alone Readings Readings {}) "first")
      [⟨device.name, device.kind, device⟩] group := hfirst
  rcases hshown with _ | ⟨⟨hplatform, hname, hkind, halone⟩, _ | _⟩
  rename_i result
  obtain ⟨_, _, _, outcome⟩ := result
  subst hplatform hname hkind
  refine ⟨_, hsummary, halone, htext.trans (congrArg textBytes ?_)⟩
  have hlisted : world.backend.platforms.map Host.State.listing =
      [⟨"first", "1", .ok [⟨device.name, device.kind, device⟩]⟩,
        ⟨"NVIDIA CUDA", "2", .error .outOfResources⟩, ⟨"last", "3", .ok []⟩] := rfl
  have hsetOff : 0 + 1 ≠ 0 ∧ "NVIDIA CUDA".toList <:+: "NVIDIA CUDA".toList :=
    ⟨Nat.one_ne_zero, List.infix_rfl⟩
  have hplain : ¬ (0 + 1 + 1 ≠ 0 ∧ "NVIDIA CUDA".toList <:+: "last".toList) := by decide +kernel
  have hdigits : Nat.repr 0 = "0" ∧ Nat.repr 1 = "1" ∧ Nat.repr 2 = "2" := ⟨rfl, rfl, rfl⟩
  simp only [hlisted, List.zip_cons_cons, List.zip_nil_right, List.mapIdx_cons, List.mapIdx_nil,
    String.join_cons, String.join_nil, if_pos hsetOff, if_neg hplain]
  cases outcome <;> simp [device, Outcome.block, hdigits, String.append_assoc]

end Sweep

end Offload
