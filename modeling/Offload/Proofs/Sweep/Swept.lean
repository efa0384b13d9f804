import Mathlib.Data.List.Forall2
import Mathlib.Data.List.Infix
import Offload.Proofs.Run.Plan
import Offload.Proofs.Sweep.Course

/-!
# What a sweep leaves and writes

The summary of a sweep and its text go together: a platform has the results of the devices that it
has listed, in their order, and its text is that of these results (`Sweep.Grouped`,
`Listing.platformText`). `Sweep.Takes.all` says this of a whole sweep, where a run on a device keeps
an invariant of the backend and ends with some property of its outcome. The other way to end is
before the first output, for one of three reasons (`Sweep.Turned`).
-/

namespace Offload

/-- What becomes of a run that ends with a report or a failure. -/
def Outcome.ofResult : Except Failure Report → Outcome
  | .ok report => .completed report
  | .error failure => .failed failure

/-- The block of results, which only a completed run has. -/
def Outcome.block : Outcome → String
  | .completed report => report.render
  | .failed _ => ""

namespace Listing

theorem occurs_iff {part text : List Char} : occurs part text = true ↔ part <:+: text := by
  induction text with
  | nil => rw [occurs, List.isEmpty_iff, List.infix_nil]
  | cons c text ih =>
    rw [occurs, Bool.or_eq_true, ih, List.isPrefixOf_iff_prefix, List.infix_cons_iff]

theorem isSetOff_iff {marker name : String} {index : Nat} :
    isSetOff marker index name = true ↔ index ≠ 0 ∧ marker.toList <:+: name.toList := by
  rw [isSetOff, Bool.and_eq_true, decide_eq_true_iff, occurs_iff]

/-- The text for a device: its two lines and its block of results. -/
def deviceText (index : Nat) (result : DeviceResult) : String :=
  device index result.device result.kind result.platform ++ result.outcome.block

/-- The text for the devices of a platform from a number on. -/
def devicesText (index : Nat) (results : List DeviceResult) : String :=
  String.join (results.mapIdx fun i => deviceText (index + i))

variable {D : Type}

/-- What there is to say of the devices of a platform. -/
def listedText (entry : PlatformEntry D) (results : List DeviceResult) : String :=
  match entry.devices with
  | .error _ => ""
  | .ok [] => noDevices
  | .ok _ => devicesText 0 results

/-- The text for a platform: it is set off by a separator if it is not the first and the marker
    occurs in its name, then come its line and its devices. -/
def platformText (marker : String) (index : Nat) (entry : PlatformEntry D)
    (results : List DeviceResult) : String :=
  (if index ≠ 0 ∧ marker.toList <:+: entry.name.toList then separator else "") ++
    platform index entry.name entry.version ++ listedText entry results

/-- The text for platforms from a number on. -/
def platformsText (marker : String) (index : Nat) (entries : List (PlatformEntry D))
    (groups : List (List DeviceResult)) : String :=
  String.join ((entries.zip groups).mapIdx fun i (entry, results) =>
    platformText marker (index + i) entry results)

theorem devicesText_cons (index : Nat) (result : DeviceResult) (results : List DeviceResult) :
    devicesText index (result :: results) =
      deviceText index result ++ devicesText (index + 1) results := by
  simp only [devicesText, List.mapIdx_cons, String.join_cons, Nat.add_zero, Nat.add_assoc,
    Nat.add_comm 1]

theorem platformsText_cons (marker : String) (index : Nat) (entry : PlatformEntry D)
    (entries : List (PlatformEntry D)) (results : List DeviceResult)
    (groups : List (List DeviceResult)) :
    platformsText marker index (entry :: entries) (results :: groups) =
      platformText marker index entry results ++
        platformsText marker (index + 1) entries groups := by
  simp only [platformsText, List.zip_cons_cons, List.mapIdx_cons, String.join_cons, Nat.add_zero,
    Nat.add_assoc, Nat.add_comm 1]

end Listing

namespace Sweep

open Course

/-! ### What is left -/

section

variable {D : Type} (holds : D → Outcome → Prop)

/-- The result for a device of a platform: its names, its class, and an outcome that is a possible
    one for the device. -/
structure Shown (platform : String) (entry : DeviceEntry D) (result : DeviceResult) : Prop where
  platform : result.platform = platform
  device : result.device = entry.name
  kind : result.kind = entry.kind
  outcome : holds entry.handle result.outcome

/-- The results for a platform: one for each device that it has listed, in order. -/
def Grouped (entry : PlatformEntry D) (results : List DeviceResult) : Prop :=
  match entry.devices with
  | .error _ => results = []
  | .ok devices => List.Forall₂ (Shown holds entry.name) devices results

end

/-- What a list is related to element by element has no other elements. -/
theorem exists_of_mem_right {α β : Type} {R : α → β → Prop} {as : List α} {bs : List β}
    (h : List.Forall₂ R as bs) {b : β} (hb : b ∈ bs) : ∃ a ∈ as, R a b := by
  obtain ⟨i, hi, rfl⟩ := List.mem_iff_getElem.1 hb
  have hlength := h.length_eq
  exact ⟨as[i], List.getElem_mem _, h.get (hlength ▸ hi) hi⟩

/-- Why a sweep is turned down before its first output, with what it has called. -/
inductive Turned {H : Handles} (config : Config)
    (lists : Except Status (List (PlatformEntry H.Device)) → Prop) :
    List (Exchange H) → Failure → Prop
  | config {failure : Failure} : config.validate = .error failure → Turned config lists [] failure
  | enumeration {status : Status} : lists (.error status) →
      Turned config lists [⟨.platforms, .error status⟩] (.enumeration status)
  | noPlatforms : lists (.ok []) → Turned config lists [⟨.platforms, .ok []⟩] .noPlatforms

/-- A summary has the results for all platforms, and the text is that of these results. -/
def Summed {D : Type} (holds : D → Outcome → Prop) (backend : String) (config : Config)
    (entries : List (PlatformEntry D)) (text : String) (summary : Summary) : Prop :=
  ∃ groups, List.Forall₂ (Grouped holds) entries groups ∧
    summary = ⟨backend, entries.length, groups.flatten⟩ ∧
    text = Listing.heading ++ Listing.platformsText config.separatorMarker 0 entries groups

/-- Every outcome in a summary is a possible one for some device. -/
theorem Summed.exists_device {D : Type} {holds : D → Outcome → Prop} {backend : String}
    {config : Config} {entries : List (PlatformEntry D)} {text : String} {summary : Summary}
    (h : Summed holds backend config entries text summary) :
    ∀ result ∈ summary.devices, ∃ device, holds device result.outcome := by
  obtain ⟨groups, hgroups, rfl, -⟩ := h
  intro result hresult
  obtain ⟨group, hgroup, hmem⟩ := List.mem_flatten.1 hresult
  obtain ⟨⟨name, version, devices⟩, -, hgrouped⟩ := exists_of_mem_right hgroups hgroup
  cases devices with
  | error status =>
    obtain rfl : group = [] := hgrouped
    exact absurd hmem List.not_mem_nil
  | ok devices =>
    obtain ⟨entry, -, hshown⟩ := exists_of_mem_right (R := Shown holds name) hgrouped hmem
    exact ⟨entry.handle, hshown.outcome⟩

/-! ### Along the text of a sweep -/

section

variable {B : Backend Id} {κ : Type} [Clock Id κ] {config : Config}
  {holds : B.handles.Device → Outcome → Prop} {kept : B.State → Prop}

namespace Yields

variable
  (hrun : ∀ device, Run.Ensures (Run.onDevice (B := B) (κ := κ) device config).run kept
    fun result state => holds device (.ofResult result) ∧ kept state)

include hrun

theorem device (platform : String) (index : Nat) (entry : DeviceEntry B.handles.Device) :
    Yields (κ := κ) (fun _ _ => Sweep.device (B := B.traced) config platform index entry) kept
      fun course shown => Shown holds platform entry shown ∧
        text course = Listing.deviceText index shown := by
  refine (write _).andThen (flush.andThen ?_)
  have htraces := (Run.Traces.likeness (B := B) (κ := κ) Moment.IsCall fun _ => trivial).onDevice
    entry.handle config
  refine (perform htraces (.onDevice entry.handle config) (Run.onDevice_emits entry.handle config)
    (hrun entry.handle)).bind ?_
  rintro _ answer ⟨made, rfl, -, houtcome⟩
  cases answer with
  | ok report =>
    refine (write _).andThen ((note _).andThen (.pure ⟨⟨rfl, rfl, rfl, houtcome⟩, ?_⟩))
    simp [Listing.deviceText, Outcome.block, Output.toText]
  | error failure =>
    refine (note _).andThen (.pure ⟨⟨rfl, rfl, rfl, houtcome⟩, ?_⟩)
    simp [Listing.deviceText, Outcome.block, Output.toText]

theorem devices (platform : String) (index : Nat) (entries : List (DeviceEntry B.handles.Device)) :
    Yields (κ := κ) (fun _ _ => Sweep.devices (B := B.traced) config platform index entries) kept
      fun course results => List.Forall₂ (Shown holds platform) entries results ∧
        text course = Listing.devicesText index results := by
  induction entries generalizing index with
  | nil => exact .pure ⟨.nil, rfl⟩
  | cons entry entries ih =>
    refine (device hrun platform index entry).bind ?_
    rintro course shown ⟨hshown, htext⟩
    refine (ih (index + 1)).bind ?_
    rintro rest results ⟨hresults, hrest⟩
    refine .pure ⟨.cons hshown hresults, ?_⟩
    rw [List.append_nil, text_append, htext, hrest, Listing.devicesText_cons]

theorem listed (entry : PlatformEntry B.handles.Device) :
    Yields (κ := κ) (fun _ _ => Sweep.listed (B := B.traced) config entry) kept
      fun course results => Grouped holds entry results ∧
        text course = Listing.listedText entry results := by
  obtain ⟨name, version, devices⟩ := entry
  rcases devices with status | _ | ⟨first, rest⟩
  · exact (note _).andThen (.pure ⟨rfl, rfl⟩)
  · refine (write _).andThen (.pure ⟨.nil, ?_⟩)
    simp [Listing.listedText, Output.toText]
  · exact Yields.devices hrun name 0 (first :: rest)

theorem platform (index : Nat) (entry : PlatformEntry B.handles.Device) :
    Yields (κ := κ) (fun _ _ => Sweep.platform (B := B.traced) config index entry) kept
      fun course results => Grouped holds entry results ∧
        text course = Listing.platformText config.separatorMarker index entry results := by
  have hdescribed : Yields (κ := κ)
      (fun _ _ => Sweep.described (B := B.traced) config index entry) kept fun course results =>
        Grouped holds entry results ∧
          text course = Listing.platform index entry.name entry.version ++
            Listing.listedText entry results := by
    refine (write _).andThen ((listed hrun entry).mono ?_)
    rintro rest results ⟨hgrouped, hrest⟩
    exact ⟨hgrouped, by simp [hrest, Output.toText]⟩
  refine .congr (fun ω _ => platform_eq (B := B.traced) config index entry) ?_
  simp only [Listing.isSetOff_iff]
  split
  · rename_i hsetOff
    refine (write _).andThen (hdescribed.mono ?_)
    rintro rest results ⟨hgrouped, hrest⟩
    refine ⟨hgrouped, ?_⟩
    rw [Listing.platformText, if_pos hsetOff]
    simp [hrest, Output.toText, String.append_assoc]
  · rename_i hplain
    refine hdescribed.mono ?_
    rintro course results ⟨hgrouped, htext⟩
    refine ⟨hgrouped, ?_⟩
    rw [Listing.platformText, if_neg hplain]
    simp [htext]

theorem platforms (index : Nat) (entries : List (PlatformEntry B.handles.Device)) :
    Yields (κ := κ) (fun _ _ => Sweep.platforms (B := B.traced) config index entries) kept
      fun course results => ∃ groups, List.Forall₂ (Grouped holds) entries groups ∧
        results = groups.flatten ∧
        text course = Listing.platformsText config.separatorMarker index entries groups := by
  induction entries generalizing index with
  | nil => exact .pure ⟨[], .nil, rfl, rfl⟩
  | cons entry entries ih =>
    refine (platform hrun index entry).bind ?_
    rintro course results ⟨hresults, htext⟩
    refine (ih (index + 1)).bind ?_
    rintro rest _ ⟨groups, hgroups, rfl, hrest⟩
    refine .pure ⟨results :: groups, .cons hresults hgroups, rfl, ?_⟩
    rw [List.append_nil, text_append, htext, hrest, Listing.platformsText_cons]

end Yields

/-- How a sweep ends whose writer refuses nothing. -/
def Swept {H : Handles} (holds : H.Device → Outcome → Prop)
    (lists : Except Status (List (PlatformEntry H.Device)) → Prop) (backend : String)
    (config : Config) (course : Course H) : Except Failure Summary → Prop
  | .error failure => outputs course = [] ∧ Turned config lists (calls course) failure
  | .ok summary => ∃ entries, lists (.ok entries) ∧ entries ≠ [] ∧
      Summed holds backend config entries (text course) summary

theorem Takes.list {lists : Except Status (List (PlatformEntry B.handles.Device)) → Prop}
    {before : B.State → Prop}
    (hlist : Run.Ensures (Run.ask (B := B) .platforms : Run B κ _) before
      fun answer state => lists answer ∧ kept state) :
    Takes (κ := κ) (fun _ _ => Sweep.list (B := B.traced)) before
      fun course result state => outputs course = [] ∧ match result with
        | .error failure => Turned config lists (calls course) failure
        | .ok entries => lists (.ok entries) ∧ entries ≠ [] ∧ kept state := by
  have hask : Run.Emits (Run.ask (B := B.recorded) .platforms : Run _ κ _)
      fun made answer => made = [⟨.platforms, answer⟩] := .ask fun _ => rfl
  have htraces : Run.Traces Moment.IsCall (Run.ask (B := B.traced) .platforms : Run _ κ _)
      (Run.ask (B := B.recorded) .platforms) :=
    (Run.Traces.likeness Moment.IsCall fun _ => trivial).ask .platforms
  refine (Takes.perform htraces (.ask .platforms) hask hlist).bind
    (fun _ _ _ ⟨_, _, _, h, _⟩ => nomatch h) fun _ answer => .given kept fun state => ?_
  rintro ⟨made, _, rfl, ⟨⟩, rfl, hlists, hkept⟩
  refine ⟨hkept, ?_⟩
  rcases answer with status | _ | ⟨first, rest⟩
  · exact .ended fun _ _ => ⟨rfl, .enumeration hlists⟩
  · exact .ended fun _ _ => ⟨rfl, .noPlatforms hlists⟩
  · exact .ended fun _ hkept => ⟨rfl, hlists, nofun, hkept⟩

/-- A sweep is turned down or ends with a summary. What its platforms can be is given by the backend
    before it, and what the outcomes can be by the runs on the devices. -/
theorem Takes.all (holds : B.handles.Device → Outcome → Prop)
    {lists : Except Status (List (PlatformEntry B.handles.Device)) → Prop}
    {before : B.State → Prop}
    (hlist : Run.Ensures (Run.ask (B := B) .platforms : Run B κ _) before
      fun answer state => lists answer ∧ kept state)
    (hrun : config.validate = .ok () → ∀ device,
      Run.Ensures (Run.onDevice (B := B) (κ := κ) device config).run kept
        fun result state => holds device (.ofResult result) ∧ kept state) :
    Takes (κ := κ) (fun _ _ => Sweep.all (B := B.traced) config) before
      fun course result _ => Swept holds lists B.name config course result := by
  have hvalidate : Takes (B := B) (κ := κ)
      (fun _ _ => ExceptT.mk (Pure.pure config.validate)) before
      fun course result state => course = [] ∧ result = config.validate ∧ before state :=
    .ended fun _ hbefore => ⟨rfl, rfl, hbefore⟩
  refine hvalidate.bind (fun _ _ _ ⟨hcourse, hfailure, _⟩ => ?_) fun _ _ => ?_
  · rw [hcourse]
    exact ⟨rfl, .config hfailure.symm⟩
  refine .given before fun state => ?_
  rintro ⟨rfl, hvalid, hbefore⟩
  refine ⟨hbefore, (list hlist).bind (fun course failure _ h => h) fun course entries => ?_⟩
  refine .given kept fun state => ?_
  rintro ⟨hcourse, hlists, hentries, hkept⟩
  have htext : text course = "" := by rw [text, hcourse, Output.textOf_nil]
  refine ⟨hkept, Yields.takes (fun new summary =>
    Summed holds B.name config entries (text (course ++ new)) summary) ?_
    fun _ _ _ hsummed _ => ⟨entries, hlists, hentries, hsummed⟩⟩
  refine (Yields.note _).andThen ((Yields.write _).andThen
    ((Yields.platforms (hrun hvalid.symm) 0 entries).bind ?_))
  rintro _ _ ⟨groups, hgroups, rfl, hplatforms⟩
  refine (Yields.note _).andThen (.pure ⟨groups, hgroups, rfl, ?_⟩)
  simp [htext, hplatforms, Output.toText]

/-- The course of a whole sweep. -/
theorem exists_course (holds : B.handles.Device → Outcome → Prop)
    {lists : Except Status (List (PlatformEntry B.handles.Device)) → Prop}
    {before : B.State → Prop}
    (hlist : Run.Ensures (Run.ask (B := B) .platforms : Run B κ _) before
      fun answer state => lists answer ∧ kept state)
    (hrun : config.validate = .ok () → ∀ device,
      Run.Ensures (Run.onDevice (B := B) (κ := κ) device config).run kept
        fun result state => holds device (.ofResult result) ∧ kept state)
    (world : World B κ) (hworld : before world.backend) :
    ∃ (course : Course B.handles) (result : Except Failure Summary) (last : World B κ),
      Swept holds lists B.name config course result ∧
        ∀ (ω : Type) [Writer Id ω] (writer : ω), Concludes course result last [] writer
          (all (B := B) config writer world, trace config writer world) := by
  obtain ⟨course, result, last, hswept, hconcludes⟩ :=
    Takes.all holds hlist hrun world.traced hworld
  refine ⟨course, result, last.untraced, hswept, fun ω _ writer => ?_⟩
  have hended : Concludes course result last [] writer
    (all (B := B.traced) config writer world.traced []) := hconcludes ω writer []
  rw [(all_traced config writer world).1] at hended
  exact hended.map World.untraced

end

end Sweep

end Offload
