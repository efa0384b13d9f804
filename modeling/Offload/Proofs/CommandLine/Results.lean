import Offload.Proofs.Config.RoundTrip
import Offload.Proofs.Json.Decimals

/-!
# Results read back

The results of a sweep are saved as a JSON text with the members of all objects in the order of
their keys. This text is read back, whatever the durations in it are, and what stands in it is found
under its keys (`Json.at?`): for a sweep of one device the counts, and the outcome of the device
(`CommandLine.Reports`).
-/

namespace Offload

open Config

namespace Json

/-! ### Members under their keys -/

/-- The value at the end of a path of keys. Each key has to stand once. -/
def at? : List String → Json → Option Json
  | [], value => some value
  | key :: keys, object members => do at? keys (← single? (← texts? members) key)
  | _ :: _, _ => none

theorem single?_map (f : Json → Json) (members : List (String × Json)) (key : String) :
    single? (members.map fun member => (member.1, f member.2)) key =
      (single? members key).map f := by
  have hfilter : (members.map fun member => (member.1, f member.2)).filter
      (fun member => member.1 = key) =
        (members.filter fun member => member.1 = key).map fun member => (member.1, f member.2) := by
    rw [List.filter_map]
    rfl
  rw [single?, single?, hfilter]
  generalize members.filter (fun member => member.1 = key) = found
  rcases found with _ | ⟨_, _ | _⟩ <;> rfl

/-- Sorted, an object has the same members, each sorted. -/
theorem exists_sorted_record (members : List (String × Json)) :
    ∃ sortedMembers, (record members).sorted = object sortedMembers ∧
      sortedMembers.Perm (members.map fun member => (escape member.1.toList, member.2.sorted)) := by
  have hmembers : Json.sortedMembers
      (members.map fun member => (escape member.1.toList, member.2)) =
        members.map fun member => (escape member.1.toList, member.2.sorted) := by
    rw [sortedMembers_eq, List.map_map]
    rfl
  exact ⟨_, by rw [record, sorted, hmembers], List.mergeSort_perm _ _⟩

theorem at?_sorted_record {members : List (String × Json)} {key : String} {value : Json}
    (h : single? members key = some value) (keys : List String) :
    at? (key :: keys) (record members).sorted = at? keys value.sorted := by
  obtain ⟨sortedMembers, hsorted, hperm⟩ := exists_sorted_record members
  have htexts := texts?_record (members.map fun member => (member.1, member.2.sorted))
  rw [List.map_map] at htexts
  obtain ⟨pairs, hpairs, hpairsPerm⟩ := texts?_perm hperm.symm htexts
  have hsingle : single? pairs key = some value.sorted := by
    rw [single?_perm hpairsPerm, single?_map, h, Option.map_some]
  rw [hsorted, at?, hpairs]
  simp [hsingle]

/-! ### Legible when sorted -/

theorem legible_sorted_record {members : List (String × Json)}
    (h : ∀ member ∈ members, member.2.sorted.Legible) : (record members).sorted.Legible := by
  obtain ⟨sortedMembers, hsorted, hperm⟩ := exists_sorted_record members
  rw [hsorted]
  refine legible_object fun member hmember => ?_
  obtain ⟨⟨key, value⟩, hpair, rfl⟩ := List.mem_map.1 (hperm.mem_iff.1 hmember)
  exact ⟨legible_ofText key, h _ hpair⟩

theorem sortedItems_eq (items : List Json) : sortedItems items = items.map sorted := by
  induction items with
  | nil => rfl
  | cons item items ih => rw [sortedItems, ih, List.map_cons]

theorem legible_sorted_array {items : List Json} (h : ∀ item ∈ items, item.sorted.Legible) :
    (array items).sorted.Legible := by
  rw [sorted, sortedItems_eq]
  exact legible_array (List.forall_mem_map.2 h)

@[simp]
theorem sorted_bool (value : Bool) : (bool value).sorted = bool value := rfl

@[simp]
theorem sorted_ofText (text : String) : (ofText text).sorted = ofText text := rfl

@[simp]
theorem sorted_ofNat (n : Nat) : (ofNat n).sorted = ofNat n := rfl

@[simp]
theorem sorted_ofInt (n : Int) : (ofInt n).sorted = ofInt n := rfl

@[simp]
theorem sorted_ofFloat (x : Float) : (ofFloat x).sorted = ofFloat x := by
  rw [ofFloat]
  split <;> rfl

theorem legible_bool (value : Bool) : (bool value).Legible := by
  intro token htoken
  rw [List.mem_singleton.1 htoken]
  exact trivial

end Json

/-! ### Results -/

open Json

theorem Verdict.legible_toJson (verdict : Verdict) : verdict.toJson.sorted.Legible := by
  cases verdict <;> refine legible_sorted_record ?_ <;>
    simp [legible_bool, legible_ofText, legible_ofNat, legible_ofInt]

theorem Report.legible_members (report : Report) :
    ∀ member ∈ report.members, member.2.sorted.Legible := by
  have htimings : ∀ timings : Timings, (record
      [("write_a_ms", .ofFloat timings.writeA), ("write_b_ms", .ofFloat timings.writeB),
       ("kernel_ms", .ofFloat timings.kernel), ("read_c_ms", .ofFloat timings.readC),
       ("overall_ms", .ofFloat timings.overall)]).sorted.Legible := fun timings => by
    refine legible_sorted_record ?_
    simp [legible_ofFloat]
  simp [members, legible_ofNat, legible_ofFloat, htimings, Verdict.legible_toJson]

theorem Outcome.legible_toJson (outcome : Outcome) : outcome.toJson.sorted.Legible := by
  cases outcome with
  | completed report =>
    exact legible_sorted_record
      (List.forall_mem_cons.2 ⟨legible_ofText "completed", report.legible_members⟩)
  | failed failure =>
    refine legible_sorted_record ?_
    simp [legible_ofText]

theorem DeviceResult.legible_toJson (result : DeviceResult) : result.toJson.sorted.Legible := by
  refine legible_sorted_record ?_
  simp [legible_ofText, Outcome.legible_toJson]

/-- The kind of outcome stands in the data for a device. -/
theorem DeviceResult.at?_outcome (result : DeviceResult) :
    result.toJson.sorted.at? ["outcome", "outcome"] =
      some (.ofText (if result.outcome.isCompleted then "completed" else "failed")) := by
  obtain ⟨platform, device, kind, outcome⟩ := result
  have hresult : single? [("platform", .ofText platform), ("device", .ofText device),
      ("class", .ofText kind.key), ("outcome", outcome.toJson)] "outcome" =
        some outcome.toJson := by
    simp [single?]
  refine (at?_sorted_record hresult ["outcome"]).trans ?_
  cases outcome with
  | completed report =>
    have hkind : single? (("outcome", .ofText "completed") :: report.members) "outcome" =
        some (.ofText "completed") := by
      simp [single?, Report.members]
    exact at?_sorted_record hkind []
  | failed failure =>
    have hkind : single? [("outcome", .ofText "failed"), ("error", .ofText failure.message)]
        "outcome" = some (.ofText "failed") := by
      simp [single?]
    exact at?_sorted_record hkind []

namespace CommandLine

/-- A text reports one device: read as JSON, it counts the device with those that have completed or
    with those that have failed, and lists it with this outcome. -/
def Reports (text : String) (completed : Bool) : Prop :=
  ∃ results device, Json.parse? text = some results ∧
    (results.at? ["clbench", "backend"]).bind Json.asText? = some "host" ∧
    (results.at? ["clbench", "platforms"]).bind Json.asInteger? = some 1 ∧
    (results.at? ["clbench", "completed"]).bind Json.asInteger? =
      some (if completed then 1 else 0) ∧
    (results.at? ["clbench", "failed"]).bind Json.asInteger? = some (if completed then 0 else 1) ∧
    results.at? ["clbench", "devices"] = some (.array [device]) ∧
    (device.at? ["outcome", "outcome"]).bind Json.asText? =
      some (if completed then "completed" else "failed")

/-- The members under which the results of a sweep are saved. -/
def resultMembers (summary : Summary) : List (String × Json) :=
  [("version", .ofText version),
   ("backend", .ofText summary.backend),
   ("platforms", .ofNat summary.platforms),
   ("completed", .ofNat summary.completed),
   ("failed", .ofNat summary.failed),
   ("devices", .array (summary.devices.map DeviceResult.toJson))]

theorem legible_results (summary : Summary) :
    (Json.record [("clbench", .record (resultMembers summary))]).sorted.Legible := by
  have hdevices : (Json.array (summary.devices.map DeviceResult.toJson)).sorted.Legible :=
    legible_sorted_array (List.forall_mem_map.2 fun result _ => result.legible_toJson)
  have hresults : (Json.record (resultMembers summary)).sorted.Legible := by
    refine legible_sorted_record ?_
    simp [resultMembers, legible_ofText, legible_ofNat, hdevices]
  exact legible_sorted_record (List.forall_mem_singleton.2 hresults)

/-- The results of a sweep of one device are read back from their text. -/
theorem resultsText_reports (result : DeviceResult) :
    Reports (Job.resultsText ⟨"host", 1, [result]⟩) result.outcome.isCompleted := by
  let summary : Summary := ⟨"host", 1, [result]⟩
  let results := (Json.record [("clbench", .record (resultMembers summary))]).sorted
  have hfound (key : String) (value : Json)
      (h : single? (resultMembers summary) key = some value) :
      results.at? ["clbench", key] = some value.sorted := by
    have hresults : single? [("clbench", record (resultMembers summary))] "clbench" =
        some (record (resultMembers summary)) := rfl
    exact (at?_sorted_record hresults [key]).trans (at?_sorted_record h [])
  have hcompleted : summary.completed = if result.outcome.isCompleted then 1 else 0 := by
    simp [summary, Summary.completed, List.countP_singleton]
  have hfailed : summary.failed = if result.outcome.isCompleted then 0 else 1 := by
    rw [Summary.failed, hcompleted]
    split <;> rfl
  refine ⟨results, result.toJson.sorted, parse?_pretty_line (legible_results summary), ?_, ?_, ?_,
    ?_, ?_, ?_⟩
  · rw [hfound "backend" (.ofText "host") (by simp [resultMembers, single?, summary])]
    exact asText?_ofText "host"
  · rw [hfound "platforms" (.ofNat 1) (by simp [resultMembers, single?, summary])]
    exact asInteger?_ofNat 1
  · rw [hfound "completed" (.ofNat summary.completed) (by simp [resultMembers, single?]),
      hcompleted]
    split
    · exact asInteger?_ofNat 1
    · exact asInteger?_ofNat 0
  · rw [hfound "failed" (.ofNat summary.failed) (by simp [resultMembers, single?]), hfailed]
    split
    · exact asInteger?_ofNat 0
    · exact asInteger?_ofNat 1
  · exact hfound "devices" (.array [result.toJson]) (by simp [resultMembers, single?, summary])
  · rw [result.at?_outcome]
    exact asText?_ofText _

end CommandLine

end Offload
