import Offload.CommandLine.Program
import Offload.Proofs.Json.Layouts
import Mathlib.Data.List.Forall2
import Mathlib.Data.List.Perm.Basic

/-!
# Configurations read back

A configuration is read back from its text and from the text of the object with its members in any
order, however they are laid out (`Config.reads_back`). The configuration that a call saves is one
of these texts, with the members in the order of their keys.

The order of the members does not matter since each is looked up under its own key
(`Config.single?_perm`, `Config.texts?_perm`); what stands under a key is the literal of a text or
an integer, which is read exactly.
-/

namespace Offload

open Json

/-! ### Members of an object -/

namespace Config

/-- The members of the object that a configuration is written as. -/
def members (config : Config) : List (List Char × Json) :=
  (keys.zip config.values).map fun (key, value) => (escape key.toList, value)

theorem toJson_eq (config : Config) : config.toJson = .object config.members := rfl

theorem texts?_cons (key : List Char) (value : Json) (members : List (List Char × Json)) :
    texts? ((key, value) :: members) =
      (asText? (.string key)).bind fun text => (texts? members).map ((text, value) :: ·) := by
  rw [texts?, List.mapM_cons, ← texts?]
  simp only [Option.bind_eq_bind, Option.pure_def]
  cases asText? (.string key) <;> cases texts? members <;> rfl

/-- Keys are read one by one. -/
theorem texts?_eq_some {members : List (List Char × Json)} {pairs : List (String × Json)} :
    texts? members = some pairs ↔
      List.Forall₂ (fun member pair => asText? (.string member.1) = some pair.1 ∧
        member.2 = pair.2) members pairs := by
  induction members generalizing pairs with
  | nil => simp [texts?, eq_comm]
  | cons member members ih =>
    obtain ⟨key, value⟩ := member
    rw [texts?_cons, Option.bind_eq_some_iff]
    constructor
    · rintro ⟨text, htext, hrest⟩
      obtain ⟨found, hfound, rfl⟩ := Option.map_eq_some_iff.1 hrest
      exact .cons ⟨htext, rfl⟩ (ih.1 hfound)
    · rintro (_ | ⟨⟨htext, rfl⟩, hrest⟩)
      exact ⟨_, htext, by rw [ih.2 hrest]; rfl⟩

theorem texts?_record (pairs : List (String × Json)) :
    texts? (pairs.map fun (key, value) => (escape key.toList, value)) = some pairs := by
  rw [texts?_eq_some, List.forall₂_map_left_iff, List.forall₂_same]
  exact fun pair _ => ⟨asText?_ofText pair.1, rfl⟩

/-- Members in another order have the same keys in another order. -/
theorem texts?_perm {members members' : List (List Char × Json)} (h : members.Perm members')
    {pairs : List (String × Json)} (hpairs : texts? members = some pairs) :
    ∃ pairs', texts? members' = some pairs' ∧ pairs'.Perm pairs := by
  obtain ⟨pairs', hpairs', hperm⟩ := List.perm_comp_forall₂ h.symm (texts?_eq_some.1 hpairs)
  exact ⟨pairs', texts?_eq_some.2 hpairs', hperm⟩

/-- What stands under a key does not depend on the order of the members. -/
theorem single?_perm {pairs pairs' : List (String × Json)} (h : pairs.Perm pairs') (key : String) :
    single? pairs key = single? pairs' key := by
  have hfilter := h.filter fun member => member.1 = key
  rw [single?, single?]
  generalize pairs.filter (fun member => member.1 = key) = found at hfilter ⊢
  generalize pairs'.filter (fun member => member.1 = key) = found' at hfilter ⊢
  match found, found', hfilter with
  | [], _, hfilter => rw [hfilter.nil_eq]
  | [_], _, hfilter => rw [List.singleton_perm.1 hfilter]
  | _ :: _ :: _, _ :: _ :: _, _ => rfl
  | _ :: _ :: _, [_], hfilter => cases hfilter.length_eq
  | _ :: _ :: _, [], hfilter => cases hfilter.length_eq

theorem mapM_single? (config : Config) :
    keys.mapM (single? (keys.zip config.values)) = some config.values := by
  simp [keys, values, single?]

end Config

theorem Sample.ofJson?_toJson (sample : Sample) : ofJson? sample.toJson = some sample := by
  cases sample with
  | leading count =>
    have hkey : asText? (.string (escape "prefix".toList)) = some "prefix" := asText?_ofText _
    simp only [toJson, record, List.map_cons, List.map_nil, ofJson?, hkey, asUInt64?_ofNat]
    rfl
  | all =>
    have hword : asText? (.ofText "all") = some "all" := asText?_ofText _
    rw [toJson, ofJson?]
    · simp [hword]
    · intro _ _ h
      cases h

namespace Config

theorem ofValues?_values (config : Config) : ofValues? config.values = some config := by
  simp [ofValues?, values, asUInt64?_ofNat, asInt32?_ofInt, asText?_ofText, Sample.ofJson?_toJson]

/-- A configuration is read from its members in any order. -/
theorem ofJson?_of_perm {config : Config} {members : List (List Char × Json)}
    (h : members.Perm config.members) : ofJson? (.object members) = some config := by
  obtain ⟨pairs, hpairs, hperm⟩ := texts?_perm h.symm (texts?_record _)
  have hsingle : single? pairs = single? (keys.zip config.values) :=
    funext fun key => single?_perm hperm key
  simp [ofJson?, hpairs, hsingle, mapM_single?, ofValues?_values]

/-! ### Legible members -/

theorem legible_sample (sample : Sample) : sample.toJson.Legible := by
  cases sample with
  | leading count =>
    refine legible_object fun member hmember => ?_
    rw [List.mem_singleton.1 hmember]
    exact ⟨legible_ofText "prefix", legible_ofNat _⟩
  | all => exact legible_ofText "all"

theorem legible_values (config : Config) : ∀ value ∈ config.values, value.Legible := by
  simp [values, legible_ofNat, legible_ofInt, legible_sample, legible_ofText]

theorem legible_members {config : Config} {members : List (List Char × Json)}
    (h : members.Perm config.members) : (object members).Legible := by
  refine legible_object fun member hmember => ?_
  obtain ⟨⟨key, value⟩, hpair, rfl⟩ := List.mem_map.1 (h.mem_iff.1 hmember)
  exact ⟨legible_ofText key, legible_values config value (List.of_mem_zip hpair).2⟩

/-! ### The order of keys -/

theorem sortedMembers_eq (members : List (List Char × Json)) :
    sortedMembers members = members.map fun member => (member.1, member.2.sorted) := by
  induction members with
  | nil => rfl
  | cons member members ih => rw [sortedMembers, ih, List.map_cons]

theorem sorted_values (config : Config) : ∀ value ∈ config.values, value.sorted = value := by
  have hsample : config.sample.toJson.sorted = config.sample.toJson := by
    cases config.sample <;> simp [Sample.toJson, record, ofText, ofNat, sorted, sortedMembers]
  simp [values, ofNat, ofInt, ofText, sorted, hsample]

/-- The keys do not decrease. -/
def InOrder (members : List (List Char × Json)) : Prop :=
  members.Pairwise fun x y => ¬y.1 < x.1

theorem inOrder_mergeSort (members : List (List Char × Json)) :
    InOrder (members.mergeSort fun x y => !decide (y.1 < x.1)) := by
  refine (List.pairwise_mergeSort (fun x y z h h' => ?_) (fun x y => ?_) members).imp ?_
  · simp only [Bool.not_eq_true', decide_eq_false_iff_not] at h h' ⊢
    exact List.le_trans h h'
  · simp only [Bool.or_eq_true, Bool.not_eq_true', decide_eq_false_iff_not]
    exact List.le_total x.1 y.1
  · intro x y h
    simpa using h

/-- Sorted, a configuration has the same members in the order of their keys. -/
theorem exists_sorted (config : Config) : ∃ members, config.toJson.sorted = .object members ∧
    members.Perm config.members ∧ InOrder members := by
  have hmembers : sortedMembers config.members = config.members := by
    rw [sortedMembers_eq]
    refine (List.map_congr_left fun member hmember => ?_).trans (List.map_id _)
    obtain ⟨⟨key, value⟩, hpair, rfl⟩ := List.mem_map.1 hmember
    exact congrArg (Prod.mk _) (sorted_values config value (List.of_mem_zip hpair).2)
  refine ⟨_, by rw [toJson_eq, sorted, hmembers], List.mergeSort_perm _ _, inOrder_mergeSort _⟩

/-! ### Reading back -/

/-- A configuration is read from every layout of its members in any order. -/
theorem parse?_of_perm {config : Config} {members : List (List Char × Json)}
    (h : members.Perm config.members) {text : List Char}
    (htext : Token.IsLayout (object members).tokens text) :
    parse? (String.ofList text) = some config := by
  rw [parse?, parse?_layout (legible_members h) htext]
  exact ofJson?_of_perm h

/-- The object that is saved names the backend first. -/
theorem sorted_saved (backend bench : Json) :
    (record [("backend", backend), ("bench", bench)]).sorted =
      record [("backend", backend.sorted), ("bench", bench.sorted)] := by
  have hkeys : (!decide (escape "bench".toList < escape "backend".toList)) = true := by decide
  simp only [record, List.map_cons, List.map_nil, sorted, sortedMembers]
  exact congrArg object (List.mergeSort_of_pairwise (List.pairwise_pair.2 hkeys))

/-- A configuration is read back from its text. So it is from every layout of the object with its
    members in any order, and the file that a call saves holds such an object next to the backend,
    with its members in the order of their keys. -/
theorem reads_back (config : Config) :
    parse? config.toJson.compact = some config ∧
      (∀ members, members.Perm config.members →
        ofJson? (.object members) = some config ∧
        ∀ text, Token.IsLayout (Json.object members).tokens text →
          parse? (String.ofList text) = some config) ∧
      ∀ options, ∃ members, members.Perm config.members ∧ InOrder members ∧
        Json.parse? (CommandLine.Job.configText options config) = some (.record
          [("backend", .ofText options.backend.key), ("bench", .object members)]) ∧
        ofJson? (.object members) = some config ∧
        parse? (Json.object members).pretty = some config := by
  refine ⟨?_, fun members h => ⟨ofJson?_of_perm h, fun text => parse?_of_perm h⟩, fun options => ?_⟩
  · exact parse?_of_perm .rfl (isLayout_compact _)
  obtain ⟨members, hsorted, hperm, horder⟩ := exists_sorted config
  have hbench : (object members).Legible := legible_members hperm
  have hsaved : (record [("backend", .ofText options.backend.key),
      ("bench", .object members)]).Legible := by
    refine legible_object ?_
    simp only [List.map_cons, List.map_nil, List.forall_mem_cons]
    exact ⟨⟨legible_ofText _, legible_ofText _⟩, ⟨legible_ofText _, hbench⟩, List.forall_mem_nil _⟩
  refine ⟨members, hperm, horder, ?_, ofJson?_of_perm hperm, ?_⟩
  · rw [CommandLine.Job.configText, sorted_saved, hsorted]
    exact parse?_pretty hsaved
  · rw [parse?, parse?_pretty hbench]
    exact ofJson?_of_perm hperm

/-- The members backwards, with the largest numbers and with texts that need escapes. -/
theorem reads_back_of_reversed :
    let config : Config :=
      { elements := 18446744073709551615, fillA := -2147483648, fillB := 2147483647,
        sample := .leading 18446744073709551615, kernelSource := "\"\\\x00\x1f\t/",
        entryPoint := "\x7f\u00e9\u2028", separatorMarker := "" }
    let members := config.members.reverse
    members.Perm config.members ∧ parse? (Json.object members).pretty = some config := by
  intro config members
  have hperm : members.Perm config.members := List.reverse_perm _
  exact ⟨hperm, ((reads_back config).2.1 members hperm).2 _ (isLayout_pretty (object members))⟩

end Config

end Offload
