import Offload.Proofs.Host.Sessions
import Offload.Proofs.Run.Refusals

/-!
# Builds of a program

A program can be built again and again, for one device and another, and anything else may be asked
in between. What a program knows of its builds is what the record says of the last ones
(`Program.Recalls`): whether a kernel can be made of it is a matter of the last build, for whatever
device this was, and the log for a device is that of the last build for a device of its name.

`State.last_build_decides` says so for all requests after the program was made, with all that can be
answered when a kernel is made.
-/

namespace Offload.Host

open Run (declaration? buildFault?)

/-! ### Builds on record -/

/-- The builds of a program on record, in order, each with its device and its answer. -/
def buildsOf (program : ProgramId) (record : List (Exchange handles)) :
    List (Device × Except Status Unit) :=
  record.filterMap fun
    | ⟨.buildProgram target device, answer⟩ =>
      if target = program then some (device, answer) else none
    | _ => none

/-- The last build of a list for a device of some name. -/
def lastFor? (name : String) (builds : List (Device × Except Status Unit)) :
    Option (Device × Except Status Unit) :=
  (builds.filter fun build => build.1.name = name).getLast?

/-- What a build of a program text for a device is answered. -/
def buildAnswer (device : Device) (source : String) : Except Status Unit :=
  match buildFault? device source with
  | some (status, _) => .error status
  | none => .ok ()

/-- The log of a build of a program text for a device, empty if there is no fault. -/
def buildLogOf (device : Device) (source : String) : String :=
  ((buildFault? device source).map (·.2)).getD ""

namespace Program

variable {source : String} {builds : List (Device × Except Status Unit)} {program : Program}

/-- What a program knows after some builds. -/
structure Recalls (source : String) (builds : List (Device × Except Status Unit))
    (program : Program) : Prop where
  source_eq : program.source = source
  answers : ∀ build ∈ builds, build.2 = buildAnswer build.1 source
  built_iff : program.built = true ↔ ∃ device, builds.getLast? = some (device, .ok ())
  declared : program.built = true → Source.scan source = .ok program.declared
  log : ∀ name, (program.logs.lookup name).getD "" =
    ((lastFor? name builds).map fun build => buildLogOf build.1 source).getD ""

theorem recalls_nil (source : String) : Recalls source [] { source } where
  source_eq := rfl
  answers := nofun
  built_iff := by simp
  declared := nofun
  log _ := rfl

theorem lastFor?_append (name : String) (build : Device × Except Status Unit) :
    lastFor? name (builds ++ [build]) =
      if build.1.name = name then some build else lastFor? name builds := by
  by_cases hname : build.1.name = name <;> simp [lastFor?, List.filter_append, hname]

/-- A build that is recorded like this is the last one. -/
theorem Recalls.record (h : Recalls source builds program) (device : Device)
    (declared : Option (List Source.Declaration))
    (hok : buildAnswer device source = .ok () ↔ declared.isSome)
    (hscan : ∀ decls, declared = some decls → Source.scan source = .ok decls) :
    Recalls source (builds ++ [(device, buildAnswer device source)])
      (program.record device (buildLogOf device source) declared) where
  source_eq := h.source_eq
  answers := List.forall_mem_append.2 ⟨h.answers, List.forall_mem_singleton.2 rfl⟩
  built_iff := by
    rw [List.getLast?_concat]
    refine hok.symm.trans ⟨fun h => ⟨device, by rw [h]⟩, ?_⟩
    rintro ⟨other, hlast⟩
    exact (Prod.mk.inj (Option.some.inj hlast)).2
  declared hbuilt := by
    obtain ⟨decls, rfl⟩ := Option.isSome_iff_exists.1 hbuilt
    exact hscan decls rfl
  log name := by
    rw [lastFor?_append, Program.record, List.lookup_cons]
    by_cases hname : device.name = name
    · simp [hname]
    · rw [if_neg hname, ← h.log name, beq_false_of_ne (Ne.symm hname)]

/-- One more build. -/
theorem Recalls.build (h : Recalls source builds program) (device : Device) :
    (program.build device).1.map (fun _ => ()) = buildAnswer device source ∧
      Recalls source (builds ++ [(device, buildAnswer device source)])
        (program.build device).2 := by
  have hbuild := Run.build_eq program device
  rw [h.source_eq] at hbuild
  have hrecord := h.record device
  rw [buildAnswer, buildLogOf] at hrecord
  rw [buildAnswer]
  cases hfault : buildFault? device source with
  | some fault =>
    rw [hfault] at hbuild hrecord
    rw [hbuild]
    exact ⟨rfl, hrecord none (by simp) nofun⟩
  | none =>
    rw [hfault] at hbuild hrecord
    obtain ⟨declared, hscan, hbuild⟩ := hbuild
    rw [hbuild]
    exact ⟨rfl, hrecord (some declared) (by simp) fun decls hdecls =>
      Option.some.inj hdecls ▸ hscan⟩

theorem Recalls.checkKernel_of_not_built (h : Recalls source builds program)
    (hlast : ¬∃ device, builds.getLast? = some (device, .ok ())) (name : String)
    (params : List ParamKind) :
    program.checkKernel name params = .error .invalidProgramExecutable := by
  have hbuilt : program.built = false :=
    Bool.eq_false_iff.2 fun hbuilt => hlast (h.built_iff.1 hbuilt)
  rw [checkKernel, hbuilt]
  rfl

theorem Recalls.checkKernel_of_built (h : Recalls source builds program)
    (hlast : ∃ device, builds.getLast? = some (device, .ok ())) (name : String)
    (params : List ParamKind) :
    program.checkKernel name params =
      match declaration? source name with
      | none => .error .invalidKernelName
      | some decl =>
        if name ≠ "vecadd" then .error .invalidKernelName
        else if decl.params ≠ 4 ∨ params ≠ vectorAddParams then .error .invalidKernelDefinition
        else .ok () := by
  have hbuilt := h.built_iff.2 hlast
  rw [checkKernel, hbuilt, declaration?, h.declared hbuilt]
  rfl

/-- The log for a device is that of the last build for a device of its name. -/
theorem Recalls.log_eq (h : Recalls source builds program) (device : Device) :
    match lastFor? device.name builds with
    | none | some (_, .ok ()) => program.log device = ""
    | some (tried, .error status) =>
      buildFault? tried source = some (status, program.log device) := by
  rw [Program.log, h.log]
  cases hlast : lastFor? device.name builds with
  | none => rfl
  | some build =>
    obtain ⟨tried, answer⟩ := build
    have hanswer := h.answers _ (List.mem_filter.1 (List.mem_of_getLast? hlast)).1
    rw [buildAnswer] at hanswer
    simp only [Option.map_some, Option.getD_some, buildLogOf]
    cases hfault : buildFault? tried source with
    | none =>
      obtain rfl : answer = .ok () := by simpa [hfault] using hanswer
      rfl
    | some fault =>
      obtain rfl : answer = .error fault.1 := by simpa [hfault] using hanswer
      exact hfault

end Program

namespace State

open Program (Recalls)

variable {κ : Type} [Clock Id κ] {state : State κ} {program : ProgramId} {found : Program}
  {source : String} {builds : List (Device × Except Status Unit)}

/-- A program stays as it is until it is built. -/
theorem program_answer (hfound : state.programs[program]? = some found)
    {request : Request handles} (hbuild : ∀ device, request ≠ .buildProgram program device) :
    (Host.answer (m := Id) request state).state.programs[program]? = some found := by
  have hlt := (Array.getElem?_eq_some_iff.1 hfound).1
  cases hspares : sparesObjects request with
  | true => rw [(objects_answer hspares state).1, hfound]
  | false =>
    cases request with
    | createProgram context source =>
      simp only [Host.answer, createProgram]
      split
      · exact hfound
      · exact (Array.getElem?_push_lt hlt).trans ((Array.getElem?_eq_getElem hlt).symm.trans hfound)
    | buildProgram target device =>
      have hne : target ≠ program := fun heq => hbuild device (heq ▸ rfl)
      simp only [Host.answer, buildProgram]
      split
      · exact hfound
      · split <;> exact (Array.getElem?_setIfInBounds_ne hne).trans hfound
    | createKernel target queue name params =>
      simp only [Host.answer, createKernel]
      split
      · exact hfound
      · split <;> exact hfound
    | setKernelArg kernel index arg =>
      simp only [Host.answer, setKernelArg]
      split
      · exact hfound
      · split
        · exact hfound
        · split <;> exact hfound
    | _ => exact absurd hspares.symm Bool.false_ne_true

omit [Clock Id κ] in
theorem buildProgram_eq (hfound : state.programs[program]? = some found) (device : Device) :
    (state.buildProgram program device).1 = (found.build device).1.map (fun _ => ()) ∧
      (state.buildProgram program device).2.programs[program]? = some (found.build device).2 := by
  have hlt := (Array.getElem?_eq_some_iff.1 hfound).1
  have hset : (state.programs.setIfInBounds program (found.build device).2)[program]? =
      some (found.build device).2 := Array.getElem?_setIfInBounds_self_of_lt hlt
  simp only [buildProgram, hfound]
  cases hbuild : (found.build device).1 with
  | error status => exact ⟨rfl, hset⟩
  | ok declared => exact ⟨rfl, hset⟩

/-- One request adds to what a program knows the build that it records, if it is one. -/
theorem recalls_answer (hfound : state.programs[program]? = some found)
    (h : Recalls source builds found) (request : Request handles) :
    ∃ after, (Host.answer (m := Id) request state).state.programs[program]? = some after ∧
      Recalls source
        (builds ++ buildsOf program [⟨request, (Host.answer (m := Id) request state).answer⟩])
        after := by
  by_cases hbuild : ∃ device, request = .buildProgram program device
  · obtain ⟨device, rfl⟩ := hbuild
    obtain ⟨hanswer, hset⟩ := buildProgram_eq hfound device
    obtain ⟨houtcome, hafter⟩ := h.build device
    refine ⟨_, hset, ?_⟩
    have hrecord : buildsOf program
        [⟨.buildProgram program device, (state.buildProgram program device).1⟩] =
          [(device, buildAnswer device source)] := by
      rw [hanswer, houtcome]
      simp [buildsOf]
    exact hrecord ▸ hafter
  · have hother : ∀ device, request ≠ .buildProgram program device :=
      fun device heq => hbuild ⟨device, heq⟩
    refine ⟨found, program_answer hfound hother, ?_⟩
    have hrecord :
        buildsOf program [⟨request, (Host.answer (m := Id) request state).answer⟩] = [] := by
      cases request with
      | buildProgram target device =>
        have hne : target ≠ program := fun heq => hother device (heq ▸ rfl)
        simp [buildsOf, hne]
      | _ => rfl
    rw [hrecord, List.append_nil]
    exact h

theorem recalls_serve (hfound : state.programs[program]? = some found)
    (h : Recalls source builds found) (requests : List (Request handles)) :
    ∃ after, (state.serve requests).programs[program]? = some after ∧
      Recalls source (builds ++ buildsOf program (state.exchanges requests)) after := by
  induction requests generalizing state found builds with
  | nil => exact ⟨found, hfound, by simpa [exchanges, buildsOf] using h⟩
  | cons request requests ih =>
    obtain ⟨after, hafter, hrecalls⟩ := recalls_answer hfound h request
    obtain ⟨last, hlast, hrecalls⟩ := ih hafter hrecalls
    rw [List.append_assoc, buildsOf, buildsOf, ← List.filterMap_append] at hrecalls
    exact ⟨last, hlast, hrecalls⟩

omit [Clock Id κ] in
theorem createKernel_eq (hfound : state.programs[program]? = some found) (name : String)
    (params : List ParamKind) :
    state.createKernel program name params =
      match found.checkKernel name params with
      | .error status => (.error status, state)
      | .ok () => (.ok state.kernels.size, { state with kernels := state.kernels.push {} }) := by
  cases hcheck : found.checkKernel name params <;> simp [createKernel, hfound, hcheck]

omit [Clock Id κ] in
/-- What is answered when a kernel is made, after a last build that succeeded. -/
theorem createKernel_of_built (hfound : state.programs[program]? = some found)
    (h : Recalls source builds found)
    (hlast : ∃ device, builds.getLast? = some (device, .ok ())) (name : String)
    (params : List ParamKind) :
    let (answer, after) := state.createKernel program name params
    answer ≠ .error .invalidProgramExecutable ∧
    (answer = .error .invalidKernelName ↔ declaration? source name = none ∨ name ≠ "vecadd") ∧
    ∀ decl, declaration? source name = some decl → name = "vecadd" →
      (answer = .error .invalidKernelDefinition ↔ decl.params ≠ 4 ∨ params ≠ vectorAddParams) ∧
      (decl.params = 4 → params = vectorAddParams →
        answer = .ok state.kernels.size ∧ after.kernels = state.kernels.push {}) := by
  have hname : Status.invalidKernelName ≠ .invalidProgramExecutable := by decide
  have hdefinition : Status.invalidKernelDefinition ≠ .invalidProgramExecutable := by decide
  have hother : Status.invalidKernelDefinition ≠ .invalidKernelName := by decide
  rw [createKernel_eq hfound, h.checkKernel_of_built hlast]
  cases declaration? source name with
  | none => simp [hname]
  | some decl =>
    by_cases hvecadd : name = "vecadd"
    · by_cases hcount : decl.params = 4 <;> by_cases hparams : params = vectorAddParams <;>
        simp [hvecadd, hcount, hparams, hdefinition, hother]
    · simp [hvecadd, hname]

/-- Whatever is asked after a program was made, it is a matter of its last build whether a kernel
    can be made of it, for whatever device this was. If there was none or it failed, no kernel can
    be made; otherwise it has to be called `vecadd` and be declared so, and the first such
    declaration must have four parameters, those that are asked for. The kernel that is made has no
    arguments yet. The log for a device is that of the last build for a device of its name. -/
theorem last_build_decides (state : State κ) {source : String}
    (hsource : ¬Text.isBlankText source) (requests : List (Request handles)) :
    ∃ program made, state.createProgram source = (.ok program, made) ∧
      let builds := buildsOf program (made.exchanges requests)
      let after := made.serve requests
      (∀ build ∈ builds, build.2 = buildAnswer build.1 source) ∧
      (∀ name params,
        let answer := (after.createKernel program name params).1
        (answer = .error .invalidProgramExecutable ↔
          builds.getLast? = none ∨
            ∃ device status, builds.getLast? = some (device, .error status)) ∧
        ∀ device, builds.getLast? = some (device, .ok ()) →
          (answer = .error .invalidKernelName ↔
            declaration? source name = none ∨ name ≠ "vecadd") ∧
          ∀ decl, declaration? source name = some decl → name = "vecadd" →
            (answer = .error .invalidKernelDefinition ↔
              decl.params ≠ 4 ∨ params ≠ [.buffer, .buffer, .buffer, .int]) ∧
            (decl.params = 4 → params = [.buffer, .buffer, .buffer, .int] →
              answer = .ok after.kernels.size ∧
                (after.createKernel program name params).2.kernels =
                  after.kernels.push { args := [none, none, none, none] })) ∧
      ∀ device, ∃ log, after.buildLog program device = .ok log ∧
        match lastFor? device.name builds with
        | none | some (_, .ok ()) => log = ""
        | some (tried, .error status) => buildFault? tried source = some (status, log) := by
  refine ⟨state.programs.size, _, by rw [createProgram, if_neg hsource], ?_⟩
  generalize hmade : { state with programs := state.programs.push { source } } = made
  intro builds after
  have hprogram : made.programs[state.programs.size]? = some { source } :=
    hmade ▸ Array.getElem?_push_size
  obtain ⟨found, hfound, hrecalls⟩ := recalls_serve hprogram (Program.recalls_nil source) requests
  have hfound : after.programs[state.programs.size]? = some found := hfound
  have hrecalls : Recalls source builds found := hrecalls
  refine ⟨hrecalls.answers, fun name params => ?_, fun device => ?_⟩
  · intro answer
    by_cases hlast : ∃ device, builds.getLast? = some (device, .ok ())
    · obtain ⟨hne, hmade⟩ := createKernel_of_built hfound hrecalls hlast name params
      refine ⟨iff_of_false hne ?_, fun _ _ => hmade⟩
      obtain ⟨device, hlast⟩ := hlast
      simp [hlast]
    · have hanswer : answer = .error .invalidProgramExecutable := by
        simp only [answer, createKernel_eq hfound, hrecalls.checkKernel_of_not_built hlast]
      refine ⟨iff_of_true hanswer ?_, fun device hdevice => absurd ⟨device, hdevice⟩ hlast⟩
      rcases hbuilds : builds.getLast? with _ | ⟨device, status | _⟩
      · exact .inl rfl
      · exact .inr ⟨device, status, rfl⟩
      · exact absurd ⟨device, hbuilds⟩ hlast
  · exact ⟨found.log device, by rw [buildLog, hfound], hrecalls.log_eq device⟩

/-- Built for a device with a compiler and then for one without, and no kernel can be made. The log
    for each device is its own. -/
theorem last_build_decides_of_no_compiler :
    let source := "__kernel void vecadd(a, b, c, n)"
    let gpu : Device := { name := "gpu", kind := .gpu }
    let cpu : Device := { name := "cpu", kind := .cpu, hasCompiler := false }
    let state : State Readings := .initial (.ofFunction fun _ => 0)
    let made := (state.createProgram source).2
    let after := made.serve [.buildProgram 0 gpu, .buildProgram 0 cpu]
    ¬Text.isBlankText source ∧
      (after.createKernel 0 "vecadd" vectorAddParams).1 = .error .invalidProgramExecutable ∧
      after.buildLog 0 gpu = .ok "" ∧
      after.buildLog 0 cpu = .ok "error: no compiler available for device 'cpu'" := by
  intro source gpu cpu state made after
  have hsource : ¬Text.isBlankText source := by decide +kernel
  have hanswer : (state.createProgram source).1 = .ok 0 := by
    rw [createProgram, if_neg hsource]
    rfl
  obtain ⟨program, made', hcreate, -, hkernel, hlog⟩ :=
    last_build_decides state hsource [.buildProgram 0 gpu, .buildProgram 0 cpu]
  have hmade : made' = made := (congrArg Prod.snd hcreate).symm
  have hprogram : program = 0 := Except.ok.inj ((congrArg Prod.fst hcreate).symm.trans hanswer)
  subst hmade hprogram
  have hbuilds : buildsOf 0 (made.exchanges [.buildProgram 0 gpu, .buildProgram 0 cpu]) =
      [(gpu, .ok ()), (cpu, .error .compilerNotAvailable)] := by decide +kernel
  have hgpu : lastFor? gpu.name [(gpu, .ok ()), (cpu, .error .compilerNotAvailable)] =
      some (gpu, .ok ()) := by decide +kernel
  have hcpu : lastFor? cpu.name [(gpu, .ok ()), (cpu, .error .compilerNotAvailable)] =
      some (cpu, .error .compilerNotAvailable) := by decide +kernel
  rw [hbuilds] at hkernel hlog
  refine ⟨hsource, (hkernel "vecadd" vectorAddParams).1.2 (.inr ⟨cpu, _, rfl⟩), ?_, ?_⟩
  · obtain ⟨log, hlog, hlast⟩ := hlog gpu
    rw [hgpu] at hlast
    obtain rfl : log = "" := hlast
    exact hlog
  · obtain ⟨log, hlog, hlast⟩ := hlog cpu
    rw [hcpu] at hlast
    obtain ⟨-, rfl⟩ := Prod.mk.inj (Option.some.inj hlast)
    exact hlog

end State

end Offload.Host
