import Offload.Proofs.CommandLine.Results
import Offload.Proofs.Files.Edits
import Offload.Proofs.Sweep.Reference

/-!
# Calls of the program

What a call leaves depends on few things. There is a configuration to save if its kernel text can be
read and some device could run it (`Options.built?`), whatever backend is asked for, and there are
results to save if the backend is the host. So it is for every call whose arguments can be read
(`perform_settles`), as long as what it saves is accepted: the exit code tells whether there are
results, and never what they are.
-/

namespace Offload.CommandLine

open Files

namespace Options

/-! ### What is read and saved -/

/-- The edits in the directory for files, if one was given. -/
def inDirectory (options : Options) (edits : String → List Edit) : List Edit :=
  match options.outDir with
  | none => []
  | some directory => edits directory

/-- The edits that save the configuration. -/
def configEdits (options : Options) (config : Config) : List Edit :=
  options.inDirectory fun directory =>
    [.directories directory,
     .text (pathWithin directory "config.json") (Job.configText options config)]

/-- The edits that save a text of results. -/
def resultEdits (options : Options) (results : String) : List Edit :=
  options.inDirectory fun directory =>
    [.text (pathWithin directory "results.json") results]

variable {φ : Type} [Files Id φ]

/-- What there may be to save is accepted. -/
def Savable (options : Options) (files : φ) : Prop :=
  ∀ config summary, (editAll (options.configEdits config ++
    options.resultEdits (Job.resultsText summary)) files).1 = .ok ()

/-- The configuration with the kernel text from its file, if that can be read. -/
def configured? (options : Options) (files : φ) : Option Config :=
  match options.kernel with
  | none => some options.config
  | some path =>
    (Files.read (m := Id) path files).1.toOption.map fun text =>
      { options.config with kernelSource := text }

/-- The configuration of the sweep, if there is one that some device could run. -/
def built? (options : Options) (files : φ) : Option Config :=
  (options.configured? files).filter fun config => config.validate.isOk

/-- The files once the kernel text has been read. -/
def filesRead (options : Options) (files : φ) : φ :=
  match options.kernel with
  | none => files
  | some path => (Files.read (m := Id) path files).2

theorem Savable.exists_files {options : Options} {files : φ} (h : options.Savable files)
    (config : Config) :
    ∃ kept, editAll (options.configEdits config) files = (.ok (), kept) ∧
      ∀ summary, ∃ last, editAll (options.resultEdits (Job.resultsText summary)) kept =
        (.ok (), last) := by
  have hall (summary : Summary) : ∃ between,
      editAll (options.configEdits config) files = (.ok (), between) ∧
        ∃ last, editAll (options.resultEdits (Job.resultsText summary)) between =
          (.ok (), last) := by
    have hboth : editAll (options.configEdits config ++
        options.resultEdits (Job.resultsText summary)) files = (.ok (), _) :=
      Prod.ext (h config summary) rfl
    obtain ⟨between, hconfig, hresults⟩ := editAll_append_eq_ok.1 hboth
    exact ⟨between, hconfig, _, hresults⟩
  obtain ⟨kept, hkept, -⟩ := hall ⟨"", 0, []⟩
  refine ⟨kept, hkept, fun summary => ?_⟩
  obtain ⟨between, hbetween, hresults⟩ := hall summary
  obtain rfl : kept = between := congrArg Prod.snd (hkept.symm.trans hbetween)
  exact hresults

/-- In a file tree both files can be saved in a directory that can be made, unless there is a
    directory in their place. -/
theorem editAll_tree (options : Options) {directory : String}
    (hdirectory : options.outDir = some directory) {tree made : FileTree}
    (hmade : makeDirectories (m := Id) directory tree = (.ok (), made)) {place place' : List String}
    (hfind : made.find (pathWithin directory "config.json") = .ok place)
    (hplace : made.entry? place ≠ some .directory)
    (hfind' : made.find (pathWithin directory "results.json") = .ok place')
    (hplace' : made.entry? place' ≠ some .directory) (config : Config) (results : String) :
    editAll (options.configEdits config ++ options.resultEdits results) tree =
      (.ok (), (made.withText place (Job.configText options config)).withText place'
        results) := by
  refine editAll_append_eq_ok.2 ⟨made.withText place (Job.configText options config), ?_, ?_⟩
  · rw [configEdits, inDirectory, hdirectory]
    exact editAll_cons_eq_ok.2 ⟨_, hmade, editAll_cons_eq_ok.2
      ⟨_, FileTree.edit_text hfind hplace _, rfl⟩⟩
  · rw [resultEdits, inDirectory, hdirectory]
    exact editAll_cons_eq_ok.2 ⟨_, FileTree.edit_text (FileTree.find_withText hplace _ hfind')
      (FileTree.entry?_withText_ne_directory hplace hplace' _) _, rfl⟩

/-- No option changes the kernel's name. -/
theorem entryPoint_of_read {arguments : List String} {options : Options}
    (h : Options.read arguments = .ok options) : options.config.entryPoint = "vecadd" := by
  rw [Options.read] at h
  cases hgiven : Given.read {} none arguments with
  | error stop =>
    rw [hgiven] at h
    cases h
  | ok given =>
    rw [hgiven] at h
    change given.options = .ok options at h
    rw [Given.options] at h
    cases hall : given.verifyAll <;> cases hcount : given.verifyCount <;> rw [hall, hcount] at h <;>
      cases h <;> rfl

theorem built?_valid {options : Options} {files : φ} {config : Config}
    (h : options.built? files = some config) : config.validate = .ok () := by
  have hvalid := (Option.filter_eq_some_iff.1 h).2
  cases hvalidate : config.validate with
  | error failure =>
    rw [hvalidate] at hvalid
    cases hvalid
  | ok _ => rfl

theorem built?_entryPoint {options : Options} {files : φ} {config : Config}
    (h : options.built? files = some config) :
    config.entryPoint = options.config.entryPoint := by
  have hconfigured := (Option.filter_eq_some_iff.1 h).1
  rw [configured?] at hconfigured
  split at hconfigured
  · exact congrArg Config.entryPoint (Option.some.inj hconfigured).symm
  · obtain ⟨text, -, rfl⟩ := Option.map_eq_some_iff.1 hconfigured
    rfl

end Options

/-! ### Along a call -/

namespace Job

variable {φ ω κ : Type} {α β : Type} {machine between after : Machine φ ω κ}

/-- How a part of a call ends: with a value, or in a trouble whose exit code is the usual one. -/
inductive Ends (job : Job Id φ ω κ α) (machine after : Machine φ ω κ) : Option α → Prop
  | value {a : α} : job machine = (.ok a, after) → Ends job machine after (some a)
  | trouble (trouble : Trouble) : job machine = (.error trouble, after) → trouble.exitCode = 1 →
      Ends job machine after none

namespace Ends

variable {job : Job Id φ ω κ α} {next : α → Job Id φ ω κ β}

theorem bind {a : α} {value : Option β} (h : Ends job machine between (some a))
    (hnext : Ends (next a) between after value) : Ends (job >>= next) machine after value := by
  obtain ⟨h⟩ := h
  have hbind : (job >>= next) machine = next a between := by
    change ExceptT.bindCont next (job machine).1 (job machine).2 = _
    rw [h]
    rfl
  cases hnext with
  | value hnext => exact .value (hbind.trans hnext)
  | trouble trouble hnext hcode => exact .trouble trouble (hbind.trans hnext) hcode

/-- Nothing follows a trouble. -/
theorem bind_none (h : Ends job machine after none) : Ends (job >>= next) machine after none := by
  obtain _ | ⟨trouble, h, hcode⟩ := h
  refine .trouble trouble ?_ hcode
  change ExceptT.bindCont next (job machine).1 (job machine).2 = _
  rw [h]
  rfl

end Ends

/-- Refuses a configuration that no device could run. -/
def validated (config : Config) : Job Id φ ω κ Config :=
  match config.validate with
  | .ok () => return config
  | .error failure => throw (.configRefused failure)

theorem validated_ends (config : Config) (machine : Machine φ ω κ) :
    Ends (validated config) machine machine
      ((some config).filter fun config => config.validate.isOk) := by
  rw [Option.filter_some]
  cases hvalidate : config.validate with
  | error failure =>
    refine .trouble (.configRefused failure) ?_ rfl
    rw [validated, hvalidate]
    rfl
  | ok _ =>
    refine .value ?_
    rw [validated, hvalidate]
    rfl

theorem withFiles_run (act : φ → Except FileFault α × φ) (trouble : FileFault → Trouble)
    (machine : Machine φ ω κ) :
    (withFiles act trouble : Job Id φ ω κ α) machine =
      ((act machine.files).1.mapError trouble,
        { machine with files := (act machine.files).2 }) := rfl

theorem withFiles_ends {act : φ → Except FileFault α × φ} {trouble : FileFault → Trouble}
    {files : φ} {a : α} (h : act machine.files = (.ok a, files)) :
    Ends (withFiles (m := Id) act trouble) machine { machine with files } (some a) := by
  refine .value ?_
  rw [withFiles_run, h]
  rfl

variable [Files Id φ]

/-- Nothing happens to the files but that the kernel text may be read. -/
theorem configure_ends (options : Options) (machine : Machine φ ω κ) :
    Ends (configure options) machine
      { machine with files := options.filesRead machine.files }
      (options.built? machine.files) := by
  rw [configure, Options.built?, Options.configured?, Options.filesRead]
  cases options.kernel with
  | none => exact Ends.bind (.value rfl) (validated_ends options.config machine)
  | some path =>
    dsimp only
    cases hread : Files.read (m := Id) path machine.files with
    | mk outcome files =>
      cases outcome with
      | error fault =>
        refine Ends.bind_none (.trouble (.kernelUnreadable path fault) ?_ rfl)
        rw [withFiles_run, hread]
        rfl
      | ok text =>
        exact (withFiles_ends hread).bind
          (Ends.bind (.value rfl) (validated_ends { options.config with kernelSource := text } _))

/-- A text that is accepted is saved. -/
theorem writeFile_ends {path text : String} {created written : FileFault → Trouble} {files : φ}
    (h : edit (.text path text) machine.files = (.ok (), files)) :
    Ends (writeFile path text created written) machine { machine with files } (some ()) := by
  rw [edit] at h
  cases hcreate : create (m := Id) path machine.files with
  | mk outcome between =>
    rw [hcreate] at h
    cases outcome with
    | error fault => cases h
    | ok _ => exact (withFiles_ends hcreate).bind (withFiles_ends h)

/-- What is saved in a directory is saved in the one that was given. -/
theorem inDirectory_ends {options : Options} {save : String → Job Id φ ω κ Unit}
    {edits : String → List Edit} {files : φ}
    (hsave : ∀ directory, editAll (edits directory) machine.files = (.ok (), files) →
      Ends (save directory) machine { machine with files } (some ()))
    (h : editAll (options.inDirectory edits) machine.files = (.ok (), files)) :
    Ends (inDirectory options save) machine { machine with files } (some ()) := by
  rw [Options.inDirectory] at h
  rw [inDirectory]
  cases hdirectory : options.outDir with
  | none =>
    rw [hdirectory] at h
    obtain rfl : machine.files = files := congrArg Prod.snd h
    exact .value rfl
  | some directory =>
    rw [hdirectory] at h
    exact hsave directory h

theorem saveConfig_ends (machine : Machine φ ω κ) {options : Options} {config : Config} {files : φ}
    (h : editAll (options.configEdits config) machine.files = (.ok (), files)) :
    Ends (inDirectory options (saveConfig options config)) machine { machine with files }
      (some ()) := by
  refine inDirectory_ends (fun directory hedits => ?_) h
  obtain ⟨made, hmade, hedits⟩ := editAll_cons_eq_ok.1 hedits
  obtain ⟨_, hwritten, hedits⟩ := editAll_cons_eq_ok.1 hedits
  obtain rfl := congrArg Prod.snd hedits
  exact (withFiles_ends hmade).bind (writeFile_ends hwritten)

theorem saveResults_ends {options : Options} {summary : Summary} {files : φ}
    (h : editAll (options.resultEdits (Job.resultsText summary)) machine.files =
      (.ok (), files)) :
    Ends (inDirectory options (saveResults summary)) machine { machine with files }
      (some ()) := by
  refine inDirectory_ends (fun directory hedits => ?_) h
  obtain ⟨_, hwritten, hedits⟩ := editAll_cons_eq_ok.1 hedits
  obtain rfl := congrArg Prod.snd hedits
  exact writeFile_ends hwritten

variable [Writer Id ω] [Clock Id κ]

omit [Files Id φ] in
/-- The sweep leaves the files alone. -/
theorem sweep_ends (machine : Machine φ ω κ) (options : Options) {config : Config}
    (hvalid : config.validate = .ok ()) (hentry : config.entryPoint = "vecadd")
    (hunfailing : Writer.Unfailing machine.out) :
    ∃ result after, Ends (sweep options config) machine after (some ⟨"host", 1, [result]⟩) ∧
      after.files = machine.files ∧
      (Clock.Steady false machine.deviceClock →
        (result.outcome.isCompleted = true ↔ Source.DeclaresVectorAdd config.kernelSource)) := by
  obtain ⟨result, hall, hcompleted⟩ :=
    Sweep.all_reference hvalid hentry machine.deviceClock machine.hostClock hunfailing
  let ended := Sweep.all (B := Host.backend Id κ) config machine.out
    ⟨Host.State.initial machine.deviceClock [Host.Platform.reference], machine.hostClock, []⟩
  refine ⟨result, { machine with
    out := ended.1.2
    deviceClock := ended.2.backend.store.clock
    hostClock := ended.2.clock
    log := machine.log ++ ended.2.log.filter options.shows }, .value ?_, rfl, hcompleted⟩
  have hrun : sweep (m := Id) options config machine = (ended.1.1.mapError .sweepFailed, _) := rfl
  rw [hrun, hall]
  rfl

/-- The configuration is saved if there is one, and the results if the sweep takes place. -/
theorem benchmark_ends {options : Options} (hentry : options.config.entryPoint = "vecadd")
    (hunfailing : Writer.Unfailing machine.out)
    (hsavable : options.Savable (options.filesRead machine.files)) :
    let built := options.built? machine.files
    ∃ after summary, Ends (benchmark options) machine after (Option.map (fun _ => ()) summary) ∧
      (summary.isSome ↔ options.backend = .host ∧ built.isSome) ∧
      editAll (built.toList.flatMap options.configEdits ++
        (summary.map Job.resultsText).toList.flatMap options.resultEdits)
          (options.filesRead machine.files) = (.ok (), after.files) ∧
      ∀ config ∈ built, ∀ left ∈ summary, ∃ result, left = ⟨"host", 1, [result]⟩ ∧
        (Clock.Steady false machine.deviceClock →
          (result.outcome.isCompleted = true ↔
            Source.DeclaresVectorAdd config.kernelSource)) := by
  intro built
  have hconfigure := configure_ends options machine
  rw [benchmark]
  cases hbuilt : options.built? machine.files with
  | none =>
    rw [hbuilt] at hconfigure
    exact ⟨_, none, hconfigure.bind_none, by simp [built, hbuilt], by simp [built, hbuilt, editAll],
      by simp⟩
  | some config =>
    rw [hbuilt] at hconfigure
    obtain ⟨kept, hkept, hresults⟩ := hsavable.exists_files config
    have hsave : Ends (inDirectory options (saveConfig options config)) _ _ _ :=
      saveConfig_ends { machine with files := options.filesRead machine.files } hkept
    cases hbackend : options.backend with
    | opencl =>
      refine ⟨{ machine with files := kept }, none,
        hconfigure.bind (hsave.bind (.trouble .backendMissing rfl rfl)), ?_⟩
      simp [built, hbuilt, hkept]
    | host =>
      obtain ⟨result, swept, hsweep, hfiles, hcompleted⟩ :=
        sweep_ends { machine with files := kept } options
          (Options.built?_valid hbuilt) ((Options.built?_entryPoint hbuilt).trans hentry) hunfailing
      obtain ⟨last, hlast⟩ := hresults ⟨"host", 1, [result]⟩
      refine ⟨{ swept with files := last }, some ⟨"host", 1, [result]⟩,
        hconfigure.bind (hsave.bind (hsweep.bind (saveResults_ends (hfiles ▸ hlast)))), ?_⟩
      refine ⟨by simp [built, hbuilt], ?_, ?_⟩
      · simp [built, hbuilt, editAll_append_eq_ok, hkept, hlast]
      · rintro _ hconfig _ ⟨⟩
        obtain rfl : config = _ := Option.some.inj (hbuilt.symm.trans hconfig)
        exact ⟨result, rfl, hcompleted⟩

end Job

variable {φ ω κ : Type} [Files Id φ] [Writer Id ω] [Clock Id κ] {machine after : Machine φ ω κ}

/-- The exit code of a call tells whether all was done. -/
theorem perform_of_ends {arguments : List String} {options : Options}
    (hread : Options.read arguments = .ok options) {done : Option Unit}
    (h : Job.Ends (Job.benchmark options) machine after done) :
    ∃ ending : Ending, (perform (m := Id) arguments).run machine = (ending, after) ∧
      (ending.exitCode = 0 ↔ done.isSome) ∧ (ending.exitCode = 0 ∨ ending.exitCode = 1) := by
  cases h with
  | value h =>
    refine ⟨.done, ?_, by simp [Ending.exitCode], .inl rfl⟩
    simp only [perform, hread, StateT.run, ExceptT.run, bind, StateT.bind, h]
    rfl
  | trouble trouble h hcode =>
    refine ⟨.troubled trouble, ?_, by simp [Ending.exitCode, hcode], .inr hcode⟩
    simp only [perform, hread, StateT.run, ExceptT.run, bind, StateT.bind, h]
    rfl

end Offload.CommandLine
