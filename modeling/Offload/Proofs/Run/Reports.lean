import Offload.Proofs.Host.Completion
import Offload.Proofs.Run.Refusals
import Offload.Proofs.Run.Sums

/-!
# Reports

What a run on a device of the host backend comes to is settled beforehand: the first of the reasons
against it, or else a report on sums that are all right, unless the device counts time backwards
(`Run.onDevice_refuses_or_reports`). So none of the other failures can occur there, whatever the
device, the program text and the size. Once the arguments are bound, the four commands are a pass on
a queue without other commands (`Run.Underway`), and they complete with stamps (`Run.Completed`).
-/

namespace Offload

namespace Run

section

variable {m : Type → Type} [Monad m] {B : Backend m} {κ : Type} [Clock m κ]

/-- What is left of a run once it has been set up. -/
def measure (config : Config)
    (prepared : Resources B.handles × B.handles.Kernel × Buffers B.handles) :
    Attempt B κ Report := do
  let vectors := Vectors.filled config.elements.toNat config.fillA config.fillB
  let (outcome, vectors) ← always (execute prepared.1 prepared.2.1 prepared.2.2 vectors)
  match outcome with
  | .error failure => throw failure
  | .ok execution => collect execution vectors config.sample

theorem onDevice_eq_measure [LawfulMonad m] (device : B.handles.Device) (config : Config) :
    onDevice (B := B) (κ := κ) device config =
      prepare device config.kernelSource config.entryPoint config.elements >>= measure config :=
  onDevice_eq device config

end

theorem onDevice_ensures {B : Backend Id} {κ : Type} [Clock Id κ] {device : B.handles.Device}
    {config : Config} {before : B.State → Prop} {after : Except Failure Report → B.State → Prop}
    (h : Ensures (B := B) (κ := κ) (prepare device config.kernelSource config.entryPoint
      config.elements >>= measure config).run before after) :
    Ensures (B := B) (κ := κ) (onDevice device config).run before after := by
  rw [onDevice_eq_measure]
  exact h

variable {κ κ' : Type} [Clock Id κ] {device : Host.Device} {queue : Host.QueueId}
  {kernel : Host.KernelId} {buffers : Buffers Host.handles} {vectors : Vectors}
  {state : Host.State κ}

/-! ### Arguments -/

/-- The arguments of the kernel. -/
def bindings (buffers : Buffers Host.handles) : Host.Arguments :=
  ⟨buffers.a, buffers.b, buffers.c, Int32.ofNat buffers.size.toNat⟩

/-- The run has its queue and its buffers, and its kernel has some property. -/
structure Armed (device : Host.Device) (queue : Host.QueueId) (kernel : Host.KernelId)
    (buffers : Buffers Host.handles) (property : Host.Kernel → Prop) (state : Host.State κ) :
    Prop where
  opened : Opened device queue state
  sized : Sized buffers state
  holds : ∃ found, state.kernels[kernel]? = some found ∧ property found

omit [Clock Id κ] in
theorem Sized.of_shape {state' : Host.State κ} (h : Sized buffers state)
    (hshape : ∀ buffer found, state.store.shape buffer = some found →
      state'.store.shape buffer = some found) : Sized buffers state' :=
  ⟨hshape _ _ h.shape_a, hshape _ _ h.shape_b, hshape _ _ h.shape_c⟩

omit [Clock Id κ] in
theorem Sized.hasBuffer (h : Sized buffers state) {index : Nat} {arg : Argument Host.BufferId}
    (harg : (bindings buffers).list[index]? = some arg) : state.hasBuffer arg := by
  refine Host.State.hasBuffer_of_list ?_ harg
  simp [bindings, h.shape_a, h.shape_b, h.shape_c]

/-- Once the first arguments have been bound, the next one can be. -/
theorem setKernelArg_armed {index : Nat} {arg : Argument Host.BufferId}
    (harg : (bindings buffers).list[index]? = some arg) :
    Ensures (B := Host.backend Id κ) (ask (.setKernelArg kernel index arg) : Run _ κ' _)
      (Armed device queue kernel buffers (·.HasBound (bindings buffers) index))
      fun answer state => answer = .ok () ∧
        Armed device queue kernel buffers (·.HasBound (bindings buffers) (index + 1)) state := by
  refine ask_host fun state h => ?_
  have hopened := h.opened.answer (.setKernelArg kernel index arg) rfl
  obtain ⟨old, hold, hbound⟩ := h.holds
  obtain ⟨kernels, new, hset, -, hnew, hbound'⟩ :=
    Host.State.setKernelArg_hasBound hold hbound harg (h.sized.hasBuffer harg)
  simp only [Host.answer, hset] at hopened ⊢
  exact ⟨rfl, hopened, h.sized.of_shape fun _ _ hfound => hfound, new, hnew, hbound'⟩

/-- All arguments can be bound. -/
theorem bindArguments_armed :
    Ensures (B := Host.backend Id κ)
      (bindArguments kernel 0 [.buffer buffers.a, .buffer buffers.b, .buffer buffers.c,
        .int (Int32.ofNat buffers.size.toNat)] : Run _ κ' _)
      (Armed device queue kernel buffers fun _ => True)
      fun bound state => bound = .ok () ∧ Armed device queue kernel buffers
        (·.arguments? = some (bindings buffers).vector) state := by
  have hbind := bindArguments_ok (B := Host.backend Id κ) (κ := κ')
    (fun index => Armed device queue kernel buffers (·.HasBound (bindings buffers) index))
    fun index arg harg => (Nat.zero_add index).symm ▸ setKernelArg_armed harg
  rintro world ⟨⟨⟨hreachable, hsteady⟩, hqueue⟩, hsized, found, hfound, -⟩
  have htyped := (hreachable.known found (Array.mem_of_getElem? hfound)).1
  obtain ⟨hbound, hafter⟩ := hbind world
    ⟨⟨⟨hreachable, hsteady⟩, hqueue⟩, hsized, found, hfound, .zero htyped _⟩
  exact ⟨hbound, hafter.opened, hafter.sized,
    hafter.holds.imp fun _ hfound => ⟨hfound.1, hfound.2.arguments?_eq⟩⟩

/-! ### Submission -/

/-- The pass of an execution where so many events have been given out before. -/
abbrev passAt (buffers : Buffers Host.handles) (vectors : Vectors) (base : Host.EventId) :
    Host.Pass :=
  passFrom (bindings buffers) buffers.size vectors base

/-- The first commands of a pass have been submitted to a queue that takes stamps. -/
structure Underway (device : Host.Device) (queue : Host.QueueId) (kernel : Host.KernelId)
    (buffers : Buffers Host.handles) (vectors : Vectors) (base count : Nat) (state : Host.State κ) :
    Prop where
  timed : state.Timed queue device.backwardsClock base
  pass : (passAt buffers vectors base).Underway queue kernel buffers.size.toNat count state

theorem enqueueWrite_underway {base count : Nat} {buffer : Host.BufferId} {data : Array Int32}
    (hcommand : (passAt buffers vectors base).commands[count]? =
      some ⟨.write buffer data, [], base + count⟩)
    (hshape : ∀ state : Host.State κ,
      (passAt buffers vectors base).Underway queue kernel buffers.size.toNat count state →
      state.store.shape buffer = some (.input, buffers.size.toNat))
    (hdata : data.size = buffers.size.toNat) :
    Ensures (B := Host.backend Id κ)
      (ask (.enqueueWrite queue buffer false data [] : Request Host.handles) : Run _ κ' _)
      (Underway device queue kernel buffers vectors base count)
      fun (answer : Except Status Host.EventId) state => answer = .ok (base + count) ∧
        Underway device queue kernel buffers vectors base (count + 1) state := by
  refine ask_host fun state h => ?_
  obtain ⟨hanswer, hpass⟩ :=
    h.pass.enqueueWrite hcommand (hshape state h.pass) (Nat.le_of_eq hdata)
  simp only [Host.answer, hanswer]
  exact ⟨rfl, (h.timed.submit _ _).of_same rfl rfl rfl, hpass⟩

theorem enqueueKernel_underway {base : Nat} :
    Ensures (B := Host.backend Id κ)
      (ask (.enqueueKernel queue kernel buffers.size [base, base + 1] : Request Host.handles) :
        Run _ κ' _)
      (Underway device queue kernel buffers vectors base 2)
      fun (answer : Except Status Host.EventId) state => answer = .ok (base + 2) ∧
        Underway device queue kernel buffers vectors base 3 state := by
  refine ask_host fun state h => ?_
  obtain ⟨hanswer, hpass⟩ := h.pass.enqueueKernel
  have hanswer : state.enqueueKernel queue kernel buffers.size [base, base + 1] = _ := hanswer
  simp only [Host.answer, hanswer]
  exact ⟨rfl, (h.timed.submit _ _).of_same rfl rfl rfl, hpass⟩

/-! ### Completion -/

/-- The events of an execution where so many have been given out before. -/
def eventsFrom (base : Host.EventId) : StageEvents Host.EventId :=
  ⟨base, base + 1, base + 2, base + 3⟩

/-- All commands of a pass have completed with stamps, and nothing is pending any more. -/
structure Completed (device : Host.Device) (queue : Host.QueueId) (base : Host.EventId)
    (state : Host.State κ) : Prop where
  timed : state.Timed queue device.backwardsClock base
  idle : state.pending queue = []
  complete : ∀ stage, ∃ stamps, state.store.status ((eventsFrom base).get stage) = .complete stamps

theorem Completed.takeNotices {base : Host.EventId} (h : Completed device queue base state) :
    Completed device queue base state.takeNotices.2 :=
  ⟨h.timed.of_same rfl rfl rfl, h.idle, h.complete⟩

theorem enqueueRead_completes {base : Nat} (hcount : ¬maxElements < buffers.size)
    (hsize : vectors.a.size = buffers.size.toNat) :
    Ensures (B := Host.backend Id κ)
      (ask (.enqueueRead queue buffers.c true vectors.c [base + 2] : Request Host.handles) :
        Run _ κ' _)
      (Underway device queue kernel buffers vectors base 3)
      fun (answer : Except Status Host.EventId × Vector Int32 vectors.c.size) state =>
        (answer.1 = .ok (base + 3) ∧
          answer.2.toArray = Array.zipWith (· + ·) vectors.a vectors.b) ∧
        Completed device queue base state := by
  refine ask_host fun state h => ?_
  have hlength : vectors.c.size = buffers.size.toNat := vectors.size_c.trans hsize
  have hactive := activeItems_count hcount
  obtain ⟨log, after, sums, hsteps, hanswer, hsums, -, hidle, hcomplete⟩ :=
    h.pass.enqueueRead_completes rfl vectors.size_c.symm (vectors.size_b.trans vectors.size_c.symm)
      (hactive.symm ▸ Nat.le_of_eq hlength) (Nat.le_of_eq hactive)
  obtain ⟨hwriteA, hwriteB, hadded, hread⟩ := Host.Pass.forall_mem_commands.1 hcomplete
  have hanswer : state.enqueueRead (m := Id) queue buffers.c vectors.c [base + 2] = _ := hanswer
  simp only [Host.answer, hanswer]
  refine ⟨⟨rfl, hsums⟩,
    Completed.takeNotices ⟨(h.timed.submit _ _).steps hsteps, hidle, fun stage => ?_⟩⟩
  cases stage with
  | writeA => exact hwriteA
  | writeB => exact hwriteB
  | kernel => exact hadded
  | readC => exact hread

theorem submit_completes {base : Nat} (hcount : ¬maxElements < buffers.size)
    (hsize : vectors.a.size = buffers.size.toNat) :
    Ensures (B := Host.backend Id κ) (submit queue kernel buffers vectors : Run _ κ' _)
      (Underway device queue kernel buffers vectors base 0)
      fun submission state => submission.outcome = .ok (eventsFrom base) ∧
        Summed vectors submission.vectors ∧ Completed device queue base state := by
  have hsizeB : vectors.b.size = buffers.size.toNat := vectors.size_b.trans hsize
  refine Ensures.bind (enqueueWrite_underway rfl (fun _ h => h.ready.shape_a) hsize)
    fun answer => .given fun hanswer => ?_
  obtain rfl : answer = .ok base := hanswer
  refine Ensures.bind (enqueueWrite_underway rfl (fun _ h => h.ready.shape_b) hsizeB)
    fun answer => .given fun hanswer => ?_
  obtain rfl : answer = .ok (base + 1) := hanswer
  refine Ensures.bind enqueueKernel_underway fun answer => .given fun hanswer => ?_
  obtain rfl : answer = .ok (base + 2) := hanswer
  refine Ensures.bind (enqueueRead_completes hcount hsize)
    fun ⟨answer, out⟩ => .given fun ⟨hanswer, hout⟩ => ?_
  obtain rfl : answer = .ok (base + 3) := hanswer
  exact .pure fun _ h => ⟨rfl, ⟨rfl, rfl, hout⟩, h⟩

/-- There is nothing left to settle. -/
theorem settle_completed {base : Nat} (submitted : List Host.EventId) (left : Vectors) :
    Ensures (B := Host.backend Id κ) (settle queue submitted left : Run _ κ' _)
      (Completed device queue base)
      fun settled state => settled = (.ok (), left) ∧ Completed device queue base state := by
  have hfinish : Ensures (B := Host.backend Id κ)
      (ask (.finish queue : Request Host.handles) : Run _ κ' _) (Completed device queue base)
      fun (answer : Except Status Unit) state => answer = .ok () ∧
        Completed device queue base state := by
    refine ask_host fun state h => ?_
    obtain ⟨q, hq, -⟩ := h.timed.flags
    have hdrive := Host.State.drive_of_idle (Array.getElem?_eq_some_iff.1 hq).1 h.idle none
    simp only [Host.answer, Host.State.finish, hdrive]
    exact ⟨rfl, h.takeNotices⟩
  refine Ensures.bind hfinish fun answer => .given fun hanswer => ?_
  obtain rfl : answer = .ok () := hanswer
  exact .pure fun _ h => ⟨rfl, h⟩

theorem Armed.underway (vectors : Vectors) (hne : buffers.a ≠ buffers.b)
    (h : Armed device queue kernel buffers (·.arguments? = some (bindings buffers).vector) state) :
    Underway device queue kernel buffers vectors state.store.events.size 0 state := by
  obtain ⟨⟨⟨hreachable, hsteady⟩, hqueue⟩, hsized, found, hfound, hbound⟩ := h
  have hready : (passAt buffers vectors state.store.events.size).Ready queue kernel
      buffers.size.toNat state :=
    ⟨hreachable, (Array.getElem?_eq_some_iff.1 hqueue).1, hne, hsized.shape_a, hsized.shape_b,
      hsized.shape_c, by simp [hfound, hbound, passFrom]⟩
  refine ⟨⟨hsteady, ⟨_, hqueue, rfl, rfl⟩, fun event entry hle hentry => ?_⟩, hready,
    passFrom_consecutive _ _ _ _, by simp [Host.State.pending, hqueue], rfl⟩
  exact absurd (Array.getElem?_eq_some_iff.1 hentry).1 (Nat.not_lt.2 hle)

/-- An execution of vectors of the size of the buffers succeeds, if the kernel can count it. -/
theorem execute_completes [Clock Id κ'] {resources : Resources Host.handles}
    (hcount : ¬maxElements < buffers.size) (hne : buffers.a ≠ buffers.b)
    (hsize : vectors.a.size = buffers.size.toNat) :
    Ensures (B := Host.backend Id κ) (execute resources kernel buffers vectors : Run _ κ' _)
      (Armed device resources.queue kernel buffers fun _ => True)
      fun result state => ∃ base execution, result.1 = .ok execution ∧
        execution.events = eventsFrom base ∧ Summed vectors result.2 ∧
        Completed device resources.queue base state := by
  have hsubmit : Ensures (B := Host.backend Id κ)
      (submit resources.queue kernel buffers vectors : Run _ κ' _)
      (Armed device resources.queue kernel buffers (·.arguments? = some (bindings buffers).vector))
      fun submission state => ∃ base, submission.outcome = .ok (eventsFrom base) ∧
        Summed vectors submission.vectors ∧ Completed device resources.queue base state := by
    intro world h
    exact ⟨_, submit_completes hcount hsize world (h.underway vectors hne)⟩
  have hsettle (submission : Submission Host.EventId) : Ensures (B := Host.backend Id κ)
      (settle resources.queue submission.submitted submission.vectors : Run _ κ' _)
      (fun state => ∃ base, submission.outcome = .ok (eventsFrom base) ∧
        Summed vectors submission.vectors ∧ Completed device resources.queue base state)
      fun settled state => ∃ base, settled = (.ok (), submission.vectors) ∧
        submission.outcome = .ok (eventsFrom base) ∧ Summed vectors submission.vectors ∧
        Completed device resources.queue base state := by
    rintro world ⟨base, houtcome, hsummed, h⟩
    obtain ⟨hsettled, hafter⟩ := settle_completed _ _ world h
    exact ⟨base, hsettled, houtcome, hsummed, hafter⟩
  refine .execute_of_outcome (fun _ _ _ hlarge => absurd hlarge hcount)
    (fun _ => bindArguments_armed) (fun _ _ h => nomatch h.1)
    (fun _ => hsubmit.mono (fun _ h => h.2) fun _ _ h => h) hsettle ?_ ?_
  · -- neither the submission nor the drain has failed
    rintro submission drained left failure state ⟨base, hsettled, houtcome, -⟩ hfailed
    obtain ⟨rfl, rfl⟩ := Prod.mk.inj hsettled
    rcases hfailed with hfailed | ⟨status, hfailed⟩
    · exact nomatch houtcome.symm.trans hfailed
    · exact nomatch hfailed
  · rintro submission events left overall state ⟨base, hsettled, houtcome, hsummed, h⟩ hevents
    obtain ⟨-, rfl⟩ := Prod.mk.inj hsettled
    obtain rfl := Except.ok.inj (houtcome.symm.trans hevents)
    exact ⟨base, _, rfl, rfl, hsummed, h⟩

/-! ### Reports -/

theorem profiling_completed {base : Nat} (stage : Stage) :
    Ensures (B := Host.backend Id κ)
      (ask (.profiling ((eventsFrom base).get stage) : Request Host.handles) : Run _ κ' _)
      (Completed device queue base)
      (Decided (ε := Status) none fun (stamps : Stamps) state =>
        (stamps.elapsed? = none ↔ device.backwardsClock = true) ∧
          Completed device queue base state) := by
  refine ask_host fun state h => ?_
  have hle : base ≤ (eventsFrom base).get stage := by
    cases stage <;> simp [eventsFrom, StageEvents.get]
  obtain ⟨stamps, hprofiling, helapsed⟩ := h.timed.profiling hle (h.complete stage)
  exact ⟨stamps, hprofiling, helapsed, h.takeNotices⟩

/-- The stamps of a stage run backwards. -/
def Backwards (stage : Stage) (failure : Failure) : Prop :=
  ∃ start stop, stop < start ∧ failure = .nonMonotonicTimestamps stage start stop

theorem stageTime_decides {base : Nat} (hforwards : device.backwardsClock = false) (stage : Stage) :
    Decides (B := Host.backend Id κ)
      (stageTime ((eventsFrom base).get stage) stage : Attempt _ κ' _)
      (Completed device queue base) none fun _ state => Completed device queue base state := by
  refine Decides.none_bind (.orFail (profiling_completed stage)) fun stamps =>
    .given fun helapsed => ?_
  cases hstamps : stamps.elapsed? with
  | none => exact absurd (hforwards.symm.trans (helapsed.1 hstamps)) Bool.false_ne_true
  | some elapsed => exact .pure fun _ h => h

theorem stageTime_fails {base : Nat} (hbackwards : device.backwardsClock = true) (stage : Stage) :
    Ensures (B := Host.backend Id κ)
      (stageTime ((eventsFrom base).get stage) stage : Attempt _ κ' _).run
      (Completed device queue base)
      fun answer _ => ∃ failure, Backwards stage failure ∧ answer = .error failure := by
  refine Decides.andThen (Decides.orFail (profiling_completed stage)) fun stamps =>
    .given fun helapsed => ?_
  have hnone := helapsed.2 hbackwards
  rw [hnone]
  intro world _
  exact ⟨_, ⟨stamps.start, stamps.stop, Stamps.elapsed?_eq_none_iff.1 hnone, rfl⟩, rfl⟩

theorem collect_decides {base : Nat} (hforwards : device.backwardsClock = false) (overall : UInt64)
    (vectors : Vectors) (sample : Sample) :
    Decides (B := Host.backend Id κ)
      (collect ⟨eventsFrom base, overall⟩ vectors sample : Attempt _ κ' _)
      (Completed device queue base) none
      fun report _ => report.elements = vectors.size ∧ report.verdict = vectors.verify sample := by
  have htime (stage : Stage) : Decides (B := Host.backend Id κ)
      (stageTime ((eventsFrom base).get stage) stage : Attempt _ κ' _) (Completed device queue base)
      none fun _ state => Completed device queue base state := stageTime_decides hforwards stage
  refine Decides.none_bind (htime .writeA) fun writeA => ?_
  refine Decides.none_bind (htime .writeB) fun writeB => ?_
  refine Decides.none_bind (htime .kernel) fun kernel => ?_
  exact Decides.none_bind (htime .readC) fun readC => .pure fun _ _ => ⟨rfl, rfl⟩

theorem collect_fails {base : Nat} (hbackwards : device.backwardsClock = true) (overall : UInt64)
    (vectors : Vectors) (sample : Sample) :
    Ensures (B := Host.backend Id κ)
      (collect ⟨eventsFrom base, overall⟩ vectors sample : Attempt _ κ' _).run
      (Completed device queue base)
      fun answer _ => ∃ failure, Backwards .writeA failure ∧ answer = .error failure :=
  Ensures.bind_of_failed (stageTime_fails hbackwards .writeA)

end Run

namespace Vectors

variable {vectors : Vectors}

theorem firstMismatch?_eq_none (h : vectors.c = Array.zipWith (· + ·) vectors.a vectors.b)
    (limit i : Nat) : vectors.firstMismatch? limit i = none := by
  fun_induction firstMismatch? vectors limit i with
  | case1 i hi hb hc expected actual heq ih => exact ih
  | case2 i hi hb hc expected actual hne =>
    refine absurd ?_ hne
    simp only [actual, expected, h, Array.getElem_zipWith]
  | case3 => rfl

/-- Sums that are all right pass, whatever sample is checked. -/
theorem verify_eq_passed (h : vectors.c = Array.zipWith (· + ·) vectors.a vectors.b)
    (sample : Sample) :
    vectors.verify sample = .passed (sample.count vectors.size) sample.isExhaustive := by
  rw [verify, firstMismatch?_eq_none h, Option.getD_none]

end Vectors

namespace Run

variable {κ κ' : Type} [Clock Id κ] [Clock Id κ'] {device : Host.Device} {config : Config}
  {resources : Resources Host.handles} {kernel : Host.KernelId} {buffers : Buffers Host.handles}

/-- What a run answers that has not been refused. -/
def Reported (device : Host.Device) (config : Config) (answer : Except Failure Report) : Prop :=
  if device.backwardsClock then
    ∃ start stop, stop < start ∧ answer = .error (.nonMonotonicTimestamps .writeA start stop)
  else
    ∃ report, answer = .ok report ∧ report.elements = config.elements.toNat ∧
      report.verdict = .passed (config.sample.count config.elements.toNat)
        (decide (config.sample = .all))

omit [Clock Id κ'] in
theorem collect_reported {base : Nat} {queue : Host.QueueId} {overall : UInt64}
    {vectors left : Vectors} (hsize : vectors.a.size = config.elements.toNat)
    (hsummed : Summed vectors left) :
    Ensures (B := Host.backend Id κ)
      (collect ⟨eventsFrom base, overall⟩ left config.sample : Attempt _ κ' _).run
      (Completed device queue base) fun answer _ => Reported device config answer := by
  cases hbackwards : device.backwardsClock with
  | true =>
    refine Ensures.mono (collect_fails hbackwards overall left config.sample) (fun _ h => h) ?_
    rintro answer state ⟨_, ⟨start, stop, hlt, rfl⟩, rfl⟩
    rw [Reported, if_pos hbackwards]
    exact ⟨start, stop, hlt, rfl⟩
  | false =>
    refine Ensures.mono (collect_decides hbackwards overall left config.sample) (fun _ h => h) ?_
    rintro answer state ⟨report, rfl, helements, hverdict⟩
    obtain ⟨ha, hb, hc⟩ := hsummed
    have hleft : left.size = config.elements.toNat := (congrArg Array.size ha).trans hsize
    rw [← ha, ← hb] at hc
    rw [Reported, if_neg (by simp [hbackwards])]
    refine ⟨report, rfl, helements.trans hleft, ?_⟩
    rw [hverdict, Vectors.verify_eq_passed hc, hleft]
    cases config.sample <;> rfl

theorem measure_refuses (hlarge : 2147483647 < config.elements.toNat)
    (hsize : buffers.size = config.elements) {before : Host.State κ → Prop} :
    Ensures (B := Host.backend Id κ) (κ := κ') (measure config (resources, kernel, buffers)).run
      before fun answer _ => answer = .error (.invalidConfig
        ("element count " ++ toString config.elements.toNat ++ " exceeds i32")) := by
  have hlt : maxElements < buffers.size := hsize ▸ UInt64.lt_iff_toNat_lt.2 hlarge
  refine Decides.andThen (.always (Ensures.execute_of_large hlt)) fun ⟨outcome, left⟩ => ?_
  rintro world ⟨hresult, -⟩
  obtain ⟨rfl, -⟩ := Prod.mk.inj hresult
  rw [hsize]
  rfl

theorem measure_reported (hsmall : ¬2147483647 < config.elements.toNat)
    (hsize : buffers.size = config.elements) (hne : buffers.a ≠ buffers.b) :
    Ensures (B := Host.backend Id κ) (κ := κ') (measure config (resources, kernel, buffers)).run
      (Armed device resources.queue kernel buffers fun _ => True)
      fun answer _ => Reported device config answer := by
  let vectors := Vectors.filled config.elements.toNat config.fillA config.fillB
  have hfilled : vectors.a.size = config.elements.toNat := Array.size_replicate
  have hcount : ¬maxElements < buffers.size :=
    hsize ▸ fun hlt => hsmall (UInt64.lt_iff_toNat_lt.1 hlt)
  have hfills : vectors.a.size = buffers.size.toNat := hsize ▸ hfilled
  refine Decides.andThen (.always (execute_completes hcount hne hfills)) fun ⟨outcome, left⟩ => ?_
  rintro world ⟨base, ⟨_, overall⟩, (rfl : outcome = _), rfl, hsummed, h⟩
  exact collect_reported hfilled hsummed world h

theorem findSome?_refusals (device : Host.Device) (config : Config) :
    (refusals device config).findSome? id =
      ((setupRefusals device config.kernelSource config.entryPoint config.elements).findSome? id).or
        (countRefusal? config.elements) := by
  rw [refusals, List.findSome?_append, findSome?_id_cons, List.findSome?_nil, Option.or_none]

theorem measure_refuses_or_reports
    (prepared : Resources Host.handles × Host.KernelId × Buffers Host.handles) :
    Ensures (B := Host.backend Id κ) (κ := κ') (measure config prepared).run
      (Equipped device prepared.1.queue prepared.2.1 prepared.2.2 config.elements)
      fun answer _ =>
        FailsOr (countRefusal? config.elements) (Reported device config answer) answer := by
  obtain ⟨resources, kernel, buffers⟩ := prepared
  intro world h
  rw [countRefusal?]
  split
  · exact measure_refuses ‹_› h.size_eq world h
  · exact measure_reported ‹_› h.size_eq h.a_ne_b world
      ⟨h.opened, h.sized, _, Array.getElem?_eq_getElem h.kernel_lt, trivial⟩

theorem onDevice_failsOr_reported (device : Host.Device) (config : Config) :
    Ensures (B := Host.backend Id κ) (κ := κ') (onDevice device config).run (Startable device)
      fun answer _ => FailsOr ((refusals device config).findSome? id)
        (Reported device config answer) answer := by
  intro world hworld
  have hanswer := onDevice_ensures ((prepare_decides device config.kernelSource config.entryPoint
    config.elements).andThen measure_refuses_or_reports) world hworld
  rw [findSome?_refusals, failsOr_or]
  exact hanswer

/-- A run on a device of the host backend is refused for the first of the reasons against it. Where
    there is none, it is turned down for the timestamps of its first upload if the device counts
    backwards, and otherwise it reports on all elements, with sums that are right. There is nothing
    else that it can come to, whatever the program text, the size and the order of the queue. -/
theorem onDevice_refuses_or_reports (device : Host.Device) (config : Config)
    (world : World (Host.backend Id κ) κ') (hreachable : world.backend.Reachable)
    (hsteady : Clock.Steady device.backwardsClock world.backend.store.clock) :
    let result := ((onDevice (B := Host.backend Id κ) device config).run world).1
    match (refusals device config).findSome? id with
    | some failure => result = .error failure
    | none =>
      if device.backwardsClock then
        ∃ start stop, stop < start ∧ result = .error (.nonMonotonicTimestamps .writeA start stop)
      else
        ∃ report, result = .ok report ∧ report.elements = config.elements.toNat ∧
          report.verdict = .passed (config.sample.count config.elements.toNat)
            (decide (config.sample = .all)) := by
  have hresult := onDevice_failsOr_reported device config world ⟨hreachable, hsteady⟩
  cases hrefusal : (refusals device config).findSome? id with
  | some failure =>
    rw [hrefusal] at hresult
    exact hresult
  | none =>
    rw [hrefusal] at hresult
    exact hresult

/-- A device out of order that counts backwards is turned down, with a million elements. -/
theorem onDevice_refuses_backwards :
    let device : Host.Device :=
      { name := "", kind := .gpu, order := .outOfOrder, backwardsClock := true }
    let config : Config := { kernelSource := "__kernel void vecadd(a, b, c, n)" }
    let clock := Readings.ofFunction fun _ => 0
    let world : World (Host.backend Id Readings) Readings := ⟨Host.State.initial clock, clock, []⟩
    let result := ((onDevice (B := Host.backend Id Readings) device config).run world).1
    Host.State.Reachable world.backend ∧
      Clock.Steady device.backwardsClock world.backend.store.clock ∧
      (refusals device config).findSome? id = none ∧
      ∃ start stop, stop < start ∧
        result = .error (.nonMonotonicTimestamps .writeA start stop) := by
  intro device config clock world result
  have hreachable : Host.State.Reachable world.backend := Host.State.reachable_initial clock
  have hsteady : Clock.Steady device.backwardsClock world.backend.store.clock :=
    Readings.steady (fun _ => UInt64.le_refl 0) fun _ _ => by decide
  have hrefusals : (refusals device config).findSome? id = none := by decide +kernel
  have hresult := onDevice_refuses_or_reports device config world hreachable hsteady
  rw [hrefusals] at hresult
  exact ⟨hreachable, hsteady, hrefusals, hresult⟩

end Run

end Offload
