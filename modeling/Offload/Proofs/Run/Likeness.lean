import Offload.Run.Device

/-!
# Likeness of runs

A run is written once for all backends. So what one backend does with it can be compared with what
another one does, as long as both have the same handles (`Backend.answering`): a relation between
runs on the one and runs on the other that holds for a question, a notice and a reading of the
clock, and that is kept where one run follows another, holds for all that is put together from
these. `Run.Likeness` is such a relation. It relates the executions of a kernel
(`Run.Likeness.execute`) and the runs on a device (`Run.Likeness.onDevice`).
-/

namespace Offload

/-- A backend with the handles and the name of another one, but with answers of its own. -/
abbrev Backend.answering {m : Type → Type} (B : Backend Id) {State : Type}
    (answer : (request : Request B.handles) → State → m (Reply request State)) : Backend m :=
  ⟨B.handles, State, B.name, answer⟩

namespace Run

variable {B : Backend Id} {κ : Type} [Clock Id κ] {m : Type → Type} [Monad m] [Clock m κ]
  {State : Type} {answer : (request : Request B.handles) → State → m (Reply request State)}

/-- A relation between the runs on two backends that holds for all that runs are put together
    from. -/
structure Likeness (B : Backend Id) (κ : Type) [Clock Id κ] {m : Type → Type} [Monad m] [Clock m κ]
    {State : Type} (answer : (request : Request B.handles) → State → m (Reply request State)) where
  /-- One run is like the other one. -/
  Like : ∀ {α : Type}, Run (B.answering answer) κ α → Run B κ α → Prop
  pure : ∀ {α : Type} (a : α), Like (Pure.pure a) (Pure.pure a)
  bind : ∀ {α β : Type} {run' : Run (B.answering answer) κ α} {run : Run B κ α}
    {next' : α → Run (B.answering answer) κ β} {next : α → Run B κ β},
    Like run' run → (∀ a, Like (next' a) (next a)) → Like (run' >>= next') (run >>= next)
  ask : ∀ request : Request B.handles,
    Like (Run.ask (B := B.answering answer) request) (Run.ask (B := B) request)
  note : ∀ notice, Like (Run.note notice) (Run.note notice)
  now : Like Run.now Run.now

namespace Likeness

variable (L : Likeness B κ answer) {α β : Type}

/-! ### Executions -/

theorem bindArguments (kernel : B.handles.Kernel) (index : Nat)
    (args : List (Argument B.handles.Buffer)) :
    L.Like (Run.bindArguments (B := B.answering answer) kernel index args)
      (Run.bindArguments (B := B) kernel index args) := by
  induction args generalizing index with
  | nil => exact L.pure _
  | cons arg args ih =>
    refine L.bind (L.ask (.setKernelArg kernel index arg)) fun answer => ?_
    cases answer with
    | error status => exact L.pure _
    | ok _ => exact ih (index + 1)

theorem submit (queue : B.handles.Queue) (kernel : B.handles.Kernel)
    (buffers : Buffers B.handles) (vectors : Vectors) :
    L.Like (Run.submit (B := B.answering answer) queue kernel buffers vectors)
      (Run.submit (B := B) queue kernel buffers vectors) := by
  refine L.bind (L.ask (.enqueueWrite queue buffers.a false vectors.a [])) fun answer => ?_
  cases answer with
  | error status => exact L.pure _
  | ok writeA =>
  refine L.bind (L.ask (.enqueueWrite queue buffers.b false vectors.b [])) fun answer => ?_
  cases answer with
  | error status => exact L.pure _
  | ok writeB =>
  refine L.bind (L.ask (.enqueueKernel queue kernel buffers.size [writeA, writeB]))
    fun answer => ?_
  cases answer with
  | error status => exact L.pure _
  | ok added =>
  refine L.bind (L.ask (.enqueueRead queue buffers.c true vectors.c [added]))
    fun ⟨answer, out⟩ => ?_
  cases answer <;> exact L.pure _

theorem settle (queue : B.handles.Queue) (submitted : List B.handles.Event) (vectors : Vectors) :
    L.Like (Run.settle (B := B.answering answer) queue submitted vectors)
      (Run.settle (B := B) queue submitted vectors) := by
  refine L.bind (L.ask (.finish queue)) fun answer => ?_
  cases answer with
  | ok _ => exact L.pure _
  | error status =>
    refine L.bind (L.ask (.waitEvents submitted)) fun answer => ?_
    cases answer with
    | ok _ => exact L.pure _
    | error stuck => exact L.bind (L.note _) fun _ => L.pure _

/-- An execution on one backend is like the same execution on the other. -/
theorem execute (resources : Resources B.handles) (kernel : B.handles.Kernel)
    (buffers : Buffers B.handles) (vectors : Vectors) :
    L.Like (Run.execute (B := B.answering answer) resources kernel buffers vectors)
      (Run.execute (B := B) resources kernel buffers vectors) := by
  unfold Run.execute
  split
  · exact L.pure _
  refine L.bind (L.bindArguments kernel 0 _) fun answer => ?_
  cases answer with
  | error failure => exact L.pure _
  | ok _ =>
    refine L.bind L.now fun start =>
      L.bind (L.submit resources.queue kernel buffers vectors) fun submission =>
      L.bind (L.settle resources.queue submission.submitted submission.vectors)
      fun ⟨drained, left⟩ => ?_
    cases submission.outcome with
    | error failure =>
      cases drained with
      | error status => exact L.bind (L.note _) fun _ => L.pure _
      | ok _ => exact L.pure _
    | ok events =>
      cases drained with
      | error status => exact L.pure _
      | ok _ => exact L.bind L.now fun _ => L.bind (L.note _) fun _ => L.pure _

/-! ### Attempts -/

theorem andThen {attempt' : Attempt (B.answering answer) κ α} {attempt : Attempt B κ α}
    {next' : α → Attempt (B.answering answer) κ β} {next : α → Attempt B κ β}
    (h : L.Like attempt'.run attempt.run) (hnext : ∀ a, L.Like (next' a).run (next a).run) :
    L.Like (attempt' >>= next').run (attempt >>= next).run := by
  -- binding attempts is binding runs, with the failure passed on
  change L.Like (attempt'.run >>= ExceptT.bindCont fun a => (next' a).run)
    (attempt.run >>= ExceptT.bindCont fun a => (next a).run)
  refine L.bind h fun result => ?_
  cases result with
  | error failure => exact L.pure _
  | ok a => exact hnext a

theorem orFail {run' : Run (B.answering answer) κ (Except Status α)}
    {run : Run B κ (Except Status α)} (h : L.Like run' run) (failure : Status → Failure) :
    L.Like (Run.orFail run' failure).run (Run.orFail run failure).run := by
  refine L.bind h fun answer => ?_
  cases answer <;> exact L.pure _

theorem always {run' : Run (B.answering answer) κ α} {run : Run B κ α} (h : L.Like run' run) :
    L.Like (Run.always run').run (Run.always run).run :=
  L.bind h fun _ => L.pure _

/-! ### Runs on a device -/

variable (device : B.handles.Device)

theorem acquire :
    L.Like (Run.acquire (B := B.answering answer) device).run
      (Run.acquire (B := B) device).run :=
  L.andThen (L.orFail (L.ask _) _) fun _ => L.andThen (L.orFail (L.ask _) _) fun _ =>
    L.andThen (L.always (L.note _)) fun _ => L.pure _

theorem compile (resources : Resources B.handles) (source : String) :
    L.Like (Run.compile (B := B.answering answer) resources device source).run
      (Run.compile (B := B) resources device source).run := by
  refine L.andThen (L.orFail (L.ask _) _) fun program =>
    L.andThen (L.always (L.ask _)) fun answer => ?_
  cases answer with
  | ok _ => exact L.andThen (L.always (L.note _)) fun _ => L.pure _
  | error status =>
    refine L.andThen (L.always (L.ask _)) fun log => ?_
    cases log <;> exact L.andThen (L.always (L.note _)) fun _ => L.pure _

theorem build (resources : Resources B.handles) (source entryPoint : String) :
    L.Like (Run.build (B := B.answering answer) resources device source entryPoint).run
      (Run.build (B := B) resources device source entryPoint).run :=
  L.andThen (L.compile device resources source) fun _ => L.orFail (L.ask _) _

theorem allocate (resources : Resources B.handles) (size : UInt64) :
    L.Like (Run.allocate (B := B.answering answer) resources size).run
      (Run.allocate (B := B) resources size).run :=
  L.andThen (L.orFail (L.ask _) _) fun _ => L.andThen (L.orFail (L.ask _) _) fun _ =>
    L.andThen (L.orFail (L.ask _) _) fun _ => L.andThen (L.always (L.note _)) fun _ => L.pure _

theorem stageTime (event : B.handles.Event) (stage : Stage) :
    L.Like (Run.stageTime (B := B.answering answer) event stage).run
      (Run.stageTime (B := B) event stage).run := by
  refine L.andThen (L.orFail (L.ask _) _) fun stamps => ?_
  cases stamps.elapsed? <;> exact L.pure _

theorem collect (execution : Execution B.handles.Event) (vectors : Vectors) (sample : Sample) :
    L.Like (Run.collect (B := B.answering answer) execution vectors sample).run
      (Run.collect (B := B) execution vectors sample).run :=
  L.andThen (L.stageTime _ _) fun _ => L.andThen (L.stageTime _ _) fun _ =>
    L.andThen (L.stageTime _ _) fun _ => L.andThen (L.stageTime _ _) fun _ => L.pure _

/-- A run on a device of one backend is like the same run on the other. -/
theorem onDevice (config : Config) :
    L.Like (Run.onDevice (B := B.answering answer) device config).run
      (Run.onDevice (B := B) device config).run := by
  refine L.andThen (L.acquire device) fun resources =>
    L.andThen (L.build device resources _ _) fun kernel =>
    L.andThen (L.allocate resources _) fun buffers =>
    L.andThen (L.always (L.execute resources kernel buffers _)) fun ⟨outcome, vectors⟩ => ?_
  cases outcome with
  | error failure => exact L.pure _
  | ok execution => exact L.collect execution vectors config.sample

end Likeness

end Run

end Offload
