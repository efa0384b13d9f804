import Offload.Run.Execute

/-!
# What runs ensure

`Run.Ensures run before after` says that the run, started while the state of the backend has one
property, ends with an answer and a state that have another. There is one rule for each way in which
runs are put together, so that a property of a run is proved along its text. Notices and the clock
of the host leave the backend as it is.
-/

namespace Offload.Run

variable {B : Backend Id} {κ : Type} {α β : Type}

/-- From every state of the backend with the first property a run ends with the second one. -/
def Ensures (run : Run B κ α) (before : B.State → Prop) (after : α → B.State → Prop) : Prop :=
  ∀ world, before world.backend → after (run world).1 (run world).2.backend

namespace Ensures

variable {before : B.State → Prop} {after : α → B.State → Prop} {run : Run B κ α}

theorem mono {before' : B.State → Prop} {after' : α → B.State → Prop}
    (h : Ensures run before after) (hbefore : ∀ state, before' state → before state)
    (hafter : ∀ a state, after a state → after' a state) : Ensures run before' after' :=
  fun world hworld => hafter _ _ (h world (hbefore _ hworld))

theorem and {after' : α → B.State → Prop} (h : Ensures run before after)
    (h' : Ensures run before after') :
    Ensures run before fun a state => after a state ∧ after' a state :=
  fun world hworld => ⟨h world hworld, h' world hworld⟩

/-- What does not concern the backend stays. -/
theorem frame (h : Ensures run before after) (fact : Prop) :
    Ensures run (fun state => fact ∧ before state) fun a state => fact ∧ after a state :=
  fun world hworld => ⟨hworld.1, h world hworld.2⟩

/-- What does not concern the backend may be assumed. -/
theorem given {fact : Prop} (h : fact → Ensures run before after) :
    Ensures run (fun state => fact ∧ before state) after :=
  fun world hworld => h hworld.1 world hworld.2

theorem pure {a : α} (h : ∀ state, before state → after a state) :
    Ensures (Pure.pure a : Run B κ α) before after :=
  fun world hworld => h world.backend hworld

theorem bind {next : α → Run B κ β} {last : β → B.State → Prop} (h : Ensures run before after)
    (hnext : ∀ a, Ensures (next a) (after a) last) : Ensures (run >>= next) before last :=
  fun world hworld => hnext _ _ (h world hworld)

/-- What follows a call that succeeds has to be looked at for its success only. -/
theorem bind_ok {ε γ : Type} {run : Run B κ (Except ε γ)} {next : Except ε γ → Run B κ β}
    {fact : γ → Prop} {between : B.State → Prop} {last : β → B.State → Prop}
    (h : Ensures run before fun answer state => ∃ c, answer = .ok c ∧ fact c ∧ between state)
    (hnext : ∀ c, fact c → Ensures (next (.ok c)) between last) :
    Ensures (run >>= next) before last := by
  refine h.bind fun answer => ?_
  rintro world ⟨c, rfl, hfact, hbetween⟩
  exact hnext c hfact world hbetween

theorem ask {request : Request B.handles} {after : request.Answer → B.State → Prop}
    (h : ∀ state, before state →
      after (B.answer request state).answer (B.answer request state).state) :
    Ensures (Run.ask request : Run B κ _) before after :=
  fun world hworld => h world.backend hworld

theorem note {notice : Notice} :
    Ensures (Run.note notice : Run B κ Unit) before fun _ => before :=
  fun _ hworld => hworld

theorem now [Clock Id κ] : Ensures (Run.now : Run B κ UInt64) before fun _ => before :=
  fun _ hworld => hworld

/-- A submission asks for one command after the other, and the first refusal ends it. The first
    property is one of the events handed out so far and of the state. -/
theorem submit {queue : B.handles.Queue} {kernel : B.handles.Kernel} {buffers : Buffers B.handles}
    {vectors : Vectors} (reached : List B.handles.Event → B.State → Prop)
    {after : Submission B.handles.Event → B.State → Prop}
    (hwriteA : Ensures (Run.ask (.enqueueWrite queue buffers.a false vectors.a []) : Run B κ _)
      (reached []) fun answer state =>
        (∀ writeA, answer = .ok writeA → reached [writeA] state) ∧
        ∀ status, answer = .error status →
          after ⟨[], .error (.enqueue .writeA status), vectors⟩ state)
    (hwriteB : ∀ writeA,
      Ensures (Run.ask (.enqueueWrite queue buffers.b false vectors.b []) : Run B κ _)
        (reached [writeA]) fun answer state =>
          (∀ writeB, answer = .ok writeB → reached [writeA, writeB] state) ∧
          ∀ status, answer = .error status →
            after ⟨[writeA], .error (.enqueue .writeB status), vectors⟩ state)
    (hkernel : ∀ writeA writeB,
      Ensures (Run.ask (.enqueueKernel queue kernel buffers.size [writeA, writeB]) : Run B κ _)
        (reached [writeA, writeB]) fun answer state =>
          (∀ added, answer = .ok added → reached [writeA, writeB, added] state) ∧
          ∀ status, answer = .error status →
            after ⟨[writeA, writeB], .error (.enqueue .kernel status), vectors⟩ state)
    (hread : ∀ writeA writeB added,
      Ensures (Run.ask (.enqueueRead queue buffers.c true vectors.c [added]) : Run B κ _)
        (reached [writeA, writeB, added]) fun answer state =>
          (∀ readC, answer.1 = .ok readC →
            after ⟨[writeA, writeB, added, readC], .ok ⟨writeA, writeB, added, readC⟩,
              vectors.withOutput answer.2⟩ state) ∧
          ∀ status, answer.1 = .error status →
            after ⟨[writeA, writeB, added], .error (.enqueue .readC status),
              vectors.withOutput answer.2⟩ state) :
    Ensures (Run.submit queue kernel buffers vectors : Run B κ _) (reached []) after := by
  refine hwriteA.bind fun answer => ?_
  cases answer with
  | error status => exact .pure fun _ h => h.2 status rfl
  | ok writeA =>
  refine ((hwriteB writeA).mono (fun _ h => h.1 writeA rfl) fun _ _ h => h).bind fun answer => ?_
  cases answer with
  | error status => exact .pure fun _ h => h.2 status rfl
  | ok writeB =>
  refine ((hkernel writeA writeB).mono (fun _ h => h.1 writeB rfl) fun _ _ h => h).bind
    fun answer => ?_
  cases answer with
  | error status => exact .pure fun _ h => h.2 status rfl
  | ok added =>
  refine ((hread writeA writeB added).mono (fun _ h => h.1 added rfl) fun _ _ h => h).bind
    fun ⟨answer, out⟩ => ?_
  cases answer with
  | error status => exact .pure fun _ h => h.2 status rfl
  | ok readC => exact .pure fun _ h => h.1 readC rfl

section

variable [Clock Id κ] {resources : Resources B.handles} {kernel : B.handles.Kernel}
  {buffers : Buffers B.handles} {vectors : Vectors} {bound : Except Failure Unit → B.State → Prop}
  {submitted : Submission B.handles.Event → B.State → Prop}
  {settled : Submission B.handles.Event → Except Status Unit × Vectors → B.State → Prop}
  {after' : Except Failure (Execution B.handles.Event) × Vectors → B.State → Prop}

/-- An execution is refused at once, or it binds the arguments, submits and settles. It fails only
    where the submission has failed or the drain. -/
theorem execute_of_outcome
    (hrefused : ∀ failure state, before state → maxElements < buffers.size →
      after' (.error failure, vectors) state)
    (hbind : ¬maxElements < buffers.size → Ensures (bindArguments kernel 0 [.buffer buffers.a,
      .buffer buffers.b, .buffer buffers.c, .int (Int32.ofNat buffers.size.toNat)] : Run B κ _)
      before bound)
    (hunbound : ∀ failure state, bound (.error failure) state →
      after' (.error failure, vectors) state)
    (hsubmit : ¬maxElements < buffers.size →
      Ensures (Run.submit resources.queue kernel buffers vectors : Run B κ _) (bound (.ok ()))
        submitted)
    (hsettle : ∀ submission, Ensures (settle resources.queue submission.submitted
      submission.vectors : Run B κ _) (submitted submission) (settled submission))
    (herror : ∀ submission drained left failure state, settled submission (drained, left) state →
      submission.outcome = .error failure ∨ (∃ status, drained = .error status) →
      after' (.error failure, left) state)
    (hok : ∀ submission events left overall state, settled submission (.ok (), left) state →
      submission.outcome = .ok events → after' (.ok ⟨events, overall⟩, left) state) :
    Ensures (Run.execute resources kernel buffers vectors : Run B κ _) before after' := by
  rw [Run.execute]
  split
  · rename_i hsize
    exact .pure fun state hstate => hrefused _ state hstate hsize
  · rename_i hsize
    refine (hbind hsize).bind fun answer => ?_
    cases answer with
    | error failure => exact .pure fun state hstate => hunbound failure state hstate
    | ok _ =>
      refine .bind .now fun start => (hsubmit hsize).bind fun submission =>
        (hsettle submission).bind fun ⟨drained, left⟩ => ?_
      cases houtcome : submission.outcome with
      | error failure =>
        cases drained with
        | error status =>
          exact .bind .note fun _ => .pure fun state h => herror _ _ _ _ state h (.inl houtcome)
        | ok _ => exact .pure fun state h => herror _ _ _ _ state h (.inl houtcome)
      | ok events =>
        cases drained with
        | error status => exact .pure fun state h => herror _ _ _ _ state h (.inr ⟨status, rfl⟩)
        | ok _ =>
          exact .bind .now fun _ => .bind .note fun _ => .pure fun state h =>
            hok _ _ _ _ state h houtcome

/-- An execution of more elements than the kernel can count is refused. -/
theorem execute_of_large (hlarge : maxElements < buffers.size) :
    Ensures (Run.execute resources kernel buffers vectors : Run B κ _) before fun result state =>
      result = (.error (.invalidConfig
        ("element count " ++ toString buffers.size.toNat ++ " exceeds i32")), vectors) ∧
      before state := by
  rw [Run.execute, if_pos hlarge]
  exact .pure fun _ h => ⟨rfl, h⟩

/-- An execution, where it does not matter why it fails. -/
theorem execute
    (hrefused : ∀ failure state, before state → maxElements < buffers.size →
      after' (.error failure, vectors) state)
    (hbind : ¬maxElements < buffers.size → Ensures (bindArguments kernel 0 [.buffer buffers.a,
      .buffer buffers.b, .buffer buffers.c, .int (Int32.ofNat buffers.size.toNat)] : Run B κ _)
      before bound)
    (hunbound : ∀ failure state, bound (.error failure) state →
      after' (.error failure, vectors) state)
    (hsubmit : ¬maxElements < buffers.size →
      Ensures (Run.submit resources.queue kernel buffers vectors : Run B κ _) (bound (.ok ()))
        submitted)
    (hsettle : ∀ submission, Ensures (settle resources.queue submission.submitted
      submission.vectors : Run B κ _) (submitted submission) (settled submission))
    (herror : ∀ submission drained left failure state, settled submission (drained, left) state →
      after' (.error failure, left) state)
    (hok : ∀ submission events left overall state, settled submission (.ok (), left) state →
      submission.outcome = .ok events → after' (.ok ⟨events, overall⟩, left) state) :
    Ensures (Run.execute resources kernel buffers vectors : Run B κ _) before after' :=
  execute_of_outcome hrefused hbind hunbound hsubmit hsettle
    (fun _ _ _ _ _ hsettled _ => herror _ _ _ _ _ hsettled) hok

end

end Ensures

/-! ### Attempts -/

/-- From every state of the backend with the first property an attempt that succeeds ends with the
    second one. -/
def Yields (attempt : Attempt B κ α) (before : B.State → Prop) (after : α → B.State → Prop) :
    Prop :=
  Ensures (B := B) (κ := κ) attempt.run before fun result state =>
    ∀ a, result = .ok a → after a state

namespace Yields

variable {before : B.State → Prop} {after : α → B.State → Prop}

theorem pure {a : α} (h : ∀ state, before state → after a state) :
    Yields (Pure.pure a : Attempt B κ α) before after := by
  rintro world hworld _ ⟨⟩
  exact h _ hworld

theorem bind {attempt : Attempt B κ α} {next : α → Attempt B κ β} {last : β → B.State → Prop}
    (h : Yields attempt before after) (hnext : ∀ a, Yields (next a) (after a) last) :
    Yields (attempt >>= next) before last := by
  -- binding attempts is binding runs, with the failure passed on
  change Ensures (attempt.run >>= ExceptT.bindCont fun a => (next a).run) before _
  refine Ensures.bind h fun result => ?_
  cases result with
  | error failure => exact Ensures.pure fun _ _ _ h => nomatch h
  | ok a => exact (hnext a).mono (fun _ hstate => hstate a rfl) fun _ _ h => h

theorem mono {attempt : Attempt B κ α} {before' : B.State → Prop} {after' : α → B.State → Prop}
    (h : Yields attempt before after) (hbefore : ∀ state, before' state → before state)
    (hafter : ∀ a state, after a state → after' a state) : Yields attempt before' after' :=
  Ensures.mono h hbefore fun _ _ h a ha => hafter a _ (h a ha)

/-- Nothing has to be known of an attempt. -/
theorem any (attempt : Attempt B κ α) : Yields attempt (fun _ => True) fun _ _ => True :=
  fun _ _ _ _ => trivial

theorem throw {failure : Failure} :
    Yields (MonadExcept.throw failure : Attempt B κ α) before after := by
  intro world _ a h
  exact nomatch h

theorem orFail {run : Run B κ (Except Status α)} {failure : Status → Failure}
    (h : Ensures run before fun answer state => ∀ a, answer = .ok a → after a state) :
    Yields (Run.orFail run failure) before after := by
  refine Ensures.bind h fun answer => ?_
  cases answer with
  | error status => exact Ensures.pure fun _ _ _ h => nomatch h
  | ok a =>
    refine Ensures.pure fun state hstate => ?_
    rintro _ ⟨⟩
    exact hstate a rfl

theorem always {run : Run B κ α} (h : Ensures run before after) :
    Yields (Run.always run) before after := by
  rintro world hworld a ⟨⟩
  exact h world hworld

end Yields

/-! ### Decided attempts -/

/-- An answer is a failure known beforehand, if there is one, and otherwise something holds. -/
def FailsOr {ε : Type} (fault? : Option ε) (otherwise : Prop) (answer : Except ε α) : Prop :=
  match fault? with
  | some fault => answer = .error fault
  | none => otherwise

theorem failsOr_or {ε : Type} {fault? fault?' : Option ε} {otherwise : Prop} {answer : Except ε α} :
    FailsOr (fault?.or fault?') otherwise answer ↔
      FailsOr fault? (FailsOr fault?' otherwise answer) answer := by
  cases fault? <;> rfl

/-- An answer is a failure known beforehand, if there is one, and otherwise a success that leaves a
    state with some property. -/
def Decided {ε σ : Type} (fault? : Option ε) (after : α → σ → Prop) (answer : Except ε α)
    (state : σ) : Prop :=
  FailsOr fault? (∃ a, answer = .ok a ∧ after a state) answer

/-- From every state of the backend with the first property an attempt fails with the given failure,
    if there is one, and otherwise it succeeds and ends with the second property. -/
def Decides (attempt : Attempt B κ α) (before : B.State → Prop) (fault? : Option Failure)
    (after : α → B.State → Prop) : Prop :=
  Ensures (B := B) (κ := κ) attempt.run before (Decided fault? after)

namespace Decides

variable {before : B.State → Prop} {fault? : Option Failure} {after : α → B.State → Prop}

theorem mono {attempt : Attempt B κ α} {before' : B.State → Prop} {after' : α → B.State → Prop}
    (h : Decides attempt before fault? after) (hbefore : ∀ state, before' state → before state)
    (hafter : ∀ a state, after a state → after' a state) :
    Decides attempt before' fault? after' := by
  refine Ensures.mono h hbefore fun answer state hdecided => ?_
  cases fault? with
  | some failure => exact hdecided
  | none =>
    obtain ⟨a, hanswer, ha⟩ := hdecided
    exact ⟨a, hanswer, hafter a state ha⟩

/-- What does not concern the backend may be assumed. -/
theorem given {attempt : Attempt B κ α} {fact : Prop}
    (h : fact → Decides attempt before fault? after) :
    Decides attempt (fun state => fact ∧ before state) fault? after :=
  Ensures.given h

theorem pure {a : α} (h : ∀ state, before state → after a state) :
    Decides (Pure.pure a : Attempt B κ α) before none after :=
  fun world hworld => ⟨a, rfl, h world.backend hworld⟩

theorem throw {failure : Failure} :
    Decides (MonadExcept.throw failure : Attempt B κ α) before (some failure) after :=
  fun _ _ => rfl

/-- Whatever follows an attempt follows only its success. -/
theorem andThen {attempt : Attempt B κ α} {next : α → Attempt B κ β}
    {last : Except Failure β → B.State → Prop} (h : Decides attempt before fault? after)
    (hnext : ∀ a, Ensures (B := B) (κ := κ) (next a).run (after a) last) :
    Ensures (B := B) (κ := κ) (attempt >>= next).run before fun answer state =>
      FailsOr fault? (last answer state) answer := by
  -- binding attempts is binding runs, with the failure passed on
  change Ensures (attempt.run >>= ExceptT.bindCont fun a => (next a).run) before _
  refine Ensures.bind h fun answer => ?_
  cases fault? with
  | some failure =>
    intro world hworld
    obtain rfl : answer = .error failure := hworld
    rfl
  | none =>
    rintro world ⟨a, rfl, ha⟩
    exact hnext a world ha

theorem bind {attempt : Attempt B κ α} {next : α → Attempt B κ β} {next? : Option Failure}
    {last : β → B.State → Prop} (h : Decides attempt before fault? after)
    (hnext : ∀ a, Decides (next a) (after a) next? last) :
    Decides (attempt >>= next) before (fault?.or next?) last := by
  exact Ensures.mono (h.andThen hnext) (fun _ hstate => hstate) fun _ _ => failsOr_or.2

/-- What comes before and cannot fail adds no failure. -/
theorem none_bind {attempt : Attempt B κ α} {next : α → Attempt B κ β} {next? : Option Failure}
    {last : β → B.State → Prop} (h : Decides attempt before none after)
    (hnext : ∀ a, Decides (next a) (after a) next? last) :
    Decides (attempt >>= next) before next? last :=
  h.bind hnext

/-- What follows and cannot fail adds no failure. -/
theorem bind_none {attempt : Attempt B κ α} {next : α → Attempt B κ β}
    {last : β → B.State → Prop} (h : Decides attempt before fault? after)
    (hnext : ∀ a, Decides (next a) (after a) none last) :
    Decides (attempt >>= next) before fault? last := by
  rw [← Option.or_none (o := fault?)]
  exact h.bind hnext

theorem orFail {run : Run B κ (Except Status α)} {failure : Status → Failure}
    {status? : Option Status} (h : Ensures run before (Decided status? after)) :
    Decides (Run.orFail run failure) before (status?.map failure) after := by
  refine Ensures.bind h fun answer => ?_
  cases status? with
  | some status =>
    rintro world (rfl : answer = .error status)
    rfl
  | none =>
    rintro world ⟨a, rfl, ha⟩
    exact ⟨a, rfl, ha⟩

theorem always {run : Run B κ α} (h : Ensures run before after) :
    Decides (Run.always run) before none after :=
  fun world hworld => ⟨(run world).1, rfl, h world hworld⟩

end Decides

/-- What would follow an attempt that fails does not matter. -/
theorem Ensures.bind_of_failed {attempt : Attempt B κ α} {next : α → Attempt B κ β}
    {before : B.State → Prop} {failed : Failure → Prop}
    (h : Ensures (B := B) (κ := κ) attempt.run before fun answer _ =>
      ∃ failure, failed failure ∧ answer = .error failure) :
    Ensures (B := B) (κ := κ) (attempt >>= next).run before fun answer _ =>
      ∃ failure, failed failure ∧ answer = .error failure := by
  change Ensures (attempt.run >>= ExceptT.bindCont fun a => (next a).run) before _
  refine Ensures.bind h fun answer => ?_
  rintro world ⟨failure, hfailed, rfl⟩
  exact ⟨failure, hfailed, rfl⟩

end Offload.Run
