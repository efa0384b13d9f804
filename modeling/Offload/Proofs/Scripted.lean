import Offload.Proofs.Host.WellFormed
import Offload.Script

/-!
# Calls under a script

A call under a script is performed by the host backend, or a fault of the script stands in its way
(`Script.Called`): the fault hides the answer of a call that has been performed, or keeps it from
being performed at all. Either way the host backend is afterwards as some request leaves it
(`Script.host_answer`), so that what requests preserve is preserved under every script.
-/

namespace Offload.Script

variable {κ : Type} {α β : Type}

/-- How a call may end, with a side result beside the answer: it is performed and answered, or a
    fault hides the answer, or the fault comes before the call. -/
inductive Called (script : Script) (name : Request.Name) (host : Host.State κ) (missed : β)
    (performed : (Except Status α × β) × Host.State κ) :
    (Except Status α × β) × Host.State κ → Prop
  | performed : Called script name host missed performed performed
  | after {fault : Fault} : fault ∈ script.faults → fault.call = name → fault.after = true →
      Called script name host missed performed ((.error fault.status, performed.1.2), performed.2)
  | before {fault : Fault} : fault ∈ script.faults → fault.call = name → fault.after = false →
      Called script name host missed performed ((.error fault.status, missed), host)

variable {script : Script} {name : Request.Name} {host host' : Host.State κ} {missed side : β}
  {performed : (Except Status α × β) × Host.State κ} {answer : Except Status α}

/-- A call that is answered has been performed. -/
theorem Called.eq_of_ok {a : α}
    (h : Called script name host missed performed ((.ok a, side), host')) :
    performed = ((.ok a, side), host') := by
  generalize hcalled : ((Except.ok a, side), host') = called at h
  cases h with
  | performed => rfl
  | after | before => exact nomatch hcalled

/-- A call has been performed or has left the host as it was. -/
theorem Called.host_eq {called : (Except Status α × β) × Host.State κ}
    (h : Called script name host missed performed called) :
    called.2 = performed.2 ∨ called.2 = host := by
  cases h with
  | performed => exact .inl rfl
  | after => exact .inl rfl
  | before => exact .inr rfl

/-- Without faults that come after a call, a call that is refused has been performed, too, or has
    left the host as it was. -/
theorem Called.cases_of_before
    (h : Called script name host missed performed ((answer, side), host'))
    (hfaults : ∀ fault ∈ script.faults, fault.call = name → fault.after = false) :
    performed = ((answer, side), host') ∨ host' = host ∧ ∃ status, answer = .error status := by
  generalize hcalled : ((answer, side), host') = called at h
  cases h with
  | performed => exact .inl rfl
  | after hmem hcall hafter =>
    rw [hfaults _ hmem hcall] at hafter
    exact nomatch hafter
  | before =>
    cases hcalled
    exact .inr ⟨rfl, _, rfl⟩

/-- Without any faults the call is performed. -/
theorem Called.eq_performed {called : (Except Status α × β) × Host.State κ}
    (h : Called script name host missed performed called) (hfaults : script.faults = []) :
    called = performed := by
  cases h with
  | performed => rfl
  | after hmem | before hmem => exact absurd (hfaults ▸ hmem) List.not_mem_nil

/-- Without the side result. -/
theorem Called.forget (h : Called script name host missed performed ((answer, side), host')) :
    Called script name host () ((performed.1.1, ()), performed.2) ((answer, ()), host') := by
  generalize hcalled : ((answer, side), host') = called at h
  cases h with
  | performed => exact hcalled ▸ .performed
  | after hmem hcall hafter =>
    cases hcalled
    exact .after hmem hcall hafter
  | before hmem hcall hafter =>
    cases hcalled
    exact .before hmem hcall hafter

theorem fault?_eq_some {calls : List Request.Name} {fault : Fault}
    (h : script.fault? name calls = some fault) : fault ∈ script.faults ∧ fault.call = name := by
  refine ⟨List.mem_of_find?_eq_some h, ?_⟩
  have hfound := List.find?_some h
  simp only [Bool.decide_and, Bool.and_eq_true, decide_eq_true_eq] at hfound
  exact hfound.1

theorem call_called (script : Script) (name : Request.Name) (detail : String)
    (result : α → String) (missed : β) (state : State κ)
    (perform : State κ → Id ((Except Status α × β) × State κ)) :
    let performed := perform { state with calls := name :: state.calls }
    let called := script.call (m := Id) name detail result missed state perform
    Called script name state.host missed (performed.1, performed.2.host)
      (called.1, called.2.host) := by
  rcases hperform : perform { state with calls := name :: state.calls } with ⟨⟨answer, side⟩, after⟩
  simp only [call, bind, pure, hperform]
  split
  · -- no fault: only the trace grows
    cases answer <;> exact .performed
  · rename_i fault hfault
    obtain ⟨hmem, hcall⟩ := fault?_eq_some hfault
    cases hafter : fault.after with
    | true => exact .after hmem hcall hafter
    | false => exact .before hmem hcall hafter

theorem plainCall_called (script : Script) (name : Request.Name) (detail : String)
    (result : α → String) (perform : Host.State κ → Id (Except Status α × Host.State κ))
    (state : State κ) :
    let called := script.plainCall (m := Id) name detail result perform state
    Called script name state.host () (((perform state.host).1, ()), (perform state.host).2)
      ((called.1, ()), called.2.host) :=
  script.call_called name detail result () state fun state =>
    (((perform state.host).1, ()), { state with host := (perform state.host).2 })

/-- What the answer to a request says, by what the host backend has done or would have done: the
    call ends in one of the ways above, and the notices are taken. -/
def Replies (script : Script) (name : Request.Name) (host : Host.State κ)
    (performed : Except Status α × Host.State κ) (answer : Except Status α)
    (after : Host.State κ) : Prop :=
  ∃ host', after = host'.takeNotices.2 ∧
    Called script name host () ((performed.1, ()), performed.2) ((answer, ()), host')

section

variable {after : Host.State κ} {performed : Except Status α × Host.State κ}

theorem Replies.eq_of_ok {a : α} (h : Replies script name host performed (.ok a) after) :
    ∃ host', performed = (.ok a, host') ∧ after = host'.takeNotices.2 := by
  obtain ⟨host', hafter, hcalled⟩ := h
  have hperformed := hcalled.eq_of_ok
  exact ⟨host', Prod.ext (congrArg (·.1.1) hperformed) (congrArg (·.2) hperformed), hafter⟩

/-- The same for an answer with an event, which is handed out under a number. -/
theorem Replies.eq_of_issued {performed : Except Status Host.EventId × Host.State κ}
    {answer : Except Status Host.EventId} {issued : Except Status Event} {number : Nat}
    {event : Event} (h : Replies script name host performed answer after)
    (hissued : issued = answer.map (⟨number, ·⟩)) (hok : issued = .ok event) :
    ∃ host', performed = (.ok event.event, host') ∧ after = host'.takeNotices.2 := by
  rw [hok] at hissued
  cases answer with
  | error status => exact nomatch hissued
  | ok event' =>
    obtain rfl := Except.ok.inj hissued
    exact h.eq_of_ok

theorem Replies.cases_of_before (h : Replies script name host performed answer after)
    (hfaults : ∀ fault ∈ script.faults, fault.call = name → fault.after = false) :
    (∃ host', performed = (answer, host') ∧ after = host'.takeNotices.2) ∨
      after = host.takeNotices.2 ∧ ∃ status, answer = .error status := by
  obtain ⟨host', hafter, hcalled⟩ := h
  rcases hcalled.cases_of_before hfaults with hperformed | ⟨rfl, hstatus⟩
  · exact .inl ⟨host', Prod.ext (congrArg (·.1.1) hperformed) (congrArg (·.2) hperformed), hafter⟩
  · exact .inr ⟨hafter, hstatus⟩

/-- Without any faults the answer is that of the host backend. -/
theorem Replies.eq_performed (h : Replies script name host performed answer after)
    (hfaults : script.faults = []) :
    answer = performed.1 ∧ after = performed.2.takeNotices.2 := by
  obtain ⟨host', rfl, hcalled⟩ := h
  have hperformed := hcalled.eq_performed hfaults
  exact ⟨congrArg (·.1.1) hperformed, by rw [← congrArg (·.2) hperformed]⟩

theorem Replies.after_eq (h : Replies script name host performed answer after) :
    after = performed.2.takeNotices.2 ∨ after = host.takeNotices.2 := by
  obtain ⟨host', rfl, hcalled⟩ := h
  exact hcalled.host_eq.imp (fun h => by rw [← h]) fun h => by rw [← h]

end

/-! ### Requests -/

theorem host_issue (state : State κ) (answer : Except Status Host.EventId) :
    (issue state answer).2.host = state.host := by
  cases answer <;> rfl

theorem issue_fst (state : State κ) (answer : Except Status Host.EventId) :
    (issue state answer).1 = answer.map (⟨state.issued, ·⟩) := by
  cases answer <;> rfl

/-- A call whose event is handed out. -/
theorem issued_replies (script : Script) (name : Request.Name) (detail : String)
    (result : Host.EventId → String)
    (perform : Host.State κ → Id (Except Status Host.EventId × Host.State κ)) (state : State κ) :
    let called := script.plainCall (m := Id) name detail result perform state
    let issued := issue called.2 called.1
    ∃ number answer, issued.1 = answer.map (⟨number, ·⟩) ∧
      script.Replies name state.host (perform state.host) answer issued.2.host.takeNotices.2 :=
  ⟨_, _, issue_fst _ _, _, by rw [host_issue], script.plainCall_called ..⟩

variable [Clock Id κ]

/-- A download by the host backend, with the changes that the script makes to what it fetches. -/
def performRead (script : Script) (queue : Host.QueueId) (buffer : Host.BufferId)
    (out : Array Int32) (wait : List Event) (state : State κ) :
    (Except Status Host.EventId × Vector Int32 out.size) × State κ :=
  let read := state.host.enqueueRead (m := Id) queue buffer out (wait.map (·.event))
  match read.1.1 with
  | .ok event =>
    ((.ok event, script.poke state.reads read.1.2),
      { state with host := read.2, reads := state.reads + 1 })
  | .error status => ((.error status, read.1.2), { state with host := read.2 })

theorem host_performRead {queue : Host.QueueId} {buffer : Host.BufferId} {out : Array Int32}
    {wait : List Event} {state : State κ} :
    (script.performRead queue buffer out wait state).2.host =
      (state.host.enqueueRead (m := Id) queue buffer out (wait.map (·.event))).2 := by
  rw [performRead]
  split <;> rfl

theorem performRead_fst_fst {queue : Host.QueueId} {buffer : Host.BufferId} {out : Array Int32}
    {wait : List Event} {state : State κ} :
    (script.performRead queue buffer out wait state).1.1 =
      (state.host.enqueueRead (m := Id) queue buffer out (wait.map (·.event))).1.1 := by
  rw [performRead]
  split <;> rename_i h <;> exact h.symm

/-- A script that changes no downloads passes them on. -/
theorem performRead_fst {queue : Host.QueueId} {buffer : Host.BufferId} {out : Array Int32}
    {wait : List Event} {state : State κ} (hpokes : script.pokes = []) :
    (script.performRead queue buffer out wait state).1 =
      (state.host.enqueueRead (m := Id) queue buffer out (wait.map (·.event))).1 := by
  rw [performRead]
  split <;> rename_i h
  · rw [poke, hpokes, ← h]
    rfl
  · rw [← h]

variable {state : State κ}

theorem createQueue_replies {context : Host.Context} {device : Host.Device} {profiling : Bool}
    {reply : Reply _ (State κ)}
    (h : script.answer (m := Id) (.createQueue context device profiling) state = reply) :
    script.Replies .createQueue state.host (state.host.createQueue context device profiling)
      reply.answer reply.state.host := by
  subst h
  exact ⟨_, rfl, script.plainCall_called .createQueue _ done
    (fun host => host.createQueue context device profiling) state⟩

theorem createBuffer_replies {context : Host.Context} {queue : Host.QueueId} {access : Access}
    {size : UInt64} {reply : Reply _ (State κ)}
    (h : script.answer (m := Id) (.createBuffer context queue access size) state = reply) :
    script.Replies .createBuffer state.host
      (state.host.createBuffer context access (script.capped size)) reply.answer
      reply.state.host := by
  subst h
  exact ⟨_, rfl, script.plainCall_called .createBuffer _ done
    (fun host => host.createBuffer context access (script.capped size)) state⟩

theorem createKernel_replies {program : Host.ProgramId} {queue : Host.QueueId} {name : String}
    {params : List ParamKind} {reply : Reply _ (State κ)}
    (h : script.answer (m := Id) (.createKernel program queue name params) state = reply) :
    script.Replies .createKernel state.host (state.host.createKernel program name params)
      reply.answer reply.state.host := by
  subst h
  exact ⟨_, rfl, script.plainCall_called .createKernel _ done
    (fun host => host.createKernel program name params) state⟩

theorem setKernelArg_replies {kernel : Host.KernelId} {index : Nat}
    {arg : Argument Host.BufferId} {reply : Reply _ (State κ)}
    (h : script.answer (m := Id) (.setKernelArg kernel index arg) state = reply) :
    script.Replies .setKernelArg state.host (state.host.setKernelArg kernel index arg)
      reply.answer reply.state.host := by
  subst h
  exact ⟨_, rfl, script.plainCall_called .setKernelArg _ done
    (fun host => host.setKernelArg kernel index arg) state⟩

theorem enqueueWrite_replies {queue : Host.QueueId} {buffer : Host.BufferId} {blocking : Bool}
    {data : Array Int32} {wait : List Event} {reply : Reply _ (State κ)}
    (h : script.answer (m := Id) (.enqueueWrite queue buffer blocking data wait) state = reply) :
    ∃ number answer, reply.answer = answer.map (⟨number, ·⟩) ∧
      script.Replies .enqueueWrite state.host
        (state.host.enqueueWrite (m := Id) queue buffer blocking data (wait.map (·.event)))
        answer reply.state.host := by
  subst h
  exact script.issued_replies .enqueueWrite (transferDetail blocking data.size wait)
    (fun _ => "e" ++ toString state.issued)
    (fun host => host.enqueueWrite (m := Id) queue buffer blocking data (wait.map Event.event))
    state

theorem enqueueKernel_replies {queue : Host.QueueId} {kernel : Host.KernelId} {size : UInt64}
    {wait : List Event} {reply : Reply _ (State κ)}
    (h : script.answer (m := Id) (.enqueueKernel queue kernel size wait) state = reply) :
    ∃ number answer, reply.answer = answer.map (⟨number, ·⟩) ∧
      script.Replies .enqueueKernel state.host
        (state.host.enqueueKernel queue kernel size (wait.map (·.event)))
        answer reply.state.host := by
  subst h
  exact script.issued_replies .enqueueKernel
    ("size=" ++ toString size.toNat ++ " wait=" ++ numbers wait)
    (fun _ => "e" ++ toString state.issued)
    (fun host => host.enqueueKernel queue kernel size (wait.map Event.event)) state

/-- What has been fetched is passed on, unless the script changes downloads. -/
theorem enqueueRead_replies {queue : Host.QueueId} {buffer : Host.BufferId} {blocking : Bool}
    {out : Array Int32} {wait : List Event}
    {reply : Reply (@Request.enqueueRead handles queue buffer blocking out wait) (State κ)}
    (h : script.answer (m := Id) (.enqueueRead queue buffer blocking out wait) state = reply) :
    let performed := state.host.enqueueRead (m := Id) queue buffer out (wait.map (·.event))
    ∃ number answer, reply.answer.1 = answer.map (⟨number, ·⟩) ∧
      script.Replies .enqueueRead state.host (performed.1.1, performed.2) answer reply.state.host ∧
      (script.pokes = [] → ∀ event, reply.answer.1 = .ok event →
        reply.answer.2 = performed.1.2) := by
  intro performed
  subst h
  let called := script.call (m := Id) .enqueueRead (transferDetail blocking out.size wait)
    (fun _ => "e" ++ toString state.issued) out.toVector state
    (script.performRead queue buffer out wait)
  have hcalled : Called script .enqueueRead state.host out.toVector
      ((script.performRead queue buffer out wait
        { state with calls := .enqueueRead :: state.calls }).1, performed.2)
      (called.1, called.2.host) := by
    have hhost : performed.2 = (script.performRead queue buffer out wait
        { state with calls := .enqueueRead :: state.calls }).2.host := by
      rw [host_performRead]
    rw [hhost]
    exact script.call_called .enqueueRead (transferDetail blocking out.size wait)
      (fun _ => "e" ++ toString state.issued) out.toVector state
      (script.performRead queue buffer out wait)
  refine ⟨called.2.issued, called.1.1, issue_fst _ _, ⟨called.2.host, ?_, ?_⟩, ?_⟩
  · exact congrArg (fun host => host.takeNotices.2) (host_issue _ _)
  · have hforget := hcalled.forget
    rwa [performRead_fst_fst] at hforget
  · -- an answer with an event is that of the host backend, and so are the data
    intro hpokes event hok
    rcases hcall : called.1 with ⟨answer, side⟩
    have hissued : called.1.1.map (⟨called.2.issued, ·⟩) = .ok event :=
      (issue_fst _ _).symm.trans hok
    rw [hcall] at hissued
    rw [hcall] at hcalled
    cases answer with
    | error status => exact nomatch hissued
    | ok event' =>
      have hside := congrArg (·.1.2) hcalled.eq_of_ok
      rw [performRead_fst hpokes] at hside
      exact (congrArg Prod.snd hcall).trans hside.symm

/-- Without any faults a download that fails is passed on as it is. -/
theorem enqueueRead_fails (hfaults : script.faults = []) {queue : Host.QueueId}
    {buffer : Host.BufferId} {blocking : Bool} {out : Array Int32} {wait : List Event}
    {reply : Reply (@Request.enqueueRead handles queue buffer blocking out wait) (State κ)}
    (h : script.answer (m := Id) (.enqueueRead queue buffer blocking out wait) state = reply)
    {status : Status} {data : Vector Int32 out.size} {after : Host.State κ}
    (hperformed : state.host.enqueueRead (m := Id) queue buffer out (wait.map (·.event)) =
      ((.error status, data), after)) :
    reply.answer = (.error status, data) ∧ reply.state.host = after.takeNotices.2 := by
  subst h
  let called := script.call (m := Id) .enqueueRead (transferDetail blocking out.size wait)
    (fun _ => "e" ++ toString state.issued) out.toVector state
    (script.performRead queue buffer out wait)
  have hcalled : (called.1, called.2.host) = ((.error status, data), after) := by
    have hperform := (script.call_called .enqueueRead (transferDetail blocking out.size wait)
      (fun _ => "e" ++ toString state.issued) out.toVector state
      (script.performRead queue buffer out wait)).eq_performed hfaults
    simp only [performRead, hperformed] at hperform
    exact hperform
  obtain ⟨hanswer, hhost⟩ := Prod.mk.inj hcalled
  have hissue : (issue called.2 called.1.1).1 = .error status := by
    rw [issue_fst, hanswer]
    rfl
  have hdata : called.1.2 = data := congrArg Prod.snd hanswer
  exact ⟨Prod.ext hissue hdata,
    congrArg (fun host => host.takeNotices.2) ((host_issue _ _).trans hhost)⟩

theorem finish_replies {queue : Host.QueueId} {reply : Reply _ (State κ)}
    (h : script.answer (m := Id) (.finish queue) state = reply) :
    script.Replies .finish state.host (state.host.finish (m := Id) queue) reply.answer
      reply.state.host := by
  subst h
  exact ⟨_, rfl, script.plainCall_called .finish _ done
    (fun host => host.finish (m := Id) queue) state⟩

theorem waitEvents_replies {events : List Event} {reply : Reply _ (State κ)}
    (h : script.answer (m := Id) (.waitEvents events) state = reply) :
    script.Replies .waitEvents state.host
      (state.host.waitEvents (events.map (·.event)), state.host) reply.answer reply.state.host := by
  subst h
  exact ⟨_, rfl, script.plainCall_called .waitEvents _ done
    (fun host => (host.waitEvents (events.map (·.event)), host)) state⟩

/-- The request to the host backend behind a call. -/
def onHost (script : Script) : Request handles → Request Host.handles
  | .platforms => .platforms
  | .createContext device => .createContext device
  | .createQueue context device profiling => .createQueue context device profiling
  | .createBuffer context queue access size =>
    .createBuffer context queue access (script.capped size)
  | .createProgram context source => .createProgram context source
  | .buildProgram program device => .buildProgram program device
  | .buildLog program device => .buildLog program device
  | .createKernel program queue name params => .createKernel program queue name params
  | .setKernelArg kernel index arg => .setKernelArg kernel index arg
  | .enqueueWrite queue buffer blocking data wait =>
    .enqueueWrite queue buffer blocking data (wait.map (·.event))
  | .enqueueKernel queue kernel size wait => .enqueueKernel queue kernel size (wait.map (·.event))
  | .enqueueRead queue buffer blocking out wait =>
    .enqueueRead queue buffer blocking out (wait.map (·.event))
  | .finish queue => .finish queue
  | .waitEvents events => .waitEvents (events.map (·.event))
  | .profiling event => .profiling event.event

/-- A call does to the host backend what the request behind it does, or only takes its notices. -/
theorem host_answer (script : Script) (request : Request handles) (state : State κ) :
    (script.answer (m := Id) request state).state.host =
        (Host.answer (m := Id) (script.onHost request) state.host).state ∨
      (script.answer (m := Id) request state).state.host = state.host.takeNotices.2 := by
  -- the requests differ in what they perform, and all are called in the same way
  have hcalled {α β : Type} {name : Request.Name} {missed : β}
      {performed called : (Except Status α × β) × Host.State κ}
      (h : Called script name state.host missed performed called) :
      called.2.takeNotices.2 = performed.2.takeNotices.2 ∨
        called.2.takeNotices.2 = state.host.takeNotices.2 :=
    h.host_eq.imp (fun h => by rw [h]) fun h => by rw [h]
  cases request with
  | enqueueWrite queue buffer blocking data wait =>
    generalize hreply :
      script.answer (m := Id) (.enqueueWrite queue buffer blocking data wait) state = reply
    obtain ⟨_, _, -, h⟩ := enqueueWrite_replies hreply
    exact h.after_eq
  | enqueueKernel queue kernel size wait =>
    generalize hreply :
      script.answer (m := Id) (.enqueueKernel queue kernel size wait) state = reply
    obtain ⟨_, _, -, h⟩ := enqueueKernel_replies hreply
    exact h.after_eq
  | enqueueRead queue buffer blocking out wait =>
    generalize hreply :
      script.answer (m := Id) (.enqueueRead queue buffer blocking out wait) state = reply
    obtain ⟨_, _, -, h, -⟩ := enqueueRead_replies hreply
    exact h.after_eq
  | _ => exact hcalled (script.plainCall_called ..)

end Offload.Script
