import Offload.Proofs.Host.Footprints
import Offload.Proofs.Host.WorkItems

/-!
# Bindings

The arguments of a kernel are bound one by one, in any order, again and again, and in between the
kernel is enqueued. What is bound to a position is the argument of the last call on record that
succeeded (`State.Reachable.bound?_serve`), and these arguments go into the command that is
enqueued. So later bindings do not matter to it, while the contents of its buffers are those that it
finds when it runs (`State.Changes.split_ran` cuts what has happened at that step).

`State.dispatch_by_bindings` says when a kernel can be enqueued and what the command does whenever
it runs, whatever else is asked before and after.
-/

namespace Offload.Host

/-! ### Bindings on record -/

/-- What a call on record has bound to a position of a kernel, if this is what it did. -/
def bindingOf? (kernel : KernelId) (index : Nat) :
    Exchange handles → Option (Argument BufferId)
  | ⟨.setKernelArg target position arg, .ok ()⟩ =>
    if target = kernel ∧ position = index then some arg else none
  | _ => none

/-- What was last bound to a position of a kernel. -/
def lastBinding? (kernel : KernelId) (record : List (Exchange handles)) (index : Nat) :
    Option (Argument BufferId) :=
  (record.filterMap (bindingOf? kernel index)).getLast?

variable {kernel : KernelId} {index : Nat}

theorem lastBinding?_cons (exchange : Exchange handles) (record : List (Exchange handles)) :
    lastBinding? kernel (exchange :: record) index =
      (lastBinding? kernel record index).or (bindingOf? kernel index exchange) := by
  rw [lastBinding?, lastBinding?, List.filterMap_cons]
  cases bindingOf? kernel index exchange with
  | none => simp
  | some arg => simp [List.getLast?_cons]

namespace State

variable {κ : Type} {state state' : State κ}

/-- What is bound to a position of a kernel, nothing if there is no such kernel. -/
def bound? (state : State κ) (kernel : KernelId) (index : Nat) : Option Bound :=
  state.kernels[kernel]?.bind (·.bound? index)

variable [Clock Id κ]

omit [Clock Id κ] in
theorem Known.bound?_setKernelArg (h : state.Known) (target : KernelId) (position : Nat)
    (arg : Argument BufferId) :
    (state.setKernelArg target position arg).2.bound? kernel index =
      ((bindingOf? kernel index
        ⟨.setKernelArg target position arg, (state.setKernelArg target position arg).1⟩).map
        .of).or (state.bound? kernel index) := by
  rcases hset : state.setKernelArg target position arg with ⟨status | ⟨⟩, after⟩
  · have hsame : after = state := by
      rw [State.setKernelArg] at hset
      grind
    rw [hsame]
    rfl
  · obtain ⟨old, new, hold, hbind, -, rfl⟩ := setKernelArg_eq_ok hset
    have htyped := (h old (Array.mem_of_getElem? hold)).1
    have hlt := (Array.getElem?_eq_some_iff.1 hold).1
    rw [bindingOf?, bound?, bound?]
    by_cases htarget : target = kernel
    · subst htarget
      rw [Array.getElem?_setIfInBounds_self_of_lt hlt, hold, Option.bind_some, Option.bind_some,
        htyped.bound?_bind hbind]
      by_cases hposition : position = index <;> simp [hposition]
    · rw [Array.getElem?_setIfInBounds_ne htarget, if_neg (fun h => htarget h.1), Option.map_none,
        Option.none_or]

omit [Clock Id κ] in
/-- Nothing is bound to a kernel that has just been made. -/
theorem bound?_createKernel (state : State κ) (program : ProgramId) (name : String)
    (params : List ParamKind) :
    (state.createKernel program name params).2.bound? kernel index = state.bound? kernel index := by
  rw [createKernel]
  split
  · rfl
  · split
    · rfl
    · rw [bound?, bound?, Array.getElem?_push]
      rcases eq_or_ne kernel state.kernels.size with rfl | hne
      · rw [if_pos rfl, Array.getElem?_eq_none (Nat.le_refl _)]
        exact Kernel.bound?_empty index
      · rw [if_neg hne]

/-- A request binds what it records. -/
theorem Known.bound?_answer (h : state.Known) (request : Request handles) :
    let reply := Host.answer (m := Id) request state
    reply.state.bound? kernel index =
      ((bindingOf? kernel index ⟨request, reply.answer⟩).map .of).or
        (state.bound? kernel index) := by
  intro reply
  have hsame (hkernels : reply.state.kernels = state.kernels) :
      reply.state.bound? kernel index = state.bound? kernel index := by
    rw [bound?, bound?, hkernels]
  cases hspares : sparesObjects request with
  | true =>
    have hkernels := (objects_answer hspares state).2
    cases request with
    | setKernelArg => exact absurd hspares Bool.false_ne_true
    | _ => exact hsame hkernels
  | false =>
    cases request with
    | createProgram context source =>
      refine hsame ?_
      simp only [reply, Host.answer, createProgram]
      split <;> rfl
    | buildProgram program device =>
      refine hsame ?_
      simp only [reply, Host.answer, buildProgram]
      split
      · rfl
      · split <;> rfl
    | createKernel program queue name params =>
      exact bound?_createKernel state program name params
    | setKernelArg target position arg => exact h.bound?_setKernelArg target position arg
    | _ => exact absurd hspares.symm Bool.false_ne_true

/-- What is bound after some requests is what was last bound by them, or before them. -/
theorem Reachable.bound?_serve (h : state.Reachable) (requests : List (Request handles)) :
    (state.serve requests).bound? kernel index =
      ((lastBinding? kernel (state.exchanges requests) index).map .of).or
        (state.bound? kernel index) := by
  induction requests generalizing state with
  | nil => rfl
  | cons request requests ih =>
    rw [exchanges, lastBinding?_cons, Option.map_or, Option.or_assoc, ← h.known.bound?_answer,
      ← ih (h.answer request)]
    rfl

/-- What is bound in a session is what was last bound on record. -/
theorem bound?_serve_fresh (clock : κ) (platforms : List Platform) (fault : Option Status)
    (requests : List (Request handles)) (index : Nat) :
    ((fresh clock platforms fault).serve requests).bound? kernel index =
      (lastBinding? kernel ((fresh clock platforms fault).exchanges requests) index).map .of :=
  ((reachable_fresh clock platforms fault).bound?_serve requests).trans Option.or_none

omit [Clock Id κ] in
theorem Known.bind_arguments?_eq_none_iff (h : state.Known) :
    state.kernels[kernel]?.bind Kernel.arguments? = none ↔
      ∃ index < 4, state.bound? kernel index = none := by
  simp only [bound?]
  cases hfound : state.kernels[kernel]? with
  | none => exact iff_of_true rfl ⟨0, by decide, rfl⟩
  | some found => exact (h found (Array.mem_of_getElem? hfound)).1.arguments?_eq_none_iff

omit [Clock Id κ] in
theorem bound?_of_arguments? {args : Arguments}
    (h : state.kernels[kernel]?.bind Kernel.arguments? = some args.vector) (index : Nat) :
    state.bound? kernel index = args.list[index]?.map .of := by
  obtain ⟨found, hfound, hargs⟩ := Option.bind_eq_some_iff.1 h
  rw [bound?, hfound, Option.bind_some, Kernel.bound?_of_arguments? hargs, ← List.getElem?_map]
  rfl

/-! ### Steps on the way -/

/-- Changes in which a command runs, cut where it does. -/
theorem Changes.split_ran {deeds : List Deed} (h : Changes state deeds state') {queue : QueueId}
    {command : Command} {before after : List Deed}
    (hsplit : deeds = before ++ .ran queue command :: after) :
    ∃ found left failure, Changes state before found ∧ Step queue found command failure left ∧
      Changes left after state' := by
  induction h generalizing after with
  | refl => exact absurd hsplit.symm (List.append_ne_nil_of_right_ne_nil _ (List.cons_ne_nil _ _))
  | change hchanges hchange ih =>
    rename_i middle last deeds new
    have hearlier {after' : List Deed} (hdeeds : deeds = before ++ .ran queue command :: after') :
        ∃ found left failure, Changes state before found ∧ Step queue found command failure left ∧
          Changes left after last := by
      rw [hdeeds, List.append_assoc, List.cons_append] at hsplit
      obtain ⟨-, hafter⟩ := List.cons.inj (List.append_cancel_left hsplit)
      obtain ⟨found, left, failure, hfound, hstep, hleft⟩ := ih hdeeds
      exact ⟨found, left, failure, hfound, hstep, hafter ▸ .change hleft hchange⟩
    cases hchange with
    | rest => exact hearlier ((List.append_nil _).symm.trans hsplit)
    | submit =>
      rcases eq_concat_split hsplit with ⟨-, heq⟩ | ⟨after', hdeeds⟩
      · exact nomatch heq
      · exact hearlier hdeeds
    | run hstep =>
      rcases eq_concat_split hsplit with ⟨rfl, heq⟩ | ⟨after', hdeeds⟩
      · obtain ⟨rfl, rfl⟩ := Deed.ran.inj heq
        have hafter : after = [] := by simpa using hsplit
        exact ⟨_, _, _, hchanges, hstep, hafter ▸ .refl⟩
      · exact hearlier hdeeds

/-! ### Enqueued kernels -/

variable {queue : QueueId} {size : UInt64} {wait : List EventId} {args : Arguments}

omit [Clock Id κ] in
theorem enqueueKernel_of_unbound (hcheck : state.checkSubmission queue wait = .ok ())
    (hnone : state.kernels[kernel]?.bind Kernel.arguments? = none) :
    state.enqueueKernel queue kernel size wait = (.error .invalidKernelArgs, state) := by
  rw [enqueueKernel_eq, admitKernel_eq, hcheck, hnone]
  rfl

omit [Clock Id κ] in
theorem enqueueKernel_of_bound (hcheck : state.checkSubmission queue wait = .ok ())
    (hargs : state.kernels[kernel]?.bind Kernel.arguments? = some args.vector) {access : Access}
    {length : Nat} (hshape : state.store.shape args.c = some (access, length)) :
    state.enqueueKernel queue kernel size wait =
      if access.device = .readOnly then (.error .invalidOperation, state)
      else
        (.ok state.store.events.size, (state.submit queue (.kernel size args.vector) wait).2) := by
  rw [enqueueKernel_eq, admitKernel_of_bound hcheck hargs hshape]
  by_cases haccess : access.device = .readOnly <;> simp [haccess, Access.deviceCanWrite]

/-- All that a kernel changes when it runs is its output. What it leaves there depends on what its
    buffers hold at this moment, and on nothing else unless an event of its wait-list has failed. -/
theorem Step.runs_kernel {command : Command} {failure : Option Status}
    (h : Step queue state command failure state') (hwf : state.WellFormed)
    (hoperation : command.operation = .kernel size args.vector) :
    if command.wait.any state.store.hasFailed then
      state'.store.memory = state.store.memory ∧
        failure = some .execStatusErrorForEventsInWaitList
    else
      let sum := VectorAdd.run (state.store.memory args.a) (state.store.memory args.b)
        (state.store.memory args.c) size args.count
      state'.store.memory = Function.update state.store.memory args.c sum.1 ∧ failure = sum.2 := by
  have hexecuted := h.spec.executes hwf
  split
  · rename_i hfailed
    have hspoils : state.store.ledger.spoils command := by
      simpa only [Ledger.spoils, ← Store.hasFailed_eq] using hfailed
    constructor
    · have hmemory : state'.store.memory = (state.store.ledger.run command).memory :=
        congrArg Ledger.memory hexecuted.ledger
      rw [hmemory, Ledger.memory_run, if_pos hspoils]
      rfl
    · rw [hexecuted.failure, hexecuted.ledger, Ledger.failure?, Ledger.outcome_run_self,
        if_pos hspoils]
  · rename_i hwait
    exact hexecuted.kernel hoperation hwait

/-- What becomes of a pending command: it is the only one that runs under its event, and the event
    resolves when it does. -/
theorem Session.ran_of_pending {clock : κ} {deeds new : List Deed} {command : Command}
    (h : Session clock deeds state) (hpending : command ∈ state.pending queue)
    (hchanges : Changes state new state') :
    (state'.store.isResolved command.event ↔ .ran queue command ∈ new) ∧
      ∀ target c, .ran target c ∈ new → c.event = command.event → target = queue ∧ c = command := by
  obtain ⟨platforms, fault, hbefore⟩ := h
  have hsession : Session clock (deeds ++ new) state' := ⟨platforms, fault, hbefore.trans hchanges⟩
  have hstart : Session clock deeds state := ⟨platforms, fault, hbefore⟩
  have haccounted := hsession.history.accounted
  rw [hstart.history.accounted.pending, mem_unfinished] at hpending
  obtain ⟨hsubmitted, hnot⟩ := hpending
  have honly (target : QueueId) (c : Command) (hran : .ran target c ∈ new)
      (heq : c.event = command.event) : target = queue ∧ c = command := by
    have hmem := (haccounted.of_ran (List.mem_append_right deeds hran)).1
    have hmem' : (queue, command) ∈ submissions (deeds ++ new) := by
      rw [submissions_append]
      exact List.mem_append_left _ hsubmitted
    exact Prod.mk.inj (haccounted.eq_of_event_eq hmem hmem' heq)
  refine ⟨?_, honly⟩
  rw [haccounted.resolved, ranEvents_append, List.mem_append, or_iff_right hnot]
  constructor
  · intro hran
    obtain ⟨deed, hdeed, hevent⟩ := List.mem_filterMap.1 hran
    cases deed with
    | submitted => exact nomatch hevent
    | ran target c =>
      obtain ⟨rfl, rfl⟩ := honly target c hdeed (Option.some.inj hevent)
      exact hdeed
  · exact fun hran => List.mem_filterMap.2 ⟨_, hran, rfl⟩

/-- A pending kernel runs as it was submitted, and from the contents that its buffers have when it
    does. -/
theorem Session.runs_pending_kernel {clock : κ} {deeds new : List Deed} {event : EventId}
    (h : Session clock deeds state) (hwf : state.WellFormed) (hknown : state.Known)
    (hpending : ⟨.kernel size args.vector, wait, event⟩ ∈ state.pending queue)
    (hchanges : Changes state new state') :
    let command : Command := ⟨.kernel size args.vector, wait, event⟩
    (state'.store.isResolved event ↔ .ran queue command ∈ new) ∧
      ∀ before target c after, new = before ++ .ran target c :: after → c.event = event →
        target = queue ∧ c = command ∧
        ∃ found left failure, Changes state before found ∧
          Step queue found command failure left ∧ Changes left after state' ∧
          if wait.any found.store.hasFailed then
            left.store.memory = found.store.memory ∧
              failure = some .execStatusErrorForEventsInWaitList
          else
            let sum := VectorAdd.run (found.store.memory args.a) (found.store.memory args.b)
              (found.store.memory args.c) size args.count
            left.store.memory = Function.update found.store.memory args.c sum.1 ∧
              failure = sum.2 := by
  intro command
  obtain ⟨hresolved, honly⟩ := h.ran_of_pending hpending hchanges
  refine ⟨hresolved, fun before target c after hsplit heq => ?_⟩
  obtain ⟨rfl, rfl⟩ := honly target c (by simp [hsplit]) heq
  obtain ⟨found, left, failure, hfound, hstep, hleft⟩ := hchanges.split_ran hsplit
  have hwf := (hfound.moves.keep hwf hknown).1
  exact ⟨rfl, rfl, found, left, failure, hfound, hstep, hleft, hstep.runs_kernel hwf rfl⟩

/-- A kernel cannot be enqueued while one of its four positions has never been bound, nor while
    devices may not write the buffer last bound as its output. Otherwise a command is submitted with
    what was last bound before this call. Whatever is asked later, the command runs as it was
    submitted, on its queue, and from the contents that its buffers have by then. -/
theorem dispatch_by_bindings (clock : κ) (platforms : List Platform) (fault : Option Status)
    (requests : List (Request handles)) (kernel : KernelId) (queue : QueueId) (size : UInt64)
    (wait : List EventId)
    (hcheck : ((fresh clock platforms fault).serve requests).checkSubmission queue wait = .ok ()) :
    let start : State κ := fresh clock platforms fault
    let state := start.serve requests
    let binding? := lastBinding? kernel (start.exchanges requests)
    let event := state.store.events.size
    let reply := Host.answer (m := Id) (.enqueueKernel queue kernel size wait) state
    (reply.answer = .error .invalidKernelArgs ↔ ∃ index < 4, binding? index = none) ∧
    ((∀ index < 4, binding? index ≠ none) → ∃ args : Arguments,
      binding? 0 = some (.buffer args.a) ∧ binding? 1 = some (.buffer args.b) ∧
      binding? 2 = some (.buffer args.c) ∧ binding? 3 = some (.int args.count) ∧
      ∃ access length, state.store.shape args.c = some (access, length) ∧
        (reply.answer = .error .invalidOperation ↔ access.device = .readOnly) ∧
        (access.device ≠ .readOnly →
          let command : Command := ⟨.kernel size args.vector, wait, event⟩
          reply.answer = .ok event ∧
          reply.state.pending queue = state.pending queue ++ [command] ∧
          (∀ later, ∃ deeds, Changes reply.state deeds (reply.state.serve later)) ∧
          ∀ deeds last, Changes reply.state deeds last →
            (last.store.isResolved event ↔ .ran queue command ∈ deeds) ∧
            ∀ before target c after, deeds = before ++ .ran target c :: after → c.event = event →
              target = queue ∧ c = command ∧
              ∃ found left failure, Changes reply.state before found ∧
                Step queue found command failure left ∧ Changes left after last ∧
                if wait.any found.store.hasFailed then
                  left.store.memory = found.store.memory ∧
                    failure = some .execStatusErrorForEventsInWaitList
                else
                  let sum := VectorAdd.run (found.store.memory args.a) (found.store.memory args.b)
                    (found.store.memory args.c) size args.count
                  left.store.memory = Function.update found.store.memory args.c sum.1 ∧
                    failure = sum.2)) := by
  intro start state binding? event reply
  have hreachable : state.Reachable := (reachable_fresh clock platforms fault).serve requests
  have hbinding (index : Nat) : state.bound? kernel index = (binding? index).map .of :=
    bound?_serve_fresh clock platforms fault requests index
  have hunbound : state.kernels[kernel]?.bind Kernel.arguments? = none ↔
      ∃ index < 4, binding? index = none := by
    simp only [hreachable.known.bind_arguments?_eq_none_iff, hbinding, Option.map_eq_none_iff]
  have hanswer : reply.answer = (state.enqueueKernel queue kernel size wait).1 := rfl
  cases hargs : state.kernels[kernel]?.bind Kernel.arguments? with
  | none =>
    rw [hanswer, enqueueKernel_of_unbound hcheck hargs]
    obtain ⟨index, hlt, hnone⟩ := hunbound.1 hargs
    exact ⟨iff_of_true rfl ⟨index, hlt, hnone⟩, fun hall => absurd hnone (hall index hlt)⟩
  | some entries =>
    obtain ⟨args, rfl, hbuffers⟩ := hreachable.known.exists_arguments hargs
    obtain ⟨⟨access, length⟩, hshape⟩ := Option.isSome_iff_exists.1 (hbuffers args.c (by simp))
    -- an entry shows of which argument it is
    have hlist (index : Nat) : binding? index = args.list[index]? :=
      Option.map_injective (fun _ _ => Bound.of_injective)
        ((hbinding index).symm.trans (bound?_of_arguments? hargs index))
    have hall : ¬∃ index < 4, binding? index = none :=
      mt hunbound.2 (hargs ▸ Option.some_ne_none _)
    have henqueue : state.enqueueKernel queue kernel size wait =
        if access.device = .readOnly then (.error .invalidOperation, state)
        else (.ok event, (state.submit queue (.kernel size args.vector) wait).2) :=
      enqueueKernel_of_bound hcheck hargs hshape
    by_cases haccess : access.device = .readOnly
    · rw [if_pos haccess] at henqueue
      have hrefused : reply.answer = .error .invalidOperation := by rw [hanswer, henqueue]
      have hother : Status.invalidOperation ≠ .invalidKernelArgs := by decide
      exact ⟨iff_of_false (by simpa [hrefused] using hother) hall, fun _ => ⟨args, hlist 0, hlist 1,
        hlist 2, hlist 3, access, length, hshape, iff_of_true hrefused haccess, absurd haccess⟩⟩
    rw [if_neg haccess] at henqueue
    have hqueued : reply.answer = .ok event := by rw [hanswer, henqueue]
    refine ⟨iff_of_false (by simp [hqueued]) hall, fun _ => ⟨args, hlist 0, hlist 1, hlist 2,
      hlist 3, access, length, hshape, iff_of_false (by simp [hqueued]) haccess, fun _ => ?_⟩⟩
    intro command
    have hstate : reply.state =
        (state.submit queue (.kernel size args.vector) wait).2.takeNotices.2 :=
      congrArg (fun result => result.2.takeNotices.2) henqueue
    have hpending : reply.state.pending queue = state.pending queue ++ [command] := by
      rw [hstate]
      have hqueue := (checkSubmission_eq_ok_iff.1 hcheck).1
      exact (pending_submit (.kernel size args.vector) wait hqueue queue).trans (if_pos rfl)
    obtain ⟨deeds₀, hsession⟩ := serve_fresh_changes clock platforms fault
      (requests ++ [.enqueueKernel queue kernel size wait])
    rw [serve_append] at hsession
    have hafter := hreachable.answer (.enqueueKernel queue kernel size wait)
    have hmem : command ∈ reply.state.pending queue := by simp [hpending]
    exact ⟨hqueued, hpending, serve_changes hafter.wellFormed hafter.known,
      fun deeds last hchanges => Session.runs_pending_kernel ⟨platforms, fault, hsession⟩
        hafter.wellFormed hafter.known hmem hchanges⟩

namespace Rebinding

/-- A backend without platforms. -/
def start : State Readings := fresh (.ofFunction fun _ => 0) [] none

/-- A queue, three buffers of one element and a kernel with its arguments, the third of which is
    then bound in vain. An upload is pending. -/
def requests : List (Request handles) :=
  let device : Device := { name := "", kind := .cpu }
  [.createQueue ⟨device⟩ device true, .createBuffer ⟨device⟩ 0 .input 1,
    .createBuffer ⟨device⟩ 0 .output 1, .createBuffer ⟨device⟩ 0 .output 1,
    .createProgram ⟨device⟩ "__kernel void vecadd(a, b, c, n)", .buildProgram 0 device,
    .createKernel 0 0 "vecadd" vectorAddParams, .setKernelArg 0 0 (.buffer 0),
    .setKernelArg 0 1 (.buffer 0), .setKernelArg 0 2 (.buffer 1), .setKernelArg 0 3 (.int 1),
    .setKernelArg 0 2 (.int 7), .enqueueWrite 0 0 false #[3] []]

/-- The state when the kernel is enqueued. -/
def before : State Readings := start.serve requests

/-- The kernel is enqueued. -/
def after : State Readings := (Host.answer (m := Id) (.enqueueKernel 0 0 1 []) before).state

/-- The third argument is bound to another buffer before the queue runs. -/
def last : State Readings := after.serve [.setKernelArg 0 2 (.buffer 2), .finish 0]

end Rebinding

/-- Neither the binding that fails before the call nor the one that succeeds after it matters,
    whereas the upload that is pending at the call does. -/
theorem dispatch_by_bindings_of_rebinding :
    Rebinding.before.checkSubmission 0 [] = .ok () ∧
      (∃ deeds, Changes Rebinding.after deeds Rebinding.last ∧
        Deed.ran 0 ⟨.kernel 1 (Arguments.mk 0 0 1 1).vector, [], 1⟩ ∈ deeds) ∧
      Rebinding.last.store.memory 1 = #[6] ∧
      Rebinding.last.store.memory 2 = #[freshElement] := by
  have hcheck : Rebinding.before.checkSubmission 0 [] = .ok () := by decide +kernel
  have hbound : ∀ index < 4, Rebinding.before.bound? 0 index =
      (Arguments.mk 0 0 1 1).vector[index]? := by decide +kernel
  have hlist (index : Nat) (hlt : index < 4) :
      lastBinding? 0 (Rebinding.start.exchanges Rebinding.requests) index =
        (Arguments.mk 0 0 1 1).list[index]? := by
    have hserve : Rebinding.before.bound? 0 index =
        (lastBinding? 0 (Rebinding.start.exchanges Rebinding.requests) index).map .of :=
      bound?_serve_fresh (Readings.ofFunction fun _ => 0) [] none Rebinding.requests index
    refine Option.map_injective (fun _ _ => Bound.of_injective) ?_
    rw [← hserve, hbound index hlt, ← List.getElem?_map]
    rfl
  have hshape : Rebinding.before.store.shape 1 = some (.output, 1) := by decide +kernel
  have hevent : Rebinding.before.store.events.size = 1 := by decide +kernel
  have hresolved : Rebinding.last.store.isResolved 1 := by decide +kernel
  obtain ⟨-, hkernel⟩ := dispatch_by_bindings (Readings.ofFunction fun _ => 0) [] none
    Rebinding.requests 0 0 1 [] hcheck
  have hall (index : Nat) (hlt : index < 4) :
      lastBinding? 0 (Rebinding.start.exchanges Rebinding.requests) index ≠ none := by
    rw [hlist index hlt, List.getElem?_eq_getElem hlt]
    exact Option.some_ne_none _
  obtain ⟨⟨a, b, c, count⟩, ha, hb, hc, hcount, access, length, houtput, -, hdispatch⟩ :=
    hkernel hall
  -- the arguments are those that the record shows
  obtain rfl : 0 = a :=
    Argument.buffer.inj (Option.some.inj ((hlist 0 (by decide)).symm.trans ha))
  obtain rfl : 0 = b :=
    Argument.buffer.inj (Option.some.inj ((hlist 1 (by decide)).symm.trans hb))
  obtain rfl : 1 = c :=
    Argument.buffer.inj (Option.some.inj ((hlist 2 (by decide)).symm.trans hc))
  obtain rfl : 1 = count :=
    Argument.int.inj (Option.some.inj ((hlist 3 (by decide)).symm.trans hcount))
  obtain ⟨rfl, -⟩ := Prod.mk.inj (Option.some.inj (hshape.symm.trans houtput))
  obtain ⟨-, -, hserve, hruns⟩ := hdispatch (by decide)
  obtain ⟨deeds, hchanges⟩ := hserve [.setKernelArg 0 2 (.buffer 2), .finish 0]
  obtain ⟨hiff, -⟩ := hruns deeds _ hchanges
  have hran : Deed.ran 0 ⟨.kernel 1 (Arguments.mk 0 0 1 1).vector, [],
      Rebinding.before.store.events.size⟩ ∈ deeds :=
    hiff.1 (hevent.symm ▸ hresolved)
  exact ⟨hcheck, ⟨deeds, hchanges, hevent ▸ hran⟩, by decide +kernel, by decide +kernel⟩

end State

end Offload.Host
