import Offload.Proofs.Host.Sessions
import Offload.Proofs.Host.Verdicts

/-!
# Footprints

An operation writes some elements of one buffer (`Operation.Covers`) and leaves all others as they
are. The hints of a buffer are checked when a command is submitted, long before it runs, but they
and the size of the buffer never change, so they hold when it does (`State.Session.permitted`).
Hence every element of a buffer is as fresh memory until a command that has run writes it
(`State.Session.fresh_or_written`), and where the hints allow neither uploads nor kernels, for good.
-/

namespace Offload.Host

open Function

variable {shape shape' : BufferId → Option (Access × Nat)} {operation : Operation}
  {buffer : BufferId} {i : Nat}

/-! ### Operations -/

/-- The number of elements of a buffer. -/
def length (shape : BufferId → Option (Access × Nat)) (buffer : BufferId) : Nat :=
  (shape buffer).elim 0 Prod.snd

/-- The number of elements of its output that a kernel reaches: it stops where an active work item
    finds an element missing. -/
def reach (shape : BufferId → Option (Access × Nat)) (size : UInt64) (args : Arguments) : Nat :=
  min (VectorAdd.activeItems size args.count)
    (min (length shape args.a) (min (length shape args.b) (length shape args.c)))

/-- The operation writes the element of the buffer. -/
def Operation.Covers (shape : BufferId → Option (Access × Nat)) (buffer : BufferId) (i : Nat) :
    Operation → Prop
  | write target data => target = buffer ∧ i < data.size
  | kernel size entries => ∃ args, VectorAdd.arguments entries = .ok args ∧ args.c = buffer ∧
    i < reach shape size args
  | read _ _ => False

namespace Operation

theorem mem_modifies_of_covers (h : operation.Covers shape buffer i) :
    operation.modifies = [buffer] := by
  cases operation with
  | write => rw [modifies, h.1]
  | kernel size entries =>
    obtain ⟨args, hargs, rfl, -⟩ := h
    rw [modifies, hargs]
  | read => exact h.elim

/-- An operation that fits writes the same elements when there are more buffers. -/
theorem Covers.mono (h : operation.Covers shape buffer i) (hfits : operation.Fits shape)
    (hle : ∀ buffer found, shape buffer = some found → shape' buffer = some found) :
    operation.Covers shape' buffer i := by
  cases operation with
  | write => exact h
  | read => exact h
  | kernel size entries =>
    obtain ⟨args, hargs, hc, hlt⟩ := h
    have hlength (buffer : BufferId) (hmem : buffer ∈ [args.a, args.b, args.c]) :
        length shape' buffer = length shape buffer := by
      have hsome := hfits.isSome_of_mem_touches (by rwa [touches, hargs])
      obtain ⟨found, hfound⟩ := Option.isSome_iff_exists.1 hsome
      rw [length, length, hfound, hle buffer found hfound]
    have hreach : reach shape' size args = reach shape size args := by
      rw [reach, reach, hlength args.a (by simp), hlength args.b (by simp),
        hlength args.c (by simp)]
    exact ⟨args, hargs, hc, hreach ▸ hlt⟩

theorem getElem?_overwrite_of_le {data memory : Array Int32} (hle : data.size ≤ i)
    (hsize : data.size ≤ memory.size) : (overwrite data memory)[i]? = (memory)[i]? := by
  rw [overwrite, Array.getElem?_append_right hle, Array.getElem?_extract]
  by_cases hi : i < memory.size
  · rw [if_pos (by omega)]
    congr 1
    omega
  · rw [if_neg (by omega), Array.getElem?_eq_none (Nat.le_of_not_lt hi)]

/-- An operation leaves the elements that it does not write as they are. -/
theorem getElem?_perform {memory : Memory} (hsize : ∀ b, (memory b).size = length shape b)
    (h : ¬operation.Covers shape buffer i) :
    ((operation.perform memory).2 buffer)[i]? = (memory buffer)[i]? := by
  by_cases hmem : buffer ∈ operation.modifies
  · cases operation with
    | write target data =>
      obtain rfl := List.mem_singleton.1 hmem
      have hle : data.size ≤ i := Nat.le_of_not_lt fun hlt => h ⟨rfl, hlt⟩
      rw [perform]
      split
      · rename_i hfits
        simp only [update_self]
        exact getElem?_overwrite_of_le hle hfits
      · rfl
    | kernel size entries =>
      rw [modifies] at hmem
      rw [perform]
      cases hargs : VectorAdd.arguments entries with
      | error status => rfl
      | ok args =>
        rw [hargs] at hmem
        obtain rfl := List.mem_singleton.1 hmem
        have hle : reach shape size args ≤ i :=
          Nat.le_of_not_lt fun hlt => h ⟨args, hargs, rfl, hlt⟩
        simp only [reach, ← hsize] at hle
        simp only [update_self]
        exact VectorAdd.getElem?_run_of_le hle
    | read => exact absurd hmem List.not_mem_nil
  · rw [perform_frame hmem]

/-- What an operation that is permitted writes, the hints of the buffer allow. -/
theorem Permitted.of_covers (h : operation.Permitted shape) (hfits : operation.Fits shape)
    {access : Access} {size : Nat}
    (hshape : shape buffer = some (access, size)) (hcovers : operation.Covers shape buffer i) :
    (∃ data, operation = .write buffer data ∧ i < data.size ∧ access.host ≠ .readOnly) ∨
      ∃ items, ∃ args : Arguments, operation = .kernel items args.vector ∧ args.c = buffer ∧
        i < reach shape items args ∧ access.device ≠ .readOnly := by
  cases operation with
  | write target data =>
    obtain ⟨rfl, hlt⟩ := hcovers
    obtain ⟨_, _, hfound, hallowed⟩ := h
    obtain ⟨rfl, -⟩ := Prod.mk.inj (Option.some.inj (hshape.symm.trans hfound))
    exact .inl ⟨data, rfl, hlt, by simpa [Access.hostCanWrite] using hallowed⟩
  | kernel items entries =>
    obtain ⟨args, rfl, -⟩ := hfits
    obtain ⟨_, hargs, rfl, hlt⟩ := hcovers
    obtain rfl := Except.ok.inj ((VectorAdd.arguments_vector args).symm.trans hargs)
    obtain ⟨_, _, hfound, hallowed⟩ := h args rfl
    obtain ⟨rfl, -⟩ := Prod.mk.inj (Option.some.inj (hshape.symm.trans hfound))
    exact .inr ⟨items, args, rfl, rfl, hlt, by simpa [Access.deviceCanWrite] using hallowed⟩
  | read => exact hcovers.elim

end Operation

theorem Ledger.memory_run (ledger : Ledger) (command : Command) :
    (ledger.run command).memory =
      if ledger.spoils command then ledger.memory
      else (command.operation.perform ledger.memory).2 := by
  rw [run]
  split <;> rfl

namespace State

variable {κ : Type} {clock : κ} {state state' : State κ} {deeds new : List Deed}
  {queue : QueueId} {command : Command}

theorem size_memory_eq (store : Store κ) (buffer : BufferId) :
    (store.memory buffer).size = length store.shape buffer := by
  rw [length]
  cases hshape : store.shape buffer with
  | none => rw [memory_of_shape hshape]; rfl
  | some found => exact Store.size_memory hshape

/-- A command that runs leaves all elements that it does not write as they are, and all elements if
    an event of its wait-list has failed. -/
theorem Stepped.getElem?_memory {failure : Option Status} (h : state.WellFormed)
    (hstep : Stepped queue state command failure state')
    (hchanged : (state'.store.memory buffer)[i]? ≠ (state.store.memory buffer)[i]?) :
    (∀ event ∈ command.wait, ¬state.store.hasFailed event) ∧
      command.operation.Covers state.store.shape buffer i ∧
      ∀ other ≠ buffer, state'.store.memory other = state.store.memory other := by
  have hmemory : state'.store.memory = (state.store.ledger.run command).memory :=
    congrArg Ledger.memory (hstep.executes h).ledger
  rw [Ledger.memory_run] at hmemory
  split at hmemory
  · -- a command that is spoiled changes nothing
    rw [hmemory] at hchanged
    exact absurd rfl hchanged
  · rename_i hspoils
    have hcovers : command.operation.Covers state.store.shape buffer i := by
      by_contra hnot
      rw [hmemory] at hchanged
      exact hchanged (Operation.getElem?_perform (size_memory_eq state.store) hnot)
    refine ⟨fun event hevent hfailed => hspoils ?_, hcovers, fun other hne => ?_⟩
    · rw [Store.hasFailed_eq] at hfailed
      exact List.any_eq_true.2 ⟨event, hevent, hfailed⟩
    · rw [hmemory]
      refine Operation.perform_frame ?_
      rw [Operation.mem_modifies_of_covers hcovers]
      exact fun hmem => hne (List.mem_singleton.1 hmem)

/-! ### Sessions -/

variable [Clock Id κ]

/-- The hints of all buffers allow what the commands of a session do to them. -/
theorem Session.permitted (h : Session clock deeds state) :
    ∀ submission ∈ submissions deeds, submission.2.operation.Permitted state.store.shape := by
  refine h.induct (fun _ _ => nofun) fun deeds new state state' hsession ih hchange submission
    hmem => ?_
  have hshape (buffer : BufferId) (found : Access × Nat)
      (hfound : state.store.shape buffer = some found) :
      state'.store.shape buffer = some found :=
    hchange.move.shape hsession.history.accounted.wellFormed hfound
  rw [submissions_append] at hmem
  rcases List.mem_append.1 hmem with hmem | hmem
  · exact (ih submission hmem).mono hshape
  · cases hchange with
    | rest => exact absurd hmem List.not_mem_nil
    | submit _ _ hpermitted =>
      obtain rfl := List.mem_singleton.1 hmem
      exact hpermitted
    | run => exact absurd hmem List.not_mem_nil

/-- A command of the session has run, was not kept from it by a failure in its wait-list, and writes
    the element. -/
def Written (deeds : List Deed) (state : State κ) (buffer : BufferId) (i : Nat) : Prop :=
  ∃ queue c, Deed.ran queue c ∈ deeds ∧ (∀ event ∈ c.wait, ¬state.store.hasFailed event) ∧
    c.operation.Covers state.store.shape buffer i

omit [Clock Id κ] in
/-- A command that ran was submitted, and what it waited for has resolved. -/
theorem Accounted.of_ran (h : Accounted deeds state) (hran : Deed.ran queue command ∈ deeds) :
    (queue, command) ∈ submissions deeds ∧
      ∀ event ∈ command.wait, state.store.isResolved event := by
  obtain ⟨before, after, rfl⟩ := List.append_of_mem hran
  obtain ⟨hmem, hwait⟩ := h.inTime before queue command after rfl
  rw [submissions_append]
  refine ⟨List.mem_append_left _ hmem, fun event hevent => ?_⟩
  rw [h.resolved, ranEvents_append]
  exact List.mem_append_left _ (hwait event hevent)

/-- What has been written stays so. -/
theorem Written.change (h : Written deeds state buffer i) (haccounted : Accounted deeds state)
    (hchange : Change state new state') : Written (deeds ++ new) state' buffer i := by
  obtain ⟨queue, c, hran, hwait, hcovers⟩ := h
  obtain ⟨hmem, hresolved⟩ := haccounted.of_ran hran
  refine ⟨queue, c, List.mem_append_left _ hran, fun event hevent => ?_,
    hcovers.mono (haccounted.fits _ hmem).1
      fun _ _ hfound => hchange.move.shape haccounted.wellFormed hfound⟩
  have hsame := hchange.move.events_eq haccounted.wellFormed (hresolved event hevent)
  rw [Store.hasFailed, Store.status, hsame]
  exact hwait event hevent

/-- What changes an element of a buffer that there is. -/
theorem Change.getElem?_memory (h : Change state new state')
    (hbuffer : (state.store.shape buffer).isSome)
    (hchanged : (state'.store.memory buffer)[i]? ≠ (state.store.memory buffer)[i]?) :
    ∃ queue c failure, new = [.ran queue c] ∧ Stepped queue state c failure state' := by
  cases h with
  | rest hrest =>
    rw [hrest.memory buffer hbuffer] at hchanged
    exact absurd rfl hchanged
  | submit => exact absurd rfl hchanged
  | run hstep => exact ⟨_, _, _, rfl, hstep.spec⟩

/-- Every element of a buffer is as in fresh memory, unless a command has written it. -/
theorem Session.fresh_or_written (h : Session clock deeds state) {x : Int32} :
    (state.store.memory buffer)[i]? = some x → x = freshElement ∨ Written deeds state buffer i := by
  refine h.induct (fun platforms fault => ?_)
    fun deeds new state state' hsession ih hchange hx => ?_
  · exact nofun
  · have haccounted := hsession.history.accounted
    have hwf := haccounted.wellFormed
    cases hshape : state.store.shape buffer with
    | none =>
      -- the buffer has just been made, if it is there at all
      cases hchange with
      | rest hrest => exact .inl (hrest.fresh buffer hshape x (Array.mem_of_getElem? hx))
      | submit =>
        have hempty : state.store.memory buffer = #[] := memory_of_shape hshape
        have hx : (state.store.memory buffer)[i]? = some x := hx
        rw [hempty] at hx
        exact nomatch hx
      | run hstep =>
        have hnone := (congrFun (hstep.spec.executes hwf).shape buffer).trans hshape
        rw [memory_of_shape hnone] at hx
        exact nomatch hx
    | some found =>
      by_cases hsame : (state'.store.memory buffer)[i]? = (state.store.memory buffer)[i]?
      · exact (ih (hsame ▸ hx)).imp_right fun hwritten => hwritten.change haccounted hchange
      · obtain ⟨queue, c, failure, rfl, hstep⟩ :=
          hchange.getElem?_memory (Option.isSome_of_eq_some hshape) hsame
        obtain ⟨hwait, hcovers, -⟩ := hstep.getElem?_memory hwf hsame
        have hexecuted := hstep.executes hwf
        refine .inr ⟨queue, c, by simp, fun event hevent => ?_, hexecuted.shape.symm ▸ hcovers⟩
        -- what the command waited for was settled before it ran
        have hresolved : state.store.isResolved event :=
          List.all_eq_true.1 hstep.ready event hevent
        rw [Store.hasFailed, Store.status, hchange.move.events_eq hwf hresolved]
        exact hwait event hevent

/-- A buffer whose hints allow neither uploads nor kernels stays as it was made. -/
theorem Session.fresh_of_readOnly (h : Session clock deeds state) {access : Access} {size : Nat}
    (hshape : state.store.shape buffer = some (access, size)) (hhost : access.host = .readOnly)
    (hdevice : access.device = .readOnly) : ∀ x ∈ state.store.memory buffer, x = freshElement := by
  intro x hx
  obtain ⟨i, hi⟩ := Array.mem_iff_getElem?.1 hx
  refine (h.fresh_or_written hi).resolve_right ?_
  rintro ⟨queue, c, hran, -, hcovers⟩
  have hmem := (h.history.accounted.of_ran hran).1
  have hfits := (h.history.accounted.fits _ hmem).1
  rcases (h.permitted _ hmem).of_covers hfits hshape hcovers with
    ⟨-, -, -, hne⟩ | ⟨-, -, -, -, -, hne⟩
  · exact hne hhost
  · exact hne hdevice

/-- Buffers keep the hints and the size with which they were made, and an element holds the pattern
    of fresh memory until a command that writes it has run. Nothing but a command that runs changes
    an element of a buffer that there is, and then no event of its wait-list has failed, it changes
    no other buffer, and it is an upload over this element, if the hints let the host write, or a
    kernel with this buffer as its output that reaches the element, if they let devices write. -/
theorem buffers_by_commands (clock : κ) (platforms : List Platform) (fault : Option Status) :
    let start : State κ := fresh clock platforms fault
    (∀ requests, ∃ deeds, Changes start deeds (start.serve requests)) ∧
      (∀ before context queue access size after buffer,
        ((start.serve before).createBuffer context access size).1 = .ok buffer →
        (start.serve (before ++ .createBuffer context queue access size :: after)).store.shape
          buffer = some (access, size.toNat)) ∧
      ∀ deeds state, Changes start deeds state →
        ∀ buffer access size, state.store.shape buffer = some (access, size) →
          (state.store.memory buffer).size = size ∧
          (∀ i < size, (state.store.memory buffer)[i]? = some freshElement ∨
            Written deeds state buffer i) ∧
          (access.host = .readOnly → access.device = .readOnly →
            ∀ x ∈ state.store.memory buffer, x = freshElement) ∧
          ∀ new state', Change state new state' →
            state'.store.shape buffer = some (access, size) ∧
            ∀ i, (state'.store.memory buffer)[i]? ≠ (state.store.memory buffer)[i]? →
              ∃ queue c, new = [.ran queue c] ∧
                (∀ event ∈ c.wait, ¬state.store.hasFailed event) ∧
                (∀ other ≠ buffer, state'.store.memory other = state.store.memory other) ∧
                ((∃ data, c.operation = .write buffer data ∧ i < data.size ∧
                    access.host ≠ .readOnly) ∨
                  ∃ items, ∃ args : Arguments, c.operation = .kernel items args.vector ∧
                    args.c = buffer ∧ i < reach state.store.shape items args ∧
                    access.device ≠ .readOnly) := by
  intro start
  refine ⟨serve_fresh_changes clock platforms fault, fun before context queue access size after
    buffer hmade => ?_, fun deeds state hchanges buffer access size hshape => ?_⟩
  · rw [serve_append]
    exact shape_serve ((reachable_fresh clock platforms fault).serve before) queue hmade after
  have hsession : Session clock deeds state := ⟨platforms, fault, hchanges⟩
  have haccounted := hsession.history.accounted
  have hsize := Store.size_memory hshape
  refine ⟨hsize, fun i hi => ?_, hsession.fresh_of_readOnly hshape, fun new state' hchange =>
    ⟨hchange.move.shape haccounted.wellFormed hshape, fun i hchanged => ?_⟩⟩
  · obtain ⟨x, hx⟩ : ∃ x, (state.store.memory buffer)[i]? = some x :=
      ⟨_, Array.getElem?_eq_getElem (hsize ▸ hi)⟩
    exact (hsession.fresh_or_written hx).imp_left fun heq => by rw [hx, heq]
  · obtain ⟨queue, c, failure, hnew, hstep⟩ :=
      hchange.getElem?_memory (Option.isSome_of_eq_some hshape) hchanged
    obtain ⟨hwait, hcovers, hothers⟩ := hstep.getElem?_memory haccounted.wellFormed hchanged
    have hmem := (mem_unfinished.1 (haccounted.pending queue ▸ hstep.mem)).1
    exact ⟨queue, c, hnew, hwait, hothers,
      (hsession.permitted _ hmem).of_covers (haccounted.fits _ hmem).1 hshape hcovers⟩

/-- A kernel of two work items that reaches one element of its output before it fails. -/
theorem buffers_by_commands_of_overrun :
    let device : Device := { name := "", kind := .cpu }
    let start : State Readings := fresh (.ofFunction fun _ => 0) [] none
    let state := start.serve
      [.createQueue ⟨device⟩ device true, .createBuffer ⟨device⟩ 0 .input 1,
        .createBuffer ⟨device⟩ 0 .output 2,
        .createProgram ⟨device⟩ "__kernel void vecadd(a, b, c, n)", .buildProgram 0 device,
        .createKernel 0 0 "vecadd" vectorAddParams, .setKernelArg 0 0 (.buffer 0),
        .setKernelArg 0 1 (.buffer 0), .setKernelArg 0 2 (.buffer 1), .setKernelArg 0 3 (.int 2),
        .enqueueWrite 0 0 false #[3] [], .enqueueKernel 0 0 2 [0], .finish 0]
    state.store.shape 1 = some (.output, 2) ∧
      state.store.memory 1 = #[6, freshElement] ∧
      ∃ deeds, Changes start deeds state ∧ Written deeds state 1 0 := by
  intro device start state
  have hserved : state.store.shape 1 = some (.output, 2) ∧
      state.store.memory 1 = #[6, freshElement] := by decide +kernel
  obtain ⟨hshape, hmemory⟩ := hserved
  obtain ⟨hserve, -, hbuffers⟩ := buffers_by_commands
    (Readings.ofFunction fun _ => 0) [] none
  obtain ⟨deeds, hchanges⟩ := hserve _
  obtain ⟨-, hwritten, -⟩ := hbuffers deeds state hchanges 1 .output 2 hshape
  have hchanged : (state.store.memory 1)[0]? ≠ some freshElement := by
    rw [hmemory]
    decide
  exact ⟨hshape, hmemory, deeds, hchanges, (hwritten 0 Nat.two_pos).resolve_left hchanged⟩

end State

end Offload.Host
