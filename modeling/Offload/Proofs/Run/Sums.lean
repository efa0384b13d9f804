import Offload.Proofs.Host.Completion
import Offload.Proofs.Run.Prepared

/-!
# Executions that succeed

An execution that succeeds leaves the inputs of its vectors as they were and their sums in the
output, and no command is pending in its queue afterwards (`Run.Reached.execute_ok`). This holds
for queues in order and out of order and under every script that does not change downloads, however
many executions have failed before and left commands in the queue. The kernel's arguments are bound
anew, and the four commands are a pass, submitted behind all that is left (`Run.Staged`).
-/

namespace Offload.Run

variable {κ κ' : Type} [Clock Id κ] {script : Script} {kernel : Host.KernelId}
  {buffers : Buffers Script.handles} {queue : Host.QueueId} {commands : List Host.Command}

/-- The arguments that an execution binds. -/
def arguments (buffers : Buffers Script.handles) : Host.Arguments :=
  ⟨buffers.a, buffers.b, buffers.c, Int32.ofNat buffers.size.toNat⟩

/-- The pass that an execution submits where so many events have been given out before. -/
def passFrom (args : Host.Arguments) (size : UInt64) (vectors : Vectors) (base : Host.EventId) :
    Host.Pass where
  args := args
  dataA := vectors.a
  dataB := vectors.b
  size := size
  length := vectors.c.size
  writeA := base
  writeB := base + 1
  added := base + 2
  readC := base + 3

theorem passFrom_consecutive (args : Host.Arguments) (size : UInt64) (vectors : Vectors)
    (base : Host.EventId) : (passFrom args size vectors base).Consecutive :=
  ⟨rfl, rfl, rfl⟩

/-- An execution that has bound its arguments and has submitted some commands to its queue. -/
structure Staged (kernel : Host.KernelId) (buffers : Buffers Script.handles)
    (queue : Host.QueueId) (commands : List Host.Command) (host : Host.State κ) : Prop where
  reachable : host.Reachable
  allocated : Allocated buffers host
  bound : host.kernels[kernel]?.bind Host.Kernel.arguments? = some (arguments buffers).vector
  pending : ∃ old, host.pending queue = old ++ commands

/-! ### Submissions -/

theorem Staged.of_submit {host host' : Host.State κ} (h : Staged kernel buffers queue commands host)
    {operation : Host.Operation} {wait : List Host.EventId}
    (hqueue : queue < host.queues.size)
    (hallocated : host'.Reachable ∧ Allocated buffers host')
    (hhost : host' = (host.submit queue operation wait).2.takeNotices.2) :
    Staged kernel buffers queue (commands ++ [⟨operation, wait, host.store.events.size⟩])
      host' := by
  obtain ⟨old, hpending⟩ := h.pending
  refine ⟨hallocated.1, hallocated.2, ?_, old, ?_⟩
  · rw [hhost]
    exact h.bound
  · have hsubmit := Host.State.pending_submit operation wait hqueue queue
    rw [if_pos rfl, hpending, List.append_assoc] at hsubmit
    rw [hhost]
    exact hsubmit

theorem enqueueWrite_staged {buffer : Host.BufferId} {data : Array Int32}
    {wait : List Script.Event} {event : Script.Event} {state : Script.State κ}
    {reply : Reply _ (Script.State κ)} (h : Staged kernel buffers queue commands state.host)
    (hreply : script.answer (m := Id) (.enqueueWrite queue buffer false data wait) state = reply)
    (hok : reply.answer = .ok event) :
    Staged kernel buffers queue
      (commands ++ [⟨.write buffer data, wait.map (·.event), event.event⟩]) reply.state.host := by
  have hallocated : reply.state.host.Reachable ∧ Allocated buffers reply.state.host :=
    hreply ▸ answer_allocated _ ⟨h.reachable, h.allocated⟩
  obtain ⟨number, answer, hanswer, hreplies⟩ := Script.enqueueWrite_replies hreply
  obtain ⟨host', hperformed, hafter⟩ := hreplies.eq_of_issued hanswer hok
  rw [Host.State.enqueueWrite_eq] at hperformed
  split at hperformed
  · exact nomatch hperformed
  · rename_i operation hadmitted
    obtain ⟨hcheck, rfl, -⟩ := Host.State.admitWrite_eq_ok hadmitted
    obtain ⟨hevent, rfl⟩ := Prod.mk.inj hperformed
    rw [← Except.ok.inj hevent]
    exact h.of_submit (Host.State.checkSubmission_eq_ok_iff.1 hcheck).1 hallocated hafter

theorem enqueueKernel_staged {wait : List Script.Event} {event : Script.Event} {size : UInt64}
    {state : Script.State κ} {reply : Reply _ (Script.State κ)}
    (h : Staged kernel buffers queue commands state.host)
    (hreply : script.answer (m := Id) (.enqueueKernel queue kernel size wait) state = reply)
    (hok : reply.answer = .ok event) :
    Staged kernel buffers queue
      (commands ++ [⟨.kernel size (arguments buffers).vector, wait.map (·.event), event.event⟩])
      reply.state.host := by
  have hallocated : reply.state.host.Reachable ∧ Allocated buffers reply.state.host :=
    hreply ▸ answer_allocated _ ⟨h.reachable, h.allocated⟩
  obtain ⟨number, answer, hanswer, hreplies⟩ := Script.enqueueKernel_replies hreply
  obtain ⟨host', hperformed, hafter⟩ := hreplies.eq_of_issued hanswer hok
  rw [Host.State.enqueueKernel_eq] at hperformed
  split at hperformed
  · exact nomatch hperformed
  · rename_i operation hadmitted
    obtain ⟨hcheck, entries, hentries, -, rfl⟩ := Host.State.admitKernel_eq_ok hadmitted
    obtain rfl : (arguments buffers).vector = entries :=
      Option.some.inj (h.bound.symm.trans hentries)
    obtain ⟨hevent, rfl⟩ := Prod.mk.inj hperformed
    rw [← Except.ok.inj hevent]
    exact h.of_submit (Host.State.checkSubmission_eq_ok_iff.1 hcheck).1 hallocated hafter

/-- The count that an execution binds makes all work items active. -/
theorem activeItems_count {size : UInt64} (hcount : ¬maxElements < size) :
    Host.VectorAdd.activeItems size (Int32.ofNat size.toNat) = size.toNat :=
  Host.VectorAdd.activeItems_ofNat (UInt64.le_iff_toNat_le.1 (UInt64.not_lt.1 hcount))

/-- A download that succeeds at the end of a pass hands out the sums. -/
theorem enqueueRead_sums {vectors : Vectors} {writeA writeB added readC : Script.Event}
    {state : Script.State κ}
    {reply : Reply (@Request.enqueueRead Script.handles queue buffers.c true vectors.c [added])
      (Script.State κ)}
    (hsize : ¬maxElements < buffers.size) (hpokes : script.pokes = [])
    (h : Staged kernel buffers queue
      [⟨.write buffers.a vectors.a, [], writeA.event⟩,
        ⟨.write buffers.b vectors.b, [], writeB.event⟩,
        ⟨.kernel buffers.size (arguments buffers).vector, [writeA.event, writeB.event],
          added.event⟩]
      state.host)
    (hreply : script.answer (m := Id) (.enqueueRead queue buffers.c true vectors.c [added]) state =
      reply)
    (hok : reply.answer.1 = .ok readC) :
    reply.answer.2.toArray = Array.zipWith (· + ·) vectors.a vectors.b := by
  obtain ⟨number, answer, hanswer, hreplies, hdata⟩ := Script.enqueueRead_replies hreply
  obtain ⟨host', hperformed, hafter⟩ := hreplies.eq_of_issued hanswer hok
  rcases hread : state.host.enqueueRead (m := Id) queue buffers.c vectors.c [added.event]
    with ⟨⟨outcome, data⟩, after⟩
  have hdata := hdata hpokes readC hok
  simp only [List.map_cons, List.map_nil, hread] at hperformed hdata
  obtain ⟨rfl, rfl⟩ := Prod.mk.inj hperformed
  obtain ⟨hcheck, hevent, ⟨access, size, hshape, hle⟩, driven, fetched, hdrive, houtcome, rfl⟩ :=
    Host.State.enqueueRead_eq_ok hread
  let pass : Host.Pass := ⟨arguments buffers, vectors.a, vectors.b, buffers.size, vectors.c.size,
    writeA.event, writeB.event, added.event, readC.event⟩
  obtain ⟨hqueue, -⟩ := Host.State.checkSubmission_eq_ok_iff.1 hcheck
  have hsubmit : (state.host.submit queue (.read buffers.c vectors.c.size)
      [added.event]).2.WellFormed := h.reachable.wellFormed.submit_of_checked _ hcheck
  obtain ⟨old, hold⟩ := h.pending
  have hpending : (state.host.submit queue (.read buffers.c vectors.c.size) [added.event]).2.pending
      queue = old ++ pass.commands := by
    rw [Host.State.pending_submit _ _ hqueue, if_pos rfl, hold, List.append_assoc, ← hevent]
    rfl
  obtain ⟨log, hsteps, -, -⟩ := hsubmit.drive (by rwa [Host.State.submit, Array.size_modify]) hdrive
  -- C has no more elements than the kernel has work items
  have hactive :
      vectors.c.size ≤ Host.VectorAdd.activeItems buffers.size (arguments buffers).count := by
    obtain ⟨_, _, hshape', hle'⟩ := h.allocated.size_c
    obtain ⟨-, rfl⟩ := Prod.mk.inj (Option.some.inj (hshape.symm.trans hshape'))
    rw [arguments, activeItems_count hsize]
    exact Nat.le_trans hle hle'
  obtain ⟨hfetched, hsums⟩ := hsteps.fetched_eq_zipWith hsubmit hpending h.allocated.a_ne_b
    houtcome vectors.size_c.symm (vectors.size_b.trans vectors.size_c.symm) hactive
  rw [hdata, Host.State.toArray_deliver hfetched]
  exact hsums

/-! ### Arguments -/

/-- The buffers are as they were allocated, and the kernel, if there is one, has bound the first
    arguments of the execution. -/
structure Bound (kernel : Host.KernelId) (buffers : Buffers Script.handles) (index : Nat)
    (host : Host.State κ) : Prop where
  allocated : host.Reachable ∧ Allocated buffers host
  holds : ∀ found, host.kernels[kernel]? = some found → found.HasBound (arguments buffers) index

theorem setKernelArg_bound {index : Nat} {arg : Argument Host.BufferId} {state : Script.State κ}
    {reply : Reply _ (Script.State κ)} (harg : (arguments buffers).list[index]? = some arg)
    (h : Bound kernel buffers index state.host)
    (hreply : script.answer (m := Id) (.setKernelArg kernel index arg) state = reply)
    (hok : reply.answer = .ok ()) :
    Bound kernel buffers (index + 1) reply.state.host ∧ kernel < reply.state.host.kernels.size := by
  have hallocated : reply.state.host.Reachable ∧ Allocated buffers reply.state.host :=
    hreply ▸ answer_allocated _ h.allocated
  have hreplies := Script.setKernelArg_replies hreply
  rw [hok] at hreplies
  obtain ⟨host', hset, hafter⟩ := hreplies.eq_of_ok
  obtain ⟨old, new, hold, hnew, -, rfl⟩ := Host.State.setKernelArg_eq_ok hset
  obtain ⟨_, hnew', hbound⟩ := (h.holds old hold).bind harg
  obtain rfl := Except.ok.inj (hnew.symm.trans hnew')
  have hlt := (Array.getElem?_eq_some_iff.1 hold).1
  have hget : reply.state.host.kernels[kernel]? = some new := by
    rw [hafter]
    exact Array.getElem?_setIfInBounds_self_of_lt hlt
  refine ⟨⟨hallocated, fun found hfound => ?_⟩, (Array.getElem?_eq_some_iff.1 hget).1⟩
  rwa [Option.some.inj (hfound.symm.trans hget)]

theorem bindArguments_cons (index : Nat) {arg : Argument Host.BufferId}
    {args : List (Argument Host.BufferId)} {last : Script.State κ → Prop}
    (harg : (arguments buffers).list[index]? = some arg)
    (hrest : Ensures (B := script.backend Id κ)
      (bindArguments kernel (index + 1) args : Run _ κ' _)
      (fun state => Bound kernel buffers (index + 1) state.host ∧
        kernel < state.host.kernels.size)
      fun bound state => bound = .ok () → last state) :
    Ensures (B := script.backend Id κ) (bindArguments kernel index (arg :: args) : Run _ κ' _)
      (fun state => Bound kernel buffers index state.host)
      fun bound state => bound = .ok () → last state := by
  have hask : Ensures (B := script.backend Id κ)
      (ask (.setKernelArg kernel index arg) : Run _ κ' _)
      (fun state => Bound kernel buffers index state.host)
      fun answer state => answer = .ok () →
        Bound kernel buffers (index + 1) state.host ∧ kernel < state.host.kernels.size :=
    .ask fun _ h hok => setKernelArg_bound harg h rfl hok
  refine hask.bind fun answer => ?_
  cases answer with
  | error status => exact .pure fun _ _ h => nomatch h
  | ok _ => exact hrest.mono (fun _ h => h rfl) fun _ _ h => h

/-- Once all arguments have been bound, the kernel has those of the execution. -/
theorem bindArguments_staged (queue : Host.QueueId) :
    Ensures (B := script.backend Id κ)
      (bindArguments kernel 0 [.buffer buffers.a, .buffer buffers.b, .buffer buffers.c,
        .int (Int32.ofNat buffers.size.toNat)] : Run _ κ' _)
      (fun state => state.host.Reachable ∧ Allocated buffers state.host)
      fun bound state => bound = .ok () → Staged kernel buffers queue [] state.host := by
  have hlast : Ensures (B := script.backend Id κ) (bindArguments kernel 4 [] : Run _ κ' _)
      (fun state => Bound kernel buffers 4 state.host ∧ kernel < state.host.kernels.size)
      fun bound state => bound = .ok () → Staged kernel buffers queue [] state.host := by
    refine .pure fun state ⟨h, hlt⟩ _ =>
      ⟨h.allocated.1, h.allocated.2, ?_, _, (List.append_nil _).symm⟩
    have hget := Array.getElem?_eq_getElem hlt
    rw [hget]
    exact (h.holds _ hget).arguments?_eq
  -- the last argument completes them, and each one before it leaves one more to be bound
  have hcount := bindArguments_cons 3 rfl hlast
  have hC := bindArguments_cons 2 rfl (hcount.mono (fun _ h => h.1) fun _ _ h => h)
  have hB := bindArguments_cons 1 rfl (hC.mono (fun _ h => h.1) fun _ _ h => h)
  have hA := bindArguments_cons 0 rfl (hB.mono (fun _ h => h.1) fun _ _ h => h)
  refine hA.mono (fun state h => ⟨h, fun found hfound => ?_⟩) fun _ _ h => h
  exact .zero (h.1.known found (Array.mem_of_getElem? hfound)).1 _

/-! ### Executions -/

/-- The inputs are as before, and the output is their sum. -/
def Summed (vectors vectors' : Vectors) : Prop :=
  vectors'.a = vectors.a ∧ vectors'.b = vectors.b ∧
    vectors'.c = Array.zipWith (· + ·) vectors.a vectors.b

/-- A submission that succeeds has fetched the sums. -/
theorem submit_summed (hsize : ¬maxElements < buffers.size) (hpokes : script.pokes = [])
    (vectors : Vectors) :
    Ensures (B := script.backend Id κ) (submit queue kernel buffers vectors : Run _ κ' _)
      (fun state => Staged kernel buffers queue [] state.host)
      fun submission _ => ∀ events, submission.outcome = .ok events →
        Summed vectors submission.vectors := by
  have hwrite (commands : List Host.Command) (buffer : Host.BufferId) (data : Array Int32) :
      Ensures (B := script.backend Id κ)
        (ask (.enqueueWrite queue buffer false data []) : Run _ κ' _)
        (fun state => Staged kernel buffers queue commands state.host)
        fun answer state => ∀ event : Script.Event, answer = .ok event →
          Staged kernel buffers queue (commands ++ [⟨.write buffer data, [], event.event⟩])
            state.host :=
    .ask fun _ h event hok => enqueueWrite_staged h rfl hok
  refine (hwrite _ _ _).bind fun answer => ?_
  cases answer with
  | error status => exact .pure fun _ _ _ h => nomatch h
  | ok writeA =>
  refine ((hwrite _ _ _).mono (fun _ h => h _ rfl) fun _ _ h => h).bind fun answer => ?_
  cases answer with
  | error status => exact .pure fun _ _ _ h => nomatch h
  | ok writeB =>
  let uploads : List Host.Command :=
    [⟨.write buffers.a vectors.a, [], writeA.event⟩, ⟨.write buffers.b vectors.b, [], writeB.event⟩]
  have hkernel : Ensures (B := script.backend Id κ)
      (ask (.enqueueKernel queue kernel buffers.size [writeA, writeB]) : Run _ κ' _)
      (fun state => Staged kernel buffers queue uploads state.host)
      fun answer state => ∀ event : Script.Event, answer = .ok event →
        Staged kernel buffers queue (uploads ++ [⟨.kernel buffers.size (arguments buffers).vector,
          [writeA.event, writeB.event], event.event⟩]) state.host :=
    .ask fun _ h event hok => enqueueKernel_staged h rfl hok
  refine (hkernel.mono (fun _ h => h _ rfl) fun _ _ h => h).bind fun answer => ?_
  cases answer with
  | error status => exact .pure fun _ _ _ h => nomatch h
  | ok added =>
  have hread : Ensures (B := script.backend Id κ)
      (ask (.enqueueRead queue buffers.c true vectors.c [added]) : Run _ κ' _)
      (fun state => Staged kernel buffers queue (uploads ++ [⟨.kernel buffers.size
        (arguments buffers).vector, [writeA.event, writeB.event], added.event⟩]) state.host)
      fun answer _ => ∀ event : Script.Event, answer.1 = .ok event →
        answer.2.toArray = Array.zipWith (· + ·) vectors.a vectors.b :=
    .ask fun _ h event hok => enqueueRead_sums hsize hpokes h rfl hok
  refine (hread.mono (fun _ h => h _ rfl) fun _ _ h => h).bind fun ⟨answer, out⟩ => ?_
  cases answer with
  | error status => exact .pure fun _ _ _ h => nomatch h
  | ok readC => exact .pure fun _ h _ _ => ⟨rfl, rfl, h _ rfl⟩

theorem settle_idle (submitted : List Script.Event) (vectors : Vectors) :
    Ensures (B := script.backend Id κ) (settle queue submitted vectors : Run _ κ' _)
      (fun state => state.host.Reachable)
      fun settled state => settled.1 = .ok () →
        settled.2 = vectors ∧ state.host.pending queue = [] := by
  have hfinish : Ensures (B := script.backend Id κ) (ask (.finish queue) : Run _ κ' _)
      (fun state => state.host.Reachable)
      fun answer state => answer = .ok () → state.host.pending queue = [] :=
    .ask fun _ h hok => finish_idle h.wellFormed rfl hok
  refine hfinish.bind fun answer => ?_
  cases answer with
  | ok _ => exact .pure fun _ h _ => ⟨rfl, h rfl⟩
  | error status =>
    have hwait : Ensures (B := script.backend Id κ) (ask (.waitEvents submitted) : Run _ κ' _)
        (fun _ => True) fun _ _ => True := .ask fun _ _ => trivial
    refine (hwait.mono (fun _ _ => trivial) fun _ _ h => h).bind fun answer => ?_
    cases answer with
    | ok _ => exact .pure fun _ _ h => nomatch h
    | error stuck => exact .bind .note fun _ => .pure fun _ _ h => nomatch h

/-- Each execution in a run that succeeds leaves the inputs as they were and their sums in the
    output, and its queue without pending commands: whatever the order of the queue, whatever calls
    the script has let fail, before or after they were performed, and whatever earlier executions
    have left in the queue. -/
theorem Reached.execute_ok [Clock Id κ'] {resources : Resources Script.handles}
    {world : World (script.backend Id κ) κ'}
    (h : Reached script resources kernel buffers world) (hpokes : script.pokes = [])
    (vectors : Vectors) {execution : Execution Script.Event}
    (hok : (execute resources kernel buffers vectors world).1.1 = .ok execution) :
    Summed vectors (execute resources kernel buffers vectors world).1.2 ∧
      (execute resources kernel buffers vectors world).2.backend.host.pendingCount
        resources.queue = 0 := by
  have hexecute : Ensures (B := script.backend Id κ)
      (execute resources kernel buffers vectors : Run _ κ' _)
      (fun state => state.host.Reachable ∧ Allocated buffers state.host)
      fun result state => ∀ execution : Execution Script.Event, result.1 = .ok execution →
        Summed vectors result.2 ∧ state.host.pending resources.queue = [] := by
    have hsubmit (hsize : ¬maxElements < buffers.size) :
        Ensures (B := script.backend Id κ)
          (submit resources.queue kernel buffers vectors : Run _ κ' _)
          (fun state => Staged kernel buffers resources.queue [] state.host)
          fun submission state =>
            (∀ events, submission.outcome = .ok events → Summed vectors submission.vectors) ∧
              state.host.Reachable ∧ Allocated buffers state.host :=
      (submit_summed hsize hpokes vectors).and
        ((submit_keeps (fun _ _ => .ask fun _ => answer_allocated _) _ _ _ _).mono
        (fun _ h => ⟨h.reachable, h.allocated⟩) fun _ _ h => h)
    -- only where both the submission and the drain succeed is there anything to show
    refine .execute (fun _ _ _ _ _ h => nomatch h) (fun _ => bindArguments_staged resources.queue)
      (fun _ _ _ _ h => nomatch h)
      (fun hsize => (hsubmit hsize).mono (fun _ h => h rfl) fun _ _ h => h)
      (fun submission => ((settle_idle _ _).frame _).mono (fun _ h => ⟨h.1, h.2.1⟩) fun _ _ h => h)
      (fun _ _ _ _ _ _ _ h => nomatch h) ?_
    rintro submission events left overall state ⟨hsummed, hidle⟩ houtcome _ -
    obtain ⟨rfl, hpending⟩ := hidle rfl
    exact ⟨hsummed events houtcome, hpending⟩
  obtain ⟨hsummed, hpending⟩ := hexecute world h.allocated execution hok
  exact ⟨hsummed, Host.State.pendingCount_eq.trans (congrArg List.length hpending)⟩

/-- Out of order, behind three commands that the execution before has left in the queue. -/
theorem Reached.execute_ok_behind_leftovers :
    let left := (execute (B := Leftover.script.backend Id Readings) Leftover.resources
      Leftover.kernel Leftover.buffers Leftover.vectors Leftover.prepared.2).2
    let result := execute (B := Leftover.script.backend Id Readings) Leftover.resources
      Leftover.kernel Leftover.buffers Leftover.vectors left
    left.backend.host.pendingCount 0 = 3 ∧ Summed Leftover.vectors result.1.2 ∧
      result.2.backend.host.pendingCount 0 = 0 := by
  intro left result
  have hok : result.1.1.toBool = true := by decide +kernel
  rcases hexecution : result.1.1 with failure | execution
  · rw [hexecution] at hok
    exact nomatch hok
  · exact ⟨by decide +kernel,
      (Leftover.reached.executed Leftover.vectors).execute_ok rfl Leftover.vectors hexecution⟩

end Offload.Run
