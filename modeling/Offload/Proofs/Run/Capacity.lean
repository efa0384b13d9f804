import Offload.Proofs.Run.Sums

/-!
# Executions by capacity

A buffer that is declared with so many elements may really get fewer. Where no call fails by the
script, what an execution comes to is settled by three numbers: the length that was declared, the
capacity of the buffers and the length of the vectors (`Run.capacityFailure?`). This holds in every
world of a run, however often it has been executed, as each execution leaves its queue empty and the
buffers as long as they were (`Run.Poised`).

Vectors that are too long are refused with the first upload. Those that fit are uploaded, but the
kernel has a work item for each element that was declared. Where the buffers have fewer, it runs off
their end, and the download that waits for it fails.
-/

namespace Offload.Run

/-- Why an execution fails, if it does, by the declared length and the capacity of the buffers and
    the length of the vectors. -/
def capacityFailure? (declared capacity length : Nat) : Option Failure :=
  if 2147483647 < declared then
    some (.invalidConfig ("element count " ++ toString declared ++ " exceeds i32"))
  else if capacity < length then some (.enqueue .writeA .invalidValue)
  else if capacity < declared then some (.enqueue .readC .execStatusErrorForEventsInWaitList)
  else none

section

variable {κ κ' : Type} [Clock Id κ] {script : Script} {queue : Host.QueueId}
  {kernel : Host.KernelId} {buffers : Buffers Script.handles} {capacity : Nat} {vectors : Vectors}

/-! ### Arguments -/

theorem Poised.of_same {host host' : Host.State κ} (h : Poised queue kernel buffers capacity host)
    (hreachable : host'.Reachable) (hqueues : host'.queues = host.queues)
    (hkernels : host'.kernels.size = host.kernels.size)
    (hbuffers : host'.store.buffers = host.store.buffers) :
    Poised queue kernel buffers capacity host' := by
  have hshape : host'.store.shape = host.store.shape := by
    funext buffer
    rw [Host.Store.shape, hbuffers, Host.Store.shape]
  exact ⟨h.fresh.of_queues hreachable hqueues, hkernels ▸ h.kernel_lt, h.a_ne_b,
    hshape ▸ h.shape_a, hshape ▸ h.shape_b, hshape ▸ h.shape_c⟩

/-- A run between two executions, of which the next one has bound its first arguments. -/
structure Primed (queue : Host.QueueId) (kernel : Host.KernelId) (buffers : Buffers Script.handles)
    (capacity index : Nat) (host : Host.State κ) : Prop where
  poised : Poised queue kernel buffers capacity host
  holds : ∃ found, host.kernels[kernel]? = some found ∧ found.HasBound (arguments buffers) index

theorem setKernelArg_primed (hfaults : script.faults = []) {index : Nat}
    {arg : Argument Host.BufferId} {state : Script.State κ} {reply : Reply _ (Script.State κ)}
    (harg : (arguments buffers).list[index]? = some arg)
    (h : Primed queue kernel buffers capacity index state.host)
    (hreply : script.answer (m := Id) (.setKernelArg kernel index arg) state = reply) :
    reply.answer = .ok () ∧ Primed queue kernel buffers capacity (index + 1) reply.state.host := by
  obtain ⟨hanswer, hafter⟩ := (Script.setKernelArg_replies hreply).eq_performed hfaults
  have hbuffer : state.host.hasBuffer arg := by
    refine Host.State.hasBuffer_of_list ?_ harg
    simp [arguments, h.poised.shape_a, h.poised.shape_b, h.poised.shape_c]
  have hreachable := h.poised.fresh.reachable.answer (.setKernelArg kernel index arg)
  obtain ⟨old, hold, hbound⟩ := h.holds
  obtain ⟨kernels, new, hset, hsize, hnew, hbound'⟩ :=
    Host.State.setKernelArg_hasBound hold hbound harg hbuffer
  simp only [Host.answer, hset] at hreachable
  rw [hset] at hanswer hafter
  rw [hafter]
  exact ⟨hanswer, h.poised.of_same hreachable rfl hsize rfl, new, hnew, hbound'⟩

/-- All arguments can be bound. -/
theorem bindArguments_primed (hfaults : script.faults = []) :
    Ensures (B := script.backend Id κ)
      (bindArguments kernel 0 [.buffer buffers.a, .buffer buffers.b, .buffer buffers.c,
        .int (Int32.ofNat buffers.size.toNat)] : Run _ κ' _)
      (fun state => Poised queue kernel buffers capacity state.host)
      fun bound state => bound = .ok () ∧ Primed queue kernel buffers capacity 4 state.host := by
  have hnext (index : Nat) (arg : Argument Host.BufferId)
      (harg : (arguments buffers).list[index]? = some arg) : Ensures (B := script.backend Id κ)
      (ask (.setKernelArg kernel index arg) : Run _ κ' _)
      (fun state => Primed queue kernel buffers capacity index state.host)
      fun answer state => answer = .ok () ∧
        Primed queue kernel buffers capacity (index + 1) state.host :=
    .ask fun _ h => setKernelArg_primed hfaults harg h rfl
  have hbind := bindArguments_ok (B := script.backend Id κ) (κ := κ')
    (fun index state => Primed queue kernel buffers capacity index state.host)
    fun index arg harg => (Nat.zero_add index).symm ▸ hnext index arg harg
  refine hbind.mono (fun state h => ⟨h, _, Array.getElem?_eq_getElem h.kernel_lt, ?_⟩)
    fun _ _ h => h
  exact .zero (h.fresh.reachable.known _ (Array.getElem_mem h.kernel_lt)).1 _

/-! ### Submission -/

/-- The pass of an execution where so many events have been given out before. -/
abbrev passAfter (buffers : Buffers Script.handles) (vectors : Vectors) (base : Host.EventId) :
    Host.Pass :=
  passFrom (arguments buffers) buffers.size vectors base

theorem Primed.underway {host : Host.State κ} (h : Primed queue kernel buffers capacity 4 host)
    (vectors : Vectors) :
    (passAfter buffers vectors host.store.events.size).Underway queue kernel capacity 0 host := by
  obtain ⟨hpoised, found, hfound, hbound⟩ := h
  refine ⟨⟨hpoised.fresh.reachable, hpoised.fresh.lt_size, hpoised.a_ne_b, hpoised.shape_a,
    hpoised.shape_b, hpoised.shape_c, ?_⟩, passFrom_consecutive _ _ _ _, hpoised.fresh.idle, rfl⟩
  rw [hfound]
  exact hbound.arguments?_eq

theorem poised_of_ready {base : Host.EventId} {host : Host.State κ}
    (h : (passAfter buffers vectors base).Ready queue kernel capacity host)
    (hidle : host.pending queue = []) : Poised queue kernel buffers capacity host := by
  obtain ⟨found, hfound, -⟩ := Option.bind_eq_some_iff.1 h.bound
  exact ⟨⟨h.reachable, h.lt_size, hidle⟩, (Array.getElem?_eq_some_iff.1 hfound).1, h.a_ne_b,
    h.shape_a, h.shape_b, h.shape_c⟩

/-- How a submission or an execution ends that is to fail or not: a failure leaves the vectors as
    they were, and otherwise all commands have completed, and the output has the sums, unless the
    script changes what is downloaded. -/
def EndsBy {α : Type} (script : Script) (failure? : Option Failure) (vectors : Vectors)
    (events : α → StageEvents Script.Event) (outcome : Except Failure α) (left : Vectors)
    (host : Host.State κ) : Prop :=
  match failure? with
  | some failure => outcome = .error failure ∧ left = vectors
  | none => ∃ a, outcome = .ok a ∧
      (∀ stage, ∃ stamps, host.store.status ((events a).get stage).event = .complete stamps) ∧
      left.a = vectors.a ∧ left.b = vectors.b ∧
      (script.pokes = [] → left.c = Array.zipWith (· + ·) vectors.a vectors.b)

omit [Clock Id κ] in
/-- An execution whose drain has succeeded ends as its submission did. -/
theorem EndsBy.execution {failure? : Option Failure} {submission : Submission Script.Event}
    {host : Host.State κ} {outcome : Except Failure (Execution Script.Event)}
    (h : EndsBy script failure? vectors id submission.outcome submission.vectors host)
    (houtcome : outcome.map (·.events) = submission.outcome) :
    EndsBy script failure? vectors (·.events) outcome submission.vectors host := by
  rw [← houtcome] at h
  cases failure? with
  | some failure =>
    obtain ⟨hfailed, hleft⟩ := h
    cases outcome with
    | error =>
      obtain rfl := Except.error.inj hfailed
      exact ⟨rfl, hleft⟩
    | ok => exact nomatch hfailed
  | none =>
    obtain ⟨events, hok, h⟩ := h
    cases outcome with
    | error => exact nomatch hok
    | ok execution =>
      obtain rfl := Except.ok.inj hok
      exact ⟨execution, rfl, h⟩

section

variable {pass : Host.Pass} {count : Nat} {buffer : Host.BufferId} {data : Array Int32}
  {event : Host.EventId} {state : Script.State κ}

theorem enqueueWrite_refuses (hfaults : script.faults = [])
    (hcommand : pass.commands[count]? = some ⟨.write buffer data, [], event⟩)
    (h : pass.Underway queue kernel capacity count state.host)
    (hshape : state.host.store.shape buffer = some (.input, capacity))
    (hlarge : capacity < data.size) {reply : Reply _ (Script.State κ)}
    (hreply : script.answer (m := Id) (.enqueueWrite queue buffer false data []) state = reply) :
    reply.answer = .error .invalidValue ∧
      pass.Underway queue kernel capacity count reply.state.host := by
  obtain ⟨number, answer, hissued, hreplies⟩ := Script.enqueueWrite_replies hreply
  obtain ⟨rfl, hafter⟩ := hreplies.eq_performed hfaults
  have hanswer := h.enqueueWrite_refused hcommand hshape hlarge
  rw [List.map_nil, hanswer] at hissued hafter
  rw [hafter]
  exact ⟨hissued, h.takeNotices⟩

theorem enqueueWrite_submits (hfaults : script.faults = [])
    (hcommand : pass.commands[count]? = some ⟨.write buffer data, [], event⟩)
    (h : pass.Underway queue kernel capacity count state.host)
    (hshape : state.host.store.shape buffer = some (.input, capacity))
    (hfits : data.size ≤ capacity) {reply : Reply _ (Script.State κ)}
    (hreply : script.answer (m := Id) (.enqueueWrite queue buffer false data []) state = reply) :
    ∃ issued : Script.Event, reply.answer = .ok issued ∧ issued.event = event ∧
      pass.Underway queue kernel capacity (count + 1) reply.state.host := by
  obtain ⟨number, answer, hissued, hreplies⟩ := Script.enqueueWrite_replies hreply
  obtain ⟨rfl, hafter⟩ := hreplies.eq_performed hfaults
  obtain ⟨hanswer, hunderway⟩ := h.enqueueWrite hcommand hshape hfits
  rw [List.map_nil, hanswer] at hissued hafter
  rw [hafter]
  exact ⟨⟨number, event⟩, hissued, rfl, hunderway⟩

theorem enqueueKernel_submits (hfaults : script.faults = [])
    (h : pass.Underway queue kernel capacity 2 state.host) {writeA writeB : Script.Event}
    (hwriteA : writeA.event = pass.writeA) (hwriteB : writeB.event = pass.writeB)
    {reply : Reply _ (Script.State κ)}
    (hreply :
      script.answer (m := Id) (.enqueueKernel queue kernel pass.size [writeA, writeB]) state =
        reply) :
    ∃ issued : Script.Event, reply.answer = .ok issued ∧ issued.event = pass.added ∧
      pass.Underway queue kernel capacity 3 reply.state.host := by
  obtain ⟨number, answer, hissued, hreplies⟩ := Script.enqueueKernel_replies hreply
  obtain ⟨rfl, hafter⟩ := hreplies.eq_performed hfaults
  obtain ⟨hanswer, hunderway⟩ := h.enqueueKernel
  simp only [List.map_cons, List.map_nil, hwriteA, hwriteB, hanswer] at hissued hafter
  rw [hafter]
  exact ⟨⟨number, pass.added⟩, hissued, rfl, hunderway⟩

theorem enqueueRead_fails (hfaults : script.faults = [])
    (h : pass.Underway queue kernel capacity 3 state.host) {added : Script.Event}
    (hadded : added.event = pass.added) {out : Array Int32} (hlength : pass.length = out.size)
    (hfits : pass.length ≤ capacity)
    (hnarrow : capacity < Host.VectorAdd.activeItems pass.size pass.args.count)
    {reply : Reply _ (Script.State κ)}
    (hreply : script.answer (m := Id) (.enqueueRead queue pass.args.c true out [added]) state =
      reply) :
    reply.answer = (.error .execStatusErrorForEventsInWaitList, out.toVector) ∧
      pass.Ready queue kernel capacity reply.state.host ∧ reply.state.host.pending queue = [] := by
  obtain ⟨after, hanswer, hready, hidle⟩ := h.enqueueRead_overruns hlength hfits hnarrow
  rw [← hadded] at hanswer
  obtain ⟨hanswer, hafter⟩ := Script.enqueueRead_fails hfaults hreply hanswer
  rw [hafter]
  exact ⟨hanswer, hready, hidle⟩

theorem enqueueRead_succeeds (hfaults : script.faults = [])
    (h : pass.Underway queue kernel capacity 3 state.host) {added : Script.Event}
    (hadded : added.event = pass.added) {out : Array Int32} (hlength : pass.length = out.size)
    (hA : pass.dataA.size = pass.length) (hB : pass.dataB.size = pass.length)
    (hactive : pass.length ≤ Host.VectorAdd.activeItems pass.size pass.args.count)
    (hwide : Host.VectorAdd.activeItems pass.size pass.args.count ≤ capacity)
    {reply : Reply (@Request.enqueueRead Script.handles queue pass.args.c true out [added])
      (Script.State κ)}
    (hreply : script.answer (m := Id) (.enqueueRead queue pass.args.c true out [added]) state =
      reply) :
    ∃ readC : Script.Event, reply.answer.1 = .ok readC ∧ readC.event = pass.readC ∧
      (script.pokes = [] →
        reply.answer.2.toArray = Array.zipWith (· + ·) pass.dataA pass.dataB) ∧
      pass.Ready queue kernel capacity reply.state.host ∧ reply.state.host.pending queue = [] ∧
      ∀ c ∈ pass.commands, ∃ stamps,
        reply.state.host.store.status c.event = .complete stamps := by
  obtain ⟨log, after, sums, -, hanswer, hsums, hready, hidle, hcomplete⟩ :=
    h.enqueueRead_completes hlength hA hB hactive hwide
  obtain ⟨number, answer, hissued, hreplies, hdata⟩ := Script.enqueueRead_replies hreply
  obtain ⟨rfl, hafter⟩ := hreplies.eq_performed hfaults
  simp only [List.map_cons, List.map_nil, hadded, hanswer] at hissued hafter hdata
  refine ⟨_, hissued, rfl, fun hpokes => ?_, ?_⟩
  · rw [hdata hpokes _ hissued]
    exact hsums
  · rw [hafter]
    exact ⟨hready, hidle, hcomplete⟩

end

variable {base : Host.EventId}

/-- Vectors that are too long for the buffers are refused at once. -/
theorem submit_refused (hfaults : script.faults = []) (hlarge : capacity < vectors.size) :
    Ensures (B := script.backend Id κ) (submit queue kernel buffers vectors : Run _ κ' _)
      (fun state =>
        (passAfter buffers vectors base).Underway queue kernel capacity 0 state.host)
      fun submission state =>
        (submission.outcome = .error (.enqueue .writeA .invalidValue) ∧
          submission.vectors = vectors) ∧
        Poised queue kernel buffers capacity state.host := by
  have hwriteA : Ensures (B := script.backend Id κ)
      (ask (.enqueueWrite queue buffers.a false vectors.a []) : Run _ κ' _)
      (fun state => (passAfter buffers vectors base).Underway queue kernel capacity 0 state.host)
      fun answer state => answer = .error .invalidValue ∧
        (passAfter buffers vectors base).Underway queue kernel capacity 0 state.host :=
    .ask fun _ h => enqueueWrite_refuses hfaults rfl h h.ready.shape_a hlarge rfl
  refine hwriteA.bind fun answer => .given fun hanswer => ?_
  obtain rfl : answer = .error .invalidValue := hanswer
  exact .pure fun _ h => ⟨⟨rfl, rfl⟩, poised_of_ready h.ready h.pending⟩

/-- What the download answers: it fails if the buffers have fewer elements than were declared, and
    otherwise the pass has completed, and it hands out the sums. -/
def Downloaded (script : Script) (buffers : Buffers Script.handles) (capacity : Nat)
    (vectors : Vectors) (base : Host.EventId)
    (answer : Except Status Script.Event × Vector Int32 vectors.c.size) (host : Host.State κ) :
    Prop :=
  if capacity < buffers.size.toNat then
    answer = (.error .execStatusErrorForEventsInWaitList, vectors.c.toVector)
  else
    ∃ readC : Script.Event, answer.1 = .ok readC ∧ readC.event = base + 3 ∧
      (script.pokes = [] → answer.2.toArray = Array.zipWith (· + ·) vectors.a vectors.b) ∧
      ∀ c ∈ (passAfter buffers vectors base).commands, ∃ stamps,
        host.store.status c.event = .complete stamps

/-- The download of vectors that fit ends the pass. -/
theorem enqueueRead_by_capacity (hfaults : script.faults = [])
    (hcount : ¬maxElements < buffers.size) (hfits : vectors.c.size ≤ capacity)
    (hle : capacity ≤ buffers.size.toNat) {state : Script.State κ}
    (h : (passAfter buffers vectors base).Underway queue kernel capacity 3 state.host)
    {added : Script.Event} (hadded : added.event = base + 2)
    {reply : Reply (@Request.enqueueRead Script.handles queue buffers.c true vectors.c [added])
      (Script.State κ)}
    (hreply : script.answer (m := Id) (.enqueueRead queue buffers.c true vectors.c [added]) state =
      reply) :
    Downloaded script buffers capacity vectors base reply.answer reply.state.host ∧
      Poised queue kernel buffers capacity reply.state.host := by
  have hactive : Host.VectorAdd.activeItems (passAfter buffers vectors base).size
      (passAfter buffers vectors base).args.count = buffers.size.toNat :=
    activeItems_count hcount
  rw [Downloaded]
  split
  · rename_i hnarrow
    rw [← hactive] at hnarrow
    obtain ⟨hanswer, hready, hidle⟩ :=
      enqueueRead_fails hfaults h hadded rfl hfits hnarrow hreply
    exact ⟨hanswer, poised_of_ready hready hidle⟩
  · rename_i hwide
    rw [← hactive, Nat.not_lt] at hwide
    have hitems := Nat.le_trans hfits (Nat.le_trans hle (Nat.le_of_eq hactive.symm))
    obtain ⟨readC, hanswer, hreadC, hsums, hready, hidle, hcomplete⟩ :=
      enqueueRead_succeeds hfaults h hadded rfl vectors.size_c.symm
        (vectors.size_b.trans vectors.size_c.symm) hitems hwide hreply
    exact ⟨⟨readC, hanswer, hreadC, hsums, hcomplete⟩, poised_of_ready hready hidle⟩

/-- Vectors that fit are submitted in full, and it is up to the download how that ends. -/
theorem submit_fits (hfaults : script.faults = []) (hcount : ¬maxElements < buffers.size)
    (hfits : vectors.size ≤ capacity) (hle : capacity ≤ buffers.size.toNat) :
    Ensures (B := script.backend Id κ) (submit queue kernel buffers vectors : Run _ κ' _)
      (fun state =>
        (passAfter buffers vectors base).Underway queue kernel capacity 0 state.host)
      fun submission state =>
        EndsBy script (if capacity < buffers.size.toNat then
            some (.enqueue .readC .execStatusErrorForEventsInWaitList) else none)
          vectors id submission.outcome submission.vectors state.host ∧
        Poised queue kernel buffers capacity state.host := by
  let pass := passAfter buffers vectors base
  have hfitsB : vectors.b.size ≤ capacity := vectors.size_b ▸ hfits
  have hfitsC : vectors.c.size ≤ capacity := vectors.size_c ▸ hfits
  have hwrite (count : Nat) (buffer : Host.BufferId) (data : Array Int32) (event : Host.EventId)
      (hcommand : pass.commands[count]? = some ⟨.write buffer data, [], event⟩)
      (hshape : ∀ host : Host.State κ, pass.Ready queue kernel capacity host →
        host.store.shape buffer = some (.input, capacity)) (hdata : data.size ≤ capacity) :
      Ensures (B := script.backend Id κ)
        (ask (.enqueueWrite queue buffer false data []) : Run _ κ' _)
        (fun state => pass.Underway queue kernel capacity count state.host)
        fun answer state => ∃ issued : Script.Event, answer = .ok issued ∧ issued.event = event ∧
          pass.Underway queue kernel capacity (count + 1) state.host :=
    .ask fun _ h => enqueueWrite_submits hfaults hcommand h (hshape _ h.ready) hdata rfl
  refine (hwrite 0 _ _ _ rfl (fun _ h => h.shape_a) hfits).bind_ok fun writeA hwriteA => ?_
  refine (hwrite 1 _ _ _ rfl (fun _ h => h.shape_b) hfitsB).bind_ok fun writeB hwriteB => ?_
  have hkernel : Ensures (B := script.backend Id κ)
      (ask (.enqueueKernel queue kernel buffers.size [writeA, writeB]) : Run _ κ' _)
      (fun state => pass.Underway queue kernel capacity 2 state.host)
      fun answer state => ∃ issued : Script.Event, answer = .ok issued ∧
        issued.event = pass.added ∧ pass.Underway queue kernel capacity 3 state.host :=
    .ask fun _ h => enqueueKernel_submits hfaults h hwriteA hwriteB rfl
  refine hkernel.bind_ok fun added hadded => ?_
  have hread : Ensures (B := script.backend Id κ)
      (ask (.enqueueRead queue buffers.c true vectors.c [added]) : Run _ κ' _)
      (fun state => pass.Underway queue kernel capacity 3 state.host)
      fun answer state => Downloaded script buffers capacity vectors base answer state.host ∧
        Poised queue kernel buffers capacity state.host :=
    .ask fun _ h => enqueueRead_by_capacity hfaults hcount hfitsC hle h hadded rfl
  refine hread.bind fun ⟨answer, out⟩ => ?_
  by_cases hnarrow : capacity < buffers.size.toNat
  · simp only [Downloaded, if_pos hnarrow]
    rintro world ⟨hanswer, h⟩
    obtain ⟨rfl, rfl⟩ := Prod.mk.inj hanswer
    exact ⟨⟨rfl, rfl⟩, h⟩
  · simp only [Downloaded, if_neg hnarrow]
    rintro world ⟨⟨readC, rfl, hreadC, hsums, hcomplete⟩, h⟩
    obtain ⟨hcompleteA, hcompleteB, hcompleteAdded, hcompleteC⟩ :=
      Host.Pass.forall_mem_commands.1 hcomplete
    refine ⟨⟨⟨writeA, writeB, added, readC⟩, rfl, fun stage => ?_, rfl, rfl, hsums⟩, h⟩
    cases stage with
    | writeA => exact hwriteA ▸ hcompleteA
    | writeB => exact hwriteB ▸ hcompleteB
    | kernel => exact hadded ▸ hcompleteAdded
    | readC => exact hreadC ▸ hcompleteC

/-! ### Executions -/

/-- An empty queue is drained at once. -/
theorem settle_poised (hfaults : script.faults = []) (submitted : List Script.Event)
    (left : Vectors) {fact : Host.State κ → Prop}
    (hnotices : ∀ host, fact host → fact host.takeNotices.2) :
    Ensures (B := script.backend Id κ) (settle queue submitted left : Run _ κ' _)
      (fun state => fact state.host ∧ Poised queue kernel buffers capacity state.host)
      fun settled state => settled = (.ok (), left) ∧ fact state.host ∧
        Poised queue kernel buffers capacity state.host := by
  have hdrained {state : Script.State κ} {reply : Reply _ (Script.State κ)}
      (hfact : fact state.host) (h : Poised queue kernel buffers capacity state.host)
      (hreply : script.answer (m := Id) (.finish queue) state = reply) :
      reply.answer = .ok () ∧ fact reply.state.host ∧
        Poised queue kernel buffers capacity reply.state.host := by
    have hfinish := (Script.finish_replies hreply).eq_performed hfaults
    rw [Host.State.finish, Host.State.drive_of_idle h.fresh.lt_size h.fresh.idle] at hfinish
    rw [hfinish.2]
    exact ⟨hfinish.1, hnotices _ hfact, h.of_same h.fresh.reachable.takeNotices rfl rfl rfl⟩
  have hfinish : Ensures (B := script.backend Id κ) (ask (.finish queue) : Run _ κ' _)
      (fun state => fact state.host ∧ Poised queue kernel buffers capacity state.host)
      fun answer state => answer = .ok () ∧ fact state.host ∧
        Poised queue kernel buffers capacity state.host :=
    .ask fun _ h => hdrained h.1 h.2 rfl
  refine hfinish.bind fun answer => .given fun hanswer => ?_
  obtain rfl : answer = .ok () := hanswer
  exact .pure fun _ h => ⟨rfl, h⟩

/-- An execution ends as the capacity of the buffers says, and leaves them and the queue for the
    next one. -/
theorem execute_poised [Clock Id κ'] (hfaults : script.faults = [])
    (hle : capacity ≤ buffers.size.toNat) (resources : Resources Script.handles)
    (vectors : Vectors) :
    Ensures (B := script.backend Id κ) (execute resources kernel buffers vectors : Run _ κ' _)
      (fun state => Poised resources.queue kernel buffers capacity state.host)
      fun result state =>
        EndsBy script (capacityFailure? buffers.size.toNat capacity vectors.size) vectors
          (·.events) result.1 result.2 state.host ∧
        Poised resources.queue kernel buffers capacity state.host := by
  have hcount : maxElements < buffers.size ↔ 2147483647 < buffers.size.toNat :=
    UInt64.lt_iff_toNat_lt (a := maxElements)
  by_cases hlarge : maxElements < buffers.size
  · rw [capacityFailure?, if_pos (hcount.1 hlarge)]
    refine (Ensures.execute_of_large hlarge).mono (fun _ h => h) fun result _ ⟨hresult, h⟩ => ?_
    exact ⟨⟨congrArg Prod.fst hresult, congrArg Prod.snd hresult⟩, h⟩
  rw [capacityFailure?, if_neg (mt hcount.2 hlarge)]
  generalize hfailure : (if capacity < vectors.size then
      some (Failure.enqueue .writeA .invalidValue)
    else if capacity < buffers.size.toNat then
      some (.enqueue .readC .execStatusErrorForEventsInWaitList) else none) = failure?
  have hsubmit : Ensures (B := script.backend Id κ)
      (submit resources.queue kernel buffers vectors : Run _ κ' _)
      (fun state => Primed resources.queue kernel buffers capacity 4 state.host)
      fun submission state =>
        EndsBy script failure? vectors id submission.outcome submission.vectors state.host ∧
        Poised resources.queue kernel buffers capacity state.host := by
    intro world h
    have hunderway := h.underway vectors
    by_cases htoolong : capacity < vectors.size
    · rw [← hfailure, if_pos htoolong]
      exact submit_refused hfaults htoolong world hunderway
    · rw [← hfailure, if_neg htoolong]
      exact submit_fits hfaults hlarge (Nat.le_of_not_lt htoolong) hle world hunderway
  refine .execute_of_outcome (fun _ _ _ hrefused => absurd hrefused hlarge)
    (fun _ => bindArguments_primed hfaults) (fun _ _ h => nomatch h.1)
    (fun _ => hsubmit.mono (fun _ h => h.2) fun _ _ h => h)
    (fun submission => settle_poised hfaults _ _ fun _ h => h) ?_ ?_
  · -- as the drain does not fail, it is the submission that has failed
    rintro submission drained left failure state ⟨hsettled, hends, h⟩ hfailed
    obtain ⟨rfl, rfl⟩ := Prod.mk.inj hsettled
    obtain houtcome | ⟨status, hstatus⟩ := hfailed
    · exact ⟨hends.execution houtcome.symm, h⟩
    · exact nomatch hstatus
  · rintro submission events left overall state ⟨hsettled, hends, h⟩ houtcome
    obtain ⟨-, rfl⟩ := Prod.mk.inj hsettled
    exact ⟨hends.execution houtcome.symm, h⟩

/-- In every world of a run its queue is empty, and its buffers have the capacity that the script
    allows. -/
theorem Reached.poised [Clock Id κ'] {resources : Resources Script.handles}
    {world : World (script.backend Id κ) κ'} (h : Reached script resources kernel buffers world)
    (hfaults : script.faults = []) :
    Poised resources.queue kernel buffers (script.capped buffers.size).toNat
      world.backend.host := by
  induction h with
  | prepared hreachable hprepare =>
    rename_i device source entryPoint size world world'
    have hyields := prepare_poised device source entryPoint size world hreachable
    rw [hprepare] at hyields
    obtain ⟨rfl, hpoised⟩ := hyields _ rfl
    exact hpoised
  | executed vectors hreached ih =>
    exact (execute_poised hfaults (toNat_capped_le _ _) resources vectors _ ih).2

/-- Where no call fails by the script, an execution is decided by the declared length, the capacity
    of the buffers and the length of the vectors, however many executions there have been before.
    One that fails leaves the vectors as they were. One that succeeds has completed its commands and
    has left the inputs as they were and their sums in the output. Either way nothing is pending
    afterwards. -/
theorem Reached.execute_by_capacity [Clock Id κ'] {resources : Resources Script.handles}
    {world : World (script.backend Id κ) κ'} (h : Reached script resources kernel buffers world)
    (hfaults : script.faults = []) (vectors : Vectors) :
    let result := execute resources kernel buffers vectors world
    let host := result.2.backend.host
    host.pendingCount resources.queue = 0 ∧
    match capacityFailure? buffers.size.toNat (script.capped buffers.size).toNat vectors.size with
    | some failure => result.1.1 = .error failure ∧ result.1.2 = vectors
    | none => ∃ execution : Execution Script.Event, result.1.1 = .ok execution ∧
        (∀ stage, ∃ stamps,
          host.store.status (execution.events.get stage).event = .complete stamps) ∧
        result.1.2.a = vectors.a ∧ result.1.2.b = vectors.b ∧
        (script.pokes = [] → result.1.2.c = Array.zipWith (· + ·) vectors.a vectors.b) := by
  intro result host
  obtain ⟨hends, hpoised⟩ := execute_poised hfaults (toNat_capped_le _ _) resources vectors world
    (h.poised hfaults)
  refine ⟨Host.State.pendingCount_eq.trans (congrArg List.length hpoised.fresh.idle), ?_⟩
  exact hends

end

/-! ### A run on narrow buffers -/

namespace Narrow

/-- Buffers have one element at most. -/
def script : Script where
  allocCap := some 1

/-- Nothing has been made yet, and no time passes. -/
def start : World (script.backend Id Readings) Readings where
  backend := { host := .initial (.ofFunction fun _ => 0) }
  clock := .ofFunction fun _ => 0

/-- Prepares a run on two elements. -/
def prepared : Except Failure (Resources Script.handles × Host.KernelId × Buffers Script.handles) ×
    World (script.backend Id Readings) Readings :=
  (prepare Leftover.device "__kernel void vecadd(a, b, c, n)" "vecadd" 2).run start

/-- Vectors of one element. -/
def vectors : Vectors := ⟨#[1], #[2], #[0], rfl, rfl⟩

theorem reached :
    Reached script Leftover.resources Leftover.kernel Leftover.buffers prepared.2 := by
  have hprepared : prepared.1 = .ok (Leftover.resources, Leftover.kernel, Leftover.buffers) := by
    with_unfolding_all rfl
  exact .prepared .initial (Prod.ext hprepared rfl)

end Narrow

/-- Twice one element is executed on buffers of one element. It fits, but two were declared. -/
theorem Reached.execute_by_capacity_of_narrow :
    let first := execute (B := Narrow.script.backend Id Readings) Leftover.resources
      Leftover.kernel Leftover.buffers Narrow.vectors Narrow.prepared.2
    let result := execute (B := Narrow.script.backend Id Readings) Leftover.resources
      Leftover.kernel Leftover.buffers Narrow.vectors first.2
    Narrow.script.faults = [] ∧
      result.1.1 = .error (.enqueue .readC .execStatusErrorForEventsInWaitList) ∧
      result.1.2 = Narrow.vectors ∧ result.2.backend.host.pendingCount 0 = 0 := by
  intro first result
  have hfailure : capacityFailure? Leftover.buffers.size.toNat
      (Narrow.script.capped Leftover.buffers.size).toNat Narrow.vectors.size =
      some (.enqueue .readC .execStatusErrorForEventsInWaitList) := by decide +kernel
  have hexecute :=
    (Narrow.reached.executed Narrow.vectors).execute_by_capacity rfl Narrow.vectors
  rw [hfailure] at hexecute
  exact ⟨rfl, hexecute.2.1, hexecute.2.2, hexecute.1⟩

end Offload.Run
