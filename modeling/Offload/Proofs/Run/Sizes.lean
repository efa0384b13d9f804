import Offload.Proofs.Host.Allocations
import Offload.Proofs.Run.Plan
import Offload.Proofs.Run.Settling
import Offload.Sweep.Summary

/-!
# Sizes

What is computed with sizes on the way of a run: the bytes of the buffers that are put into the
log, the element count that the kernel gets as a signed word, and the size of the data in the
report. None of this is checked where it is computed. The bytes in the log are those of an
allocation that the device has just accepted, and the other two are computed after the run has
made sure that the kernel can hold the element count (`Run.Action.checkCount`).

`Run.sizes_exact` puts this together with the sizes and the bounds on the host backend
(`Host.State.Holds`, `Host.VectorAdd.checkedDispatch_eq`).
-/

namespace Offload.Run

/-! ### The element count -/

section

variable {H : Handles} {device : H.Device} {config : Config} {handed reached last : Handed H}
  {actions : List Action} {made : List (Exchange H)}

theorem Went.le_maxElements (h : Went device config handed actions made last)
    (hcheck : .checkCount ∈ actions) : config.elements ≤ maxElements := by
  induction h with
  | done => exact absurd hcheck List.not_mem_nil
  | counted hcount => exact hcount
  | call hrequest _ _ _ ih =>
    rcases List.mem_cons.1 hcheck with rfl | hcheck
    · exact nomatch hrequest
    · exact ih hcheck

/-- The request is that of an action, and if this comes after the check then the check has gone
    well. -/
def Planned (device : H.Device) (config : Config) (actions : List Action) (request : Request H) :
    Prop :=
  ∃ before action rest reached, actions = before ++ action :: rest ∧
    (.checkCount ∈ before → config.elements ≤ maxElements) ∧
    action.request? device config reached = some request

theorem Went.planned (h : Went device config handed actions made last) :
    ∀ exchange ∈ made, Planned device config actions exchange.1 := by
  induction h with
  | done => exact List.forall_mem_nil _
  | counted hcount _ ih =>
    intro exchange hexchange
    obtain ⟨before, action, rest, reached, rfl, -, hrequest⟩ := ih exchange hexchange
    exact ⟨.checkCount :: before, action, rest, reached, rfl, fun _ => hcount, hrequest⟩
  | call hrequest _ _ _ ih =>
    rename_i first actions made request answer _
    refine List.forall_mem_cons.2 ⟨?_, fun exchange hexchange => ?_⟩
    · exact ⟨[], _, _, _, rfl, fun h => absurd h List.not_mem_nil, hrequest⟩
    · obtain ⟨before, action, rest, reached, rfl, hcount, hrequest'⟩ := ih exchange hexchange
      refine ⟨_ :: before, action, rest, reached, rfl, fun hcheck => ?_, hrequest'⟩
      rcases List.mem_cons.1 hcheck with rfl | hcheck
      · exact nomatch hrequest
      · exact hcount hcheck

/-- Each exchange of a run is planned, but for those that clean up. -/
theorem Conducted.planned {α : Type} {after : α → Handed H → Prop} {result : Except Failure α}
    (h : Conducted device config handed actions after made result)
    {kernel : H.Kernel} {index : Nat} {arg : Argument H.Buffer} {answer : Except Status Unit}
    (hmem : (⟨.setKernelArg kernel index arg, answer⟩ : Exchange H) ∈ made) :
    Planned device config actions (.setKernelArg kernel index arg) := by
  cases result with
  | ok a =>
    obtain ⟨last, hwent, -⟩ := h
    exact hwent.planned _ hmem
  | error failure =>
    obtain ⟨before, action, rest, first, last, reached, rfl, rfl, hwent, hhalts⟩ := h
    rcases List.mem_append.1 hmem with hmem | hmem
    · obtain ⟨earlier, action', rest', reached', rfl, hcount, hrequest⟩ := hwent.planned _ hmem
      exact ⟨earlier, action', rest' ++ action :: rest, reached', by simp, hcount, hrequest⟩
    · have hcount := hwent.le_maxElements
      cases hhalts with
      | tooMany => exact absurd hmem List.not_mem_nil
      | refused hrequest _ hends =>
        rcases List.mem_cons.1 hmem with heq | hmem
        · obtain ⟨rfl, -⟩ := Sigma.mk.inj heq
          exact ⟨before, action, rest, reached, rfl, hcount, hrequest⟩
        · cases hends <;> simp at hmem
      | backwards hrequest =>
        obtain ⟨rfl, -⟩ := Sigma.mk.inj (List.mem_singleton.1 hmem)
        exact ⟨before, _, rest, reached, rfl, hcount, hrequest⟩

/-- What is bound to the kernel is one of its arguments. -/
theorem Action.request?_eq_setKernelArg {action : Action} {kernel : H.Kernel} {index : Nat}
    {arg : Argument H.Buffer}
    (h : action.request? device config handed = some (.setKernelArg kernel index arg)) :
    action = .setKernelArg index ∧ arg ∈ handed.arguments config := by
  cases action with
  | setKernelArg position =>
    simp only [Action.request?, Option.bind_eq_bind, Option.bind_eq_some_iff, Option.pure_def,
      Option.some.injEq, Request.setKernelArg.injEq] at h
    obtain ⟨_, -, found, hfound, -, rfl, rfl⟩ := h
    exact ⟨rfl, List.mem_of_getElem? hfound⟩
  | enqueue stage =>
    simp only [Action.request?, enqueueRequest?] at h
    split at h <;> simp at h
  | _ => simp [Action.request?, Option.bind_eq_some_iff] at h

/-- Every argument is bound after the check. -/
theorem checkCount_mem_of_plan {before rest : List Action} {index : Nat}
    (h : plan = before ++ .setKernelArg index :: rest) : .checkCount ∈ before := by
  have hcut : before ++ .setKernelArg index :: rest = plan.take 8 ++ .checkCount :: plan.drop 9 :=
    h.symm
  rcases List.append_eq_append_iff.1 hcut with ⟨others, hsetup, hrest⟩ | ⟨others, hbefore, hrest⟩
  · rcases List.cons_eq_append_iff.1 hrest with ⟨-, heq⟩ | ⟨_, rfl, -⟩
    · exact nomatch heq
    · -- what comes before the check binds no argument
      have hmem : .setKernelArg index ∈ plan.take 8 := by simp [hsetup]
      exact absurd hmem (by simp [plan])
  · rcases List.cons_eq_append_iff.1 hrest with ⟨-, heq⟩ | ⟨_, rfl, -⟩
    · exact nomatch heq
    · simp [hbefore]

/-- The element count that a run hands to its kernel is the number of elements. -/
theorem onDevice_count {B : Backend Id} {κ : Type} [Clock Id κ] (device : B.handles.Device)
    (config : Config) (world : World B κ) {kernel : B.handles.Kernel} {index : Nat} {value : Int32}
    {answer : Except Status Unit}
    (h : ⟨.setKernelArg kernel index (.int value), answer⟩ ∈
      Run.exchanges (onDevice (B := B.recorded) device config).run world) :
    value.toInt = config.elements.toNat := by
  obtain ⟨before, action, rest, reached, hplan, hcount, hrequest⟩ :=
    ((onDevice_emits device config).exchanges world).planned h
  obtain ⟨rfl, harg⟩ := Action.request?_eq_setKernelArg hrequest
  have hle := UInt64.le_iff_toNat_le.1 (hcount (checkCount_mem_of_plan hplan))
  obtain rfl : value = Int32.ofNat config.elements.toNat := by
    simpa [Handed.arguments] using harg
  exact Int32.toInt_ofNat_of_lt (Nat.lt_succ_of_le hle)

end

/-! ### The bytes in the log -/

/-- An attempt made of two succeeds if the first one does and then the second one. -/
theorem run_bind_of_ok {B : Backend Id} {κ α β : Type} {attempt : Attempt B κ α}
    {next : α → Attempt B κ β} {world : World B κ} {b : β}
    (h : ((attempt >>= next).run world).1 = .ok b) :
    ∃ a middle, attempt.run world = (.ok a, middle) ∧
      (attempt >>= next).run world = (next a).run middle := by
  -- binding attempts is binding runs, with the failure passed on
  have hbind : (attempt >>= next).run world =
      ExceptT.bindCont next (attempt.run world).1 (attempt.run world).2 := rfl
  rcases hrun : attempt.run world with ⟨failure | a, middle⟩
  · rw [hbind, hrun] at h
    exact nomatch h
  · exact ⟨a, middle, rfl, by rw [hbind, hrun]; rfl⟩

section

variable {κ κ' : Type} [Clock Id κ]

theorem createBuffer_allowed {context : Host.Context} {queue : Host.QueueId} {access : Access}
    {size : UInt64} {failure : Status → Failure} :
    Yields (B := Host.backend Id κ) (κ := κ')
      (orFail (ask (.createBuffer context queue access size)) failure) (fun _ => True)
      fun _ _ => Host.State.allows context.device size := by
  refine Yields.orFail (ask_host fun state _ buffer hok => ?_)
  by_contra hnot
  simp only [Host.answer, Host.State.createBuffer, if_neg hnot] at hok
  cases hok

/-- Buffers that have been allocated are allowed, and their bytes are the last thing in the log. -/
theorem allocate_logs {resources : Resources Host.handles} {size : UInt64}
    {world : World (Host.backend Id κ) κ'} {buffers : Buffers Host.handles}
    (h : ((allocate (B := Host.backend Id κ) resources size).run world).1 = .ok buffers) :
    Host.State.allows resources.context.device size ∧
      ((allocate (B := Host.backend Id κ) resources size).run world).2.log.getLast? =
        some (.buffersAllocated (byteCount size)) := by
  unfold allocate at h ⊢
  obtain ⟨a, afterA, hfirst, ha⟩ := run_bind_of_ok h
  rw [ha] at h ⊢
  obtain ⟨b, afterB, -, hb⟩ := run_bind_of_ok h
  rw [hb] at h ⊢
  obtain ⟨c, afterC, -, hc⟩ := run_bind_of_ok h
  rw [hc] at h ⊢
  obtain rfl : ⟨a, b, c, size⟩ = buffers := Except.ok.inj h
  exact ⟨createBuffer_allowed world trivial a (by rw [hfirst]), List.getLast?_concat⟩

end

/-! ### The size of the data in the report -/

section

variable {B : Backend Id} {κ : Type}

/-- Vectors are given up only where the queue could not be drained. -/
theorem settle_drained (queue : B.handles.Queue) (submitted : List B.handles.Event)
    (vectors : Vectors) :
    Ensures (settle queue submitted vectors : Run B κ _) (fun _ => True) fun settled _ =>
      settled.1 = .ok () → settled.2 = vectors := by
  have hask (request : Request B.handles) :
      Ensures (ask request : Run B κ _) (fun _ => True) fun _ _ => True := fun _ _ => trivial
  refine (hask _).bind fun answer => ?_
  cases answer with
  | ok _ => exact .pure fun _ _ _ => rfl
  | error status =>
    refine (hask _).bind fun answer => ?_
    cases answer with
    | ok _ => exact .pure fun _ _ h => nomatch h
    | error stuck => exact .bind .note fun _ => .pure fun _ _ h => nomatch h

/-- An execution that comes to its end has kept the vectors, and the kernel can hold their
    number of elements. -/
theorem execute_sized [Clock Id κ] (resources : Resources B.handles) (kernel : B.handles.Kernel)
    (buffers : Buffers B.handles) (vectors : Vectors) :
    Ensures (execute resources kernel buffers vectors : Run B κ _) (fun _ => True)
      fun result _ => ∀ execution, result.1 = .ok execution →
        vectors.Kept result.2 ∧ buffers.size ≤ maxElements := by
  by_cases hlarge : maxElements < buffers.size
  · refine (Ensures.execute_of_large hlarge).mono (fun _ h => h) fun result _ hresult => ?_
    rw [hresult.1]
    exact fun _ h => nomatch h
  · have hbind (args : List (Argument B.handles.Buffer)) :
        Ensures (bindArguments kernel 0 args : Run B κ _) (fun _ => True) fun _ _ => True :=
      fun _ _ => trivial
    have hsettle (submission : Submission B.handles.Event) :
        Ensures (settle resources.queue submission.submitted submission.vectors : Run B κ _)
          (fun _ => vectors.Kept submission.vectors) fun settled _ =>
            settled.1 = .ok () → vectors.Kept settled.2 := by
      intro world hkept hdrained
      rw [settle_drained _ _ _ world trivial hdrained]
      exact hkept
    exact .execute (fun _ _ _ _ _ h => nomatch h) (fun _ => hbind _) (fun _ _ _ _ h => nomatch h)
      (fun _ => submit_kept _ _ _ _) hsettle (fun _ _ _ _ _ _ _ h => nomatch h)
      fun _ _ _ _ _ hkept _ _ _ => ⟨hkept rfl, UInt64.not_lt.1 hlarge⟩

theorem allocate_sized (resources : Resources B.handles) (size : UInt64) :
    Yields (B := B) (κ := κ) (allocate resources size) (fun _ => True) fun buffers _ =>
      buffers.size = size :=
  .bind (.any _) fun _ => .bind (.any _) fun _ => .bind (.any _) fun _ => .bind (.any _) fun _ =>
    .pure fun _ _ => rfl

theorem collect_sized (execution : Execution B.handles.Event) (vectors : Vectors)
    (sample : Sample) :
    Yields (B := B) (κ := κ) (collect execution vectors sample) (fun _ => True) fun report _ =>
      report.elements = vectors.size ∧ report.dataSize = dataMegabytes vectors.size :=
  .bind (.any _) fun _ => .bind (.any _) fun _ => .bind (.any _) fun _ => .bind (.any _) fun _ =>
    .pure fun _ _ => ⟨rfl, rfl⟩

/-- A report is on as many elements as were asked for, and the kernel can hold their number. -/
theorem onDevice_sized [Clock Id κ] (device : B.handles.Device) (config : Config) :
    Yields (B := B) (κ := κ) (onDevice device config) (fun _ => True) fun report _ =>
      config.elements ≤ maxElements ∧ report.elements = config.elements.toNat ∧
        report.dataSize = dataMegabytes report.elements := by
  refine (Yields.any _).bind fun resources => (Yields.any _).bind fun kernel =>
    (allocate_sized resources config.elements).bind fun buffers => ?_
  have hexecute (vectors : Vectors) :
      Ensures (execute resources kernel buffers vectors : Run B κ _)
        (fun _ => buffers.size = config.elements) fun result _ => ∀ execution,
          result.1 = .ok execution →
            result.2.size = vectors.size ∧ config.elements ≤ maxElements := by
    intro world hsize execution hok
    obtain ⟨hkept, hle⟩ := execute_sized _ _ _ _ world trivial execution hok
    exact ⟨congrArg Array.size hkept.1, hsize ▸ hle⟩
  refine (Yields.always (hexecute _)).bind fun ⟨outcome, vectors⟩ => ?_
  cases outcome with
  | error failure => exact .throw
  | ok execution =>
    intro world hexecuted report hreport
    obtain ⟨hsize, hle⟩ := hexecuted execution rfl
    obtain ⟨helements, hdata⟩ := collect_sized execution vectors _ world trivial report hreport
    have hfilled : (Vectors.filled config.elements.toNat config.fillA config.fillB).size =
        config.elements.toNat := Array.size_replicate
    exact ⟨hle, helements.trans (hsize.trans hfilled), helements ▸ hdata⟩

end

/-! ### All sizes -/

theorem toNat_byteCount_ofNat {count : Nat} (h : 4 * count < UInt64.size) :
    (byteCount (UInt64.ofNat count)).toNat = 4 * count := by
  have hcount : (UInt64.ofNat count).toNat = count := UInt64.toNat_ofNat_of_lt' (by omega)
  rw [toNat_byteCount (hcount.symm ▸ h), hcount]

variable {κ κ' : Type} [Clock Id κ] [Clock Id κ']

/-- On the host backend no computation with sizes overflows, whatever the device, the configuration
    and the session. First the buffers: those on record are all there are, and each one was checked
    when it was made, so that its bytes can be counted. Then what relies on this check: the bytes
    of a download that is admitted, the bounds in a dispatch of any size, and the bytes that an
    allocation writes to the log. Then what relies on the check of the element count, or on vectors
    that fit into memory: the count given to the kernel and the size of the data in a report. Last,
    the runs that a summary counts are not more than its devices. -/
theorem sizes_exact (clock : κ) (platforms : List Host.Platform) (fault : Option Status)
    (requests : List (Request Host.handles)) (device : Host.Device) (config : Config)
    (world : World (Host.backend Id κ) κ') :
    let start : Host.State κ := .fresh clock platforms fault
    let state := start.serve requests
    let run := onDevice (B := Host.backend Id κ) device config
    let recorded := onDevice (B := (Host.backend Id κ).recorded) device config
    Host.State.Holds (Host.allocations (start.exchanges requests)) state ∧
    (∀ (context : Host.Context) (access : Access) (size : UInt64),
      (∃ buffer, (state.createBuffer context access size).1 = .ok buffer) ↔
        (⟨context.device, access, size⟩ : Host.Allocation).Fits) ∧
    (∀ (e : Host.Encoding) (buffer : Host.BufferId),
      let memory := state.store.memory buffer
      (e.bytes memory.toList).length = 4 * memory.size ∧
        (byteCount (UInt64.ofNat memory.size)).toNat = 4 * memory.size) ∧
    (∀ (queue : Host.QueueId) (buffer : Host.BufferId) (count : Nat) (wait : List Host.EventId)
      (operation : Host.Operation), state.admitRead queue buffer count wait = .ok operation →
        (byteCount (UInt64.ofNat count)).toNat = 4 * count) ∧
    (∀ memory : Host.Memory,
      (∀ buffer, (memory buffer).size = (state.store.memory buffer).size) →
      ∀ (e : Host.Encoding) (args : Host.Arguments) (size : UInt64),
        let a := memory args.a
        let b := memory args.b
        let c := memory args.c
        let result? := Host.VectorAdd.checkedDispatch e a.toList b.toList args.count
          (Host.VectorAdd.items size) (e.bytes c.toList)
        result? = some (Host.VectorAdd.dispatch e a.toList b.toList args.count
            (List.range size.toNat) (e.bytes c.toList)) ∧
          (size.toNat ≤ 2 ^ 63 →
            let (sums, failure?) := Host.VectorAdd.run a b c size args.count
            result? = some (e.bytes sums.toList, failure?))) ∧
    (∀ (resources : Resources Host.handles) (size : UInt64) (buffers : Buffers Host.handles),
      ((allocate (B := Host.backend Id κ) resources size).run world).1 = .ok buffers →
        ∃ bytes : UInt64, bytes.toNat = 4 * size.toNat ∧
          ((allocate (B := Host.backend Id κ) resources size).run world).2.log.getLast? =
            some (.buffersAllocated bytes)) ∧
    (∀ (kernel : Host.KernelId) (index : Nat) (value : Int32) (answer : Except Status Unit),
      ⟨.setKernelArg kernel index (.int value), answer⟩ ∈ exchanges recorded.run world →
        value.toInt = config.elements.toNat) ∧
    (∀ (execution : Execution Host.EventId) (vectors : Vectors) (sample : Sample) (report : Report),
      4 * vectors.size < UInt64.size →
      ((collect (B := Host.backend Id κ) execution vectors sample).run world).1 = .ok report →
        report.elements = vectors.size ∧ ∃ bytes : UInt64, bytes.toNat = 4 * report.elements ∧
          report.dataSize = bytes.toFloat / 1048576.0) ∧
    (∀ report, (run.run world).1 = .ok report → report.elements = config.elements.toNat ∧
      ∃ bytes : UInt64, bytes.toNat = 4 * report.elements ∧
        report.dataSize = bytes.toFloat / 1048576.0) ∧
    ∀ summary : Summary, summary.completed ≤ summary.devices.length ∧
      summary.failed + summary.completed = summary.devices.length := by
  intro start state run recorded
  have hholds : Host.State.Holds (Host.allocations (start.exchanges requests)) state :=
    Host.State.holds_serve_fresh clock platforms fault requests
  refine ⟨hholds, state.createBuffer_ok_iff, fun e buffer => ?_, fun _ _ _ _ _ hadmitted => ?_,
    fun memory hmemory => hholds.checkedDispatch_eq hmemory, fun resources size buffers hok => ?_,
    fun kernel index value answer hmem => ?_, fun execution vectors sample report hfits hreport =>
    ?_, fun report hreport => ?_, fun summary => ?_⟩
  · exact ⟨by rw [e.length_bytes, Array.length_toList],
      toNat_byteCount_ofNat (hholds.countable buffer)⟩
  · exact toNat_byteCount_ofNat (hholds.countable_of_admitRead hadmitted)
  · obtain ⟨hallows, hlog⟩ := allocate_logs hok
    have hfits : (⟨resources.context.device, .input, size⟩ : Host.Allocation).Fits :=
      Host.Allocation.allows_iff.1 hallows
    exact ⟨byteCount size, toNat_byteCount hfits.countable, hlog⟩
  · exact onDevice_count (B := Host.backend Id κ) device config world hmem
  · obtain ⟨helements, hdata⟩ := collect_sized (B := Host.backend Id κ) execution vectors sample
      world trivial report hreport
    exact ⟨helements, _, helements.symm ▸ toNat_byteCount_ofNat hfits, hdata⟩
  · obtain ⟨hle, helements, hdata⟩ := onDevice_sized (B := Host.backend Id κ) device config world
      trivial report hreport
    have hsmall : config.elements.toNat ≤ 2147483647 := UInt64.le_iff_toNat_le.1 hle
    have hcountable : 4 * report.elements < UInt64.size := by
      rw [helements]
      exact Nat.lt_of_le_of_lt (Nat.mul_le_mul_left 4 hsmall) (by decide)
    exact ⟨helements, _, toNat_byteCount_ofNat hcountable, hdata⟩
  · exact ⟨List.countP_le_length, Nat.sub_add_cancel List.countP_le_length⟩

end Offload.Run
