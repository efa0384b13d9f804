import Offload.Proofs.Host.InFlight
import Offload.Proofs.Recording
import Offload.Proofs.Run.Prepared

/-!
# How executions end

After an execution, whether it has succeeded or failed, no command that it has submitted is pending
any more, or its vectors have been given up and are empty (`Run.Reached.execute_settles`). They are
given up exactly if the drain of the queue was refused and then the wait for the events, too, which
the exchanges of the execution show (`GaveUp`). A fault of the script may hide that the queue has
been drained, but no fault may hide a command that has been submitted (`Run.HidesNoCommand`), since
nobody could wait for its event.
-/

namespace Offload

/-- The vectors have kept their length, and the inputs their elements. -/
def Vectors.Kept (vectors vectors' : Vectors) : Prop :=
  vectors'.a = vectors.a ∧ vectors'.b = vectors.b ∧ vectors'.c.size = vectors.c.size

theorem Vectors.Kept.refl (vectors : Vectors) : vectors.Kept vectors := ⟨rfl, rfl, rfl⟩

/-- In the end the drain of a queue was refused, and then the wait for events was refused, too. -/
def GaveUp {H : Handles} (exchanges : List (Exchange H)) : Prop :=
  ∃ before queue events status stuck, exchanges =
    before ++ [⟨.finish queue, .error status⟩, ⟨.waitEvents events, .error stuck⟩]

theorem not_gaveUp_append {H : Handles} {before : List (Exchange H)} {last : Exchange H}
    (h : ∀ events stuck, last ≠ ⟨.waitEvents events, .error stuck⟩) :
    ¬GaveUp (before ++ [last]) := by
  rintro ⟨before', queue, events, status, stuck, heq⟩
  have hlast := congrArg List.getLast? heq
  simp only [List.getLast?_append, List.getLast?_singleton, List.getLast?_cons_cons,
    Option.some_or] at hlast
  exact h events stuck (Option.some.inj hlast)

namespace Run

/-! ### The record of an execution -/

section

variable {B : Backend Id} {κ : Type} {H : Handles}

/-- There has been no wait for events. -/
def NoWait (exchanges : List (Exchange H)) : Prop :=
  ∀ exchange ∈ exchanges, ∀ events, exchange.1 ≠ .waitEvents events

theorem NoWait.not_gaveUp {exchanges : List (Exchange H)} (h : NoWait exchanges) :
    ¬GaveUp exchanges := by
  rintro ⟨before, queue, events, status, stuck, rfl⟩
  have hlast : ⟨.waitEvents events, .error stuck⟩ ∈
      [(⟨.finish queue, .error status⟩ : Exchange H), ⟨.waitEvents events, .error stuck⟩] :=
    List.mem_cons_of_mem _ (List.mem_singleton_self _)
  exact h _ (List.mem_append_right _ hlast) events rfl

theorem ask_noWait {request : Request B.handles} (h : ∀ events, request ≠ .waitEvents events) :
    Ensures (ask (B := B.recorded) request : Run _ κ _) (fun state => NoWait state.2)
      fun _ state => NoWait state.2 := by
  refine .ask fun state hstate => List.forall_mem_append.2 ⟨hstate, ?_⟩
  rintro exchange hexchange
  obtain rfl := List.mem_singleton.1 hexchange
  exact h

theorem submit_kept (queue : B.handles.Queue) (kernel : B.handles.Kernel)
    (buffers : Buffers B.handles) (vectors : Vectors) :
    Ensures (submit queue kernel buffers vectors : Run B κ _) (fun _ => True)
      fun submission _ => vectors.Kept submission.vectors := by
  refine .submit (fun _ _ => True) (.ask fun _ _ => ?_) (fun writeA => .ask fun _ _ => ?_)
    (fun writeA writeB => .ask fun _ _ => ?_) fun writeA writeB added => .ask fun _ _ => ?_
  iterate 3 exact ⟨fun _ _ => trivial, fun _ _ => .refl vectors⟩
  have hread (out : Vector Int32 vectors.c.size) : vectors.Kept (vectors.withOutput out) :=
    ⟨rfl, rfl, out.size_toArray⟩
  exact ⟨fun _ _ => hread _, fun _ _ => hread _⟩

/-- Vectors are given up if neither the queue could be drained nor the events be waited for. -/
theorem settle_gaveUp (queue : B.handles.Queue) (submitted : List B.handles.Event)
    (vectors : Vectors) :
    Ensures (settle (B := B.recorded) queue submitted vectors : Run _ κ _)
      (fun state => NoWait state.2) fun settled state =>
        GaveUp state.2 ∧ settled.2 = .empty ∨ ¬GaveUp state.2 ∧ settled.2 = vectors := by
  have hfinish : Ensures (ask (B := B.recorded) (.finish queue) : Run _ κ _)
      (fun state => NoWait state.2) fun answer state => ∃ before : List (Exchange B.handles),
        state.2 = before ++ [⟨.finish queue, answer⟩] :=
    .ask fun state _ => ⟨state.2, rfl⟩
  refine hfinish.bind fun answer => ?_
  cases answer with
  | ok _ =>
    refine .pure ?_
    rintro ⟨state, record⟩ ⟨before, rfl⟩
    exact .inr ⟨not_gaveUp_append nofun, rfl⟩
  | error status =>
    have hwait : Ensures (ask (B := B.recorded) (.waitEvents submitted) : Run _ κ _)
        (fun state => ∃ before : List (Exchange B.handles),
          state.2 = before ++ [⟨.finish queue, .error status⟩])
        fun answer state => ∃ before : List (Exchange B.handles), state.2 =
          before ++ [⟨.finish queue, .error status⟩, ⟨.waitEvents submitted, answer⟩] := by
      refine .ask ?_
      rintro ⟨state, record⟩ ⟨before, rfl⟩
      exact ⟨before, List.append_assoc before _ _⟩
    refine hwait.bind fun answer => ?_
    cases answer with
    | ok _ =>
      refine .pure ?_
      rintro ⟨state, record⟩ ⟨before, rfl⟩
      refine .inr ⟨?_, rfl⟩
      rw [List.append_cons]
      exact not_gaveUp_append nofun
    | error stuck =>
      refine .bind .note fun _ => .pure ?_
      rintro ⟨state, record⟩ ⟨before, rfl⟩
      exact .inl ⟨⟨before, queue, submitted, status, stuck, rfl⟩, rfl⟩

theorem execute_gaveUp [Clock Id κ] (resources : Resources B.handles) (kernel : B.handles.Kernel)
    (buffers : Buffers B.handles) (vectors : Vectors) :
    Ensures (execute (B := B.recorded) resources kernel buffers vectors : Run _ κ _)
      (fun state => state.2 = []) fun result state =>
        GaveUp state.2 ∧ result.2 = .empty ∨ ¬GaveUp state.2 ∧ vectors.Kept result.2 := by
  -- until the drain there are no waits in the record
  have hbind (args : List (Argument B.handles.Buffer)) :
      Ensures (bindArguments (B := B.recorded) kernel 0 args : Run _ κ _)
        (fun state => state.2 = []) fun _ state => NoWait state.2 := by
    have hkeeps : Ensures (bindArguments (B := B.recorded) kernel 0 args : Run _ κ _)
        (fun state => NoWait state.2) fun _ state => NoWait state.2 :=
      bindArguments_keeps _ (fun _ _ => ask_noWait nofun) 0 args
    exact hkeeps.mono (fun _ h => h ▸ nofun) fun _ _ h => h
  have hsubmit :
      Ensures (submit (B := B.recorded) resources.queue kernel buffers vectors : Run _ κ _)
        (fun state => NoWait state.2) fun submission state =>
          vectors.Kept submission.vectors ∧ NoWait state.2 := by
    have hkeeps : Ensures (submit (B := B.recorded) resources.queue kernel buffers vectors :
        Run _ κ _) (fun state => NoWait state.2) fun _ state => NoWait state.2 :=
      submit_keeps (fun _ => ask_noWait (B := B)) _ _ _ _
    exact ((submit_kept (B := B.recorded) resources.queue kernel buffers vectors).mono
      (fun _ _ => trivial) fun _ _ h => h).and hkeeps
  have hsettle (submission : Submission B.handles.Event) :=
    (settle_gaveUp (κ := κ) resources.queue submission.submitted submission.vectors).frame
      (vectors.Kept submission.vectors)
  have hend {submission : Submission B.handles.Event} {left : Vectors}
      {record : List (Exchange B.handles)} (h : vectors.Kept submission.vectors ∧
        (GaveUp record ∧ left = .empty ∨ ¬GaveUp record ∧ left = submission.vectors)) :
      GaveUp record ∧ left = .empty ∨ ¬GaveUp record ∧ vectors.Kept left :=
    h.2.imp_right fun ⟨hrecord, hleft⟩ => ⟨hrecord, hleft ▸ h.1⟩
  refine .execute (fun _ state hstart _ => .inr ⟨?_, .refl vectors⟩) (fun _ => hbind _)
    (fun _ _ h => .inr ⟨NoWait.not_gaveUp h, .refl vectors⟩) (fun _ => hsubmit) hsettle
    (fun _ _ _ _ _ h => hend h) fun _ _ _ _ _ h _ => hend h
  rw [hstart]
  exact NoWait.not_gaveUp nofun

/-- An execution gives the vectors up, as its last exchanges show, or it keeps them. -/
theorem execute_kept [Clock Id κ] (resources : Resources B.handles) (kernel : B.handles.Kernel)
    (buffers : Buffers B.handles) (vectors : Vectors) (world : World B κ) :
    let exchanges := exchanges (execute (B := B.recorded) resources kernel buffers vectors) world
    let left := (execute resources kernel buffers vectors world).1.2
    GaveUp exchanges ∧ left = .empty ∨ ¬GaveUp exchanges ∧ vectors.Kept left := by
  intro exchanges left
  have htracks := (Tracks.execute resources kernel buffers vectors world.recording).1
  have hgaveUp := execute_gaveUp resources kernel buffers vectors world.recording rfl
  rw [htracks] at hgaveUp
  exact hgaveUp

end

/-! ### Scripted backends -/

open Host.State (Alone InFlight SettledSince)

/-- The script does not let a command be submitted without handing out its event. -/
def HidesNoCommand (script : Script) : Prop :=
  ∀ fault ∈ script.faults,
    fault.call = .enqueueWrite ∨ fault.call = .enqueueKernel ∨ fault.call = .enqueueRead →
      fault.after = false

variable {κ κ' : Type} {script : Script} {queue : Host.QueueId} {base : Nat}
  {submitted : List Script.Event} {state : Script.State κ}

/-- A command is submitted and its event handed out, or neither. -/
theorem inFlight_of_replies {name : Request.Name} {host after : Host.State κ} {number : Nat}
    {performed : Except Status Host.EventId × Host.State κ} {answer : Except Status Host.EventId}
    {issued : Except Status Script.Event} (hissued : issued = answer.map (⟨number, ·⟩))
    (h : script.Replies name host performed answer after)
    (hfaults : ∀ fault ∈ script.faults, fault.call = name → fault.after = false)
    (hhost : InFlight queue base (submitted.map (·.event)) host)
    (hperformed : InFlight queue base (submitted.map (·.event) ++ performed.1.toOption.toList)
      performed.2) :
    InFlight queue base ((submitted ++ issued.toOption.toList).map (·.event)) after := by
  rw [List.map_append, hissued]
  rcases h.cases_of_before hfaults with ⟨host', hanswer, rfl⟩ | ⟨rfl, status, rfl⟩
  · rw [hanswer] at hperformed
    cases answer <;> exact hperformed.of_same rfl rfl
  · rw [← List.append_nil (submitted.map (·.event))] at hhost
    exact hhost.of_same rfl rfl

variable [Clock Id κ]

theorem enqueueWrite_inFlight (hfaults : HidesNoCommand script) {buffer : Host.BufferId}
    {data : Array Int32} {reply : Reply _ (Script.State κ)}
    (h : InFlight queue base (submitted.map (·.event)) state.host)
    (hreply : script.answer (m := Id) (.enqueueWrite queue buffer false data []) state = reply) :
    InFlight queue base ((submitted ++ reply.answer.toOption.toList).map (·.event))
      reply.state.host := by
  obtain ⟨number, answer, hissued, hreplies⟩ := Script.enqueueWrite_replies hreply
  exact inFlight_of_replies hissued hreplies
    (fun fault hfault hcall => hfaults fault hfault (.inl hcall)) h (h.enqueueWrite nofun)

theorem enqueueKernel_inFlight (hfaults : HidesNoCommand script) {kernel : Host.KernelId}
    {size : UInt64} {reply : Reply _ (Script.State κ)}
    (h : InFlight queue base (submitted.map (·.event)) state.host)
    (hreply : script.answer (m := Id) (.enqueueKernel queue kernel size submitted) state = reply) :
    InFlight queue base ((submitted ++ reply.answer.toOption.toList).map (·.event))
      reply.state.host := by
  obtain ⟨number, answer, hissued, hreplies⟩ := Script.enqueueKernel_replies hreply
  exact inFlight_of_replies hissued hreplies
    (fun fault hfault hcall => hfaults fault hfault (.inr (.inl hcall))) h
    (h.enqueueKernel fun _ hevent => hevent)

theorem enqueueRead_inFlight (hfaults : HidesNoCommand script) {buffer : Host.BufferId}
    {blocking : Bool} {out : Array Int32} {wait : List Script.Event}
    {reply : Reply (@Request.enqueueRead Script.handles queue buffer blocking out wait)
      (Script.State κ)}
    (h : InFlight queue base (submitted.map (·.event)) state.host)
    (hwait : ∀ event ∈ wait, event ∈ submitted)
    (hreply : script.answer (m := Id) (.enqueueRead queue buffer blocking out wait) state = reply) :
    InFlight queue base ((submitted ++ reply.answer.1.toOption.toList).map (·.event))
      reply.state.host := by
  obtain ⟨number, answer, hissued, hreplies, -⟩ := Script.enqueueRead_replies hreply
  refine inFlight_of_replies hissued hreplies
    (fun fault hfault hcall => hfaults fault hfault (.inr (.inr hcall))) h (h.enqueueRead ?_)
  intro event hevent
  obtain ⟨event, hmem, rfl⟩ := List.mem_map.1 hevent
  exact List.mem_map_of_mem (hwait event hmem)

theorem submit_inFlight (hfaults : HidesNoCommand script) (kernel : Host.KernelId)
    (buffers : Buffers Script.handles) (vectors : Vectors) :
    Ensures (B := script.backend Id κ) (submit queue kernel buffers vectors : Run _ κ' _)
      (fun state => InFlight queue base [] state.host) fun submission state =>
        InFlight queue base (submission.submitted.map (·.event)) state.host := by
  have hanswer (submitted : List Script.Event) {answer : Except Status Script.Event}
      {host : Host.State κ}
      (h : InFlight queue base ((submitted ++ answer.toOption.toList).map (·.event)) host) :
      (∀ event, answer = .ok event →
        InFlight queue base ((submitted ++ [event]).map (·.event)) host) ∧
      ∀ status, answer = .error status → InFlight queue base (submitted.map (·.event)) host := by
    refine ⟨fun event hok => ?_, fun status herror => ?_⟩
    · rwa [hok] at h
    · rw [herror] at h
      exact List.append_nil submitted ▸ h
  exact .submit (B := script.backend Id κ)
    (fun (submitted : List Script.Event) (state : Script.State κ) =>
      InFlight queue base (submitted.map Script.Event.event) state.host)
    (.ask fun _ h => hanswer [] (enqueueWrite_inFlight hfaults h rfl))
    (fun writeA => .ask fun _ h => hanswer [writeA] (enqueueWrite_inFlight hfaults h rfl))
    (fun writeA writeB => .ask fun _ h =>
      hanswer [writeA, writeB] (enqueueKernel_inFlight hfaults h rfl))
    fun writeA writeB added => .ask fun _ h =>
      hanswer [writeA, writeB, added] (enqueueRead_inFlight hfaults h
        (fun _ hevent => List.mem_cons_of_mem _ (List.mem_cons_of_mem _ hevent)) rfl)

theorem finish_inFlight {events : List Host.EventId} {reply : Reply _ (Script.State κ)}
    (h : InFlight queue base events state.host)
    (hreply : script.answer (m := Id) (.finish queue) state = reply) :
    InFlight queue base events reply.state.host := by
  rcases hdrive : state.host.finish (m := Id) queue with ⟨answer, driven⟩
  rcases (Script.finish_replies hreply).after_eq with hafter | hafter
  · rw [hafter, hdrive]
    exact (h.drive hdrive).of_same rfl rfl
  · rw [hafter]
    exact h.of_same rfl rfl

theorem waitEvents_inFlight {events : List Host.EventId} {reply : Reply _ (Script.State κ)}
    (h : InFlight queue base events state.host)
    (hreply : script.answer (m := Id) (.waitEvents submitted) state = reply) :
    InFlight queue base events reply.state.host ∧ (reply.answer = .ok () →
      ∀ event ∈ submitted.map (·.event), reply.state.host.store.isResolved event) := by
  have hreplies := Script.waitEvents_replies hreply
  have hafter : reply.state.host = state.host.takeNotices.2 := hreplies.after_eq.elim id id
  rw [hafter]
  refine ⟨h.of_same rfl rfl, fun hok => ?_⟩
  rw [hok] at hreplies
  obtain ⟨host', hwait, -⟩ := hreplies.eq_of_ok
  have hresolved : ∀ event ∈ submitted.map (·.event), state.host.store.isResolved event :=
    Host.State.isResolved_of_waitEvents (congrArg Prod.fst hwait)
  exact hresolved

/-- Where a submission is settled and the vectors are not given up, nothing is in flight. -/
theorem settle_settledSince (vectors : Vectors) :
    Ensures (B := script.backend Id κ) (settle queue submitted vectors : Run _ κ' _)
      (fun state => InFlight queue base (submitted.map (·.event)) state.host)
      fun settled state => Alone queue state.host ∧
        (settled.2 = vectors ∧ SettledSince base state.host ∨ settled.2 = .empty) := by
  have hfinish : Ensures (B := script.backend Id κ) (ask (.finish queue) : Run _ κ' _)
      (fun state => InFlight queue base (submitted.map (·.event)) state.host)
      fun answer state => InFlight queue base (submitted.map (·.event)) state.host ∧
        (answer = .ok () → state.host.pending queue = []) :=
    .ask fun _ h => ⟨finish_inFlight h rfl, fun hok => finish_idle h.alone.wellFormed rfl hok⟩
  refine hfinish.bind fun answer => ?_
  -- the queue is empty, or all events have completed, or the vectors are given up
  cases answer with
  | ok _ => exact .pure fun _ h => ⟨h.1.alone, .inl ⟨rfl, h.1.settledSince_of_idle (h.2 rfl)⟩⟩
  | error status =>
    have hwait : Ensures (B := script.backend Id κ) (ask (.waitEvents submitted) : Run _ κ' _)
        (fun state => InFlight queue base (submitted.map (·.event)) state.host)
        fun answer state => InFlight queue base (submitted.map (·.event)) state.host ∧
          (answer = .ok () → ∀ event ∈ submitted.map (·.event),
            state.host.store.isResolved event) :=
      .ask fun _ h => waitEvents_inFlight h rfl
    refine (hwait.mono (fun _ h => h.1) fun _ _ h => h).bind fun answer => ?_
    cases answer with
    | ok _ => exact .pure fun _ h => ⟨h.1.alone, .inl ⟨rfl, h.1.settledSince (h.2 rfl)⟩⟩
    | error stuck => exact .bind .note fun _ => .pure fun _ h => ⟨h.1.alone, .inr rfl⟩

variable [Clock Id κ'] {resources : Resources Script.handles} {kernel : Host.KernelId}
  {buffers : Buffers Script.handles} {world : World (script.backend Id κ) κ'}

theorem execute_settledSince (hfaults : HidesNoCommand script) (vectors : Vectors) :
    Ensures (B := script.backend Id κ) (execute resources kernel buffers vectors : Run _ κ' _)
      (fun state => InFlight resources.queue base [] state.host)
      fun result state => Alone resources.queue state.host ∧
        (vectors.Kept result.2 ∧ SettledSince base state.host ∨ result.2 = .empty) := by
  have hrefused {host : Host.State κ} (h : InFlight resources.queue base [] host) :
      Alone resources.queue host ∧
        (vectors.Kept vectors ∧ SettledSince base host ∨ vectors = .empty) :=
    ⟨h.alone, .inl ⟨.refl vectors, h.settledSince nofun⟩⟩
  have hbind (args : List (Argument Host.BufferId)) :
      Ensures (B := script.backend Id κ) (bindArguments kernel 0 args : Run _ κ' _)
        (fun state => InFlight resources.queue base [] state.host)
        fun _ state => InFlight resources.queue base [] state.host :=
    bindArguments_keeps _ (fun index arg => ask_keeps (fun _ h => h.of_same rfl rfl)
      fun _ h => h.setKernelArg) 0 args
  have hsubmit : Ensures (B := script.backend Id κ)
      (submit resources.queue kernel buffers vectors : Run _ κ' _)
      (fun state => InFlight resources.queue base [] state.host)
      fun submission state => vectors.Kept submission.vectors ∧
        InFlight resources.queue base (submission.submitted.map (·.event)) state.host :=
    ((submit_kept _ _ _ _).mono (fun _ _ => trivial) fun _ _ h => h).and
      (submit_inFlight hfaults _ _ _)
  have hend {submission : Submission Script.Event} {left : Vectors} {host : Host.State κ}
      (h : vectors.Kept submission.vectors ∧ Alone resources.queue host ∧
        (left = submission.vectors ∧ SettledSince base host ∨ left = .empty)) :
      Alone resources.queue host ∧
        (vectors.Kept left ∧ SettledSince base host ∨ left = .empty) :=
    ⟨h.2.1, h.2.2.imp_left fun ⟨hleft, hsettled⟩ => ⟨hleft ▸ h.1, hsettled⟩⟩
  exact .execute (fun _ _ h _ => hrefused h) (fun _ => hbind _) (fun _ _ h => hrefused h)
    (fun _ => hsubmit) (fun submission => (settle_settledSince submission.vectors).frame _)
    (fun _ _ _ _ _ h => hend h) fun _ _ _ _ _ h _ => hend h

/-- In every world of a run its queue is alone. -/
theorem Reached.alone (h : Reached script resources kernel buffers world)
    (hfaults : HidesNoCommand script) : Alone resources.queue world.backend.host := by
  induction h with
  | prepared hreachable hprepare =>
    rename_i device source entryPoint size world world'
    have hyields := prepare_poised device source entryPoint size world hreachable
    rw [hprepare] at hyields
    obtain ⟨-, hpoised⟩ := hyields _ rfl
    have hfresh := hpoised.fresh
    refine ⟨hfresh.reachable.wellFormed, hfresh.lt_size, fun c hc => ?_⟩
    rw [hfresh.idle] at hc
    exact nomatch hc
  | executed vectors hreached ih =>
    exact (execute_settledSince hfaults vectors _ ih.inFlight).1

/-- However an execution ends, the vectors are kept and no command of the execution is pending, or
    the vectors have been given up. They are given up if the queue could not be drained and the
    events not be waited for either. -/
theorem Reached.execute_settles (h : Reached script resources kernel buffers world)
    (hfaults : HidesNoCommand script) (vectors : Vectors) :
    let result := execute resources kernel buffers vectors world
    let exchanges := exchanges (execute (B := (script.backend Id κ).recorded) resources kernel
      buffers vectors) world
    (vectors.Kept result.1.2 ∧
        SettledSince world.backend.host.store.events.size result.2.backend.host ∨
      result.1.2 = .empty) ∧
    (vectors.size ≠ 0 → (result.1.2 = .empty ↔ GaveUp exchanges)) := by
  intro result exchanges
  have hflight := (h.alone hfaults).inFlight
  refine ⟨(execute_settledSince hfaults vectors world hflight).2, fun hsize => ?_⟩
  -- vectors that have elements cannot both be kept and be empty
  have hnot : ¬vectors.Kept .empty := fun hkept => hsize (congrArg Array.size hkept.1).symm
  rcases execute_kept resources kernel buffers vectors world with
    ⟨hgaveUp, hleft⟩ | ⟨hgaveUp, hleft⟩
  · exact ⟨fun _ => hgaveUp, fun _ => hleft⟩
  · refine ⟨fun hempty => ?_, fun h => absurd h hgaveUp⟩
    have hleft : vectors.Kept result.1.2 := hleft
    rw [hempty] at hleft
    exact absurd hleft hnot

/-- Neither can the queue be drained nor have the three commands completed. -/
theorem Reached.execute_settles_of_leftovers :
    let result := execute (B := Leftover.script.backend Id Readings) Leftover.resources
      Leftover.kernel Leftover.buffers Leftover.vectors Leftover.prepared.2
    let exchanges := exchanges (B := Leftover.script.backend Id Readings)
      (execute (B := (Leftover.script.backend Id Readings).recorded) Leftover.resources
        Leftover.kernel Leftover.buffers Leftover.vectors) Leftover.prepared.2
    HidesNoCommand Leftover.script ∧ result.1.2 = .empty ∧ GaveUp exchanges := by
  intro result exchanges
  have hfaults : HidesNoCommand Leftover.script := by
    intro fault hfault _
    have hall : Leftover.script.faults.all (!·.after) := rfl
    simpa using List.all_eq_true.1 hall fault hfault
  have hempty : result.1.2 = .empty := by with_unfolding_all rfl
  have hsettles := Leftover.reached.execute_settles hfaults Leftover.vectors
  exact ⟨hfaults, hempty, (hsettles.2 nofun).1 hempty⟩

end Run

end Offload
