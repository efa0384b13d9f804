import Mathlib.Data.List.Nodup
import Offload.Proofs.Host.Moves
import Offload.Proofs.Host.Reordering

/-!
# What a queue out of order runs first

A queue out of order runs the last pending command that is ready. So of two commands of which the
later one does not wait for the earlier one, maybe through others, the later one runs first,
unless it waits for a command submitted before the earlier one that itself runs after it. Which
of the two runs first is thereby fixed (`State.LatestFirst`), in every call that drives the queue
(`State.Reachable.runs_latest_first`).

That an edge is missing in the wait-list of a kernel shows if the kernel runs before the upload,
and it does in particular if all that it waits for is later than the upload. It does not always
show: a kernel that waits for the first of two uploads only runs after both, because the second
upload is ready when the kernel is not (`State.not_exposes_halfAwaited`). No other order would
do: of two kernels that wait for one upload each, one has to run after both.
-/

namespace Offload.Host

/-- The first command stands before the second in a list, where both stand once. -/
def Precedes (ran : List Command) (c c' : Command) : Prop :=
  ∃ before after, ran = before ++ c' :: after ∧ c ∈ before

namespace Precedes

variable {ran before after : List Command} {c c' c'' : Command}

theorem mem (h : Precedes ran c c') : c ∈ ran := by
  obtain ⟨before, after, rfl, hc⟩ := h
  exact List.mem_append_left _ hc

/-- What precedes a command is what stands before it. -/
theorem iff_mem (hnodup : (before ++ c' :: after).Nodup) :
    Precedes (before ++ c' :: after) c c' ↔ c ∈ before := by
  refine ⟨?_, fun hc => ⟨before, after, rfl, hc⟩⟩
  rintro ⟨before', after', heq, hc⟩
  have hnot : c' ∉ before ∧ c' ∉ after := by
    simpa [not_or] using (List.nodup_middle.1 hnodup).notMem
  obtain ⟨rfl, -, -⟩ := (List.append_cons_inj_of_notMem hnot.1 hnot.2).1 heq
  exact hc

theorem trans (hnodup : ran.Nodup) (h : Precedes ran c c') (h' : Precedes ran c' c'') :
    Precedes ran c c'' := by
  obtain ⟨before, after, rfl, hc'⟩ := h'
  obtain ⟨first, between, rfl⟩ := List.append_of_mem hc'
  rw [List.append_assoc, List.cons_append] at h hnodup
  exact ⟨_, _, rfl, List.mem_append_left _ ((iff_mem hnodup).1 h)⟩

/-- No command precedes itself. -/
theorem irrefl (hnodup : ran.Nodup) : ¬Precedes ran c c := by
  rintro ⟨before, after, rfl, hc⟩
  exact (List.nodup_middle.1 hnodup).notMem (List.mem_append_left _ hc)

end Precedes

namespace State

open Relation

variable {κ : Type} {state state' : State κ} {queue : QueueId} {c other : Command}

/-- Of two commands that ran and of which the later one does not wait for the earlier one, the
    later one ran first if and only if all that it waits for and that was submitted before the
    earlier one ran before that as well. -/
def LatestFirst (pending ran : List Command) : Prop :=
  ∀ x ∈ pending, ∀ y ∈ pending, x.event < y.event → ¬TransGen (WaitsAmong pending) y x →
    x ∈ ran → y ∈ ran →
    (Precedes ran y x ↔
      ∀ z, TransGen (WaitsAmong pending) y z → z.event < x.event → Precedes ran z x)

/-- Of two commands that ran and of which the later one does not wait for the earlier one, the
    later one ran first. -/
def Exposes (pending ran : List Command) : Prop :=
  ∀ x ∈ pending, ∀ y ∈ pending, x.event < y.event → ¬TransGen (WaitsAmong pending) y x →
    x ∈ ran → y ∈ ran → Precedes ran y x

/-! ### Commands that may run -/

/-- Out of order a command that is not blocked leads to one that is ready. -/
theorem WellFormed.exists_ready (h : state.WellFormed)
    (horder : state.order? queue = some .outOfOrder) (hc : c ∈ state.pending queue)
    (hfree : ¬Blocked state queue c) :
    ∃ ready ∈ state.pending queue, ready.isReady state.store ∧
      ReflTransGen (WaitsAmong (state.pending queue)) c ready := by
  induction hn : c.event using Nat.strongRecOn generalizing c with
  | ind n ih =>
    by_cases hready : c.isReady state.store
    · exact ⟨c, hc, hready, .refl⟩
    · obtain ⟨queue', other, hother, hwait, hlt⟩ :=
        h.exists_awaited hc (Bool.eq_false_iff.2 hready)
      obtain rfl : queue' = queue := by
        by_contra hne
        exact hfree (.foreign hc hwait hne hother)
      obtain ⟨ready, hmem, hready, hchain⟩ := ih _ (hn ▸ hlt) hother
        (fun hblocked => hfree (.waits horder hc hwait hblocked)) rfl
      exact ⟨ready, hmem, hready, .head ⟨hother, hwait⟩ hchain⟩

/-- Out of order nothing later than the command that runs is ready. -/
theorem Stepped.event_le_of_ready {failure : Option Status}
    (hstep : Stepped queue state c failure state') (h : state.WellFormed)
    (horder : state.order? queue = some .outOfOrder) (hother : other ∈ state.pending queue)
    (hready : other.isReady state.store) : other.event < c.event ∨ other = c := by
  obtain ⟨before, after, hpending, -, -, hafter⟩ := hstep.pending
  have hsorted := h.sorted queue
  rw [hpending] at hother hsorted
  rcases List.mem_append.1 hother with hother | hother
  · exact .inl ((List.pairwise_append.1 hsorted).2.2 other hother c List.mem_cons_self)
  · rcases List.mem_cons.1 hother with rfl | hother
    · exact .inr rfl
    · exact absurd ((hafter horder other hother).symm.trans hready) Bool.false_ne_true

/-! ### Runs -/

theorem WellFormed.nodup_pending (h : state.WellFormed) : (state.pending queue).Nodup :=
  (h.sorted queue).imp fun hlt heq => Nat.ne_of_lt hlt (congrArg Command.event heq)

variable {log : List (Command × Option Status)}

/-- No command runs twice, and none that has run is pending. -/
theorem Ran.nodup (hran : Ran queue state log state') (h : state.WellFormed) :
    (log.map Prod.fst ++ state'.pending queue).Nodup :=
  hran.perm.nodup_iff.1 h.nodup_pending

variable [Clock Id κ]

/-- The step of a run in which a command runs. -/
theorem Steps.exists_step (hsteps : Steps queue state log state')
    (hc : c ∈ log.map Prod.fst) :
    ∃ before failure after mid next, log = before ++ (c, failure) :: after ∧
      Steps queue state before mid ∧ Stepped queue mid c failure next := by
  induction hsteps with
  | refl => exact nomatch hc
  | step hstep hsteps ih =>
    rename_i state mid state' command failure log
    by_cases heq : c = command
    · subst heq
      exact ⟨[], failure, log, state, mid, rfl, .refl, hstep.spec⟩
    · obtain ⟨before, failure', after, last, next, rfl, hbefore, hlast⟩ :=
        ih ((List.mem_cons.1 hc).resolve_left heq)
      exact ⟨_ :: before, failure', after, last, next, rfl, .step hstep hbefore, hlast⟩

/-- What a command waits for runs before it. -/
theorem Steps.precedes (hsteps : Steps queue state log state') (h : state.WellFormed)
    (hc : c ∈ log.map Prod.fst) (hwait : WaitsAmong (state.pending queue) c other) :
    Precedes (log.map Prod.fst) other c := by
  obtain ⟨before, failure, after, mid, next, rfl, hbefore, hstep⟩ := hsteps.exists_step hc
  have hran := hbefore.ran h
  refine ⟨before.map Prod.fst, after.map Prod.fst, List.map_append, ?_⟩
  refine (List.mem_append.1 (hran.perm.subset hwait.1)).resolve_right fun hpending => ?_
  exact hstep.not_waitsAmong hran.wellFormed other ⟨hpending, hwait.2⟩

theorem Steps.precedes_of_transGen (hsteps : Steps queue state log state') (h : state.WellFormed)
    (hc : c ∈ log.map Prod.fst) (hchain : TransGen (WaitsAmong (state.pending queue)) c other) :
    Precedes (log.map Prod.fst) other c := by
  have hnodup := ((hsteps.ran h).nodup h).of_append_left
  induction hchain with
  | single hwait => exact hsteps.precedes h hc hwait
  | tail _ hwait ih => exact (hsteps.precedes h ih.mem hwait).trans hnodup ih

/-- A command that runs was not blocked. -/
theorem Steps.not_blocked (hsteps : Steps queue state log state') (h : state.WellFormed)
    (hc : c ∈ log.map Prod.fst) : ¬Blocked state queue c := by
  obtain ⟨before, failure, after, mid, next, -, hbefore, hstep⟩ := hsteps.exists_step hc
  rw [← hbefore.blocked_iff h]
  exact hstep.not_blocked (hbefore.ran h).wellFormed

/-- However long a queue out of order runs, it runs the latest command first. -/
theorem Steps.latestFirst (hsteps : Steps queue state log state') (h : state.WellFormed)
    (horder : state.order? queue = some .outOfOrder) :
    LatestFirst (state.pending queue) (log.map Prod.fst) := by
  intro x hx y hy hlt hfree hxran hyran
  have hnodup := ((hsteps.ran h).nodup h).of_append_left
  refine ⟨fun hyx z hchain _ => (hsteps.precedes_of_transGen h hyran hchain).trans hnodup hyx,
    fun hearlier => ?_⟩
  have hunblocked := hsteps.not_blocked h hyran
  obtain ⟨before, failure, after, mid, next, rfl, hbefore, hstep⟩ := hsteps.exists_step hxran
  have hran := hbefore.ran h
  rw [List.map_append, List.map_cons] at hnodup hearlier ⊢
  rw [Precedes.iff_mem hnodup]
  by_contra hlate
  -- when the earlier command runs, the later one is still pending, so it leads to a ready one
  have hpending : y ∈ mid.pending queue :=
    (List.mem_append.1 (hran.perm.subset hy)).resolve_left hlate
  have horder' : mid.order? queue = some .outOfOrder := hran.order ▸ horder
  obtain ⟨ready, hready, hisReady, hchain⟩ := hran.wellFormed.exists_ready horder' hpending
    (mt (hbefore.blocked_iff h).1 hunblocked)
  have hchain : ReflTransGen (WaitsAmong (state.pending queue)) y ready :=
    hchain.lift id fun _ _ hwait => ⟨hran.sublist.subset hwait.1, hwait.2⟩
  have hne (heq : ready.event ≤ x.event) : ready ≠ y := by
    rintro rfl
    exact absurd hlt (Nat.not_lt_of_le heq)
  rcases hstep.event_le_of_ready hran.wellFormed horder' hready hisReady with hbelow | rfl
  · -- the ready one was submitted before the earlier command, so it should have run already
    have hwaits :=
      (reflTransGen_iff_eq_or_transGen.1 hchain).resolve_left (hne (Nat.le_of_lt hbelow))
    have hrun := (Precedes.iff_mem hnodup).1 (hearlier ready hwaits hbelow)
    exact (List.nodup_append.1 (hran.nodup h)).2.2 _ hrun _ hready rfl
  · exact hfree ((reflTransGen_iff_eq_or_transGen.1 hchain).resolve_left (hne (Nat.le_refl _)))

/-! ### Calls -/

/-- Calls that drive a queue out of order run its latest commands first: finishing it, and uploads
    and downloads that wait for their own command, which is then pending as well. -/
theorem Reachable.runs_latest_first (h : Reachable state)
    (horder : state.order? queue = some .outOfOrder) :
    (∃ log, Steps queue state log (state.finish (m := Id) queue).2 ∧
      LatestFirst (state.pending queue) (log.map Prod.fst)) ∧
    (∀ buffer data wait operation, state.admitWrite queue buffer data wait = .ok operation →
      let submitted := (state.submit queue operation wait).2
      ∃ log, Steps queue submitted log
          (state.enqueueWrite (m := Id) queue buffer true data wait).2 ∧
        LatestFirst (submitted.pending queue) (log.map Prod.fst)) ∧
    ∀ buffer out wait operation, state.admitRead queue buffer out.size wait = .ok operation →
      let submitted := (state.submit queue operation wait).2
      ∃ log, Steps queue submitted log (state.enqueueRead (m := Id) queue buffer out wait).2 ∧
        LatestFirst (submitted.pending queue) (log.map Prod.fst) := by
  have hdrive {state : State κ} (hwf : state.WellFormed)
      (horder : state.order? queue = some .outOfOrder) (target : Option EventId) :
      ∃ log, Steps queue state log (state.drive (m := Id) queue target).2 ∧
        LatestFirst (state.pending queue) (log.map Prod.fst) := by
    obtain ⟨q, hq, -⟩ := Option.map_eq_some_iff.1 horder
    rcases hstate : state.drive (m := Id) queue target with ⟨answer, after⟩
    obtain ⟨log, hsteps, -⟩ := hwf.drive (Array.getElem?_eq_some_iff.1 hq).1 hstate
    exact ⟨log, hsteps, hsteps.latestFirst hwf horder⟩
  have hsubmit (operation : Operation) {wait : List EventId}
      (hcheck : state.checkSubmission queue wait = .ok ()) :=
    hdrive (h.wellFormed.submit_of_checked operation hcheck)
      ((congrFun order?_submit queue).trans horder) (some state.store.events.size)
  refine ⟨hdrive h.wellFormed horder none, fun buffer data wait operation hadmitted => ?_,
    fun buffer out wait operation hadmitted => ?_⟩
  · rw [enqueueWrite_snd, hadmitted]
    exact hsubmit operation (admitWrite_eq_ok hadmitted).1
  · rw [enqueueRead_snd, hadmitted]
    exact hsubmit operation (admitRead_eq_ok hadmitted).1

/-- Two uploads and two kernels on a queue out of order. Both kernels read what both uploads write,
    but each waits for one of them only. -/
def halfAwaited : State Readings :=
  let device : Device := { name := "", kind := .cpu, order := .outOfOrder }
  (State.initial (.ofFunction fun _ => 0)).serve
    [.createQueue ⟨device⟩ device true,
      .createProgram ⟨device⟩ "__kernel void vecadd(a, b, c, n)", .buildProgram 0 device,
      .createKernel 0 0 "vecadd" vectorAddParams, .createBuffer ⟨device⟩ 0 .input 1,
      .createBuffer ⟨device⟩ 0 .input 1, .createBuffer ⟨device⟩ 0 .output 1,
      .setKernelArg 0 0 (.buffer 0), .setKernelArg 0 1 (.buffer 1), .setKernelArg 0 2 (.buffer 2),
      .setKernelArg 0 3 (.int 1), .enqueueWrite 0 0 false #[1] [],
      .enqueueWrite 0 1 false #[2] [], .enqueueKernel 0 0 1 [0], .enqueueKernel 0 0 1 [1]]

theorem reachable_halfAwaited : halfAwaited.Reachable :=
  (reachable_initial _).serve _

theorem order?_halfAwaited : halfAwaited.order? 0 = some .outOfOrder := by
  decide +kernel

theorem pending_halfAwaited : ∃ uploadA uploadB kernelA kernelB : Command,
    halfAwaited.pending 0 = [uploadA, uploadB, kernelA, kernelB] ∧
      (uploadA.event = 0 ∧ uploadA.wait = []) ∧ (uploadB.event = 1 ∧ uploadB.wait = []) ∧
      (kernelA.event = 2 ∧ kernelA.wait = [0]) ∧ (kernelB.event = 3 ∧ kernelB.wait = [1]) := by
  have hlist : (halfAwaited.pending 0).map (fun c => (c.event, c.wait)) =
      [(0, []), (1, []), (2, [0]), (3, [1])] := by decide +kernel
  simpa [List.map_eq_cons_iff] using hlist

/-- Finishing the queue runs all four commands. -/
theorem perm_of_finish_halfAwaited {log : List (Command × Option Status)}
    (hsteps : Steps 0 halfAwaited log (halfAwaited.finish (m := Id) 0).2) :
    (log.map Prod.fst).Perm (halfAwaited.pending 0) := by
  have hcount : (halfAwaited.finish (m := Id) 0).2.pendingCount 0 = 0 := by decide +kernel
  rw [pendingCount_eq, List.length_eq_zero_iff] at hcount
  have hperm := (hsteps.ran reachable_halfAwaited.wellFormed).perm
  rw [hcount, List.append_nil] at hperm
  exact hperm.symm

omit [Clock Id κ] in
theorem not_transGen_of_wait_singleton {pending : List Command} {event : EventId}
    (hc : c.wait = [event]) (hwait : ∀ d ∈ pending, d.event = event → d.wait = [])
    (hne : other.event ≠ event) : ¬TransGen (WaitsAmong pending) c other := by
  intro hchain
  obtain ⟨d, ⟨hd, hevent⟩, hrest⟩ := TransGen.head'_iff.1 hchain
  rw [hc, List.mem_singleton] at hevent
  rcases hrest.cases_head with rfl | ⟨e, he, -⟩
  · exact hne hevent
  · rw [WaitsAmong, hwait d hd hevent] at he
    exact nomatch he.2

/-- Whatever the order in which the four commands run, the missing edge of one kernel does not show,
    if what they wait for runs before them. -/
theorem not_exposes_halfAwaited {ran : List Command} (hperm : ran.Perm (halfAwaited.pending 0))
    (hhonours : ∀ c ∈ ran, ∀ other, WaitsAmong (halfAwaited.pending 0) c other →
      Precedes ran other c) :
    ¬Exposes (halfAwaited.pending 0) ran := by
  intro hexposes
  have hnodup : ran.Nodup :=
    hperm.nodup_iff.2 reachable_halfAwaited.wellFormed.nodup_pending
  obtain ⟨uploadA, uploadB, kernelA, kernelB, hpending, hA, hB, hkA, hkB⟩ := pending_halfAwaited
  rw [hpending] at hperm hhonours hexposes
  have hmem : ∀ c ∈ [uploadA, uploadB, kernelA, kernelB], c ∈ ran := fun c hc =>
    hperm.symm.subset hc
  -- the first upload, the first kernel, the second upload, the second kernel, and round again
  have hAk : Precedes ran uploadA kernelA :=
    hhonours _ (hmem _ (by simp)) _ ⟨by simp, by simp [hA, hkA]⟩
  have hkB' : Precedes ran kernelA uploadB :=
    hexposes _ (by simp) _ (by simp) (by simp [hB, hkA])
      (not_transGen_of_wait_singleton hkA.2 (by simp [hA, hB, hkA, hkB]) (by simp [hB]))
      (hmem _ (by simp)) (hmem _ (by simp))
  have hBk : Precedes ran uploadB kernelB :=
    hhonours _ (hmem _ (by simp)) _ ⟨by simp, by simp [hB, hkB]⟩
  have hkA' : Precedes ran kernelB uploadA :=
    hexposes _ (by simp) _ (by simp) (by simp [hA, hkB])
      (not_transGen_of_wait_singleton hkB.2 (by simp [hA, hB, hkA, hkB]) (by simp [hA]))
      (hmem _ (by simp)) (hmem _ (by simp))
  exact Precedes.irrefl hnodup
    (((hAk.trans hnodup hkB').trans hnodup hBk).trans hnodup hkA')

/-- A missing edge may stay hidden: of the two kernels one runs after both uploads, though it waits
    for one only. This is not for the choice of the order, since none that honours the wait-lists
    lets both missing edges show. -/
theorem exposes_fails_of_half_awaited :
    halfAwaited.Reachable ∧ halfAwaited.order? 0 = some .outOfOrder ∧
      (∃ log, Steps 0 halfAwaited log (halfAwaited.finish (m := Id) 0).2 ∧
        ¬Exposes (halfAwaited.pending 0) (log.map Prod.fst)) ∧
      ∀ ran, ran.Perm (halfAwaited.pending 0) →
        (∀ c ∈ ran, ∀ other, WaitsAmong (halfAwaited.pending 0) c other → Precedes ran other c) →
        ¬Exposes (halfAwaited.pending 0) ran := by
  refine ⟨reachable_halfAwaited, order?_halfAwaited, ?_,
    fun ran hperm hhonours => not_exposes_halfAwaited hperm hhonours⟩
  have hwf := reachable_halfAwaited.wellFormed
  have hqueue : 0 < halfAwaited.queues.size := by decide +kernel
  rcases hfinish : halfAwaited.finish (m := Id) 0 with ⟨answer, after⟩
  obtain ⟨log, hsteps, -⟩ := hwf.drive hqueue hfinish
  exact ⟨log, hsteps, not_exposes_halfAwaited (perm_of_finish_halfAwaited (by rwa [hfinish]))
    fun c hc other hwait => hsteps.precedes hwf hc hwait⟩

/-- The kernel that waits for the second upload runs before the first one, so that the edge that it
    lacks shows. -/
theorem runs_latest_first_of_half_awaited :
    halfAwaited.Reachable ∧ halfAwaited.order? 0 = some .outOfOrder ∧
      ∃ log, Steps 0 halfAwaited log (halfAwaited.finish (m := Id) 0).2 ∧
        ∃ upload ∈ halfAwaited.pending 0, ∃ kernel ∈ halfAwaited.pending 0,
          upload.event = 0 ∧ kernel.wait = [1] ∧ Precedes (log.map Prod.fst) kernel upload := by
  obtain ⟨⟨log, hsteps, hlatest⟩, -⟩ :=
    reachable_halfAwaited.runs_latest_first order?_halfAwaited
  have hperm := perm_of_finish_halfAwaited hsteps
  refine ⟨reachable_halfAwaited, order?_halfAwaited, log, hsteps, ?_⟩
  obtain ⟨uploadA, uploadB, kernelA, kernelB, hpending, hA, hB, hkA, hkB⟩ := pending_halfAwaited
  rw [hpending] at hperm hlatest ⊢
  refine ⟨uploadA, by simp, kernelB, by simp, hA.1, hkB.2, ?_⟩
  refine (hlatest uploadA (by simp) kernelB (by simp) (by simp [hA, hkB]) ?_ ?_ ?_).2
    fun z _ hz => ?_
  · exact not_transGen_of_wait_singleton hkB.2 (by simp [hA, hB, hkA, hkB]) (by simp [hA])
  · exact hperm.symm.subset (by simp)
  · exact hperm.symm.subset (by simp)
  · exact absurd (hA.1 ▸ hz) (Nat.not_lt_zero _)

end State

end Offload.Host
