import Offload.Proofs.Host.WellFormed

/-!
# Passes

A *pass* is what one execution submits: two uploads, the kernel that waits for both and the download
that waits for the kernel (`Pass.commands`). Older commands may still be pending when a pass is
submitted, and they may touch the same buffers. They cannot get between the commands of the pass: a
queue in order has run all of them before, and a queue out of order takes the commands of the pass
first, as they are the last ones that are ready (`State.Steps.pass`). So a download that succeeds
has fetched the sums (`Pass.fetched_eq`).
-/

namespace Offload.Host

/-- The data and the events of two uploads, a kernel and a download. -/
structure Pass where
  /-- The arguments of the kernel. -/
  args : Arguments
  /-- What is uploaded into the first input. -/
  dataA : Array Int32
  /-- What is uploaded into the second input. -/
  dataB : Array Int32
  /-- How many work items the kernel has. -/
  size : UInt64
  /-- How many elements are downloaded. -/
  length : Nat
  /-- The event of the first upload. -/
  writeA : EventId
  /-- The event of the second upload. -/
  writeB : EventId
  /-- The event of the kernel. -/
  added : EventId
  /-- The event of the download. -/
  readC : EventId

namespace Pass

/-- The first upload. -/
def uploadA (pass : Pass) : Command := ⟨.write pass.args.a pass.dataA, [], pass.writeA⟩

/-- The second upload. -/
def uploadB (pass : Pass) : Command := ⟨.write pass.args.b pass.dataB, [], pass.writeB⟩

/-- The kernel. -/
def addition (pass : Pass) : Command :=
  ⟨.kernel pass.size pass.args.vector, [pass.writeA, pass.writeB], pass.added⟩

/-- The download. -/
def download (pass : Pass) : Command := ⟨.read pass.args.c pass.length, [pass.added], pass.readC⟩

/-- The four commands in the order of submission. -/
def commands (pass : Pass) : List Command :=
  [pass.uploadA, pass.uploadB, pass.addition, pass.download]

end Pass

namespace State

variable {κ : Type} {state state' : State κ} {queue : QueueId} {command c : Command}
  {failure : Option Status} {before later : List Command}

/-- Out of order the last command that is ready runs. -/
theorem Stepped.eq_of_ready (hstep : Stepped queue state command failure state')
    (horder : state.order? queue = some .outOfOrder)
    (hpending : state.pending queue = before ++ c :: later) (hready : c.isReady state.store)
    (hlater : ∀ d ∈ later, d.isReady state.store = false) :
    command = c ∧ state'.pending queue = before ++ later := by
  obtain ⟨before', later', hpending', hrest, -, hlater'⟩ := hstep.pending
  have hlater' := hlater' horder
  have hcommand := hstep.ready
  rw [hpending] at hpending'
  rcases List.append_eq_append_iff.1 hpending' with ⟨between, rfl, heq⟩ | ⟨between, rfl, heq⟩
  · -- the command that ran stands at the one that is ready or after it
    cases between with
    | nil =>
      obtain ⟨rfl, rfl⟩ := List.cons.inj heq
      exact ⟨rfl, by simpa using hrest⟩
    | cons first between =>
      obtain ⟨-, rfl⟩ := List.cons.inj heq
      have := hlater command (by simp)
      rw [hcommand] at this
      exact nomatch this
  · -- it stands before, although out of order a later command that is ready would run
    cases between with
    | nil =>
      obtain ⟨rfl, rfl⟩ := List.cons.inj heq
      exact ⟨rfl, by simpa using hrest⟩
    | cons first between =>
      obtain ⟨-, rfl⟩ := List.cons.inj heq
      have := hlater' c (by simp)
      rw [hready] at this
      exact nomatch this

variable [Clock Id κ] {log : List (Command × Option Status)}

/-- In order the commands of a log are the first ones pending. -/
theorem Steps.in_order (hsteps : Steps queue state log state')
    (horder : state.order? queue = some .inOrder) :
    state.pending queue = log.map Prod.fst ++ state'.pending queue := by
  induction hsteps with
  | refl => rfl
  | step hstep _ ih =>
    have hspec := hstep.spec
    obtain ⟨before, after, hpending, hpending', hin, -⟩ := hspec.pending
    rw [hpending, hin horder, List.nil_append, List.map_cons, List.cons_append, ← ih, hpending',
      hin horder, List.nil_append]
    exact hspec.order ▸ horder

/-- Out of order the last command that is ready comes first, where something is left to run. -/
theorem Steps.out_of_order (hsteps : Steps queue state log state')
    (horder : state.order? queue = some .outOfOrder)
    (hpending : state.pending queue = before ++ c :: later) (hready : c.isReady state.store)
    (hlater : ∀ d ∈ later, d.isReady state.store = false) (hne : state' ≠ state) :
    ∃ failure log' between, log = (c, failure) :: log' ∧ Stepped queue state c failure between ∧
      between.pending queue = before ++ later ∧ Steps queue between log' state' := by
  cases hsteps with
  | refl => exact absurd rfl hne
  | step hstep hsteps =>
    obtain ⟨rfl, hbetween⟩ := hstep.spec.eq_of_ready horder hpending hready hlater
    exact ⟨_, _, _, rfl, hstep.spec, hbetween, hsteps⟩

omit [Clock Id κ] in
theorem isReady_eq_false {event : EventId} (hwait : event ∈ c.wait)
    (hqueued : state.store.isResolved event = false) : c.isReady state.store = false :=
  List.all_eq_false.2 ⟨event, hwait, by simp [hqueued]⟩

/-- Where the download of a pass has resolved, the commands of the pass have run one after the
    other, the uploads in either order. -/
theorem Steps.pass {pass : Pass} {old : List Command} (h : state.WellFormed)
    (hpending : state.pending queue = old ++ pass.commands) (hsteps : Steps queue state log state')
    (hread : state'.store.isResolved pass.readC) :
    ∃ before after, log.map Prod.fst = before ++ pass.commands ++ after ∨
      log.map Prod.fst =
        before ++ [pass.uploadB, pass.uploadA, pass.addition, pass.download] ++ after := by
  have hmem : pass.download ∈ state.pending queue := by simp [hpending, Pass.commands]
  have hrun := ((hsteps.ran h).isResolved_iff h hmem).1 hread
  obtain ⟨order, horder⟩ : ∃ order, state.order? queue = some order := by
    rw [order?]
    cases hq : state.queues[queue]? with
    | none => simp [State.pending, hq, Pass.commands] at hpending
    | some q => exact ⟨_, rfl⟩
  cases order with
  | inOrder =>
    refine ⟨old, [], .inl ?_⟩
    have hsplit := hsteps.in_order horder
    rw [hpending] at hsplit
    -- what is left would end with the download, too
    have hempty : state'.pending queue = [] := by
      by_contra hne
      obtain ⟨last, hlast⟩ := List.getLast?_isSome.2 hne |> Option.isSome_iff_exists.1
      have hsame := congrArg List.getLast? hsplit
      rw [List.getLast?_append, List.getLast?_append, hlast] at hsame
      obtain rfl : pass.download = last := Option.some.inj hsame
      exact hrun (List.mem_of_getLast? hlast)
    rw [List.append_nil, hsplit, hempty, List.append_nil]
  | outOfOrder =>
    -- each command of the pass keeps those behind it from being ready
    have hqueued {u : State κ} (hu : u.WellFormed) {d : Command} (hd : d ∈ u.pending queue) :
        u.store.isResolved d.event = false := (hu.unresolved queue d hd).2
    have hne {u : State κ} (hu : u.WellFormed) (hd : pass.download ∈ u.pending queue) :
        state' ≠ u := by
      rintro rfl
      exact Bool.false_ne_true ((hqueued hu hd).symm.trans hread)
    have hlast {u : State κ} (hu : u.WellFormed) (ha : pass.addition ∈ u.pending queue) :
        pass.download.isReady u.store = false :=
      isReady_eq_false (List.mem_singleton_self _) (hqueued hu ha)
    have hkernel {u : State κ} (hu : u.WellFormed) (ha : pass.uploadA ∈ u.pending queue) :
        pass.addition.isReady u.store = false :=
      isReady_eq_false List.mem_cons_self (hqueued hu ha)
    -- the second upload
    have hpending : state.pending queue =
        (old ++ [pass.uploadA]) ++ pass.uploadB :: [pass.addition, pass.download] := by
      simp [hpending, Pass.commands]
    obtain ⟨_, log, state₁, rfl, hstep₁, hpending₁, hsteps⟩ := hsteps.out_of_order horder
      hpending rfl (by simp [hkernel h, hlast h, hpending]) (hne h hmem)
    have h₁ := hstep₁.wellFormed h
    -- the first upload
    have hpending₁ : state₁.pending queue =
        old ++ pass.uploadA :: [pass.addition, pass.download] := by simp [hpending₁]
    obtain ⟨_, log, state₂, rfl, hstep₂, hpending₂, hsteps⟩ := hsteps.out_of_order
      (hstep₁.order ▸ horder) hpending₁ rfl
      (by simp [hkernel h₁, hlast h₁, hpending₁]) (hne h₁ (by simp [hpending₁]))
    have h₂ := hstep₂.wellFormed h₁
    -- the kernel, now that both uploads have run
    have hready₂ : pass.addition.isReady state₂.store := by
      have hA : state₂.store.isResolved pass.writeA :=
        (hstep₂.executes h₁).isResolved_iff.2 (.inl rfl)
      have hB : state₂.store.isResolved pass.writeB := (hstep₂.executes h₁).isResolved_iff.2
        (.inr ((hstep₁.executes h).isResolved_iff.2 (.inl rfl)))
      simp [Command.isReady, Pass.addition, hA, hB]
    obtain ⟨_, log, state₃, rfl, hstep₃, hpending₃, hsteps⟩ := hsteps.out_of_order
      (hstep₂.order ▸ hstep₁.order ▸ horder) hpending₂ hready₂
      (by simp [hlast h₂, hpending₂]) (hne h₂ (by simp [hpending₂]))
    have h₃ := hstep₃.wellFormed h₂
    -- the download
    have hready₃ : pass.download.isReady state₃.store := by
      have hK : state₃.store.isResolved pass.added :=
        (hstep₃.executes h₂).isResolved_iff.2 (.inl rfl)
      simp [Command.isReady, Pass.download, hK]
    obtain ⟨_, log, -, rfl, -⟩ := hsteps.out_of_order
      (hstep₃.order ▸ hstep₂.order ▸ hstep₁.order ▸ horder) hpending₃ hready₃ (by simp)
      (hne h₃ (by simp [hpending₃]))
    exact ⟨[], log.map Prod.fst, .inr rfl⟩

end State

/-! ### What a pass fetches -/

namespace Pass

variable {pass : Pass} {ledger : Ledger} {fetched : Array Int32}

/-- The inputs of the pass are distinct, and its events are in order. -/
structure Distinct (pass : Pass) : Prop where
  a_ne_b : pass.args.a ≠ pass.args.b
  events : (pass.commands.map (·.event)).Pairwise (· < ·)

theorem Distinct.writeA_ne (h : pass.Distinct) : pass.writeA ≠ pass.writeB := by
  have hevents := h.events
  simp only [commands, List.map_cons, List.pairwise_cons, List.mem_cons, forall_eq_or_imp]
    at hevents
  exact Nat.ne_of_lt hevents.1.1

/-- The uploads can change places. -/
theorem Distinct.runAll_swap (h : pass.Distinct) :
    ledger.runAll [pass.uploadB, pass.uploadA, pass.addition, pass.download] =
      ledger.runAll pass.commands := by
  have hswap : (ledger.run pass.uploadB).run pass.uploadA =
      (ledger.run pass.uploadA).run pass.uploadB :=
    Ledger.run_comm h.writeA_ne.symm List.not_mem_nil List.not_mem_nil fun ⟨buffer, hb, ha, _⟩ =>
      h.a_ne_b ((List.mem_singleton.1 ha).symm.trans (List.mem_singleton.1 hb))
  exact congrArg (fun ledger : Ledger => (ledger.run pass.addition).run pass.download) hswap

/-- A download that succeeds at the end of a pass has fetched the sums of what has been uploaded. -/
theorem Distinct.fetched_eq (h : pass.Distinct)
    (hread : (ledger.runAll pass.commands).outcome pass.readC = some (.ok fetched)) :
    fetched.size = pass.length ∧ ∀ i < pass.length,
      i < VectorAdd.activeItems pass.size pass.args.count → ∀ x y, pass.dataA[i]? = some x →
        pass.dataB[i]? = some y → fetched[i]? = some (x + y) := by
  let ledgerA := ledger.run pass.uploadA
  let ledgerB := ledgerA.run pass.uploadB
  let ledgerC := ledgerB.run pass.addition
  have hread : (ledgerC.run pass.download).outcome pass.download.event = some (.ok fetched) := hread
  -- the download has not failed, and so neither has the kernel nor the uploads
  have hdownload : (ledgerC.run pass.download).failure? pass.download.event = none := by
    rw [Ledger.failure?, hread]
  obtain ⟨hwait, ⟨found, hfound, houtcome⟩, -⟩ := Ledger.run_of_not_failed hdownload
  obtain rfl : found = fetched := Except.ok.inj (Option.some.inj (houtcome.symm.trans hread))
  obtain ⟨hwait, ⟨_, hkernel, -⟩, hmemoryC⟩ :=
    Ledger.run_of_not_failed (hwait pass.added (List.mem_singleton_self _))
  have hmemB : pass.writeB ∈ pass.addition.wait :=
    List.mem_cons_of_mem _ (List.mem_singleton_self _)
  obtain ⟨-, ⟨_, hB, -⟩, hmemoryB⟩ := Ledger.run_of_not_failed (hwait pass.writeB hmemB)
  have hwriteA : ledgerA.failure? pass.uploadA.event = none := by
    have := hwait pass.writeA List.mem_cons_self
    rwa [Ledger.failure?, Ledger.outcome_run_of_ne h.writeA_ne] at this
  obtain ⟨-, ⟨_, hA, -⟩, hmemoryA⟩ := Ledger.run_of_not_failed hwriteA
  obtain ⟨hsize, hget⟩ := Operation.getElem?_perform_read hfound
  refine ⟨hsize, ?_⟩
  intro i hi hactive x y hx hy
  rw [hget i hi, hmemoryC]
  refine Operation.getElem?_perform_kernel hkernel hactive ?_ ?_
  · -- the second upload leaves the first input as it is
    rw [hmemoryB, Operation.perform_frame (by simpa [uploadB, Operation.modifies] using h.a_ne_b),
      hmemoryA]
    exact Operation.getElem?_perform_write hA hx
  · rw [hmemoryB]
    exact Operation.getElem?_perform_write hB hy

end Pass

namespace State

variable {κ : Type} [Clock Id κ] {state state' : State κ} {queue : QueueId}
  {log : List (Command × Option Status)}

/-- A download at the end of a pass that succeeds has fetched the sums, whatever was pending before
    the pass. -/
theorem Steps.fetched_eq {pass : Pass} {old : List Command} {fetched : Array Int32}
    (h : state.WellFormed) (hpending : state.pending queue = old ++ pass.commands)
    (hinputs : pass.args.a ≠ pass.args.b)
    (hsteps : Steps queue state log state')
    (hread : state'.store.outcome? pass.readC = some (.ok fetched)) :
    fetched.size = pass.length ∧ ∀ i < pass.length,
      i < VectorAdd.activeItems pass.size pass.args.count → ∀ x y, pass.dataA[i]? = some x →
        pass.dataB[i]? = some y → fetched[i]? = some (x + y) := by
  have hran := hsteps.ran h
  have hevents : ((state.pending queue).map (·.event)).Pairwise (· < ·) :=
    List.pairwise_map.2 (h.sorted queue)
  have hdistinct : pass.Distinct := by
    refine ⟨hinputs, ?_⟩
    rw [hpending, List.map_append] at hevents
    exact (List.pairwise_append.1 hevents).2.1
  -- no command runs twice
  have hnodup : ((log.map Prod.fst).map Command.event).Nodup := by
    have hperm := (hran.perm.map Command.event).nodup_iff.1 (hevents.imp Nat.ne_of_lt)
    rw [List.map_append] at hperm
    exact (List.nodup_append.1 hperm).1
  have houtcome : (state.store.ledger.runAll (log.map Prod.fst)).outcome pass.readC =
      some (.ok fetched) := by
    rw [← hran.ledger]
    exact hread
  -- the commands after the download leave its outcome as it is
  have hends {before four after : List Command} (hlog : log.map Prod.fst = before ++ four ++ after)
      (hmem : pass.download ∈ four) :
      ((state.store.ledger.runAll before).runAll four).outcome pass.readC = some (.ok fetched) := by
    rw [hlog, List.map_append] at hnodup
    rw [hlog, Ledger.runAll_append, Ledger.runAll_append] at houtcome
    rw [← houtcome]
    refine (Ledger.outcome_runAll fun c hc => ?_).symm
    exact (List.nodup_append.1 hnodup).2.2 _
      (List.mem_map_of_mem (List.mem_append_right _ hmem)) _ (List.mem_map_of_mem hc)
  obtain ⟨before, after, hlog | hlog⟩ := hsteps.pass h hpending
    (by rw [Store.isResolved_eq, hread, Option.isSome_some])
  · exact hdistinct.fetched_eq (hends hlog (by simp [Pass.commands]))
  · have hswapped := hends hlog (by simp)
    rw [hdistinct.runAll_swap] at hswapped
    exact hdistinct.fetched_eq hswapped

/-- Where all vectors are of one length and each element has an active work item, the download has
    fetched the sums of the two uploads. -/
theorem Steps.fetched_eq_zipWith {pass : Pass} {old : List Command} {fetched : Array Int32}
    (h : state.WellFormed) (hpending : state.pending queue = old ++ pass.commands)
    (hinputs : pass.args.a ≠ pass.args.b) (hsteps : Steps queue state log state')
    (hread : state'.store.outcome? pass.readC = some (.ok fetched))
    (hA : pass.dataA.size = pass.length) (hB : pass.dataB.size = pass.length)
    (hactive : pass.length ≤ VectorAdd.activeItems pass.size pass.args.count) :
    fetched.size = pass.length ∧ fetched = Array.zipWith (· + ·) pass.dataA pass.dataB := by
  obtain ⟨hfetched, hsums⟩ := hsteps.fetched_eq h hpending hinputs hread
  refine ⟨hfetched, Array.ext (by simp [hfetched, hA, hB]) ?_⟩
  intro i hi hi'
  have hlt : i < pass.length := hfetched ▸ hi
  have hsum := hsums i hlt (Nat.lt_of_lt_of_le hlt hactive) _ _
    (Array.getElem?_eq_getElem (hA.symm ▸ hlt)) (Array.getElem?_eq_getElem (hB.symm ▸ hlt))
  rw [Array.getElem?_eq_getElem hi] at hsum
  rw [Array.getElem_zipWith]
  exact Option.some.inj hsum

end State

end Offload.Host
