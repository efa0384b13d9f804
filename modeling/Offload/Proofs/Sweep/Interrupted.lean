import Offload.Host.Backend
import Offload.Proofs.Sweep.Swept

/-!
# Interrupted sweeps

A writer that refuses an output ends a sweep. Compared with the same sweep with a writer that
refuses nothing, what happens is the first part of what happens there, up to and with the output
that was refused: nothing is called for after it, and the text that was accepted is the first part
of the text of that sweep (`Sweep.all_cut_or_whole`). A writer that refuses nothing that the sweep
gives to it makes no difference at all.
-/

namespace Offload.Sweep

open Course Writer

variable {B : Backend Id} {κ : Type}

variable [Clock Id κ]

/-- A sweep with a writer that may refuse outputs, compared with the same sweep with a writer that
    refuses nothing, by their traces, which have the calls and the outputs in the order in which
    they are made. Either the writer takes all that the sweep gives to it, and result, world, trace
    and text are the same. Or it refuses an output, and this is the failure that the sweep ends
    with; its trace is a first part of the other one and ends with this output, so that no device
    is benchmarked after it, and the text that was accepted is a first part of the text. -/
theorem all_cut_or_whole {ω ω' : Type} [Writer Id ω] [Writer Id ω'] {accepted : ω → List UInt8}
    {accepted' : ω' → List UInt8} (hordered : Ordered accepted) (hordered' : Ordered accepted')
    (config : Config) (world : World B κ) (writer : ω) (writer' : ω')
    (hunfailing : Unfailing writer') :
    let ended := all (B := B) config writer world
    let whole := all (B := B) config writer' world
    let happened := trace config writer world
    let happenedInWhole := trace config writer' world
    all (B := B.traced) config writer world.traced [] = ((ended.1, ended.2.traced), happened) ∧
      calls happened = Run.exchanges (all (B := B.recorded) config writer) world ∧
      calls happenedInWhole = Run.exchanges (all (B := B.recorded) config writer') world ∧
      Swept (fun _ _ => True) (· = (B.answer .platforms world.backend).answer) B.name config
        happenedInWhole whole.1.1 ∧
      accepted' whole.1.2 = accepted' writer' ++ textBytes (text happenedInWhole) ∧
      (giveAll (outputs happened) writer).2 = ended.1.2 ∧
      ((giveAll (outputs happened) writer).1 = .ok () →
        ended.1.1 = whole.1.1 ∧ ended.2 = whole.2 ∧ happened = happenedInWhole ∧
          accepted ended.1.2 = accepted writer ++ textBytes (text happenedInWhole)) ∧
      ∀ reason, (giveAll (outputs happened) writer).1 = .error reason →
        ended.1.1 = .error (.output reason) ∧
          (∃ given refused, happened = given ++ [.output refused] ∧
            (giveAll (outputs given) writer).1 = .ok ()) ∧
          happened <+: happenedInWhole ∧ calls happened <+: calls happenedInWhole ∧
          ∃ part, part <+: textBytes (text happenedInWhole) ∧
            accepted ended.1.2 = accepted writer ++ part := by
  intro ended whole happened happenedInWhole
  have hlist : Run.Ensures (Run.ask (B := B) .platforms : Run B κ _)
      (fun state => state = world.backend)
      fun answer _ => answer = (B.answer .platforms world.backend).answer ∧ True :=
    .ask fun state hstate => ⟨hstate ▸ rfl, trivial⟩
  have hrun (device : B.handles.Device) :
      Run.Ensures (Run.onDevice (B := B) (κ := κ) device config).run (fun _ => True)
        fun _ _ => True ∧ True := fun _ _ => ⟨trivial, trivial⟩
  obtain ⟨course, result, last, hswept, hconcludes⟩ :=
    exists_course (fun _ _ => True) hlist (fun _ => hrun) world rfl
  obtain ⟨htraced, hmade⟩ := all_traced config writer world
  refine ⟨htraced, hmade, (all_traced config writer' world).2, ?_⟩
  obtain ⟨hwhole, hwholeTrace⟩ : whole = ((result, (giveAll (outputs course) writer').2), last) ∧
      happenedInWhole = course := Prod.mk.inj ((hconcludes ω' writer').of_unfailing hunfailing)
  have hended : Concludes course result last [] writer (ended, happened) := hconcludes ω writer
  clear_value ended whole happened happenedInWhole
  subst hwhole hwholeTrace
  refine ⟨hswept, hordered'.giveAll_ok (hunfailing _), ?_⟩
  cases hended with
  | whole hgiven =>
    have haccepted := hordered.giveAll_ok (congrArg Prod.fst hgiven)
    rw [List.nil_append]
    rw [hgiven] at haccepted ⊢
    exact ⟨rfl, fun _ => ⟨rfl, rfl, rfl, haccepted⟩, by intro _ hreason; cases hreason⟩
  | @cut given rest refused middle after reason world' hcourse hgiven hrefused =>
    have hcut : giveAll (outputs (given ++ [.output refused])) writer = (.error reason, after) := by
      rw [outputs_append]
      exact giveAll_refused hgiven hrefused []
    have hrest : given ++ [.output refused] ++ rest = happenedInWhole := by
      rw [hcourse, List.append_assoc, List.singleton_append]
    obtain ⟨part, hpart, hprefix, -⟩ :=
      hordered.giveAll (outputs (given ++ [.output refused])) writer
    rw [List.nil_append]
    rw [hcut] at hpart ⊢
    refine ⟨rfl, (by intro hok; cases hok), fun _ hreason => ?_⟩
    refine ⟨congrArg _ (congrArg _ (Except.error.inj hreason)),
      ⟨given, refused, rfl, congrArg Prod.fst hgiven⟩, ⟨rest, hrest⟩, ?_, part, ?_, hpart⟩
    · rw [← hrest, calls_append (given ++ _)]
      exact List.prefix_append _ _
    · rw [← hrest, text_append, textBytes_append]
      exact hprefix.trans (List.prefix_append _ _)

/-- A sink with room for three lines refuses the lines that announce a run, of which it has taken
    the first, and the run itself is left out: nothing is called for but the platforms. -/
theorem all_cut_or_whole_of_full_sink :
    let clock := Readings.ofFunction fun n => UInt64.ofNat n
    let world : World (Host.backend Id Readings) Readings :=
      ⟨Host.State.initial clock [.reference], clock, []⟩
    let full : Sink := { lines := some 3 }
    let ended := all (B := Host.backend Id Readings) {} full world
    let happened := trace {} full world
    let happenedInWhole := trace {} ({} : Sink) world
    let lines : List Output :=
      [.text "--- Discovered OpenCL Platforms and Devices ---\n",
        .text "Platform 0: Host Reference Platform (Version: OpenCL 3.0 clbench-host)\n",
        .text ("  Device 0: Host Reference CPU (Type: CPU)\n" ++
          "--- Benchmarking Device: Host Reference CPU (Platform: Host Reference Platform) ---\n")]
    Ordered (fun sink : Sink => textBytes sink.text) ∧ Unfailing ({} : Sink) ∧
      ended.1.1 = .error (.output "sink full") ∧ happened <+: happenedInWhole ∧
      (∃ given refused, happened = given ++ [.output refused]) ∧
      outputs happened = lines ∧ (Run.exchanges
        (all (B := (Host.backend Id Readings).recorded) {} full) world).length = 1 := by
  intro clock world full ended happened happenedInWhole lines
  have hunfailing : Unfailing ({} : Sink) := Sink.unfailing rfl rfl
  refine ⟨Sink.ordered, hunfailing, ?_⟩
  obtain ⟨-, hmade, -, -, -, -, -, hfailed⟩ := all_cut_or_whole Sink.ordered Sink.ordered {} world
    full ({} : Sink) hunfailing
  have hgiven : outputs happened = lines ∧ (calls happened).length = 1 := by decide +kernel
  have hrefused : (giveAll (outputs happened) full).1 = .error "sink full" := by
    rw [hgiven.1]
    decide +kernel
  obtain ⟨hended, ⟨given, refused, hcut, -⟩, hprefix, -⟩ := hfailed _ hrefused
  have hsame : all (B := Host.backend Id Readings) {} full world = ended := rfl
  rw [hsame] at hended
  rw [hmade] at hgiven
  exact ⟨hended, hprefix, ⟨given, refused, hcut⟩, hgiven⟩

end Offload.Sweep
