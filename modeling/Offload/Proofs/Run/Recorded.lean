import Offload.Proofs.Recording
import Offload.Proofs.Run.Ensures

/-!
# Recorded runs

A run does the same whether it is recorded or not, so what its record shows is what it has asked the
backend. `Run.Emits run spec` says what exchanges a run adds to the record, by the answer with which
it ends. Like `Run.Ensures`, from which it comes, it has one rule for each way in which runs are put
together.
-/

namespace Offload.Run

variable {B : Backend Id} {κ : Type} {α β : Type}

/-- A run adds exchanges to the record that fit the answer with which it ends. -/
def Emits (run : Run B.recorded κ α) (spec : List (Exchange B.handles) → α → Prop) : Prop :=
  ∀ old, Ensures run (fun state => state.2 = old) fun a state =>
    ∃ made, state.2 = old ++ made ∧ spec made a

namespace Emits

variable {spec : List (Exchange B.handles) → α → Prop} {run : Run B.recorded κ α}

theorem mono {spec' : List (Exchange B.handles) → α → Prop} (h : Emits run spec)
    (hspec : ∀ made a, spec made a → spec' made a) : Emits run spec' := fun old =>
  (h old).mono (fun _ hold => hold) fun a _ ⟨made, hstate, hmade⟩ =>
    ⟨made, hstate, hspec made a hmade⟩

theorem pure {a : α} (h : spec [] a) : Emits (Pure.pure a : Run B.recorded κ α) spec := fun _ =>
  .pure fun _ hold => ⟨[], hold ▸ (List.append_nil _).symm, h⟩

theorem bind {next : α → Run B.recorded κ β} {last : List (Exchange B.handles) → β → Prop}
    (h : Emits run spec)
    (hnext : ∀ made a, spec made a → Emits (next a) fun new b => last (made ++ new) b) :
    Emits (run >>= next) last := by
  refine fun old => (h old).bind fun a => ?_
  rintro world ⟨made, hold, hmade⟩
  obtain ⟨new, hstate, hlast⟩ := hnext made a hmade (old ++ made) world hold
  exact ⟨made ++ new, hstate.trans (List.append_assoc _ _ _), hlast⟩

/-- A question adds itself and its answer. -/
theorem ask {request : Request B.handles}
    {spec : List (Exchange B.handles) → request.Answer → Prop}
    (h : ∀ answer, spec [⟨request, answer⟩] answer) :
    Emits (Run.ask (B := B.recorded) request : Run _ κ _) spec := fun _ =>
  .ask fun state hold => ⟨[⟨request, (B.answer request state.1).answer⟩],
    congrArg (· ++ [_]) hold, h _⟩

theorem ask_bind {request : Request B.handles} {next : request.Answer → Run B.recorded κ β}
    {last : List (Exchange B.handles) → β → Prop}
    (h : ∀ answer, Emits (next answer) fun new b => last (⟨request, answer⟩ :: new) b) :
    Emits (Run.ask (B := B.recorded) request >>= next) last := by
  have hask : Emits (Run.ask (B := B.recorded) request : Run _ κ _)
      fun made answer => made = [⟨request, answer⟩] := .ask fun _ => rfl
  refine hask.bind ?_
  rintro _ answer rfl
  exact h answer

/-- Notices are not recorded. -/
theorem note_bind {notice : Notice} {next : Unit → Run B.recorded κ β}
    {last : List (Exchange B.handles) → β → Prop} (h : Emits (next ()) last) :
    Emits (Run.note notice >>= next) last :=
  fun old => Ensures.note.bind fun _ => h old

/-- The clock of the host is not recorded. -/
theorem now_bind [Clock Id κ] {next : UInt64 → Run B.recorded κ β}
    {last : List (Exchange B.handles) → β → Prop} (h : ∀ reading, Emits (next reading) last) :
    Emits (Run.now >>= next) last :=
  fun old => Ensures.now.bind fun reading => h reading old

/-- What follows an attempt follows only its success. -/
theorem andThen {attempt : Attempt B.recorded κ α} {next : α → Attempt B.recorded κ β}
    {spec : List (Exchange B.handles) → Except Failure α → Prop}
    {last : List (Exchange B.handles) → Except Failure β → Prop} (h : Emits attempt.run spec)
    (herror : ∀ made failure, spec made (.error failure) → last made (.error failure))
    (hnext : ∀ made a, spec made (.ok a) →
      Emits (next a).run fun new result => last (made ++ new) result) :
    Emits (attempt >>= next).run last := by
  change Emits (attempt.run >>= ExceptT.bindCont fun a => (next a).run) last
  refine Emits.bind h fun made result hmade => ?_
  cases result with
  | error failure =>
    refine Emits.pure ?_
    rw [List.append_nil]
    exact herror made failure hmade
  | ok a => exact hnext made a hmade

/-- What cannot fail on the way just goes on. -/
theorem always_andThen {next : α → Attempt B.recorded κ β}
    {last : List (Exchange B.handles) → Except Failure β → Prop}
    (h : Emits (run >>= fun a => (next a).run) last) : Emits (Run.always run >>= next).run last :=
  h

/-- The exchanges of a run from its start on. -/
theorem exchanges (h : Emits run spec) (world : World B κ) :
    spec (Run.exchanges run world) (run world.recording).1 := by
  obtain ⟨made, hstate, hmade⟩ := h [] world.recording rfl
  rwa [Run.exchanges, hstate]

end Emits

end Offload.Run
