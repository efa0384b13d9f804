import Offload.Proofs.Recording
import Offload.Proofs.Sweep.Likeness
import Offload.Proofs.Sweep.Outputs

/-!
# Traces of sweeps

A sweep calls its backend and gives outputs to its writer. In which order it does so can be seen
when it is run in a monad that keeps a course of all this (`Tracing`): the backend adds each request
with its answer to it (`Backend.traced`), and a writer each output that it is given, also the one
that it refuses. The course of a whole sweep is its trace (`Sweep.trace`). Nothing else changes: a
traced sweep has the same result and the same world, and its trace has the calls that are on record
when it is recorded (`Sweep.all_traced`).
-/

namespace Offload

/-- What happens in a sweep. -/
inductive Moment (H : Handles) where
  /-- The backend answers a request. -/
  | call (exchange : Exchange H)
  /-- The writer is given something. -/
  | output (output : Output)

/-- The backend is called. -/
def Moment.IsCall {H : Handles} : Moment H → Prop
  | call _ => True
  | output _ => False

/-- What happens in a sweep, in order. -/
abbrev Course (H : Handles) := List (Moment H)

namespace Course

variable {H : Handles}

/-- The calls of a course. -/
def calls (course : Course H) : List (Exchange H) :=
  course.filterMap fun
    | .call exchange => some exchange
    | .output _ => none

/-- The outputs of a course. -/
def outputs (course : Course H) : List Output :=
  course.filterMap fun
    | .call _ => none
    | .output output => some output

/-- The text of a course. -/
def text (course : Course H) : String := Output.textOf (outputs course)

/-- A course that only calls. -/
def ofCalls (made : List (Exchange H)) : Course H := made.map .call

@[simp]
theorem outputs_cons_output (output : Output) (course : Course H) :
    outputs (.output output :: course) = output :: outputs course := rfl

@[simp]
theorem calls_append (course course' : Course H) :
    calls (course ++ course') = calls course ++ calls course' :=
  List.filterMap_append

@[simp]
theorem outputs_append (course course' : Course H) :
    outputs (course ++ course') = outputs course ++ outputs course' :=
  List.filterMap_append

@[simp]
theorem outputs_ofCalls (made : List (Exchange H)) : outputs (ofCalls made) = [] := by
  induction made with
  | nil => rfl
  | cons exchange made ih => exact ih

@[simp]
theorem text_nil : text ([] : Course H) = "" := rfl

@[simp]
theorem text_ofCalls (made : List (Exchange H)) : text (ofCalls made) = "" := by
  rw [text, outputs_ofCalls, Output.textOf_nil]

@[simp]
theorem text_append (course course' : Course H) :
    text (course ++ course') = text course ++ text course' := by
  simp [text]

@[simp]
theorem text_cons_output (output : Output) (course : Course H) :
    text (.output output :: course) = output.toText ++ text course := by
  simp [text]

/-- Where nothing is given to a writer there are only calls. -/
theorem eq_ofCalls {course : Course H} (h : ∀ moment ∈ course, moment.IsCall) :
    course = ofCalls (calls course) := by
  induction course with
  | nil => rfl
  | cons moment course ih =>
    obtain ⟨hmoment, hcourse⟩ := List.forall_mem_cons.1 h
    cases moment with
    | call exchange => exact congrArg (Moment.call exchange :: ·) (ih hcourse)
    | output output => exact hmoment.elim

end Course

/-! ### Tracing -/

/-- A computation that adds to a course. -/
abbrev Tracing (H : Handles) := StateM (Course H)

namespace Tracing

variable {H : Handles}

instance {κ : Type} [Clock Id κ] : Clock (Tracing H) κ where
  read clock course := (Clock.read (m := Id) clock, course)

/-- A writer adds what it is given. -/
instance {ω : Type} [Writer Id ω] : Writer (Tracing H) ω where
  write text writer course :=
    (Writer.write (m := Id) text writer, course ++ [.output (.text text)])
  flush writer course := (Writer.flush (m := Id) writer, course ++ [.output .flush])

end Tracing

/-- A backend that adds what it is asked and what it answers. -/
def Backend.traced (B : Backend Id) : Backend (Tracing B.handles) where
  handles := B.handles
  State := B.State
  name := B.name
  answer request state course :=
    (B.answer request state, course ++ [.call ⟨request, (B.answer request state).answer⟩])

/-- A world of the traced backend. -/
def World.traced {B : Backend Id} {κ : Type} (world : World B κ) : World B.traced κ :=
  ⟨world.backend, world.clock, world.log⟩

/-- A world of the backend itself. -/
def World.untraced {B : Backend Id} {κ : Type} (world : World B.traced κ) : World B κ :=
  ⟨world.backend, world.clock, world.log⟩

open Course

variable {B : Backend Id} {κ ω : Type} {α β : Type}

namespace Run

/-- A traced run does what the recorded one does, and adds moments of some kind with the calls that
    this one records. -/
def Traces (kind : Moment B.handles → Prop) (traced : Run B.traced κ α)
    (recorded : Run B.recorded κ α) : Prop :=
  ∀ world, ∃ happened : Course B.handles, (∀ moment ∈ happened, kind moment) ∧
    (recorded world).2.backend.2 = world.backend.2 ++ calls happened ∧
    ∀ past, traced world.forget.traced past =
      (((recorded world).1, (recorded world).2.forget.traced), past ++ happened)

namespace Traces

variable {kind : Moment B.handles → Prop}

theorem pure (a : α) : Traces (B := B) (κ := κ) kind (Pure.pure a) (Pure.pure a) := fun _ =>
  ⟨[], List.forall_mem_nil _, (List.append_nil _).symm,
    fun past => congrArg (Prod.mk _) (List.append_nil past).symm⟩

theorem bind {traced : Run B.traced κ α} {recorded : Run B.recorded κ α}
    {tracedNext : α → Run B.traced κ β} {recordedNext : α → Run B.recorded κ β}
    (h : Traces kind traced recorded) (hnext : ∀ a, Traces kind (tracedNext a) (recordedNext a)) :
    Traces kind (traced >>= tracedNext) (recorded >>= recordedNext) := by
  intro world
  obtain ⟨first, hfirst, hmade, htraced⟩ := h world
  obtain ⟨rest, hrest, hmadeNext, htracedNext⟩ := hnext (recorded world).1 (recorded world).2
  refine ⟨first ++ rest, List.forall_mem_append.2 ⟨hfirst, hrest⟩, ?_, fun past => ?_⟩
  · rw [calls_append, ← List.append_assoc, ← hmade]
    exact hmadeNext
  · rw [← List.append_assoc]
    change tracedNext (traced world.forget.traced past).1.1 (traced world.forget.traced past).1.2
      (traced world.forget.traced past).2 = _
    rw [htraced]
    exact htracedNext _

/-- Traced runs are like recorded ones, where calls are of the kind in question. -/
def likeness [Clock Id κ] (kind : Moment B.handles → Prop)
    (hcalls : ∀ exchange, kind (.call exchange)) : Likeness B.recorded κ B.traced.answer where
  Like := Traces kind
  pure := Traces.pure
  bind := Traces.bind
  ask request world :=
    ⟨[.call ⟨request, (B.answer request world.backend.1).answer⟩],
      List.forall_mem_singleton.2 (hcalls _), rfl, fun _ => rfl⟩
  note _ _ := ⟨[], List.forall_mem_nil _, (List.append_nil _).symm,
    fun past => congrArg (Prod.mk _) (List.append_nil past).symm⟩
  now _ := ⟨[], List.forall_mem_nil _, (List.append_nil _).symm,
    fun past => congrArg (Prod.mk _) (List.append_nil past).symm⟩

end Traces

end Run

namespace Sweep

variable [Clock Id κ] [Writer Id ω] (config : Config)

/-- What happens in a sweep, in order. -/
def trace (writer : ω) (world : World B κ) : Course B.handles :=
  (all (B := B.traced) config writer world.traced []).2

/-- A recorded sweep does what the sweep itself does. -/
theorem all_recorded (writer : ω) :
    Run.Tracks (all (B := B.recorded) (κ := κ) config writer) (all (B := B) config writer) := by
  have hwrites : (Run.Tracks.likeness (B := B) (κ := κ)).Writes ω :=
    ⟨fun _ _ _ => ⟨rfl, rfl⟩, fun _ _ => ⟨rfl, rfl⟩⟩
  exact Run.Tracks.likeness.all hwrites config writer

/-- A sweep does the same whether it is traced or not, and its trace has the calls that it makes. -/
theorem all_traced (writer : ω) (world : World B κ) :
    all (B := B.traced) config writer world.traced [] =
        (((all (B := B) config writer world).1, (all (B := B) config writer world).2.traced),
          trace config writer world) ∧
      calls (trace config writer world) =
        Run.exchanges (all (B := B.recorded) config writer) world := by
  -- outputs are moments as well as calls
  let likeness := Run.Traces.likeness (B := B) (κ := κ) (fun _ => True) fun _ => trivial
  have hwrites : likeness.Writes ω :=
    ⟨fun text _ _ => ⟨[.output (.text text)], fun _ _ => trivial, (List.append_nil _).symm,
      fun _ => rfl⟩,
    fun _ _ => ⟨[.output .flush], fun _ _ => trivial, (List.append_nil _).symm, fun _ => rfl⟩⟩
  obtain ⟨happened, -, hmade, htraced⟩ := likeness.all hwrites config writer world.recording
  obtain ⟨hanswer, hworld⟩ := all_recorded config writer world.recording
  have htrace : trace config writer world = happened :=
    (congrArg Prod.snd (htraced [])).trans (List.nil_append _)
  rw [htrace]
  refine ⟨(htraced []).trans ?_, (hmade.trans (List.nil_append _)).symm⟩
  exact Prod.ext (Prod.ext hanswer (congrArg World.traced hworld)) (List.nil_append _)

end Sweep

end Offload
