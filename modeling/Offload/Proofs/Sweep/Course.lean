import Offload.Proofs.Run.Recorded
import Offload.Proofs.Sweep.Trace

/-!
# The course of a sweep

Which calls a sweep makes and which outputs it gives to its writer, and in which order, does not
depend on the writer: the *course* of a sweep is what happens as long as the writer refuses nothing,
and a writer that refuses an output only cuts it short. This is `Sweep.Concludes`, of a traced sweep
with one writer. `Sweep.Takes` says it for all writers at once, with a property of the course, and
`Sweep.Yields` of a sweep that only its writer can end. There is one rule for each way in which
sweeps are put together.
-/

namespace Offload.Sweep

open Course Writer

variable {B : Backend Id} {κ : Type} {α β : Type}

/-! ### Courses and writers -/

/-- How a traced sweep ends with a writer, and what it adds to its course, where course, result and
    last world are these for a writer that refuses nothing: it goes through all of the course, or
    the writer refuses an output, which is the failure, and nothing follows. -/
inductive Concludes {ω W : Type} [Writer Id ω] (course : Course B.handles)
    (result : Except Failure α) (last : W) (past : Course B.handles) (writer : ω) :
    ((Except Failure α × ω) × W) × Course B.handles → Prop
  | whole {after : ω} : giveAll (outputs course) writer = (.ok (), after) →
      Concludes course result last past writer (((result, after), last), past ++ course)
  | cut (happened rest : Course B.handles) {refused : Output} {middle after : ω} {reason : String}
      {world : W} : course = happened ++ .output refused :: rest →
      giveAll (outputs happened) writer = (.ok (), middle) →
      give refused middle = (.error reason, after) →
      Concludes course result last past writer
        (((.error (.output reason), after), world), past ++ (happened ++ [.output refused]))

namespace Concludes

variable {ω W : Type} [Writer Id ω] {course new past : Course B.handles}
  {result : Except Failure α} {last : W} {writer : ω}
  {ended : ((Except Failure α × ω) × W) × Course B.handles}

theorem nothing : Concludes [] result last past writer (((result, writer), last), past) := by
  have h : Concludes [] result last past writer (((result, writer), last), past ++ []) := .whole rfl
  rwa [List.append_nil] at h

/-- What a writer has refused it refuses also if more was to follow, whatever that was. -/
theorem cut_append {refused : Output} {happened rest : Course B.handles} {middle after : ω}
    {reason : String} {world : W} (result : Except Failure β) (last : W)
    (hcourse : course = happened ++ .output refused :: rest)
    (hgiven : giveAll (outputs happened) writer = (.ok (), middle))
    (hrefused : give refused middle = (.error reason, after)) (new : Course B.handles) :
    Concludes (course ++ new) result last past writer
      (((.error (.output reason), after), world), past ++ (happened ++ [.output refused])) :=
  .cut happened (rest ++ new) (by rw [hcourse, List.append_assoc, List.cons_append]) hgiven hrefused

/-- After a course that its writer has taken another one follows. -/
theorem append {middle : ω} (hgiven : giveAll (outputs course) writer = (.ok (), middle))
    (h : Concludes new result last (past ++ course) middle ended) :
    Concludes (course ++ new) result last past writer ended := by
  have hgive (outputs : List Output) :
      giveAll (Course.outputs course ++ outputs) writer = giveAll outputs middle := by
    rw [giveAll_append, hgiven]
  cases h with
  | whole hnew =>
    rw [List.append_assoc]
    exact .whole (by rw [outputs_append, hgive, hnew])
  | @cut happened rest refused between after reason world hnew hbefore hrefused =>
    rw [List.append_assoc, ← List.append_assoc course]
    refine .cut (course ++ happened) rest (by rw [hnew, List.append_assoc]) ?_ hrefused
    rw [outputs_append, hgive, hbefore]

/-- The world of a sweep may be seen in another way. -/
theorem map {W' : Type} (f : W → W')
    (h : Concludes course result last past writer ended) :
    Concludes course result (f last) past writer ((ended.1.1, f ended.1.2), ended.2) := by
  cases h with
  | whole hgiven => exact .whole hgiven
  | cut happened rest hcourse hgiven hrefused => exact .cut happened rest hcourse hgiven hrefused

/-- A writer that refuses nothing goes through all of a course. -/
theorem of_unfailing (h : Concludes course result last past writer ended)
    (hunfailing : Unfailing writer) :
    ended = (((result, (giveAll (outputs course) writer).2), last), past ++ course) := by
  cases h with
  | whole hgiven => rw [hgiven]
  | @cut happened rest refused middle after reason world hcourse hgiven hrefused =>
    have hall := hunfailing (outputs happened ++ [refused])
    rw [giveAll_refused hgiven hrefused] at hall
    exact nomatch hall

end Concludes

/-! ### Sweeps for all writers -/

/-- From every state of the backend with the first property a sweep takes a course and comes to a
    result and a state that have the second one, whatever its writer is. -/
def Takes (sweep : ∀ (ω : Type) [Writer Id ω], Sweep B.traced κ ω α) (before : B.State → Prop)
    (after : Course B.handles → Except Failure α → B.State → Prop) : Prop :=
  ∀ world, before world.backend → ∃ course result last, after course result last.backend ∧
    ∀ (ω : Type) [Writer Id ω] (writer : ω) (past : Course B.handles),
      Concludes course result last past writer (sweep ω writer world past)

namespace Takes

variable {before : B.State → Prop}

theorem mono {sweep : ∀ (ω : Type) [Writer Id ω], Sweep B.traced κ ω α}
    {after after' : Course B.handles → Except Failure α → B.State → Prop}
    (h : Takes sweep before after)
    (hafter : ∀ course result state, after course result state → after' course result state) :
    Takes sweep before after' := by
  intro world hworld
  obtain ⟨course, result, last, hlast, hconcludes⟩ := h world hworld
  exact ⟨course, result, last, hafter _ _ _ hlast, hconcludes⟩

/-- What does not concern the backend may be assumed. -/
theorem given (kept : B.State → Prop)
    {sweep : ∀ (ω : Type) [Writer Id ω], Sweep B.traced κ ω α}
    {after : Course B.handles → Except Failure α → B.State → Prop}
    (h : ∀ state, before state → kept state ∧ Takes sweep kept after) :
    Takes sweep before after :=
  fun world hworld => (h _ hworld).2 world (h _ hworld).1

/-- Nothing happens. -/
theorem ended {result : Except Failure α}
    {after : Course B.handles → Except Failure α → B.State → Prop}
    (h : ∀ state, before state → after [] result state) :
    Takes (B := B) (κ := κ) (fun _ _ => ExceptT.mk (Pure.pure result)) before after := by
  refine fun world hworld => ⟨[], result, world, h _ hworld, fun ω _ writer past => ?_⟩
  change Concludes [] _ _ past writer (((result, writer), world), past)
  exact .nothing

theorem bind {first : ∀ (ω : Type) [Writer Id ω], Sweep B.traced κ ω α}
    {next : α → ∀ (ω : Type) [Writer Id ω], Sweep B.traced κ ω β}
    {middle : Course B.handles → Except Failure α → B.State → Prop}
    {after : Course B.handles → Except Failure β → B.State → Prop} (h : Takes first before middle)
    (herror : ∀ course failure state, middle course (.error failure) state →
      after course (.error failure) state)
    (hnext : ∀ course a, Takes (next a) (middle course (.ok a))
      fun new result state => after (course ++ new) result state) :
    Takes (fun ω _ => first ω >>= fun a => next a ω) before after := by
  intro world hworld
  obtain ⟨course, result, between, hbetween, hconcludes⟩ := h world hworld
  -- a sweep that has ended with a failure ends all that was to follow
  have hbind (ω : Type) [Writer Id ω] (writer : ω) (past : Course B.handles) :
      (fun (ω : Type) [Writer Id ω] => first ω >>= fun a => next a ω) ω writer world past =
        ExceptT.bindCont (fun a => next a ω) (first ω writer world past).1.1.1
          (first ω writer world past).1.1.2 (first ω writer world past).1.2
          (first ω writer world past).2 := rfl
  cases result with
  | error failure =>
    refine ⟨course, .error failure, between, herror _ _ _ hbetween, fun ω _ writer past => ?_⟩
    have hfirst := hconcludes ω writer past
    rw [hbind]
    generalize first ω writer world past = ended at hfirst
    cases hfirst with
    | whole hgiven => exact .whole hgiven
    | cut happened rest hcourse hgiven hrefused => exact .cut happened rest hcourse hgiven hrefused
  | ok a =>
    obtain ⟨new, result, last, hlast, hnewConcludes⟩ := hnext course a between hbetween
    refine ⟨course ++ new, result, last, hlast, fun ω _ writer past => ?_⟩
    have hfirst := hconcludes ω writer past
    rw [hbind]
    generalize first ω writer world past = ended at hfirst
    cases hfirst with
    | whole hgiven => exact .append hgiven (hnewConcludes ω _ _)
    | cut happened rest hcourse hgiven hrefused =>
      exact .cut_append result last hcourse hgiven hrefused new

/-- A run calls, and the sweep goes on with its answer. -/
theorem perform {traced : Run B.traced κ α} {recorded : Run B.recorded κ α} {run : Run B κ α}
    {spec : List (Exchange B.handles) → α → Prop} {after : α → B.State → Prop}
    (htraces : Run.Traces Moment.IsCall traced recorded) (htracks : Run.Tracks recorded run)
    (hemits : Run.Emits recorded spec) (hensures : Run.Ensures run before after) :
    Takes (fun _ _ => Sweep.perform traced) before fun course result state =>
      ∃ made a, course = ofCalls made ∧ result = .ok a ∧ spec made a ∧ after a state := by
  intro world hworld
  let recording : World B.recorded κ := World.recording ⟨world.backend, world.clock, world.log⟩
  obtain ⟨happened, hcalls, hrecord, htraced⟩ := htraces recording
  obtain ⟨made, hmade, hspec⟩ := hemits _ recording rfl
  obtain ⟨hanswer, hlast⟩ := htracks recording
  obtain rfl : calls happened = made := List.append_cancel_left (hrecord.symm.trans hmade)
  refine ⟨happened, .ok (recorded recording).1, (recorded recording).2.forget.traced,
    ⟨calls happened, _, eq_ofCalls hcalls, rfl, hspec, ?_⟩, fun ω _ writer past => ?_⟩
  · rw [hanswer, hlast]
    exact hensures recording.forget hworld
  · change Concludes happened _ _ past writer
      (((.ok (traced world past).1.1, writer), (traced world past).1.2), (traced world past).2)
    have hworld : traced world past = (((recorded recording).1,
        (recorded recording).2.forget.traced), past ++ happened) := htraced past
    rw [hworld]
    exact .whole (by rw [eq_ofCalls hcalls, outputs_ofCalls]; rfl)

end Takes

/-- A sweep that nothing but its writer can end keeps a property of the backend and comes to
    something that fits its course. -/
def Yields (sweep : ∀ (ω : Type) [Writer Id ω], Sweep B.traced κ ω α) (kept : B.State → Prop)
    (fits : Course B.handles → α → Prop) : Prop :=
  Takes sweep kept fun course result state => ∃ a, result = .ok a ∧ fits course a ∧ kept state

namespace Yields

variable {kept : B.State → Prop}

theorem takes {sweep : ∀ (ω : Type) [Writer Id ω], Sweep B.traced κ ω α}
    (fits : Course B.handles → α → Prop)
    {after : Course B.handles → Except Failure α → B.State → Prop} (h : Yields sweep kept fits)
    (hafter : ∀ course a state, fits course a → kept state → after course (.ok a) state) :
    Takes sweep kept after :=
  h.mono fun _ _ _ ⟨_, hresult, ha, hkept⟩ => hresult ▸ hafter _ _ _ ha hkept

theorem pure {a : α} {fits : Course B.handles → α → Prop} (h : fits [] a) :
    Yields (B := B) (κ := κ) (fun _ _ => Pure.pure a) kept fits :=
  .ended fun _ hkept => ⟨a, rfl, h, hkept⟩

theorem mono {sweep : ∀ (ω : Type) [Writer Id ω], Sweep B.traced κ ω α}
    {fits fits' : Course B.handles → α → Prop} (h : Yields sweep kept fits)
    (hfits : ∀ course a, fits course a → fits' course a) : Yields sweep kept fits' :=
  Takes.mono h fun _ _ _ ⟨a, hresult, ha, hkept⟩ => ⟨a, hresult, hfits _ _ ha, hkept⟩

theorem congr {sweep sweep' : ∀ (ω : Type) [Writer Id ω], Sweep B.traced κ ω α}
    {fits : Course B.handles → α → Prop} (hsame : ∀ (ω : Type) [Writer Id ω], sweep ω = sweep' ω)
    (h : Yields sweep' kept fits) : Yields sweep kept fits := by
  have hsweep : sweep = sweep' := funext fun ω => funext fun _ => hsame ω
  exact hsweep ▸ h

theorem bind {first : ∀ (ω : Type) [Writer Id ω], Sweep B.traced κ ω α}
    {next : α → ∀ (ω : Type) [Writer Id ω], Sweep B.traced κ ω β}
    {fits : Course B.handles → α → Prop} {last : Course B.handles → β → Prop}
    (h : Yields first kept fits)
    (hnext : ∀ course a, fits course a →
      Yields (next a) kept fun new b => last (course ++ new) b) :
    Yields (fun ω _ => first ω >>= fun a => next a ω) kept last := by
  refine Takes.bind h (fun _ _ _ ⟨_, herror, _⟩ => nomatch herror) ?_
  refine fun course a => .given kept fun state => ?_
  rintro ⟨_, ⟨⟩, ha, hkept⟩
  exact ⟨hkept, hnext course a ha⟩

/-- What follows a step that always happens the same way. -/
theorem andThen {step : ∀ (ω : Type) [Writer Id ω], Sweep B.traced κ ω Unit}
    {next : ∀ (ω : Type) [Writer Id ω], Sweep B.traced κ ω α} {happened : Course B.handles}
    {last : Course B.handles → α → Prop} (h : Yields step kept fun course _ => course = happened)
    (hnext : Yields next kept fun new a => last (happened ++ new) a) :
    Yields (fun ω _ => step ω >>= fun _ => next ω) kept last := by
  refine h.bind ?_
  rintro _ _ rfl
  exact hnext

/-- A run calls, and the sweep goes on with its answer. -/
theorem perform {traced : Run B.traced κ α} {recorded : Run B.recorded κ α} {run : Run B κ α}
    {spec : List (Exchange B.handles) → α → Prop} {holds : α → Prop}
    (htraces : Run.Traces Moment.IsCall traced recorded) (htracks : Run.Tracks recorded run)
    (hemits : Run.Emits recorded spec)
    (hensures : Run.Ensures run kept fun a state => holds a ∧ kept state) :
    Yields (fun _ _ => Sweep.perform traced) kept fun course a =>
      ∃ made, course = ofCalls made ∧ spec made a ∧ holds a := by
  refine (Takes.perform htraces htracks hemits hensures).mono ?_
  rintro _ _ state ⟨made, a, rfl, rfl, hspec, hholds, hkept⟩
  exact ⟨a, rfl, ⟨made, rfl, hspec, hholds⟩, hkept⟩

/-- A notice goes to the log only. -/
theorem note (notice : Notice) :
    Yields (B := B) (κ := κ) (fun _ _ => Sweep.note notice) kept fun course _ => course = [] := by
  refine fun world hworld => ⟨[], .ok (), { world with log := world.log ++ [notice] },
    ⟨(), rfl, rfl, hworld⟩, fun ω _ writer past => ?_⟩
  change Concludes [] _ _ past writer (((.ok (), writer), _), past)
  exact .nothing

/-- A writer is given an output. -/
theorem output (given : Output) :
    Yields (B := B) (κ := κ)
      (fun _ _ => Sweep.output fun writer past => (give given writer, past ++ [.output given])) kept
      fun course _ => course = [.output given] := by
  refine fun world hworld => ⟨[.output given], .ok (), world, ⟨(), rfl, rfl, hworld⟩,
    fun ω _ writer past => ?_⟩
  change Concludes _ _ world past writer
    ((((give given writer).1.mapError .output, (give given writer).2), world),
      past ++ [.output given])
  rcases hgive : give given writer with ⟨reason | _, last⟩
  · exact .cut [] [] rfl rfl hgive
  · refine .whole ?_
    rw [outputs_cons_output, giveAll, hgive]
    rfl

theorem write (text : String) :
    Yields (B := B) (κ := κ) (fun _ _ => Sweep.write text) kept
      fun course _ => course = [.output (.text text)] :=
  output (.text text)

theorem flush :
    Yields (B := B) (κ := κ) (fun _ _ => Sweep.flush) kept
      fun course _ => course = [.output .flush] :=
  output .flush

end Yields

end Offload.Sweep
