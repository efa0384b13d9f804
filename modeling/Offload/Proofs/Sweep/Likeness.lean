import Offload.Proofs.Run.Likeness
import Offload.Sweep.Basic

/-!
# Likeness of sweeps

A sweep is runs on devices with a writer between them. Where the runs on two backends are alike
(`Run.Likeness`) and a writer does the same on both sides (`Run.Likeness.Writes`), the sweeps are
alike (`Run.Likeness.all`).
-/

namespace Offload

namespace Sweep

/-! ### The parts of a platform -/

variable {m : Type → Type} [Monad m] {B : Backend m} {κ ω : Type} [Writer m ω] [Clock m κ]
  (config : Config)

/-- Benchmarks what a platform has listed. -/
def listed (entry : PlatformEntry B.handles.Device) : Sweep B κ ω (List DeviceResult) :=
  match entry.devices with
  | .error status => do note (.deviceQueryFailed entry.name status); return []
  | .ok [] => do write Listing.noDevices; return []
  | .ok entries => devices config entry.name 0 entries

/-- Writes the line of a platform and benchmarks what it has listed. -/
def described (index : Nat) (entry : PlatformEntry B.handles.Device) :
    Sweep B κ ω (List DeviceResult) :=
  write (Listing.platform index entry.name entry.version) >>= fun _ => listed config entry

theorem platform_eq (index : Nat) (entry : PlatformEntry B.handles.Device) :
    (platform config index entry : Sweep B κ ω _) =
      if Listing.isSetOff config.separatorMarker index entry.name then
        write Listing.separator >>= fun _ => described config index entry
      else described config index entry := by
  obtain ⟨name, version, devices⟩ := entry
  rcases devices with status | _ | ⟨first, rest⟩ <;> rfl

end Sweep

namespace Run.Likeness

open Sweep

variable {B : Backend Id} {κ : Type} [Clock Id κ] {m : Type → Type} [Monad m] [Clock m κ]
  {State : Type} {answer : (request : Request B.handles) → State → m (Reply request State)}
  (L : Likeness B κ answer) {ω α β : Type}

/-- From any state of the writer one sweep is like the other one. -/
def Alike (sweep' : Sweep (B.answering answer) κ ω α) (sweep : Sweep B κ ω α) : Prop :=
  ∀ writer, L.Like (sweep' writer) (sweep writer)

/-- A writer does the same on both sides. -/
structure Writes (ω : Type) [Writer Id ω] [Writer m ω] : Prop where
  write : ∀ text, L.Alike (ω := ω) (Sweep.write text) (Sweep.write text)
  flush : L.Alike (ω := ω) Sweep.flush Sweep.flush

namespace Alike

variable {L}

theorem pure (a : α) : L.Alike (ω := ω) (Pure.pure a) (Pure.pure a) :=
  fun _ => L.pure _

theorem throw (failure : Failure) :
    L.Alike (ω := ω) (α := α) (MonadExcept.throw failure) (MonadExcept.throw failure) :=
  fun _ => L.pure _

theorem bind {sweep' : Sweep (B.answering answer) κ ω α} {sweep : Sweep B κ ω α}
    {next' : α → Sweep (B.answering answer) κ ω β} {next : α → Sweep B κ ω β}
    (h : L.Alike sweep' sweep) (hnext : ∀ a, L.Alike (next' a) (next a)) :
    L.Alike (sweep' >>= next') (sweep >>= next) := by
  intro writer
  -- binding sweeps is binding runs, with the writer and the failure passed on
  change L.Like (sweep' writer >>= fun ended => (ExceptT.bindCont next' ended.1) ended.2)
    (sweep writer >>= fun ended => (ExceptT.bindCont next ended.1) ended.2)
  refine L.bind (h writer) fun ⟨result, writer⟩ => ?_
  cases result with
  | error failure => exact L.pure _
  | ok a => exact hnext a writer

theorem perform {run' : Run (B.answering answer) κ α} {run : Run B κ α} (h : L.Like run' run) :
    L.Alike (ω := ω) (Sweep.perform run') (Sweep.perform run) := by
  intro writer
  change L.Like ((run' >>= fun a => Pure.pure (a, writer)) >>= fun ended =>
      Pure.pure (Except.ok ended.1, ended.2))
    ((run >>= fun a => Pure.pure (a, writer)) >>= fun ended =>
      Pure.pure (Except.ok ended.1, ended.2))
  exact L.bind (L.bind h fun _ => L.pure _) fun _ => L.pure _

theorem note (notice : Notice) :
    L.Alike (ω := ω) (Sweep.note notice) (Sweep.note notice) :=
  perform (L.note notice)

end Alike

/-! ### Sweeps -/

variable [Writer Id ω] [Writer m ω] (hwrites : L.Writes ω) (config : Config)

include hwrites

theorem device (platform : String) (index : Nat) (entry : DeviceEntry B.handles.Device) :
    L.Alike (ω := ω) (Sweep.device (B := B.answering answer) config platform index entry)
      (Sweep.device (B := B) config platform index entry) := by
  refine (hwrites.write _).bind fun _ => hwrites.flush.bind fun _ =>
    (Alike.perform (L.onDevice entry.handle config)).bind fun result => ?_
  cases result with
  | ok report => exact (hwrites.write _).bind fun _ => (Alike.note _).bind fun _ => .pure _
  | error failure => exact (Alike.note _).bind fun _ => .pure _

theorem devices (platform : String) (index : Nat) (entries : List (DeviceEntry B.handles.Device)) :
    L.Alike (ω := ω) (Sweep.devices (B := B.answering answer) config platform index entries)
      (Sweep.devices (B := B) config platform index entries) := by
  induction entries generalizing index with
  | nil => exact .pure _
  | cons entry entries ih =>
    exact (L.device hwrites config platform index entry).bind fun _ =>
      (ih (index + 1)).bind fun _ => .pure _

theorem platform (index : Nat) (entry : PlatformEntry B.handles.Device) :
    L.Alike (ω := ω) (Sweep.platform (B := B.answering answer) config index entry)
      (Sweep.platform (B := B) config index entry) := by
  have hlisted : L.Alike (ω := ω) (listed (B := B.answering answer) config entry)
      (listed (B := B) config entry) := by
    unfold listed
    rcases entry.devices with status | _ | ⟨first, rest⟩
    · exact (Alike.note _).bind fun _ => .pure _
    · exact (hwrites.write _).bind fun _ => .pure _
    · exact L.devices hwrites config entry.name 0 (first :: rest)
  have hdescribed : L.Alike (ω := ω) (described (B := B.answering answer) config index entry)
      (described (B := B) config index entry) :=
    (hwrites.write _).bind fun _ => hlisted
  have hanswering := platform_eq (B := B.answering answer) (κ := κ) (ω := ω) config index entry
  rw [hanswering, platform_eq config index entry]
  split
  · exact (hwrites.write _).bind fun _ => hdescribed
  · exact hdescribed

theorem platforms (index : Nat) (entries : List (PlatformEntry B.handles.Device)) :
    L.Alike (ω := ω) (Sweep.platforms (B := B.answering answer) config index entries)
      (Sweep.platforms (B := B) config index entries) := by
  induction entries generalizing index with
  | nil => exact .pure _
  | cons entry entries ih =>
    exact (L.platform hwrites config index entry).bind fun _ =>
      (ih (index + 1)).bind fun _ => .pure _

omit [Writer Id ω] [Writer m ω] hwrites in
theorem list :
    L.Alike (ω := ω) (Sweep.list (B := B.answering answer)) (Sweep.list (B := B)) := by
  refine (Alike.perform (L.ask .platforms)).bind fun answer => ?_
  rcases answer with status | _ | ⟨first, rest⟩
  · exact .throw _
  · exact .throw _
  · exact .pure _

/-- A sweep of one backend is like the same sweep of the other. -/
theorem all :
    L.Alike (ω := ω) (Sweep.all (B := B.answering answer) config) (Sweep.all (B := B) config) := by
  have hvalidate : L.Alike (ω := ω) (ExceptT.mk (Pure.pure config.validate))
      (ExceptT.mk (Pure.pure config.validate)) := fun _ => L.pure _
  exact hvalidate.bind fun _ => L.list.bind fun entries => (Alike.note _).bind fun _ =>
    (hwrites.write _).bind fun _ => (L.platforms hwrites config 0 entries).bind fun _ =>
    (Alike.note _).bind fun _ => .pure _

end Run.Likeness

end Offload
