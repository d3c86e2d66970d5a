import RoccCodec.Proofs.Device.Run

namespace RoccCodec

/-!
# The worker of a device

The worker takes at most three steps for a job: it runs it, counts it and
stores its value.  `Device.pending` bounds the steps that are left, every step
makes it smaller, and a device with nothing pending stays as it is.  So a
device that is allowed as many steps as it has pending comes to rest, and an
inline device is at rest between any two commands.
-/

namespace Device

variable (codecs : Codecs)

/-- The worker has nothing to do. -/
theorem pending_eq_zero_iff {device : Device} :
    device.pending = 0 ↔ device.queue = [] ∧ device.worker = .idle := by
  unfold pending
  cases device.worker <;> cases device.queue <;> simp

theorem step_of_pending_eq_zero {device : Device} (rest : device.pending = 0) (memory : Memory) :
    device.step codecs memory = .quiet device memory := by
  rcases pending_eq_zero_iff.mp rest with ⟨empty, idle⟩
  simp [step, empty, idle]

/-- A step leaves less to do, unless there is nothing to do. -/
theorem pending_step_le (device : Device) (memory : Memory) :
    (device.step codecs memory).unit.pending ≤ device.pending - 1 := by
  unfold step
  cases working : device.worker with
  | idle =>
      cases waiting : device.queue with
      | nil => simp [Effect.quiet, pending, working, waiting]
      | cons job rest =>
          simp only [Effect.map, pending, working, waiting, List.length_cons]
          omega
  | ran job value =>
      cases value <;> simp [Effect.quiet, pending, working, count]
  | counted job value => simp [Effect.quiet, pending, working]

theorem pending_steps_le (device : Device) (memory : Memory) (count : Nat) :
    (device.steps codecs memory count).unit.pending ≤ device.pending - count := by
  induction count generalizing device memory with
  | zero => exact Nat.le_refl _
  | succ count hypothesis =>
      have first := pending_step_le codecs device memory
      have rest := hypothesis (device.step codecs memory).unit (device.step codecs memory).memory
      simp only [steps]
      omega

theorem steps_of_pending_eq_zero {device : Device} (rest : device.pending = 0) (memory : Memory)
    (count : Nat) : device.steps codecs memory count = .quiet device memory := by
  induction count with
  | zero => rfl
  | succ count hypothesis =>
      rw [steps, step_of_pending_eq_zero codecs rest]
      simp only [Effect.quiet, List.nil_append]
      rw [hypothesis]
      rfl

@[simp] theorem pending_finish (device : Device) (memory : Memory) :
    (device.finish codecs memory).unit.pending = 0 := by
  have bound := pending_steps_le codecs device memory device.pending
  unfold finish
  omega

end Device

namespace Simulated

/-- Between two commands, an inline device is at rest. -/
theorem Run.pending_eq_zero {first last : Simulated} {trace : List (Command × Outcome)}
    (run : Run first trace last) (inline : first.mode = .inline)
    (rest : first.device.pending = 0) : last.device.pending = 0 := by
  induction run with
  | start => exact rest
  | @command trace last run memory command hypothesis =>
      have mode := run.codecs_mode.2.trans inline
      simp [handle, mode]
  | @pause trace last run memory pause hypothesis =>
      have mode := run.codecs_mode.2.trans inline
      simpa [elapse, mode, Effect.quiet] using hypothesis

end Simulated

end RoccCodec
