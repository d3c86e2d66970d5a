import Mathlib.Data.List.Induction
import RoccCodec.Proofs.Device.Acceptance

namespace RoccCodec

/-!
# Runs of a simulated device

A run is a sequence of commands together with whatever happens in between:
the worker makes steps in the pauses of the host, and memory is at each moment
what the host and the units have made of it.  `Simulated.Run` therefore puts no
condition on memory.  It records for each command what became of it at the
moment the device took it in.

What a device stages, latches and selects depends on the commands alone.
`Simulated.Run.staging`, `tuning` and `selected` give each of the three as a
fold over the commands that concern it, from any state a run may start in.
-/

namespace Build

/-- The commands of a pipeline among these, as it receives them. -/
def arrivals (build : Build) (pipeline : Pipeline) (commands : List Command) : List Arrival :=
  commands.filterMap (build.own? pipeline)

/-- The codecs that these commands choose on a slot. -/
def choices (build : Build) (slot : Opcode) (commands : List Command) : List Algorithm :=
  commands.filterMap (build.choice? slot)

theorem arrivals_append (build : Build) (pipeline : Pipeline) (first second : List Command) :
    build.arrivals pipeline (first ++ second) =
      build.arrivals pipeline first ++ build.arrivals pipeline second :=
  List.filterMap_append

theorem arrivals_singleton (build : Build) (pipeline : Pipeline) (command : Command) :
    build.arrivals pipeline [command] = (build.own? pipeline command).toList := by
  cases own : build.own? pipeline command <;> simp [arrivals, own]

theorem choices_append (build : Build) (slot : Opcode) (first second : List Command) :
    build.choices slot (first ++ second) =
      build.choices slot first ++ build.choices slot second :=
  List.filterMap_append

theorem choices_singleton (build : Build) (slot : Opcode) (command : Command) :
    build.choices slot [command] = (build.choice? slot command).toList := by
  cases chosen : build.choice? slot command <;> simp [choices, chosen]

end Build

namespace Device

/-- Two devices that every command finds alike. -/
structure Alike (first second : Device) : Prop where
  build : first.build = second.build
  staging : first.staging = second.staging
  tuning : first.tuning = second.tuning
  selected : first.selected = second.selected

namespace Alike

theorem refl (device : Device) : Alike device device := ⟨.refl _, .refl _, .refl _, .refl _⟩

theorem symm {first second : Device} (alike : Alike first second) : Alike second first :=
  ⟨alike.build.symm, alike.staging.symm, alike.tuning.symm, alike.selected.symm⟩

theorem trans {first second third : Device} (left : Alike first second)
    (right : Alike second third) : Alike first third where
  build := left.build.trans right.build
  staging := left.staging.trans right.staging
  tuning := left.tuning.trans right.tuning
  selected := left.selected.trans right.selected

variable {first second : Device}

theorem outcome (alike : Alike first second) (command : Command) :
    first.outcome command = second.outcome command := by
  by_cases idle : ∀ pipeline arrival, first.build.own? pipeline command = some arrival →
      some arrival.kind ≠ first.build.trigger? pipeline
  · have other := idle
    rw [alike.build] at other
    rw [outcome_eq_quiet idle, outcome_eq_quiet other]
  · simp only [not_forall, not_not, Build.trigger?, eq_comm (a := some _),
      Option.map_eq_some_iff] at idle
    rcases idle with ⟨pipeline, arrival, own, table, present, starts⟩
    rw [outcome_of_trigger present own starts.symm]
    rw [alike.build] at present own
    rw [outcome_of_trigger present own starts.symm]
    simp only [startOutcome, ready?, isSelected, stage, alike.staging, alike.tuning,
      alike.selected]
    rfl

theorem accept (alike : Alike first second) (command : Command) :
    Alike (first.accept command).1 (second.accept command).1 where
  build := by simp [alike.build]
  staging := PerPipeline.ext_get fun pipeline => by
    simp only [staging_accept, alike.build, alike.staging]
  tuning := PerPipeline.ext_get fun pipeline => by
    simp only [tuning_accept, alike.build, alike.tuning]
  selected := PerOpcode.ext_get fun slot => by
    simp only [selected_accept, alike.build, alike.selected]

end Alike

/-- The worker touches nothing that commands depend on. -/
theorem alike_step (codecs : Codecs) (device : Device) (memory : Memory) :
    Alike (device.step codecs memory).unit device := by
  unfold step
  cases device.worker with
  | idle =>
      cases device.queue with
      | nil => exact .refl device
      | cons job rest => exact ⟨rfl, rfl, rfl, rfl⟩
  | ran job value =>
      cases value <;> exact ⟨rfl, rfl, rfl, rfl⟩
  | counted job value => exact ⟨rfl, rfl, rfl, rfl⟩

theorem alike_steps (codecs : Codecs) (device : Device) (memory : Memory) (count : Nat) :
    Alike (device.steps codecs memory count).unit device := by
  induction count generalizing device memory with
  | zero => exact .refl device
  | succ count hypothesis =>
      have first := device.alike_step codecs memory
      have rest := hypothesis (device.step codecs memory).unit (device.step codecs memory).memory
      exact rest.trans first

end Device

namespace Simulated

/-- In both modes, a command is taken in first; what the worker then does is
nothing a later command depends on. -/
theorem alike_handle (simulated : Simulated) (memory : Memory) (command : Command) :
    Device.Alike (simulated.handle memory command).unit.device
      (simulated.device.accept command).1 := by
  unfold handle
  cases simulated.mode with
  | inline =>
      exact Device.alike_steps simulated.codecs (simulated.device.accept command).1 memory _
  | threaded schedule => exact .refl _

theorem alike_elapse (simulated : Simulated) (memory : Memory) (pause : Pause) :
    Device.Alike (simulated.elapse memory pause).unit.device simulated.device := by
  unfold elapse
  cases simulated.mode with
  | inline => exact .refl _
  | threaded schedule => exact Device.alike_steps simulated.codecs simulated.device memory _

theorem codecs_mode_handle (simulated : Simulated) (memory : Memory) (command : Command) :
    (simulated.handle memory command).unit.codecs = simulated.codecs ∧
      (simulated.handle memory command).unit.mode = simulated.mode := by
  unfold handle
  cases simulated.mode <;> exact ⟨rfl, rfl⟩

theorem codecs_mode_elapse (simulated : Simulated) (memory : Memory) (pause : Pause) :
    (simulated.elapse memory pause).unit.codecs = simulated.codecs ∧
      (simulated.elapse memory pause).unit.mode = simulated.mode := by
  rcases simulated with ⟨device, codecs, mode, pauses⟩
  cases mode <;> exact ⟨rfl, rfl⟩

/-- The device has taken these commands in, with these outcomes, the oldest
first.  Memory may change in any way between two moments. -/
inductive Run (first : Simulated) : List (Command × Outcome) → Simulated → Prop
  | start : Run first [] first
  | command {trace : List (Command × Outcome)} {last : Simulated} (run : Run first trace last)
    (memory : Memory) (command : Command) :
    Run first (trace ++ [(command, last.device.outcome command)])
      (last.handle memory command).unit
  | pause {trace : List (Command × Outcome)} {last : Simulated} (run : Run first trace last)
    (memory : Memory) (pause : Pause) : Run first trace (last.elapse memory pause).unit

namespace Run

variable {first last : Simulated} {trace : List (Command × Outcome)}

def commands (trace : List (Command × Outcome)) : List Command := trace.map Prod.fst

theorem commands_append (trace : List (Command × Outcome)) (command : Command)
    (outcome : Outcome) : commands (trace ++ [(command, outcome)]) = commands trace ++ [command] := by
  simp [commands]

theorem build (run : Run first trace last) : last.device.build = first.device.build := by
  induction run with
  | start => rfl
  | command run memory command hypothesis =>
      rw [(alike_handle _ memory command).build, Device.build_accept, hypothesis]
  | pause run memory pause hypothesis =>
      rw [(alike_elapse _ memory pause).build, hypothesis]

/-- The codecs and the way of working are those of the device that was built. -/
theorem codecs_mode (run : Run first trace last) :
    last.codecs = first.codecs ∧ last.mode = first.mode := by
  induction run with
  | start => exact ⟨rfl, rfl⟩
  | @command trace last run memory command hypothesis =>
      have same := last.codecs_mode_handle memory command
      exact ⟨same.1.trans hypothesis.1, same.2.trans hypothesis.2⟩
  | @pause trace last run memory pause hypothesis =>
      have same := last.codecs_mode_elapse memory pause
      exact ⟨same.1.trans hypothesis.1, same.2.trans hypothesis.2⟩

/-- A pipeline has staged what arrived for it since its last start. -/
theorem staging (run : Run first trace last) (pipeline : Pipeline) :
    last.device.staging.get pipeline =
      (first.device.build.arrivals pipeline (commands trace)).foldl
        (Staging.receive (first.device.build.trigger? pipeline))
        (first.device.staging.get pipeline) := by
  induction run with
  | start => rfl
  | @command trace last run memory command hypothesis =>
      rw [(alike_handle last memory command).staging, Device.staging_accept, run.build,
        hypothesis]
      rw [commands_append, Build.arrivals_append, Build.arrivals_singleton, List.foldl_append]
      cases first.device.build.own? pipeline command <;> rfl
  | @pause trace last run memory pause hypothesis =>
      rw [(alike_elapse last memory pause).staging, hypothesis]

/-- A pipeline has latched the parameters that arrived for it. -/
theorem tuning (run : Run first trace last) (pipeline : Pipeline) :
    last.device.tuning.get pipeline =
      (first.device.build.arrivals pipeline (commands trace)).foldl Tuning.receive
        (first.device.tuning.get pipeline) := by
  induction run with
  | start => rfl
  | @command trace last run memory command hypothesis =>
      rw [(alike_handle last memory command).tuning, Device.tuning_accept, run.build,
        hypothesis]
      rw [commands_append, Build.arrivals_append, Build.arrivals_singleton, List.foldl_append]
      cases first.device.build.own? pipeline command <;> rfl
  | @pause trace last run memory pause hypothesis =>
      rw [(alike_elapse last memory pause).tuning, hypothesis]

/-- A slot is set to the codec chosen last. -/
theorem selected (run : Run first trace last) (slot : Opcode) :
    last.device.selected.get slot =
      (first.device.build.choices slot (commands trace)).getLast?.or
        (first.device.selected.get slot) := by
  induction run with
  | start => rfl
  | @command trace last run memory command hypothesis =>
      rw [(alike_handle last memory command).selected, Device.selected_accept, run.build,
        hypothesis]
      rw [commands_append, Build.choices_append, Build.choices_singleton]
      cases first.device.build.choice? slot command <;> simp
  | @pause trace last run memory pause hypothesis =>
      rw [(alike_elapse last memory pause).selected, hypothesis]

/-- Each entry of a trace is what came of its command after the entries before it. -/
theorem exists_prefix (run : Run first trace last) {before after : List (Command × Outcome)}
    {command : Command} {outcome : Outcome}
    (parts : trace = before ++ (command, outcome) :: after) :
    ∃ middle, Run first before middle ∧ outcome = middle.device.outcome command := by
  induction run generalizing after with
  | start => simp at parts
  | @command trace last run memory issued hypothesis =>
      cases after using List.reverseRecOn with
      | nil =>
          rcases List.append_inj' parts rfl with ⟨rfl, ends⟩
          cases ends
          exact ⟨last, run, rfl⟩
      | append_singleton after final =>
          rw [← List.cons_append, ← List.append_assoc] at parts
          exact hypothesis (List.append_inj' parts rfl).1
  | pause run memory pause hypothesis => exact hypothesis parts

end Run

end Simulated

namespace Machine

/-- Sending commands to a simulated device is one of its runs. -/
theorem run_issueAll (machine : Machine Simulated) (sequence : List Command) :
    ∃ trace, Simulated.Run machine.unit trace (machine.issueAll sequence).unit ∧
      Simulated.Run.commands trace = sequence := by
  induction sequence using List.reverseRecOn with
  | nil => exact ⟨[], .start, rfl⟩
  | append_singleton before command hypothesis =>
      rcases hypothesis with ⟨trace, run, same⟩
      rw [issueAll_append]
      have taken := run.command (machine.issueAll before).memory command
      exact ⟨_, taken.pause _ .command, by simp [Simulated.Run.commands, ← same]⟩

end Machine

end RoccCodec
