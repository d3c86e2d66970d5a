import RoccCodec.Accelerator
import RoccCodec.Channel

namespace RoccCodec

/-!
# Requests

A request is sent as a fixed sequence of commands, the last of which starts the
unit.  It is checked before the first command leaves, and the completion word is
cleared only after that.
-/

/-- The extra buffers a request carries: the two streams into which Zstd
compression splits a block, or the place where Zstd decompression builds its
output. -/
inductive Auxiliary where
  | none
  | streams (literals sequences : Buffer)
  | workspace (address : UInt64)
  deriving DecidableEq, Repr

namespace Auxiliary

/-- The extra buffers are those of the pipeline. -/
def suits (auxiliary : Auxiliary) (pipeline : Pipeline) : Bool :=
  match pipeline, auxiliary with
  | .snappyCompress, .none => true
  | .snappyDecompress, .none => true
  | .zstdCompress, .streams .. => true
  | .zstdDecompress, .workspace _ => true
  | _, _ => false

end Auxiliary

/-- A request in terms of the unit.  The length of the destination is checked by
the driver and never sent. -/
structure Request where
  source : Buffer
  auxiliary : Auxiliary
  destination : Buffer
  level : Option Int32
  deriving DecidableEq, Repr

namespace Request

/-- The request has the form the pipeline takes, and its source and
destination are apart. -/
def check (request : Request) (channel : Channel) : Except Fault Unit :=
  if !request.auxiliary.suits channel.pipeline
      || request.level.isSome != channel.table.level.isSome then
    .error (.requestMismatch channel.pipeline)
  else if request.source.overlaps request.destination then
    .error .overlap
  else
    .ok ()

end Request

namespace Machine

variable {υ : Type} [Accelerator υ]

/-- Send commands one after the other, up to the first that is refused. -/
def attempt (machine : Machine υ) : List (Except Fault Command) → Except Fault Unit × Machine υ
  | [] => (.ok (), machine)
  | .ok command :: rest => (machine.issue command).2.attempt rest
  | .error fault :: _ => (.error fault, machine)

theorem attempt_eq_ok_iff {machine sent : Machine υ} {attempts : List (Except Fault Command)} :
    machine.attempt attempts = (.ok (), sent) ↔
      ∃ commands, attempts = commands.map .ok ∧ sent = machine.issueAll commands := by
  induction attempts generalizing machine with
  | nil => simp [attempt, eq_comm]
  | cons first rest hypothesis =>
      cases first with
      | error fault =>
          simp only [attempt, Prod.mk.injEq, reduceCtorEq, false_and, false_iff]
          rintro ⟨_ | _, sent, _⟩ <;> cases sent
      | ok command =>
          rw [attempt, hypothesis]
          constructor
          · rintro ⟨commands, rfl, rfl⟩
            exact ⟨command :: commands, rfl, rfl⟩
          · rintro ⟨_ | ⟨first, commands⟩, made, rfl⟩ <;> cases made
            exact ⟨commands, rfl, rfl⟩

end Machine

namespace Channel

def auxiliaryCommands (channel : Channel) : Auxiliary → List (Except Fault Command)
  | .none => []
  | .streams literals sequences =>
    [channel.scratch .literals literals, channel.scratch .sequences sequences]
  | .workspace address => [channel.scratch .workspace ⟨address, 0⟩]

/-- The commands that send a request, in the order of the protocol.  Each of
them is refused where the pipeline has no code for it. -/
def parts (channel : Channel) (request : Request) (word : UInt64) :
    List (Except Fault Command) :=
  (if channel.table.selectAlgorithm.isSome then
      [channel.push (.algorithm channel.pipeline.algorithm)]
    else []) ++
    [.ok (channel.source request.source)] ++ channel.auxiliaryCommands request.auxiliary ++
    [.ok (channel.destination request.destination.address word)] ++
    (request.level.map channel.level).toList

/-- Check a request, clear its completion word and send its commands. -/
def dispatch {υ : Type} [Accelerator υ] (channel : Channel) (request : Request) (word : UInt64)
    (machine : Machine υ) : Except Fault Unit × Machine υ :=
  match request.check channel with
  | .error fault => (.error fault, machine)
  | .ok () => (machine.store word 0).attempt (channel.parts request word)

/-- The commands that send a request, or the first refusal among them. -/
def commands (channel : Channel) (request : Request) (word : UInt64) :
    Except Fault (List Command) :=
  (channel.parts request word).mapM id

theorem commands_eq_ok_iff {channel : Channel} {request : Request} {word : UInt64}
    {sequence : List Command} :
    channel.commands request word = .ok sequence ↔
      channel.parts request word = sequence.map .ok := by
  unfold commands
  generalize channel.parts request word = parts
  induction parts generalizing sequence with
  | nil => cases sequence <;> simp [pure, Except.pure]
  | cons first rest hypothesis =>
      simp only [List.mapM_cons, id_eq, bind_eq_ok_iff, hypothesis]
      constructor
      · rintro ⟨command, rfl, commands, rfl, ⟨⟩⟩
        rfl
      · intro made
        cases sequence with
        | nil => cases made
        | cons command commands =>
            cases made
            exact ⟨command, rfl, commands, rfl, rfl⟩

/-- A request is sent by issuing its commands, after its word has been cleared. -/
theorem dispatch_eq_ok_iff {υ : Type} [Accelerator υ] {channel : Channel} {request : Request}
    {word : UInt64} {machine sent : Machine υ} :
    channel.dispatch request word machine = (.ok (), sent) ↔ request.check channel = .ok () ∧
      ∃ sequence, channel.commands request word = .ok sequence ∧
        sent = (machine.store word 0).issueAll sequence := by
  simp only [commands_eq_ok_iff, ← Machine.attempt_eq_ok_iff]
  unfold dispatch
  cases request.check channel <;> simp

end Channel

end RoccCodec
