import RoccCodec.Accelerator

namespace RoccCodec

/-!
# Traced accelerators

A trace stands in front of an accelerator and keeps every command that goes
through.  It changes neither the commands nor what comes of them.
-/

/-- An accelerator and the commands it was sent, the oldest first. -/
structure Traced (υ : Type) where
  inner : υ
  commands : List Command

namespace Traced

variable {υ : Type}

def start (inner : υ) : Traced υ := ⟨inner, []⟩

def functs (traced : Traced υ) : List UInt8 := traced.commands.map fun command => command.funct

def clear (traced : Traced υ) : Traced υ := { traced with commands := [] }

instance [Accelerator υ] : Accelerator (Traced υ) where
  policy traced := Accelerator.policy traced.inner
  handle command traced memory :=
    let (answer, effect) := Accelerator.handle command traced.inner memory
    (answer, effect.map fun inner => ⟨inner, traced.commands ++ [command]⟩)
  elapse pause traced memory :=
    (Accelerator.elapse pause traced.inner memory).map fun inner => { traced with inner }

end Traced

end RoccCodec
