import Mathlib.Algebra.Order.Ring.GeomSum
import Mathlib.Data.Fintype.BigOperators
import RoccCodec.Proofs.Codec.Faithful

namespace RoccCodec

/-!
# Sources that do not get shorter

A codec that gives every source back has different outputs for different sources.
There are fewer outputs below a length than sources of that length, so one of these
sources has an output that is at least as long (`exists_incompressible`).  This holds
of any codec, whatever it looks for in a source, and of every length of which all
sources are taken.
-/

/-- A byte by its number. -/
def byteEquiv : UInt8 ≃ Fin 256 where
  toFun := UInt8.toFin
  invFun := UInt8.ofFin
  left_inv := fun _ => rfl
  right_inv := fun _ => rfl

instance fintypeByte : Fintype UInt8 := .ofEquiv (Fin 256) byteEquiv.symm

theorem card_byte : Fintype.card UInt8 = 256 := by
  rw [Fintype.card_congr byteEquiv, Fintype.card_fin]

/-- There are fewer lists of bytes below a length than lists of this length. -/
theorem card_shorter_lt (size : Nat) :
    Fintype.card (Σ length : Fin size, List.Vector UInt8 length) <
      Fintype.card (List.Vector UInt8 size) := by
  rw [Fintype.card_sigma, card_vector, card_byte]
  calc ∑ length : Fin size, Fintype.card (List.Vector UInt8 length)
      = ∑ length : Fin size, 256 ^ length.val := by simp only [card_vector, card_byte]
    _ = ∑ length ∈ Finset.range size, 256 ^ length :=
        Fin.sum_univ_eq_sum_range (fun length => 256 ^ length) size
    _ < 256 ^ size := Nat.geomSum_lt (by decide) fun _ => Finset.mem_range.mp

/-- Of all the sources of one length, an encoder whose outputs can be decoded leaves at
least one as long as it was. -/
theorem exists_incompressible {encode decode : List UInt8 → Option (List UInt8)} (size : Nat)
    (restores : ∀ source, source.length = size →
      ∃ output, encode source = some output ∧ decode output = some source) :
    ∃ source output, source.length = size ∧ encode source = some output ∧
      size ≤ output.length := by
  by_contra compressible
  push Not at compressible
  have shrinks : ∀ source : List.Vector UInt8 size,
      ∃ output : Σ length : Fin size, List.Vector UInt8 length,
        decode output.2.toList = some source.toList := by
    intro source
    rcases restores source.toList source.length_val with ⟨output, encoded, decoded⟩
    have less := compressible _ output source.length_val encoded
    exact ⟨⟨⟨output.length, less⟩, ⟨output, rfl⟩⟩, decoded⟩
  choose output decoded using shrinks
  have injective : Function.Injective output := by
    intro first second same
    apply List.Vector.eq
    rw [← Option.some_inj, ← decoded first, ← decoded second, same]
  have fewer := Fintype.card_le_of_injective output injective
  exact Nat.not_lt.mpr fewer (card_shorter_lt size)

namespace Codecs

/-- Every source that has a bound is compressed, and decompressing the output gives it
back. -/
def Restores (codecs : Codecs) (algorithm : Algorithm) : Prop :=
  ∀ (level : Int32) (source : List UInt8) (bound : Nat),
    algorithm.bound source.length = .ok bound →
    ∃ output, codecs.compress? level algorithm source = some output ∧
      codecs.decompress? algorithm output = some source

theorem software_restores : software.Restores .zstd := by
  intro level source bound bounded
  have known := Algorithm.lt_of_bound bounded
  rcases (@Zstd.encode_spec none (by decide) (by decide) source known).2.2 with
    ⟨content, decoded, restored⟩
  refine ⟨Zstd.encode none source, rfl, ?_⟩
  change (Zstd.content? _).map Zstd.Content.bytes = _
  rw [decoded, Option.map_some, restored]

theorem Restores.exists_incompressible {codecs : Codecs} {algorithm : Algorithm}
    (restores : codecs.Restores algorithm) (level : Int32) {size bound : Nat}
    (bounded : algorithm.bound size = .ok bound) :
    ∃ source output, source.length = size ∧
      codecs.compress? level algorithm source = some output ∧ size ≤ output.length :=
  RoccCodec.exists_incompressible size fun source length =>
    restores level source bound (length ▸ bounded)

end Codecs

end RoccCodec
