import Mathlib.Data.Nat.Log
import Mathlib.Data.Nat.PSub
import RoccCodec.Device.Job

namespace RoccCodec

/-!
# Windows that cover a history

A unit compresses with a window whose size is a power of two.  It counts the leading zeros
of a number that is one below the history, and so takes the least window that covers the
history: `windowLog` is a rounded-up logarithm, held within a range (`windowLog_eq_clog`).
None of the differences in the count falls below zero, not even for a history of no or of
one byte (`countedLog?_eq`).
-/

/-! ## The logarithm by leading zeros -/

/-- What is left of the width behind the leading zeros holds the number. -/
theorem sub_leadingZeros (word : UInt64) :
    64 - (leadingZeros word).val = Nat.clog 2 (word.toNat + 1) := by
  change 64 - word.toBitVec.clz.toNat = Nat.clog 2 (word.toBitVec.toNat + 1)
  generalize word.toBitVec = bits
  apply Nat.le_antisymm
  · by_cases zero : bits = 0#64
    · rw [zero]
      decide
    · have leading : bits.clz.toNat < 64 := BitVec.lt_def.mp (BitVec.clz_lt_iff_ne_zero.mpr zero)
      have first : 2 ^ (64 - 1 - bits.clz.toNat) ≤ bits.toNat :=
        BitVec.two_pow_sub_clz_le_toNat_of_ne_zero (by decide) zero
      have above : 64 - 1 - bits.clz.toNat < Nat.clog 2 (bits.toNat + 1) :=
        (Nat.lt_clog_iff_pow_lt Nat.one_lt_two).mpr (by omega)
      omega
  · exact (Nat.clog_le_iff_le_pow Nat.one_lt_two).mpr BitVec.toNat_lt_two_pow_sub_clz

theorem windowLog_eq_clog (history : UInt64) :
    windowLog history = min (max (Nat.clog 2 history.toNat) 10) 27 := by
  have bound := history.toNat_lt
  have below : (UInt64.ofNat (max history.toNat 1 - 1)).toNat = max history.toNat 1 - 1 :=
    UInt64.toNat_ofNat_of_lt' (show max history.toNat 1 - 1 < 2 ^ 64 by omega)
  have same : Nat.clog 2 (max history.toNat 1 - 1 + 1) = Nat.clog 2 history.toNat := by
    rw [Nat.sub_add_cancel (by omega)]
    rcases Nat.le_total history.toNat 1 with short | long
    · rw [Nat.max_eq_right short, Nat.clog_of_right_le_one (le_refl 1),
        Nat.clog_of_right_le_one short]
    · rw [Nat.max_eq_left long]
  unfold windowLog
  dsimp only
  rw [sub_leadingZeros, below, same]
  rfl

/-- The count of the leading zeros, where a difference below zero would have no value. -/
def countedLog? (history : UInt64) : Option Nat := do
  let below ← Nat.psub (max history.toNat 1) 1
  let bits ← Nat.psub 64 (leadingZeros (.ofNat below)).val
  return min (max bits windowLogRange.1) windowLogRange.2

theorem countedLog?_eq (history : UInt64) : countedLog? history = some (windowLog history) := by
  unfold countedLog?
  rw [Nat.psub_eq_sub (by omega), Option.bind_eq_bind, Option.bind_some,
    Nat.psub_eq_sub (Nat.le_of_lt_succ (leadingZeros _).isLt)]
  rfl

/-! ## The window of a history -/

/-- It is the only logarithm in the range whose window covers as much of the history as the
range allows, without the next smaller one doing so. -/
theorem windowLog_eq_iff (history : UInt64) (log : Nat) :
    windowLog history = log ↔ (10 ≤ log ∧ log ≤ 27) ∧
      min history.toNat (2 ^ 27) ≤ 2 ^ log ∧ (log = 10 ∨ 2 ^ (log - 1) < history.toNat) := by
  have largest : 2 ^ 27 ≤ 2 ^ log ↔ 27 ≤ log := Nat.pow_le_pow_iff_right Nat.one_lt_two
  have covers : min history.toNat (2 ^ 27) ≤ 2 ^ log ↔
      Nat.clog 2 history.toNat ≤ log ∨ 27 ≤ log := by
    rw [Nat.clog_le_iff_le_pow Nat.one_lt_two]
    omega
  rw [covers, ← Nat.lt_clog_iff_pow_lt Nat.one_lt_two, windowLog_eq_clog]
  omega

theorem windowLog_le_windowLog {history other : UInt64} (shorter : history ≤ other) :
    windowLog history ≤ windowLog other := by
  have logs := Nat.clog_mono_right 2 (UInt64.le_iff_toNat_le.mp shorter)
  rw [windowLog_eq_clog, windowLog_eq_clog]
  omega

theorem le_two_pow_windowLog {history : UInt64} (within : history.toNat ≤ 2 ^ 27) :
    history.toNat ≤ 2 ^ windowLog history := by
  have covers := ((windowLog_eq_iff history _).mp rfl).2.1
  rwa [Nat.min_eq_left within] at covers

theorem two_pow_windowLog_lt {history : UInt64} (long : 1024 < history.toNat) :
    2 ^ windowLog history < 2 * history.toNat := by
  rcases (windowLog_eq_iff history _).mp rfl with ⟨range, _, least | shorter⟩
  · rw [least]
    omega
  · calc
      2 ^ windowLog history = 2 * 2 ^ (windowLog history - 1) := by
        rw [← Nat.pow_succ', Nat.succ_eq_add_one, Nat.sub_add_cancel (by omega)]
      _ < 2 * history.toNat := by omega

/-- A unit that is set to a history compresses with the window of that history. -/
theorem Job.codec_of_history {job : Job} {history : UInt64}
    (compresses : job.pipeline = .zstdCompress) (tuned : job.tuning.history = some history)
    (codecs : Codecs) (source : List UInt8) :
    job.codec codecs source = codecs.zstdEncode job.level (some (windowLog history))
      (job.tuning.hashTableLog2.map hashLog) source := by
  unfold codec
  rw [compresses, tuned]
  rfl

/-- The window of a history, and that it is the one a unit compresses with. -/
theorem windowLog_covers (history : UInt64) :
    (∀ log, windowLog history = log ↔ (10 ≤ log ∧ log ≤ 27) ∧
      min history.toNat (2 ^ 27) ≤ 2 ^ log ∧ (log = 10 ∨ 2 ^ (log - 1) < history.toNat)) ∧
    (∀ other, history ≤ other → windowLog history ≤ windowLog other) ∧
    countedLog? history = some (windowLog history) ∧
    (history.toNat ≤ 128 * 1024 * 1024 → history.toNat ≤ 2 ^ windowLog history) ∧
    (1024 < history.toNat → 2 ^ windowLog history < 2 * history.toNat) ∧
    ∀ (codecs : Codecs) (job : Job) (source : List UInt8), job.pipeline = .zstdCompress →
      job.tuning.history = some history →
        job.codec codecs source = codecs.zstdEncode job.level (some (windowLog history))
          (job.tuning.hashTableLog2.map hashLog) source := by
  refine ⟨windowLog_eq_iff history, fun _ => windowLog_le_windowLog, countedLog?_eq history,
    le_two_pow_windowLog, two_pow_windowLog_lt, ?_⟩
  intro codecs job source compresses tuned
  exact Job.codec_of_history compresses tuned codecs source

/-- At a power of two the window is the history, and one byte more doubles it. -/
example : windowLog 65536 = 16 ∧ windowLog 65537 = 17 := by
  decide

end RoccCodec
