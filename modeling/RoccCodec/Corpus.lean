import RoccCodec.Files
import RoccCodec.RunError

namespace RoccCodec

/-!
# Corpora

A corpus is loaded from paths: a file stands for itself, and a directory for
the files right below it, in the order of their names.
-/

structure Sample where
  name : String
  data : List UInt8
  deriving DecidableEq, Repr

/-- Inputs that are processed together. -/
structure Corpus where
  samples : List Sample
  deriving DecidableEq, Repr

namespace Corpus

def lengths (corpus : Corpus) : List Nat := corpus.samples.map fun sample => sample.data.length

def maxLength (corpus : Corpus) : Nat := corpus.lengths.foldl max 0

variable {m : Type → Type} [Monad m]

def loadFile (files : Files m) (path : String) : ExceptT RunError m Sample := do
  match ← files.read path with
  | .ok data => return ⟨Path.fileName path, data⟩
  | .error cause => throw (.unread path cause)

/-- Load the files right below a directory. -/
def loadDirectory (files : Files m) (path : String) : ExceptT RunError m (List Sample) := do
  match ← files.names path with
  | .ok names =>
    let paths := (names.mergeSort fun first second => decide (first ≤ second)).map (Path.join path)
    let found ← paths.filterM fun entry => files.isFile entry
    found.mapM (loadFile files)
  | .error cause => throw (.unlisted path cause)

/-- Load what a path stands for. -/
def loadPath (files : Files m) (path : String) : ExceptT RunError m (List Sample) := do
  if ← files.isDirectory path then loadDirectory files path
  else return [← loadFile files path]

/-- Load a corpus; it has to hold an input. -/
def load (files : Files m) (paths : List String) : ExceptT RunError m Corpus := do
  let samples := (← paths.mapM (loadPath files)).flatten
  if samples.isEmpty then throw .noInput else return ⟨samples⟩

theorem length_le_maxLength {corpus : Corpus} {sample : Sample}
    (member : sample ∈ corpus.samples) : sample.data.length ≤ corpus.maxLength := by
  have bounded : ∀ (lengths : List Nat) (least : Nat),
      least ≤ lengths.foldl max least ∧ ∀ length ∈ lengths, length ≤ lengths.foldl max least := by
    intro lengths
    induction lengths with
    | nil =>
      intro least
      exact ⟨Nat.le_refl least, by simp⟩
    | cons first rest hypothesis =>
      intro least
      obtain ⟨above, all⟩ := hypothesis (max least first)
      refine ⟨Nat.le_trans (Nat.le_max_left least first) above, ?_⟩
      intro length found
      rcases List.mem_cons.mp found with rfl | later
      · exact Nat.le_trans (Nat.le_max_right least length) above
      · exact all length later
  exact (bounded corpus.lengths 0).2 _ (List.mem_map_of_mem member)

end Corpus

end RoccCodec
