import Mathlib.Data.List.Nodup
import Mathlib.Data.List.Pairwise
import RoccCodec.Build

namespace RoccCodec

/-!
# Looking codes up in both directions

A driver looks up the code of a command kind, a unit the kind of a code.  The second
lookup goes through the kinds in a fixed order and takes the first that has the code, so on
a table that uses a code twice the two disagree, and every later kind with that code is out
of reach.

Nothing is assumed of a table here: codes may be shared, and any of the optional ones may be
absent.  `FunctTable.lookups_agree` says what each lookup finds, and that the two are inverse
to each other exactly on the tables with distinct codes.  The tables of all builds are of
that kind (`Build.distinct`).
-/

namespace CommandKind

/-- The first kind stands before the second in the order of the lookup. -/
def Before (first second : CommandKind) : Prop :=
  all.idxOf first < all.idxOf second

end CommandKind

namespace FunctTable

/-- The codes that the table assigns differ from each other. -/
def Distinct (table : FunctTable) : Prop :=
  (CommandKind.all.filterMap table.code?).Nodup

instance (table : FunctTable) : Decidable table.Distinct :=
  inferInstanceAs (Decidable (List.Nodup _))

variable {table : FunctTable}

/-- A code stands for the first kind that has it. -/
theorem kindOf?_eq_some_iff {funct : UInt8} {kind : CommandKind} :
    table.kindOf? funct = some kind ↔
      table.code? kind = some funct ∧
        ∀ earlier : CommandKind, earlier.Before kind → table.code? earlier ≠ some funct := by
  have place : ∀ kind : CommandKind, CommandKind.all.idxOf kind < CommandKind.all.length :=
    fun kind => List.idxOf_lt_length_iff.mpr kind.mem_all
  -- No kind is listed twice, so kinds and positions in the list stand for each other.
  rw [kindOf?, List.find?_eq_some_iff_getElem]
  constructor
  · rintro ⟨coded, index, bound, rfl, free⟩
    refine ⟨by simpa using coded, fun earlier before => ?_⟩
    unfold CommandKind.Before at before
    rw [CommandKind.nodup_all.idxOf_getElem] at before
    simpa using free _ before
  · rintro ⟨coded, free⟩
    refine ⟨by simpa using coded, _, place kind, List.getElem_idxOf (place kind), ?_⟩
    intro index before
    have bound : index < CommandKind.all.length := Nat.lt_trans before (place kind)
    have earlier : CommandKind.all[index].Before kind := by
      unfold CommandKind.Before
      rwa [CommandKind.nodup_all.idxOf_getElem]
    simpa using free _ earlier

/-- No two kinds have the same code. -/
theorem distinct_iff :
    table.Distinct ↔ ∀ {first second : CommandKind} {funct : UInt8},
      table.code? first = some funct → table.code? second = some funct → first = second := by
  constructor
  · intro distinct first second funct coded again
    by_contra different
    unfold Distinct List.Nodup at distinct
    rw [List.pairwise_filterMap] at distinct
    have symmetric : Std.Symm fun first second : CommandKind =>
        ∀ code, table.code? first = some code → ∀ other, table.code? second = some other →
          code ≠ other :=
      ⟨fun first second free code has other found => (free other found code has).symm⟩
    exact distinct.forall first.mem_all second.mem_all different funct coded funct again rfl
  · intro injective
    exact CommandKind.nodup_all.filterMap fun first second funct coded again =>
      injective coded again

theorem kindOf?_eq_some_iff_of_distinct (distinct : table.Distinct) {funct : UInt8}
    {kind : CommandKind} : table.kindOf? funct = some kind ↔ table.code? kind = some funct := by
  refine ⟨code?_of_kindOf?, fun coded => ?_⟩
  cases found : table.kindOf? funct with
  | none => exact absurd coded (kindOf?_eq_none_iff.mp found kind)
  | some other => rw [distinct_iff.mp distinct (code?_of_kindOf? found) coded]

/-- Every assigned kind is found again exactly if no code is used twice. -/
theorem kindOf?_code?_iff_distinct :
    (∀ kind funct, table.code? kind = some funct → table.kindOf? funct = some kind) ↔
      table.Distinct := by
  constructor
  · intro found
    refine distinct_iff.mpr fun coded again => ?_
    exact Option.some.inj ((found _ _ coded).symm.trans (found _ _ again))
  · intro distinct kind funct coded
    exact (kindOf?_eq_some_iff_of_distinct distinct).mpr coded

/-- A table has a code for the command that starts a request. -/
theorem exists_code?_startTrigger (table : FunctTable) :
    ∃ funct, table.code? table.startTrigger = some funct := by
  unfold startTrigger
  split
  · rename_i leveled
    exact Option.isSome_iff_exists.mp leveled
  · exact ⟨table.destInfo, rfl⟩

/-- What the two lookups of any table have to do with each other. -/
theorem lookups_agree (table : FunctTable) :
    (∀ funct kind, table.kindOf? funct = some kind ↔
      table.code? kind = some funct ∧
        ∀ earlier : CommandKind, earlier.Before kind → table.code? earlier ≠ some funct) ∧
    (∀ funct, table.kindOf? funct = none ↔ ∀ kind, table.code? kind ≠ some funct) ∧
    ((∀ kind funct, table.code? kind = some funct → table.kindOf? funct = some kind) ↔
      table.Distinct) ∧
    (table.Distinct → ∃ funct, table.code? table.startTrigger = some funct ∧
      ∀ arriving, table.kindOf? arriving = some table.startTrigger ↔ arriving = funct) := by
  refine ⟨fun _ _ => kindOf?_eq_some_iff, fun _ => kindOf?_eq_none_iff,
    kindOf?_code?_iff_distinct, fun distinct => ?_⟩
  rcases table.exists_code?_startTrigger with ⟨funct, coded⟩
  refine ⟨funct, coded, fun arriving => ?_⟩
  rw [kindOf?_eq_some_iff_of_distinct distinct, coded, Option.some.injEq, eq_comm]

/-- Where the source and the history share a code, the unit takes a history for a source. -/
example :
    let table := { Build.standaloneSnappyCompress with history := 1 }
    ¬ table.Distinct ∧ table.code? .history = some 1 ∧ table.kindOf? 1 = some .srcInfo := by
  decide

end FunctTable

namespace Build

variable {build : Build} {pipeline : Pipeline} {table : FunctTable} {kind : CommandKind}
  {funct : UInt8}

/-- What is found of each code of each build holds of any code of any build. -/
theorem of_codes {motive : Build → Pipeline → FunctTable → CommandKind → UInt8 → Bool}
    (checked : (all.all fun build => Pipeline.all.all fun pipeline =>
      (build.table? pipeline).all fun table => CommandKind.all.all fun kind =>
        (table.code? kind).all (motive build pipeline table kind)) = true)
    (present : build.table? pipeline = some table) (coded : table.code? kind = some funct) :
    motive build pipeline table kind funct = true := by
  simp only [List.all_eq_true, Option.all_eq_true] at checked
  exact checked build build.mem_all pipeline pipeline.mem_all table present kind kind.mem_all
    funct coded

/-- On every build, a code of a pipeline stands for one kind only. -/
theorem distinct (present : build.table? pipeline = some table) : table.Distinct := by
  refine FunctTable.kindOf?_code?_iff_distinct.mp fun kind funct coded => ?_
  have read := of_codes (motive := fun _ _ table kind funct => table.kindOf? funct == some kind)
    (by decide) present coded
  exact beq_iff_eq.mp read

end Build

end RoccCodec
