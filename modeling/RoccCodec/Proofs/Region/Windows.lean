import Mathlib.Order.Nat
import RoccCodec.Region

namespace RoccCodec

/-!
# The windows of a region

The client of a cursor makes any calls in any order, and only a payload whose window has no
length of 64 bits puts an end to them.  Every call asks for a number of bytes from the front
of what is left, and gets all of them or none (`Cursor.reply_eq`).  From this one step
follows what holds of a whole run (`Cursor.Runs`): the region is never lost from sight, what
is left starts where the count says, a window ends before the next one starts, and a call
that was refused leaves no trace.

The size of a window is computed before it is compared with what is left.  A payload that
reaches into the last granule of 64 bits could only be refused, but its window has no size
in 64 bits, and the call does not return (`Cursor.carves_below_last_granule`).
-/

namespace Region

/-- The length of the window for a payload. -/
def padded (length : Nat) : Nat := (length / 32 + 1) * 32

theorem paddedLength_eq_padded {length : Nat} (fits : padded length < Length.limit) :
    paddedLength length = .ok (padded length) :=
  paddedLength_eq_ok_iff.mpr ⟨rfl, fits⟩

theorem isLeast_padded (length : Nat) :
    IsLeast {multiple | 32 ∣ multiple ∧ length < multiple} (padded length) := by
  unfold padded
  constructor
  · exact ⟨Nat.dvd_mul_left 32 _, by omega⟩
  · rintro multiple ⟨⟨count, rfl⟩, longer⟩
    omega

/-- The size of a window has 64 bits unless the payload reaches into the last granule. -/
theorem padded_lt_limit_iff {length : Nat} :
    padded length < Length.limit ↔ length < Length.limit - 32 := by
  unfold padded Length.limit
  omega

theorem paddedLength_eq_error {length : Nat} (large : Length.limit ≤ padded length) :
    paddedLength length = .error .multiplication :=
  if_neg (Nat.not_lt.mpr large)

end Region

namespace Cursor

/-! ## One call -/

/-- A call on a cursor. -/
inductive Call where
  | skip (bytes : Nat)
  | carve (length : Nat)
  deriving DecidableEq, Repr

/-- What a call returns. -/
inductive Answer where
  | moved
  | window (window : Window)
  | refused (fault : Fault)
  deriving DecidableEq, Repr

/-- What a call returns, and the cursor that it leaves. -/
def reply (cursor : Cursor) : Call → Except Failure Answer × Cursor
  | .skip bytes =>
    match cursor.skip bytes with
    | (.ok (), left) => (.ok .moved, left)
    | (.error fault, left) => (.ok (.refused fault), left)
  | .carve length =>
    match cursor.carve length with
    | (.ok window, left) => (.ok (.window window), left)
    | (.error (.refused fault), left) => (.ok (.refused fault), left)
    | (.error failure, left) => (.error failure, left)

namespace Call

/-- The bytes that a call asks for. -/
def size : Call → Except Overflow Nat
  | skip bytes => .ok bytes
  | carve length => Region.paddedLength length

/-- The answer to a call that gets its bytes from the front of what is left. -/
def granted (rest : Window) (size : Nat) : Call → Answer
  | skip _ => .moved
  | carve _ => .window (rest.take size)

end Call

variable {cursor next last : Cursor} {call : Call} {answer : Answer}

theorem carve_of_le {length : Nat} (enough : Region.padded length ≤ cursor.remaining)
    (held : cursor.remaining < Length.limit) :
    cursor.carve length = (.ok (cursor.rest.take (Region.padded length)),
      cursor.advance (Region.padded length)) := by
  rw [carve, Region.paddedLength_eq_padded (enough.trans_lt held)]
  exact if_pos enough

/-- A call gets the bytes that it asks for if there are as many, and otherwise leaves the
cursor where it is. -/
theorem reply_eq (cursor : Cursor) (call : Call) :
    cursor.reply call =
      match call.size with
      | .error operation => (.error (.overflow operation), cursor)
      | .ok size =>
        if size ≤ cursor.remaining then
          (.ok (call.granted cursor.rest size), cursor.advance size)
        else (.ok (.refused (.regionExhausted size cursor.remaining)), cursor) := by
  cases call with
  | skip bytes =>
      by_cases room : bytes ≤ cursor.remaining <;>
        simp [reply, skip, Call.size, Call.granted, room]
  | carve length =>
      rw [reply, carve, Call.size]
      cases Region.paddedLength length with
      | error operation => rfl
      | ok padded =>
          by_cases room : padded ≤ cursor.remaining <;> simp [Call.granted, room]

/-- The two ways in which a call can return. -/
theorem reply_cases (replied : cursor.reply call = (.ok answer, next)) :
    ∃ size, call.size = .ok size ∧
      (size ≤ cursor.remaining ∧ answer = call.granted cursor.rest size ∧
          next = cursor.advance size ∨
        cursor.remaining < size ∧ answer = .refused (.regionExhausted size cursor.remaining) ∧
          next = cursor) := by
  rw [reply_eq] at replied
  cases asked : call.size with
  | error operation =>
      rw [asked] at replied
      cases replied
  | ok size =>
      by_cases room : size ≤ cursor.remaining
      · simp only [asked, if_pos room] at replied
        cases replied
        exact ⟨size, rfl, .inl ⟨room, rfl, rfl⟩⟩
      · simp only [asked, if_neg room] at replied
        cases replied
        exact ⟨size, rfl, .inr ⟨Nat.lt_of_not_le room, rfl, rfl⟩⟩

/-- The cursors of one region, in the order in which it is used up.  What is left keeps its
end, and its start goes along with the count. -/
structure Precedes (first second : Cursor) : Prop where
  front : first.rest.offset ≤ second.rest.offset
  stop : second.rest.offset + second.remaining = first.rest.offset + first.remaining
  counted : second.offset + first.rest.offset = first.offset + second.rest.offset

theorem Precedes.refl (cursor : Cursor) : cursor.Precedes cursor :=
  ⟨Nat.le_refl _, rfl, rfl⟩

theorem Precedes.trans {first second third : Cursor} (left : first.Precedes second)
    (right : second.Precedes third) : first.Precedes third := by
  refine ⟨left.front.trans right.front, right.stop.trans left.stop, ?_⟩
  have before := left.counted
  have behind := right.counted
  omega

theorem precedes_advance {size : Nat} (room : size ≤ cursor.remaining) :
    cursor.Precedes (cursor.advance size) := by
  unfold remaining at room
  constructor <;> simp only [advance, Window.drop, remaining] <;> omega

theorem precedes_of_reply (replied : cursor.reply call = (.ok answer, next)) :
    cursor.Precedes next := by
  rcases reply_cases replied with ⟨size, _, ⟨room, _, rfl⟩ | ⟨_, _, rfl⟩⟩
  · exact precedes_advance room
  · exact .refl _

/-- A window lies between the cursors before and after the call. -/
theorem window_of_reply {window : Window}
    (replied : cursor.reply call = (.ok (.window window), next)) :
    window.offset = cursor.rest.offset ∧ window.offset + window.length = next.rest.offset := by
  rcases reply_cases replied with ⟨size, _, ⟨_, granted, rfl⟩ | ⟨_, refused, _⟩⟩
  · cases call with
    | skip bytes => cases granted
    | carve length =>
        cases granted
        exact ⟨rfl, rfl⟩
  · cases refused

theorem eq_of_refused {fault : Fault} (replied : cursor.reply call = (.ok (.refused fault), next)) :
    next = cursor := by
  rcases reply_cases replied with ⟨size, _, ⟨_, granted, _⟩ | ⟨_, _, same⟩⟩
  · cases call <;> cases granted
  · exact same

/-- On a multiple of the granule, a cursor stays there unless it is told to leave it. -/
theorem dvd_offset_of_reply (aligned : 32 ∣ cursor.rest.offset)
    (skips : ∀ bytes, call = .skip bytes → 32 ∣ bytes)
    (replied : cursor.reply call = (.ok answer, next)) : 32 ∣ next.rest.offset := by
  rcases reply_cases replied with ⟨size, asked, ⟨_, _, rfl⟩ | ⟨_, _, rfl⟩⟩
  · apply Nat.dvd_add aligned
    cases call with
    | skip bytes =>
        cases asked
        exact skips size rfl
    | carve length => exact Nat.dvd_of_mod_eq_zero (Region.lt_paddedLength asked).2.2
  · exact aligned

/-! ## Runs -/

/-- A call that has returned, between the cursor it found and the one it left. -/
structure Entry where
  found : Cursor
  call : Call
  answer : Answer
  left : Cursor

/-- The window that the call has handed out. -/
def Entry.window? (entry : Entry) : Option Window :=
  match entry.answer with
  | .window window => some window
  | .moved | .refused _ => none

theorem Entry.window?_eq_some_iff {entry : Entry} {window : Window} :
    entry.window? = some window ↔ entry.answer = .window window := by
  rcases entry with ⟨found, call, answer, left⟩
  cases answer <;> simp [window?]

/-- Calls that return one after the other, each on the cursor that the last one left. -/
inductive Runs : Cursor → List Entry → Cursor → Prop
  | done {cursor : Cursor} : Runs cursor [] cursor
  | call {cursor next last : Cursor} {call : Call} {answer : Answer} {log : List Entry}
    (replied : cursor.reply call = (.ok answer, next)) (runs : Runs next log last) :
    Runs cursor (⟨cursor, call, answer, next⟩ :: log) last

namespace Runs

variable {first : Cursor} {log before later : List Entry} {entry : Entry}

theorem precedes (runs : Runs first log last) : first.Precedes last := by
  induction runs with
  | done => exact .refl _
  | call replied _ hypothesis => exact (precedes_of_reply replied).trans hypothesis

/-- Each call was answered by a cursor of the region, and left one. -/
theorem answered (runs : Runs first log last) (member : entry ∈ log) :
    first.Precedes entry.found ∧
      entry.found.reply entry.call = (.ok entry.answer, entry.left) ∧
      entry.left.Precedes last := by
  induction runs with
  | done => cases member
  | call replied runs hypothesis =>
      rcases List.mem_cons.mp member with rfl | later
      · exact ⟨.refl _, replied, runs.precedes⟩
      · exact ⟨(precedes_of_reply replied).trans (hypothesis later).1, (hypothesis later).2⟩

/-- The windows of a run lie between its ends. -/
theorem within (runs : Runs first log last) {window : Window}
    (member : window ∈ log.filterMap Entry.window?) :
    first.rest.offset ≤ window.offset ∧ window.offset + window.length ≤ last.rest.offset := by
  rcases List.mem_filterMap.mp member with ⟨entry, listed, handed⟩
  rcases runs.answered listed with ⟨before, replied, after⟩
  rw [Entry.window?_eq_some_iff.mp handed] at replied
  have place := window_of_reply replied
  exact ⟨before.front.trans place.1.ge, place.2.trans_le after.front⟩

/-- A window ends before the next one starts. -/
theorem pairwise_windows (runs : Runs first log last) :
    (log.filterMap Entry.window?).Pairwise fun first second =>
      first.offset + first.length ≤ second.offset := by
  induction runs with
  | done => exact .nil
  | @call cursor next last call answer log replied runs hypothesis =>
      cases answer with
      | window handed =>
          refine List.pairwise_cons.mpr ⟨fun later member => ?_, hypothesis⟩
          exact (window_of_reply replied).2.trans_le (runs.within member).1
      | moved => exact hypothesis
      | refused fault => exact hypothesis

/-- If only whole granules are skipped, every window starts on one. -/
theorem dvd_offset (runs : Runs first log last) (aligned : 32 ∣ first.rest.offset)
    (skips : ∀ entry ∈ log, ∀ bytes, entry.call = .skip bytes → 32 ∣ bytes) :
    ∀ entry ∈ log, 32 ∣ entry.found.rest.offset := by
  induction runs with
  | done => simp
  | call replied _ hypothesis =>
      rcases List.forall_mem_cons.mp skips with ⟨own, others⟩
      exact List.forall_mem_cons.mpr
        ⟨aligned, hypothesis (dvd_offset_of_reply aligned own replied) others⟩

/-- Without a call that was refused, the others run as before. -/
theorem erase {fault : Fault} (runs : Runs first (before ++ entry :: later) last)
    (refused : entry.answer = .refused fault) : Runs first (before ++ later) last := by
  induction before generalizing first with
  | nil =>
      cases runs with
      | call replied runs =>
          cases refused
          cases eq_of_refused replied
          exact runs
  | cons head before hypothesis =>
      cases runs with
      | call replied runs => exact .call replied (hypothesis runs)

end Runs

/-- The start of what is left is the number of bytes that were counted, and the two and what
remains make up a region of this size. -/
structure Sound (length : Nat) (cursor : Cursor) : Prop where
  front : cursor.rest.offset = cursor.offset
  whole : cursor.offset + cursor.remaining = length

theorem Precedes.sound {length : Nat} (precedes : (start length).Precedes cursor) :
    cursor.Sound length := by
  rcases precedes with ⟨_, stop, counted⟩
  change cursor.rest.offset + cursor.remaining = 0 + length at stop
  change cursor.offset + 0 = 0 + cursor.rest.offset at counted
  constructor <;> omega

/-- The answer is the one that the call had to get from the cursor it found. -/
def Entry.Due (entry : Entry) : Prop :=
  match entry.call with
  | .skip bytes =>
    entry.answer = if bytes ≤ entry.found.remaining then .moved
      else .refused (.regionExhausted bytes entry.found.remaining)
  | .carve length =>
    ∃ padded, Region.paddedLength length = .ok padded ∧
      32 ∣ padded ∧ length < padded ∧ padded ≤ length + 32 ∧
      entry.answer = if padded ≤ entry.found.remaining then .window ⟨entry.found.offset, padded⟩
        else .refused (.regionExhausted padded entry.found.remaining)

theorem Entry.due {entry : Entry} (front : entry.found.rest.offset = entry.found.offset)
    (replied : entry.found.reply entry.call = (.ok entry.answer, next)) : entry.Due := by
  rcases entry with ⟨found, call, answer, left⟩
  change found.rest.offset = found.offset at front
  rcases reply_cases replied with ⟨size, asked, ⟨room, granted, _⟩ | ⟨short, refused, _⟩⟩
  · cases call with
    | skip bytes =>
        cases asked
        exact granted.trans (if_pos room).symm
    | carve length =>
        rcases Region.lt_paddedLength asked with ⟨larger, most, whole⟩
        refine ⟨size, asked, Nat.dvd_of_mod_eq_zero whole, larger, most, ?_⟩
        rw [← front]
        exact granted.trans (if_pos room).symm
  · have short := Nat.not_le_of_lt short
    cases call with
    | skip bytes =>
        cases asked
        exact refused.trans (if_neg short).symm
    | carve length =>
        rcases Region.lt_paddedLength asked with ⟨larger, most, whole⟩
        exact ⟨size, asked, Nat.dvd_of_mod_eq_zero whole, larger, most,
          refused.trans (if_neg short).symm⟩

/-- Whatever is asked of the cursor of a region, in whatever order, as long as the calls
return: its offset and what remains make up the region before and after each call, and what
remains starts at the offset; a call gets its bytes if and only if they remain, a window
starts where the cursor was, and a refusal names both sizes; the windows lie in the region
one behind the other, and on whole granules if no others are skipped; and a refused call
leaves the cursor that it found, so that the calls that follow it come to the same without
it. -/
theorem keeps_windows_apart {length : Nat} {log : List Entry} {last : Cursor}
    (runs : Runs (start length) log last) :
    (∀ entry ∈ log, entry.found.Sound length ∧ entry.left.Sound length ∧ entry.Due) ∧
    last.offset + last.remaining = length ∧
    ((log.filterMap Entry.window?).Pairwise fun first second =>
      first.offset + first.length ≤ second.offset) ∧
    (∀ window ∈ log.filterMap Entry.window?, window.offset + window.length ≤ length) ∧
    ((∀ entry ∈ log, ∀ bytes, entry.call = .skip bytes → 32 ∣ bytes) →
      ∀ window ∈ log.filterMap Entry.window?, 32 ∣ window.offset) ∧
    (∀ entry ∈ log, ∀ fault, entry.answer = .refused fault → entry.left = entry.found) ∧
    ∀ before entry later fault, log = before ++ entry :: later → entry.answer = .refused fault →
      Runs (start length) (before ++ later) last := by
  have sound := runs.precedes.sound
  refine ⟨fun entry member => ?_, sound.whole, runs.pairwise_windows, fun window member => ?_,
    fun skips window member => ?_, fun entry member fault refused => ?_, ?_⟩
  · rcases runs.answered member with ⟨precedes, replied, _⟩
    exact ⟨precedes.sound, (precedes.trans (precedes_of_reply replied)).sound,
      Entry.due precedes.sound.front replied⟩
  · have ends := (runs.within member).2
    have whole := sound.whole
    rw [sound.front] at ends
    omega
  · rcases List.mem_filterMap.mp member with ⟨entry, listed, handed⟩
    rcases runs.answered listed with ⟨_, replied, _⟩
    rw [Entry.window?_eq_some_iff.mp handed] at replied
    rw [(window_of_reply replied).1]
    exact runs.dvd_offset (Nat.dvd_zero 32) skips entry listed
  · rcases runs.answered member with ⟨_, replied, _⟩
    rw [refused] at replied
    exact eq_of_refused replied
  · rintro before entry later fault rfl refused
    exact runs.erase refused

/-- A region that is used up to its last byte, with two refusals on the way. -/
theorem keeps_windows_apart_refused :
    let log : List Entry := [
      ⟨⟨⟨0, 160⟩, 0⟩, .skip 64, .moved, ⟨⟨64, 96⟩, 64⟩⟩,
      ⟨⟨⟨64, 96⟩, 64⟩, .carve 40, .window ⟨64, 64⟩, ⟨⟨128, 32⟩, 128⟩⟩,
      ⟨⟨⟨128, 32⟩, 128⟩, .carve 32, .refused (.regionExhausted 64 32), ⟨⟨128, 32⟩, 128⟩⟩,
      ⟨⟨⟨128, 32⟩, 128⟩, .carve 0, .window ⟨128, 32⟩, ⟨⟨160, 0⟩, 160⟩⟩,
      ⟨⟨⟨160, 0⟩, 160⟩, .skip 1, .refused (.regionExhausted 1 0), ⟨⟨160, 0⟩, 160⟩⟩]
    Runs (start 160) log ⟨⟨160, 0⟩, 160⟩ ∧
      log.filterMap Entry.window? = [⟨64, 64⟩, ⟨128, 32⟩] ∧
      ((log.filterMap Entry.window?).Pairwise fun first second =>
        first.offset + first.length ≤ second.offset) ∧
      Runs (start 160) (log.eraseIdx 2) ⟨⟨160, 0⟩, 160⟩ := by
  intro log
  have runs : Runs (start 160) log ⟨⟨160, 0⟩, 160⟩ :=
    .call rfl (.call rfl (.call rfl (.call rfl (.call rfl .done))))
  rcases keeps_windows_apart runs with ⟨_, _, apart, _, _, _, erases⟩
  exact ⟨runs, rfl, apart, erases (log.take 2) _ (log.drop 3) _ rfl rfl⟩

/-! ## Payloads of any length -/

/-- What a client is owed that asks for a window of this size: the window, if as much is
left, and otherwise a refusal with the cursor as it is. -/
def owed (cursor : Cursor) (size : Nat) : Except Failure Answer × Cursor :=
  if size ≤ cursor.remaining then (.ok (.window (cursor.rest.take size)), cursor.advance size)
  else (.ok (.refused (.regionExhausted size cursor.remaining)), cursor)

/-- Neither answer moves the end of the region. -/
theorem precedes_owed (cursor : Cursor) (size : Nat) : cursor.Precedes (cursor.owed size).2 := by
  unfold owed
  split
  · rename_i room
    exact precedes_advance room
  · exact .refl _

theorem reply_carve_of_lt (cursor : Cursor) {length : Nat}
    (fits : Region.padded length < Length.limit) :
    cursor.reply (.carve length) = cursor.owed (Region.padded length) := by
  rw [reply_eq, Call.size, Region.paddedLength_eq_padded fits]
  rfl

theorem reply_carve_of_le (cursor : Cursor) {length : Nat}
    (large : Length.limit ≤ Region.padded length) :
    cursor.reply (.carve length) = (.error (.overflow .multiplication), cursor) := by
  rw [reply_eq, Call.size, Region.paddedLength_eq_error large]

/-- Whatever the cursor and the payload, the least multiple of the granule that is larger
than the payload decides: if as much is left, the client gets a window of this size, and
otherwise it is refused with the cursor as it is.  So it is exactly for payloads that end
before the last granule of 64 bits; the offset then stays within the region.  For all
others the size of the window, which could only be too large, is an overflow. -/
theorem carves_below_last_granule (cursor : Cursor) (length : Nat) :
    ∃ size, IsLeast {multiple | 32 ∣ multiple ∧ length < multiple} size ∧
      (cursor.reply (.carve length) = cursor.owed size ↔ length < Length.limit - 32) ∧
      cursor.Precedes (cursor.owed size).2 ∧
      (Length.limit - 32 ≤ length →
        cursor.reply (.carve length) = (.error (.overflow .multiplication), cursor)) := by
  refine ⟨Region.padded length, Region.isLeast_padded length, ?_, cursor.precedes_owed _, ?_⟩
  · rw [← Region.padded_lt_limit_iff]
    constructor
    · intro answered
      by_contra large
      rw [cursor.reply_carve_of_le (Nat.not_lt.mp large), owed] at answered
      split at answered <;> cases answered
    · exact cursor.reply_carve_of_lt
  · intro long
    apply cursor.reply_carve_of_le
    rw [← Nat.not_lt, Region.padded_lt_limit_iff]
    exact Nat.not_lt.mpr long

/-- The longest payload of 64 bits needs more than any region has, and is not refused. -/
theorem aborts_in_last_granule :
    let cursor := start 64
    ∃ size, IsLeast {multiple | 32 ∣ multiple ∧ 0xFFFFFFFFFFFFFFFF < multiple} size ∧
      cursor.owed size = (.ok (.refused (.regionExhausted 0x10000000000000000 64)), cursor) ∧
      cursor.reply (.carve 0xFFFFFFFFFFFFFFFF) = (.error (.overflow .multiplication), cursor) :=
  ⟨_, Region.isLeast_padded _, rfl, rfl⟩

end Cursor

end RoccCodec
