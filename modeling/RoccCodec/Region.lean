import RoccCodec.Fault

namespace RoccCodec

/-!
# Regions and windows

A region is a page-aligned, zeroed block.  A cursor hands out windows from its
start on, each a whole number of granules long with at least one byte to spare.
It only moves forward, and a request it cannot serve leaves it where it is.
-/

namespace Region

/-- Bytes of a page.  Every region starts on one. -/
def pageSize : Nat := 4096

/-- The alignment a region is promised to have. -/
def minAlignment : Nat := 8

/-- Windows start and end on multiples of this. -/
def granule : Nat := 32

/-- Sizes from here on, rounded up to a page, are not addressable. -/
def sizeLimit : Nat := 0x8000000000000000 - pageSize

/-- Whether a region of this size can be laid out. -/
def check (length : Nat) : Except Fault Unit :=
  if length = 0 then .error .emptyRegion
  else if length ≤ sizeLimit then .ok ()
  else .error .outOfMemory

/-- The size of the window for a payload: the next multiple of the granule
that is larger than the payload. -/
def paddedLength (length : Nat) : Except Overflow Nat :=
  Length.mul (length / granule + 1) granule

/-- The size of a region that holds windows for every length in turn, plus a
page by which the whole layout may be shifted. -/
def capacity (lengths : List Nat) : Except Overflow Nat := do
  let total ← lengths.foldlM (fun total length => do Length.add total (← paddedLength length)) 0
  Length.add total pageSize

theorem paddedLength_eq_ok_iff {length padded : Nat} :
    paddedLength length = .ok padded ↔
      padded = (length / 32 + 1) * 32 ∧ padded < Length.limit := by
  simp [paddedLength, granule, Length.mul_eq_ok_iff]

theorem lt_paddedLength {length padded : Nat} (computed : paddedLength length = .ok padded) :
    length < padded ∧ padded ≤ length + 32 ∧ padded % 32 = 0 := by
  rw [paddedLength_eq_ok_iff] at computed
  omega

end Region

/-- A part of a region: where it starts, from the start of the region, and its
length. -/
structure Window where
  offset : Nat
  length : Nat
  deriving DecidableEq, Repr

namespace Window

def take (window : Window) (bytes : Nat) : Window := ⟨window.offset, bytes⟩

/-- What is behind the first bytes of a window. -/
def drop (window : Window) (bytes : Nat) : Window :=
  ⟨window.offset + bytes, window.length - bytes⟩

end Window

/-- What is left of a region, and a count of the bytes that have been passed. -/
structure Cursor where
  rest : Window
  offset : Nat
  deriving DecidableEq, Repr

namespace Cursor

def start (length : Nat) : Cursor := ⟨⟨0, length⟩, 0⟩

def remaining (cursor : Cursor) : Nat := cursor.rest.length

/-- The cursor behind some bytes, of which as many are left. -/
def advance (cursor : Cursor) (bytes : Nat) : Cursor :=
  ⟨cursor.rest.drop bytes, cursor.offset + bytes⟩

/-- Pass over some bytes, or report how many are left. -/
def skip (cursor : Cursor) (bytes : Nat) : Except Fault Unit × Cursor :=
  if bytes ≤ cursor.remaining then (.ok (), cursor.advance bytes)
  else (.error (.regionExhausted bytes cursor.remaining), cursor)

/-- Hand out the window for a payload, or report how many bytes are left. -/
def carve (cursor : Cursor) (length : Nat) : Except Failure Window × Cursor :=
  match Region.paddedLength length with
  | .error operation => (.error (.overflow operation), cursor)
  | .ok padded =>
    if padded ≤ cursor.remaining then (.ok (cursor.rest.take padded), cursor.advance padded)
    else (.error (.refused (.regionExhausted padded cursor.remaining)), cursor)

theorem remaining_start (length : Nat) : (start length).remaining = length := rfl

theorem remaining_advance (cursor : Cursor) (bytes : Nat) :
    (cursor.advance bytes).remaining = cursor.remaining - bytes := rfl

end Cursor

end RoccCodec
