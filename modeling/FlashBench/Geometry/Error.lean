import FlashBench.Text.Layout

/-!
# Geometry errors

What can be wrong with the way a flash part is divided into sectors, and how each case reads.
-/

namespace FlashBench

/-- A broken rule of flash geometry. -/
inductive GeometryError where
  /-- There is no sector at all. -/
  | emptyLayout
  /-- The program unit cannot be used. -/
  | invalidPageSize (pageSize : UInt32)
  /-- A sector size is zero, reserved, or repeated zero times. -/
  | invalidSectorSize (address size : UInt32)
  /-- A sector does not hold a whole number of pages. -/
  | notPageMultiple (address size pageSize : UInt32)
  /-- A sector does not start at a multiple of its size. -/
  | misaligned (address size : UInt32)
  /-- A sector answers differently at its two ends. -/
  | inconsistentBoundary (address first last : UInt32)
  /-- A region does not start where the one before it ends. -/
  | discontiguous (expected : Nat) (found : UInt32)
  /-- The last sector runs past the end of the device. -/
  | overshoot (stop expected : Nat)
  /-- The window leaves the 32-bit address space. -/
  | windowOverflow (stop : Nat)
  /-- The window is larger than a 32-bit size can say. -/
  | windowTooLarge (span : Nat)
  /-- An address outside the device claims to be in a sector. -/
  | sentinelMissing (address size : UInt32)
deriving DecidableEq, Repr, Inhabited

open Text in
/-- The error as a sentence. -/
def GeometryError.message : GeometryError → String
  | emptyLayout => "sector layout has no regions"
  | invalidPageSize pageSize => s!"page size {pageSize.toNat} is not usable"
  | invalidSectorSize a size => s!"sector size at {address a.toNat} is {hex size.toNat}"
  | notPageMultiple a size pageSize =>
      s!"sector size {hex size.toNat} at {address a.toNat} is not a multiple of page size "
        ++ hex pageSize.toNat
  | misaligned a size => s!"sector at {address a.toNat} is not aligned to its size {hex size.toNat}"
  | inconsistentBoundary a first last =>
      s!"sector at {address a.toNat} reports size {hex first.toNat} at its start and "
        ++ s!"{hex last.toNat} at its last byte"
  | discontiguous expected found =>
      s!"region expected at {hex expected} starts at {address found.toNat}"
  | overshoot stop expected => s!"sector walk ended at {hex stop}, device ends at {hex expected}"
  | windowOverflow stop => s!"layout ends at {hex stop}, beyond the 32-bit address space"
  | windowTooLarge span => s!"layout spans {hex span} bytes, more than a 32-bit size can report"
  | sentinelMissing a size =>
      s!"address {address a.toNat} outside the device reports sector size {hex size.toNat}"

end FlashBench
