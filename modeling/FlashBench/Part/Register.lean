/-!
# Controller registers

The bit fields of the three controller registers: in `control` a start bit and a two-bit
operation, in the operation status a done bit and a three-bit error, and one enable bit that is
clear while an operation is in flight.
-/

namespace FlashBench.Register

/-- `count` bits of a register from bit `offset` on. -/
structure Field where
  offset : UInt32
  mask : UInt32
deriving DecidableEq, Repr

namespace Field

/-- The value of the field in a register. -/
def read (field : Field) (register : UInt32) : UInt32 := (register >>> field.offset) &&& field.mask

/-- A register of zeros with the field set to `value`. -/
def of (field : Field) (value : UInt32) : UInt32 := (value &&& field.mask) <<< field.offset

/-- The register with the field replaced. -/
def write (field : Field) (register value : UInt32) : UInt32 :=
  (register &&& ~~~(field.mask <<< field.offset)) ||| field.of value

end Field

/-- Starts the operation when set; clear again when it has completed. -/
def start : Field := ⟨0, 1⟩

/-- The operation to start. -/
def operation : Field := ⟨1, 3⟩

/-- The last operation completed without an error. -/
def done : Field := ⟨0, 1⟩

/-- The error of the last operation, zero for none. -/
def error : Field := ⟨1, 7⟩

/-- The control register may be written. -/
def enable : Field := ⟨0, 1⟩

end FlashBench.Register
