/-!
# Memory operations

What erasing and programming do to bytes. Programming only moves bits away from their erased
state, so it is an accumulation: with respect to the erased value, bits are added and never
removed.
-/

namespace FlashBench.Memory

/-- Appends `n` copies of `value`. -/
def appendFill (value : UInt8) : Nat → ByteArray → ByteArray
  | 0, bytes => bytes
  | n + 1, bytes => appendFill value n (bytes.push value)

/-- `n` copies of `value`. -/
def filled (n : Nat) (value : UInt8) : ByteArray :=
  appendFill value n (ByteArray.emptyWithCapacity n)

/-- `bytes` with `new` in place of what stood at `offset`. -/
def overwrite (bytes : ByteArray) (offset : Nat) (new : ByteArray) : ByteArray :=
  new.copySlice 0 bytes offset new.size

/-- What a cell holds after `data` was programmed over `old`. -/
def programmedByte (erased old data : UInt8) : UInt8 :=
  erased ^^^ ((erased ^^^ old) ||| (erased ^^^ data))

/-- Appends what the cells of a page hold after programming, for pairs of old cell and data. -/
def appendProgrammed (erased : UInt8) (old data : List UInt8) (bytes : ByteArray) : ByteArray :=
  match old, data with
  | cell :: old, value :: data =>
      appendProgrammed erased old data (bytes.push (programmedByte erased cell value))
  | _, _ => bytes

/-- What a page holds after `data` was programmed over `old`. -/
def programmed (erased : UInt8) (old data : ByteArray) : ByteArray :=
  appendProgrammed erased old.data.toList data.data.toList (ByteArray.emptyWithCapacity old.size)

end FlashBench.Memory
