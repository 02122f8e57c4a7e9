import FlashBench.Proofs.Part.FlashArray

/-!
# Calls and their operations

An erase and a program are carried out by operations of the controller; a read is not. On a part
that drops its programs these are reported as done and change nothing, which `FlashArray.after`
takes into account. A proper call leaves a stretch of the window written or everything as it was
(`FlashArray.after_erase`, `FlashArray.after_program`).
-/

namespace FlashBench

namespace FlashCall

/-- The operation that carries out a call, if it takes one. -/
def operation? : FlashCall → Option FlashOperation
  | erase _ => some .eraseSector
  | program _ _ => some .programPage
  | read _ _ => none

/-- Where the call is for. -/
def address : FlashCall → UInt32
  | erase address => address
  | program address _ => address
  | read address _ => address

end FlashCall

namespace FlashArray

variable {layout : FlashLayout} {array : FlashArray layout} {drops : Bool}

/-- The array after a call to a part that drops its programs, or does not. -/
def after (array : FlashArray layout) (drops : Bool) : FlashCall → FlashArray layout
  | .program address data => if drops then array else (array.call (.program address data)).2
  | call => (array.call call).2

theorem after_erase (hlayout : layout.validate = .ok (.ok ())) {sector : Sector}
    (hmem : sector ∈ layout.sectorList) :
    (array.after drops (.erase sector.start)).bytes =
      Memory.patch array.bytes sector.start.toNat sector.size.toNat fun _ => layout.eraseValue := by
  show (array.erase sector.start.toNat).2.bytes = _
  rw [erase_proper hlayout hmem]
  rfl

theorem after_program {address : UInt32} {data : ByteArray}
    (hproper : (FlashCall.program address data).Proper layout) :
    (array.after drops (.program address data)).bytes =
      if drops then array.bytes
      else Memory.patch array.bytes address.toNat data.size
        (Memory.programmedOver layout.eraseValue array.bytes
          (Memory.loaded data address.toNat)) := by
  cases drops with
  | true => rfl
  | false =>
      show (array.program address.toNat data).2.bytes = _
      rw [program_proper hproper]
      rfl

end FlashArray

end FlashBench
