import FlashBench.Device.Basic

/-!
# Validation errors

Why a validation run failed.
-/

namespace FlashBench

/-- The cause of a failed run. -/
inductive ValidationError where
  | flash (error : FlashError)
  | geometry (error : GeometryError)
  /-- A byte read back is not the expected one. -/
  | verificationMismatch (address offset : UInt32) (expected actual : UInt8)
  /-- The busy loop took noticeably longer or shorter after the flash work. -/
  | driftExceeded (baselineMicros measuredMicros allowedMicros : Nat)
  /-- The patterns cannot show that anything was programmed. -/
  | indistinctPatterns (first second eraseValue : UInt8)
  /-- There is no first sample to compare with. -/
  | missingBaseline
deriving DecidableEq, Repr, Inhabited

open Text in
/-- The error as a sentence. -/
def ValidationError.message : ValidationError → String
  | flash error => s!"flash: {error.message}"
  | geometry error => s!"geometry: {error.message}"
  | verificationMismatch a offset expected actual =>
      s!"read back {byte actual.toNat} at {address a.toNat}+{hex offset.toNat}, "
        ++ s!"expected {byte expected.toNat}"
  | driftExceeded baseline measured allowed =>
      s!"busy loop took {measured} us after flash work, {baseline} us before "
        ++ s!"(allowed drift {allowed} us)"
  | indistinctPatterns first second eraseValue =>
      s!"patterns {byte first.toNat} and {byte second.toNat} cannot show programming on a part "
        ++ s!"erased to {byte eraseValue.toNat}"
  | missingBaseline => "drift check ran without a baseline sample"

end FlashBench
