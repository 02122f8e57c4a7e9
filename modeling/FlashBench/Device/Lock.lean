import FlashBench.Device.Basic

/-!
# Session locks

The claim flag of a driver: at most one holder at a time.
-/

namespace FlashBench

/-- Whether somebody holds the device. -/
structure SessionLock where
  held : Bool := false
deriving DecidableEq, Repr, Inhabited

namespace SessionLock

/-- Takes the lock; refused while it is held. -/
def acquire (lock : SessionLock) : Except FlashError Unit × SessionLock :=
  if lock.held then (.error .alreadyOpen, lock) else (.ok (), { held := true })

/-- Gives the lock back; refused when nobody holds it. -/
def release (lock : SessionLock) : Except FlashError Unit × SessionLock :=
  if lock.held then (.ok (), { held := false }) else (.error .freeFailure, lock)

end SessionLock

end FlashBench
