import FlashBench.Proofs.Device.Recorded
import FlashBench.Proofs.Part.Confined
import FlashBench.Proofs.Part.FlashArray
import FlashBench.Proofs.Validation.Keeps

/-!
# Reserved memory is never touched

A run compares the sectors that it is about to touch with the reserved end, and it compares the
addresses it hands to the device, not the ones the device should have meant. So the comparison
protects the reserved memory on **every** device, also on one that answers at random
(`reserved_untouched`). On the driver of a part an erase or a program never goes below its address,
and the bytes stay as well.
-/

namespace FlashBench.Validator

/-- On a recorded device all that is recorded lies at or above the reserved end. -/
theorem minded_recorded {σ : Type} (device : Device σ) (timer : CycleTimer σ)
    (allowed : UInt32 → Prop) :
    Minded (Recorded.Within allowed) allowed device.recorded timer.recorded where
  calls := device.recorded_keeps allowed
  init := device.init.onHardware_keeps allowed
  free := device.free.onHardware_keeps allowed
  timer := timer.recorded_keeps allowed

/-- On the driver of a part all that changes lies at or above the reserved end. -/
theorem minded_rig {timer : CycleTimer Rig} (htimer : timer.Apart) (layout : FlashLayout)
    (bytes : Nat → UInt8) (reservedEnd : UInt32) :
    Minded (fun rig => rig.ctrl.Confined layout bytes (reservedEnd.toNat ≤ ·) fun _ => True)
      (reservedEnd ≤ ·) Rig.device timer where
  calls := Rig.device_keeps fun _ hreserved _ ha =>
    ⟨Nat.le_trans (UInt32.le_iff_toNat_le.mp hreserved) ha, trivial⟩
  init := Rig.device_init_keeps
  free := Rig.device_free_keeps
  timer := htimer.keeps_ctrl _

/-- **Reserved memory is never touched.** Whatever the device and the timer answer, and however many
events there are, every erase and every program that reaches the device is for an address from the
reserved end on. On the driver of a part no byte below the reserved end changes, whatever state the
part is in. -/
theorem reserved_untouched :
    (∀ {σ : Type} (device : Device σ) (timer : CycleTimer σ) (config : ValidatorConfig)
      (events : Nat) (hardware : σ) (log : Log),
      ∀ call ∈ ((afterEvents device.recorded timer.recorded events { config }).runOn
        { state := { hardware }, log }).2.state.calls, config.reservedEnd ≤ call.address) ∧
    ∀ (layout : FlashLayout) (rig : Rig), rig.ctrl.On layout →
      (rig.ctrl.isEnabled = true → rig.ctrl.busy = none) →
      ∀ timer : CycleTimer Rig, timer.Apart →
      ∀ (config : ValidatorConfig) (events : Nat) (log : Log) (a : Nat),
        layout.start.toNat ≤ a → a < layout.stop → a < config.reservedEnd.toNat →
        ((afterEvents Rig.device timer events { config }).runOn
          { state := rig, log }).2.state.ctrl.byteAt a = rig.ctrl.byteAt a := by
  constructor
  · intro σ device timer config events hardware log
    have hminded := minded_recorded device timer (config.reservedEnd ≤ ·)
    have hkeeps := afterEvents_keeps hminded { config } (fun _ h => h) events
    exact hkeeps.runOn { state := { hardware }, log } fun call hmem => nomatch hmem
  · intro layout rig hon hfree timer htimer config events log a hfirst hlast hreserved
    have hminded := minded_rig htimer layout rig.ctrl.byteAt config.reservedEnd
    have hkeeps := afterEvents_keeps hminded { config } (fun _ h => h) events
    have hstart : rig.ctrl.Confined layout rig.ctrl.byteAt (config.reservedEnd.toNat ≤ ·)
        fun _ => True :=
      ⟨⟨rig.ctrl.byteAt, hon.holds_byteAt, fun _ _ => rfl⟩, fun _ _ _ => trivial, hfree⟩
    have hlater := hkeeps.runOn { state := rig, log } hstart
    exact hlater.byteAt hfirst hlast (Nat.not_le_of_lt hreserved)

/-- A part whose first two sectors are reserved keeps the last byte of them, which is erased. -/
theorem reserved_untouched_smallRig :
    smallRig.ctrl.On smallLayout ∧ (smallRig.ctrl.isEnabled = true → smallRig.ctrl.busy = none) ∧
      (Rig.timer enoughReads).Apart ∧
      ((afterEvents Rig.device (Rig.timer enoughReads) 6
        { config := { reservedEnd := 0x1010 } }).runOn
          { state := smallRig }).2.state.ctrl.byteAt 0x100F = 0xFF := by
  have hon : smallRig.ctrl.On smallLayout := Controller.create_on rfl rfl _ none
  have hfree : smallRig.ctrl.isEnabled = true → smallRig.ctrl.busy = none := fun _ => rfl
  have htimer := Rig.timer_apart enoughReads
  have hbefore : smallRig.ctrl.byteAt 0x100F = 0xFF := rfl
  have hsame := reserved_untouched.2 smallLayout smallRig hon hfree _ htimer
    { reservedEnd := 0x1010 } 6 {} 0x100F (by decide) (by decide) (by decide)
  exact ⟨hon, hfree, htimer, hsame.trans hbefore⟩

end FlashBench.Validator
