import FlashBench.Proofs.Part.Driven
import FlashBench.Proofs.Part.Erasing

/-!
# When an erase switches the clock of the CPU

A controller may have been told to switch the CPU to another frequency with every erase. The driver
leaves the clocks alone otherwise, and the switch itself alone (`device_hooked`). **An erase that is
reported as done has switched the clock** (`perform_erase_switches`): the driver starts it with an
empty status register, so the done bit it waits for is that of its own erase.
-/

namespace FlashBench

namespace Controller

variable {ctrl : Controller}

/-- Operations do not change what an erase switches the CPU to. -/
theorem execute_eraseClockHz (ctrl : Controller) (operation : Option FlashOperation) :
    (ctrl.execute operation).2.eraseClockHz = ctrl.eraseClockHz := by
  cases operation with
  | none => rw [execute]
  | some operation =>
      cases operation with
      | programPage =>
          rcases ctrl.programPage_cases with ⟨_, h⟩ | ⟨_, _, _, ⟨_, h⟩ | ⟨_, h⟩⟩ <;>
            simp only [execute, h, store]
      | eraseSector =>
          rcases ctrl.eraseSector_cases rfl with ⟨_, h⟩ | ⟨_, _, _, _, h⟩ <;>
            simp only [execute, h, store]

theorem poll_eraseClockHz (ctrl : Controller) : ctrl.poll.2.eraseClockHz = ctrl.eraseClockHz := by
  rcases ctrl.poll_cases with ⟨_, hpoll⟩ | ⟨_, _, _, ⟨_, hpoll⟩ | ⟨_, hpoll⟩⟩
  · rw [hpoll]
  · rw [hpoll]
  · rw [hpoll, complete_eq]
    exact execute_eraseClockHz _ _

theorem access_eraseClockHz {access : ControllerAccess} (h : access.fromDriver = true) :
    (ctrl.access access).2.eraseClockHz = ctrl.eraseClockHz := by
  cases access with
  | writeControl value =>
      rcases ctrl.writeControl_cases value with ⟨_, hwrite⟩ | ⟨_, _, hwrite⟩ | ⟨_, _, hwrite⟩ <;>
        simp only [Controller.access, hwrite, launched]
  | poll => exact poll_eraseClockHz ctrl
  | writePageBuffer data => simp only [Controller.access, Controller.writePageBuffer]
  | writeStatus | writeAddress | directRead => rfl
  | setStalled | setDropWrites | setFailInit | setEraseClock => cases h

end Controller

namespace Rig

variable {hook : Option UInt32} {q : Clocks → Prop} {hz : UInt32}

/-- Erases switch the CPU as `hook` says, and `q` is known of the clocks. -/
def Hooked (hook : Option UInt32) (q : Clocks → Prop) (rig : Rig) : Prop :=
  rig.ctrl.eraseClockHz = hook ∧ q rig.clocks

section Hooked

variable (hq : ∀ hz, hook = some hz → ∀ clocks : Clocks, q clocks → q { clocks with cpuHz := hz })

include hq

theorem hooked_driven : Driven (Hooked hook q) where
  access := fun _ _ hdriver h => ⟨(Controller.access_eraseClockHz hdriver).trans h.1, h.2⟩
  cpuHz := fun _ hz hhook h => ⟨h.1, hq hz (h.1.symm.trans hhook) _ h.2⟩

/-- **The driver** leaves the clocks alone, but for the switch. -/
theorem device_hooked : device.Keeps (Hooked hook q) fun _ => True :=
  device_driven (hooked_driven hq)

end Hooked

/-- The lock has nothing to do with the clocks. -/
theorem changeLock_hooked (f : SessionLock → Except FlashError Unit × SessionLock) :
    Act.Keeps (Hooked hook q)
      (Act.changeGet fun rig => ((f rig.lock).1, { rig with lock := (f rig.lock).2 })) :=
  .changeGet _ fun _ h => h

theorem init_hooked : Attempt.Keeps (Hooked hook q) device.init :=
  .bind (.lift ctrlNow_keeps) fun _ => .guard fun _ => changeLock_hooked SessionLock.acquire

theorem free_hooked : Attempt.Keeps (Hooked hook q) device.free :=
  changeLock_hooked SessionLock.release

/-- **An erase that is reported as done** has switched the CPU. -/
theorem perform_erase_switches {S : Fault → Rig → Prop} (address : UInt32) :
    Attempt.Leads (fun rig => rig.ctrl.eraseClockHz = some hz) (perform .eraseSector address)
      (fun _ rig => rig.clocks.cpuHz = hz) (fun _ _ => True) S := by
  have hlands : Landing (·.eraseClockHz = some hz) (·.clocks.cpuHz = hz) := by
    refine ⟨fun _ _ hhook => hhook, fun rig _ left hhook _ hpoll => ?_, fun _ hswitched => hswitched⟩
    have hsame : left.eraseClockHz = some hz := by
      have hkept := rig.ctrl.poll_eraseClockHz.trans hhook
      rwa [hpoll] at hkept
    show (switched { rig with ctrl := left }).clocks.cpuHz = hz
    rw [switched, hsame]
  exact perform_erase_leads hlands fun _ hhook _ => hhook

/-- An erase that is reported as done leaves the clocks as they were but for the switch. -/
theorem eraseSector_hooked (hq : ∀ clocks : Clocks, q clocks → q { clocks with cpuHz := hz })
    (address : UInt32) :
    Attempt.Leads (Hooked (some hz) q) (device.eraseSector address)
      (fun _ rig => Hooked (some hz) q rig ∧ rig.clocks.cpuHz = hz) (fun _ _ => True)
      fun _ _ => True := by
  have hkeeps : Attempt.Keeps (Hooked (some hz) q) (device.eraseSector address) :=
    (device_hooked fun _ heq => Option.some.inj heq ▸ hq).eraseSector address trivial
  exact ((perform_erase_switches (S := fun _ _ => True) address).and_keeps hkeeps).mono
    (fun _ h => ⟨h.1, h⟩) (fun _ _ h => ⟨h.2, h.1⟩) (fun _ _ _ => trivial) fun _ _ _ => trivial

end Rig

end FlashBench
