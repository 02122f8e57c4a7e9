import FlashBench.Proofs.Bench.Reached
import FlashBench.Proofs.Part.Atomic

/-!
# Calls on the way of a part

Wherever a bench has got to, by whatever commands and faults, a call to a session on its part is
answered, and an error leaves the medium as it was (`Reached.call_answered`). An operation may still
be in flight, the registers and the page buffer may hold anything, and the part may be held up: of
the bench it is used only that its controller is sound.
-/

namespace FlashBench

namespace Rig

/-- The states that accesses lead to are closed under accesses. -/
theorem after_driven (ctrl : Controller) :
    Driven fun rig => ∃ accesses, rig.ctrl = ctrl.after accesses :=
  Controller.Stable.driven (Q := fun next => ∃ accesses, next = ctrl.after accesses)
    fun _ ⟨accesses, hafter⟩ access =>
      ⟨accesses ++ [access], by rw [hafter, Controller.after_append]; rfl⟩

end Rig

namespace Bench

variable {setup : BenchSetup} {files : FileTree} {bench : Bench}

/-- **Every call is answered.** It ends with a success or with one of the errors that a call may end
with, and after an error the medium is what it was before. All that the call does to the controller
is to access it, and no accesses bring it into a state in which an operation would reach beyond the
medium or the page buffer. -/
theorem Reached.call_answered (hlayout : setup.layout.validate = .ok (.ok ()))
    (h : Reached setup files bench) (log : Log) (call : FlashCall) :
    ∃ reply next,
      (Session.call ⟨Rig.device⟩ call).run.runOn { state := bench.rig, log } = (.ok reply, next) ∧
      (∀ error, reply = .error error →
        Rig.CallErrors bench.rig.ctrl bench.rig.pollTimeout call error ∧
          next.state.ctrl.medium = bench.rig.ctrl.medium) ∧
      (∃ accesses, next.state.ctrl = bench.rig.ctrl.after accesses) ∧
      ∀ accesses, (bench.rig.ctrl.after accesses).Roomy := by
  have hatomic : Rig.Atomic bench.rig.ctrl bench.rig.pollTimeout _ _ :=
    Rig.call_atomic hlayout h.sound.on call
  obtain ⟨reply, hends⟩ := hatomic
  obtain ⟨next, hrun, hreply⟩ := hends { state := bench.rig, log } ⟨rfl, rfl⟩
  -- a call does nothing to the controller but accesses
  have hkept := ((Rig.device_driven (Rig.after_driven bench.rig.ctrl)).call call).runOn
    { state := bench.rig, log } ⟨[], rfl⟩
  rw [hrun] at hkept
  exact ⟨reply, next, hrun, hreply, hkept, fun accesses =>
    ((Controller.sound_stable _).after h.sound accesses).on.roomy hlayout⟩

/-- A part whose driver does not wait for a program. -/
def impatient : BenchSetup where
  layout := smallLayout
  pollTimeout := 2
  clocks := smallRig.clocks

theorem call_answered_impatient :
    impatient.layout.validate = .ok (.ok ()) ∧
      ∃ bench, Reached impatient {} bench ∧
        ∃ next, (Session.call ⟨Rig.device⟩ (.program 0x1004 ⟨#[1, 2, 3, 4, 5, 6, 7, 8]⟩)).run.runOn
            { state := bench.rig } = (.ok (.error .hardwareTimeout), next) ∧
          next.state.ctrl.medium = Memory.filled 32 0xFF := by
  have hlayout : impatient.layout.validate = .ok (.ok ()) := rfl
  obtain ⟨bench, after, hstart⟩ : ∃ bench after,
      start impatient impatient.clocks { files := {} } = (some bench, after) := ⟨_, _, rfl⟩
  have hreached : Reached impatient {} bench := .start rfl hstart
  obtain ⟨reply, next, hrun, hreply, _⟩ :=
    hreached.call_answered hlayout {} (.program 0x1004 ⟨#[1, 2, 3, 4, 5, 6, 7, 8]⟩)
  cases hstart
  obtain rfl : .error .hardwareTimeout = reply := Except.ok.inj (congrArg Prod.fst hrun)
  exact ⟨hlayout, _, hreached, next, hrun, (hreply _ rfl).2⟩

end Bench

end FlashBench
