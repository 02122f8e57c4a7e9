import FlashBench.Proofs.Part.Access
import FlashBench.Proofs.Part.Confined

/-!
# What the driver cannot break

All that the driver does to its controller it does by accesses, none of which switches a fault on or
off, and all that an operation does besides is that an erase may switch the CPU clock. So what
neither of these breaks (`Rig.Driven`) is still true after any operation, however it ends: after a
timeout, a fault or an error as well as after a success. What no access to a controller breaks
(`Controller.Stable`) is an instance, and so is whatever has nothing to do with the controller.
-/

namespace FlashBench

/-- A driver makes such an access; the others switch faults. -/
def ControllerAccess.fromDriver : ControllerAccess → Bool
  | .setStalled _ => false
  | .setDropWrites _ => false
  | .setFailInit _ => false
  | .setEraseClock _ => false
  | _ => true

/-- No access of a driver breaks what is said, and no switch of the CPU clock by an erase. -/
structure Rig.Driven (K : Rig → Prop) : Prop where
  access : ∀ rig access, access.fromDriver = true → K rig →
    K { rig with ctrl := (rig.ctrl.access access).2 }
  cpuHz : ∀ rig cpuHz, rig.ctrl.eraseClockHz = some cpuHz → K rig →
    K { rig with clocks := { rig.clocks with cpuHz } }

theorem Controller.Stable.driven {Q : Controller → Prop} (hQ : Controller.Stable Q) :
    Rig.Driven fun rig => Q rig.ctrl :=
  ⟨fun rig access _ h => hQ rig.ctrl h access, fun _ _ _ h => h⟩

/-- What no access breaks, no access breaks that switches a fault either. -/
theorem Controller.Stable.access_keeps {Q : Controller → Prop} (hQ : Controller.Stable Q)
    (access : ControllerAccess) :
    Act.Keeps (fun rig => Q rig.ctrl) (Rig.changeCtrl fun ctrl => (ctrl.access access).2) :=
  .change _ fun rig h => hQ rig.ctrl h access

namespace Rig

variable {K : Rig → Prop} (hK : Driven K)

include hK

/-! ## The driver -/

theorem access_keeps (access : ControllerAccess) (hdriver : access.fromDriver = true) :
    Act.Keeps K (changeCtrl fun ctrl => (ctrl.access access).2) :=
  .change _ fun rig h => hK.access rig access hdriver h

theorem afterwards_keeps (completion : Completion) : Act.Keeps K (afterwards completion) := by
  cases completion with
  | programmed => exact .pure _
  | refused => exact .pure _
  | dropped => exact .note _ _
  | erased =>
      -- the one operation that may switch the clock of the CPU
      refine Act.Leads.state fun rig hrig => ?_
      cases hhook : rig.ctrl.eraseClockHz with
      | none => exact .pure _ fun _ heq => heq ▸ hrig
      | some hz => exact .note_bind _ _ (.change _ fun _ heq => heq ▸ hK.cpuHz rig hz hhook hrig)

theorem poll_keeps : Act.Keeps K poll := by
  refine .bind (.changeGet _ fun rig h => hK.access rig .poll rfl h) fun completion => ?_
  cases completion with
  | none => exact .pure _
  | some completion => exact afterwards_keeps hK completion

theorem writeControl_keeps (value : UInt32) : Act.Keeps K (writeControl value) := by
  have hwrite : Act.Keeps K (changeCtrl (·.writeControl value)) :=
    access_keeps hK (.writeControl value) rfl
  refine .bind ctrlNow_keeps fun _ => .ite (fun _ => hwrite) fun _ => ?_
  exact .bind (.note _ _) fun _ => hwrite

theorem clearStatus_keeps : Act.Keeps K (changeCtrl fun ctrl => { ctrl with status := 0 }) :=
  access_keeps hK (.writeStatus 0) rfl

theorem awaitCompletion_keeps (address : UInt32) (ticks : Nat) :
    Attempt.Keeps K (awaitCompletion address ticks) := by
  induction ticks with
  | zero => exact .bind (.lift timeoutNow_leads) fun _ => .bind (.note _ _) fun _ => .throw _
  | succ ticks ih =>
      unfold awaitCompletion
      refine .bind (.lift (poll_keeps hK)) fun _ => .bind (.lift ctrlNow_keeps) fun _ => ?_
      refine .ite (fun _ => .lift (clearStatus_keeps hK)) fun _ => .ite (fun _ => ?_) fun _ => ih
      exact .bind (.lift (clearStatus_keeps hK)) fun _ => .bind (.note _ _) fun _ => .throw _

theorem perform_keeps (operation : FlashOperation) (address : UInt32) :
    Attempt.Keeps K (perform operation address) := by
  refine .bind (.lift ctrlNow_keeps) fun _ => .ite (fun _ => ?_) fun _ =>
    .bind (.note _ _) fun _ => .bind_throw _ _
  have haim : Act.Keeps K (changeCtrl fun ctrl => { ctrl with status := 0, address }) :=
    .change _ fun rig h =>
      hK.access _ (.writeAddress address) rfl (hK.access rig (.writeStatus 0) rfl h)
  refine .bind (.lift haim) fun _ => .bind (.lift (writeControl_keeps hK _)) fun _ => ?_
  exact .bind (.lift timeoutNow_leads) fun _ => awaitCompletion_keeps hK _ _

theorem programPages_keeps (address : UInt32) (content : ByteArray) (pageSize pages index : Nat) :
    Attempt.Keeps K (programPages address content pageSize pages index) := by
  induction pages generalizing index with
  | zero => exact .pure _
  | succ pages ih =>
      refine .bind (.lift (access_keeps hK (.writePageBuffer _) rfl)) fun _ => ?_
      exact .bind (.checked _) fun _ => .bind (perform_keeps hK _ _) fun _ => ih _

/-- **The driver** breaks nothing that no access breaks, at whatever address it is asked for. -/
theorem device_driven : device.Keeps K fun _ => True :=
  { device_asks with
    eraseSector := fun _ _ => perform_keeps hK .eraseSector _
    programPage := fun _ _ _ =>
      .bind (.lift ctrlNow_keeps) fun _ => programPages_keeps hK _ _ _ _ _ }

end Rig

end FlashBench
