import FlashBench.Proofs.Part.Confined

/-!
# What an erase has done when it is reported

The driver starts an erase with an empty status register, so the done bit that it waits for is that
of its own erase, and not one that was left there. What the completion of the erase brings about
(`Rig.Landing`) has come about when the erase is reported as done (`Rig.perform_erase_leads`). So the
sector is erased then, whatever was in it (`Rig.perform_erase_erases`).
-/

namespace FlashBench

namespace Controller

variable {ctrl : Controller}

/-- An erase in flight, with nothing reported so far. -/
structure Erasing (ctrl : Controller) : Prop where
  operation : ctrl.operation? = some .eraseSector
  status : ctrl.status = 0

/-- **Every tick** of an erase leaves it in flight, or reports an error or that it is done. -/
theorem Erasing.poll_cases (h : ctrl.Erasing) :
    (∃ busy, ctrl.poll = (none, { ctrl with busy })) ∨
      (∃ error left, ctrl.poll = (some (.refused error), left) ∧
        Register.done.read left.status = 0 ∧ Register.error.read left.status ≠ 0) ∨
      ∃ address left, ctrl.poll = (some (.erased address), left) ∧
        Register.done.read left.status ≠ 0 := by
  rcases ctrl.poll_cases with ⟨_, hpoll⟩ | ⟨count, _, _, ⟨_, hpoll⟩ | ⟨_, hpoll⟩⟩
  · exact .inl ⟨ctrl.busy, hpoll⟩
  · exact .inl ⟨some (count - 1), hpoll⟩
  · refine .inr ?_
    rw [complete_eq, h.operation, execute] at hpoll
    rcases ctrl.eraseSector_cases rfl with ⟨_, herase⟩ | ⟨offset, _, _, _, herase⟩
    · rw [herase] at hpoll
      have hstatus : statusAfter ctrl.status (.refused .eraseError) =
          Register.error.write 0 OperationError.eraseError.code := by rw [h.status, statusAfter]
      refine .inl ⟨_, _, hpoll, ?_⟩
      show Register.done.read (statusAfter _ _) = 0 ∧ Register.error.read (statusAfter _ _) ≠ 0
      rw [hstatus]
      decide
    · rw [herase] at hpoll
      have hstatus : statusAfter ctrl.status (.erased ctrl.address) =
          Register.done.write 0 1 := by rw [h.status]; rfl
      refine .inr ⟨_, _, hpoll, ?_⟩
      simp only [released, store]
      rw [hstatus]
      decide

/-- The medium holds the erase value all over the sector. -/
def Erased (layout : FlashLayout) (sector : Sector) (ctrl : Controller) : Prop :=
  ∃ bytes, ctrl.Holds layout bytes ∧ ∀ a, sector.Covers a → bytes a = layout.eraseValue

/-- **An erase that has completed** has erased its sector. -/
theorem Erasing.erased {layout : FlashLayout} {sector : Sector} {address : UInt32}
    {left : Controller} (h : ctrl.Erasing) (hlayout : layout.validate = .ok (.ok ()))
    (hmem : sector ∈ layout.sectorList) (hon : ctrl.On layout)
    (haddress : ctrl.address = sector.start)
    (hpoll : ctrl.poll = (some (.erased address), left)) : left.Erased layout sector := by
  have hcharts := FlashLayout.charts_geometry hlayout hon.sectorMap
  have hsize : ctrl.sectorMap.sectorSize ctrl.address = sector.size :=
    haddress ▸ (hcharts.admits sector hmem).first
  rcases ctrl.poll_cases with ⟨_, hsilent⟩ | ⟨_, _, _, ⟨_, hsilent⟩ | ⟨_, hcompletes⟩⟩
  · exact nomatch hsilent.symm.trans hpoll
  · exact nomatch hsilent.symm.trans hpoll
  · have hcomplete := hcompletes.symm.trans hpoll
    rw [complete_eq, h.operation, execute] at hcomplete
    rcases eraseSector_cases hsize with ⟨_, herase⟩ | ⟨offset, _, _, hoffset, herase⟩
    · rw [herase] at hcomplete
      exact nomatch hcomplete
    · obtain ⟨hfirst, hlast, rfl⟩ := hon.offsetOf_eq_some hoffset
      obtain ⟨bytes, hholds⟩ : ∃ bytes, ctrl.Holds layout bytes := ⟨_, holds_loaded hon⟩
      rw [herase, Memory.filled_eq_dump _ _ ctrl.address.toNat] at hcomplete
      obtain rfl := (congrArg Prod.snd hcomplete).symm
      refine ⟨_, (hholds.store _ hfirst hlast).withRegisters, fun a ha => ?_⟩
      rw [haddress]
      exact (Memory.patch_inside ha).trans (congrArg FlashLayout.eraseValue hon.layout_eq)

end Controller

namespace Rig

variable {flying : Controller → Prop} {landed : Rig → Prop} {S : Fault → Rig → Prop} {P : Rig → Prop}

/-- The rig after an erase was completed, which may switch the CPU. -/
def switched (rig : Rig) : Rig :=
  match rig.ctrl.eraseClockHz with
  | none => rig
  | some cpuHz => { rig with clocks := { rig.clocks with cpuHz } }

theorem afterwards_erased (rig : Rig) (address : UInt32) :
    Act.Ends (· = rig) (afterwards (.erased address)) () (· = rig.switched) := by
  refine .state fun _ heq => ?_
  cases heq
  cases hhook : rig.ctrl.eraseClockHz with
  | none =>
      simp only [switched, hhook]
      exact .pure _
  | some hz =>
      simp only [switched, hhook]
      exact .bind (.note _ _) (.change _ fun _ heq => by rw [heq])

/-- What is known of the controller while an erase is in flight, whatever is left of it, and of the
rig when the erase has completed, whatever is reported. -/
structure Landing (flying : Controller → Prop) (landed : Rig → Prop) : Prop where
  waits : ∀ ctrl busy, flying ctrl → flying { ctrl with busy }
  lands : ∀ (rig : Rig) address left, flying rig.ctrl → rig.ctrl.Erasing →
    rig.ctrl.poll = (some (.erased address), left) → landed (switched { rig with ctrl := left })
  clears : ∀ rig, landed rig → landed { rig with ctrl := { rig.ctrl with status := 0 } }

/-- An erase that is in flight still, or has reported an error, or has reported that it is done. -/
def Polled (flying : Controller → Prop) (landed : Rig → Prop) (rig : Rig) : Prop :=
  (flying rig.ctrl ∧ rig.ctrl.Erasing) ∨
    (Register.done.read rig.ctrl.status = 0 ∧ Register.error.read rig.ctrl.status ≠ 0) ∨
    (Register.done.read rig.ctrl.status ≠ 0 ∧ landed rig)

/-- What the controller says of an erase after a tick, before the rig has reacted. -/
def Ticked (flying : Controller → Prop) (landed : Rig → Prop) (rig : Rig) :
    Option Completion → Prop
  | none => flying rig.ctrl ∧ rig.ctrl.Erasing
  | some (.erased _) => Register.done.read rig.ctrl.status ≠ 0 ∧ landed rig.switched
  | some (.refused _) =>
      Register.done.read rig.ctrl.status = 0 ∧ Register.error.read rig.ctrl.status ≠ 0
  | some _ => False

section Landing

variable (h : Landing flying landed)

include h

theorem poll_landing :
    Act.Leads (fun rig => flying rig.ctrl ∧ rig.ctrl.Erasing) poll
      (fun _ => Polled flying landed) S := by
  have htick : Act.Leads (fun rig => flying rig.ctrl ∧ rig.ctrl.Erasing)
      (Act.changeGet fun rig => (rig.ctrl.poll.1, { rig with ctrl := rig.ctrl.poll.2 }))
      (fun completion rig => Ticked flying landed rig completion) S := by
    refine .changeGet _ fun rig ⟨hflying, herasing⟩ => ?_
    rcases herasing.poll_cases with ⟨busy, hpoll⟩ | ⟨error, left, hpoll, hread⟩ |
      ⟨address, left, hpoll, hread⟩
    · rw [hpoll]
      exact ⟨h.waits _ _ hflying, herasing.operation, herasing.status⟩
    · rw [hpoll]
      exact hread
    · have hlanded := h.lands rig address left hflying herasing hpoll
      rw [hpoll]
      exact ⟨hread, hlanded⟩
  refine htick.bind fun completion => ?_
  rcases completion with _ | ⟨address | address | address | error⟩
  · exact .pure _ fun _ hs => .inl hs
  · exact .absurd
  · exact .absurd
  · refine .of_exact (fun rig _ => afterwards_erased rig address) fun rig ⟨hdone, hlanded⟩ =>
      .inr (.inr ⟨?_, hlanded⟩)
    unfold switched
    cases rig.ctrl.eraseClockHz <;> exact hdone
  · exact .pure _ fun _ hs => .inr (.inl hs)

/-- **Waiting for an erase** to be reported as done. The induction is on the ticks that are left. -/
theorem awaitCompletion_landing (address : UInt32) (ticks : Nat) :
    Attempt.Leads (fun rig => flying rig.ctrl ∧ rig.ctrl.Erasing) (awaitCompletion address ticks)
      (fun _ => landed) (fun _ _ => True) S := by
  induction ticks with
  | zero =>
      exact .bind (.lift timeoutNow_leads) fun timeout =>
        .note_bind _ _ (.throw _ fun _ _ => trivial)
  | succ ticks ih =>
      unfold awaitCompletion
      refine .bind (.lift (poll_landing h)) fun _ => ctrlNow_lift_leads fun rig hrig => ?_
      refine .ite (fun hdone => ?_) fun hnot => ?_
      · rcases hrig with ⟨_, herasing⟩ | ⟨hnot, _⟩ | ⟨_, hlanded⟩
        · rw [herasing.status] at hdone
          exact absurd hdone (by decide)
        · exact absurd hnot hdone
        · exact .lift (.change _ fun _ heq => by rw [heq]; exact h.clears _ hlanded)
      · refine .ite (fun _ => ?_) fun herror => ?_
        · refine .bind (Q := fun _ _ => True) (.lift (.change _ fun _ _ => trivial)) fun _ => ?_
          exact .note_bind _ _ (.throw _ fun _ _ => trivial)
        · rcases hrig with herasing | ⟨_, herr⟩ | ⟨hdone, _⟩
          · exact ih.pre fun _ heq => heq ▸ herasing
          · exact absurd herr herror
          · exact absurd hdone hnot

/-- **An erase that is reported as done** has landed. -/
theorem perform_erase_leads {address : UInt32}
    (hstart : ∀ rig, P rig → ∀ busy, flying
      { rig.ctrl.started .eraseSector address with busy }) :
    Attempt.Leads P (perform .eraseSector address) (fun _ => landed) (fun _ _ => True) S := by
  refine ctrlNow_lift_leads fun rig hrig => .ite (fun henabled => ?_) fun _ => ?_
  · refine .bind (.lift (changeCtrl_leads (Q := (· = { rig.ctrl with status := 0, address })) _
      fun _ heq => by rw [heq])) fun _ => ?_
    have hwrite : Act.Leads (fun rig' => rig'.ctrl = { rig.ctrl with status := 0, address })
        (writeControl FlashOperation.eraseSector.controlValue)
        (fun _ rig => flying rig.ctrl ∧ rig.ctrl.Erasing) S :=
      writeControl_leads (Q := fun ctrl => flying ctrl ∧ ctrl.Erasing) _ fun rig' heq => by
        rw [heq, Controller.writeControl_started henabled]
        exact ⟨hstart rig hrig _, FlashOperation.ofCode?_controlValue _, rfl⟩
    refine .bind (.lift hwrite) fun _ => .bind (.lift timeoutNow_leads) fun timeout => ?_
    exact awaitCompletion_landing h _ _
  · exact .note_bind _ _ (.bind_throw _ fun _ _ => trivial)

end Landing

/-- **An erase that is reported as done** has erased its sector. -/
theorem perform_erase_erases {layout : FlashLayout} {sector : Sector}
    (hlayout : layout.validate = .ok (.ok ())) (hmem : sector ∈ layout.sectorList) :
    Attempt.Leads (fun rig => rig.ctrl.On layout) (perform .eraseSector sector.start)
      (fun _ rig => rig.ctrl.Erased layout sector) (fun _ _ => True) S := by
  have hlands : Landing (fun ctrl => ctrl.On layout ∧ ctrl.address = sector.start)
      (·.ctrl.Erased layout sector) := by
    refine ⟨fun _ _ hflying => ⟨hflying.1.withRegisters, hflying.2⟩,
      fun rig address left ⟨hon, haddress⟩ herasing hpoll => ?_, fun _ ⟨bytes, hholds, hall⟩ =>
        ⟨bytes, hholds.withRegisters, hall⟩⟩
    have herased := herasing.erased hlayout hmem hon haddress hpoll
    unfold switched
    cases left.eraseClockHz <;> exact herased
  exact perform_erase_leads hlands fun _ hon _ => ⟨hon.withRegisters, rfl⟩

end Rig

end FlashBench
