import FlashBench.Proofs.Device.Agrees
import FlashBench.Proofs.Part.Driven
import FlashBench.Proofs.Part.Erasing

/-!
# Two parts that differ in what they hold

`Rig.Twins layout known` relates two rigs that differ in the medium and the image of the controller
at most, and whose media hold the same at the `known` addresses. What the controller decides it
decides by its registers, so every access to it leaves twins behind and reports the same
(`Controller.Twins.access`), and the driver does the same on both (`Rig.perform_agrees`).

* **Reading** tells them apart, unless all that is read is known (`Rig.read_agrees`).
* **Programming** moves the bits of a cell on from where they are, so it makes nothing known that was
  not, and nothing unknown that was.
* **Erasing** makes a sector known (`Rig.erase_agrees`): an erase that is reported as done has left
  the erase value behind, whatever was there before.
-/

namespace FlashBench

namespace Memory

/-- What is written is the same where it was the same before. -/
theorem patch_congr {bytes other new new' : Nat → UInt8} {first len a : Nat}
    (hbytes : bytes a = other a) (hnew : new a = new' a) :
    patch bytes first len new a = patch other first len new' a := by
  unfold patch
  rw [hbytes, hnew]

end Memory

namespace Controller

variable {left right ctrl : Controller} {layout : FlashLayout} {known known' : Nat → Prop}
  {bytes one other : Nat → UInt8}

/-- The two differ in medium and image at most, and hold the same at the known addresses. -/
structure Twins (layout : FlashLayout) (known : Nat → Prop) (left right : Controller) : Prop where
  same : right = { left with medium := right.medium, image := right.image }
  holds : ∃ one other, left.Holds layout one ∧ right.Holds layout other ∧
    ∀ a, known a → one a = other a

namespace Twins

theorem mono (h : Twins layout known left right) (hknown : ∀ a, known' a → known a) :
    Twins layout known' left right := by
  obtain ⟨one, other, hone, hother, hagree⟩ := h.holds
  exact ⟨h.same, one, other, hone, hother, fun a ha => hagree a (hknown a ha)⟩

theorem on (h : Twins layout known left right) : left.On layout ∧ right.On layout := by
  obtain ⟨_, _, hone, hother, _⟩ := h.holds
  exact ⟨hone.on, hother.on⟩

/-- A change that does not look at the medium and leaves it alone. -/
theorem update (h : Twins layout known left right) {f : Controller → Controller}
    (hf : ∀ (ctrl : Controller) medium image,
      f { ctrl with medium, image } = { f ctrl with medium, image })
    (hholds : ∀ (ctrl : Controller) bytes, ctrl.Holds layout bytes → (f ctrl).Holds layout bytes) :
    Twins layout known (f left) (f right) := by
  have hright : f right = { f left with medium := right.medium, image := right.image } := by
    rw [← hf, ← h.same]
  obtain ⟨one, other, hone, hother, hagree⟩ := h.holds
  refine ⟨?_, one, other, hholds _ _ hone, hholds _ _ hother, hagree⟩
  rw [hright]

/-- Bytes that are stored at the same place, the same ones where it matters. -/
theorem store (h : Twins layout known left right) (hone : left.Holds layout one)
    (hother : right.Holds layout other) {new new' : Nat → UInt8} {first len : Nat}
    (hfirst : layout.start.toNat ≤ first) (hlast : first + len ≤ layout.stop)
    (hagree : ∀ a, known a → one a = other a ∧ new a = new' a) :
    Twins layout known (left.store (first - layout.start.toNat) (Memory.dump new first len))
      (right.store (first - layout.start.toNat) (Memory.dump new' first len)) := by
  refine ⟨?_, _, _, hone.store new hfirst hlast, hother.store new' hfirst hlast, fun a ha =>
    Memory.patch_congr (hagree a ha).1 (hagree a ha).2⟩
  rw [h.same]
  rfl

/-! ## Operations -/

theorem offsetOf (h : Twins layout known left right) (address : UInt32) (len : Nat) :
    right.offsetOf address len = left.offsetOf address len := by
  rw [h.same]
  rfl

/-- The page comes out the same where the old cells were the same. -/
theorem storePage (h : Twins layout known left right) {offset : Nat}
    (hoffset : left.offsetOf left.address left.layout.pageSize.toNat = some offset) :
    Twins layout known (left.store offset (left.pageAfter offset left.pageBuffer))
      (right.store offset (right.pageAfter offset left.pageBuffer)) := by
  obtain ⟨one, other, hone, hother, hagree⟩ := h.holds
  rw [hone.on.layout_eq] at hoffset
  obtain ⟨hfirst, hlast, rfl⟩ := hone.on.offsetOf_eq_some hoffset
  have hbuffer : left.pageBuffer = Memory.dump (Memory.loaded left.pageBuffer left.address.toNat)
      left.address.toNat layout.pageSize.toNat := by
    rw [← hone.on.pageBuffer, Memory.dump_loaded]
  rw [hbuffer, hone.pageAfter hfirst hlast, hother.pageAfter hfirst hlast]
  refine h.store hone hother hfirst hlast fun a ha => ⟨hagree a ha, ?_⟩
  unfold Memory.programmedOver
  rw [hagree a ha]

theorem programPage (h : Twins layout known left right) :
    right.programPage.1 = left.programPage.1 ∧
      Twins layout known left.programPage.2 right.programPage.2 := by
  have haddress : right.address = left.address := by rw [h.same]
  have hlayout : right.layout = left.layout := by rw [h.same]
  have hbuffer : right.pageBuffer = left.pageBuffer := by rw [h.same]
  have hdrops : right.dropWrites = left.dropWrites := by rw [h.same]
  unfold Controller.programPage
  simp only [haddress, hlayout, hbuffer, hdrops, h.offsetOf]
  by_cases haligned : left.address % left.layout.pageSize ≠ 0
  · rw [if_pos haligned, if_pos haligned]
    exact ⟨rfl, h⟩
  rw [if_neg haligned, if_neg haligned]
  cases hoffset : left.offsetOf left.address left.layout.pageSize.toNat with
  | none => exact ⟨rfl, h⟩
  | some offset =>
      cases left.dropWrites with
      | true => exact ⟨rfl, h⟩
      | false =>
          have hstored := h.storePage hoffset
          simp only [pageAfter, hlayout] at hstored
          exact ⟨rfl, hstored⟩

theorem eraseSector (h : Twins layout known left right) :
    right.eraseSector.1 = left.eraseSector.1 ∧
      Twins layout known left.eraseSector.2 right.eraseSector.2 := by
  have haddress : right.address = left.address := by rw [h.same]
  have hlayout : right.layout = left.layout := by rw [h.same]
  have hmap : right.sectorMap = left.sectorMap := by rw [h.same]
  unfold Controller.eraseSector
  simp only [haddress, hlayout, hmap, h.offsetOf]
  by_cases hbad : left.sectorMap.sectorSize left.address = invalidSize ∨
      left.address % left.sectorMap.sectorSize left.address ≠ 0
  · rw [if_pos hbad, if_pos hbad]
    exact ⟨rfl, h⟩
  rw [if_neg hbad, if_neg hbad]
  cases hoffset : left.offsetOf left.address (left.sectorMap.sectorSize left.address).toNat with
  | none => exact ⟨rfl, h⟩
  | some offset =>
      obtain ⟨one, other, hone, hother, hagree⟩ := h.holds
      obtain ⟨hfirst, hlast, rfl⟩ := hone.on.offsetOf_eq_some hoffset
      refine ⟨rfl, ?_⟩
      simp only [Memory.filled_eq_dump _ _ left.address.toNat]
      exact h.store hone hother hfirst hlast fun a ha => ⟨hagree a ha, rfl⟩

/-- **Completing an operation** reports the same, and leaves twins behind. -/
theorem complete (h : Twins layout known left right) :
    right.complete.1 = left.complete.1 ∧ Twins layout known left.complete.2 right.complete.2 := by
  have hoperation : right.operation? = left.operation? := by rw [h.same]; rfl
  have hexecute : (right.execute left.operation?).1 = (left.execute left.operation?).1 ∧
      Twins layout known (left.execute left.operation?).2 (right.execute left.operation?).2 := by
    rcases left.operation? with _ | _ | _
    · exact ⟨rfl, h⟩
    · exact h.programPage
    · exact h.eraseSector
  rw [complete_eq, complete_eq, hoperation, hexecute.1]
  exact ⟨rfl, hexecute.2.update (f := (·.released _)) (fun _ _ _ => rfl) fun _ _ hholds =>
    hholds.withRegisters⟩

/-! ## Accesses -/

theorem poll (h : Twins layout known left right) :
    right.poll.1 = left.poll.1 ∧ Twins layout known left.poll.2 right.poll.2 := by
  have hbusy : right.busy = left.busy := by rw [h.same]
  have hstalled : right.stalled = left.stalled := by rw [h.same]
  rcases left.poll_cases with ⟨hidle | hheld, hpoll⟩ |
    ⟨count, hcount, hruns, ⟨hmore, hpoll⟩ | ⟨hlast, hpoll⟩⟩
  · rw [hpoll, poll_idle (hbusy.trans hidle)]
    exact ⟨rfl, h⟩
  · rw [hpoll, poll_stalled (hstalled.trans hheld)]
    exact ⟨rfl, h⟩
  · rw [hpoll, poll_counts (hbusy.trans hcount) (hstalled.trans hruns) hmore]
    exact ⟨rfl, h.update (f := fun ctrl => { ctrl with busy := some (count - 1) })
      (fun _ _ _ => rfl) fun _ _ hholds => hholds.withRegisters⟩
  · rw [hpoll, poll_completes (hbusy.trans hcount) (hstalled.trans hruns) hlast rfl]
    exact ⟨congrArg some h.complete.1, h.complete.2⟩

/-- **Every access of a driver** reports the same on twins, and leaves twins behind. -/
theorem access (h : Twins layout known left right) (access : ControllerAccess)
    (hdriver : access.fromDriver = true) :
    (right.access access).1 = (left.access access).1 ∧
      Twins layout known (left.access access).2 (right.access access).2 := by
  cases access with
  | writeControl value =>
      refine ⟨rfl, h.update (f := (·.writeControl value)) (fun ctrl medium image => ?_)
        fun ctrl bytes hholds => ?_⟩
      · simp only [Controller.writeControl, isEnabled]
        split
        · rfl
        · split <;> rfl
      · rcases ctrl.writeControl_cases value with ⟨_, hwrite⟩ | ⟨_, _, hwrite⟩ | ⟨_, _, hwrite⟩
        · rwa [hwrite]
        · rw [hwrite]
          exact hholds.withRegisters
        · rw [hwrite]
          exact hholds.withRegisters
  | writeStatus value =>
      exact ⟨rfl, h.update (f := fun ctrl => { ctrl with status := value }) (fun _ _ _ => rfl)
        fun _ _ hholds => hholds.withRegisters⟩
  | writeAddress value =>
      exact ⟨rfl, h.update (f := fun ctrl => { ctrl with address := value }) (fun _ _ _ => rfl)
        fun _ _ hholds => hholds.withRegisters⟩
  | writePageBuffer data =>
      refine ⟨rfl, h.update (f := (·.writePageBuffer data)) (fun _ _ _ => rfl)
        fun ctrl bytes hholds => ?_⟩
      obtain ⟨page, hsize, hwrite⟩ := ctrl.writePageBuffer_cases data
      rw [hwrite]
      exact ⟨hholds.on.withPageBuffer hsize, hholds.medium⟩
  | poll => exact h.poll
  | directRead => exact ⟨rfl, h⟩
  | setStalled | setDropWrites | setFailInit | setEraseClock => cases hdriver

end Twins

end Controller

namespace Rig

variable {layout : FlashLayout} {known known' : Nat → Prop} {left right : Rig}
  {S : Rig → Rig → Prop}

/-- Rigs that differ in their controllers at most, which are twins. -/
structure Twins (layout : FlashLayout) (known : Nat → Prop) (left right : Rig) : Prop where
  same : right = { left with ctrl := right.ctrl }
  ctrl : Controller.Twins layout known left.ctrl right.ctrl

theorem Twins.mono (h : Twins layout known left right) (hknown : ∀ a, known' a → known a) :
    Twins layout known' left right :=
  ⟨h.same, h.ctrl.mono hknown⟩

theorem Twins.withCtrl (h : Twins layout known left right) {one other : Controller}
    (hctrl : Controller.Twins layout known' one other) :
    Twins layout known' { left with ctrl := one } { right with ctrl := other } :=
  ⟨by rw [h.same], hctrl⟩

/-! ## The driver -/

/-- A step that makes use of what the two controllers have in common. -/
theorem ctrlNow_common {β : Type} {f : Controller → Act Rig β} {Q : β → Rig → Rig → Prop}
    (hf : ∀ left right, Twins layout known left right → f right.ctrl = f left.ctrl)
    (h : ∀ left right, Twins layout known left right →
      Act.Agrees (Twins layout known) (f left.ctrl) Q S) :
    Act.Agrees (Twins layout known) (do f (← ctrlNow)) Q S := by
  simp only [ctrlNow, bind_assoc, pure_bind]
  exact .state hf h

/-- A step that makes no use of the medium. -/
theorem ctrlNow_agrees {β : Type} {f : Controller → Act Rig β} {Q : β → Rig → Rig → Prop}
    (hf : ∀ (ctrl : Controller) medium image, f { ctrl with medium, image } = f ctrl)
    (h : ∀ ctrl : Controller, ctrl.On layout → Act.Agrees (Twins layout known) (f ctrl) Q S) :
    Act.Agrees (Twins layout known) (do f (← ctrlNow)) Q S :=
  ctrlNow_common (fun _ _ htwins => by rw [htwins.ctrl.same, hf])
    fun _ _ htwins => h _ htwins.ctrl.on.1

theorem ctrlNow_lift_common {ε β : Type} {f : Controller → Attempt ε Rig β}
    {Q : β → Rig → Rig → Prop}
    (hf : ∀ left right, Twins layout known left right → f right.ctrl = f left.ctrl)
    (h : ∀ left right, Twins layout known left right →
      Attempt.Agrees (Twins layout known) (f left.ctrl) Q S) :
    Attempt.Agrees (Twins layout known) (do f (← ctrlNow)) Q S :=
  ctrlNow_common hf h

theorem ctrlNow_lift_agrees {ε β : Type} {f : Controller → Attempt ε Rig β}
    {Q : β → Rig → Rig → Prop}
    (hf : ∀ (ctrl : Controller) medium image, f { ctrl with medium, image } = f ctrl)
    (h : ∀ ctrl : Controller, ctrl.On layout → Attempt.Agrees (Twins layout known) (f ctrl) Q S) :
    Attempt.Agrees (Twins layout known) (do f (← ctrlNow)) Q S :=
  ctrlNow_agrees hf h

theorem timeoutNow_agrees :
    Act.Agrees (Twins layout known) timeoutNow (fun _ => Twins layout known) S :=
  .read _ fun _ _ htwins => by rw [htwins.same]

theorem access_agrees (access : ControllerAccess) (hdriver : access.fromDriver = true) :
    Act.Agrees (Twins layout known) (changeCtrl fun ctrl => (ctrl.access access).2)
      (fun _ => Twins layout known) S :=
  .change _ fun _ _ htwins => htwins.withCtrl (htwins.ctrl.access access hdriver).2

theorem afterwards_agrees (completion : Completion) :
    Act.Agrees (Twins layout known) (afterwards completion) (fun _ => Twins layout known) S := by
  cases completion with
  | programmed => exact .same _
  | refused => exact .same _
  | dropped => exact .note _ _
  | erased =>
      refine .state (fun left right htwins => ?_) fun rig _ _ => ?_
      · rw [htwins.same, htwins.ctrl.same]
      · cases rig.ctrl.eraseClockHz with
        | none => exact .same _
        | some hz =>
            exact .bind (.note _ _) fun _ => .change _ fun _ _ htwins =>
              ⟨by rw [htwins.same], htwins.ctrl⟩

theorem poll_agrees : Act.Agrees (Twins layout known) poll (fun _ => Twins layout known) S := by
  have htick : Act.Agrees (Twins layout known)
      (Act.changeGet fun rig => (rig.ctrl.poll.1, { rig with ctrl := rig.ctrl.poll.2 }))
      (fun _ => Twins layout known) S :=
    .changeGet _ fun _ _ htwins =>
      ⟨htwins.ctrl.poll.1.symm, htwins.withCtrl htwins.ctrl.poll.2⟩
  refine htick.bind fun completion => ?_
  cases completion with
  | none => exact .same _
  | some completion => exact afterwards_agrees completion

theorem writeControl_agrees (value : UInt32) :
    Act.Agrees (Twins layout known) (writeControl value) (fun _ => Twins layout known) S := by
  have hwrite : Act.Agrees (Twins layout known) (changeCtrl (·.writeControl value))
      (fun _ => Twins layout known) S := access_agrees (.writeControl value) rfl
  refine ctrlNow_agrees (fun _ _ _ => rfl) fun ctrl _ => .ite (fun _ => hwrite) fun _ => ?_
  exact .bind (.note _ _) fun _ => hwrite

section Operations

variable (hstop : ∀ left right, Twins layout known left right → S left right)

include hstop

/-- The induction is on the ticks that are left. -/
theorem awaitCompletion_agrees (address : UInt32) (ticks : Nat) :
    Attempt.Agrees (Twins layout known) (awaitCompletion address ticks)
      (fun _ => Twins layout known) S := by
  have hclear : Act.Agrees (Twins layout known) (changeCtrl fun ctrl => { ctrl with status := 0 })
      (fun _ => Twins layout known) S := access_agrees (.writeStatus 0) rfl
  induction ticks with
  | zero => exact .bind (.lift timeoutNow_agrees) fun _ => .bind (.note _ _) fun _ => .throw _ hstop
  | succ ticks ih =>
      unfold awaitCompletion
      refine .bind (.lift poll_agrees) fun _ => ctrlNow_lift_agrees (fun _ _ _ => rfl) fun _ _ => ?_
      refine .ite (fun _ => .lift hclear) fun _ => .ite (fun _ => ?_) fun _ => ih
      exact .bind (.lift hclear) fun _ => .bind (.note _ _) fun _ => .throw _ hstop

/-- **Operations** end alike on twins, and leave twins behind. -/
theorem perform_agrees (operation : FlashOperation) (address : UInt32) :
    Attempt.Agrees (Twins layout known) (perform operation address)
      (fun _ => Twins layout known) S := by
  refine ctrlNow_lift_agrees (fun _ _ _ => rfl) fun ctrl _ => .ite (fun _ => ?_) fun _ => ?_
  · have haim : Act.Agrees (Twins layout known)
        (changeCtrl fun ctrl => { ctrl with status := 0, address }) (fun _ => Twins layout known)
        S := .change _ fun _ _ htwins => htwins.withCtrl
          ((htwins.ctrl.access (.writeStatus 0) rfl).2.access (.writeAddress address) rfl).2
    refine .bind (.lift haim) fun _ => .bind (.lift (writeControl_agrees _)) fun _ => ?_
    exact .bind (.lift timeoutNow_agrees) fun _ => awaitCompletion_agrees hstop _ _
  · exact .bind (.note _ _) fun _ => .bind_throw _ hstop

theorem programPages_agrees (address : UInt32) (content : ByteArray) (pageSize pages index : Nat) :
    Attempt.Agrees (Twins layout known) (programPages address content pageSize pages index)
      (fun _ => Twins layout known) S := by
  induction pages generalizing index with
  | zero => exact .same _
  | succ pages ih =>
      have hload : Act.Agrees (Twins layout known) (changeCtrl (·.writePageBuffer
          (content.extract (index * pageSize) (index * pageSize + pageSize))))
          (fun _ => Twins layout known) S := access_agrees (.writePageBuffer _) rfl
      refine .bind (.lift hload) fun _ => .bind (.checked _ hstop) fun _ => ?_
      exact .bind (perform_agrees hstop _ _) fun _ => ih _

theorem programPage_agrees (address : UInt32) (data : ByteArray) :
    Attempt.Agrees (Twins layout known) (device.programPage address data)
      (fun _ => Twins layout known) S :=
  ctrlNow_lift_agrees (fun _ _ _ => rfl) fun _ _ => programPages_agrees hstop _ _ _ _ _

/-! ## Questions -/

/-- **What a part is asked** it answers without looking at its medium. -/
theorem device_agrees : device.Agrees (Twins layout known) S where
  weaker := hstop
  pageSize := ctrlNow_agrees (fun _ _ _ => rfl) fun _ _ => .same _
  startAddress := ctrlNow_agrees (fun _ _ _ => rfl) fun _ _ => .same _
  size := ctrlNow_agrees (fun _ _ _ => rfl) fun _ _ => .checked _ hstop
  sectorSize := fun _ => ctrlNow_agrees (fun _ _ _ => rfl) fun _ _ => .same _
  eraseValue := ctrlNow_agrees (fun _ _ _ => rfl) fun _ _ => .same _

theorem changeLock_agrees (f : SessionLock → Except FlashError Unit × SessionLock) :
    Attempt.Agrees (Twins layout known)
      (ExceptT.mk (Act.changeGet fun rig => ((f rig.lock).1, { rig with lock := (f rig.lock).2 })))
      (fun _ => Twins layout known) S := by
  refine .of_act (.changeGet _ fun left right htwins => ?_) hstop
  rw [htwins.same]
  exact ⟨rfl, rfl, htwins.ctrl⟩

theorem init_agrees : Attempt.Agrees (Twins layout known) device.init
    (fun _ => Twins layout known) S :=
  ctrlNow_lift_agrees (fun _ _ _ => rfl) fun _ _ => .guard hstop fun _ =>
    changeLock_agrees hstop SessionLock.acquire

theorem free_agrees : Attempt.Agrees (Twins layout known) device.free
    (fun _ => Twins layout known) S :=
  changeLock_agrees hstop SessionLock.release

omit hstop

/-! ## Reading and erasing -/

/-- **Reading** what is known. -/
theorem read_agrees {address : UInt32} {len : Nat} (hfirst : layout.start.toNat ≤ address.toNat)
    (hlast : address.toNat + len ≤ layout.stop)
    (hknown : ∀ a, address.toNat ≤ a → a < address.toNat + len → known a) :
    Attempt.Agrees (Twins layout known) (device.read address len)
      (fun _ => Twins layout known) S := by
  have hread : ∀ left right, Twins layout known left right →
      right.ctrl.directRead address len = left.ctrl.directRead address len ∧
        ∃ bytes, left.ctrl.directRead address len = .ok bytes := by
    intro left right htwins
    obtain ⟨one, other, hone, hother, hagree⟩ := htwins.ctrl.holds
    rw [hone.directRead hfirst hlast, hother.directRead hfirst hlast,
      Memory.dump_congr fun a hlow hhigh => hagree a (hknown a hlow hhigh)]
    exact ⟨rfl, _, rfl⟩
  refine ctrlNow_lift_common (fun left right htwins => ?_) fun left right htwins => ?_
  · rw [(hread left right htwins).1]
  · obtain ⟨_, bytes, hbytes⟩ := hread left right htwins
    rw [hbytes]
    exact .same bytes

/-- **Erasing** makes a sector known. -/
theorem erase_agrees (hlayout : layout.validate = .ok (.ok ())) {sector : Sector}
    (hmem : sector ∈ layout.sectorList)
    (hstop : ∀ left right, Twins layout known left right → S left right) :
    Attempt.Agrees (Twins layout known) (device.eraseSector sector.start)
      (fun _ => Twins layout sector.Covers) S := by
  have herased := perform_erase_erases (S := fun _ _ => True) hlayout hmem
  refine ((perform_agrees hstop _ _).and_leads herased fun _ _ htwins => htwins.ctrl.on).post
    fun _ left right ⟨htwins, ⟨one, hone, hall⟩, other, hother, hall'⟩ => ?_
  exact ⟨htwins.same, htwins.ctrl.same, one, other, hone, hother, fun a ha =>
    (hall a ha).trans (hall' a ha).symm⟩

end Operations

/-! ## The timer -/

/-- The clocks of twins are the same. -/
theorem timer_agrees (patience : Nat)
    (hstop : ∀ left right, Twins layout known left right → S left right) :
    (timer patience).Agrees (Twins layout known) S where
  weaker := hstop
  info := .read _ fun _ _ htwins => by rw [htwins.same]
  read := by
    refine .state (fun _ _ htwins => by rw [htwins.same]) fun rig _ _ => .ite (fun _ => ?_)
      fun _ => .fault _ hstop
    refine .changeGet _ fun _ _ htwins => ?_
    rw [htwins.same]
    exact ⟨rfl, rfl, htwins.ctrl⟩
  spin := fun cycles => by
    refine .state (fun _ _ htwins => by rw [htwins.same]) fun rig _ _ => ?_
    refine .bind (.checked _ hstop) fun clocks => .change _ fun _ _ htwins => ?_
    rw [htwins.same]
    exact ⟨rfl, htwins.ctrl⟩

end Rig

end FlashBench
