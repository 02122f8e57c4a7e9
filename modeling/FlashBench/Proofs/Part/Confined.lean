import FlashBench.Proofs.Clock.Measure
import FlashBench.Proofs.Device.Keeps
import FlashBench.Proofs.Part.Completion
import FlashBench.Proofs.Part.Driver

/-!
# What an operation can change

Nothing is asked of the controller here but that it belongs to a layout: it may be stalled, drop
writes, run out of time or have an operation in flight. An operation then ends in any of the ways
there are, and its bytes may change now or at a later tick.

`Controller.Confined layout bytes allowed pending` is what is left to say: outside the addresses that
are `allowed` the medium holds `bytes`, and an operation in flight can write to `pending` addresses
only. A tick keeps it (`Confined.poll`), and so does an operation at addresses that are both
(`Rig.perform_leads`), which leaves the controller idle if it was reported as done.
-/

namespace FlashBench

namespace Controller

variable {ctrl : Controller} {layout : FlashLayout} {bytes : Nat → UInt8} {address : UInt32}
  {allowed pending : Nat → Prop}

/-- The operation in the control register may write to the address `a`. -/
def Reaches (ctrl : Controller) (a : Nat) : Prop :=
  ∃ operation, ctrl.operation? = some operation ∧ ctrl.address.toNat ≤ a ∧
    a < ctrl.address.toNat + ctrl.span ctrl.address operation

/-- Outside the allowed addresses the medium holds `bytes`, an operation in flight can write to
pending addresses only, and there is none in flight when one may be started. -/
structure Confined (layout : FlashLayout) (bytes : Nat → UInt8) (allowed pending : Nat → Prop)
    (ctrl : Controller) : Prop where
  holds : ∃ now, ctrl.Holds layout now ∧ ∀ a, ¬ allowed a → now a = bytes a
  pending : ctrl.busy ≠ none → ∀ a, ctrl.Reaches a → pending a
  free : ctrl.isEnabled = true → ctrl.busy = none

/-- An idle controller whose medium holds `bytes`. -/
structure Quiet (layout : FlashLayout) (bytes : Nat → UInt8) (ctrl : Controller) : Prop where
  holds : ctrl.Holds layout bytes
  idle : ctrl.Idle

/-- What stands at an address of the part. -/
def byteAt (ctrl : Controller) (a : Nat) : UInt8 :=
  Memory.loaded ctrl.medium ctrl.layout.start.toNat a

theorem Holds.byteAt {a : Nat} (h : ctrl.Holds layout bytes) (hfirst : layout.start.toNat ≤ a)
    (hlast : a < layout.stop) : ctrl.byteAt a = bytes a := by
  have hcapacity := FlashLayout.start_add_capacity h.on.capacity
  rw [Controller.byteAt, h.on.layout_eq, h.medium]
  exact Memory.loaded_dump hfirst (by omega)

theorem On.holds_byteAt (h : ctrl.On layout) : ctrl.Holds layout ctrl.byteAt := by
  obtain rfl := h.layout_eq
  exact holds_loaded h

/-! ## Completing an operation -/

/-- What may be stored changes addresses that the operation can reach. -/
theorem Holds.stores {left : Controller} (h : ctrl.Holds layout bytes)
    (hstores : ctrl.Stores left) :
    ∃ now, left.Holds layout now ∧ ∀ a, ¬ ctrl.Reaches a → now a = bytes a := by
  cases hstores with
  | nothing => exact ⟨bytes, h, fun _ _ => rfl⟩
  | bytes operation offset content named spanned aligned inside =>
      obtain ⟨hfirst, hlast, rfl⟩ := h.on.offsetOf_eq_some inside
      -- the bytes that are stored, seen from the address register
      rw [← Memory.dump_loaded content ctrl.address.toNat]
      refine ⟨_, h.store _ hfirst hlast, fun a hnot => Memory.patch_outside fun hin => ?_⟩
      exact hnot ⟨operation, named, hin.1, spanned ▸ hin.2⟩

/-- **Completion writes what it can reach,** if anything, and leaves the controller idle. -/
theorem Holds.complete (h : ctrl.Holds layout bytes) :
    ∃ now, ctrl.complete.2.Quiet layout now ∧ ∀ a, ¬ ctrl.Reaches a → now a = bytes a := by
  obtain ⟨completion, left, hcomplete, hstores, _⟩ := complete_cases h.on
  obtain ⟨now, hnow, hframe⟩ := h.stores hstores
  rw [hcomplete]
  exact ⟨now, ⟨hnow.withRegisters, left.released_idle completion⟩, hframe⟩

/-! ## Confinement -/

theorem Quiet.confined (h : ctrl.Quiet layout bytes) (allowed pending : Nat → Prop) :
    ctrl.Confined layout bytes allowed pending where
  holds := ⟨bytes, h.holds, fun _ _ => rfl⟩
  pending := fun hbusy => absurd h.idle.busy hbusy
  free := fun _ => h.idle.busy

theorem Confined.quiet (h : ctrl.Confined layout bytes allowed pending) (hidle : ctrl.Idle) :
    ∃ now, (∀ a, ¬ allowed a → now a = bytes a) ∧ ctrl.Quiet layout now := by
  obtain ⟨now, hnow, hframe⟩ := h.holds
  exact ⟨now, hframe, hnow, hidle⟩

/-- **Outside the allowed addresses nothing has changed.** -/
theorem Confined.byteAt {a : Nat} (h : ctrl.Confined layout bytes allowed pending)
    (hfirst : layout.start.toNat ≤ a) (hlast : a < layout.stop) (hnot : ¬ allowed a) :
    ctrl.byteAt a = bytes a := by
  obtain ⟨now, hnow, hframe⟩ := h.holds
  exact (hnow.byteAt hfirst hlast).trans (hframe a hnot)

theorem Confined.on (h : ctrl.Confined layout bytes allowed pending) : ctrl.On layout := by
  obtain ⟨_, hnow, _⟩ := h.holds
  exact hnow.on

theorem Confined.mono {allowed' pending' : Nat → Prop}
    (h : ctrl.Confined layout bytes allowed pending) (hallowed : ∀ a, allowed a → allowed' a)
    (hpending : ∀ a, pending a → pending' a) : ctrl.Confined layout bytes allowed' pending' := by
  obtain ⟨now, hnow, hframe⟩ := h.holds
  exact ⟨⟨now, hnow, fun a hnot => hframe a fun ha => hnot (hallowed a ha)⟩,
    fun hbusy a hreach => hpending a (h.pending hbusy a hreach), h.free⟩

/-- Only the bytes outside the allowed addresses matter. -/
theorem Confined.congr {before : Nat → UInt8} (h : ctrl.Confined layout bytes allowed pending)
    (hsame : ∀ a, ¬ allowed a → bytes a = before a) :
    ctrl.Confined layout before allowed pending := by
  obtain ⟨now, hnow, hframe⟩ := h.holds
  exact ⟨⟨now, hnow, fun a hnot => (hframe a hnot).trans (hsame a hnot)⟩, h.pending, h.free⟩

/-- **A tick changes allowed addresses only.** -/
theorem Confined.poll (h : ctrl.Confined layout bytes allowed pending)
    (hallowed : ∀ a, pending a → allowed a) :
    ctrl.poll.2.Confined layout bytes allowed pending := by
  rcases ctrl.poll_cases with ⟨_, hpoll⟩ | ⟨count, hbusy, _, ⟨_, hpoll⟩ | ⟨_, hpoll⟩⟩
  · rw [hpoll]
    exact h
  · have hflight : ctrl.busy ≠ none := hbusy ▸ Option.some_ne_none count
    obtain ⟨now, hnow, hframe⟩ := h.holds
    rw [hpoll]
    exact ⟨⟨now, hnow.withRegisters, hframe⟩, fun _ => h.pending hflight, fun henabled =>
      absurd (h.free henabled) hflight⟩
  · have hflight : ctrl.busy ≠ none := hbusy ▸ Option.some_ne_none count
    obtain ⟨now, hnow, hframe⟩ := h.holds
    obtain ⟨after, hafter, hsame⟩ := hnow.complete
    rw [hpoll]
    refine (hafter.confined allowed pending).congr fun a hnot => ?_
    have hnot' : ¬ ctrl.Reaches a := fun hreach =>
      hnot (hallowed a (h.pending hflight a hreach))
    exact (hsame a hnot').trans (hframe a hnot)

/-- Nothing is reported before the operation has completed. -/
theorem On.poll_reports (h : ctrl.On layout) (hsilent : ctrl.status = 0 ∨ ctrl.Idle) :
    ctrl.poll.2.status = 0 ∨ ctrl.poll.2.Idle := by
  rcases ctrl.poll_cases with ⟨_, hpoll⟩ | ⟨count, hbusy, _, ⟨_, hpoll⟩ | ⟨_, hpoll⟩⟩
  · rw [hpoll]
    exact hsilent
  · rw [hpoll]
    refine .inl (hsilent.resolve_right fun hidle => ?_)
    rw [hidle.busy] at hbusy
    cases hbusy
  · obtain ⟨_, hafter, _⟩ := (holds_loaded h).complete
    rw [hpoll]
    exact .inr hafter.idle

/-- An idle controller stays as it is. -/
theorem Idle.poll (h : ctrl.Idle) : ctrl.poll.2 = ctrl := by
  unfold Controller.poll
  rw [h.busy]

/-! ## What the driver writes -/

theorem Confined.withStatus (h : ctrl.Confined layout bytes allowed pending) (status : UInt32) :
    ({ ctrl with status } : Controller).Confined layout bytes allowed pending := by
  obtain ⟨now, hnow, hframe⟩ := h.holds
  exact ⟨⟨now, hnow.withRegisters, hframe⟩, h.pending, h.free⟩

theorem Confined.withStalled (h : ctrl.Confined layout bytes allowed pending) (stalled : Bool) :
    ({ ctrl with stalled } : Controller).Confined layout bytes allowed pending := by
  obtain ⟨now, hnow, hframe⟩ := h.holds
  exact ⟨⟨now, hnow.withRegisters, hframe⟩, h.pending, h.free⟩

theorem Confined.writePageBuffer (h : ctrl.Confined layout bytes allowed pending)
    (data : ByteArray) : (ctrl.writePageBuffer data).Confined layout bytes allowed pending := by
  obtain ⟨now, hnow, hframe⟩ := h.holds
  obtain ⟨page, hsize, hwrite⟩ := ctrl.writePageBuffer_cases data
  rw [hwrite]
  exact ⟨⟨now, ⟨hnow.on.withPageBuffer hsize, hnow.medium⟩, hframe⟩, h.pending, h.free⟩

/-- An operation was started: what it can write to is pending now, and nothing is reported. -/
theorem Confined.started {operation : FlashOperation} {pending' : Nat → Prop} (left : UInt32)
    (h : ctrl.Confined layout bytes allowed pending)
    (hspan : ∀ a, address.toNat ≤ a → a < address.toNat + ctrl.span address operation →
      pending' a) :
    ({ ctrl.started operation address with busy := some left } : Controller).Confined layout bytes
      allowed pending' := by
  obtain ⟨now, hnow, hframe⟩ := h.holds
  refine ⟨⟨now, hnow.withRegisters, hframe⟩, fun _ a hreach => ?_, fun henabled => ?_⟩
  · obtain ⟨other, hother, hfirst, hlast⟩ := hreach
    have hsame : other = operation :=
      Option.some.inj (hother.symm.trans (FlashOperation.ofCode?_controlValue operation))
    exact hspan a hfirst (hsame ▸ hlast)
  · -- the enable bit was cleared with the start
    have hcleared : Register.enable.read (Register.enable.write ctrl.enable 0) = 0 :=
      (Register.Field.read_write (by decide) _ _).trans (by decide)
    exact absurd hcleared (of_decide_eq_true henabled)

end Controller

namespace Rig

variable {layout : FlashLayout} {bytes : Nat → UInt8} {address : UInt32}
  {operation : FlashOperation} {allowed pending : Nat → Prop} {P : Rig → Prop} {p : Prop}
  {S : Fault → Rig → Prop}

/-- The part: the controller, and the lock and the timeout of its driver. -/
def part (rig : Rig) : Controller × SessionLock × UInt32 := (rig.ctrl, rig.lock, rig.pollTimeout)

/-! ## Steps on the controller

None of them stops with a fault, so `S` is whatever it has to be. -/

theorem ctrlNow_leads {β : Type} {f : Controller → Act Rig β} {Q : β → Rig → Prop}
    (h : ∀ rig, P rig → Act.Leads (· = rig) (f rig.ctrl) Q S) :
    Act.Leads P (do f (← ctrlNow)) Q S := by
  intro world hworld
  rw [Act.runOn_bind]
  exact h world.state hworld world rfl

theorem ctrlNow_lift_leads {ε β : Type} {f : Controller → Attempt ε Rig β} {Q : β → Rig → Prop}
    {E : ε → Rig → Prop} (h : ∀ rig, P rig → Attempt.Leads (· = rig) (f rig.ctrl) Q E S) :
    Attempt.Leads P (do f (← ctrlNow)) Q E S :=
  ctrlNow_leads h

theorem ctrlNow_keeps : Act.Keeps P ctrlNow := fun _ h => h

theorem timeoutNow_leads : Act.Leads P timeoutNow (fun _ => P) S := fun _ h => h

theorem changeCtrl_leads {Q : Controller → Prop} (f : Controller → Controller)
    (h : ∀ rig, P rig → Q (f rig.ctrl)) :
    Act.Leads P (changeCtrl f) (fun _ rig => Q rig.ctrl) S :=
  .change _ h

/-- Whatever is said of the controller holds after a completion was seen to. -/
theorem afterwards_leads {Q : Controller → Prop} (completion : Completion) :
    Act.Leads (fun rig => Q rig.ctrl) (afterwards completion) (fun _ rig => Q rig.ctrl) S := by
  cases completion with
  | programmed => exact .pure _ fun _ h => h
  | refused => exact .pure _ fun _ h => h
  | dropped => exact .note _ _ fun _ h => h
  | erased =>
      refine .state fun rig hrig => ?_
      cases rig.ctrl.eraseClockHz with
      | none => exact .pure _ fun _ h => h ▸ hrig
      | some hz => exact .note_bind _ _ (.change _ fun _ h => h ▸ hrig)

/-- A poll is a tick of the controller and what comes with its completion. -/
theorem poll_leads {Q : Controller → Prop} (h : ∀ rig, P rig → Q rig.ctrl.poll.2) :
    Act.Leads P poll (fun _ rig => Q rig.ctrl) S := by
  have htick : Act.Leads P
      (Act.changeGet fun rig => (rig.ctrl.poll.1, { rig with ctrl := rig.ctrl.poll.2 }))
      (fun _ rig => Q rig.ctrl) S := .changeGet _ h
  refine .bind htick fun completion => ?_
  cases completion with
  | none => exact .pure _ fun _ hrig => hrig
  | some completion => exact afterwards_leads completion

theorem writeControl_leads {Q : Controller → Prop} (value : UInt32)
    (h : ∀ rig, P rig → Q (rig.ctrl.writeControl value)) :
    Act.Leads P (writeControl value) (fun _ rig => Q rig.ctrl) S := by
  refine ctrlNow_leads fun rig hrig => ?_
  have hwrite : Act.Leads (· = rig) (changeCtrl (·.writeControl value))
      (fun _ rig => Q rig.ctrl) S := changeCtrl_leads _ fun _ heq => heq ▸ h rig hrig
  exact .ite (fun _ => hwrite) fun _ => .note_bind _ _ hwrite

/-! ## Waiting for an operation -/

/-- **Waiting changes allowed addresses only,** and an operation that is reported as done leaves the
controller idle. The induction is on the ticks that are left. -/
theorem awaitCompletion_leads (hallowed : ∀ a, pending a → allowed a) (ticks : Nat) :
    Attempt.Leads
      (fun rig => rig.ctrl.Confined layout bytes allowed pending ∧
        (rig.ctrl.status = 0 ∨ rig.ctrl.Idle))
      (awaitCompletion address ticks)
      (fun _ rig => rig.ctrl.Confined layout bytes allowed pending ∧ rig.ctrl.Idle)
      (fun _ rig => rig.ctrl.Confined layout bytes allowed pending) S := by
  induction ticks with
  | zero =>
      refine .bind (.lift timeoutNow_leads) fun timeout => ?_
      exact .note_bind _ _ (.throw _ fun _ h => h.1)
  | succ ticks ih =>
      unfold awaitCompletion
      refine .bind (.lift (poll_leads (Q := fun ctrl =>
        ctrl.Confined layout bytes allowed pending ∧ (ctrl.status = 0 ∨ ctrl.Idle))
        fun rig h => ⟨h.1.poll hallowed, h.1.on.poll_reports h.2⟩)) fun _ => ?_
      refine ctrlNow_lift_leads fun rig hrig => ?_
      obtain ⟨hconfined, hsilent⟩ := hrig
      refine .ite (fun hdone => ?_) fun _ => ?_
      · -- the status is not zero any more, so the operation has completed
        have hidle : rig.ctrl.Idle := hsilent.resolve_left fun hstatus => by
          rw [hstatus] at hdone
          exact absurd hdone (by decide)
        refine .lift (.change _ fun _ heq => ?_)
        rw [heq]
        exact ⟨hconfined.withStatus 0, hidle.enabled, hidle.busy⟩
      · refine .ite (fun _ => ?_) fun _ => ih.pre fun _ heq => heq ▸ ⟨hconfined, hsilent⟩
        refine .bind (.lift (changeCtrl_leads (Q := (·.Confined layout bytes allowed pending)) _
          fun _ heq => heq ▸ hconfined.withStatus 0)) fun _ => ?_
        exact .note_bind _ _ (.throw _ fun _ h => h)

/-- **An operation changes what it spans.** If that is allowed and may be pending, confinement is
kept; an operation that was started on a controller that is still busy changes nothing. -/
theorem perform_leads
    (hspan : ∀ ctrl : Controller, ctrl.On layout → ∀ a, address.toNat ≤ a →
      a < address.toNat + ctrl.span address operation → allowed a ∧ pending a) :
    Attempt.Leads (fun rig => rig.ctrl.Confined layout bytes allowed pending)
      (perform operation address)
      (fun _ rig => rig.ctrl.Confined layout bytes allowed pending ∧ rig.ctrl.Idle)
      (fun _ rig => rig.ctrl.Confined layout bytes allowed pending) S := by
  refine ctrlNow_lift_leads fun rig hconfined => .ite (fun henabled => ?_) fun _ => ?_
  · -- while this operation is in flight, only what it spans is pending
    let spanned := fun a => allowed a ∧ pending a
    have hstarted := hconfined.started (rig.ctrl.ticksOf (some operation))
      (hspan rig.ctrl hconfined.on)
    have hstart : Act.Leads (fun rig' => rig'.ctrl = { rig.ctrl with status := 0, address })
        (writeControl operation.controlValue)
        (fun _ rig => rig.ctrl.Confined layout bytes allowed spanned ∧
          (rig.ctrl.status = 0 ∨ rig.ctrl.Idle)) S :=
      writeControl_leads (Q := fun ctrl => ctrl.Confined layout bytes allowed spanned ∧
        (ctrl.status = 0 ∨ ctrl.Idle)) _ fun rig' heq => by
          rw [heq, Controller.writeControl_started henabled]
          exact ⟨hstarted, .inl rfl⟩
    refine .bind (.lift (changeCtrl_leads (Q := (· = { rig.ctrl with status := 0, address })) _
      fun _ heq => by rw [heq])) fun _ => ?_
    refine .bind (.lift hstart) fun _ => .bind (.lift timeoutNow_leads) fun timeout => ?_
    refine ((awaitCompletion_leads (fun _ h => h.1) _).post fun _ _ h => ?_).on_refusal
      fun _ _ h => ?_
    · exact ⟨h.1.mono (fun _ ha => ha) fun _ ha => ha.2, h.2⟩
    · exact h.mono (fun _ ha => ha) fun _ ha => ha.2
  · exact .note_bind _ _ (.bind_throw _ fun _ heq => heq ▸ hconfined)

/-- **A program changes the pages it is for,** `index` being the next one, and leaves the controller
idle if it was (`p`). -/
theorem programPages_leads {content : ByteArray} (pages index : Nat)
    (hspan : ∀ i, index ≤ i → i < index + pages → ∀ target,
      Word.fit32 (address.toNat + (Word.low32 (i * layout.pageSize.toNat)).toNat) = .ok target →
      ∀ a, target.toNat ≤ a → a < target.toNat + layout.pageSize.toNat → allowed a ∧ pending a) :
    Attempt.Leads
      (fun rig => rig.ctrl.Confined layout bytes allowed pending ∧ (p → rig.ctrl.Idle))
      (programPages address content layout.pageSize.toNat pages index)
      (fun _ rig => rig.ctrl.Confined layout bytes allowed pending ∧ (p → rig.ctrl.Idle))
      (fun _ rig => rig.ctrl.Confined layout bytes allowed pending)
      (fun _ rig => rig.ctrl.Confined layout bytes allowed pending) := by
  induction pages generalizing index with
  | zero => exact .pure _ fun _ h => h
  | succ pages ih =>
      have hrest := ih (index + 1) fun i hfirst hlast => hspan i (by omega) (by omega)
      unfold programPages
      refine .bind (.lift (changeCtrl_leads (Q := (·.Confined layout bytes allowed pending)) _
        fun _ h => h.1.writePageBuffer _)) fun _ => ?_
      refine .checked_bind (fun target hfit => ?_) fun _ _ _ h => h
      have hpage : ∀ ctrl : Controller, ctrl.On layout → ∀ a, target.toNat ≤ a →
          a < target.toNat + ctrl.span target .programPage → allowed a ∧ pending a := by
        intro ctrl hon a hfirst hlast
        rw [Controller.span, hon.layout_eq] at hlast
        exact hspan index (Nat.le_refl _) (by omega) target hfit a hfirst hlast
      exact (perform_leads hpage).bind fun _ => hrest.pre fun _ h => ⟨h.1, fun _ => h.2⟩

/-! ## The device -/

/-- Taking the lock and giving it back leave the controller alone. -/
theorem changeLock_keeps {Q : Controller → Prop}
    (f : SessionLock → Except FlashError Unit × SessionLock) :
    Act.Keeps (fun rig : Rig => Q rig.ctrl)
      (Act.changeGet fun rig => ((f rig.lock).1, { rig with lock := (f rig.lock).2 })) :=
  .changeGet _ fun _ h => h

theorem device_init_keeps {Q : Controller → Prop} :
    Attempt.Keeps (fun rig => Q rig.ctrl) device.init :=
  .bind (.lift ctrlNow_keeps) fun _ =>
    .guard fun _ => changeLock_keeps SessionLock.acquire

theorem device_free_keeps {Q : Controller → Prop} :
    Attempt.Keeps (fun rig => Q rig.ctrl) device.free :=
  changeLock_keeps SessionLock.release

/-- Asking and reading change nothing. -/
theorem device_asks : device.Keeps P fun _ => False where
  pageSize := .bind ctrlNow_keeps fun _ => .pure _
  startAddress := .bind ctrlNow_keeps fun _ => .pure _
  size := .bind ctrlNow_keeps fun _ => .checked _
  sectorSize := fun _ => .bind ctrlNow_keeps fun _ => .pure _
  eraseValue := .bind ctrlNow_keeps fun _ => .pure _
  eraseSector := fun _ hfalse => hfalse.elim
  programPage := fun _ _ hfalse => hfalse.elim
  read := fun address len => .of_leads (ctrlNow_lift_leads fun rig hrig => by
    cases rig.ctrl.directRead address len with
    | ok bytes => exact .pure _ fun _ heq => heq ▸ hrig
    | error error => exact .throw _ fun _ heq => heq ▸ hrig)

/-- A device that is erased and programmed at `touched` addresses only is confined to what lies at
and above them. -/
theorem device_keeps {touched : UInt32 → Prop}
    (habove : ∀ address, touched address → ∀ a, address.toNat ≤ a → allowed a ∧ pending a) :
    device.Keeps (fun rig => rig.ctrl.Confined layout bytes allowed pending) touched := by
  refine { device_asks with eraseSector := ?_, programPage := ?_ }
  · intro address htouched
    exact .of_leads ((perform_leads fun _ _ => fun a hfirst _ =>
      habove address htouched a hfirst).post fun _ _ h => h.1)
  · intro address data htouched
    refine .of_leads (ctrlNow_lift_leads fun rig hrig => ?_)
    rw [hrig.on.layout_eq]
    refine ((programPages_leads (p := False) _ 0 fun i _ _ target hfit a hfirst _ => ?_).pre
      fun _ heq => heq ▸ ⟨hrig, False.elim⟩).post fun _ _ h => h.1
    -- no page of a program starts below its address
    have htarget := Word.toNat_of_fit32 hfit
    exact habove address htouched a (by omega)

/-- An erase changes its sector, now or later. -/
theorem eraseSector_leads (hlayout : layout.validate = .ok (.ok ())) {sector : Sector}
    (hmem : sector ∈ layout.sectorList)
    (hsector : ∀ a, sector.Covers a → allowed a ∧ pending a) :
    Attempt.Leads (fun rig => rig.ctrl.Confined layout bytes allowed pending)
      (device.eraseSector sector.start)
      (fun _ rig => rig.ctrl.Confined layout bytes allowed pending ∧ rig.ctrl.Idle)
      (fun _ rig => rig.ctrl.Confined layout bytes allowed pending) S := by
  refine perform_leads fun ctrl hon a hfirst hlast => hsector a ⟨hfirst, ?_⟩
  have hcharts := FlashLayout.charts_geometry hlayout hon.sectorMap
  have hsize : ctrl.sectorMap.sectorSize sector.start = sector.size :=
    (hcharts.admits sector hmem).first
  rw [Controller.span, hsize] at hlast
  exact hlast

/-- A program of one page changes that page, now or later. -/
theorem programPage_leads {content : ByteArray} (hpaged : 0 < layout.pageSize.toNat)
    (hsize : content.size = layout.pageSize.toNat)
    (hpage : ∀ a, address.toNat ≤ a → a < address.toNat + layout.pageSize.toNat →
      allowed a ∧ pending a) :
    Attempt.Leads (fun rig => rig.ctrl.Confined layout bytes allowed pending ∧ rig.ctrl.Idle)
      (device.programPage address content)
      (fun _ rig => rig.ctrl.Confined layout bytes allowed pending ∧ rig.ctrl.Idle)
      (fun _ rig => rig.ctrl.Confined layout bytes allowed pending)
      (fun _ rig => rig.ctrl.Confined layout bytes allowed pending) := by
  have hcount : pageCount content.size layout.pageSize.toNat = 1 :=
    Nat.eq_of_mul_eq_mul_right hpaged
      ((pageCount_mul hpaged (hsize ▸ Nat.dvd_refl _)).trans (by rw [hsize, Nat.one_mul]))
  refine ctrlNow_lift_leads fun rig hrig => ?_
  simp only [hrig.1.on.layout_eq, hcount]
  refine ((programPages_leads (p := True) 1 0 fun i _ hlast target hfit a hfirst hin => ?_).pre
    fun _ heq => heq ▸ ⟨hrig.1, fun _ => hrig.2⟩).post fun _ _ h => ⟨h.1, h.2 trivial⟩
  -- the one page is the first one
  have htarget := Word.toNat_of_fit32 hfit
  obtain rfl : i = 0 := by omega
  have hzero : (Word.low32 (0 * layout.pageSize.toNat)).toNat = 0 := by rw [Nat.zero_mul]; rfl
  exact hpage a (by omega) (by omega)

end Rig

/-- The timer leaves the part alone: the controller, and the lock and the timeout of its driver. -/
def CycleTimer.Apart (timer : CycleTimer Rig) : Prop :=
  ∀ part, timer.Keeps fun rig => rig.part = part

theorem CycleTimer.Apart.keeps {timer : CycleTimer Rig} (h : timer.Apart)
    (Q : Controller × SessionLock × UInt32 → Prop) : timer.Keeps fun rig => Q rig.part where
  info := .of_fixed fun part => (h part).info
  read := .of_fixed fun part => (h part).read
  spin := fun cycles => .of_fixed fun part => (h part).spin cycles

/-- The counter and the busy loop of the rig have to do with its clocks only. -/
theorem Rig.timer_apart (patience : Nat) : (Rig.timer patience).Apart := by
  intro part
  constructor
  case info => exact .bind .state fun _ => .pure _
  case read =>
    refine .bind .state fun rig => .ite (fun _ => ?_) fun _ => .fault _
    exact .changeGet _ fun _ h => h
  case spin =>
    intro cycles
    exact .bind .state fun rig => .bind (.checked _) fun _ => .change _ fun _ h => h

theorem CycleTimer.standing_keeps {σ : Type} {inv : σ → Prop} (bits : UInt8) (patience : Nat) :
    (CycleTimer.standing bits patience : CycleTimer σ).Keeps inv where
  info := .pure _
  read := .pure _
  spin := fun _ => .pure _

/-- A counter that stands still has to do with nothing. -/
theorem CycleTimer.standing_apart (bits : UInt8) (patience : Nat) :
    (CycleTimer.standing bits patience : CycleTimer Rig).Apart :=
  fun _ => standing_keeps bits patience

theorem CycleTimer.Apart.keeps_ctrl {timer : CycleTimer Rig} (h : timer.Apart)
    (Q : Controller → Prop) : timer.Keeps fun rig => Q rig.ctrl :=
  h.keeps fun part => Q part.1

end FlashBench
