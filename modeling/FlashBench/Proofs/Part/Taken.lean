import FlashBench.Proofs.Part.Aside
import FlashBench.Proofs.Part.FlashArray
import FlashBench.Proofs.Validation.Bracket

/-!
# The driver, taken or free

The lock of the driver says whether somebody has it, and so do the calls that were made of it:
`Turns` counts them off. `Taken` says that the two agree. Taking the driver and giving it back leads
from one to the other, and nothing in between makes a difference, so a validation run brackets the
time in which it has the driver (`taken_brackets`), whether or not somebody else has it when the run
asks.
-/

namespace FlashBench

/-! ## The calls of the driver -/

/-- What one more call makes of a device that is taken or free. There is no answer where the call
should not have been made, or should have been answered differently: a taken device is not given out
again, a free one is not used, and whoever gives a device back succeeds. -/
def DeviceCall.turn : Bool → DeviceCall → Option Bool
  | taken, init (.error _) => some taken
  | false, init (.ok ()) => some true
  | true, init (.ok ()) => none
  | true, free (.ok ()) => some false
  | _, free _ => none
  | true, _ => some true
  | false, _ => none

/-- Calls, one after the other, that take a free device and give it back in turn. -/
def Turns (calls : List DeviceCall) (taken : Bool) : Prop :=
  calls.foldlM DeviceCall.turn false = some taken

theorem Turns.append {calls : List DeviceCall} {call : DeviceCall} {taken later : Bool}
    (h : Turns calls taken) (hturn : call.turn taken = some later) :
    Turns (calls ++ [call]) later := by
  unfold Turns at h ⊢
  rw [List.foldlM_append, h]
  show (call.turn taken >>= pure) = _
  rw [hturn]
  rfl

theorem Turns.use {calls : List DeviceCall} {call : DeviceCall} (huse : call.IsUse)
    (h : Turns calls true) : Turns (calls ++ [call]) true := by
  refine h.append ?_
  cases call with
  | init answer => exact huse.elim
  | free answer => exact huse.elim
  | erase address => rfl
  | program address data => rfl
  | read address len => rfl
  | question => rfl

/-! ## The lock -/

section Driver

variable {layout : FlashLayout} {taken : Bool}

/-- The driver is on its layout, and its lock says whether it is taken. -/
def Rig.Stands (layout : FlashLayout) (taken : Bool) (rig : Rig) : Prop :=
  rig.ctrl.On layout ∧ rig.lock.held = taken

/-- The calls of the driver so far say the same. -/
def Taken (layout : FlashLayout) (taken : Bool) (traced : Traced Rig) : Prop :=
  traced.hardware.Stands layout taken ∧ Turns traced.calls taken

theorem Rig.stands_driven : Rig.Driven (Rig.Stands layout taken) where
  access := fun rig access _ h => ⟨Controller.on_stable layout rig.ctrl h.1 access, h.2⟩
  cpuHz := fun _ _ _ h => h

/-- The answer to a client that asks for the device. -/
def Rig.admission (rig : Rig) : Except FlashError Unit :=
  if rig.ctrl.failInit then .error .initFailure
  else if rig.lock.held then .error .alreadyOpen
  else .ok ()

/-- The rig once a client was answered. -/
def Rig.admitted (rig : Rig) : Rig :=
  match rig.admission with
  | .ok () => { rig with lock := { held := true } }
  | .error _ => rig

theorem Rig.init_ends (rig : Rig) :
    Attempt.Ends (· = rig) Rig.device.init rig.admission (· = rig.admitted) := by
  refine ctrlNow_lift_bind fun now heq => ?_
  subst heq
  unfold admitted admission
  cases hfail : now.ctrl.failInit with
  | true => exact .refuse rfl
  | false =>
      refine .neg Bool.false_ne_true (changeLock_ends SessionLock.acquire fun rig heq => ?_)
      subst heq
      unfold SessionLock.acquire
      cases rig.lock.held with
      | true => exact ⟨rfl, rfl⟩
      | false => exact ⟨rfl, rfl⟩

theorem Rig.free_ends {rig : Rig} (hheld : rig.lock.held = true) :
    Attempt.Ends (· = rig) Rig.device.free (.ok ())
      (· = { rig with lock := { held := false } }) := by
  refine changeLock_ends SessionLock.release fun now heq => ?_
  subst heq
  unfold SessionLock.release
  rw [hheld]
  exact ⟨rfl, rfl⟩

/-- The driver is taken, and by nobody else: `others` says whether there is somebody else who has
it. -/
def TakenAlone (layout : FlashLayout) (others : Bool) (traced : Traced Rig) : Prop :=
  (others = false ∧ traced.hardware.Stands layout true) ∧ Turns traced.calls true

theorem takenAlone_keeps (others : Bool) :
    Rig.device.traced.Keeps (TakenAlone layout others) fun _ => True := by
  have hdriven : Rig.Driven fun rig => others = false ∧ rig.Stands layout true :=
    ⟨fun rig access hdriver h => ⟨h.1, Rig.stands_driven.access rig access hdriver h.2⟩,
      fun _ _ _ h => h⟩
  exact Device.traced_keeps (T := (Turns · true)) (Rig.device_driven hdriven) fun _ _ => Turns.use

theorem init_leads (others : Bool) :
    Attempt.Leads (Taken layout others) Rig.device.traced.init
      (fun _ => TakenAlone layout others) (fun _ => Taken layout others) fun _ _ => False := by
  refine Act.Leads.of_exact (fun traced _ => Attempt.answered_ends (Rig.init_ends _)) ?_
  rintro ⟨rig, calls⟩ ⟨⟨hon, hheld⟩, hturns⟩
  have hrefused (error : FlashError) : Turns (calls ++ [.init (.error error)]) others :=
    hturns.append (by cases others <;> rfl)
  unfold Rig.admitted Rig.admission
  cases hfail : rig.ctrl.failInit with
  | true => exact ⟨⟨hon, hheld⟩, hrefused _⟩
  | false =>
      cases hlock : rig.lock.held with
      | true => exact ⟨⟨hon, hheld⟩, hrefused _⟩
      | false =>
          obtain rfl : others = false := hheld.symm.trans hlock
          exact ⟨⟨rfl, hon, rfl⟩, hturns.append rfl⟩

theorem free_leads (others : Bool) :
    Attempt.Leads (TakenAlone layout others) Rig.device.traced.free
      (fun _ => Taken layout others) (fun _ _ => False) fun _ _ => False := by
  refine Act.Leads.of_exact (fun traced htaken =>
    Attempt.answered_ends (Rig.free_ends htaken.1.2.2)) ?_
  rintro traced ⟨⟨rfl, hon, hheld⟩, hturns⟩
  exact ⟨⟨hon, rfl⟩, hturns.append rfl⟩

theorem opening_leads (hlayout : layout.validate = .ok (.ok ())) (others : Bool) :
    Act.Leads (TakenAlone layout others) (Session.openingText Rig.device.traced)
      (fun _ => TakenAlone layout others) fun _ _ => False := by
  obtain ⟨g, _, hanswers⟩ := Rig.device_answers hlayout
  have hreports : Rig.device.Reports (fun rig => others = false ∧ rig.Stands layout true) g :=
    hanswers _ fun _ h => h.2.1
  have hquestion : ∀ calls, Turns calls true → Turns (calls ++ [DeviceCall.question]) true :=
    fun _ => Turns.use trivial
  have hask {α : Type} {act : Act Rig α} {a : α}
      (h : Act.Ends (fun rig => others = false ∧ rig.Stands layout true) act a
        fun rig => others = false ∧ rig.Stands layout true) :
      Act.Leads (TakenAlone layout others) (act.traced .question)
        (fun _ => TakenAlone layout others) fun _ _ => False := by
    have hleads : Act.Leads _ act (fun _ rig => others = false ∧ rig.Stands layout true)
        fun _ _ => False := (Act.Leads.of_ends h).post fun _ _ hs => hs.2
    exact (Act.traced_leads hleads hquestion).on_fault fun _ _ hs => hs.1
  exact (hask hreports.startAddress).bind fun _ => (hask hreports.size).bind fun _ =>
    (hask hreports.pageSize).bind fun _ => .pure _ fun _ hs => hs

/-- **A session brackets** the time in which the driver is taken by its client. -/
theorem taken_brackets (hlayout : layout.validate = .ok (.ok ())) (others : Bool)
    {timer : CycleTimer Rig} (htimer : timer.Apart) :
    Brackets (Taken layout others) (TakenAlone layout others) (Taken layout others)
      (Taken layout others) Rig.device.traced timer.traced where
  init := (init_leads others).on_fault fun _ _ hs => hs.elim
  opening := (opening_leads hlayout others).on_fault fun _ _ hs => hs.elim
  uses := takenAlone_keeps others
  free := ((free_leads others).on_refusal fun _ _ hs => hs.elim).on_fault fun _ _ hs => hs.elim
  samples := CycleTimer.traced_keeps (T := (Turns · true))
    (htimer.keeps fun part => others = false ∧ part.1.On layout ∧ part.2.1.held = true)
  rests := CycleTimer.traced_keeps (T := (Turns · others))
    (htimer.keeps fun part => part.1.On layout ∧ part.2.1.held = others)
  stops := fun _ hs => hs

end Driver

end FlashBench
