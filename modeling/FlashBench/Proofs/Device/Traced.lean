import FlashBench.Proofs.Clock.Measure
import FlashBench.Proofs.Device.Keeps

/-!
# Traced devices

Any device and any timer, on hardware that also keeps a trace of all calls that reached the device:
the questions about its geometry as well as the calls that take it, use it and give it back. The
trace is a ghost beside the hardware. No call can see it, so what is known of the hardware is known
next to what is known of the trace (`Act.beneath_leads`).

Whatever the device answers, using it lengthens the trace by uses (`Device.traced_keeps`); only
`init` and `free` add anything else, and they add the answer they gave (`Attempt.answered_leads`).
-/

namespace FlashBench

variable {σ α ε : Type}

/-- A call of a device. -/
inductive DeviceCall where
  | init (answer : Except FlashError Unit)
  | free (answer : Except FlashError Unit)
  | erase (address : UInt32)
  | program (address : UInt32) (data : ByteArray)
  | read (address : UInt32) (len : Nat)
  /-- A question about the geometry or the erase value. -/
  | question

/-- The call neither takes the device nor gives it back. -/
def DeviceCall.IsUse : DeviceCall → Prop
  | init _ => False
  | free _ => False
  | _ => True

/-- The call is a use, and an erase or a program only at an allowed address. -/
def DeviceCall.IsUseAt (allowed : UInt32 → Prop) : DeviceCall → Prop
  | erase address => allowed address
  | program address _ => allowed address
  | call => call.IsUse

theorem DeviceCall.IsUseAt.isUse {allowed : UInt32 → Prop} {call : DeviceCall}
    (h : call.IsUseAt allowed) : call.IsUse := by
  cases call with
  | init | free => exact h
  | erase | program | read | question => trivial

/-- Hardware, and the calls that reached its device so far, the first one first. -/
structure Traced (σ : Type) where
  hardware : σ
  calls : List DeviceCall := []

/-- Adds a call to the trace. -/
def DeviceCall.noted (call : DeviceCall) : Act (Traced σ) Unit :=
  Act.change fun traced => { traced with calls := traced.calls ++ [call] }

/-- Runs an action on the hardware beneath the trace. -/
def Act.beneath (act : Act σ α) : Act (Traced σ) α :=
  Act.zoom (·.hardware) (fun hardware traced => { traced with hardware }) act

/-- Carries out a call of the device, which the trace shows from then on. -/
def Act.traced (call : DeviceCall) (act : Act σ α) : Act (Traced σ) α := do
  call.noted
  act.beneath

/-- Makes an attempt that the trace shows with its answer. -/
def Attempt.answered (call : Except ε Unit → DeviceCall) (attempt : Attempt ε σ Unit) :
    Attempt ε (Traced σ) Unit :=
  ExceptT.mk do
    let answer ← attempt.run.beneath
    (call answer).noted
    return answer

/-- The device with a trace of all its calls. -/
def Device.traced (device : Device σ) : Device (Traced σ) where
  init := device.init.answered .init
  free := device.free.answered .free
  pageSize := device.pageSize.traced .question
  startAddress := device.startAddress.traced .question
  size := device.size.traced .question
  sectorSize address := (device.sectorSize address).traced .question
  eraseValue := Act.traced .question device.eraseValue
  eraseSector address := ExceptT.mk ((device.eraseSector address).run.traced (.erase address))
  programPage address data :=
    ExceptT.mk ((device.programPage address data).run.traced (.program address data))
  read address len := ExceptT.mk ((device.read address len).run.traced (.read address len))

/-- The timer on traced hardware. It makes no calls of the device. -/
def CycleTimer.traced (timer : CycleTimer σ) : CycleTimer (Traced σ) where
  ticker := { info := timer.ticker.info.beneath, read := timer.ticker.read.beneath }
  spin cycles := (timer.spin cycles).beneath
  patience := timer.patience

/-! ## The hardware and the trace -/

section Beneath

variable {P : σ → Prop} {Q : α → σ → Prop} {S : Fault → σ → Prop} {T : List DeviceCall → Prop}

/-- **The hardware has no access to the trace.** -/
theorem Act.beneath_leads {act : Act σ α} (h : Act.Leads P act Q S) :
    Act.Leads (fun traced => P traced.hardware ∧ T traced.calls) act.beneath
      (fun a traced => Q a traced.hardware ∧ T traced.calls)
      fun f traced => S f traced.hardware ∧ T traced.calls :=
  Act.Leads.zoom h (fun _ hs => hs.1) (fun _ _ _ hs hq => ⟨hq, hs.2⟩) fun _ _ _ hs hf => ⟨hf, hs.2⟩

theorem DeviceCall.noted_leads {call : DeviceCall} {U : List DeviceCall → Prop}
    {S : Fault → Traced σ → Prop} (hU : ∀ calls, T calls → U (calls ++ [call])) :
    Act.Leads (fun traced : Traced σ => P traced.hardware ∧ T traced.calls) call.noted
      (fun _ traced => P traced.hardware ∧ U traced.calls) S :=
  .change _ fun _ hs => ⟨hs.1, hU _ hs.2⟩

theorem Act.traced_leads {act : Act σ α} {call : DeviceCall} (h : Act.Leads P act Q S)
    (hcall : ∀ calls, T calls → T (calls ++ [call])) :
    Act.Leads (fun traced => P traced.hardware ∧ T traced.calls) (act.traced call)
      (fun a traced => Q a traced.hardware ∧ T traced.calls)
      fun f traced => S f traced.hardware ∧ T traced.calls :=
  (DeviceCall.noted_leads hcall).bind fun _ => beneath_leads h

/-- **The answer** of an attempt stands in the trace. -/
theorem Attempt.answered_leads {call : Except ε Unit → DeviceCall} {attempt : Attempt ε σ Unit}
    {Q : Unit → σ → Prop} {E : ε → σ → Prop} {U V : List DeviceCall → Prop}
    (h : Attempt.Leads P attempt Q E S) (hok : ∀ calls, T calls → U (calls ++ [call (.ok ())]))
    (herror : ∀ calls e, T calls → V (calls ++ [call (.error e)])) :
    Attempt.Leads (fun traced => P traced.hardware ∧ T traced.calls) (attempt.answered call)
      (fun _ traced => Q () traced.hardware ∧ U traced.calls)
      (fun e traced => E e traced.hardware ∧ V traced.calls)
      fun f traced => S f traced.hardware ∧ T traced.calls := by
  refine Act.Leads.bind (Act.beneath_leads h) fun answer => ?_
  cases answer with
  | ok => exact .bind (DeviceCall.noted_leads hok) fun _ => .pure _ fun _ hs => hs
  | error e => exact .bind (DeviceCall.noted_leads (herror · e)) fun _ => .pure _ fun _ hs => hs

/-- An attempt whose end is known stands in the trace with its outcome. -/
theorem Attempt.answered_ends {call : Except ε Unit → DeviceCall} {attempt : Attempt ε σ Unit}
    {traced : Traced σ} {outcome : Except ε Unit} {last : σ}
    (h : Attempt.Ends (· = traced.hardware) attempt outcome (· = last)) :
    Attempt.Ends (· = traced) (attempt.answered call) outcome
      (· = { hardware := last, calls := traced.calls ++ [call outcome] }) := by
  have hbeneath : Act.Ends (· = traced) attempt.run.beneath outcome
      (· = { traced with hardware := last }) := Act.Ends.zoom h
  have hnoted : Act.Ends (· = { traced with hardware := last }) (call outcome).noted ()
      (· = { hardware := last, calls := traced.calls ++ [call outcome] }) :=
    .change _ fun _ heq => heq ▸ rfl
  exact hbeneath.bind (hnoted.bind (.pure outcome))

end Beneath

section Keeps

variable {inv : σ → Prop} {allowed : UInt32 → Prop} {T : List DeviceCall → Prop}
  {device : Device σ} {timer : CycleTimer σ}

theorem Act.beneath_keeps {act : Act σ α} (h : Act.Keeps inv act) :
    Act.Keeps (fun traced => inv traced.hardware ∧ T traced.calls) act.beneath :=
  beneath_leads h

theorem Act.traced_keeps {act : Act σ α} {call : DeviceCall} (h : Act.Keeps inv act)
    (hcall : ∀ calls, T calls → T (calls ++ [call])) :
    Act.Keeps (fun traced => inv traced.hardware ∧ T traced.calls) (act.traced call) :=
  traced_leads h hcall

/-- **Using the device** keeps what it keeps of the hardware, and of the trace what no use at an
allowed address can break. -/
theorem Device.traced_keeps_at (h : device.Keeps inv allowed)
    (huse : ∀ calls (call : DeviceCall), call.IsUseAt allowed → T calls → T (calls ++ [call])) :
    device.traced.Keeps (fun traced => inv traced.hardware ∧ T traced.calls) allowed where
  pageSize := Act.traced_keeps h.pageSize fun _ => huse _ _ trivial
  startAddress := Act.traced_keeps h.startAddress fun _ => huse _ _ trivial
  size := Act.traced_keeps h.size fun _ => huse _ _ trivial
  sectorSize := fun address => Act.traced_keeps (h.sectorSize address) fun _ => huse _ _ trivial
  eraseValue := Act.traced_keeps h.eraseValue fun _ => huse _ _ trivial
  eraseSector := fun address hallowed =>
    Act.traced_keeps (h.eraseSector address hallowed) fun _ => huse _ _ hallowed
  programPage := fun address data hallowed =>
    Act.traced_keeps (h.programPage address data hallowed) fun _ => huse _ _ hallowed
  read := fun address len => Act.traced_keeps (h.read address len) fun _ => huse _ _ trivial

theorem Device.traced_keeps (h : device.Keeps inv allowed)
    (huse : ∀ calls (call : DeviceCall), call.IsUse → T calls → T (calls ++ [call])) :
    device.traced.Keeps (fun traced => inv traced.hardware ∧ T traced.calls) allowed :=
  traced_keeps_at h fun calls call hat => huse calls call hat.isUse

theorem CycleTimer.traced_keeps (h : timer.Keeps inv) :
    timer.traced.Keeps fun traced => inv traced.hardware ∧ T traced.calls where
  info := Act.beneath_keeps h.info
  read := Act.beneath_keeps h.read
  spin := fun cycles => Act.beneath_keeps (h.spin cycles)

/-- Of any device it is known that it keeps what is always true. -/
theorem Device.keeps_const (device : Device σ) : device.Keeps (fun _ => True) fun _ => True where
  pageSize := .const _ _
  startAddress := .const _ _
  size := .const _ _
  sectorSize := fun _ => .const _ _
  eraseValue := Act.Keeps.const _ _
  eraseSector := fun _ _ => Act.Keeps.const _ _
  programPage := fun _ _ _ => Act.Keeps.const _ _
  read := fun _ _ => Act.Keeps.const _ _

theorem CycleTimer.keeps_const (timer : CycleTimer σ) : timer.Keeps fun _ => True where
  info := .const _ _
  read := .const _ _
  spin := fun _ => .const _ _

end Keeps

end FlashBench
