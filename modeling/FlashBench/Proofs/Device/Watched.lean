import FlashBench.Proofs.Geometry.Check
import FlashBench.Proofs.Triple

/-!
# Watched devices

Any device, on hardware that also keeps what the device was asked and **what it answered**: the
sector sizes, and the reads with what they showed or why they were refused. Like every such record
it is a ghost beside the hardware, which no call can see, so what is known of a call is known next
to what the call adds (`Act.watched_leads`).
-/

namespace FlashBench

variable {σ α : Type}

/-- A read of a device, and how it was answered. -/
structure Reading where
  address : UInt32
  len : Nat
  answer : Except FlashError ByteArray

/-- The first address behind the stretch that was asked for. -/
def Reading.stop (reading : Reading) : Nat := reading.address.toNat + reading.len

/-- The read was not refused. -/
def Reading.Shown (reading : Reading) : Prop := ∃ data, reading.answer = .ok data

/-- What a device was asked so far, and what it answered, the first question first. The answer to a
question for a sector size is put down as the sector it speaks of. -/
structure Inquiry where
  sizes : List Sector := []
  readings : List Reading := []

/-- Puts down a sector size. -/
def Inquiry.addSize (address size : UInt32) (inquiry : Inquiry) : Inquiry :=
  { inquiry with sizes := inquiry.sizes ++ [⟨address, size⟩] }

/-- Puts down a read. -/
def Inquiry.addReading (address : UInt32) (len : Nat) (answer : Except FlashError ByteArray)
    (inquiry : Inquiry) : Inquiry :=
  { inquiry with readings := inquiry.readings ++ [⟨address, len, answer⟩] }

/-- Hardware, and what its device was asked. -/
structure Watched (σ : Type) where
  hardware : σ
  inquiry : Inquiry := {}

/-- Runs an action on the hardware and puts its value down. -/
def Act.watched (add : α → Inquiry → Inquiry) (act : Act σ α) : Act (Watched σ) α := do
  let value ← Act.zoom (·.hardware) (fun hardware watched => { watched with hardware }) act
  Act.change fun watched => { watched with inquiry := add value watched.inquiry }
  return value

/-- Runs an action on the hardware of which nothing is put down. -/
def Act.unwatched (act : Act σ α) : Act (Watched σ) α := act.watched fun _ inquiry => inquiry

/-- The device with a record of its answers. -/
def Device.watched (device : Device σ) : Device (Watched σ) where
  init := ExceptT.mk device.init.run.unwatched
  free := ExceptT.mk device.free.run.unwatched
  pageSize := device.pageSize.unwatched
  startAddress := device.startAddress.unwatched
  size := device.size.unwatched
  sectorSize address := (device.sectorSize address).watched (Inquiry.addSize address)
  eraseValue := Act.unwatched device.eraseValue
  eraseSector address := ExceptT.mk (device.eraseSector address).run.unwatched
  programPage address data := ExceptT.mk (device.programPage address data).run.unwatched
  read address len :=
    ExceptT.mk ((device.read address len).run.watched (Inquiry.addReading address len))

/-- The world as it is before the device is watched. -/
def World.watched (world : World σ) : World (Watched σ) where
  state := { hardware := world.state }
  log := world.log

section Answers

variable {P : σ → Prop} {Q : α → σ → Prop} {S : Fault → σ → Prop} {T : Inquiry → Prop}

/-- **What is put down** stands next to what the action leads to. -/
theorem Act.watched_leads (add : α → Inquiry → Inquiry) {U : α → Inquiry → Prop} {act : Act σ α}
    (h : Act.Leads P act Q S) (hadd : ∀ a inquiry, T inquiry → U a (add a inquiry)) :
    Act.Leads (fun watched => P watched.hardware ∧ T watched.inquiry) (act.watched add)
      (fun a watched => Q a watched.hardware ∧ U a watched.inquiry)
      fun f watched => S f watched.hardware ∧ T watched.inquiry := by
  have hact : Act.Leads (fun watched : Watched σ => P watched.hardware ∧ T watched.inquiry)
      (Act.zoom (·.hardware) (fun hardware watched => { watched with hardware }) act)
      (fun a watched => Q a watched.hardware ∧ T watched.inquiry)
      fun f watched => S f watched.hardware ∧ T watched.inquiry :=
    .zoom h (fun _ hs => hs.1) (fun _ _ _ hs hq => ⟨hq, hs.2⟩) fun _ _ _ hs hf => ⟨hf, hs.2⟩
  refine hact.bind fun a => ?_
  exact .bind (.change _ fun _ hs => ⟨hs.1, hadd a _ hs.2⟩) fun _ => .pure _ fun _ hs => hs

theorem Act.unwatched_ends {act : Act σ α} {value : α} {post : σ → Prop}
    (h : Act.Ends P act value post) :
    Act.Ends (fun watched => P watched.hardware ∧ T watched.inquiry) act.unwatched value
      fun watched => post watched.hardware ∧ T watched.inquiry := by
  have hleads := Act.watched_leads (fun _ inquiry => inquiry) (U := fun _ => T)
    (Act.Leads.of_ends (S := fun _ _ => False) h) fun _ _ hT => hT
  refine .of_leads (hleads.mono (fun _ hs => hs) ?_ fun _ _ hs => hs.1)
  rintro a watched ⟨⟨hvalue, hpost⟩, hT⟩
  exact ⟨hvalue, hpost, hT⟩

/-- Watching a device does not change its window. -/
theorem Device.Spans.watched {device : Device σ} {start size : UInt32}
    (h : device.Spans P start size) :
    device.watched.Spans (fun watched => P watched.hardware ∧ T watched.inquiry) start size :=
  ⟨Act.unwatched_ends h.startAddress, Act.unwatched_ends h.size⟩

/-- What is no matter of the hardware does not change the window either. -/
theorem Device.Spans.and_const {device : Device σ} {start size : UInt32}
    (h : device.Spans P start size) (p : Prop) : device.Spans (fun s => P s ∧ p) start size where
  startAddress := h.startAddress.and_keeps (.const p _)
  size := h.size.and_keeps (.const p _)

/-- Asking for a sector size puts the answer down. -/
theorem Device.watched_sectorSize {device : Device σ} {address : UInt32} {Q : UInt32 → σ → Prop}
    (h : Act.Leads P (device.sectorSize address) Q S) (asked : List Sector) :
    Act.Leads (fun watched => P watched.hardware ∧ watched.inquiry.sizes = asked)
      (device.watched.sectorSize address)
      (fun size watched => Q size watched.hardware ∧
        watched.inquiry.sizes = asked ++ [⟨address, size⟩])
      fun f watched => S f watched.hardware ∧ watched.inquiry.sizes = asked :=
  Act.watched_leads (Inquiry.addSize address) (T := fun inquiry => inquiry.sizes = asked)
    (U := fun size inquiry => inquiry.sizes = asked ++ [Sector.mk address size]) h
    fun _ _ hT => hT ▸ rfl

/-- So does reading, also when it is refused. -/
theorem Device.watched_read {device : Device σ} {address : UInt32} {len : Nat}
    {Q : ByteArray → σ → Prop} {E : FlashError → σ → Prop}
    (h : Attempt.Leads P (device.read address len) Q E S) (front : List Reading) :
    Attempt.Leads (fun watched => P watched.hardware ∧ watched.inquiry.readings = front)
      (device.watched.read address len)
      (fun data watched => Q data watched.hardware ∧
        watched.inquiry.readings = front ++ [⟨address, len, .ok data⟩])
      (fun e watched => E e watched.hardware ∧
        watched.inquiry.readings = front ++ [⟨address, len, .error e⟩])
      fun f watched => S f watched.hardware ∧ watched.inquiry.readings = front := by
  refine Act.Leads.post (Act.watched_leads (Inquiry.addReading address len)
    (T := fun inquiry => inquiry.readings = front)
    (U := fun answer inquiry => inquiry.readings = front ++ [Reading.mk address len answer]) h
    fun _ _ hT => hT ▸ rfl) fun answer _ hs => ?_
  cases answer with
  | ok data => exact hs
  | error e => exact hs

end Answers

end FlashBench
