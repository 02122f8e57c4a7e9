import FlashBench.Device.Distortion
import FlashBench.Device.Session
import FlashBench.Geometry.Walk
import FlashBench.Proofs.Triple

/-!
# What the users of a device keep

Nothing is assumed of the device but that each of its calls keeps an invariant, an erase or a program
only at an address that is `allowed`. The check of its geometry asks questions and nothing else, and
a session erases and programs at the address it was given, so they keep the invariant as well.
-/

namespace FlashBench

variable {σ : Type} {inv : σ → Prop} {allowed : UInt32 → Prop} {device : Device σ}

/-- The calls of the device keep `inv`, erases and programs at the allowed addresses. -/
structure Device.Keeps (inv : σ → Prop) (allowed : UInt32 → Prop) (device : Device σ) : Prop where
  pageSize : Act.Keeps inv device.pageSize
  startAddress : Act.Keeps inv device.startAddress
  size : Act.Keeps inv device.size
  sectorSize : ∀ address, Act.Keeps inv (device.sectorSize address)
  eraseValue : Act.Keeps inv device.eraseValue
  eraseSector : ∀ address, allowed address → Attempt.Keeps inv (device.eraseSector address)
  programPage : ∀ address data, allowed address →
    Attempt.Keeps inv (device.programPage address data)
  read : ∀ address len, Attempt.Keeps inv (device.read address len)

namespace Device.Keeps

/-- What holds at more addresses holds at fewer. -/
theorem mono {fewer : UInt32 → Prop} (h : device.Keeps inv allowed)
    (hfewer : ∀ address, fewer address → allowed address) : device.Keeps inv fewer :=
  { h with
    eraseSector := fun address hin => h.eraseSector address (hfewer address hin)
    programPage := fun address data hin => h.programPage address data (hfewer address hin) }

/-! ## The geometry check -/

theorem next (h : device.Keeps inv allowed) (walk : SectorWalk) :
    Act.Keeps inv (walk.next device) := by
  unfold SectorWalk.next
  refine .ite (fun _ => .pure _) fun _ => .ite (fun _ => .pure _) fun _ => ?_
  exact (h.sectorSize _).bind fun _ => .ite (fun _ => .pure _) fun _ => .pure _

theorem foldSectors (h : device.Keeps inv allowed) {β : Type}
    {visit : β → Sector → Attempt GeometryError σ β}
    (hvisit : ∀ b sector, Attempt.Keeps inv (visit b sector)) (calls : Nat) (b : β)
    (walk : SectorWalk) : Attempt.Keeps inv (SectorWalk.foldSectors device visit calls b walk) := by
  induction calls generalizing b walk with
  | zero => exact .lift (.fault _)
  | succ calls ih =>
      refine .bind (.lift (h.next walk)) fun item => ?_
      rcases item with ⟨_ | _ | sector, walk⟩
      · exact .pure _
      · exact .throw _
      · exact .bind (hvisit b sector) fun b => ih b walk

theorem checkSector (h : device.Keeps inv allowed) (report : GeometryReport) (sector : Sector) :
    Attempt.Keeps inv (FlashBench.checkSector device report sector) := by
  unfold FlashBench.checkSector
  refine .bind (.note _ _) fun _ => .guard fun _ => .guard fun _ => ?_
  cases sector.lastByte with
  | none => exact .throw _
  | some lastByte =>
      refine .bind (.lift (h.sectorSize _)) fun _ => .guard fun _ => ?_
      exact .bind (.checked _) fun _ => .pure _

theorem checkOutside (h : device.Keeps inv allowed) (address : UInt32) :
    Attempt.Keeps inv (FlashBench.checkOutside device address) :=
  .bind (.lift (h.sectorSize address)) fun _ => .ite (fun _ => .throw _) fun _ => .pure _

theorem checkFence (h : device.Keeps inv allowed) (report : GeometryReport) :
    Attempt.Keeps inv (FlashBench.checkFence device report) := by
  have hafter : Attempt.Keeps inv (if report.stop < Word.span32 then
      FlashBench.checkOutside device (UInt32.ofNat report.stop) else pure ()) :=
    .ite (fun _ => h.checkOutside _) fun _ => .pure _
  exact .ite (fun _ => .bind (h.checkOutside _) fun _ => hafter) fun _ => hafter

theorem checkGeometry (h : device.Keeps inv allowed) :
    Attempt.Keeps inv (FlashBench.checkGeometry device) := by
  have hbegin : Act.Keeps inv (SectorWalk.begin device) :=
    h.startAddress.bind fun _ => h.size.bind fun _ => .pure _
  unfold FlashBench.checkGeometry
  refine .bind (.lift h.pageSize) fun _ => .guard fun _ => ?_
  refine .bind (.lift h.size) fun _ => .guard fun _ => ?_
  refine .bind (.lift h.startAddress) fun _ => .bind (.lift h.size) fun _ => ?_
  refine .bind (.lift hbegin) fun walk => ?_
  refine .bind (h.foldSectors h.checkSector _ _ _) fun report => ?_
  exact .bind (h.checkFence report) fun _ => .pure _

/-! ## Sessions -/

theorem openingText (h : device.Keeps inv allowed) :
    Act.Keeps inv (Session.openingText device) :=
  h.startAddress.bind fun _ => h.size.bind fun _ => h.pageSize.bind fun _ => .pure _

theorem endAddress (h : device.Keeps inv allowed) :
    Act.Keeps inv (Session.endAddress ⟨device⟩) :=
  h.startAddress.bind fun _ => h.size.bind fun _ => .pure _

theorem checkRange (h : device.Keeps inv allowed) (address : UInt32) (len : Nat) :
    Attempt.Keeps inv (Session.checkRange ⟨device⟩ address len) := by
  refine .bind (.lift h.startAddress) fun _ => .guard fun _ => ?_
  exact .bind (.lift h.endAddress) fun _ => .ite (fun _ => .throw _) fun _ => .pure _

theorem sessionErase (h : device.Keeps inv allowed) {address : UInt32} (hallowed : allowed address) :
    Attempt.Keeps inv (Session.eraseSector ⟨device⟩ address) := by
  refine .bind (.lift (h.sectorSize _)) fun _ => .guard fun _ => .guard fun _ => ?_
  exact h.eraseSector address hallowed

/-- A session keeps what the program that it passes on keeps. -/
theorem sessionProgram_of (h : device.Keeps inv allowed) {address : UInt32} {data : ByteArray}
    (hprogram : Attempt.Keeps inv (device.programPage address data)) :
    Attempt.Keeps inv (Session.programPage ⟨device⟩ address data) := by
  refine .bind (h.checkRange _ _) fun _ => .bind (.lift h.pageSize) fun _ => .guard fun _ => ?_
  refine .bind (.checked _) fun _ => .guard fun _ => ?_
  exact hprogram

theorem sessionProgram (h : device.Keeps inv allowed) {address : UInt32} (data : ByteArray)
    (hallowed : allowed address) :
    Attempt.Keeps inv (Session.programPage ⟨device⟩ address data) :=
  h.sessionProgram_of (h.programPage address data hallowed)

theorem sessionRead (h : device.Keeps inv allowed) (address : UInt32) (len : Nat) :
    Attempt.Keeps inv (Session.read ⟨device⟩ address len) :=
  .bind (h.checkRange _ _) fun _ => h.read address len

/-! ## Distorted devices -/

section Distorted

variable {current : σ → Distortion}

theorem distorted_answer {α : Type} {truth : Act σ α} (choose : Distortion → Option α)
    (h : Act.Keeps inv truth) :
    Act.Keeps inv (do
      match choose (← (do return current (← Act.state) : Act σ Distortion)) with
      | some value => return value
      | none => truth) := by
  refine .bind (.bind .state fun _ => .pure _) fun distortion => ?_
  cases choose distortion with
  | some value => exact .pure value
  | none => exact h

theorem distorted_call {α : Type} {call : Attempt FlashError σ α}
    (choose : Distortion → Option FlashError) (h : Attempt.Keeps inv call) :
    Attempt.Keeps inv (do
      match choose (← (do return current (← Act.state) : Act σ Distortion)) with
      | some error => throw error
      | none => call) := by
  refine .bind (.lift (.bind .state fun _ => .pure _)) fun distortion => ?_
  cases choose distortion with
  | some error => exact .throw error
  | none => exact h

/-- **A distortion** hides answers and keeps calls away; it adds nothing. -/
theorem distorted (h : device.Keeps inv allowed) : (device.distorted current).Keeps inv allowed where
  pageSize := distorted_answer _ h.pageSize
  startAddress := distorted_answer _ h.startAddress
  size := distorted_answer _ h.size
  sectorSize := fun address => distorted_answer _ (h.sectorSize address)
  eraseValue := distorted_answer _ h.eraseValue
  eraseSector := fun address hallowed =>
    distorted_call _ (.bind (.lift (.bind .state fun _ => .pure _)) fun _ =>
      .ite (fun _ => .pure _) fun _ => h.eraseSector address hallowed)
  programPage := fun address data hallowed => distorted_call _ (h.programPage address data hallowed)
  read := fun address len =>
    distorted_call _ (.bind (h.read address len) fun _ =>
      .bind (.lift (.bind .state fun _ => .pure _)) fun _ => .pure _)

end Distorted

end Device.Keeps

end FlashBench
