import FlashBench.Part.Controller
import FlashBench.Proofs.Bytes
import FlashBench.Proofs.Part.Layout

/-!
# A controller that serves its part

`Controller.Serves layout bytes timeout` is the invariant of a part in use: the controller belongs
to the layout, no operation is in flight, operations make progress and reach the medium, they end
within the timeout, and at every address of the window the medium holds what `bytes` says.

An operation that completes leaves the controller idle, with the faults and the timing it had
(`Settles`), and the addresses it wrote are the only ones that change (`Holds.yields`): those of a
page (`Holds.program`) or of a sector (`Holds.erase`). A program that is dropped changes none
(`Holds.program_dropped`).

What a completing operation can do to the medium is said once, in `programPage_cases` and
`eraseSector_cases`: it keeps it and reports why, or it writes one page or one sector.
-/

namespace FlashBench

/-! ## Registers -/

theorem Register.Field.read_write {field : Field}
    (h : (field.mask <<< field.offset) >>> field.offset = field.mask) (register value : UInt32) :
    field.read (field.write register value) = value &&& field.mask := by
  rw [← UInt32.toBitVec_inj] at h ⊢
  apply BitVec.eq_of_getLsbD_eq
  intro i hi
  -- a bit of the mask is one that the shift does not push out of the register
  have hbit := congrArg (fun bits => bits.getLsbD i) h
  simp [Field.read, Field.write, Field.of] at hbit ⊢
  grind

theorem Register.enable_read_write (register : UInt32) :
    Register.enable.read (Register.enable.write register 1) ≠ 0 := by
  rw [Field.read_write (by decide)]
  decide

namespace FlashOperation

/-- What the driver writes to the control register to start an operation. -/
def controlValue (operation : FlashOperation) : UInt32 :=
  Register.operation.of operation.code + Register.start.of 1

theorem start_controlValue (operation : FlashOperation) :
    Register.start.read operation.controlValue ≠ 0 := by
  cases operation <;> decide

theorem ofCode?_controlValue (operation : FlashOperation) :
    ofCode? (Register.operation.read operation.controlValue) = some operation := by
  cases operation <;> decide

end FlashOperation

namespace Controller

variable {ctrl final : Controller} {layout : FlashLayout} {bytes new : Nat → UInt8}
  {timeout : UInt32} {operation : FlashOperation} {address : UInt32} {offset len : Nat}

/-! ## States of a controller -/

/-- The controller belongs to a part with this layout. -/
structure On (layout : FlashLayout) (ctrl : Controller) : Prop where
  layout_eq : ctrl.layout = layout
  sectorMap : layout.sectorMap = .ok ctrl.sectorMap
  capacity : layout.capacity = .ok ctrl.capacity
  pageBuffer : ctrl.pageBuffer.size = layout.pageSize.toNat
  medium : ctrl.medium.size = ctrl.capacity

/-- No operation is in flight. -/
structure Idle (ctrl : Controller) : Prop where
  enabled : ctrl.isEnabled = true
  busy : ctrl.busy = none

/-- Operations make progress, reach the medium, and end within `timeout` ticks. -/
structure Works (timeout : UInt32) (ctrl : Controller) : Prop where
  stalled : ctrl.stalled = false
  dropWrites : ctrl.dropWrites = false
  ticks : ∀ operation, max 1 (ctrl.ticksOf (some operation)).toNat ≤ timeout.toNat

/-- An operation that is started now ends within `timeout` ticks. -/
structure Punctual (operation : FlashOperation) (timeout : UInt32) (ctrl : Controller) : Prop where
  enabled : ctrl.isEnabled = true
  runs : ctrl.stalled = false
  ticks : max 1 (ctrl.ticksOf (some operation)).toNat ≤ timeout.toNat

/-- The controller belongs to the layout, and at every address of the window its medium holds what
`bytes` says. -/
structure Holds (layout : FlashLayout) (bytes : Nat → UInt8) (ctrl : Controller) : Prop where
  on : ctrl.On layout
  medium : ctrl.medium = Memory.dump bytes layout.start.toNat ctrl.capacity

/-- The controller is idle and works, and the medium holds `bytes`. -/
structure Serves (layout : FlashLayout) (bytes : Nat → UInt8) (timeout : UInt32)
    (ctrl : Controller) : Prop where
  on : ctrl.On layout
  idle : ctrl.Idle
  works : ctrl.Works timeout
  medium : ctrl.medium = Memory.dump bytes layout.start.toNat ctrl.capacity

theorem Works.punctual (h : ctrl.Works timeout) (hidle : ctrl.Idle) :
    ctrl.Punctual operation timeout :=
  ⟨hidle.enabled, h.stalled, h.ticks operation⟩

/-- The controller `final` is idle, and its faults and its timing are those of `ctrl`. -/
structure Settles (ctrl final : Controller) : Prop where
  idle : final.Idle
  stalled : final.stalled = ctrl.stalled
  dropWrites : final.dropWrites = ctrl.dropWrites
  timing : final.timing = ctrl.timing

theorem Settles.ticksOf (h : ctrl.Settles final) (operation : Option FlashOperation) :
    final.ticksOf operation = ctrl.ticksOf operation := by
  rcases operation with _ | _ | _
  · rfl
  · exact congrArg FlashTiming.programTicks h.timing
  · exact congrArg FlashTiming.eraseTicks h.timing

theorem Settles.punctual_iff (h : ctrl.Settles final) (henabled : ctrl.isEnabled = true) :
    final.Punctual operation timeout ↔ ctrl.Punctual operation timeout := by
  have hticks := h.ticksOf (some operation)
  constructor
  · rintro ⟨_, hruns, hends⟩
    exact ⟨henabled, h.stalled ▸ hruns, hticks ▸ hends⟩
  · rintro ⟨_, hruns, hends⟩
    exact ⟨h.idle.enabled, h.stalled.trans hruns, hticks ▸ hends⟩

theorem Settles.works (h : ctrl.Settles final) (hworks : ctrl.Works timeout) :
    final.Works timeout where
  stalled := h.stalled.trans hworks.stalled
  dropWrites := h.dropWrites.trans hworks.dropWrites
  ticks := fun operation => h.ticksOf (some operation) ▸ hworks.ticks operation

section Registers

variable {control status enable register : UInt32} {busy eraseClockHz : Option UInt32}
  {stalled failInit : Bool}

/-- What the registers hold, and which faults there are, is no matter of the layout. -/
theorem On.withRegisters (h : ctrl.On layout) :
    ({ ctrl with
      control, status, enable, address := register, busy, stalled, failInit, eraseClockHz } :
      Controller).On layout :=
  ⟨h.layout_eq, h.sectorMap, h.capacity, h.pageBuffer, h.medium⟩

theorem Holds.withRegisters (h : ctrl.Holds layout bytes) :
    ({ ctrl with
      control, status, enable, address := register, busy, stalled, failInit, eraseClockHz } :
      Controller).Holds layout bytes :=
  ⟨h.on.withRegisters, h.medium⟩

end Registers

/-- An operation that settled is reported, and the report may be cleared. -/
theorem Settles.withStatus (h : ctrl.Settles final) (status : UInt32) :
    ctrl.Settles { final with status } :=
  ⟨⟨h.idle.enabled, h.idle.busy⟩, h.stalled, h.dropWrites, h.timing⟩

/-- Bytes may be stored in the medium and in its image. -/
theorem On.withMedium {medium : ByteArray} {image : Option ByteArray} (h : ctrl.On layout)
    (hsize : medium.size = ctrl.capacity) :
    ({ ctrl with medium, image } : Controller).On layout :=
  ⟨h.layout_eq, h.sectorMap, h.capacity, h.pageBuffer, hsize⟩

/-- A prepared image is never too short. -/
theorem size_preparedImage (capacity : Nat) (eraseValue : UInt8) (image : ByteArray) :
    capacity ≤ (preparedImage capacity eraseValue image).size := by
  unfold preparedImage
  by_cases h : image.size < capacity
  · simp [h, Memory.size_filled]
  · rw [if_neg h]
    exact Nat.le_of_not_lt h

/-- A controller that was just made, from a prepared image or from none, belongs to its layout. -/
theorem create_on {map : SectorMap} {capacity : Nat} (hmap : layout.sectorMap = .ok map)
    (hcapacity : layout.capacity = .ok capacity) (timing : FlashTiming)
    (image : Option ByteArray) :
    (create layout map capacity timing
      (image.map (preparedImage capacity layout.eraseValue))).On layout where
  layout_eq := rfl
  sectorMap := hmap
  capacity := hcapacity
  pageBuffer := Memory.size_filled _ _
  medium := by
    cases image with
    | none => exact Memory.size_filled _ _
    | some content =>
        have hsize := size_preparedImage capacity layout.eraseValue content
        show ((preparedImage capacity layout.eraseValue content).extract 0 capacity).size = capacity
        rw [ByteArray.size_extract]
        omega

theorem create_idle (layout : FlashLayout) (map : SectorMap) (capacity : Nat)
    (timing : FlashTiming) (image : Option ByteArray) :
    (create layout map capacity timing image).Idle where
  enabled := by
    show decide (Register.enable.read 1 ≠ 0) = true
    decide
  busy := rfl

/-- Whatever the medium holds can be read off it. -/
theorem holds_loaded (hon : ctrl.On layout) :
    ctrl.Holds layout (Memory.loaded ctrl.medium layout.start.toNat) where
  on := hon
  medium := by rw [← hon.medium, Memory.dump_loaded]

theorem serves_loaded (hon : ctrl.On layout) (hidle : ctrl.Idle) (hworks : ctrl.Works timeout) :
    ctrl.Serves layout (Memory.loaded ctrl.medium layout.start.toNat) timeout :=
  ⟨hon, hidle, hworks, (holds_loaded hon).medium⟩

theorem Serves.holds (h : ctrl.Serves layout bytes timeout) : ctrl.Holds layout bytes :=
  ⟨h.on, h.medium⟩

/-! ## Starting an operation -/

/-- The controller with an operation in flight. -/
def started (ctrl : Controller) (operation : FlashOperation) (address : UInt32) : Controller :=
  { ctrl with
    status := 0
    address
    control := operation.controlValue
    enable := Register.enable.write ctrl.enable 0 }

theorem writeControl_started (h : ctrl.isEnabled = true) :
    ({ ctrl with status := 0, address } : Controller).writeControl operation.controlValue =
      { ctrl.started operation address with busy := some (ctrl.ticksOf (some operation)) } := by
  have henabled : ({ ctrl with status := 0, address } : Controller).isEnabled = true := h
  unfold writeControl
  rw [henabled]
  simp only [Bool.not_true, Bool.false_eq_true, if_false, operation?,
    if_neg operation.start_controlValue, operation.ofCode?_controlValue]
  rfl

/-! ## Ticks -/

theorem poll_idle (h : ctrl.busy = none) : ctrl.poll = (none, ctrl) := by
  simp [poll, h]

theorem poll_stalled (h : ctrl.stalled = true) : ctrl.poll = (none, ctrl) := by
  cases hbusy : ctrl.busy with
  | none => exact poll_idle hbusy
  | some count => simp [poll, hbusy, h]

theorem poll_counts {left : UInt32} (hbusy : ctrl.busy = some left)
    (hstalled : ctrl.stalled = false) (hleft : 1 < left) :
    ctrl.poll = (none, { ctrl with busy := some (left - 1) }) := by
  simp [poll, hbusy, hstalled, hleft]

theorem poll_completes {left : UInt32} {completion : Completion} {final : Controller}
    (hbusy : ctrl.busy = some left) (hstalled : ctrl.stalled = false) (hleft : ¬ 1 < left)
    (hcomplete : ctrl.complete = (completion, final)) :
    ctrl.poll = (some completion, final) := by
  simp [poll, hbusy, hstalled, hleft, hcomplete]

/-! ## Completing an operation -/

/-- What completing an operation leaves when it wrote `content` to the medium. -/
def settled (ctrl : Controller) (offset : Nat) (content : ByteArray) : Controller :=
  { ctrl.store offset content with
    status := Register.done.write ctrl.status 1
    control := Register.start.write ctrl.control 0
    enable := Register.enable.write ctrl.enable 1
    busy := none }

/-- What the page at `offset` holds once `page` is programmed. -/
def pageAfter (ctrl : Controller) (offset : Nat) (page : ByteArray) : ByteArray :=
  Memory.programmed ctrl.layout.eraseValue
    (ctrl.medium.extract offset (offset + ctrl.layout.pageSize.toNat)) page

/-- **A program** is refused, is dropped, or stores a page. -/
theorem programPage_cases (ctrl : Controller) :
    ((ctrl.address % ctrl.layout.pageSize ≠ 0 ∨
          ctrl.offsetOf ctrl.address ctrl.layout.pageSize.toNat = none) ∧
        ctrl.programPage = (.refused .writeError, ctrl)) ∨
      ∃ offset, ctrl.address % ctrl.layout.pageSize = 0 ∧
        ctrl.offsetOf ctrl.address ctrl.layout.pageSize.toNat = some offset ∧
        ((ctrl.dropWrites = true ∧ ctrl.programPage = (.dropped ctrl.address, ctrl)) ∨
          (ctrl.dropWrites = false ∧ ctrl.programPage = (.programmed ctrl.address,
            ctrl.store offset (ctrl.pageAfter offset ctrl.pageBuffer)))) := by
  unfold programPage
  by_cases haligned : ctrl.address % ctrl.layout.pageSize = 0
  · cases hoffset : ctrl.offsetOf ctrl.address ctrl.layout.pageSize.toNat with
    | none => exact .inl ⟨.inr rfl, by simp [haligned, hoffset]⟩
    | some offset =>
        refine .inr ⟨offset, haligned, rfl, ?_⟩
        cases ctrl.dropWrites with
        | true => exact .inl ⟨rfl, by simp [haligned, hoffset]⟩
        | false => exact .inr ⟨rfl, by simp [haligned, hoffset, pageAfter]⟩
  · exact .inl ⟨.inl haligned, by simp [haligned]⟩

/-- **An erase** is refused, or stores a sector full of the erase value. -/
theorem eraseSector_cases {size : UInt32} (hsize : ctrl.sectorMap.sectorSize ctrl.address = size) :
    ((size = invalidSize ∨ ctrl.address % size ≠ 0 ∨
          ctrl.offsetOf ctrl.address size.toNat = none) ∧
        ctrl.eraseSector = (.refused .eraseError, ctrl)) ∨
      ∃ offset, size ≠ invalidSize ∧ ctrl.address % size = 0 ∧
        ctrl.offsetOf ctrl.address size.toNat = some offset ∧
        ctrl.eraseSector = (.erased ctrl.address,
          ctrl.store offset (Memory.filled size.toNat ctrl.layout.eraseValue)) := by
  subst hsize
  unfold eraseSector
  by_cases hvalid : ctrl.sectorMap.sectorSize ctrl.address = invalidSize
  · exact .inl ⟨.inl hvalid, by simp [hvalid]⟩
  · by_cases haligned : ctrl.address % ctrl.sectorMap.sectorSize ctrl.address = 0
    · cases hoffset :
          ctrl.offsetOf ctrl.address (ctrl.sectorMap.sectorSize ctrl.address).toNat with
      | none => exact .inl ⟨.inr (.inr rfl), by simp [hvalid, haligned, hoffset]⟩
      | some offset =>
          exact .inr ⟨offset, hvalid, haligned, rfl, by simp [hvalid, haligned, hoffset]⟩
    · exact .inl ⟨.inr (.inl haligned), by simp [haligned]⟩

theorem complete_program (hoperation : ctrl.operation? = some .programPage)
    (haligned : ctrl.address % ctrl.layout.pageSize = 0)
    (hoffset : ctrl.offsetOf ctrl.address ctrl.layout.pageSize.toNat = some offset)
    (hkeeps : ctrl.dropWrites = false) :
    ctrl.complete = (.programmed ctrl.address,
      ctrl.settled offset (ctrl.pageAfter offset ctrl.pageBuffer)) := by
  have hprogram : ctrl.programPage = (.programmed ctrl.address,
      ctrl.store offset (ctrl.pageAfter offset ctrl.pageBuffer)) := by
    rcases ctrl.programPage_cases with
      ⟨hrefused, _⟩ | ⟨other, _, hother, ⟨hdrops, _⟩ | ⟨_, hprogram⟩⟩
    · simp [haligned, hoffset] at hrefused
    · rw [hkeeps] at hdrops
      cases hdrops
    · obtain rfl : offset = other := Option.some.inj (hoffset.symm.trans hother)
      exact hprogram
  unfold complete
  rw [hoperation]
  simp only [hprogram, settled, store, statusAfter]

/-- What completing an operation leaves when it wrote nothing. -/
def settledAsWas (ctrl : Controller) : Controller :=
  { ctrl with
    status := Register.done.write ctrl.status 1
    control := Register.start.write ctrl.control 0
    enable := Register.enable.write ctrl.enable 1
    busy := none }

theorem complete_dropped (hoperation : ctrl.operation? = some .programPage)
    (haligned : ctrl.address % ctrl.layout.pageSize = 0)
    (hoffset : ctrl.offsetOf ctrl.address ctrl.layout.pageSize.toNat = some offset)
    (hdrops : ctrl.dropWrites = true) :
    ctrl.complete = (.dropped ctrl.address, ctrl.settledAsWas) := by
  have hprogram : ctrl.programPage = (.dropped ctrl.address, ctrl) := by
    rcases ctrl.programPage_cases with
      ⟨hrefused, _⟩ | ⟨_, _, _, ⟨_, hprogram⟩ | ⟨hkeeps, _⟩⟩
    · simp [haligned, hoffset] at hrefused
    · exact hprogram
    · rw [hdrops] at hkeeps
      cases hkeeps
  unfold complete
  rw [hoperation]
  simp only [hprogram, settledAsWas, statusAfter]

theorem complete_erase {size : UInt32} (hoperation : ctrl.operation? = some .eraseSector)
    (hsize : ctrl.sectorMap.sectorSize ctrl.address = size) (hvalid : size ≠ invalidSize)
    (haligned : ctrl.address % size = 0)
    (hoffset : ctrl.offsetOf ctrl.address size.toNat = some offset) :
    ctrl.complete = (.erased ctrl.address,
      ctrl.settled offset (Memory.filled size.toNat ctrl.layout.eraseValue)) := by
  have herase : ctrl.eraseSector = (.erased ctrl.address,
      ctrl.store offset (Memory.filled size.toNat ctrl.layout.eraseValue)) := by
    rcases eraseSector_cases hsize with ⟨hrefused, _⟩ | ⟨other, _, _, hother, herase⟩
    · simp [hvalid, haligned, hoffset] at hrefused
    · obtain rfl : offset = other := Option.some.inj (hoffset.symm.trans hother)
      exact herase
  unfold complete
  rw [hoperation]
  simp only [herase, settled, store, statusAfter]

theorem done_settled (ctrl : Controller) (operation : FlashOperation) (address : UInt32)
    (offset : Nat) (content : ByteArray) :
    Register.done.read ((ctrl.started operation address).settled offset content).status ≠ 0 := by
  show Register.done.read (Register.done.write 0 1) ≠ 0
  decide

/-- The operation at `address` completes without an error, whenever it does, and leaves `final`. -/
structure Yields (ctrl : Controller) (operation : FlashOperation) (address : UInt32)
    (final : Controller) : Prop where
  complete : ∀ busy, ∃ completion,
    ({ ctrl.started operation address with busy } : Controller).complete = (completion, final)
  done : Register.done.read final.status ≠ 0

/-! ## The medium behind the window -/

theorem On.offsetOf (h : ctrl.On layout) (hfirst : layout.start.toNat ≤ address.toNat)
    (hlast : address.toNat + len ≤ layout.stop) :
    ctrl.offsetOf address len = some (address.toNat - layout.start.toNat) := by
  have hle := UInt32.le_iff_toNat_le.mpr hfirst
  have hcapacity := FlashLayout.start_add_capacity h.capacity
  unfold Controller.offsetOf
  rw [h.layout_eq, if_neg (UInt32.not_lt.mpr hle), UInt32.toNat_sub_of_le _ _ hle]
  exact if_pos (by omega)

theorem Holds.directRead (h : ctrl.Holds layout bytes)
    (hfirst : layout.start.toNat ≤ address.toNat) (hlast : address.toNat + len ≤ layout.stop) :
    ctrl.directRead address len = .ok (Memory.dump bytes address.toNat len) := by
  have hcapacity := FlashLayout.start_add_capacity h.on.capacity
  unfold Controller.directRead
  rw [h.on.offsetOf hfirst hlast, h.medium]
  show Except.ok _ = _
  rw [Memory.extract_dump (by omega), Nat.add_sub_cancel' hfirst]

/-- **A write changes what it is for.** Bytes stored from `first` on are held there, and nowhere
else. -/
theorem Holds.store {first : Nat} (h : ctrl.Holds layout bytes) (new : Nat → UInt8)
    (hfirst : layout.start.toNat ≤ first) (hlast : first + len ≤ layout.stop) :
    (ctrl.store (first - layout.start.toNat) (Memory.dump new first len)).Holds layout
      (Memory.patch bytes first len new) := by
  obtain ⟨offset, rfl⟩ := Nat.exists_eq_add_of_le hfirst
  have hcapacity := FlashLayout.start_add_capacity h.on.capacity
  rw [Nat.add_sub_cancel_left]
  have hmedium : Memory.overwrite ctrl.medium offset
      (Memory.dump new (layout.start.toNat + offset) len) =
        Memory.dump (Memory.patch bytes (layout.start.toNat + offset) len new)
          layout.start.toNat ctrl.capacity := by
    rw [h.medium, Memory.overwrite_dump (by omega)]
  exact ⟨h.on.withMedium (by rw [hmedium, Memory.size_dump]), hmedium⟩

/-- A page loaded into the buffer replaces all of it. -/
theorem writePageBuffer_eq {page : ByteArray} (h : page.size = ctrl.pageBuffer.size) :
    ctrl.writePageBuffer page = { ctrl with pageBuffer := page } := by
  unfold writePageBuffer
  rw [Memory.extract_size page (Nat.le_of_eq h), Memory.overwrite_all h]

/-- Whatever is loaded, the page buffer stays as large as it is, and nothing else changes. -/
theorem writePageBuffer_cases (ctrl : Controller) (data : ByteArray) :
    ∃ page, page.size = ctrl.pageBuffer.size ∧
      ctrl.writePageBuffer data = { ctrl with pageBuffer := page } := by
  have hroom : 0 + (data.extract 0 ctrl.pageBuffer.size).size ≤ ctrl.pageBuffer.size := by
    rw [ByteArray.size_extract]
    omega
  exact ⟨_, Memory.size_overwrite hroom, rfl⟩

theorem On.withPageBuffer {page : ByteArray} (h : ctrl.On layout)
    (hsize : page.size = ctrl.pageBuffer.size) :
    ({ ctrl with pageBuffer := page } : Controller).On layout :=
  ⟨h.layout_eq, h.sectorMap, h.capacity, hsize.trans h.pageBuffer, h.medium⟩

theorem Serves.writePageBuffer (h : ctrl.Serves layout bytes timeout) {page : ByteArray}
    (hsize : page.size = layout.pageSize.toNat) :
    (ctrl.writePageBuffer page).Serves layout bytes timeout ∧
      (ctrl.writePageBuffer page).pageBuffer = page := by
  rw [writePageBuffer_eq (hsize.trans h.on.pageBuffer.symm)]
  exact ⟨⟨⟨h.on.layout_eq, h.on.sectorMap, h.on.capacity, hsize, h.on.medium⟩,
    ⟨h.idle.enabled, h.idle.busy⟩, ⟨h.works.stalled, h.works.dropWrites, h.works.ticks⟩,
    h.medium⟩, rfl⟩

/-- **A write changes the bytes it wrote.** An operation that completes by writing `new` to the
addresses from `first` on changes these and no others, and settles. -/
theorem Holds.yields {first : Nat} (h : ctrl.Holds layout bytes)
    (hfirst : layout.start.toNat ≤ first) (hlast : first + len ≤ layout.stop)
    (hcomplete : ∀ busy, ∃ completion,
      ({ ctrl.started operation address with busy } : Controller).complete =
        (completion, (ctrl.started operation address).settled (first - layout.start.toNat)
          (Memory.dump new first len))) :
    ∃ final, ctrl.Yields operation address final ∧ ctrl.Settles final ∧
      final.Holds layout (Memory.patch bytes first len new) := by
  have hstored := h.store new hfirst hlast
  -- completion sets the enable bit again; the other fields are those of `ctrl`
  exact ⟨_, ⟨hcomplete, done_settled _ _ _ _ _⟩,
    ⟨⟨decide_eq_true (Register.enable_read_write _), rfl⟩, rfl, rfl, rfl⟩, hstored.withRegisters⟩

/-- What a page holds after it was programmed depends on what it held before. -/
theorem Holds.pageAfter {data : Nat → UInt8} (h : ctrl.Holds layout bytes)
    (hfirst : layout.start.toNat ≤ address.toNat)
    (hlast : address.toNat + layout.pageSize.toNat ≤ layout.stop) :
    ctrl.pageAfter (address.toNat - layout.start.toNat)
        (Memory.dump data address.toNat layout.pageSize.toNat) =
      Memory.dump (Memory.programmedOver layout.eraseValue bytes data) address.toNat
        layout.pageSize.toNat := by
  have hcapacity := FlashLayout.start_add_capacity h.on.capacity
  unfold Controller.pageAfter
  rw [h.on.layout_eq, h.medium, Memory.extract_dump (by omega), Nat.add_sub_cancel' hfirst,
    Memory.programmed_dump]

section Operations

variable (h : ctrl.Holds layout bytes)

include h

section Programs

variable (haligned : layout.pageSize.toNat ∣ address.toNat)
  (hfirst : layout.start.toNat ≤ address.toNat)
  (hlast : address.toNat + layout.pageSize.toNat ≤ layout.stop)

include haligned hfirst hlast

/-- **A program** of the page in the buffer. -/
theorem Holds.program {data : Nat → UInt8} (hkeeps : ctrl.dropWrites = false)
    (hpage : ctrl.pageBuffer = Memory.dump data address.toNat layout.pageSize.toNat) :
    ∃ final, ctrl.Yields .programPage address final ∧ ctrl.Settles final ∧
      final.Holds layout (Memory.patch bytes address.toNat layout.pageSize.toNat
        (Memory.programmedOver layout.eraseValue bytes data)) := by
  obtain rfl := h.on.layout_eq
  refine h.yields hfirst hlast fun busy => ⟨.programmed address, ?_⟩
  have hcomplete := complete_program
    (show ({ ctrl.started .programPage address with busy } : Controller).operation? =
      some .programPage from FlashOperation.ofCode?_controlValue _)
    (show address % ctrl.layout.pageSize = 0 from (Word.mod_eq_zero_iff _ _).mpr haligned)
    (show ctrl.offsetOf address ctrl.layout.pageSize.toNat = some _ from h.on.offsetOf hfirst hlast)
    hkeeps
  rw [hcomplete, ← h.pageAfter hfirst hlast, ← hpage]
  rfl

/-- **A program that is dropped** is reported like any other. -/
theorem Holds.program_dropped (hdrops : ctrl.dropWrites = true) :
    ∃ final, ctrl.Yields .programPage address final ∧ ctrl.Settles final ∧
      final.Holds layout bytes := by
  obtain rfl := h.on.layout_eq
  refine ⟨(ctrl.started .programPage address).settledAsWas, ⟨fun busy => ⟨.dropped address, ?_⟩, ?_⟩,
    ⟨⟨decide_eq_true (Register.enable_read_write _), rfl⟩, rfl, rfl, rfl⟩, h.withRegisters⟩
  · exact complete_dropped
      (show ({ ctrl.started .programPage address with busy } : Controller).operation? =
        some .programPage from FlashOperation.ofCode?_controlValue _)
      (show address % ctrl.layout.pageSize = 0 from (Word.mod_eq_zero_iff _ _).mpr haligned)
      (show ctrl.offsetOf address ctrl.layout.pageSize.toNat = some _ from
        h.on.offsetOf hfirst hlast)
      hdrops
  · show Register.done.read (Register.done.write 0 1) ≠ 0
    decide

end Programs

/-- **An erase** of a sector, whether programs are dropped or not. -/
theorem Holds.erase (hlayout : layout.validate = .ok (.ok ())) {sector : Sector}
    (hmem : sector ∈ layout.sectorList) :
    ∃ final, ctrl.Yields .eraseSector sector.start final ∧ ctrl.Settles final ∧
      final.Holds layout
        (Memory.patch bytes sector.start.toNat sector.size.toNat fun _ => layout.eraseValue) := by
  obtain rfl := h.on.layout_eq
  have hcharts := FlashLayout.charts_geometry hlayout h.on.sectorMap
  have hadmits := hcharts.admits sector hmem
  obtain ⟨hfirst, hlast⟩ := hcharts.tiled.mem_bounds sector hmem
  refine h.yields hfirst hlast fun busy => ⟨.erased sector.start, ?_⟩
  have hcomplete := complete_erase
    (show ({ ctrl.started .eraseSector sector.start with busy } : Controller).operation? =
      some .eraseSector from FlashOperation.ofCode?_controlValue _)
    (show ctrl.sectorMap.sectorSize sector.start = sector.size from hadmits.first)
    hadmits.valid
    (show sector.start % sector.size = 0 from (Word.mod_eq_zero_iff _ _).mpr hadmits.aligned)
    (show ctrl.offsetOf sector.start sector.size.toNat = _ from h.on.offsetOf hfirst hlast)
  rw [hcomplete, ← Memory.filled_eq_dump]
  rfl

end Operations

/-- A controller that works and settles serves what it holds. -/
theorem Settles.serves (h : ctrl.Settles final) (hworks : ctrl.Works timeout)
    (hholds : final.Holds layout new) :
    ({ final with status := 0 } : Controller).Serves layout new timeout :=
  ⟨hholds.on.withRegisters, (h.withStatus 0).idle, (h.withStatus 0).works hworks, hholds.medium⟩

end Controller

end FlashBench
