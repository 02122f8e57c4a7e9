import FlashBench.Proofs.Part.Controller

/-!
# How an operation completes

Of a controller nothing is asked here but that it belongs to a layout. A tick does one of three
things (`poll_cases`), and the tick that completes an operation leaves the registers free again and
has stored either nothing or as many bytes as the operation spans, at the address register
(`complete_cases`). What is true of every completion follows from these two, so no later proof opens
the operations themselves.
-/

namespace FlashBench

/-- An operation on the page or the sector at `address` may complete like this. -/
inductive Completion.Of (address : UInt32) : Option FlashOperation → Completion → Prop
  | programmed : Of address (some .programPage) (.programmed address)
  | dropped : Of address (some .programPage) (.dropped address)
  | writeError : Of address (some .programPage) (.refused .writeError)
  | erased : Of address (some .eraseSector) (.erased address)
  | eraseError : Of address (some .eraseSector) (.refused .eraseError)
  | invalidOperation : Of address none (.refused .invalidOperation)

namespace Memory

theorem size_programmed (erased : UInt8) {old data : ByteArray} (h : old.size = data.size) :
    (programmed erased old data).size = old.size := by
  rw [← dump_loaded old 0, ← dump_loaded data 0, ← h, programmed_dump, size_dump, size_dump]

end Memory

namespace Controller

variable {ctrl left : Controller} {layout : FlashLayout} {address : UInt32}

/-! ## What completing leaves -/

/-- The controller with the operation reported and its registers free again. -/
def released (ctrl : Controller) (completion : Completion) : Controller :=
  { ctrl with
    status := statusAfter ctrl.status completion
    control := Register.start.write ctrl.control 0
    enable := Register.enable.write ctrl.enable 1
    busy := none }

/-- Bytes from `address` on that an operation writes, if it writes any. -/
def span (ctrl : Controller) (address : UInt32) : FlashOperation → Nat
  | .programPage => ctrl.layout.pageSize.toNat
  | .eraseSector => (ctrl.sectorMap.sectorSize address).toNat

/-- How an operation ends, and what it leaves stored. -/
def execute (ctrl : Controller) : Option FlashOperation → Completion × Controller
  | some .programPage => ctrl.programPage
  | some .eraseSector => ctrl.eraseSector
  | none => (.refused .invalidOperation, ctrl)

/-- What the operation in the control register may have stored: nothing, or the bytes it spans, from
a multiple of their number on. -/
inductive Stores (ctrl : Controller) : Controller → Prop
  | nothing : Stores ctrl ctrl
  | bytes (operation : FlashOperation) (offset : Nat) (content : ByteArray)
      (named : ctrl.operation? = some operation)
      (spanned : content.size = ctrl.span ctrl.address operation)
      (aligned : ctrl.span ctrl.address operation ∣ ctrl.address.toNat)
      (inside : ctrl.offsetOf ctrl.address content.size = some offset) :
      Stores ctrl (ctrl.store offset content)

theorem complete_eq (ctrl : Controller) :
    ctrl.complete = ((ctrl.execute ctrl.operation?).1,
      (ctrl.execute ctrl.operation?).2.released (ctrl.execute ctrl.operation?).1) := by
  unfold complete
  cases ctrl.operation? with
  | none => rfl
  | some operation => cases operation <;> rfl

theorem On.offsetOf_eq_some {len offset : Nat} (h : ctrl.On layout)
    (hoffset : ctrl.offsetOf address len = some offset) :
    layout.start.toNat ≤ address.toNat ∧ address.toNat + len ≤ layout.stop ∧
      offset = address.toNat - layout.start.toNat := by
  have hcapacity := FlashLayout.start_add_capacity h.capacity
  unfold Controller.offsetOf at hoffset
  rw [h.layout_eq] at hoffset
  by_cases hlow : address < layout.start
  · rw [if_pos hlow] at hoffset
    cases hoffset
  · have hle := UInt32.not_lt.mp hlow
    have hfirst := UInt32.le_iff_toNat_le.mp hle
    rw [if_neg hlow, UInt32.toNat_sub_of_le _ _ hle] at hoffset
    by_cases hroom : address.toNat - layout.start.toNat + len ≤ ctrl.capacity
    · rw [if_pos hroom] at hoffset
      exact ⟨hfirst, by omega, (Option.some.inj hoffset).symm⟩
    · rw [if_neg hroom] at hoffset
      cases hoffset

/-- An access that has an offset lies inside the medium. -/
theorem On.offset_add_le {len offset : Nat} (h : ctrl.On layout)
    (hoffset : ctrl.offsetOf address len = some offset) : offset + len ≤ ctrl.medium.size := by
  have hcapacity := FlashLayout.start_add_capacity h.capacity
  obtain ⟨hfirst, hlast, rfl⟩ := h.offsetOf_eq_some hoffset
  rw [h.medium]
  omega

/-- A page of old cells and a full page buffer make a page. -/
theorem On.size_pageAfter {offset : Nat} {page : ByteArray} (h : ctrl.On layout)
    (hoffset : ctrl.offsetOf ctrl.address ctrl.layout.pageSize.toNat = some offset)
    (hsize : page.size = ctrl.pageBuffer.size) :
    (ctrl.pageAfter offset page).size = ctrl.layout.pageSize.toNat := by
  have hroom := h.offset_add_le hoffset
  have hbuffer : ctrl.pageBuffer.size = ctrl.layout.pageSize.toNat := by
    rw [h.pageBuffer, h.layout_eq]
  have hold : (ctrl.medium.extract offset (offset + ctrl.layout.pageSize.toNat)).size =
      ctrl.layout.pageSize.toNat := by
    rw [ByteArray.size_extract]
    omega
  exact (Memory.size_programmed _ (hold.trans (hsize.trans hbuffer).symm)).trans hold

theorem programPage_stores (h : ctrl.On layout) (hoperation : ctrl.operation? = some .programPage) :
    ∃ completion left, ctrl.programPage = (completion, left) ∧ ctrl.Stores left ∧
      completion.Of ctrl.address (some .programPage) := by
  rcases ctrl.programPage_cases with
    ⟨_, hprogram⟩ | ⟨offset, haligned, hoffset, ⟨_, hprogram⟩ | ⟨_, hprogram⟩⟩
  · exact ⟨_, _, hprogram, .nothing, .writeError⟩
  · exact ⟨_, _, hprogram, .nothing, .dropped⟩
  · have hsize := h.size_pageAfter hoffset rfl
    have hdvd := (Word.mod_eq_zero_iff _ _).mp haligned
    exact ⟨_, _, hprogram, .bytes .programPage offset _ hoperation hsize hdvd
      (hsize.symm ▸ hoffset), .programmed⟩

theorem eraseSector_stores (hoperation : ctrl.operation? = some .eraseSector) :
    ∃ completion left, ctrl.eraseSector = (completion, left) ∧ ctrl.Stores left ∧
      completion.Of ctrl.address (some .eraseSector) := by
  rcases ctrl.eraseSector_cases rfl with ⟨_, herase⟩ | ⟨offset, _, haligned, hoffset, herase⟩
  · exact ⟨_, _, herase, .nothing, .eraseError⟩
  · have hsize := Memory.size_filled (ctrl.sectorMap.sectorSize ctrl.address).toNat
      ctrl.layout.eraseValue
    have hdvd := (Word.mod_eq_zero_iff _ _).mp haligned
    exact ⟨_, _, herase, .bytes .eraseSector offset _ hoperation hsize hdvd
      (hsize.symm ▸ hoffset), .erased⟩

theorem execute_cases (h : ctrl.On layout) :
    ∃ completion left, ctrl.execute ctrl.operation? = (completion, left) ∧
      ctrl.Stores left ∧ completion.Of ctrl.address ctrl.operation? := by
  cases hoperation : ctrl.operation? with
  | none => exact ⟨_, ctrl, rfl, .nothing, .invalidOperation⟩
  | some operation =>
      cases operation with
      | programPage => exact programPage_stores h hoperation
      | eraseSector => exact eraseSector_stores hoperation

/-- **Every completion** reports one of the ways in which the operation can end and frees the
registers; what it has stored before lies at the address register. -/
theorem complete_cases (h : ctrl.On layout) :
    ∃ completion left, ctrl.complete = (completion, left.released completion) ∧
      ctrl.Stores left ∧ completion.Of ctrl.address ctrl.operation? := by
  obtain ⟨completion, left, hexecute, hstores, hof⟩ := execute_cases h
  exact ⟨completion, left, by rw [complete_eq, hexecute], hstores, hof⟩

/-- How long an operation was in flight, whether it was held up, and the faults that have nothing to
do with it make no difference to what it does. -/
theorem complete_aside (ctrl : Controller) (busy : Option UInt32) (stalled failInit : Bool)
    (eraseClockHz : Option UInt32) :
    ({ ctrl with busy, stalled, failInit, eraseClockHz } : Controller).complete =
      (ctrl.complete.1, { ctrl.complete.2 with stalled, failInit, eraseClockHz }) := by
  have hoperation :
      ({ ctrl with busy, stalled, failInit, eraseClockHz } : Controller).operation? =
        ctrl.operation? := rfl
  unfold Controller.complete
  rw [hoperation]
  cases ctrl.operation? with
  | none => rfl
  | some operation =>
      cases operation with
      | programPage =>
          simp only [Controller.programPage, Controller.offsetOf, Controller.store]
          split
          · rfl
          · split
            · rfl
            · split <;> rfl
      | eraseSector =>
          simp only [Controller.eraseSector, Controller.offsetOf, Controller.store]
          split
          · rfl
          · split <;> rfl

/-- What may be stored leaves the controller on its layout. -/
theorem Stores.on (h : ctrl.On layout) (hstores : ctrl.Stores left) : left.On layout := by
  cases hstores with
  | nothing => exact h
  | bytes operation offset content named spanned aligned inside =>
      refine h.withMedium ?_
      rw [Memory.size_overwrite (h.offset_add_le inside), h.medium]

theorem On.released (h : ctrl.On layout) (completion : Completion) :
    (ctrl.released completion).On layout :=
  h.withRegisters

theorem released_idle (ctrl : Controller) (completion : Completion) :
    (ctrl.released completion).Idle :=
  ⟨decide_eq_true (Register.enable_read_write _), rfl⟩

/-! ## Ticks -/

/-- **Every tick** does nothing, takes one off the count, or completes the operation. -/
theorem poll_cases (ctrl : Controller) :
    ((ctrl.busy = none ∨ ctrl.stalled = true) ∧ ctrl.poll = (none, ctrl)) ∨
      ∃ count, ctrl.busy = some count ∧ ctrl.stalled = false ∧
        ((1 < count ∧ ctrl.poll = (none, { ctrl with busy := some (count - 1) })) ∨
          (¬ 1 < count ∧ ctrl.poll = (some ctrl.complete.1, ctrl.complete.2))) := by
  cases hbusy : ctrl.busy with
  | none => exact .inl ⟨.inl rfl, poll_idle hbusy⟩
  | some count =>
      by_cases hstalled : ctrl.stalled = true
      · exact .inl ⟨.inr hstalled, poll_stalled hstalled⟩
      · have hruns := Bool.eq_false_iff.mpr hstalled
        refine .inr ⟨count, rfl, hruns, ?_⟩
        by_cases hcount : 1 < count
        · exact .inl ⟨hcount, poll_counts hbusy hruns hcount⟩
        · exact .inr ⟨hcount, poll_completes hbusy hruns hcount rfl⟩

/-! ## Reports -/

/-- **A completion adds its report to the status register** and changes nothing else there: the done
bit, or the code of an error, which is not zero. -/
theorem statusAfter_reports (status : UInt32) (completion : Completion) :
    ((∀ error, completion ≠ .refused error) ∧
        statusAfter status completion = Register.done.write status 1 ∧
        Register.done.read (statusAfter status completion) = 1) ∨
      ∃ error, completion = .refused error ∧
        statusAfter status completion = Register.error.write status error.code ∧
        Register.error.read (statusAfter status completion) = error.code ∧ error.code ≠ 0 := by
  have hdone : Register.done.read (Register.done.write status 1) = 1 :=
    (Register.Field.read_write (by decide) _ _).trans (by decide)
  cases completion with
  | programmed address => exact .inl ⟨nofun, rfl, hdone⟩
  | dropped address => exact .inl ⟨nofun, rfl, hdone⟩
  | erased address => exact .inl ⟨nofun, rfl, hdone⟩
  | refused error =>
      have herror : Register.error.read (Register.error.write status error.code) = error.code :=
        (Register.Field.read_write (by decide) _ _).trans (by cases error <;> decide)
      exact .inr ⟨error, rfl, rfl, herror, by cases error <;> decide⟩

end Controller

end FlashBench
