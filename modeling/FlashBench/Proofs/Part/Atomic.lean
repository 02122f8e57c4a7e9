import FlashBench.Proofs.Part.Completion
import FlashBench.Proofs.Part.FlashArray

/-!
# All or nothing

A session and a controller judge an address by the same regions, in different units, so the
controller refuses no operation of a call that the session let through (`On.accepts_program`,
`On.accepts_erase`). What may still go wrong is that the timeout is used up. That happens to the
first operation of a call or to none: an operation that ends in time leaves the controller free and
as fast as it found it (`Accepts.punctual`). So a call that ends with an error has changed no byte
(`Rig.call_atomic`), whatever the registers and the page buffer held before.
-/

namespace FlashBench

namespace Controller

variable {ctrl : Controller} {layout : FlashLayout} {timeout address : UInt32}
  {operation : FlashOperation}

/-! ## Room -/

/-- Every stretch of the medium or of the page buffer that an operation takes is there, and nothing
that it divides by is zero. -/
structure Roomy (ctrl : Controller) : Prop where
  pageSize : ctrl.layout.pageSize ≠ 0
  sectorSize : ∀ address, ctrl.sectorMap.sectorSize address ≠ 0
  pageBuffer : ctrl.pageBuffer.size = ctrl.layout.pageSize.toNat
  medium : ∀ address len offset, ctrl.offsetOf address len = some offset →
    offset + len ≤ ctrl.medium.size

theorem On.roomy (h : ctrl.On layout) (hlayout : layout.validate = .ok (.ok ())) : ctrl.Roomy := by
  obtain rfl := h.layout_eq
  have hcharts := FlashLayout.charts_geometry hlayout h.sectorMap
  exact ⟨(Word.ne_zero_iff _).mpr hcharts.paged, hcharts.sectorSize_ne_zero, h.pageBuffer,
    fun _ _ _ hoffset => h.offset_add_le hoffset⟩

/-! ## Operations that are not refused -/

/-- The controller does not refuse the operation at `address`, once it is started. -/
def Accepts (ctrl : Controller) (operation : FlashOperation) (address : UInt32) : Prop :=
  ∀ error, ((ctrl.started operation address).execute (some operation)).1 ≠ .refused error

theorem programPage_ne_refused {offset : Nat} (hmod : ctrl.address % ctrl.layout.pageSize = 0)
    (hoffset : ctrl.offsetOf ctrl.address ctrl.layout.pageSize.toNat = some offset)
    (error : OperationError) : ctrl.programPage.1 ≠ .refused error := by
  rcases ctrl.programPage_cases with
    ⟨hrefused, _⟩ | ⟨_, _, _, ⟨_, hprogram⟩ | ⟨_, hprogram⟩⟩
  · simp [hmod, hoffset] at hrefused
  · rw [hprogram]
    exact nofun
  · rw [hprogram]
    exact nofun

theorem eraseSector_ne_refused {offset : Nat} {size : UInt32}
    (hsize : ctrl.sectorMap.sectorSize ctrl.address = size) (hvalid : size ≠ invalidSize)
    (hmod : ctrl.address % size = 0) (hoffset : ctrl.offsetOf ctrl.address size.toNat = some offset)
    (error : OperationError) : ctrl.eraseSector.1 ≠ .refused error := by
  rcases eraseSector_cases hsize with ⟨hrefused, _⟩ | ⟨_, _, _, _, herase⟩
  · simp [hvalid, hmod, hoffset] at hrefused
  · rw [herase]
    exact nofun

/-- **A page** of the window is programmed or dropped. -/
theorem On.accepts_program (h : ctrl.On layout) (haligned : layout.pageSize.toNat ∣ address.toNat)
    (hfirst : layout.start.toNat ≤ address.toNat)
    (hlast : address.toNat + layout.pageSize.toNat ≤ layout.stop) :
    ctrl.Accepts .programPage address := by
  obtain rfl := h.layout_eq
  have hmod : address % ctrl.layout.pageSize = 0 := (Word.mod_eq_zero_iff _ _).mpr haligned
  show ∀ error, (ctrl.started .programPage address).programPage.1 ≠ .refused error
  exact programPage_ne_refused hmod (h.offsetOf hfirst hlast)

/-- **A sector** of the layout is erased. -/
theorem On.accepts_erase (h : ctrl.On layout) (hlayout : layout.validate = .ok (.ok ()))
    {sector : Sector} (hmem : sector ∈ layout.sectorList) :
    ctrl.Accepts .eraseSector sector.start := by
  have hcharts := FlashLayout.charts_geometry hlayout h.sectorMap
  have hadmits := hcharts.admits sector hmem
  have hmod : sector.start % sector.size = 0 := (Word.mod_eq_zero_iff _ _).mpr hadmits.aligned
  obtain ⟨hfirst, hlast⟩ := hcharts.tiled.mem_bounds sector hmem
  show ∀ error, (ctrl.started .eraseSector sector.start).eraseSector.1 ≠ .refused error
  exact eraseSector_ne_refused hadmits.first hadmits.valid hmod (h.offsetOf hfirst hlast)

/-- **An operation that is not refused** yields, and leaves the controller as punctual as before. -/
theorem Accepts.punctual (h : ctrl.Accepts operation address) (hon : ctrl.On layout)
    (hpunctual : ctrl.Punctual operation timeout) :
    ∃ final, ctrl.Yields operation address final ∧
      ({ final with status := 0 } : Controller).On layout ∧
      ({ final with status := 0 } : Controller).Punctual operation timeout := by
  have hbase : (ctrl.started operation address).On layout := hon.withRegisters
  have hoperation : (ctrl.started operation address).operation? = some operation :=
    FlashOperation.ofCode?_controlValue operation
  obtain ⟨completion, left, hexecute, hstores, _⟩ := execute_cases hbase
  have hcomplete : (ctrl.started operation address).complete =
      (completion, left.released completion) := by rw [complete_eq, hexecute]
  have htiming : left.timing = ctrl.timing := by cases hstores <;> rfl
  have hdone : Register.done.read (left.released completion).status ≠ 0 := by
    rcases statusAfter_reports left.status completion with ⟨_, _, hdone⟩ | ⟨error, rfl, _⟩
    · show Register.done.read (statusAfter left.status completion) ≠ 0
      rw [hdone]
      decide
    · rw [hoperation] at hexecute
      exact absurd (congrArg Prod.fst hexecute) (h error)
  -- the faults are not a matter of the operation, so they are as they were
  let final := { left.released completion with
    stalled := ctrl.stalled, failInit := ctrl.failInit, eraseClockHz := ctrl.eraseClockHz }
  refine ⟨final, ⟨fun busy => ⟨completion, ?_⟩, hdone⟩,
    ((hstores.on hbase).released completion).withRegisters,
    ⟨(left.released_idle completion).enabled, hpunctual.runs, ?_⟩⟩
  · exact (complete_aside _ busy ctrl.stalled ctrl.failInit ctrl.eraseClockHz).trans
      (by rw [hcomplete])
  · have hticks : left.ticksOf (some operation) = ctrl.ticksOf (some operation) := by
      cases operation <;> simp only [ticksOf, htiming]
    show max 1 (left.ticksOf (some operation)).toNat ≤ timeout.toNat
    rw [hticks]
    exact hpunctual.ticks

end Controller

namespace Rig

variable {ctrl : Controller} {layout : FlashLayout} {timeout address : UInt32}
  {operation : FlashOperation}

/-! ## Operations in time -/

/-- The controller belongs to the layout, and an operation that is started now ends in time. -/
def Timely (layout : FlashLayout) (operation : FlashOperation) (rig : Rig) : Prop :=
  rig.ctrl.On layout ∧ rig.ctrl.Punctual operation rig.pollTimeout

/-- **One operation.** -/
theorem perform_timely (h : ∀ ctrl : Controller, ctrl.On layout → ctrl.Accepts operation address) :
    Attempt.Ends (Timely layout operation) (perform operation address) (.ok ())
      (Timely layout operation) :=
  ends_of_has fun rig hrig => by
    obtain ⟨final, hyields, hon, hpunctual⟩ := (h _ hrig.1).punctual hrig.1 hrig.2
    refine (perform_ends hrig.2 hyields).post fun next hnext => ?_
    unfold Timely
    rw [hnext.1, hnext.2]
    exact ⟨hon, hpunctual⟩

theorem loadPage_timely (content : ByteArray) :
    Act.Ends (Timely layout operation) (changeCtrl (·.writePageBuffer content)) ()
      (Timely layout operation) :=
  .change _ fun rig hrig => by
    obtain ⟨page, hsize, hwrite⟩ := rig.ctrl.writePageBuffer_cases content
    show (rig.ctrl.writePageBuffer content).On layout ∧
      (rig.ctrl.writePageBuffer content).Punctual operation rig.pollTimeout
    rw [hwrite]
    exact ⟨hrig.1.withPageBuffer hsize, hrig.2.enabled, hrig.2.runs, hrig.2.ticks⟩

/-- **A program of any number of pages.** -/
theorem device_programPage_timely {content : ByteArray} (hlayout : layout.validate = .ok (.ok ()))
    (hproper : (FlashCall.program address content).Proper layout) :
    Attempt.Ends (Timely layout .programPage) (device.programPage address content) (.ok ())
      (Timely layout .programPage) := by
  obtain ⟨map, hmap, _⟩ := Word.bind_eq_ok_iff.mp hlayout
  have hcharts := FlashLayout.charts_geometry hlayout hmap
  obtain ⟨hfirst, hlast, _, hpages, haligned⟩ := hproper
  refine ctrlNow_lift_bind fun rig hrig => ?_
  rw [hrig.1.layout_eq]
  have hspan := Nat.le_trans hlast hcharts.top
  refine programPages_run (I := fun _ => Timely layout .programPage) hcharts.paged hspan
    (fun _ _ => loadPage_timely _) (fun index target hroom htarget => ?_)
    (pageCount content.size layout.pageSize.toNat) 0 ?_
  · exact perform_timely fun ctrl hon => hon.accepts_program
      (htarget ▸ Nat.dvd_add haligned (Nat.dvd_mul_left _ _)) (by omega) (by omega)
  · rw [Nat.zero_add]
    exact Nat.le_of_eq (pageCount_mul hcharts.paged hpages)

/-! ## Operations that take too long -/

/-- **A first page** that is not done in time is the last one. -/
theorem device_programPage_late {content : ByteArray} (hon : ctrl.On layout)
    (hpage : 0 < layout.pageSize.toNat) (hsome : content.size ≠ 0)
    (hlate : ¬ ctrl.Punctual .programPage timeout) :
    Attempt.Ends (Has ctrl timeout) (device.programPage address content) (.error .hardwareTimeout)
      (fun rig => rig.ctrl.medium = ctrl.medium) := by
  obtain ⟨page, _, hwrite⟩ :=
    ctrl.writePageBuffer_cases (content.extract 0 ctrl.layout.pageSize.toNat)
  refine device_programPage_refused (hon.layout_eq ▸ hpage) hsome ?_
  rw [hwrite]
  exact perform_timeout fun hpunctual => hlate ⟨hpunctual.enabled, hpunctual.runs, hpunctual.ticks⟩

/-! ## Calls -/

/-- What is attempted with this controller succeeds, or it ends with one of `errors` and the medium
is what it was. -/
def Atomic {α : Type} (ctrl : Controller) (timeout : UInt32) (attempt : Attempt FlashError Rig α)
    (errors : FlashError → Prop) : Prop :=
  ∃ outcome, Attempt.Ends (Has ctrl timeout) attempt outcome fun rig =>
    ∀ error, outcome = .error error → errors error ∧ rig.ctrl.medium = ctrl.medium

/-- The errors with which a call may end. Those of a read are found by the session itself. -/
def CallErrors (ctrl : Controller) (timeout : UInt32) : FlashCall → FlashError → Prop
  | .erase _, error => error = .outOfRange ∨ error = .alignment ∨ error = .hardwareTimeout
  | .program _ _, error => error = .outOfRange ∨ error = .alignment ∨ error = .hardwareTimeout
  | .read address len, error => error = .outOfRange ∧
      Attempt.Ends (Has ctrl timeout) (Session.checkRange ⟨device⟩ address len) (.error error)
        (Has ctrl timeout)

section Atomic

variable {α : Type} {attempt : Attempt FlashError Rig α} {errors : FlashError → Prop}

theorem Atomic.success {value : α} {Q : Rig → Prop}
    (h : Attempt.Ends (Has ctrl timeout) attempt (.ok value) Q) :
    Atomic ctrl timeout attempt errors :=
  ⟨.ok value, h.post fun _ _ => nofun⟩

theorem Atomic.refusal {error : FlashError} (herror : errors error)
    (h : Attempt.Ends (Has ctrl timeout) attempt (.error error)
      fun rig => rig.ctrl.medium = ctrl.medium) : Atomic ctrl timeout attempt errors :=
  ⟨.error error, h.post fun _ hrig _ heq => ⟨Except.error.inj heq ▸ herror, hrig⟩⟩

end Atomic

variable (hlayout : layout.validate = .ok (.ok ())) (hon : ctrl.On layout)

include hlayout hon

theorem erase_atomic : Atomic ctrl timeout (Session.call ⟨device⟩ (.erase address))
    (CallErrors ctrl timeout (.erase address)) := by
  have hrigs : ∀ rig, Has ctrl timeout rig → rig.ctrl.On layout := on_of_has hon
  by_cases hproper : (FlashCall.erase address).Proper layout
  · obtain ⟨sector, hmem, rfl⟩ := hproper
    by_cases htimely : ctrl.Punctual .eraseSector timeout
    · have haccepts (ctrl : Controller) (hon : ctrl.On layout) := hon.accepts_erase hlayout hmem
      have hdone := (perform_timely haccepts).pre
        fun rig (hrig : Has ctrl timeout rig) => ⟨hrigs rig hrig, hrig.1 ▸ hrig.2 ▸ htimely⟩
      exact .success (FlashArray.erase_passed hlayout hrigs hmem hdone)
    · exact .refusal (.inr (.inr rfl))
        (FlashArray.erase_passed hlayout hrigs hmem (perform_timeout htimely))
  · obtain ⟨error, herror, _, hends⟩ :=
      FlashArray.erase_refused hlayout hrigs (.ofMedium layout ctrl.medium) hproper
    exact .refusal (herror.imp_right .inl) (hends.post medium_of_has)

theorem program_atomic (data : ByteArray) :
    Atomic ctrl timeout (Session.call ⟨device⟩ (.program address data))
      (CallErrors ctrl timeout (.program address data)) := by
  have hrigs : ∀ rig, Has ctrl timeout rig → rig.ctrl.On layout := on_of_has hon
  by_cases hproper : (FlashCall.program address data).Proper layout
  · by_cases htimely : ctrl.Punctual .programPage timeout
    · have hdone := (device_programPage_timely hlayout hproper).pre
        fun rig (hrig : Has ctrl timeout rig) => ⟨hrigs rig hrig, hrig.1 ▸ hrig.2 ▸ htimely⟩
      exact .success (FlashArray.program_passed hlayout hrigs hproper hdone)
    · have hpage := (FlashLayout.charts_geometry hlayout hon.sectorMap).paged
      exact .refusal (.inr (.inr rfl)) (FlashArray.program_passed hlayout hrigs hproper
        (device_programPage_late hon hpage hproper.2.2.1 htimely))
  · obtain ⟨error, herror, _, hends⟩ :=
      FlashArray.program_refused hlayout hrigs (.ofMedium layout ctrl.medium) hproper
    exact .refusal (herror.imp_right .inl) (hends.post medium_of_has)

theorem read_atomic (len : Nat) : Atomic ctrl timeout (Session.call ⟨device⟩ (.read address len))
    (CallErrors ctrl timeout (.read address len)) := by
  have hrigs : ∀ rig, Has ctrl timeout rig → rig.ctrl.On layout := on_of_has hon
  by_cases hproper : (FlashCall.read address len).Proper layout
  · have hholds : ∀ rig, Has ctrl timeout rig →
        rig.ctrl.Holds layout (Memory.loaded ctrl.medium layout.start.toNat) := fun rig hrig => by
      rw [hrig.1]
      exact Controller.holds_loaded hon
    exact .success (FlashArray.read_passed hlayout hrigs hproper
      (device_read_holds hholds hproper.1 hproper.2))
  · obtain ⟨_, hcheck⟩ :=
      FlashArray.read_refused hlayout hrigs (.ofMedium layout ctrl.medium) hproper
    exact .refusal ⟨rfl, hcheck⟩
      (.bind_error (.bind_error (hcheck.post medium_of_has)))

/-- **A call is atomic,** whatever the controller was at. -/
theorem call_atomic (call : FlashCall) :
    Atomic ctrl timeout (Session.call ⟨device⟩ call) (CallErrors ctrl timeout call) := by
  cases call with
  | erase address => exact erase_atomic hlayout hon
  | program address data => exact program_atomic hlayout hon data
  | read address len => exact read_atomic hlayout hon len

end Rig

end FlashBench
