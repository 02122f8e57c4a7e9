import FlashBench.Proofs.Device.Session
import FlashBench.Proofs.Part.Polled

/-!
# The driver of a controller that works

The driver starts an operation and polls. On a controller that works the countdown reaches the
completion within the timeout, so an operation that yields ends without an error (`perform_ends`),
and a program goes from page to page (`programPages_run`).
-/

namespace FlashBench

/-- In every state of `P`, which none of these questions leaves, the device answers as a part with
this layout whose medium holds `bytes`. -/
structure Device.Shows {σ : Type} (device : Device σ) (P : σ → Prop) (layout : FlashLayout)
    (g : Geometry) (bytes : Nat → UInt8) : Prop where
  reports : device.Reports P g
  eraseValue : Act.Ends P device.eraseValue layout.eraseValue P
  read : ∀ (address : UInt32) (len : Nat), layout.start.toNat ≤ address.toNat →
    address.toNat + len ≤ layout.stop →
    Attempt.Ends P (device.read address len) (.ok (Memory.dump bytes address.toNat len)) P

namespace Rig

variable {ctrl : Controller} {layout : FlashLayout} {bytes data : Nat → UInt8} {timeout : UInt32}
  {operation : FlashOperation} {address : UInt32}

/-- The controller serves its part, and the driver waits long enough. -/
def Serves (layout : FlashLayout) (bytes : Nat → UInt8) (rig : Rig) : Prop :=
  rig.ctrl.Serves layout bytes rig.pollTimeout

/-! ## One operation -/

/-- An operation that yields ends without an error if it is punctual. -/
theorem perform_ends {final : Controller} (hpunctual : ctrl.Punctual operation timeout)
    (hyields : ctrl.Yields operation address final) :
    Attempt.Ends (Has ctrl timeout) (perform operation address) (.ok ())
      (Has { final with status := 0 } timeout) :=
  (PolledRig.perform_counts operation address).ends <|
    (PolledRig.perform_timely hpunctual hyields 0).post fun _ h => h.1

/-- **A controller that is still busy** refuses an operation, and stays as it is. -/
theorem perform_busy (hdisabled : ctrl.isEnabled = false) :
    Attempt.Ends (Has ctrl timeout) (perform operation address) (.error .hardwareTimeout)
      (Has ctrl timeout) :=
  (PolledRig.perform_counts operation address).ends <|
    (PolledRig.perform_busy hdisabled 0).post fun _ h => h.1

/-- **An operation that is not punctual** is given up, and the medium is what it was. -/
theorem perform_timeout (hlate : ¬ ctrl.Punctual operation timeout) :
    Attempt.Ends (Has ctrl timeout) (perform operation address) (.error .hardwareTimeout)
      (fun rig => rig.ctrl.medium = ctrl.medium) := by
  by_cases henabled : ctrl.isEnabled = true
  · obtain ⟨_, _, hends⟩ := PolledRig.perform_late henabled hlate 0
    exact (PolledRig.perform_counts operation address).ends
      (hends.post fun polled h => (medium_of_has polled.rig h.1 :))
  · exact (perform_busy (Bool.eq_false_iff.mpr henabled)).post medium_of_has

/-! ## Operations on a part -/

/-- What is done to each of the rigs in question. -/
theorem ends_of_has {α : Type} {P Q : Rig → Prop} {attempt : Attempt FlashError Rig α}
    {outcome : Except FlashError α} (h : ∀ rig, P rig →
      Attempt.Ends (Has rig.ctrl rig.pollTimeout) attempt outcome Q) :
    Attempt.Ends P attempt outcome Q :=
  fun world hworld => h world.state hworld world ⟨rfl, rfl⟩

/-- An operation that leaves its controller holding other bytes does the same to the rig. -/
theorem perform_serves {P : Rig → Prop} {result : Nat → UInt8}
    (h : ∀ rig, P rig → Serves layout bytes rig ∧ ∃ final, rig.ctrl.Yields operation address final ∧
      rig.ctrl.Settles final ∧ final.Holds layout result) :
    Attempt.Ends P (perform operation address) (.ok ()) (Serves layout result) :=
  ends_of_has fun rig hrig => by
    obtain ⟨hserves, final, hyields, hsettles, hfinal⟩ := h rig hrig
    refine (perform_ends (hserves.works.punctual hserves.idle) hyields).post fun next hnext => ?_
    unfold Serves
    rw [hnext.1, hnext.2]
    exact hsettles.serves hserves.works hfinal

theorem erase_ends (hlayout : layout.validate = .ok (.ok ())) {sector : Sector}
    (hmem : sector ∈ layout.sectorList) :
    Attempt.Ends (Serves layout bytes) (perform .eraseSector sector.start) (.ok ())
      (Serves layout
        (Memory.patch bytes sector.start.toNat sector.size.toNat fun _ => layout.eraseValue)) :=
  perform_serves fun _ hrig => ⟨hrig, Controller.Holds.erase hrig.holds hlayout hmem⟩

/-- **Page by page.** `I index` holds before page `index` is loaded and `J index` before it is
programmed. -/
theorem programPages_run {I J : Nat → Rig → Prop} {content : ByteArray} {size : Nat}
    (hsize : 0 < size) (hspan : address.toNat + content.size ≤ Word.span32)
    (hload : ∀ index, index * size + size ≤ content.size → Act.Ends (I index)
      (changeCtrl (·.writePageBuffer (content.extract (index * size) (index * size + size)))) ()
      (J index))
    (hperform : ∀ index (target : UInt32), index * size + size ≤ content.size →
      target.toNat = address.toNat + index * size →
      Attempt.Ends (J index) (perform .programPage target) (.ok ()) (I (index + 1)))
    (pages index : Nat) (hpages : (index + pages) * size ≤ content.size) :
    Attempt.Ends (I index) (programPages address content size pages index) (.ok ())
      (I (index + pages)) := by
  induction pages generalizing index with
  | zero => exact .pure _
  | succ pages ih =>
      have hroom : index * size + size ≤ content.size := by
        rw [← Nat.succ_mul]
        exact Nat.le_trans (Nat.mul_le_mul_right _ (by omega)) hpages
      have hoffset : (Word.low32 (index * size)).toNat = index * size :=
        Word.toNat_ofNat_of_lt (by omega)
      have hrest : Attempt.Ends (I (index + 1)) _ _ _ :=
        ih (index + 1) (by rwa [Nat.add_assoc, Nat.add_comm 1])
      rw [Nat.add_assoc, Nat.add_comm 1] at hrest
      unfold programPages
      refine .bind (.lift (hload index hroom)) ?_
      rw [hoffset, Word.fit32_of_lt (by omega)]
      refine .bind (.checked _) (.bind (hperform index _ hroom ?_) hrest)
      exact Word.toNat_ofNat_of_lt (by omega)

/-! ## The device -/

theorem ctrlNow_bind {β : Type} {P R : Rig → Prop} {f : Controller → Act Rig β} {b : β}
    (h : ∀ rig, P rig → Act.Ends P (f rig.ctrl) b R) : Act.Ends P (do f (← ctrlNow)) b R := by
  intro world hworld
  rw [Act.runOn_bind]
  exact h world.state hworld world hworld

theorem ctrlNow_lift_bind {ε β : Type} {P R : Rig → Prop} {f : Controller → Attempt ε Rig β}
    {outcome : Except ε β} (h : ∀ rig, P rig → Attempt.Ends P (f rig.ctrl) outcome R) :
    Attempt.Ends P (do f (← ctrlNow)) outcome R :=
  ctrlNow_bind h

/-- On every controller of the layout, whatever it is at, the driver answers `g`. -/
def Answers (layout : FlashLayout) (g : Geometry) : Prop :=
  ∀ P : Rig → Prop, (∀ rig, P rig → rig.ctrl.On layout) → device.Reports P g

/-- **The answers are those of the layout.** -/
theorem device_answers (hlayout : layout.validate = .ok (.ok ())) :
    ∃ g, layout.Charts g ∧ Answers layout g := by
  obtain ⟨map, hmap, _⟩ := Word.bind_eq_ok_iff.mp hlayout
  have hcharts := FlashLayout.charts_geometry hlayout hmap
  have hsize := (FlashLayout.valid_of_validate hlayout hmap).size_eq
  refine ⟨layout.geometry map, hcharts, fun P hon => ?_⟩
  have hsame : ∀ rig, P rig → rig.ctrl.sectorMap = map :=
    fun rig hrig => Except.ok.inj ((hon rig hrig).sectorMap.symm.trans hmap)
  constructor
  case pageSize =>
    refine ctrlNow_bind fun rig hrig => ?_
    rw [(hon rig hrig).layout_eq]
    exact .pure _
  case startAddress =>
    refine ctrlNow_bind fun rig hrig => ?_
    rw [(hon rig hrig).layout_eq, hcharts.start]
    exact .pure _
  case size =>
    refine ctrlNow_bind fun rig hrig => ?_
    rw [hsame rig hrig, hsize]
    exact .checked _
  case sectorSize =>
    intro address
    refine ctrlNow_bind fun rig hrig => ?_
    rw [hsame rig hrig]
    exact .pure _

theorem device_eraseValue {P : Rig → Prop} (hon : ∀ rig, P rig → rig.ctrl.On layout) :
    Act.Ends P device.eraseValue layout.eraseValue P := by
  refine ctrlNow_bind fun rig hrig => ?_
  rw [(hon rig hrig).layout_eq]
  exact .pure _

/-- Rigs by what their medium holds. A page can be loaded into the buffer, and a page that is there
can be programmed, which changes nothing on a part that drops its programs. -/
structure Programs (layout : FlashLayout) (drops : Bool) (S : (Nat → UInt8) → Rig → Prop) :
    Prop where
  layout_eq : ∀ bytes rig, S bytes rig → rig.ctrl.layout = layout
  load : ∀ bytes (page : ByteArray), page.size = layout.pageSize.toNat →
    Act.Ends (S bytes) (changeCtrl (·.writePageBuffer page)) ()
      (fun rig => S bytes rig ∧ rig.ctrl.pageBuffer = page)
  program : ∀ bytes data (address : UInt32), layout.pageSize.toNat ∣ address.toNat →
    layout.start.toNat ≤ address.toNat → address.toNat + layout.pageSize.toNat ≤ layout.stop →
    Attempt.Ends
      (fun rig => S bytes rig ∧
        rig.ctrl.pageBuffer = Memory.dump data address.toNat layout.pageSize.toNat)
      (perform .programPage address) (.ok ())
      (S (if drops then bytes
        else Memory.patch bytes address.toNat layout.pageSize.toNat
          (Memory.programmedOver layout.eraseValue bytes data)))

/-- **A program goes from page to page.** -/
theorem Programs.device_ends {drops : Bool} {S : (Nat → UInt8) → Rig → Prop}
    (h : Programs layout drops S) (content : ByteArray) (hstop : layout.stop ≤ Word.span32)
    (hpage : 0 < layout.pageSize.toNat) (haligned : layout.pageSize.toNat ∣ address.toNat)
    (hpages : layout.pageSize.toNat ∣ content.size)
    (hfirst : layout.start.toNat ≤ address.toNat)
    (hlast : address.toNat + content.size ≤ layout.stop) :
    Attempt.Ends (S bytes) (device.programPage address content) (.ok ())
      (S (if drops then bytes
        else Memory.patch bytes address.toNat content.size
          (Memory.programmedOver layout.eraseValue bytes
            (Memory.loaded content address.toNat)))) := by
  have hcount := pageCount_mul hpage hpages
  have hspan : address.toNat + content.size ≤ Word.span32 := Nat.le_trans hlast hstop
  refine ctrlNow_lift_bind fun rig hrig => ?_
  rw [h.layout_eq bytes rig hrig]
  let data := Memory.loaded content address.toNat
  let programmed := Memory.programmedOver layout.eraseValue bytes data
  -- before each page the pages in front of it make one stretch
  let written := fun index =>
    if drops then bytes
    else Memory.patch bytes address.toNat (index * layout.pageSize.toNat) programmed
  have hends := programPages_run (I := fun index => S (written index)) hpage hspan
    (fun index hroom => h.load _ _ (by rw [ByteArray.size_extract]; omega))
    (fun index target hroom htarget => ?_) (pageCount content.size layout.pageSize.toNat) 0 ?_
  · rw [Nat.zero_add] at hends
    simpa only [written, hcount, Nat.zero_mul, Memory.patch_zero, ite_self] using hends
  · have hloaded : content.extract (index * layout.pageSize.toNat)
        (index * layout.pageSize.toNat + layout.pageSize.toNat) =
          Memory.dump data target.toNat layout.pageSize.toNat := by
      rw [htarget, ← Memory.extract_dump hroom, Memory.dump_loaded]
    have hends := h.program (written index) data target
      (htarget ▸ Nat.dvd_add haligned (Nat.dvd_mul_left _ _)) (by omega) (by omega)
    rw [hloaded]
    cases drops with
    | true => exact hends
    | false =>
        -- the pages in front of it and this one make one stretch again
        have hnext : written (index + 1) = _ :=
          congrArg (Memory.patch bytes address.toNat · programmed) (Nat.succ_mul _ _)
        rw [hnext, ← Memory.patch_patch, ← htarget]
        exact hends
  · rw [Nat.zero_add]
    exact Nat.le_of_eq hcount

theorem programs_serves : Programs layout false (Serves layout) where
  layout_eq := fun _ _ hrig => hrig.on.layout_eq
  load := fun _ _ hsize => .change _ fun _ hrig => Controller.Serves.writePageBuffer hrig hsize
  program := fun _ _ _ haligned hfirst hlast => perform_serves fun _ hrig =>
    ⟨hrig.1, Controller.Holds.program hrig.1.holds haligned hfirst hlast hrig.1.works.dropWrites
      hrig.2⟩

theorem device_programPage (content : ByteArray) (hstop : layout.stop ≤ Word.span32)
    (hpage : 0 < layout.pageSize.toNat) (haligned : layout.pageSize.toNat ∣ address.toNat)
    (hpages : layout.pageSize.toNat ∣ content.size)
    (hfirst : layout.start.toNat ≤ address.toNat)
    (hlast : address.toNat + content.size ≤ layout.stop) :
    Attempt.Ends (Serves layout bytes) (device.programPage address content) (.ok ())
      (Serves layout (Memory.patch bytes address.toNat content.size
        (Memory.programmedOver layout.eraseValue bytes
          (Memory.loaded content address.toNat)))) :=
  programs_serves.device_ends content hstop hpage haligned hpages hfirst hlast

/-- A first page that is refused ends the whole. -/
theorem device_programPage_refused {content : ByteArray} {error : FlashError} {Q : Rig → Prop}
    (hpage : 0 < ctrl.layout.pageSize.toNat) (hsome : content.size ≠ 0)
    (hfirst : Attempt.Ends
      (Has (ctrl.writePageBuffer (content.extract 0 ctrl.layout.pageSize.toNat)) timeout)
      (perform .programPage address) (.error error) Q) :
    Attempt.Ends (Has ctrl timeout) (device.programPage address content) (.error error) Q :=
  (PolledRig.programPage_counts address content).ends <|
    PolledRig.programPage_first hpage hsome (.inl ⟨error, rfl⟩) <|
      ((PolledRig.perform_counts .programPage address).counted hfirst).pre fun _ h => h.1

/-- A read answers what the medium holds, and changes nothing. -/
theorem device_read_holds {P : Rig → Prop} (hholds : ∀ rig, P rig → rig.ctrl.Holds layout bytes)
    {len : Nat} (hfirst : layout.start.toNat ≤ address.toNat)
    (hlast : address.toNat + len ≤ layout.stop) :
    Attempt.Ends P (device.read address len) (.ok (Memory.dump bytes address.toNat len)) P := by
  refine ctrlNow_lift_bind fun rig hrig => ?_
  rw [(hholds rig hrig).directRead hfirst hlast]
  exact .pure _

theorem device_read {len : Nat} (hfirst : layout.start.toNat ≤ address.toNat)
    (hlast : address.toNat + len ≤ layout.stop) :
    Attempt.Ends (Serves layout bytes) (device.read address len)
      (.ok (Memory.dump bytes address.toNat len)) (Serves layout bytes) :=
  device_read_holds (fun _ hrig => Controller.Serves.holds hrig) hfirst hlast

/-- What is reported and read is what the layout and the medium say. -/
theorem device_shows {P : Rig → Prop} {g : Geometry} (hreports : device.Reports P g)
    (hholds : ∀ rig, P rig → rig.ctrl.Holds layout bytes) : device.Shows P layout g bytes where
  reports := hreports
  eraseValue := device_eraseValue fun rig hrig => (hholds rig hrig).on
  read := fun _ _ hfirst hlast => device_read_holds hholds hfirst hlast

end Rig

end FlashBench
