import FlashBench.Proofs.Part.Access
import FlashBench.Proofs.Part.Confined
import FlashBench.Proofs.Part.FlashArray

/-!
# Operations in flight

An accepted start puts one operation in flight. The ticks that the controller takes while it is not
stalled are counted, and nothing else moves the operation on:

* **No completion comes early** (`InFlight.waits`): before the last tick that is due no access
  completes anything, whatever software writes.
* **No completion is missing** (`InFlight.completes`): the last tick that is due completes the
  operation that was started.
* **No completion is lost or made up** (`starts_balance`): after any accesses there were as many
  completions as accepted starts, but for the one in flight.

`Controller.run_sound` puts them together for a new controller.
-/

namespace FlashBench

namespace ControllerAccess

/-- The access is a tick of a controller that is not stalled. -/
def ticks (ctrl : Controller) : ControllerAccess → Nat
  | .poll => if ctrl.stalled then 0 else 1
  | _ => 0

/-- The access is a start that the controller accepts. -/
def starts (ctrl : Controller) : ControllerAccess → Nat
  | .writeControl value => if ctrl.isEnabled ∧ Register.start.read value ≠ 0 then 1 else 0
  | _ => 0

end ControllerAccess

namespace Controller

variable {ctrl : Controller} {layout : FlashLayout} {access : ControllerAccess}

/-- What completes in the course of accesses, in order. -/
def completions (ctrl : Controller) : List ControllerAccess → List Completion
  | [] => []
  | access :: rest => (ctrl.access access).1.toList ++ (ctrl.access access).2.completions rest

/-- Ticks in the course of accesses, without those that found the controller stalled. -/
def ticks (ctrl : Controller) : List ControllerAccess → Nat
  | [] => 0
  | access :: rest => access.ticks ctrl + (ctrl.access access).2.ticks rest

/-- Accepted starts in the course of accesses. -/
def starts (ctrl : Controller) : List ControllerAccess → Nat
  | [] => 0
  | access :: rest => access.starts ctrl + (ctrl.access access).2.starts rest

/-- The number of operations in flight, at most one. -/
def inFlight (ctrl : Controller) : Nat := ctrl.busy.toList.length

/-- The operation that a control value names is in flight, with `due` more ticks to go. -/
structure InFlight (value : UInt32) (due : Nat) (ctrl : Controller) : Prop where
  disabled : ctrl.isEnabled = false
  control : ctrl.control = value
  busy : ∃ count, ctrl.busy = some count ∧ max 1 count.toNat = due

theorem completions_ne_nil {completion : Completion} {next : Controller}
    (hpoll : ctrl.poll = (some completion, next)) (rest : List ControllerAccess) :
    ctrl.completions (.poll :: rest) ≠ [] := by
  have hsome : (ctrl.access .poll).1 = some completion := congrArg Prod.fst hpoll
  rw [completions, hsome]
  exact List.cons_ne_nil _ _

/-! ## One access -/

theorem launched_inFlight (ctrl : Controller) (value : UInt32) :
    (ctrl.launched value).InFlight value
      (max 1 (ctrl.ticksOf (FlashOperation.ofCode? (Register.operation.read value))).toNat) :=
  ⟨ctrl.launched_disabled value, rfl, _, rfl, rfl⟩

theorem InFlight.pos {value : UInt32} {due : Nat} (h : ctrl.InFlight value due) : 0 < due := by
  obtain ⟨count, _, hdue⟩ := h.busy
  omega

/-- **Short of the last tick** an access completes nothing, and takes off what it ticks. -/
theorem InFlight.step {value : UInt32} {due : Nat} (h : ctrl.InFlight value due)
    (access : ControllerAccess) (hshort : access.ticks ctrl < due) :
    (ctrl.access access).1 = none ∧
      (ctrl.access access).2.InFlight value (due - access.ticks ctrl) := by
  cases access with
  | writeControl other =>
      have hignored : ctrl.writeControl other = ctrl := by
        rcases ctrl.writeControl_cases other with ⟨_, hwrite⟩ | ⟨henabled, _⟩ | ⟨henabled, _⟩
        · exact hwrite
        · rw [h.disabled] at henabled
          cases henabled
        · rw [h.disabled] at henabled
          cases henabled
      show none = none ∧ (ctrl.writeControl other).InFlight value due
      rw [hignored]
      exact ⟨rfl, h⟩
  | poll =>
      obtain ⟨count, hbusy, hdue⟩ := h.busy
      show ctrl.poll.1 = none ∧ ctrl.poll.2.InFlight value _
      rcases ctrl.poll_cases with
        ⟨hidle | hstalled, hpoll⟩ | ⟨other, hother, hruns, hcases⟩
      · rw [hidle] at hbusy
        cases hbusy
      · rw [hpoll, ControllerAccess.ticks, if_pos hstalled]
        exact ⟨rfl, h⟩
      · obtain rfl : other = count := Option.some.inj (hother.symm.trans hbusy)
        have hone : ControllerAccess.poll.ticks ctrl = 1 := by
          rw [ControllerAccess.ticks, hruns]
          rfl
        rcases hcases with ⟨hcount, hpoll⟩ | ⟨hcount, hpoll⟩
        · have hlt := UInt32.lt_iff_toNat_lt.mp hcount
          have hnext := UInt32.toNat_sub_of_le other 1 (UInt32.le_of_lt hcount)
          rw [hpoll, hone]
          refine ⟨rfl, h.disabled, h.control, _, rfl, ?_⟩
          simp only [UInt32.reduceToNat] at hlt hnext
          omega
        · -- the last tick is not short of it
          have hle := UInt32.le_iff_toNat_le.mp (UInt32.not_lt.mp hcount)
          simp only [UInt32.reduceToNat] at hle
          omega
  | writePageBuffer data =>
      obtain ⟨page, _, hwrite⟩ := ctrl.writePageBuffer_cases data
      show none = none ∧ (ctrl.writePageBuffer data).InFlight value due
      rw [hwrite]
      exact ⟨rfl, h.disabled, h.control, h.busy⟩
  | writeStatus status => exact ⟨rfl, h.disabled, h.control, h.busy⟩
  | writeAddress address => exact ⟨rfl, h.disabled, h.control, h.busy⟩
  | directRead address len => exact ⟨rfl, h⟩
  | setStalled on => exact ⟨rfl, h.disabled, h.control, h.busy⟩
  | setDropWrites on => exact ⟨rfl, h.disabled, h.control, h.busy⟩
  | setFailInit on => exact ⟨rfl, h.disabled, h.control, h.busy⟩
  | setEraseClock hz => exact ⟨rfl, h.disabled, h.control, h.busy⟩

/-- **The last tick** carries out the operation that was started. -/
theorem InFlight.last {value : UInt32} (h : ctrl.InFlight value 1) (hruns : ctrl.stalled = false) :
    ctrl.operation? = FlashOperation.ofCode? (Register.operation.read value) ∧
      ctrl.poll = (some ctrl.complete.1, ctrl.complete.2) := by
  obtain ⟨count, hbusy, hdue⟩ := h.busy
  refine ⟨by rw [operation?, h.control], ?_⟩
  refine poll_completes hbusy hruns (fun hcount => ?_) rfl
  have hlt := UInt32.lt_iff_toNat_lt.mp hcount
  simp only [UInt32.reduceToNat] at hlt
  omega

/-- A completion ends the one operation in flight, and an accepted start puts one there. -/
theorem Sound.balance_access (h : ctrl.Sound layout) (access : ControllerAccess) :
    access.starts ctrl + ctrl.inFlight =
      (ctrl.access access).1.toList.length + (ctrl.access access).2.inFlight := by
  cases access with
  | writeControl value =>
      show (if _ then 1 else 0) + _ = 0 + (ctrl.writeControl value).inFlight
      rcases ctrl.writeControl_cases value with
        ⟨hdisabled, hwrite⟩ | ⟨henabled, hstart, hwrite⟩ | ⟨henabled, hstart, hwrite⟩
      · simp [hdisabled, hwrite]
      · simp [hstart, hwrite, inFlight]
      · simp [henabled, hstart, hwrite, inFlight, launched, h.enabled.mp henabled]
  | poll =>
      show 0 + ctrl.inFlight = ctrl.poll.1.toList.length + ctrl.poll.2.inFlight
      rcases ctrl.poll_cases with ⟨_, hpoll⟩ | ⟨count, hbusy, _, ⟨_, hpoll⟩ | ⟨_, hpoll⟩⟩
      · simp [hpoll]
      · simp [hpoll, inFlight, hbusy]
      · obtain ⟨completion, left, hcomplete, _⟩ := complete_cases h.on
        simp [hpoll, hcomplete, inFlight, hbusy, released]
  | writePageBuffer data =>
      obtain ⟨page, _, hwrite⟩ := ctrl.writePageBuffer_cases data
      show 0 + ctrl.inFlight = 0 + (ctrl.writePageBuffer data).inFlight
      rw [hwrite]
      rfl
  | writeStatus value => rfl
  | writeAddress value => rfl
  | directRead address len => rfl
  | setStalled on => rfl
  | setDropWrites on => rfl
  | setFailInit on => rfl
  | setEraseClock hz => rfl

/-! ## Any number of accesses -/

/-- **No completion comes early.** The induction is on the accesses; what is still due is the count
that carries it. -/
theorem InFlight.waits {value : UInt32} {due : Nat} {accesses : List ControllerAccess}
    (h : ctrl.InFlight value due) (hshort : ctrl.ticks accesses < due) :
    ctrl.completions accesses = [] ∧
      (ctrl.after accesses).InFlight value (due - ctrl.ticks accesses) := by
  induction accesses generalizing ctrl due with
  | nil => exact ⟨rfl, h⟩
  | cons access rest ih =>
      rw [Controller.ticks] at hshort
      obtain ⟨hnone, hnext⟩ := h.step access (by omega)
      obtain ⟨hrest, hlater⟩ := ih hnext (by omega)
      rw [Nat.sub_sub] at hlater
      exact ⟨by rw [completions, hnone, hrest]; rfl, hlater⟩

/-- **No completion is missing.** Accesses with all the ticks that are due complete something. -/
theorem InFlight.completes {value : UInt32} {due : Nat} {accesses : List ControllerAccess}
    (h : ctrl.InFlight value due) (hdue : due ≤ ctrl.ticks accesses) :
    ctrl.completions accesses ≠ [] := by
  induction accesses generalizing ctrl due with
  | nil => exact absurd (Nat.lt_of_lt_of_le h.pos hdue) (Nat.lt_irrefl 0)
  | cons access rest ih =>
      rw [Controller.ticks] at hdue
      by_cases hshort : access.ticks ctrl < due
      · obtain ⟨hnone, hnext⟩ := h.step access hshort
        rw [completions, hnone]
        exact ih hnext (by omega)
      · -- the access is the last tick that is due
        have hpos := h.pos
        cases access with
        | poll =>
            rw [ControllerAccess.ticks] at hshort
            by_cases hstalled : ctrl.stalled = true
            · rw [if_pos hstalled] at hshort
              omega
            · rw [if_neg hstalled] at hshort
              obtain rfl : due = 1 := by omega
              exact completions_ne_nil (h.last (Bool.eq_false_iff.mpr hstalled)).2 rest
        | _ => exact absurd hpos hshort

/-- Starts and completions balance. -/
theorem starts_balance (h : ctrl.Sound layout) (accesses : List ControllerAccess) :
    ctrl.starts accesses + ctrl.inFlight =
      (ctrl.completions accesses).length + (ctrl.after accesses).inFlight := by
  induction accesses generalizing ctrl with
  | nil => simp [starts, completions, after]
  | cons access rest ih =>
      have hstep := h.balance_access access
      have hrest := ih (sound_stable layout ctrl h access)
      rw [starts, completions, after, List.length_append]
      omega

/-! ## Where the medium changes -/

/-- The address lies in the page or in the sector that the operation in the control register is for.
-/
def OperatesOn (layout : FlashLayout) (ctrl : Controller) (a : Nat) : Prop :=
  (ctrl.operation? = some .programPage ∧ layout.pageSize.toNat ∣ ctrl.address.toNat ∧
      ctrl.address.toNat ≤ a ∧ a < ctrl.address.toNat + layout.pageSize.toNat) ∨
    (ctrl.operation? = some .eraseSector ∧
      ∃ sector ∈ layout.sectorList, sector.start = ctrl.address ∧ sector.Covers a)

/-- **What an operation stores** lies in its page or in its sector. -/
theorem Stores.changes {left : Controller} {a : Nat} (hstores : ctrl.Stores left)
    (hlayout : layout.validate = .ok (.ok ())) (hon : ctrl.On layout)
    (hfirst : layout.start.toNat ≤ a) (hlast : a < layout.stop)
    (hchanged : left.byteAt a ≠ ctrl.byteAt a) : ctrl.OperatesOn layout a := by
  obtain ⟨now, hnow, hframe⟩ := hon.holds_byteAt.stores hstores
  have hreach : ctrl.Reaches a := Classical.byContradiction fun hnot =>
    hchanged ((hnow.byteAt hfirst hlast).trans (hframe a hnot))
  obtain ⟨operation, hoperation, hfrom, hto⟩ := hreach
  cases hstores with
  | nothing => exact absurd rfl hchanged
  | bytes stored offset content named spanned aligned inside =>
      obtain rfl : stored = operation := Option.some.inj (named.symm.trans hoperation)
      cases stored with
      | programPage =>
          rw [span, hon.layout_eq] at aligned hto
          exact .inl ⟨hoperation, aligned, hfrom, hto⟩
      | eraseSector =>
          have hcharts := FlashLayout.charts_geometry hlayout hon.sectorMap
          have hinside := hon.offsetOf_eq_some inside
          have hroom : ctrl.address.toNat < layout.stop := by omega
          obtain ⟨sector, hmem, hcovers⟩ := hcharts.tiled.exists_covers hinside.1 hroom
          have hsize : ctrl.sectorMap.sectorSize ctrl.address = sector.size :=
            hcharts.covered sector hmem _ hcovers
          rw [span, hsize] at aligned hto
          -- the sector starts at a multiple of its size, so it starts at the address register
          have hstart := hcovers.eq_start (hcharts.admits sector hmem).aligned aligned
          refine .inr ⟨hoperation, sector, hmem, UInt32.toNat_inj.mp hstart.symm, ?_⟩
          rw [hstart] at hfrom hto
          exact ⟨hfrom, hto⟩

/-- **The medium changes on a completing tick only,** in the page or in the sector of the
operation. -/
theorem Sound.changes {a : Nat} (h : ctrl.Sound layout) (hlayout : layout.validate = .ok (.ok ()))
    (access : ControllerAccess) (hfirst : layout.start.toNat ≤ a) (hlast : a < layout.stop)
    (hchanged : (ctrl.access access).2.byteAt a ≠ ctrl.byteAt a) :
    access = .poll ∧ ctrl.poll.1 ≠ none ∧ ctrl.OperatesOn layout a := by
  rcases access_cases h.on access with ⟨_, halike⟩ | ⟨rfl, completion, left, hpoll, hstores⟩
  · exact absurd (by rw [byteAt, byteAt, halike.medium, halike.layout]) hchanged
  · have hafter : (ctrl.access .poll).2 = left.released completion := congrArg Prod.snd hpoll
    rw [hafter] at hchanged
    refine ⟨rfl, ?_, hstores.changes hlayout h.on hfirst hlast hchanged⟩
    rw [hpoll]
    exact Option.some_ne_none _

/-! ## The life of an operation -/

/-- The status register `after` is `before` with a report added: the done bit, or the code of an
error, which is not zero. -/
def Reported (before after : UInt32) : Prop :=
  (after = Register.done.write before 1 ∧ Register.done.read after = 1) ∨
    ∃ error : OperationError, after = Register.error.write before error.code ∧
      Register.error.read after = error.code ∧ error.code ≠ 0

/-- The operation in flight completes once, with the tick that is due and not before, and it is
carried out then and reported. -/
structure CompletesOnce (operation : Option FlashOperation) (due : Nat) (ctrl : Controller) :
    Prop where
  timely : ∀ accesses, ctrl.completions accesses = [] ↔ ctrl.ticks accesses < due
  once : ∀ accesses, ctrl.starts accesses = 0 → (ctrl.completions accesses).length ≤ 1
  carried : ∀ accesses, ctrl.ticks accesses + 1 = due → (ctrl.after accesses).stalled = false →
    ∃ completion left, (ctrl.after accesses).execute operation = (completion, left) ∧
      (ctrl.after accesses).poll = (some completion, left.released completion) ∧
      completion.Of (ctrl.after accesses).address operation ∧
      Reported (ctrl.after accesses).status (left.released completion).status

theorem InFlight.completesOnce {value : UInt32} {due : Nat} (h : ctrl.InFlight value due)
    (hsound : ctrl.Sound layout) :
    ctrl.CompletesOnce (FlashOperation.ofCode? (Register.operation.read value)) due where
  timely := fun accesses =>
    ⟨fun hnone => Nat.lt_of_not_le fun hdue => h.completes hdue hnone,
      fun hshort => (h.waits hshort).1⟩
  once := fun accesses hstarts => by
    have hbalance := starts_balance hsound accesses
    obtain ⟨count, hbusy, _⟩ := h.busy
    have hone : ctrl.inFlight = 1 := by rw [inFlight, hbusy]; rfl
    omega
  carried := fun accesses hticks hruns => by
    obtain ⟨_, hwaiting⟩ := h.waits (by omega : ctrl.ticks accesses < due)
    have hlast : (ctrl.after accesses).InFlight value 1 := by
      have hone : due - ctrl.ticks accesses = 1 := by omega
      rwa [hone] at hwaiting
    obtain ⟨hoperation, hpoll⟩ := hlast.last hruns
    have hon := ((sound_stable layout).after hsound accesses).on
    obtain ⟨completion, left, hexecute, hstores, hof⟩ := execute_cases hon
    have hcomplete := (ctrl.after accesses).complete_eq
    rw [hexecute] at hcomplete
    rw [hoperation] at hexecute hof
    refine ⟨completion, left, hexecute, by rw [hpoll, hcomplete], hof, ?_⟩
    -- what is stored leaves the status register to the report
    have hstatus : (ctrl.after accesses).status = left.status := by
      cases hstores with
      | nothing => rfl
      | bytes => rfl
    rw [hstatus]
    rcases statusAfter_reports left.status completion with ⟨_, hdone⟩ | ⟨error, _, herror⟩
    · exact .inl hdone
    · exact .inr ⟨error, herror⟩

/-- **A controller keeps its registers, its operations and its medium in order.** Let any accesses
be made to a new controller. Then the enable bit is clear, and the start bit set, exactly when an
operation is in flight; a write to the control register changes nothing then; medium and page buffer
have the sizes they began with. There were as many completions as accepted starts but for the one
that is in flight, an operation that is started next completes once and with the tick that is due,
and the medium changes with a completing tick only, in the page or the sector at the address
register. -/
theorem run_sound {timing : FlashTiming} {backing : Option String} {world next : World FileTree}
    {part : OpenedPart}
    (hnew : (bringUp layout timing backing).run.runOn world = (.ok (.ok part), next))
    (accesses : List ControllerAccess) :
    let ctrl := part.ctrl.after accesses
    (ctrl.isEnabled = false ↔ ctrl.busy ≠ none) ∧
      (Register.start.read ctrl.control ≠ 0 ↔ ctrl.busy ≠ none) ∧
      (ctrl.busy ≠ none → ∀ value, ctrl.writeControl value = ctrl) ∧
      layout.capacity = .ok ctrl.medium.size ∧ ctrl.pageBuffer.size = layout.pageSize.toNat ∧
      part.ctrl.starts accesses = (part.ctrl.completions accesses).length + ctrl.inFlight ∧
      (∀ value, ctrl.isEnabled = true → Register.start.read value ≠ 0 →
        let operation := FlashOperation.ofCode? (Register.operation.read value)
        (ctrl.writeControl value).CompletesOnce operation
          (max 1 (part.ctrl.ticksOf operation).toNat)) ∧
      part.ctrl.timing = timing ∧
      ∀ access a, layout.start.toNat ≤ a → a < layout.stop →
        (ctrl.access access).2.byteAt a ≠ ctrl.byteAt a →
        access = .poll ∧ ctrl.poll.1 ≠ none ∧ ctrl.OperatesOn layout a := by
  intro ctrl
  obtain ⟨hlayout, map, capacity, image, _, _, hcreated⟩ := bringUp_eq_ok hnew
  obtain ⟨hfirst, hidle⟩ := bringUp_sound hnew
  have hsound : ctrl.Sound layout := (sound_stable layout).after hfirst accesses
  have htiming : ctrl.timing = part.ctrl.timing := hfirst.timing_after accesses
  refine ⟨?_, ?_, ?_, ?_, hsound.on.pageBuffer, ?_, ?_, ?_, ?_⟩
  · rw [← Bool.not_eq_true, hsound.enabled]
  · exact not_congr hsound.started
  · intro hbusy value
    rw [writeControl, hsound.disabled hbusy]
    rfl
  · rw [hsound.on.medium]
    exact hsound.on.capacity
  · have hbalance := starts_balance hfirst accesses
    rwa [inFlight, hidle.busy] at hbalance
  · intro value henabled hstart operation
    have hwrite : ctrl.writeControl value = ctrl.launched value := by
      rcases ctrl.writeControl_cases value with ⟨hdisabled, _⟩ | ⟨_, hzero, _⟩ | ⟨_, _, hwrite⟩
      · rw [henabled] at hdisabled
        cases hdisabled
      · exact absurd hzero hstart
      · exact hwrite
    have hlaunched := hsound.writeControl value
    have hticks : part.ctrl.ticksOf operation = ctrl.ticksOf operation := by
      rcases operation with _ | _ | _
      · rfl
      · exact congrArg FlashTiming.programTicks htiming.symm
      · exact congrArg FlashTiming.eraseTicks htiming.symm
    rw [hwrite] at hlaunched ⊢
    rw [hticks]
    exact (ctrl.launched_inFlight value).completesOnce hlaunched
  · rw [hcreated]
    rfl
  · exact fun access a hfrom hto hchanged => hsound.changes hlayout access hfrom hto hchanged

/-- An erase that a new part is told to do keeps it busy for 64 ticks. -/
theorem run_sound_smallLayout :
    ∃ part next, (bringUp smallLayout {} none).run.runOn { state := {} } = (.ok (.ok part), next) ∧
      part.ctrl.isEnabled = true ∧ Register.start.read 7 ≠ 0 ∧
      (part.ctrl.writeControl 7).CompletesOnce (some .eraseSector) 64 := by
  have hnew : (bringUp smallLayout {} none).run.runOn { state := {} } =
      (.ok (.ok ⟨.create smallLayout ⟨#[⟨0x1000, 8, 2⟩, ⟨0x1010, 16, 1⟩]⟩ 32 {} none, none⟩),
        { state := {} }) := rfl
  have henabled := (create_idle smallLayout ⟨#[⟨0x1000, 8, 2⟩, ⟨0x1010, 16, 1⟩]⟩ 32 {} none).enabled
  have hstart : Register.start.read 7 ≠ 0 := by decide
  obtain ⟨_, _, _, _, _, _, hstarted, _⟩ := run_sound hnew []
  exact ⟨_, _, hnew, henabled, hstart, hstarted 7 henabled hstart⟩

end Controller

end FlashBench
