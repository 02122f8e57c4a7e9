import FlashBench.Proofs.Part.Completion
import FlashBench.Proofs.Part.Creation

/-!
# What can be done to a controller

Software writes the registers and the page buffer and reads the medium, the clock of the emulator
ticks, and faults are switched on and off. `Controller.access` takes all of that together, so that a
run of a controller is a list of accesses (`Controller.after`), and a property that no access breaks
(`Controller.Stable`) holds after every run.

`Controller.Sound` is such a property: the controller belongs to its layout, and the enable bit, the
start bit and the count of ticks agree on whether an operation is in flight.
-/

namespace FlashBench

/-- One access to a controller. -/
inductive ControllerAccess where
  | writeControl (value : UInt32)
  | writeStatus (value : UInt32)
  | writeAddress (value : UInt32)
  | writePageBuffer (data : ByteArray)
  | poll
  | directRead (address : UInt32) (len : Nat)
  | setStalled (on : Bool)
  | setDropWrites (on : Bool)
  | setFailInit (on : Bool)
  | setEraseClock (hz : UInt32)

namespace Controller

variable {ctrl : Controller} {layout : FlashLayout} {Q : Controller → Prop}

/-- What completes with an access, if anything does, and the controller after it. -/
def access (ctrl : Controller) : ControllerAccess → Option Completion × Controller
  | .writeControl value => (none, ctrl.writeControl value)
  | .writeStatus value => (none, { ctrl with status := value })
  | .writeAddress value => (none, { ctrl with address := value })
  | .writePageBuffer data => (none, ctrl.writePageBuffer data)
  | .poll => ctrl.poll
  | .directRead _ _ => (none, ctrl)
  | .setStalled on => (none, { ctrl with stalled := on })
  | .setDropWrites on => (none, { ctrl with dropWrites := on })
  | .setFailInit on => (none, { ctrl with failInit := on })
  | .setEraseClock hz => (none, { ctrl with eraseClockHz := some hz })

/-- The controller after accesses one after the other. -/
def after (ctrl : Controller) : List ControllerAccess → Controller
  | [] => ctrl
  | access :: rest => (ctrl.access access).2.after rest

theorem after_append (ctrl : Controller) (front back : List ControllerAccess) :
    ctrl.after (front ++ back) = (ctrl.after front).after back := by
  induction front generalizing ctrl with
  | nil => rfl
  | cons access rest ih => exact ih _

/-- No access breaks `Q`. -/
def Stable (Q : Controller → Prop) : Prop :=
  ∀ ctrl, Q ctrl → ∀ access, Q (ctrl.access access).2

/-- **What no access breaks** holds after any number of them. -/
theorem Stable.after (hQ : Stable Q) (h : Q ctrl) (accesses : List ControllerAccess) :
    Q (ctrl.after accesses) := by
  induction accesses generalizing ctrl with
  | nil => exact h
  | cons access rest ih => exact ih (hQ ctrl h access)

/-! ## Writing the control register -/

/-- The controller with the operation of a control value in flight. -/
def launched (ctrl : Controller) (value : UInt32) : Controller :=
  { ctrl with
    control := value
    enable := Register.enable.write ctrl.enable 0
    busy := some (ctrl.ticksOf (FlashOperation.ofCode? (Register.operation.read value))) }

/-- **Every write to the control register** is ignored, is stored, or starts an operation. -/
theorem writeControl_cases (ctrl : Controller) (value : UInt32) :
    (ctrl.isEnabled = false ∧ ctrl.writeControl value = ctrl) ∨
      (ctrl.isEnabled = true ∧ Register.start.read value = 0 ∧
        ctrl.writeControl value = { ctrl with control := value }) ∨
      (ctrl.isEnabled = true ∧ Register.start.read value ≠ 0 ∧
        ctrl.writeControl value = ctrl.launched value) := by
  unfold writeControl
  cases henabled : ctrl.isEnabled with
  | false => exact .inl ⟨rfl, rfl⟩
  | true =>
      by_cases hstart : Register.start.read value = 0
      · exact .inr (.inl ⟨rfl, hstart, by simp [hstart]⟩)
      · exact .inr (.inr ⟨rfl, hstart, by simp [hstart, launched, operation?, ticksOf]⟩)

theorem launched_disabled (ctrl : Controller) (value : UInt32) :
    (ctrl.launched value).isEnabled = false := by
  have hcleared : Register.enable.read (Register.enable.write ctrl.enable 0) = 0 :=
    (Register.Field.read_write (by decide) _ _).trans (by decide)
  exact decide_eq_false (not_not_intro hcleared)

/-! ## Sound controllers -/

/-- The controller belongs to the layout, and its registers agree on whether an operation is in
flight. -/
structure Sound (layout : FlashLayout) (ctrl : Controller) : Prop where
  on : ctrl.On layout
  enabled : ctrl.isEnabled = true ↔ ctrl.busy = none
  started : Register.start.read ctrl.control = 0 ↔ ctrl.busy = none

theorem Idle.sound (h : ctrl.Idle) (hon : ctrl.On layout)
    (hstart : Register.start.read ctrl.control = 0) : ctrl.Sound layout :=
  ⟨hon, iff_of_true h.enabled h.busy, iff_of_true hstart h.busy⟩

theorem Sound.disabled (h : ctrl.Sound layout) (hbusy : ctrl.busy ≠ none) :
    ctrl.isEnabled = false :=
  Bool.eq_false_iff.mpr fun henabled => hbusy (h.enabled.mp henabled)

theorem Sound.writeControl (h : ctrl.Sound layout) (value : UInt32) :
    (ctrl.writeControl value).Sound layout := by
  rcases ctrl.writeControl_cases value with
    ⟨_, hwrite⟩ | ⟨henabled, hstart, hwrite⟩ | ⟨_, hstart, hwrite⟩
  · rwa [hwrite]
  · rw [hwrite]
    exact ⟨h.on.withRegisters, h.enabled, iff_of_true hstart (h.enabled.mp henabled)⟩
  · have hdisabled := ctrl.launched_disabled value
    rw [hwrite]
    exact ⟨h.on.withRegisters, by rw [hdisabled]; exact iff_of_false nofun nofun,
      iff_of_false hstart nofun⟩

theorem Sound.poll (h : ctrl.Sound layout) : ctrl.poll.2.Sound layout := by
  rcases ctrl.poll_cases with ⟨_, hpoll⟩ | ⟨count, hbusy, _, ⟨_, hpoll⟩ | ⟨_, hpoll⟩⟩
  · rwa [hpoll]
  · have hflight : ctrl.busy ≠ none := hbusy ▸ Option.some_ne_none count
    rw [hpoll]
    exact ⟨h.on.withRegisters, iff_of_false (fun henabled => hflight (h.enabled.mp henabled)) nofun,
      iff_of_false (fun hstart => hflight (h.started.mp hstart)) nofun⟩
  · obtain ⟨completion, left, hcomplete, hstores, _⟩ := complete_cases h.on
    have hcleared : Register.start.read (Register.start.write left.control 0) = 0 :=
      (Register.Field.read_write (by decide) _ _).trans (by decide)
    rw [hpoll, hcomplete]
    exact (left.released_idle completion).sound ((hstores.on h.on).released completion) hcleared

/-- A controller that was just made is sound and idle. -/
theorem bringUp_sound {timing : FlashTiming} {backing : Option String}
    {world next : World FileTree} {part : OpenedPart}
    (h : (bringUp layout timing backing).run.runOn world = (.ok (.ok part), next)) :
    part.ctrl.Sound layout ∧ part.ctrl.Idle := by
  obtain ⟨_, map, capacity, image, hmap, hcapacity, hcreated⟩ := bringUp_eq_ok h
  have hidle := create_idle layout map capacity timing
    (image.map (preparedImage capacity layout.eraseValue))
  have hstart : Register.start.read 0 = 0 := by decide
  rw [hcreated]
  exact ⟨hidle.sound (create_on hmap hcapacity timing image) hstart, hidle⟩

/-- **A controller stays on its layout,** whatever is done to it. -/
theorem on_stable (layout : FlashLayout) : Stable (On layout) := by
  intro ctrl h access
  cases access with
  | writeControl value =>
      show (ctrl.writeControl value).On layout
      rcases ctrl.writeControl_cases value with ⟨_, hwrite⟩ | ⟨_, _, hwrite⟩ | ⟨_, _, hwrite⟩ <;>
        rw [hwrite]
      · exact h
      · exact h.withRegisters
      · exact h.withRegisters
  | poll =>
      show ctrl.poll.2.On layout
      rcases ctrl.poll_cases with ⟨_, hpoll⟩ | ⟨count, _, _, ⟨_, hpoll⟩ | ⟨_, hpoll⟩⟩ <;> rw [hpoll]
      · exact h
      · exact h.withRegisters
      · obtain ⟨completion, left, hcomplete, hstores, _⟩ := complete_cases h
        rw [hcomplete]
        exact (hstores.on h).released completion
  | writePageBuffer data =>
      obtain ⟨page, hsize, hwrite⟩ := ctrl.writePageBuffer_cases data
      show (ctrl.writePageBuffer data).On layout
      rw [hwrite]
      exact h.withPageBuffer hsize
  | directRead address len => exact h
  | writeStatus value => exact h.withRegisters
  | writeAddress value => exact h.withRegisters
  | setStalled on => exact h.withRegisters
  | setDropWrites on | setFailInit on | setEraseClock hz =>
      exact ⟨h.layout_eq, h.sectorMap, h.capacity, h.pageBuffer, h.medium⟩

/-- **One access** leaves a sound controller sound. -/
theorem sound_stable (layout : FlashLayout) : Stable (Sound layout) := by
  intro ctrl h access
  have hon := on_stable layout ctrl h.on access
  cases access with
  | writeControl value => exact h.writeControl value
  | poll => exact h.poll
  | writePageBuffer data =>
      obtain ⟨page, _, hwrite⟩ := ctrl.writePageBuffer_cases data
      refine ⟨hon, ?_, ?_⟩
      · show (ctrl.writePageBuffer data).isEnabled = true ↔ (ctrl.writePageBuffer data).busy = none
        rw [hwrite]
        exact h.enabled
      · show Register.start.read (ctrl.writePageBuffer data).control = 0 ↔
          (ctrl.writePageBuffer data).busy = none
        rw [hwrite]
        exact h.started
  | directRead address len => exact h
  | writeStatus value | writeAddress value | setStalled on | setDropWrites on | setFailInit on
  | setEraseClock hz => exact ⟨hon, h.enabled, h.started⟩

/-! ## What an access changes -/

/-- Layout, timing, medium and image are the same. -/
structure Alike (ctrl next : Controller) : Prop where
  layout : next.layout = ctrl.layout
  timing : next.timing = ctrl.timing
  medium : next.medium = ctrl.medium
  image : next.image = ctrl.image

/-- **Every access** leaves layout, timing, medium and image alone, or is the tick that completes an
operation. -/
theorem access_cases (hon : ctrl.On layout) (access : ControllerAccess) :
    ((ctrl.access access).1 = none ∧ ctrl.Alike (ctrl.access access).2) ∨
      (access = .poll ∧ ∃ completion left, ctrl.poll = (some completion, left.released completion) ∧
        ctrl.Stores left) := by
  cases access with
  | writeControl value =>
      have halike : ctrl.Alike (ctrl.writeControl value) := by
        rcases ctrl.writeControl_cases value with ⟨_, hwrite⟩ | ⟨_, _, hwrite⟩ | ⟨_, _, hwrite⟩ <;>
          rw [hwrite] <;> exact ⟨rfl, rfl, rfl, rfl⟩
      exact .inl ⟨rfl, halike⟩
  | poll =>
      show (ctrl.poll.1 = none ∧ ctrl.Alike ctrl.poll.2) ∨ _
      rcases ctrl.poll_cases with ⟨_, hpoll⟩ | ⟨count, _, _, ⟨_, hpoll⟩ | ⟨_, hpoll⟩⟩
      · rw [hpoll]
        exact .inl ⟨rfl, rfl, rfl, rfl, rfl⟩
      · rw [hpoll]
        exact .inl ⟨rfl, rfl, rfl, rfl, rfl⟩
      · obtain ⟨completion, left, hcomplete, hstores, _⟩ := complete_cases hon
        exact .inr ⟨rfl, completion, left, by rw [hpoll, hcomplete], hstores⟩
  | writePageBuffer data =>
      obtain ⟨page, _, hwrite⟩ := ctrl.writePageBuffer_cases data
      have halike : ctrl.Alike (ctrl.writePageBuffer data) := by
        rw [hwrite]
        exact ⟨rfl, rfl, rfl, rfl⟩
      exact .inl ⟨rfl, halike⟩
  | writeStatus value => exact .inl ⟨rfl, rfl, rfl, rfl, rfl⟩
  | writeAddress value => exact .inl ⟨rfl, rfl, rfl, rfl, rfl⟩
  | directRead address len => exact .inl ⟨rfl, rfl, rfl, rfl, rfl⟩
  | setStalled on => exact .inl ⟨rfl, rfl, rfl, rfl, rfl⟩
  | setDropWrites on => exact .inl ⟨rfl, rfl, rfl, rfl, rfl⟩
  | setFailInit on => exact .inl ⟨rfl, rfl, rfl, rfl, rfl⟩
  | setEraseClock hz => exact .inl ⟨rfl, rfl, rfl, rfl, rfl⟩

/-- The timing of a part is fixed when it is made. -/
theorem Sound.timing_access (h : ctrl.Sound layout) (access : ControllerAccess) :
    (ctrl.access access).2.timing = ctrl.timing := by
  rcases access_cases h.on access with ⟨_, halike⟩ | ⟨rfl, completion, left, hpoll, hstores⟩
  · exact halike.timing
  · show ctrl.poll.2.timing = ctrl.timing
    rw [hpoll]
    cases hstores with
    | nothing => rfl
    | bytes => rfl

theorem Sound.timing_after (h : ctrl.Sound layout) (accesses : List ControllerAccess) :
    (ctrl.after accesses).timing = ctrl.timing := by
  induction accesses generalizing ctrl with
  | nil => rfl
  | cons access rest ih =>
      exact (ih (sound_stable layout ctrl h access)).trans (h.timing_access access)

end Controller

end FlashBench
