import FlashBench.Proofs.Part.Flight

/-!
# Calls that come too early

While an operation is in flight the driver refuses another one, and leaves every register as it is
(`Rig.perform_busy`). But it loads the first page of a program before it looks at the enable bit,
and the page buffer is what a program in flight will be carried out with. So a refused erase does no
harm, and neither does a program that is refused while an erase is in flight; a program that is
refused while another one is in flight is harmless exactly if the page in flight comes out the same
with the new contents of the buffer (`Rig.refused_harmless_iff`).

The argument is about two controllers that differ in their page buffer. They wait alike, until the
operation in flight completes in both (`Controller.after_sparing`).
-/

namespace FlashBench

/-- The access lets time go by, and does nothing else: a tick, a stall that begins or ends, or a
read. -/
def ControllerAccess.Waits : ControllerAccess → Prop
  | .poll => True
  | .setStalled _ => True
  | .directRead _ _ => True
  | _ => False

/-- The access writes neither a register nor the page buffer, and does not switch whether programs
are dropped, so it has no say in what an operation in flight does. -/
def ControllerAccess.Spares : ControllerAccess → Prop
  | .poll => True
  | .setStalled _ => True
  | .setFailInit _ => True
  | .setEraseClock _ => True
  | .directRead _ _ => True
  | _ => False

theorem ControllerAccess.Waits.spares {access : ControllerAccess} (h : access.Waits) :
    access.Spares := by
  cases access with
  | poll | setStalled | directRead => trivial
  | _ => exact absurd h id

namespace Controller

variable {ctrl : Controller} {layout : FlashLayout} {page : ByteArray} {access : ControllerAccess}
  {later : List ControllerAccess}

/-- The controller with other contents of its page buffer. -/
def withPage (ctrl : Controller) (page : ByteArray) : Controller := { ctrl with pageBuffer := page }

/-! ## Waiting -/

/-- **While an operation is in flight** an access that spares it leaves all but the count and the
faults alone, whatever the page buffer holds, or it completes the operation. -/
theorem access_sparing (page : ByteArray) (hbusy : ctrl.busy ≠ none) (hspares : access.Spares) :
    (∃ busy stalled failInit eraseClockHz, busy ≠ none ∧
        ctrl.access access = (none, { ctrl with busy, stalled, failInit, eraseClockHz }) ∧
        (ctrl.withPage page).access access =
          (none, ({ ctrl with busy, stalled, failInit, eraseClockHz } : Controller).withPage
            page)) ∨
      (ctrl.access access = (some ctrl.complete.1, ctrl.complete.2) ∧
        (ctrl.withPage page).access access =
          (some (ctrl.withPage page).complete.1, (ctrl.withPage page).complete.2)) := by
  cases access with
  | poll =>
      show (∃ busy stalled failInit eraseClockHz, busy ≠ none ∧ ctrl.poll = (none, _) ∧
          (ctrl.withPage page).poll = _) ∨
        (ctrl.poll = _ ∧ (ctrl.withPage page).poll = _)
      rcases ctrl.poll_cases with
        ⟨hnone | hstalled, hpoll⟩ | ⟨count, hcount, hruns, ⟨hleft, hpoll⟩ | ⟨hleft, hpoll⟩⟩
      · exact absurd hnone hbusy
      · exact .inl ⟨ctrl.busy, ctrl.stalled, ctrl.failInit, ctrl.eraseClockHz, hbusy, hpoll,
          poll_stalled hstalled⟩
      · exact .inl ⟨some (count - 1), ctrl.stalled, ctrl.failInit, ctrl.eraseClockHz, nofun, hpoll,
          poll_counts hcount hruns hleft⟩
      · exact .inr ⟨hpoll, poll_completes hcount hruns hleft rfl⟩
  | setStalled on =>
      exact .inl ⟨ctrl.busy, on, ctrl.failInit, ctrl.eraseClockHz, hbusy, rfl, rfl⟩
  | setFailInit on =>
      exact .inl ⟨ctrl.busy, ctrl.stalled, on, ctrl.eraseClockHz, hbusy, rfl, rfl⟩
  | setEraseClock hz =>
      exact .inl ⟨ctrl.busy, ctrl.stalled, ctrl.failInit, some hz, hbusy, rfl, rfl⟩
  | directRead address len =>
      exact .inl ⟨ctrl.busy, ctrl.stalled, ctrl.failInit, ctrl.eraseClockHz, hbusy, rfl, rfl⟩
  | _ => exact absurd hspares id

/-- **An idle controller** waits for nothing. -/
theorem after_idle (hidle : ctrl.busy = none) (hspares : ∀ access ∈ later, access.Spares) :
    (ctrl.after later).medium = ctrl.medium := by
  induction later generalizing ctrl with
  | nil => rfl
  | cons access rest ih =>
      have hrest := fun other hmem => hspares other (List.mem_cons_of_mem access hmem)
      have hspare := hspares access List.mem_cons_self
      have hnext : (ctrl.access access).2.busy = none ∧
          (ctrl.access access).2.medium = ctrl.medium := by
        cases access with
        | poll =>
            show ctrl.poll.2.busy = none ∧ ctrl.poll.2.medium = ctrl.medium
            rw [poll_idle hidle]
            exact ⟨hidle, rfl⟩
        | setStalled | setFailInit | setEraseClock | directRead => exact ⟨hidle, rfl⟩
        | _ => exact absurd hspare id
      exact (ih hnext.1 hrest).trans hnext.2

theorem complete_idle (ctrl : Controller) : ctrl.complete.2.busy = none := by
  rw [complete_eq]
  rfl

/-- **Two controllers that differ in their page buffer** wait alike: none of them completes its
operation, or both do. -/
theorem after_sparing (page : ByteArray) (hbusy : ctrl.busy ≠ none)
    (hspares : ∀ access ∈ later, access.Spares) :
    (ctrl.completions later = [] ∧ (ctrl.after later).medium = ctrl.medium ∧
        ((ctrl.withPage page).after later).medium = ctrl.medium) ∨
      (ctrl.completions later ≠ [] ∧ (ctrl.after later).medium = ctrl.complete.2.medium ∧
        ((ctrl.withPage page).after later).medium = (ctrl.withPage page).complete.2.medium) := by
  induction later generalizing ctrl with
  | nil => exact .inl ⟨rfl, rfl, rfl⟩
  | cons access rest ih =>
      have hrest := fun other hmem => hspares other (List.mem_cons_of_mem access hmem)
      rw [completions, after, after]
      rcases access_sparing page hbusy (hspares access List.mem_cons_self) with
        ⟨busy, stalled, failInit, eraseClockHz, hflight, hstep, hpage⟩ | ⟨hstep, hpage⟩
      · -- neither how long it takes nor a fault makes a difference to what is completed
        let next := { ctrl with busy, stalled, failInit, eraseClockHz }
        have hcomplete : next.complete = _ :=
          complete_aside ctrl busy stalled failInit eraseClockHz
        have hpaged : (next.withPage page).complete = _ :=
          complete_aside (ctrl.withPage page) busy stalled failInit eraseClockHz
        have hnext := ih (show next.busy ≠ none from hflight) hrest
        rw [hcomplete, hpaged] at hnext
        rw [hstep, hpage]
        exact hnext
      · rw [hstep, hpage]
        exact .inr ⟨List.cons_ne_nil _ _, after_idle (complete_idle ctrl) hrest,
          after_idle (complete_idle (ctrl.withPage page)) hrest⟩

/-- Ticks complete the operation of a controller that is not stalled. -/
theorem completions_poll {count : UInt32} (hbusy : ctrl.busy = some count)
    (hruns : ctrl.stalled = false) (ticks : Nat) (hticks : count.toNat ≤ ticks + 1) :
    ctrl.completions (List.replicate (ticks + 1) .poll) ≠ [] := by
  induction ticks generalizing ctrl count with
  | zero =>
      have hleft : ¬ 1 < count := UInt32.not_lt.mpr (UInt32.le_iff_toNat_le.mpr hticks)
      exact completions_ne_nil (poll_completes hbusy hruns hleft rfl) []
  | succ ticks ih =>
      by_cases hleft : 1 < count
      · have hpoll : ctrl.access .poll = _ := poll_counts hbusy hruns hleft
        have hnext := UInt32.toNat_sub_of_le count 1 (UInt32.le_of_lt hleft)
        simp only [UInt32.reduceToNat] at hnext
        rw [List.replicate_succ, completions, hpoll]
        exact @ih { ctrl with busy := some (count - 1) } (count - 1) rfl hruns (by omega)
      · exact completions_ne_nil (poll_completes hbusy hruns hleft rfl) _

/-- **The operation in flight** can be waited for. -/
theorem exists_completes (hbusy : ctrl.busy ≠ none) :
    ∃ later, (∀ access ∈ later, ControllerAccess.Waits access) ∧ ctrl.completions later ≠ [] := by
  obtain ⟨count, hcount⟩ := Option.ne_none_iff_exists'.mp hbusy
  refine ⟨.setStalled false :: List.replicate (count.toNat + 1) .poll, fun access hmem => ?_, ?_⟩
  · rcases List.mem_cons.mp hmem with rfl | hmem
    · trivial
    · rw [List.eq_of_mem_replicate hmem]
      trivial
  · exact @completions_poll { ctrl with stalled := false } count hcount rfl _ (by omega)

/-! ## What the page buffer does to the medium -/

/-- Where the page at the address register goes, unless its program will be refused or dropped. -/
def target? (ctrl : Controller) : Option Nat :=
  if ctrl.address % ctrl.layout.pageSize = 0 ∧ ctrl.dropWrites = false then
    ctrl.offsetOf ctrl.address ctrl.layout.pageSize.toNat
  else none

/-- The operation in flight is a program that reaches the medium, and its page comes out different
if it is carried out with `page`. -/
def Spoils (ctrl : Controller) (page : ByteArray) : Prop :=
  ctrl.operation? = some .programPage ∧
    ∃ offset, ctrl.target? = some offset ∧
      ctrl.pageAfter offset page ≠ ctrl.pageAfter offset ctrl.pageBuffer

theorem offsetOf_of_target? {offset : Nat} (h : ctrl.target? = some offset) :
    ctrl.offsetOf ctrl.address ctrl.layout.pageSize.toNat = some offset := by
  unfold target? at h
  split at h
  · exact h
  · cases h

theorem programPage_left (ctrl : Controller) :
    ctrl.programPage.2 = ctrl.target?.elim ctrl fun offset =>
      ctrl.store offset (ctrl.pageAfter offset ctrl.pageBuffer) := by
  unfold target?
  rcases ctrl.programPage_cases with
    ⟨haligned | hoffset, hprogram⟩ |
      ⟨offset, haligned, hoffset, ⟨hdrop, hprogram⟩ | ⟨hdrop, hprogram⟩⟩
  · simp [haligned, hprogram]
  · simp [hoffset, hprogram]
  · simp [hdrop, hprogram]
  · simp [haligned, hoffset, hdrop, hprogram]

theorem complete_medium (ctrl : Controller) :
    ctrl.complete.2.medium = (ctrl.execute ctrl.operation?).2.medium := by
  rw [complete_eq]
  rfl

/-- An erase has no use for the page buffer. -/
theorem eraseSector_withPage (ctrl : Controller) (page : ByteArray) :
    (ctrl.withPage page).eraseSector.2.medium = ctrl.eraseSector.2.medium := by
  show ({ ctrl with pageBuffer := page } : Controller).eraseSector.2.medium = _
  simp only [eraseSector, Controller.offsetOf, store]
  split
  · rfl
  · split <;> rfl

/-- **Another page buffer** makes a difference to the medium exactly if it spoils the page in
flight. -/
theorem medium_withPage_iff (hon : ctrl.On layout) (hsize : page.size = ctrl.pageBuffer.size) :
    (ctrl.withPage page).complete.2.medium = ctrl.complete.2.medium ↔ ¬ ctrl.Spoils page := by
  have hsame : (ctrl.withPage page).operation? = ctrl.operation? := rfl
  have htargets : (ctrl.withPage page).target? = ctrl.target? := rfl
  unfold Spoils
  rw [complete_medium, complete_medium, hsame]
  cases hoperation : ctrl.operation? with
  | none => simp [execute, withPage]
  | some operation =>
      cases operation with
      | eraseSector => simp [execute, eraseSector_withPage]
      | programPage =>
          simp only [execute, programPage_left, htargets]
          cases htarget : ctrl.target? with
          | none => simp [withPage]
          | some offset =>
              have hoffset := offsetOf_of_target? htarget
              have hsizes := (hon.size_pageAfter hoffset hsize).trans
                (hon.size_pageAfter hoffset rfl).symm
              show Memory.overwrite ctrl.medium offset (ctrl.pageAfter offset page) =
                Memory.overwrite ctrl.medium offset (ctrl.pageAfter offset ctrl.pageBuffer) ↔ _
              rw [Memory.overwrite_inj hsizes]
              simp

/-- **Two controllers that differ in their page buffer** end with the same medium, however they are
waited for, exactly if the page in flight is not spoiled. -/
theorem media_alike_iff (hon : ctrl.On layout) (hbusy : ctrl.busy ≠ none)
    (hsize : page.size = ctrl.pageBuffer.size) :
    (∀ later, (∀ access ∈ later, ControllerAccess.Waits access) →
        ((ctrl.withPage page).after later).medium = (ctrl.after later).medium) ↔
      ¬ ctrl.Spoils page := by
  rw [← medium_withPage_iff hon hsize]
  constructor
  · intro halike
    obtain ⟨later, hwaits, hcompletes⟩ := exists_completes hbusy
    rcases after_sparing page hbusy fun access hmem => (hwaits access hmem).spares with
      ⟨hnone, _⟩ | ⟨_, hmedium, hpaged⟩
    · exact absurd hnone hcompletes
    · rw [← hmedium, ← hpaged]
      exact halike later hwaits
  · intro hsame later hwaits
    rcases after_sparing page hbusy fun access hmem => (hwaits access hmem).spares with
      ⟨_, hmedium, hpaged⟩ | ⟨_, hmedium, hpaged⟩
    · rw [hmedium, hpaged]
    · rw [hmedium, hpaged, hsame]

theorem not_spoils_self (ctrl : Controller) : ¬ ctrl.Spoils ctrl.pageBuffer :=
  fun ⟨_, _, _, hdiffers⟩ => hdiffers rfl

end Controller

/-! ## Refused calls -/

/-- An erase, or a program of some data. -/
def FlashCall.Writes : FlashCall → Prop
  | .erase _ => True
  | .program _ data => data.size ≠ 0
  | .read _ _ => False

/-- What the page buffer holds after a call that the driver refused. -/
def FlashCall.buffered (ctrl : Controller) : FlashCall → ByteArray
  | .program _ data =>
      (ctrl.writePageBuffer (data.extract 0 ctrl.layout.pageSize.toNat)).pageBuffer
  | _ => ctrl.pageBuffer

/-- Hands a call to a device, with no session that checks it. -/
def Device.call {σ : Type} (device : Device σ) :
    FlashCall → Attempt FlashError σ (Option ByteArray)
  | .erase address => do
    device.eraseSector address
    return none
  | .program address data => do
    device.programPage address data
    return none
  | .read address len => do
    let bytes ← device.read address len
    return some bytes

/-- Where a call is made: to a session, or to the driver itself. -/
inductive Entrance where
  | session
  | driver

namespace Rig

variable {ctrl : Controller} {layout : FlashLayout} {timeout address : UInt32} {call : FlashCall}

/-- Makes a call. -/
def ask : Entrance → FlashCall → Attempt FlashError Rig (Option ByteArray)
  | .session => Session.call ⟨device⟩
  | .driver => device.call

theorem size_buffered (ctrl : Controller) (call : FlashCall) :
    (call.buffered ctrl).size = ctrl.pageBuffer.size := by
  cases call with
  | program address data =>
      obtain ⟨page, hsize, hwrite⟩ :=
        ctrl.writePageBuffer_cases (data.extract 0 ctrl.layout.pageSize.toNat)
      rw [FlashCall.buffered, hwrite]
      exact hsize
  | erase address => rfl
  | read address len => rfl

/-- **The driver refuses a program** after it has loaded its first page. -/
theorem programPage_busy {data : ByteArray} (hdisabled : ctrl.isEnabled = false)
    (hpage : 0 < ctrl.layout.pageSize.toNat) (hsome : data.size ≠ 0) :
    Attempt.Ends (Has ctrl timeout) (device.programPage address data) (.error .hardwareTimeout)
      (Has (ctrl.withPage ((FlashCall.program address data).buffered ctrl)) timeout) := by
  obtain ⟨page, _, hwrite⟩ :=
    ctrl.writePageBuffer_cases (data.extract 0 ctrl.layout.pageSize.toNat)
  refine device_programPage_refused hpage hsome ?_
  rw [FlashCall.buffered, hwrite]
  exact perform_busy hdisabled

/-- **Every call that writes** is refused while an operation is in flight. -/
theorem ask_busy (hlayout : layout.validate = .ok (.ok ())) (hon : ctrl.On layout)
    (hdisabled : ctrl.isEnabled = false) (hwrites : call.Writes) (entrance : Entrance) :
    ∃ error page, Attempt.Ends (Has ctrl timeout) (ask entrance call) (.error error)
        (Has (ctrl.withPage page) timeout) ∧
      (error = .hardwareTimeout ∧ page = call.buffered ctrl ∨
        entrance = .session ∧ (error = .outOfRange ∨ error = .alignment) ∧
          page = ctrl.pageBuffer) := by
  have hrigs : ∀ rig, Has ctrl timeout rig → rig.ctrl.On layout := on_of_has hon
  have hpage : 0 < ctrl.layout.pageSize.toNat :=
    hon.layout_eq ▸ (FlashLayout.charts_geometry hlayout hon.sectorMap).paged
  cases call with
  | read address len => exact absurd hwrites id
  | erase address =>
      cases entrance with
      | driver => exact ⟨_, _, .bind_error (perform_busy hdisabled), .inl ⟨rfl, rfl⟩⟩
      | session =>
          by_cases hproper : (FlashCall.erase address).Proper layout
          · obtain ⟨sector, hmem, rfl⟩ := hproper
            exact ⟨_, _, FlashArray.erase_passed hlayout hrigs hmem (perform_busy hdisabled),
              .inl ⟨rfl, rfl⟩⟩
          · obtain ⟨error, herror, _, hends⟩ :=
              FlashArray.erase_refused hlayout hrigs (.ofMedium layout ctrl.medium) hproper
            exact ⟨error, ctrl.pageBuffer, hends, .inr ⟨rfl, herror, rfl⟩⟩
  | program address data =>
      have hbusy : Attempt.Ends (Has ctrl timeout) (device.programPage address data) _ _ :=
        programPage_busy hdisabled hpage hwrites
      cases entrance with
      | driver => exact ⟨_, _, .bind_error hbusy, .inl ⟨rfl, rfl⟩⟩
      | session =>
          by_cases hproper : (FlashCall.program address data).Proper layout
          · exact ⟨_, _, FlashArray.program_passed hlayout hrigs hproper hbusy, .inl ⟨rfl, rfl⟩⟩
          · obtain ⟨error, herror, _, hends⟩ :=
              FlashArray.program_refused hlayout hrigs (.ofMedium layout ctrl.medium) hproper
            exact ⟨error, ctrl.pageBuffer, hends, .inr ⟨rfl, herror, rfl⟩⟩

/-- **A refused call and the operation in flight.** While an operation is in flight every erase and
every program of some data is refused. However the operation is waited for afterwards, the medium is
what it would have been without the call, unless the driver itself refused a program and the page in
flight comes out different with the first page of its data. -/
theorem refused_harmless_iff (hlayout : layout.validate = .ok (.ok ())) {rig : Rig}
    (hsound : rig.ctrl.Sound layout) (hbusy : rig.ctrl.busy ≠ none) (hwrites : call.Writes)
    (entrance : Entrance) (log : Log) :
    ∃ error next, (ask entrance call).run.runOn { state := rig, log } = (.ok (.error error), next) ∧
      (error = .hardwareTimeout ∨
        entrance = .session ∧ (error = .outOfRange ∨ error = .alignment)) ∧
      ((∀ later, (∀ access ∈ later, ControllerAccess.Waits access) →
          (next.state.ctrl.after later).medium = (rig.ctrl.after later).medium) ↔
        (error = .hardwareTimeout → ¬ rig.ctrl.Spoils (call.buffered rig.ctrl))) := by
  have hasked : ∃ error page, Attempt.Ends (Has rig.ctrl rig.pollTimeout) _ _ _ ∧ _ :=
    ask_busy hlayout hsound.on (hsound.disabled hbusy) hwrites entrance
  obtain ⟨error, page, hends, hcases⟩ := hasked
  obtain ⟨next, hrun, hnext, _⟩ := hends { state := rig, log } ⟨rfl, rfl⟩
  refine ⟨error, next, hrun, hcases.imp And.left fun h => ⟨h.1, h.2.1⟩, ?_⟩
  rw [hnext]
  rcases hcases with ⟨rfl, rfl⟩ | ⟨_, herror, rfl⟩
  · rw [Controller.media_alike_iff hsound.on hbusy (size_buffered _ _)]
    exact ⟨fun h _ => h, fun h => h rfl⟩
  · -- the session refused the call, and the driver has not seen it
    refine iff_of_true ((Controller.media_alike_iff hsound.on hbusy rfl).mpr
      (Controller.not_spoils_self _)) fun hlate => ?_
    rcases herror with rfl | rfl <;> cases hlate

/-- A driver that gives a program two ticks; the part takes four. -/
def hastyRig : Rig := { smallRig with pollTimeout := 2 }

/-- The controller of `hastyRig` while it programs the first page. -/
def hastyRig.programming : Controller :=
  hastyRig.ctrl.after [.writePageBuffer ⟨#[1, 2, 3, 4]⟩, .writeAddress 0x1000,
    .writeControl FlashOperation.programPage.controlValue]

theorem refused_harmless_hastyRig :
    let rig := { hastyRig with ctrl := hastyRig.programming }
    smallLayout.validate = .ok (.ok ()) ∧ rig.ctrl.Sound smallLayout ∧ rig.ctrl.busy ≠ none ∧
      ∃ error next, (ask .driver (.erase 0x1008)).run.runOn { state := rig } =
          (.ok (.error error), next) ∧
        ∀ later, (∀ access ∈ later, ControllerAccess.Waits access) →
          (next.state.ctrl.after later).medium = (rig.ctrl.after later).medium := by
  intro rig
  have hlayout : smallLayout.validate = .ok (.ok ()) := rfl
  have hidle : hastyRig.ctrl.Idle := Controller.create_idle _ _ _ _ _
  have hsound : rig.ctrl.Sound smallLayout := (Controller.sound_stable _).after
    (hidle.sound (Controller.create_on rfl rfl _ none) (by decide)) _
  have hbusy : rig.ctrl.busy ≠ none := nofun
  have hwrites : (FlashCall.erase 0x1008).Writes := trivial
  obtain ⟨error, next, hrun, _, hharmless⟩ :=
    refused_harmless_iff hlayout hsound hbusy hwrites .driver {}
  exact ⟨hlayout, hsound, hbusy, error, next, hrun,
    hharmless.mpr fun _ => rig.ctrl.not_spoils_self⟩

/-- **A refused program does harm.** The page that was in flight is programmed in any case, but with
the data of the program that was refused. -/
theorem refused_harms_hastyRig :
    let first := (ask .session (.program 0x1000 ⟨#[1, 2, 3, 4]⟩)).run.runOn { state := hastyRig }
    let second := (ask .session (.program 0x1004 ⟨#[5, 6, 7, 8]⟩)).run.runOn first.2
    first.1 = .ok (.error .hardwareTimeout) ∧ first.2.state.ctrl.isEnabled = false ∧
      second.1 = .ok (.error .hardwareTimeout) ∧
      first.2.state.ctrl.completions [.poll, .poll] = [.programmed 0x1000] ∧
      second.2.state.ctrl.completions [.poll, .poll] = [.programmed 0x1000] ∧
      (first.2.state.ctrl.after [.poll, .poll]).medium.extract 0 8 =
        ⟨#[1, 2, 3, 4, 0xFF, 0xFF, 0xFF, 0xFF]⟩ ∧
      (second.2.state.ctrl.after [.poll, .poll]).medium.extract 0 8 =
        ⟨#[5, 6, 7, 8, 0xFF, 0xFF, 0xFF, 0xFF]⟩ :=
  ⟨by rfl, by rfl, by rfl, by decide +kernel, by decide +kernel, by decide +kernel,
    by decide +kernel⟩

end Rig

end FlashBench
