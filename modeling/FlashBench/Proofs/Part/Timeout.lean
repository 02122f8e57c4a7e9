import FlashBench.Proofs.Part.Operation
import FlashBench.Proofs.Part.Refused

/-!
# Timeouts

An operation that takes no more ticks than the driver waits for is done after as many polls. One
that takes more is given up after all the polls that the driver has; it stays in flight, and the
rest of its ticks completes it with the effect it would have had in time. Until then the driver
refuses every call that writes, without a poll (`Rig.call_ends_by_timeout`).

A program has its effect unless the controller drops its programs by the time it completes. Then it
is reported as done all the same, and the medium stays as it was (`Rig.call_dropped_smallRig`).
-/

namespace FlashBench

/-- The call is a single operation: an erase of a sector, or a program of one page. -/
def FlashCall.Single (layout : FlashLayout) : FlashCall → Prop
  | .erase address => (FlashCall.erase address).Proper layout
  | .program address data =>
      (FlashCall.program address data).Proper layout ∧ data.size = layout.pageSize.toNat
  | .read _ _ => False

theorem FlashCall.Single.exists_operation {layout : FlashLayout} {call : FlashCall}
    (h : call.Single layout) : ∃ operation, call.operation? = some operation := by
  cases call with
  | erase address => exact ⟨_, rfl⟩
  | program address data => exact ⟨_, rfl⟩
  | read address len => exact absurd h id

/-! ## Calls that are counted -/

namespace PolledRig

/-- Hands a call to the driver, whose polls are counted. -/
def call : FlashCall → Attempt FlashError PolledRig (Option ByteArray)
  | .erase address => do
    perform .eraseSector address
    return none
  | .program address data => do
    programPage address data
    return none
  | .read address len => ExceptT.mk (uncounted (Rig.device.call (.read address len)).run)

/-- **Without the count** a call is a call of the driver. -/
theorem call_counts (call : FlashCall) :
    AttemptCounts (PolledRig.call call) (Rig.device.call call) := by
  cases call with
  | erase address => exact .bind (perform_counts _ _) fun _ => Counts.pure _
  | program address data => exact .bind (programPage_counts _ _) fun _ => Counts.pure _
  | read address len => exact Counts.uncounted _

variable {ctrl : Controller} {layout : FlashLayout} {timeout : UInt32} {operation : FlashOperation}
  {call : FlashCall} {polls : Nat}

/-- A single operation is performed once the page buffer holds the data, if there is any. -/
theorem call_single {outcome : Except FlashError Unit} {R : PolledRig → Prop}
    (hlayout : layout.validate = .ok (.ok ())) (hon : ctrl.On layout) (hsingle : call.Single layout)
    (hoperation : call.operation? = some operation)
    (hperform : Attempt.Ends (At (Rig.Has (ctrl.withPage (call.buffered ctrl)) timeout) polls)
      (perform operation call.address) outcome R) :
    Attempt.Ends (At (Rig.Has ctrl timeout) polls) (PolledRig.call call)
      (outcome.map fun _ => none) R := by
  cases call with
  | read address len => exact absurd hsingle id
  | erase address =>
      cases hoperation
      exact .answer _ hperform
  | program address data =>
      obtain ⟨⟨_, _, hsome, _⟩, hsize⟩ := hsingle
      cases hoperation
      rw [← hon.layout_eq] at hsize hlayout
      have hpage : 0 < ctrl.layout.pageSize.toNat :=
        (FlashLayout.charts_geometry hlayout (hon.layout_eq ▸ hon.sectorMap)).paged
      exact .answer _ (programPage_first hpage hsome (.inr hsize) hperform)

/-- **While an operation is in flight** no call that writes polls the controller. -/
theorem call_busy (hlayout : layout.validate = .ok (.ok ())) (hon : ctrl.On layout)
    (hdisabled : ctrl.isEnabled = false) (hwrites : call.Writes) (polls : Nat) :
    Attempt.Ends (At (Rig.Has ctrl timeout) polls) (PolledRig.call call) (.error .hardwareTimeout)
      (At (Rig.Has (ctrl.withPage (call.buffered ctrl)) timeout) polls) := by
  cases call with
  | read address len => exact absurd hwrites id
  | erase address => exact .bind_error (perform_busy hdisabled polls)
  | program address data =>
      obtain rfl := hon.layout_eq
      have hpage := (FlashLayout.charts_geometry hlayout hon.sectorMap).paged
      obtain ⟨page, _, hwrite⟩ :=
        ctrl.writePageBuffer_cases (data.extract 0 ctrl.layout.pageSize.toNat)
      rw [FlashCall.buffered, hwrite]
      refine .bind_error (programPage_first hpage hwrites (.inl ⟨_, rfl⟩) ?_)
      rw [hwrite]
      have hloaded : ({ ctrl with pageBuffer := page } : Controller).isEnabled = false := hdisabled
      exact perform_busy hloaded polls

end PolledRig

namespace Rig

/-- From this rig the call of the driver ends with `reply`, after exactly `polls` polls. -/
structure CallEnds (rig : Rig) (log : Log) (call : FlashCall) (polls : Nat) (reply : FlashReply)
    (next : World Rig) : Prop where
  run : (device.call call).run.runOn { state := rig, log } = (.ok reply, next)
  counted : (PolledRig.call call).run.runOn { state := { rig }, log } =
    (.ok reply, { state := { rig := next.state, polls }, log := next.log })

/-- The counted call says it all. -/
theorem callEnds_of_counted {rig : Rig} {log : Log} {call : FlashCall} {reply : FlashReply}
    {last : World PolledRig}
    (h : (PolledRig.call call).run.runOn { state := { rig }, log } = (.ok reply, last)) :
    rig.CallEnds log call last.state.polls reply (PolledRig.forget last) := by
  have hreal := PolledRig.call_counts call { state := { rig }, log }
  rw [h] at hreal
  exact ⟨hreal, h⟩

theorem callEnds_of_ends {rig : Rig} {call : FlashCall} {polls : Nat} {reply : FlashReply}
    {Q : Rig → Prop}
    (h : Attempt.Ends (PolledRig.At (Has rig.ctrl rig.pollTimeout) 0) (PolledRig.call call) reply
      (PolledRig.At Q polls)) (log : Log) :
    ∃ next, rig.CallEnds log call polls reply next ∧ Q next.state := by
  obtain ⟨last, hrun, hlast, rfl⟩ := h { state := { rig }, log } ⟨⟨rfl, rfl⟩, rfl⟩
  exact ⟨PolledRig.forget last, callEnds_of_counted hrun, hlast⟩

end Rig

/-! ## Effects -/

namespace Controller

variable {ctrl : Controller} {layout : FlashLayout} {operation : FlashOperation} {call : FlashCall}
  {array : FlashArray layout}

theorem Holds.withPage {bytes : Nat → UInt8} {page : ByteArray} (h : ctrl.Holds layout bytes)
    (hsize : page.size = ctrl.pageBuffer.size) : (ctrl.withPage page).Holds layout bytes :=
  ⟨h.on.withPageBuffer hsize, h.medium⟩

/-- A program of one page fills the page buffer with its data. -/
theorem On.buffered_program {address : UInt32} {data : ByteArray} (h : ctrl.On layout)
    (hsize : data.size = layout.pageSize.toNat) :
    (FlashCall.program address data).buffered ctrl =
      Memory.dump (Memory.loaded data address.toNat) address.toNat layout.pageSize.toNat := by
  have hwhole : data.extract 0 ctrl.layout.pageSize.toNat = data :=
    Memory.extract_size data (Nat.le_of_eq (hsize.trans (by rw [h.layout_eq])))
  rw [FlashCall.buffered, hwhole, writePageBuffer_eq (hsize.trans h.pageBuffer.symm), ← hsize,
    Memory.dump_loaded]

/-- **The effect of a single operation,** whenever it completes, is the one on the array. -/
theorem Holds.single (h : ctrl.Holds layout array.bytes) (hlayout : layout.validate = .ok (.ok ()))
    (hsingle : call.Single layout) (hoperation : call.operation? = some operation) :
    ∃ final, (ctrl.withPage (call.buffered ctrl)).Yields operation call.address final ∧
      final.medium = (array.after ctrl.dropWrites call).contents := by
  have hsize := Rig.size_buffered ctrl call
  cases call with
  | read address len => exact absurd hsingle id
  | erase address =>
      obtain ⟨sector, hmem, rfl⟩ := hsingle
      cases hoperation
      obtain ⟨final, hyields, _, hfinal⟩ := (h.withPage hsize).erase hlayout hmem
      have hafter : (array.after ctrl.dropWrites (.erase sector.start)).bytes = _ :=
        FlashArray.after_erase hlayout hmem
      exact ⟨final, hyields, FlashArray.contents_eq_medium (hafter ▸ hfinal)⟩
  | program address data =>
      obtain ⟨hproper, hone⟩ := hsingle
      obtain ⟨hfirst, hlast, _, _, haligned⟩ := id hproper
      cases hoperation
      have hbuffer : (FlashCall.program address data).buffered ctrl = _ :=
        h.on.buffered_program hone
      have hafter : (array.after ctrl.dropWrites (.program address data)).bytes = _ :=
        FlashArray.after_program hproper
      rw [hone] at hlast hafter
      generalize (FlashCall.program address data).buffered ctrl = page at hsize hbuffer ⊢
      have hloaded := h.withPage hsize
      cases hdrops : ctrl.dropWrites with
      | true =>
          obtain ⟨final, hyields, _, hfinal⟩ :=
            hloaded.program_dropped haligned hfirst hlast hdrops
          exact ⟨final, hyields, FlashArray.contents_eq_medium hfinal⟩
      | false =>
          obtain ⟨final, hyields, _, hfinal⟩ :=
            hloaded.program haligned hfirst hlast hdrops hbuffer
          rw [hdrops] at hafter
          exact ⟨final, hyields, FlashArray.contents_eq_medium (hafter ▸ hfinal)⟩

/-- Nothing but a completion changes the medium. -/
theorem On.medium_after {later : List ControllerAccess} (h : ctrl.On layout)
    (hnone : ctrl.completions later = []) : (ctrl.after later).medium = ctrl.medium := by
  induction later generalizing ctrl with
  | nil => rfl
  | cons access rest ih =>
      obtain ⟨hfirst, hrest⟩ := List.append_eq_nil_iff.mp hnone
      rcases access_cases h access with ⟨_, halike⟩ | ⟨rfl, completion, left, hpoll, _⟩
      · exact (ih (on_stable layout ctrl h access) hrest).trans halike.medium
      · rw [show (ctrl.access .poll).1 = some completion from congrArg Prod.fst hpoll] at hfirst
        cases hfirst

/-- An operation that the driver started and gave up. -/
theorem started_inFlight (ctrl : Controller) (operation : FlashOperation) (address rest : UInt32) :
    ({ ctrl.started operation address with busy := some rest } : Controller).InFlight
      operation.controlValue (max 1 rest.toNat) :=
  ⟨(ctrl.launched_disabled 0 :), rfl, rest, rfl, rfl⟩

/-- An operation is left in flight that will complete with the last of `due` ticks and leave
`effect` in the medium. Until then the driver refuses what writes, whatever else was done to the
controller. -/
structure LeftBusy (due : Nat) (effect : ByteArray) (ctrl : Controller) : Prop where
  busy : ctrl.busy ≠ none
  timely : ∀ later, ctrl.completions later = [] ↔ ctrl.ticks later < due
  medium : ∀ later, (∀ access ∈ later, ControllerAccess.Spares access) →
    (ctrl.after later).medium = if ctrl.ticks later < due then ctrl.medium else effect
  refuses : ∀ later, ctrl.ticks later < due →
    ∀ (rig : Rig) (log : Log) (call : FlashCall), rig.ctrl = ctrl.after later → call.Writes →
      ∃ next, rig.CallEnds log call 0 (.error .hardwareTimeout) next ∧
        next.state.ctrl.medium = ctrl.medium ∧ next.state.ctrl.busy = rig.ctrl.busy

/-- **What a given up operation leaves.** It yields what it would have yielded in time. -/
theorem Yields.leftBusy {address rest : UInt32} {final : Controller} {due : Nat}
    (hlayout : layout.validate = .ok (.ok ())) (hon : ctrl.On layout)
    (hyields : ctrl.Yields operation address final) (hdue : max 1 rest.toNat = due) :
    ({ ctrl.started operation address with busy := some rest } : Controller).LeftBusy due
      final.medium := by
  let left : Controller := { ctrl.started operation address with busy := some rest }
  have hflight : left.InFlight operation.controlValue due :=
    hdue ▸ ctrl.started_inFlight operation address rest
  have hleft : left.On layout := hon.withRegisters
  have hbusy : left.busy ≠ none := nofun
  have htimely : ∀ later, left.completions later = [] ↔ left.ticks later < due := fun later =>
    ⟨fun hnone => Nat.lt_of_not_le fun hover => hflight.completes hover hnone,
      fun hshort => (hflight.waits hshort).1⟩
  obtain ⟨completion, hcomplete⟩ := hyields.complete (some rest)
  refine ⟨hbusy, htimely, fun later hspares => ?_, fun later hshort rig log call hrig hwrites => ?_⟩
  · rcases after_sparing left.pageBuffer hbusy hspares with
      ⟨hnone, hmedium, _⟩ | ⟨hsome, hmedium, _⟩
    · rw [if_pos ((htimely later).mp hnone)]
      exact hmedium
    · rw [if_neg fun hshort => hsome ((htimely later).mpr hshort), hmedium,
        show left.complete = (completion, final) from hcomplete]
  · obtain ⟨hnone, hwaiting⟩ := hflight.waits hshort
    have hrigs : rig.ctrl.On layout := hrig ▸ (on_stable layout).after hleft later
    have hdisabled : rig.ctrl.isEnabled = false := hrig ▸ hwaiting.disabled
    obtain ⟨next, hends, hnext⟩ :=
      Rig.callEnds_of_ends (PolledRig.call_busy hlayout hrigs hdisabled hwrites 0) log
    refine ⟨next, hends, ?_, by rw [hnext.1]; rfl⟩
    rw [hnext.1]
    exact (congrArg Controller.medium hrig).trans (hleft.medium_after hnone)

end Controller

/-! ## The law -/

namespace Rig

variable {layout : FlashLayout}

section Single

variable {rig : Rig} {operation : FlashOperation} {call : FlashCall}
  (hlayout : layout.validate = .ok (.ok ())) (hon : rig.ctrl.On layout)
  (hsingle : call.Single layout) (hoperation : call.operation? = some operation)

include hlayout hon hsingle hoperation

/-- **A call in time** is polled for until it is done. -/
theorem callEnds_timely (hpunctual : rig.ctrl.Punctual operation rig.pollTimeout) (log : Log) :
    ∃ next,
      rig.CallEnds log call (max 1 (rig.ctrl.ticksOf (some operation)).toNat) (.ok none) next ∧
      next.state.ctrl.medium =
        ((FlashArray.ofMedium layout rig.ctrl.medium).after rig.ctrl.dropWrites call).contents := by
  have hholds : rig.ctrl.Holds layout (FlashArray.ofMedium layout rig.ctrl.medium).bytes :=
    Controller.holds_loaded hon
  obtain ⟨final, hyields, heffect⟩ := hholds.single hlayout hsingle hoperation
  have hloaded : (rig.ctrl.withPage (call.buffered rig.ctrl)).Punctual operation rig.pollTimeout :=
    ⟨hpunctual.enabled, hpunctual.runs, hpunctual.ticks⟩
  have hends := PolledRig.call_single hlayout hon hsingle hoperation
    (PolledRig.perform_timely hloaded hyields 0)
  rw [Nat.zero_add] at hends
  obtain ⟨next, hcall, hnext⟩ := callEnds_of_ends hends log
  exact ⟨next, hcall, by rw [hnext.1]; exact heffect⟩

/-- **A call that is late** is given up after all the polls. The controller has what is left of the
ticks before it. -/
theorem callEnds_late (henabled : rig.ctrl.isEnabled = true) (hruns : rig.ctrl.stalled = false)
    (hlate : rig.pollTimeout.toNat < max 1 (rig.ctrl.ticksOf (some operation)).toNat) (log : Log) :
    ∃ next, ∃ rest : UInt32,
      rig.CallEnds log call rig.pollTimeout.toNat (.error .hardwareTimeout) next ∧
      next.state.ctrl =
        { (rig.ctrl.withPage (call.buffered rig.ctrl)).started operation call.address with
          busy := some rest } ∧
      max 1 rest.toNat =
        max 1 (rig.ctrl.ticksOf (some operation)).toNat - rig.pollTimeout.toNat := by
  have hloaded : (rig.ctrl.withPage (call.buffered rig.ctrl)).isEnabled = true := henabled
  obtain ⟨rest, hrest, hperform⟩ := PolledRig.perform_late hloaded
    (fun hpunctual => Nat.not_le_of_lt hlate hpunctual.ticks) 0
  have hends := PolledRig.call_single hlayout hon hsingle hoperation hperform
  rw [Nat.zero_add] at hends
  obtain ⟨next, hcall, hnext⟩ := callEnds_of_ends hends log
  exact ⟨next, rest, hcall, hnext.1, hrest hruns⟩

end Single

/-- **A call ends by its timeout.** On an idle controller that is not stalled a single operation is
done after as many polls as it takes ticks, if the driver waits so long. Otherwise it is given up
after all the polls, the medium is as it was, and the ticks that are missing complete it with the
same effect. -/
theorem call_ends_by_timeout (hlayout : layout.validate = .ok (.ok ())) (rig : Rig)
    (hon : rig.ctrl.On layout) (hidle : rig.ctrl.Idle) (hruns : rig.ctrl.stalled = false)
    (call : FlashCall) (hsingle : call.Single layout) (log : Log) :
    let ticks := max 1 (rig.ctrl.ticksOf call.operation?).toNat
    let timeout := rig.pollTimeout.toNat
    let effect :=
      ((FlashArray.ofMedium layout rig.ctrl.medium).after rig.ctrl.dropWrites call).contents
    (ticks ≤ timeout → ∃ next, rig.CallEnds log call ticks (.ok none) next ∧
        next.state.ctrl.medium = effect) ∧
      (timeout < ticks → ∃ next, rig.CallEnds log call timeout (.error .hardwareTimeout) next ∧
        next.state.ctrl.medium = rig.ctrl.medium ∧
        next.state.ctrl.LeftBusy (ticks - timeout) effect) := by
  intro ticks timeout effect
  obtain ⟨operation, hoperation⟩ := hsingle.exists_operation
  have hticks : max 1 (rig.ctrl.ticksOf (some operation)).toNat = ticks := by rw [← hoperation]
  constructor
  · intro htimely
    have hpunctual : rig.ctrl.Punctual operation rig.pollTimeout :=
      ⟨hidle.enabled, hruns, hticks ▸ htimely⟩
    exact hticks ▸ callEnds_timely hlayout hon hsingle hoperation hpunctual log
  · intro hlate
    obtain ⟨next, rest, hcall, hnext, hrest⟩ := callEnds_late hlayout hon hsingle hoperation
      hidle.enabled hruns (hticks ▸ hlate) log
    have hholds : rig.ctrl.Holds layout (FlashArray.ofMedium layout rig.ctrl.medium).bytes :=
      Controller.holds_loaded hon
    obtain ⟨final, hyields, heffect⟩ := hholds.single hlayout hsingle hoperation
    have hpage := size_buffered rig.ctrl call
    refine ⟨next, hcall, by rw [hnext]; rfl, ?_⟩
    rw [hnext, ← show final.medium = effect from heffect]
    exact hyields.leftBusy hlayout (hon.withPageBuffer hpage) (hticks ▸ hrest)

/-- The part takes four ticks for a program, two more than its driver waits for. -/
theorem call_ends_by_timeout_hastyRig :
    let call := FlashCall.program 0x1000 ⟨#[1, 2, 3, 4]⟩
    let effect := ((FlashArray.ofMedium smallLayout hastyRig.ctrl.medium).after false call).contents
    smallLayout.validate = .ok (.ok ()) ∧ hastyRig.ctrl.On smallLayout ∧ hastyRig.ctrl.Idle ∧
      hastyRig.ctrl.stalled = false ∧ call.Single smallLayout ∧
      effect.extract 0 8 = ⟨#[1, 2, 3, 4, 0xFF, 0xFF, 0xFF, 0xFF]⟩ ∧
      ∃ next, hastyRig.CallEnds {} call 2 (.error .hardwareTimeout) next ∧
        next.state.ctrl.medium = hastyRig.ctrl.medium ∧ next.state.ctrl.LeftBusy 2 effect := by
  intro call effect
  have hlayout : smallLayout.validate = .ok (.ok ()) := rfl
  have hon : hastyRig.ctrl.On smallLayout := Controller.create_on rfl rfl _ none
  have hidle : hastyRig.ctrl.Idle := Controller.create_idle _ _ _ _ _
  have hsingle : call.Single smallLayout :=
    ⟨by decide, rfl⟩
  obtain ⟨_, hlate⟩ := call_ends_by_timeout hlayout hastyRig hon hidle rfl call hsingle {}
  exact ⟨hlayout, hon, hidle, rfl, hsingle, by decide +kernel, hlate (by decide)⟩

/-- **A dropped program** has no effect, and it makes no difference whether the part drops its
programs from the start or only once the driver has given up on one. -/
theorem call_dropped_smallRig :
    let call := FlashCall.program 0x1000 ⟨#[1, 2, 3, 4]⟩
    let droppingRig : Rig := { smallRig with ctrl := { smallRig.ctrl with dropWrites := true } }
    let effect := ((FlashArray.ofMedium smallLayout smallRig.ctrl.medium).after false call).contents
    smallLayout.validate = .ok (.ok ()) ∧ call.Single smallLayout ∧
      (droppingRig.ctrl.On smallLayout ∧ droppingRig.ctrl.Idle ∧ droppingRig.ctrl.stalled = false ∧
        ∃ next, droppingRig.CallEnds {} call 4 (.ok none) next ∧
          next.state.ctrl.medium = smallRig.ctrl.medium ∧ next.state.ctrl.medium ≠ effect) ∧
      (hastyRig.ctrl.On smallLayout ∧ hastyRig.ctrl.Idle ∧ hastyRig.ctrl.stalled = false ∧
        ∃ next, hastyRig.CallEnds {} call 2 (.error .hardwareTimeout) next ∧
          let last := next.state.ctrl.after [.setDropWrites true, .poll, .poll]
          last.busy = none ∧ last.medium = smallRig.ctrl.medium ∧ last.medium ≠ effect) := by
  intro call droppingRig effect
  have hlayout : smallLayout.validate = .ok (.ok ()) := rfl
  have hsmall : smallRig.ctrl.On smallLayout := Controller.create_on rfl rfl _ none
  have hhasty : hastyRig.ctrl.On smallLayout := hsmall
  have hon : droppingRig.ctrl.On smallLayout :=
    ⟨hsmall.layout_eq, hsmall.sectorMap, hsmall.capacity, hsmall.pageBuffer, hsmall.medium⟩
  have hidle : hastyRig.ctrl.Idle := Controller.create_idle _ _ _ _ _
  have hsingle : call.Single smallLayout := ⟨by decide, rfl⟩
  have hdiffers : smallRig.ctrl.medium ≠ effect := by decide +kernel
  refine ⟨hlayout, hsingle, ⟨hon, ⟨by decide, rfl⟩, rfl, ?_⟩, hhasty, hidle, rfl, ?_⟩
  · obtain ⟨next, hcall, hnext⟩ :=
      callEnds_timely hlayout hon hsingle rfl ⟨by decide, rfl, by decide⟩ {}
    have hsame : ((FlashArray.ofMedium smallLayout droppingRig.ctrl.medium).after true
        call).contents = smallRig.ctrl.medium := by decide +kernel
    have hmedium := hnext.trans hsame
    exact ⟨next, hcall, hmedium, hmedium ▸ hdiffers⟩
  · obtain ⟨next, rest, hcall, hnext, hrest⟩ :=
      callEnds_late hlayout hhasty hsingle rfl hidle.enabled rfl (by decide) {}
    have hdue : max 1 rest.toNat = 2 := hrest
    obtain rfl : rest = 2 := UInt32.toNat_inj.mp (show rest.toNat = 2 by omega)
    have hlast : (next.state.ctrl.after [.setDropWrites true, .poll, .poll]).busy = none ∧
        (next.state.ctrl.after [.setDropWrites true, .poll, .poll]).medium =
          smallRig.ctrl.medium := by
      rw [hnext]
      decide +kernel
    exact ⟨next, hcall, hlast.1, hlast.2, hlast.2 ▸ hdiffers⟩

end Rig

end FlashBench
