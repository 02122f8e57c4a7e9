import FlashBench.Bench.Run
import FlashBench.Proofs.Part.Driven
import FlashBench.Proofs.Validation.Keeps

/-!
# Where a bench can get to

A bench comes up around a new part, carries out commands, and may be brought up again around the
same image. `Bench.Reached` takes in every bench on such a way, whatever the commands are and
however they end. What no access to a controller breaks stays true on the whole way
(`perform_keeps`), and so does what was fixed when the bench came up: its setup, the file tree
around the image, and the place of the image (`Bench.Kept`).
-/

namespace FlashBench.Bench

variable {α : Type} {first bench : Bench} {Q : Controller → Prop}

/-- What was fixed when `first` came up is still the same, and the controller is as `Q` says. -/
structure Kept (first : Bench) (Q : Controller → Prop) (bench : Bench) : Prop where
  setup : bench.setup = first.setup
  files : bench.files = first.files
  location : bench.location = first.location
  ctrl : Q bench.rig.ctrl

/-! ## Sessions and validators come and go -/

theorem onRig_keeps {act : Act Rig α} (h : Act.Keeps (fun rig => Q rig.ctrl) act) :
    Act.Keeps (Kept first Q) (onRig act) :=
  h.zoom (fun _ hbench => hbench.ctrl) fun _ _ hbench hctrl =>
    ⟨hbench.setup, hbench.files, hbench.location, hctrl⟩

theorem change_keeps {f : Bench → Bench} (h : ∀ bench, (f bench).setup = bench.setup ∧
    (f bench).files = bench.files ∧ (f bench).location = bench.location ∧
    (f bench).rig = bench.rig) : Act.Keeps (Kept first Q) (Act.change f) := by
  refine .change _ fun bench hbench => ?_
  obtain ⟨hsetup, hfiles, hlocation, hrig⟩ := h bench
  exact ⟨hsetup.trans hbench.setup, hfiles.trans hbench.files, hlocation.trans hbench.location,
    hrig ▸ hbench.ctrl⟩

theorem lookUp_keeps (address : UInt32) : Act.Keeps (fun rig => Q rig.ctrl) (lookUp address) :=
  .bind Rig.ctrlNow_keeps fun _ => .bind (.checked _) fun _ => .bind (.checked _) fun _ => .pure _

theorem device_init_keeps : Attempt.Keeps (fun rig => Q rig.ctrl) device.init :=
  Device.Keeps.distorted_call _ Rig.device_init_keeps

theorem device_free_keeps : Attempt.Keeps (fun rig => Q rig.ctrl) device.free :=
  Device.Keeps.distorted_call _ Rig.device_free_keeps

theorem onClocks_keeps (f : Clocks → Clocks) : Act.Keeps (Kept first Q) (onClocks f) :=
  .bind (onRig_keeps (.change _ fun _ h => h)) fun _ => .pure _

theorem withSession_keeps (slot : Nat) {use : Session Rig → Act Rig Answer}
    (h : Act.Keeps (fun rig => Q rig.ctrl) (use ⟨device⟩)) :
    Act.Keeps (Kept first Q) (withSession slot use) :=
  .bind .state fun _ => .ite (fun _ => onRig_keeps h) fun _ => .pure _

theorem rig_answer_keeps {act : Act Rig α} (answer : α → Answer)
    (h : Act.Keeps (fun rig => Q rig.ctrl) act) :
    Act.Keeps (Kept first Q) (do return answer (← onRig act)) :=
  .bind (onRig_keeps h) fun _ => .pure _

theorem closeSession_keeps (slot : Nat) {finish : Session Rig → Act Rig Answer}
    (h : Act.Keeps (fun rig => Q rig.ctrl) (finish ⟨device⟩)) :
    Act.Keeps (Kept first Q) (closeSession slot finish) := by
  refine .bind .state fun bench => .ite (fun _ => ?_) fun _ => .pure _
  exact .bind (change_keeps fun _ => ⟨rfl, rfl, rfl, rfl⟩) fun _ => onRig_keeps h

theorem dropValidator_keeps : Act.Keeps (Kept first Q) dropValidator := by
  refine .bind .state fun bench => ?_
  cases bench.validator with
  | none => exact .pure _
  | some validator =>
      refine .bind (change_keeps fun _ => ⟨rfl, rfl, rfl, rfl⟩) fun _ => onRig_keeps ?_
      exact .ite (fun _ => Session.drop_keeps device_free_keeps) fun _ => .pure _

/-- **Ending a bench** leaves its controller as it is. -/
theorem release_keeps : Act.Keeps (Kept first Q) release := by
  refine .bind dropValidator_keeps fun _ => .bind .state fun bench => ?_
  refine .bind (.forIn _ _ fun slot _ => ?_) fun _ => .pure _
  refine .bind (closeSession_keeps slot ?_) fun _ => .pure _
  exact .bind (Session.drop_keeps device_free_keeps) fun _ => .pure _

/-! ## Commands -/

section Commands

variable (hQ : Controller.Stable Q)

include hQ

theorem device_keeps : device.Keeps (fun rig => Q rig.ctrl) fun _ => True :=
  (Rig.device_driven hQ.driven).distorted

theorem minded : Validator.Minded (fun rig => Q rig.ctrl) (fun _ => True) device timer where
  calls := device_keeps hQ
  init := device_init_keeps
  free := device_free_keeps
  timer := (Rig.timer_apart enoughReads).keeps_ctrl Q

theorem onCtrl_keeps (access : ControllerAccess) :
    Act.Keeps (Kept first Q) (onCtrl fun ctrl => (ctrl.access access).2) :=
  .bind (onRig_keeps (hQ.access_keeps access)) fun _ => .pure _

theorem pollTimes_keeps (ticks : Nat) : Act.Keeps (fun rig => Q rig.ctrl) (pollTimes ticks) := by
  induction ticks with
  | zero => exact .pure _
  | succ ticks ih => exact .bind (Rig.poll_keeps hQ.driven) fun _ => ih

theorem items_keeps (limit : Nat) (walk : SectorWalk) :
    Act.Keeps (fun rig => Q rig.ctrl) (SectorWalk.items device limit walk) := by
  induction limit generalizing walk with
  | zero => exact .pure _
  | succ limit ih =>
      refine .bind ((device_keeps hQ).next walk) fun item => ?_
      rcases item with ⟨_ | item, walk⟩
      · exact .pure _
      · exact .bind (ih walk) fun _ => .pure _

theorem onEvent_keeps (validator : Validator) :
    Act.Keeps (fun rig => Q rig.ctrl) (validator.onEvent device timer) :=
  Act.Leads.post (Validator.onEvent_keeps (minded hQ) fun _ _ => trivial) fun _ _ h => h.2

theorem run_keeps (validator : Validator) :
    Act.Keeps (fun rig => Q rig.ctrl) (validator.run device timer) :=
  (Validator.run_leads (N := fun _ (rig : Rig) => Q rig.ctrl) (onEvent_keeps hQ)
    validator).post fun _ _ ⟨_, _, h⟩ => h

theorem sessionInfo_keeps : Act.Keeps (fun rig => Q rig.ctrl) (sessionInfo ⟨device⟩) := by
  have hdevice := device_keeps hQ
  refine .bind hdevice.startAddress fun _ => .bind hdevice.size fun _ => ?_
  refine .bind hdevice.endAddress fun _ => .bind hdevice.pageSize fun _ => ?_
  exact .bind hdevice.eraseValue fun _ => .bind hdevice.size fun _ => .pure _

theorem openSession_keeps (slot : Nat) : Act.Keeps (Kept first Q) (openSession slot) := by
  have hopening : Act.Keeps (fun rig => Q rig.ctrl)
      (Act.noteWith .debug (Session.openingText device)) := .noteWith (device_keeps hQ).openingText
  have hstart : Attempt.Keeps (fun rig => Q rig.ctrl) (Session.start device) :=
    .bind device_init_keeps fun _ => .bind (.lift hopening) fun _ => .pure _
  refine .bind .state fun bench => .ite (fun _ => .pure _) fun _ => ?_
  refine .bind (onRig_keeps hstart) fun outcome => ?_
  cases outcome with
  | error error => exact .pure _
  | ok session => exact .bind (change_keeps fun _ => ⟨rfl, rfl, rfl, rfl⟩) fun _ => .pure _

theorem validatorEvent_keeps : Act.Keeps (Kept first Q) validatorEvent := by
  refine .bind .state fun bench => ?_
  cases bench.validator with
  | none => exact .pure _
  | some validator =>
      refine .bind (change_keeps fun _ => ⟨rfl, rfl, rfl, rfl⟩) fun _ => ?_
      refine .bind (onRig_keeps (onEvent_keeps hQ validator)) fun validator => ?_
      exact .bind (change_keeps fun _ => ⟨rfl, rfl, rfl, rfl⟩) fun _ => .pure _

theorem runValidator_keeps : Act.Keeps (Kept first Q) runValidator := by
  refine .bind .state fun bench => ?_
  cases bench.validator with
  | none => exact .pure _
  | some validator =>
      refine .bind (change_keeps fun _ => ⟨rfl, rfl, rfl, rfl⟩) fun _ => ?_
      exact rig_answer_keeps _ (run_keeps hQ validator)

/-- **One command,** whatever it is and however it ends. -/
theorem perform_keeps (command : Command) : Act.Keeps (Kept first Q) (perform command) := by
  have hdevice := device_keeps hQ
  have htimer := (minded hQ).timer
  cases command with
  | openSession slot => exact openSession_keeps hQ slot
  | freeSession slot =>
      rw [perform]
      exact closeSession_keeps slot (.bind (Session.free_keeps device_free_keeps) fun _ => .pure _)
  | dropSession slot =>
      rw [perform]
      exact closeSession_keeps slot (.bind (Session.drop_keeps device_free_keeps) fun _ => .pure _)
  | sessionInfo slot => exact withSession_keeps slot (sessionInfo_keeps hQ)
  | sessionSectorSize slot address =>
      rw [perform]
      exact withSession_keeps slot (.bind (hdevice.sectorSize address) fun _ => .pure _)
  | sessionErase slot address =>
      rw [perform]
      exact withSession_keeps slot (.bind (hdevice.sessionErase trivial) fun _ => .pure _)
  | sessionProgram slot address data =>
      rw [perform]
      exact withSession_keeps slot (.bind (hdevice.sessionProgram data trivial) fun _ => .pure _)
  | sessionRead slot address len =>
      rw [perform]
      exact withSession_keeps slot (.bind (hdevice.sessionRead address len) fun _ => .pure _)
  | deviceInit => exact rig_answer_keeps _ device_init_keeps
  | deviceFree => exact rig_answer_keeps _ device_free_keeps
  | deviceErase address => exact rig_answer_keeps _ (hdevice.eraseSector address trivial)
  | deviceProgram address data =>
      exact rig_answer_keeps _ (hdevice.programPage address data trivial)
  | deviceRead address len => exact rig_answer_keeps _ (hdevice.read address len)
  | distort distortion =>
      rw [perform]
      exact .bind (onRig_keeps (.change _ fun _ h => h)) fun _ => .pure _
  | writeControl value =>
      rw [perform]
      exact .bind (onRig_keeps (Rig.writeControl_keeps hQ.driven value)) fun _ => .pure _
  | writeStatus value => exact onCtrl_keeps hQ (.writeStatus value)
  | writeAddress value => exact onCtrl_keeps hQ (.writeAddress value)
  | writeBuffer data => exact onCtrl_keeps hQ (.writePageBuffer data)
  | poll ticks =>
      rw [perform]
      exact .bind (onRig_keeps (pollTimes_keeps hQ ticks)) fun _ => .pure _
  | directRead address len =>
      exact rig_answer_keeps (fun ctrl => .rawBytes (ctrl.directRead address len)) Rig.ctrlNow_keeps
  | dump => exact rig_answer_keeps (fun ctrl => .medium ctrl.medium) Rig.ctrlNow_keeps
  | lookUp address => exact onRig_keeps (lookUp_keeps address)
  | setStalled on => exact onCtrl_keeps hQ (.setStalled on)
  | setDropWrites on => exact onCtrl_keeps hQ (.setDropWrites on)
  | setFailInit on =>
      rw [perform]
      exact .bind (onRig_keeps (hQ.access_keeps (.setFailInit on))) fun _ => .pure _
  | setEraseClock hz => exact onCtrl_keeps hQ (.setEraseClock hz)
  | advanceCounter ticks =>
      rw [perform]
      exact onClocks_keeps _
  | readCounter => exact rig_answer_keeps (fun reading => .number reading.toNat) htimer.read
  | setCpuClock hz =>
      rw [perform]
      exact onClocks_keeps _
  | spin cycles =>
      rw [perform]
      exact .bind (onRig_keeps (htimer.spin cycles)) fun _ => .pure _
  | sample cycles =>
      exact onRig_keeps (.bind (htimer.sample cycles) fun sample =>
        .bind sample.elapsedMicros_keeps fun _ => .pure _)
  | measure cycles =>
      exact rig_answer_keeps _ (.bind (htimer.sample cycles) fun sample =>
        sample.elapsedMicros_keeps)
  | protect window => exact rig_answer_keeps _ (htimer.protect window)
  | checkGeometry => exact rig_answer_keeps _ hdevice.checkGeometry
  | walk limit =>
      rw [perform]
      have hbegin : Act.Keeps (fun rig => Q rig.ctrl) (SectorWalk.begin device) :=
        .bind hdevice.startAddress fun _ => .bind hdevice.size fun _ => .pure _
      exact .bind (onRig_keeps hbegin) fun walk => rig_answer_keeps _ (items_keeps hQ limit walk)
  | validate config => exact rig_answer_keeps _ (run_keeps hQ _)
  | newValidator config =>
      rw [perform]
      exact .bind dropValidator_keeps fun _ =>
        .bind (change_keeps fun _ => ⟨rfl, rfl, rfl, rfl⟩) fun _ => .pure _
  | validatorEvent => exact validatorEvent_keeps hQ
  | runValidator => exact runValidator_keeps hQ
  | dropValidator =>
      rw [perform]
      exact .bind dropValidator_keeps fun _ => .pure _
  | reopen => exact .pure _

/-- **A step** keeps what was fixed, and what no access breaks. -/
theorem step_kept (h : first.Kept Q bench) (command : Command) (record : Record) :
    first.Kept Q (bench.step command record).2.1 :=
  (perform_keeps hQ command).runOn
    { state := { bench with rig := { bench.rig with clocks := bench.rig.clocks.forgetReads } }
      log := record.log } ⟨h.setup, h.files, h.location, h.ctrl⟩

end Commands

/-! ## The way of a bench -/

/-- **An ended bench** leaves the files as they would be left if it had been ended without ceremony:
dropping what uses the part does not touch the part. -/
theorem files_finish (bench : Bench) (record : Record) :
    (bench.finish record).files = bench.finalFiles := by
  have hstart : bench.Kept (· = bench.rig.ctrl) bench := ⟨rfl, rfl, rfl, rfl⟩
  have hkept := release_keeps.runOn { state := bench, log := record.log } hstart
  show (release.runOn { state := bench, log := record.log }).2.state.finalFiles = _
  rw [finalFiles, finalFiles, hkept.ctrl, hkept.files, hkept.location]

/-- **A bench that comes up** does so around a part that was brought up. -/
theorem start_eq_some {setup : BenchSetup} {clocks : Clocks} {record after : Record}
    (h : start setup clocks record = (some bench, after)) :
    ∃ part next, (Controller.bringUp setup.layout setup.timing setup.backing).run.runOn
        { state := record.files, log := record.log } = (.ok (.ok part), next) ∧
      bench.setup = setup ∧ bench.files = next.state ∧ bench.location = part.location ∧
      bench.rig.ctrl = part.ctrl := by
  have hup : ∃ world, (bringUp setup clocks).run.runOn
      { state := record.files, log := record.log } = (.ok (.ok bench), world) := by
    unfold start at h
    rcases hrun : (bringUp setup clocks).run.runOn
      { state := record.files, log := record.log } with ⟨_ | _ | _, world⟩ <;>
      rw [hrun] at h <;> cases h
    exact ⟨world, rfl⟩
  obtain ⟨world, hup⟩ := hup
  obtain ⟨part, next, hpart, hup⟩ := Attempt.runOn_bind_eq_ok.mp hup
  obtain ⟨_, _, hfiles, hup⟩ := Attempt.runOn_bind_eq_ok.mp hup
  cases hfiles
  cases hup
  exact ⟨part, _, hpart, rfl, rfl, rfl, rfl⟩

/-- The benches on the way of a part: new ones, around the files that there are or around an image
that an ended bench left, and those after any command. -/
inductive Reached (setup : BenchSetup) (files : FileTree) : Bench → Prop
  | start {bench : Bench} {clocks : Clocks} {record after : Record} (hfiles : record.files = files)
      (h : Bench.start setup clocks record = (some bench, after)) : Reached setup files bench
  | step {bench : Bench} (h : Reached setup files bench) (command : Command) (record : Record) :
      Reached setup files (bench.step command record).2.1
  | reopen {bench next : Bench} {record after : Record} (h : Reached setup files bench)
      (hnext : Bench.start bench.setup bench.rig.clocks (bench.finish record) = (some next, after)) :
      Reached setup files next

variable {setup : BenchSetup} {files : FileTree}

/-- **What every new part has and no access breaks** a part has on its whole way. -/
theorem Reached.stable (h : Reached setup files bench) (hQ : Controller.Stable Q)
    (hnew : ∀ {world next : World FileTree} {part : OpenedPart},
      (Controller.bringUp setup.layout setup.timing setup.backing).run.runOn world =
        (.ok (.ok part), next) → Q part.ctrl) : bench.setup = setup ∧ Q bench.rig.ctrl := by
  induction h with
  | start hfiles hstart =>
      obtain ⟨part, next, hpart, hsetup, _, _, hctrl⟩ := start_eq_some hstart
      exact ⟨hsetup, hctrl ▸ hnew hpart⟩
  | step h command record ih =>
      have hkept := step_kept hQ ⟨rfl, rfl, rfl, ih.2⟩ command record
      exact ⟨hkept.setup.trans ih.1, hkept.ctrl⟩
  | reopen h hnext ih =>
      obtain ⟨part, next, hpart, hsetup, _, _, hctrl⟩ := start_eq_some hnext
      rw [ih.1] at hpart hsetup
      exact ⟨hsetup, hctrl ▸ hnew hpart⟩

theorem Reached.sound (h : Reached setup files bench) :
    bench.rig.ctrl.Sound setup.layout :=
  (h.stable (Controller.sound_stable _) fun hnew => (Controller.bringUp_sound hnew).1).2

end FlashBench.Bench
