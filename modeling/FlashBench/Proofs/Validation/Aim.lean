import FlashBench.Proofs.Device.Traced
import FlashBench.Proofs.Geometry.Window
import FlashBench.Proofs.Part.FlashArray
import FlashBench.Proofs.Validation.Steps

/-!
# Where the program step aims

The geometry check asks for the size of each sector at its first and at its last byte. The program
step asks at the target page, which lies anywhere in its sector, and takes the answer as it is: it
aligns the page down to it (`Geometry.aim`). So whatever a device answers there, that is the sector
the step erases and remembers, and it is the sector of the walk exactly if the device answers its
size (`Validator.program_aims`). A device that passes the check may still answer something else, and
have another sector erased (`Validator.program_erases_another_sector`).
-/

namespace FlashBench

variable {σ : Type} {g : Geometry}

/-! ## The target page and its sector -/

namespace Geometry

/-- The target that the program step makes of a page. -/
def aim (g : Geometry) (page : Nat) : ProgramTarget where
  address := Word.low32 page
  sector := alignDown (Word.low32 page) (g.sectorSize (Word.low32 page))
  sectorSize := g.sectorSize (Word.low32 page)

/-- A tiled window has a target page, which is one of its pages. -/
theorem Tiled.exists_targetPage {sectors : List Sector} (h : g.Tiled sectors) :
    ∃ page, Validator.targetPage? g.start.toNat g.stop g.pageSize.toNat = some page ∧
      g.start.toNat ≤ page ∧ page + g.pageSize.toNat ≤ g.stop ∧ g.pageSize.toNat ∣ page := by
  have hpage := h.page_le
  unfold Validator.targetPage?
  by_cases htwo : g.start.toNat + 2 * g.pageSize.toNat ≤ g.stop
  · rw [if_pos htwo]
    exact ⟨_, rfl, by omega, by omega, Nat.dvd_sub h.dvd_stop (Nat.dvd_mul_left _ _)⟩
  · rw [if_neg htwo, if_pos hpage]
    exact ⟨_, rfl, by omega, by omega, Nat.dvd_sub h.dvd_stop (Nat.dvd_refl _)⟩

/-- The whole page lies in one sector. -/
theorem Tiled.exists_sector {sectors : List Sector} (h : g.Tiled sectors) {page : Nat}
    (hfirst : g.start.toNat ≤ page) (hlast : page + g.pageSize.toNat ≤ g.stop)
    (hpage : g.pageSize.toNat ∣ page) :
    ∃ sector ∈ sectors, sector.start.toNat ≤ page ∧ page + g.pageSize.toNat ≤ sector.stop := by
  have hpaged := h.pageSize
  obtain ⟨sector, hmem, hstart, hstop⟩ := h.abut.exists_covers hfirst (by omega)
  have hle := Nat.le_of_dvd (by omega) (Nat.dvd_sub (h.admits sector hmem).dvd_stop hpage)
  exact ⟨sector, hmem, hstart, by omega⟩

/-- **The aim is a sector of the walk** exactly if the device answers the size of that sector for
the page. -/
theorem Admits.aim_iff {sector : Sector} (h : g.Admits sector) {page : Nat}
    (hcovers : sector.Covers page) (hpage : page < Word.span32) :
    (g.aim page).sector = sector.start ∧ (g.aim page).sectorSize = sector.size ↔
      g.sectorSize (Word.low32 page) = sector.size := by
  refine ⟨And.right, fun hsize => ⟨?_, hsize⟩⟩
  have hword : sector.Covers (Word.low32 page).toNat := by
    rwa [Word.low32, Word.toNat_ofNat_of_lt hpage]
  show alignDown _ (g.sectorSize (Word.low32 page)) = _
  rw [hsize]
  exact hword.alignDown_eq h.nonempty h.aligned

end Geometry

/-! ## Erases in a trace -/

namespace DeviceCall

/-- The address at which the call erases. -/
def erased? : DeviceCall → Option UInt32
  | erase address => some address
  | _ => none

/-- What was called after `before` erased nothing but `sector`. -/
def ErasesAt (sector : UInt32) (before calls : List DeviceCall) : Prop :=
  ∃ issued, calls = before ++ issued ∧ ∀ call ∈ issued, ∀ address, call.erased? = some address →
    address = sector

variable {sector : UInt32} {before calls : List DeviceCall} {call : DeviceCall}

theorem ErasesAt.refl (sector : UInt32) (before : List DeviceCall) :
    ErasesAt sector before before :=
  ⟨[], (List.append_nil _).symm, nofun⟩

theorem ErasesAt.push (h : ErasesAt sector before calls)
    (hcall : ∀ address, call.erased? = some address → address = sector) :
    ErasesAt sector before (calls ++ [call]) := by
  obtain ⟨issued, rfl, hissued⟩ := h
  refine ⟨issued ++ [call], List.append_assoc _ _ _, fun other hmem => ?_⟩
  rcases List.mem_append.mp hmem with hold | hnew
  · exact hissued other hold
  · rw [List.mem_singleton.mp hnew]
    exact hcall

/-- Uses at one address erase nothing else. -/
theorem IsUseAt.erased (h : call.IsUseAt (· = sector)) (address : UInt32)
    (herase : call.erased? = some address) : address = sector := by
  cases call with
  | erase other => exact Option.some.inj herase ▸ h
  | init | free | program | read | question => cases herase

end DeviceCall

/-! ## Devices that answer for their geometry -/

section Devices

variable {inv : σ → Prop} {T : List DeviceCall → Prop} {device : Device σ} {timer : CycleTimer σ}

theorem Act.traced_ends {α : Type} {act : Act σ α} {a : α} {call : DeviceCall}
    (h : Act.Ends inv act a inv) (hcall : ∀ calls, T calls → T (calls ++ [call])) :
    Act.Ends (fun traced => inv traced.hardware ∧ T traced.calls) (act.traced call) a
      fun traced => inv traced.hardware ∧ T traced.calls := by
  have hleads : Act.Leads inv act (fun b s => b = a ∧ inv s) fun _ _ => False := .of_ends h
  exact .of_leads ((Act.traced_leads hleads hcall).mono (fun _ hs => hs)
    (fun _ _ hs => ⟨hs.1.1, hs.1.2, hs.2⟩) fun _ _ hs => hs.1)

/-- The trace shows the questions about the geometry, and the answers are the same. -/
theorem Device.Reports.traced (h : device.Reports inv g)
    (hquestion : ∀ calls, T calls → T (calls ++ [.question])) :
    device.traced.Reports (fun traced => inv traced.hardware ∧ T traced.calls) g where
  pageSize := Act.traced_ends h.pageSize hquestion
  startAddress := Act.traced_ends h.startAddress hquestion
  size := Act.traced_ends h.size hquestion
  sectorSize := fun address => Act.traced_ends (h.sectorSize address) hquestion

theorem Attempt.answered_keeps {call : Except FlashError Unit → DeviceCall}
    {attempt : Attempt FlashError σ Unit} (h : Attempt.Keeps inv attempt)
    (hcall : ∀ calls answer, T calls → T (calls ++ [call answer])) :
    Attempt.Keeps (fun traced => inv traced.hardware ∧ T traced.calls) (attempt.answered call) :=
  .of_leads (Attempt.answered_leads h.leads (fun calls => hcall calls _)
    fun calls error => hcall calls (.error error))

/-- A trace may be kept next to all that the device and the timer keep. -/
theorem Validator.Minded.traced {allowed : UInt32 → Prop} (h : Minded inv allowed device timer)
    (hcall : ∀ calls call, T calls → T (calls ++ [call])) :
    Minded (fun traced => inv traced.hardware ∧ T traced.calls) allowed device.traced
      timer.traced where
  calls := Device.traced_keeps h.calls fun calls call _ => hcall calls call
  init := Attempt.answered_keeps h.init fun calls _ => hcall calls _
  free := Attempt.answered_keeps h.free fun calls _ => hcall calls _
  timer := CycleTimer.traced_keeps h.timer

end Devices

/-! ## The program step -/

namespace Validator

section Step

variable {inv : σ → Prop} {device : Device σ} {timer : CycleTimer σ} {page : Nat}
  (hreports : device.Reports inv g)
  (hpage : targetPage? g.start.toNat g.stop g.pageSize.toNat = some page)
  (h : device.Keeps inv (· = (g.aim page).sector))
  (hprogram : ∀ data, Attempt.Keeps inv (device.programPage (g.aim page).address data))

include hreports hpage h hprogram

/-- The step remembers its aim, if it comes to program anything, and touches nothing else. -/
theorem programTarget_aims (config : ValidatorConfig) :
    Attempt.Leads inv (programTarget device ⟨device⟩ config)
      (fun result s => (∀ target, result.2 = some target → target = g.aim page) ∧ inv s)
      (fun _ => inv) fun _ => inv := by
  have hstop : Act.Ends inv (Session.endAddress ⟨device⟩) g.stop inv :=
    Session.endAddress_ends hreports
  have hpattern := fun pattern => (programPattern_keeps h rfl hprogram g.pageSize pattern).leads
  unfold programTarget
  refine .bind (.lift h.eraseValue) fun _ => ?_
  refine .ite (fun _ => ?_) fun _ => .bind_throw _ fun _ hs => hs
  refine .bind_ends (.lift hreports.pageSize) (.bind_ends (.lift hreports.startAddress) ?_)
  refine .bind_ends (.lift hstop) ?_
  rw [hpage]
  refine .bind_ends (.lift (hreports.sectorSize _)) ?_
  refine .ite (fun _ => .pure _ fun _ hs => ⟨nofun, hs⟩) fun _ => ?_
  refine .bind (hpattern config.firstPattern) fun _ => ?_
  refine .bind (hpattern config.secondPattern) fun _ => .pure _ fun _ hs => ⟨?_, hs⟩
  rintro target heq
  exact (Option.some.inj heq).symm

/-- **The event of the program step.** -/
theorem onEvent_aims (hfree : Attempt.Keeps inv device.free) {v : Validator}
    (hstate : v.state = .at .program) (huntargeted : v.target = none) :
    Act.Leads inv (v.onEvent device timer)
      (fun next s => (∀ target, next.target = some target → target = g.aim page) ∧ inv s)
      fun _ => inv := by
  have hstep := programStep_leads (E := fun _ => inv) (fun _ _ hs => hs)
    (fun _ => Session.drop_keeps hfree) (programTarget_aims hreports hpage h hprogram v.config)
  refine onEvent_leads (E := fun _ next s => next.target = none ∧ inv s) hstate
    (hstep.post fun result s hs => ?_) fun _ next => .of_and fun hnone => ?_
  · rcases result with ⟨error | outcome, next⟩
    · obtain ⟨rfl, hs⟩ := hs
      exact ⟨huntargeted, hs⟩
    · obtain ⟨target, rfl, haims, hs⟩ := hs
      exact ⟨haims, hs⟩
  · have hdrop : Act.Keeps inv (next.drop device) :=
      .ite (fun _ => Session.drop_keeps hfree) fun _ => .pure _
    refine hdrop.post fun _ s hs => ⟨fun target heq => ?_, hs⟩
    rw [show (next.halted _ _).target = next.target from rfl, hnone] at heq
    cases heq

end Step

/-! ## The steps before it -/

/-- Up to the program step nothing is remembered to be verified, and once the geometry check has
passed, the walk over the window does. -/
def Surveyed (g : Geometry) (v : Validator) : Prop :=
  match v.state with
  | .at .init | .at .geometryCheck => v.target = none
  | .at .erase | .at .program => v.target = none ∧ ∃ sectors, g.Walked sectors
  | _ => True

/-- A step that passes on whatever agrees with what it carries over. -/
theorem perform_advances {inv : σ → Prop} {device : Device σ} {timer : CycleTimer σ}
    (h : Minded inv (fun _ => True) device timer) {v : Validator} {step : Step}
    {N : Validator → Prop}
    (hnext : ∀ next, Carries step v next → ∀ outcome, N (next.advanced step outcome)) :
    Act.Leads inv (v.perform device timer step)
      (fun result s => match result.1 with
        | .ok outcome => N (result.2.advanced step outcome) ∧ inv s
        | .error _ => inv s) fun _ => inv := by
  refine (perform_keeps h (fun _ _ => trivial) step).post fun result s ⟨hcarries, hs⟩ => ?_
  rcases result with ⟨error | outcome, next⟩
  · exact hs
  · exact ⟨hnext next hcarries outcome, hs⟩

section Run

variable {inv : σ → Prop} {device : Device σ} {timer : CycleTimer σ}
  (hreports : device.Reports inv g)

include hreports

/-- A check that passes has walked the window. -/
theorem checkGeometry_walks :
    Attempt.Leads inv (checkGeometry device) (fun _ s => (∃ sectors, g.Walked sectors) ∧ inv s)
      (fun _ => inv) fun _ => inv := by
  obtain ⟨outcome, hends, hiff⟩ := checkGeometry_outcome hreports
  refine (Attempt.Leads.of_ends hends).mono (fun _ hs => hs) (fun report s ⟨hpassed, hs⟩ => ?_)
    (fun _ _ hs => hs.2) fun _ _ hs => hs
  obtain ⟨sectors, hwalked, _⟩ := (hiff report).mp hpassed
  exact ⟨⟨sectors, hwalked⟩, hs⟩

variable (h : Minded inv (fun _ => True) device timer)

include h

/-- Each step passes this on to the next one. -/
theorem perform_surveys {v : Validator} (hsurveyed : v.Surveyed g) {step : Step}
    (hstate : v.state = .at step) :
    Act.Leads inv (v.perform device timer step)
      (fun result s => match result.1 with
        | .ok outcome => (result.2.advanced step outcome).Surveyed g ∧ inv s
        | .error _ => inv s) fun _ => inv := by
  unfold Surveyed at hsurveyed
  rw [hstate] at hsurveyed
  cases step with
  | init => exact perform_advances h fun next hcarries _ => (hcarries.target nofun).trans hsurveyed
  | geometryCheck =>
      refine (geometryStep_leads (E := fun _ => inv) (fun _ _ hs => hs)
        (fun _ => Session.drop_keeps h.free) (checkGeometry_walks hreports)).post ?_
      intro result s hs
      rcases result with ⟨error | outcome, next⟩
      · exact hs.2
      · obtain ⟨_, ⟨report, rfl⟩, hwalked, hs⟩ := hs
        exact ⟨⟨hsurveyed, hwalked⟩, hs⟩
  | erase =>
      exact perform_advances h fun next hcarries _ =>
        ⟨(hcarries.target nofun).trans hsurveyed.1, hsurveyed.2⟩
  | program | verify | driftCheck => exact perform_advances h fun _ _ _ => trivial

/-- **One event.** A run that fails is past all this. -/
theorem onEvent_surveys (v : Validator) :
    Act.Leads (fun s => v.Surveyed g ∧ inv s) (v.onEvent device timer)
      (fun next s => next.Surveyed g ∧ inv s) fun _ _ => True := by
  refine .of_and fun hsurveyed => .unless_fault (S := fun _ => inv) ?_
  refine onEvent_by_step (fun step hstate => ?_) fun _ _ hs => ⟨hsurveyed, hs⟩
  refine onEvent_leads (E := fun _ _ => inv) hstate (perform_surveys hreports h hsurveyed hstate)
    fun error next => ?_
  have hdrop : Act.Keeps inv (next.drop device) := drop_keeps h
  exact hdrop.post fun _ _ hs => ⟨trivial, hs⟩

/-- The event of the program step, with the trace next to the hardware. -/
theorem onEvent_traced {page : Nat}
    (hpage : targetPage? g.start.toNat g.stop g.pageSize.toNat = some page) {v : Validator}
    (hstate : v.state = .at .program) (huntargeted : v.target = none) (before : List DeviceCall) :
    Act.Leads
      (fun traced => inv traced.hardware ∧
        DeviceCall.ErasesAt (g.aim page).sector before traced.calls)
      (v.onEvent device.traced timer.traced)
      (fun next traced => (∀ target, next.target = some target → target = g.aim page) ∧
        inv traced.hardware ∧ DeviceCall.ErasesAt (g.aim page).sector before traced.calls)
      fun _ traced => inv traced.hardware ∧
        DeviceCall.ErasesAt (g.aim page).sector before traced.calls := by
  have hcalls : device.Keeps inv (· = (g.aim page).sector) := h.calls.mono fun _ _ => trivial
  have huses := Device.traced_keeps_at (T := DeviceCall.ErasesAt (g.aim page).sector before) hcalls
    fun _ _ hat herases => herases.push hat.erased
  have hprograms (data : ByteArray) :
      Attempt.Keeps _ (device.traced.programPage (g.aim page).address data) :=
    Act.traced_keeps (T := DeviceCall.ErasesAt (g.aim page).sector before)
      (h.calls.programPage _ data trivial) fun _ herases => herases.push nofun
  exact onEvent_aims (hreports.traced fun _ herases => herases.push nofun) hpage huses hprograms
    (Attempt.answered_keeps h.free fun _ _ herases => herases.push nofun) hstate huntargeted

/-- **The program step works on its aim.** When a run comes to the program step, its geometry check
has walked the window, and one of the sectors of the walk holds the whole target page. The step
erases nothing but the sector that it aims at, which is the one it remembers; and that is the sector
of the page exactly if the device answers the size of that sector at the page. -/
theorem program_aims (hstop : g.stop ≤ Word.span32) (config : ValidatorConfig) (events : Nat)
    {hardware : σ} (hhardware : inv hardware) (log : Log) {reached : Validator}
    {now last : World (Traced σ)} {result : Except Fault Validator}
    (hevents : (afterEvents device.traced timer.traced events { config }).runOn
      { state := { hardware }, log } = (.ok reached, now))
    (hprogram : reached.state = .at .program)
    (hevent : (reached.onEvent device.traced timer.traced).runOn now = (result, last)) :
    ∃ sectors page sector, g.Walked sectors ∧
      targetPage? g.start.toNat g.stop g.pageSize.toNat = some page ∧ sector ∈ sectors ∧
      sector.start.toNat ≤ page ∧ page + g.pageSize.toNat ≤ sector.stop ∧
      DeviceCall.ErasesAt (g.aim page).sector now.state.calls last.state.calls ∧
      (∀ next target, result = .ok next → next.target = some target → target = g.aim page) ∧
      ((g.aim page).sector = sector.start ∧ (g.aim page).sectorSize = sector.size ↔
        g.sectorSize (Word.low32 page) = sector.size) := by
  -- up to the program step nothing has to be known of the trace
  have hreported := hreports.traced (T := fun _ => True) fun _ _ => trivial
  have hminded := h.traced (T := fun _ => True) fun _ _ _ => trivial
  have hsurveys := afterEvents_leads (onEvent_surveys hreported hminded) events { config }
    { state := { hardware }, log } ⟨rfl, hhardware, trivial⟩
  rw [hevents] at hsurveys
  obtain ⟨hsurveyed, hnow, -⟩ := hsurveys
  unfold Surveyed at hsurveyed
  rw [hprogram] at hsurveyed
  obtain ⟨huntargeted, sectors, hwalked⟩ := hsurveyed
  have htiled := hwalked.tiled hstop
  have hpaged := htiled.pageSize
  obtain ⟨page, hpage, hfirst, hlast, hdvd⟩ := htiled.exists_targetPage
  obtain ⟨sector, hmem, hstart, hend⟩ := htiled.exists_sector hfirst hlast hdvd
  have hcovers : sector.Covers page := ⟨hstart, by omega⟩
  -- from here on the trace is compared with what it is now
  have haims := onEvent_traced hreports h hpage hprogram huntargeted now.state.calls now
    ⟨hnow, .refl _ _⟩
  rw [hevent] at haims
  have hiff := (htiled.admits sector hmem).aim_iff hcovers (by omega)
  refine ⟨sectors, page, sector, hwalked, hpage, hmem, hstart, hend, ?_, ?_, hiff⟩
  · cases result with
    | error fault => exact haims.2
    | ok next => exact haims.2.2
  · rintro next target rfl htarget
    exact haims.1 target htarget

end Run

end Validator

/-! ## Devices that answer as they like -/

/-- The device with geometry answers of its own. -/
def Device.answering (device : Device σ) (g : Geometry) : Device σ :=
  { device with
    pageSize := return g.pageSize
    startAddress := return g.start
    size := return g.size
    sectorSize := fun address => return g.sectorSize address }

theorem Device.answering_reports (device : Device σ) (g : Geometry) :
    (device.answering g).Reports (fun _ => True) g where
  pageSize := .pure _
  startAddress := .pure _
  size := .pure _
  sectorSize := fun _ => .pure _

theorem Validator.minded_const (device : Device σ) (timer : CycleTimer σ) :
    Minded (fun _ => True) (fun _ => True) device timer where
  calls := device.keeps_const
  init := Act.Keeps.const _ _
  free := Act.Keeps.const _ _
  timer := timer.keeps_const

/-- The driver of a part, with the answers of a table. -/
def SectorTable.driver (table : SectorTable) : Device Rig := Rig.device.answering table.geometry

/-- The sectors of the small part. -/
def smallTable : SectorTable where
  start := 0x1000
  size := 32
  pageSize := 4
  entries := [⟨0x1000, 0x100F, 8⟩, ⟨0x1010, 0x101F, 16⟩]

/-- The same, but for the answer at the target page. -/
def askewTable : SectorTable :=
  { smallTable with entries := ⟨0x1018, 0x1018, 32⟩ :: smallTable.entries }

namespace Validator

/-- The first events of a run on the small part, with the answers of a table. -/
def smallEvents (table : SectorTable) (config : ValidatorConfig) (events : Nat) :
    Act (Traced Rig) Validator :=
  afterEvents table.driver.traced (CycleTimer.standing 32 0).traced events { config }

theorem smallEvents_succ (table : SectorTable) (config : ValidatorConfig) (events : Nat) :
    smallEvents table config (events + 1) = smallEvents table config events >>= fun reached =>
      reached.onEvent table.driver.traced (CycleTimer.standing 32 0).traced :=
  afterEvents_succ _ _

theorem program_aims_smallTable :
    ∃ reached now next last,
      (smallEvents smallTable {} 3).runOn { state := { hardware := smallRig } } =
        (.ok reached, now) ∧
      reached.state = .at .program ∧
      (reached.onEvent smallTable.driver.traced (CycleTimer.standing 32 0).traced).runOn now =
        (.ok next, last) ∧
      DeviceCall.ErasesAt 0x1010 now.state.calls last.state.calls ∧
      next.target = some ⟨0x1018, 0x1010, 16⟩ := by
  have hcomes : ((smallEvents smallTable {} 3).runOn
      { state := { hardware := smallRig } }).1.toOption.map (·.state) = some (.at .program) := by
    decide +kernel
  have hprograms : ((smallEvents smallTable {} (3 + 1)).runOn
      { state := { hardware := smallRig } }).1.toOption.map (·.target) =
        some (some ⟨0x1018, 0x1010, 16⟩) := by
    decide +kernel
  obtain ⟨reached, now, hreached, hstate⟩ := Act.runOn_of_map hcomes
  obtain ⟨next, last, hnext, htarget⟩ := Act.runOn_of_map hprograms
  rw [smallEvents_succ, Act.runOn_bind, hreached] at hnext
  obtain ⟨_, page, _, _, hpage, _, _, _, herases, _, _⟩ :=
    program_aims (Rig.device.answering_reports smallTable.geometry) (minded_const _ _) (by decide)
      {} 3 trivial {} hreached hstate hnext
  -- the page is the one at 0x1018
  have hwhich : targetPage? smallTable.geometry.start.toNat smallTable.geometry.stop
      smallTable.geometry.pageSize.toNat = some 0x1018 := by decide
  obtain rfl : page = 0x1018 := Option.some.inj (hpage.symm.trans hwhich)
  exact ⟨reached, now, next, last, hreached, hstate, hnext, herases, htarget⟩

/-- **Another sector is erased.** The target page at 0x1018 lies in the sector at 0x1010, and the
sector at 0x1000 is erased for it. -/
theorem program_erases_another_sector :
    askewTable.geometry.stop ≤ Word.span32 ∧
      askewTable.driver.Reports (fun _ => True) askewTable.geometry ∧
      askewTable.geometry.Walked [⟨0x1000, 8⟩, ⟨0x1008, 8⟩, ⟨0x1010, 16⟩] ∧
      Sector.Covers ⟨0x1010, 16⟩ 0x1018 ∧
      ∃ reached now next last,
        (smallEvents askewTable { firstPattern := 0xFE, secondPattern := 0xFC } 3).runOn
          { state := { hardware := smallRig } } = (.ok reached, now) ∧
        reached.outcomes = [(.init, .passed), (.geometryCheck, .passed), (.erase, .passed)] ∧
        (reached.onEvent askewTable.driver.traced (CycleTimer.standing 32 0).traced).runOn now =
          (.ok next, last) ∧
        last.state.calls.filterMap DeviceCall.erased? = [0x1010, 0x1000, 0x1000] ∧
        next.target = some ⟨0x1018, 0x1000, 32⟩ := by
  have hstop : askewTable.geometry.stop ≤ Word.span32 := by decide
  have htiled : askewTable.geometry.Tiled [⟨0x1000, 8⟩, ⟨0x1008, 8⟩, ⟨0x1010, 16⟩] :=
    { pageSize := by decide
      size := by decide
      abut := by decide
      admits := by decide
      fenced := ⟨fun _ => by decide, fun _ => by decide⟩ }
  have hcomes : ((smallEvents askewTable { firstPattern := 0xFE, secondPattern := 0xFC } 3).runOn
      { state := { hardware := smallRig } }).1.toOption.map (·.outcomes) =
        some [(.init, .passed), (.geometryCheck, .passed), (.erase, .passed)] := by
    decide +kernel
  have hprograms : ((smallEvents askewTable { firstPattern := 0xFE, secondPattern := 0xFC }
      (3 + 1)).runOn { state := { hardware := smallRig } }).1.toOption.map (·.target) =
        some (some ⟨0x1018, 0x1000, 32⟩) := by
    decide +kernel
  have herases : ((smallEvents askewTable { firstPattern := 0xFE, secondPattern := 0xFC }
      (3 + 1)).runOn { state := { hardware := smallRig } }).2.state.calls.filterMap
        DeviceCall.erased? = [0x1010, 0x1000, 0x1000] := by
    decide +kernel
  obtain ⟨reached, now, hreached, houtcomes⟩ := Act.runOn_of_map hcomes
  obtain ⟨next, last, hnext, htarget⟩ := Act.runOn_of_map hprograms
  rw [hnext] at herases
  rw [smallEvents_succ, Act.runOn_bind, hreached] at hnext
  exact ⟨hstop, Rig.device.answering_reports _, htiled.walked hstop, by decide, reached, now, next,
    last, hreached, houtcomes, hnext, herases, htarget⟩

end Validator

end FlashBench
