import FlashBench.CommandLine.Program
import FlashBench.Proofs.Part.Creation
import FlashBench.Proofs.Part.FlashArray
import FlashBench.Proofs.Part.Twins
import FlashBench.Proofs.Validation.Oblivious

/-!
# Reports do not depend on old contents

A scenario that keeps its part in a file finds there whatever was left: nothing, a part of an image,
the image of another scenario, or any bytes at all. Its report does not tell.

* **Two runs of one scenario** that find different files answer the same (`Scenario.run_answers`):
  their parts are new ones of one layout, so nothing is known of them but what the run itself has
  erased, and nothing else is looked at.
* **A run of the program** is put together from what became of its scenarios one after the other
  (`Program.runAll_eq`). None of them keeps the file of another from being opened
  (`Scenario.run_ready`), so each comes to what it would come to alone (`Program.outcome_of_legs`).
-/

namespace FlashBench

namespace Rig

variable {layout : FlashLayout}

/-- **The part of a rig** can be erased. -/
theorem device_erasable (hlayout : layout.validate = .ok (.ok ())) :
    device.Erasable layout (fun rig => rig.ctrl.On layout) (Twins layout) where
  each := fun _ _ _ htwins => htwins.ctrl.on
  asks := fun _ => device_agrees fun _ _ htwins => htwins.mono fun _ hnone => hnone.elim
  init := init_agrees fun _ _ htwins => htwins
  free := free_agrees fun _ _ htwins => htwins
  erase := fun _ hmem => erase_agrees hlayout hmem fun _ _ htwins => htwins
  program := fun _ _ _ => programPage_agrees
    (fun _ _ htwins => htwins.mono fun _ hnone => hnone.elim) _ _
  read := fun _ _ _ hfirst hlast hknown => read_agrees hfirst hlast hknown

end Rig

namespace Scenario

variable {scenario : Scenario} {env : RunEnv}

/-- New parts of one layout are twins, whatever they hold. -/
theorem rig_twins {layout : FlashLayout} {map : SectorMap} {capacity : Nat}
    (hmap : layout.sectorMap = .ok map) (hcapacity : layout.capacity = .ok capacity)
    (timing : FlashTiming) (one other : Option ByteArray) :
    let ctrlOf := fun image : Option ByteArray => Controller.create layout map capacity timing
      (image.map (Controller.preparedImage capacity layout.eraseValue))
    Unread (Rig.Twins layout) (scenario.rig env (ctrlOf one)) (scenario.rig env (ctrlOf other)) := by
  intro ctrlOf
  have hon : ∀ image, (scenario.rig env (ctrlOf image)).ctrl.On layout := fun image =>
    let hcreated := Controller.create_on hmap hcapacity timing image
    ⟨hcreated.layout_eq, hcreated.sectorMap, hcreated.capacity, hcreated.pageBuffer,
      hcreated.medium⟩
  exact ⟨rfl, rfl, _, _, Controller.holds_loaded (hon one), Controller.holds_loaded (hon other),
    fun _ hnone => hnone.elim⟩

/-- **The validation run** of a scenario is the same on twins. -/
theorem validate_agrees (hlayout : scenario.layout.validate = .ok (.ok ()))
    (hemulated : env.hostTiming = false) :
    Act.Agrees (Unread (Rig.Twins scenario.layout)) (scenario.validate env)
      (fun _ => Unread (Rig.Twins scenario.layout)) (Unread (Rig.Twins scenario.layout)) := by
  have hsame : ∀ left right, Unread (Rig.Twins scenario.layout) left right →
    Unread (Rig.Twins scenario.layout) left right := fun _ _ htwins => htwins
  obtain ⟨g, hcharts, hanswers⟩ := Rig.device_answers hlayout
  obtain ⟨last, hlast⟩ := hcharts.exists_last
  obtain ⟨target, htarget⟩ := hcharts.exists_target
  have hrun := Validator.run_agrees (Rig.device_erasable hlayout) hcharts
    (hanswers _ fun _ hon => hon) hlast htarget (Rig.timer_agrees enoughReads hsame)
    scenario.validator
  have htimer : timer env = Rig.timer enoughReads := by rw [timer, hemulated]; rfl
  unfold validate
  rw [hemulated, htimer]
  refine .bind (.noteWith ((Act.Agrees.checked _ hsame).bind fun _ => .same _)) fun _ => ?_
  exact .ite (fun hignored => absurd hignored.1 Bool.false_ne_true) fun _ => hrun

/-- The answer of a scenario whose part came up is the one of its validation run. -/
theorem run_of_bringUp {world next : World FileTree} {part : OpenedPart}
    (hup : (Controller.bringUp scenario.layout scenario.timing (scenario.imagePath env)).run.runOn
      world = (.ok (.ok part), next)) :
    ((scenario.run env).run.runOn world).1 =
      ((scenario.validate env).runOn ⟨scenario.rig env part.ctrl, next.log⟩).1.map .ok := by
  have hnamed : (ExceptT.run (Attempt.withError (SetupError.mk scenario.name)
      (Controller.bringUp scenario.layout scenario.timing (scenario.imagePath env)))).runOn world =
        (.ok (.ok part), next) := by
    refine (Act.runOn_map _ _ world).trans ?_
    rw [hup]
    rfl
  unfold run
  rw [ExceptT.run_bind, Act.runOn_bind, hnamed]
  exact congrArg Prod.fst (Act.runOn_map Except.ok (Act.within (scenario.rig env part.ctrl)
    (scenario.validate env) fun rig files => rig.ctrl.saveImage part.location files) next)

/-- A layout that is refused is refused before any file is looked at. -/
theorem run_of_refused (hlayout : scenario.layout.validate ≠ .ok (.ok ()))
    (left right : World FileTree) :
    ((scenario.run env).run.runOn left).1 = ((scenario.run env).run.runOn right).1 := by
  unfold run Controller.bringUp
  rcases hverdict : scenario.layout.validate with fault | error | accepted
  · rfl
  · rfl
  · exact absurd hverdict hlayout

/-- The file of the image, if there is to be one, can be opened. -/
def Opens (scenario : Scenario) (env : RunEnv) (files : FileTree) : Prop :=
  ∀ path, scenario.imagePath env = some path → ∃ found, files.openOrCreate path = .ok found

/-- **What is in the file of a scenario** makes no difference to what running it comes to. -/
theorem run_answers (hemulated : env.hostTiming = false) {left right : World FileTree}
    (hlevel : left.log.level = right.log.level) (hleft : scenario.Opens env left.state)
    (hright : scenario.Opens env right.state) :
    ((scenario.run env).run.runOn left).1 = ((scenario.run env).run.runOn right).1 := by
  by_cases hlayout : scenario.layout.validate = .ok (.ok ())
  · obtain ⟨map, hmap, _⟩ := Word.bind_eq_ok_iff.mp hlayout
    have hcapacity := FlashLayout.capacity_of_sectorMap hmap
    obtain ⟨one, nextLeft, hone, honeLevel, image, hctrl⟩ :=
      Controller.bringUp_runOn hlayout hmap hcapacity hleft
    obtain ⟨other, nextRight, hother, hotherLevel, image', hctrl'⟩ :=
      Controller.bringUp_runOn hlayout hmap hcapacity hright
    rw [run_of_bringUp hone, run_of_bringUp hother]
    refine congrArg _ ((validate_agrees hlayout hemulated).answers ⟨?_, ?_⟩)
    · show Unread _ (scenario.rig env one.ctrl) (scenario.rig env other.ctrl)
      rw [hctrl, hctrl']
      exact rig_twins hmap hcapacity scenario.timing image image'
    · exact honeLevel.trans (hlevel.trans hotherLevel.symm)
  · exact run_of_refused hlayout left right

/-- **Running a scenario** keeps no file from being opened. -/
theorem run_ready (scenario : Scenario) (env : RunEnv) (path : String) :
    Attempt.Keeps (FileTree.Ready · path) (scenario.run env) := by
  refine .of_leads (.bind ((Controller.bringUp_ready _ _ _).withError fun _ _ hready => hready)
    fun part => .lift ?_)
  exact .within fun rig files ⟨hready, hopen⟩ => Controller.saveImage_ready hready hopen

end Scenario

/-! ## A run of the program -/

namespace Program

/-- What became of one scenario of a run, and the world that it left. -/
structure Leg where
  scenario : Scenario
  outcome : Except Fault (Except SetupError ValidationReport)
  last : World FileTree

/-- The world that a scenario of a run starts in. -/
def start (arguments : Arguments) (files : FileTree) : World FileTree :=
  { state := files, log := { level := arguments.logLevel } }

/-- What became of scenarios that were run one after the other: of all of them, or of those up to
the first fault. -/
def legs (arguments : Arguments) (files : FileTree) : List Scenario → List Leg
  | [] => []
  | scenario :: rest =>
    match (scenario.run arguments.env).run.runOn (start arguments files) with
    | (.error fault, last) => [⟨scenario, .error fault, last⟩]
    | (.ok result, last) => ⟨scenario, .ok result, last⟩ :: legs arguments last.state rest

/-- Scenarios are run in order, and none is left out before the last that is run. -/
theorem legs_inOrder (arguments : Arguments) (files : FileTree) (scenarios : List Scenario) :
    (legs arguments files scenarios).map (·.scenario) <+: scenarios := by
  induction scenarios generalizing files with
  | nil => exact List.prefix_refl []
  | cons scenario rest ih =>
      unfold legs
      rcases (scenario.run arguments.env).run.runOn (start arguments files) with
        ⟨fault | result, last⟩
      · exact List.prefix_append [scenario] rest
      · exact List.cons_prefix_cons.mpr ⟨rfl, ih last.state⟩

/-- The run that is made of legs. -/
def joined (total failures : Nat) (output : String) (files : FileTree) : List Leg → ProgramRun
  | [] =>
    { ending := .finished total failures
      output := output ++ printed [summary total failures]
      files }
  | ⟨scenario, outcome, last⟩ :: rest =>
    match outcome with
    | .error fault =>
      { ending := .stopped fault
        output := output ++ printed last.log.lines
        files := last.state }
    | .ok result =>
      let lines := (setupLog scenario last.log result).lines ++ reportLines scenario result
      joined total (if isFailure result then failures + 1 else failures)
        (output ++ printed lines) last.state rest

variable {arguments : Arguments}

/-- **A run is made of its legs.** -/
theorem runAll_eq (total failures : Nat) (output : String) (files : FileTree)
    (scenarios : List Scenario) :
    runAll arguments total failures output files scenarios =
      joined total failures output files (legs arguments files scenarios) := by
  induction scenarios generalizing failures output files with
  | nil => rfl
  | cons scenario rest ih =>
      unfold runAll legs start
      dsimp only
      rcases (scenario.run arguments.env).run.runOn
        { state := files, log := { level := arguments.logLevel } } with ⟨fault | result, last⟩
      · rfl
      · exact ih _ _ last.state

/-- **Each leg** comes to what its scenario would come to alone, on any files whose paths can be
opened among those that the run finds. The induction is on the scenarios that are left, and a path
that can be opened stays one. -/
theorem outcome_of_legs (hemulated : arguments.env.hostTiming = false) {files found : FileTree}
    (hrooted : files.Rooted) (hready : ∀ path, files.Ready path → found.Ready path)
    (scenarios : List Scenario) :
    ∀ leg ∈ legs arguments found scenarios, leg.scenario.Opens arguments.env files →
      leg.outcome = ((leg.scenario.run arguments.env).run.runOn (start arguments files)).1 := by
  induction scenarios generalizing found with
  | nil => exact List.forall_mem_nil _
  | cons scenario rest ih =>
      have hlevel : (start arguments found).log.level = (start arguments files).log.level := rfl
      have halone (hopens : scenario.Opens arguments.env files) :
          ((scenario.run arguments.env).run.runOn (start arguments found)).1 =
            ((scenario.run arguments.env).run.runOn (start arguments files)).1 :=
        Scenario.run_answers hemulated hlevel
          (fun path hpath => (hready path ⟨hrooted, hopens path hpath⟩).opens) hopens
      -- what the scenario leaves is where the rest starts
      have hleft (path : String) (hfiles : files.Ready path) :
          ((scenario.run arguments.env).run.runOn (start arguments found)).2.state.Ready path :=
        (scenario.run_ready arguments.env path).runOn (start arguments found) (hready path hfiles)
      unfold legs
      revert halone hleft
      rcases (scenario.run arguments.env).run.runOn (start arguments found) with
        ⟨fault | result, last⟩
      · intro halone _
        exact List.forall_mem_singleton.mpr halone
      · intro halone hleft
        exact List.forall_mem_cons.mpr ⟨halone, ih hleft⟩

/-- **The report of a scenario** does not depend on what was in its part before. Two runs of the
scenario at one log level that find different files come to the same, and so does each scenario of a
run of the program, whichever scenarios were run before it and whatever they left in its file. -/
theorem run_forgets :
    (∀ (scenario : Scenario) (env : RunEnv), env.hostTiming = false →
      ∀ left right : World FileTree, left.log.level = right.log.level →
        scenario.Opens env left.state → scenario.Opens env right.state →
          ((scenario.run env).run.runOn left).1 = ((scenario.run env).run.runOn right).1) ∧
    ∀ (arguments : Arguments) (files : FileTree) (scenarios : List Scenario)
      (total failures : Nat) (output : String), arguments.env.hostTiming = false → files.Rooted →
        runAll arguments total failures output files scenarios =
          joined total failures output files (legs arguments files scenarios) ∧
        ∀ leg ∈ legs arguments files scenarios, leg.scenario.Opens arguments.env files →
          leg.outcome = ((leg.scenario.run arguments.env).run.runOn (start arguments files)).1 :=
  ⟨fun _ _ hemulated _ _ hlevel hleft hright =>
      Scenario.run_answers hemulated hlevel hleft hright,
    fun _ files scenarios total failures output hemulated hrooted =>
      ⟨runAll_eq total failures output files scenarios,
        outcome_of_legs hemulated hrooted (fun _ hready => hready) scenarios⟩⟩

/-- A scenario without faults on a small part. -/
def smallScenario : Scenario where
  name := "small"
  layout := smallLayout

/-- Images are kept in the working directory. -/
def keepImages : Arguments where
  env := { imageDirectory := some "" }

/-- Its image can be opened where no directory has its name. -/
theorem smallScenario_opens {entries : List (String × FileNode)}
    (hfree : ∀ nodes, (FileNode.dir entries).child? "small.bin" ≠ some (.dir nodes)) :
    smallScenario.Opens keepImages.env { root := .dir entries } := by
  intro path hpath
  have hname : smallScenario.imagePath keepImages.env = some "small.bin" := by decide +kernel
  obtain rfl : "small.bin" = path := Option.some.inj (hname.symm.trans hpath)
  have hopens : FileTree.Opens { root := .dir entries } "small.bin" [] :=
    ⟨rfl, by
      have hhere : (FileTree.properNames "small.bin").dropLast = [] := rfl
      have horigin : FileTree.origin { root := .dir entries } "small.bin" = [] := ite_self _
      rw [hhere, horigin]
      rfl, rfl, by decide +kernel, by decide⟩
  exact hopens.exists_openOrCreate hfree

/-- Some bytes in the file make no difference, nor does the scenario itself when it is run twice. -/
theorem run_forgets_smallScenario :
    ((smallScenario.run keepImages.env).run.runOn (start keepImages {})).1 =
      ((smallScenario.run keepImages.env).run.runOn
        (start keepImages { root := .dir [("small.bin", .file ⟨#[7, 0, 7]⟩)] })).1 ∧
    (legs keepImages {} [smallScenario, smallScenario]).length = 2 ∧
    ∀ leg ∈ legs keepImages {} [smallScenario, smallScenario],
      leg.outcome = ((leg.scenario.run keepImages.env).run.runOn (start keepImages {})).1 := by
  have hempty : smallScenario.Opens keepImages.env {} := smallScenario_opens nofun
  obtain ⟨hanswers, hlegs⟩ := run_forgets
  refine ⟨hanswers smallScenario keepImages.env rfl _ _ rfl hempty (smallScenario_opens ?_),
    by decide +kernel, fun leg hmem => ?_⟩
  · intro nodes hdir
    cases hdir
  · have hscenario : leg.scenario ∈ [smallScenario, smallScenario] :=
      (legs_inOrder keepImages {} _).subset (List.mem_map_of_mem hmem)
    obtain hsmall : leg.scenario = smallScenario := by simpa using hscenario
    exact (hlegs keepImages {} [smallScenario, smallScenario] 2 0 "" rfl ⟨_, rfl, rfl⟩).2 leg hmem
      (hsmall ▸ hempty)

end Program

end FlashBench
