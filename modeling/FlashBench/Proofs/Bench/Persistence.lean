import FlashBench.Proofs.Bench.Reached
import FlashBench.Proofs.Part.FlashArray
import FlashBench.Proofs.Storage.FileTree

/-!
# The image is the medium

A part that keeps its contents stores every change twice, in its medium and in its image, and an
image may go on behind the part. `Controller.Mirrored` says that the two agree and what the image
goes on with; no access breaks it, since what an operation stores ends inside the medium. With what
a file tree does to a file that is written and opened again, that makes the contents outlive the
part (`Bench.persistent`).
-/

namespace FlashBench

namespace Controller

variable {ctrl left : Controller} {layout : FlashLayout} {tail : ByteArray}

/-- The image holds the medium, followed by `tail`. -/
structure Mirrored (layout : FlashLayout) (tail : ByteArray) (ctrl : Controller) : Prop where
  sound : ctrl.Sound layout
  image : ctrl.image = some (ctrl.medium ++ tail)

/-- What is stored in the medium is stored at the same place of the image. -/
theorem Stores.image (hon : ctrl.On layout) (hstores : ctrl.Stores left)
    (himage : ctrl.image = some (ctrl.medium ++ tail)) :
    left.image = some (left.medium ++ tail) := by
  cases hstores with
  | nothing => exact himage
  | bytes operation offset content named spanned aligned inside =>
      show ctrl.image.map (Memory.overwrite · offset content) =
        some (Memory.overwrite ctrl.medium offset content ++ tail)
      rw [himage, Option.map_some, Memory.overwrite_append tail (hon.offset_add_le inside)]

/-- **No access parts the image from the medium.** -/
theorem mirrored_stable (layout : FlashLayout) (tail : ByteArray) :
    Stable (Mirrored layout tail) := by
  intro ctrl h access
  refine ⟨sound_stable layout ctrl h.sound access, ?_⟩
  rcases access_cases h.sound.on access with ⟨_, halike⟩ | ⟨rfl, completion, left, hpoll, hstores⟩
  · rw [halike.image, halike.medium]
    exact h.image
  · have hstored := hstores.image h.sound.on h.image
    show ctrl.poll.2.image = some (ctrl.poll.2.medium ++ tail)
    rw [hpoll]
    exact hstored

/-! ## New parts -/

/-- A file that is long enough is left as it is. -/
theorem preparedImage_of_le {capacity : Nat} {image : ByteArray} (eraseValue : UInt8)
    (h : capacity ≤ image.size) : preparedImage capacity eraseValue image = image :=
  if_neg (Nat.not_lt.mpr h)

theorem preparedImage_of_lt {capacity : Nat} {image : ByteArray} (eraseValue : UInt8)
    (h : image.size < capacity) :
    preparedImage capacity eraseValue image = Memory.filled capacity eraseValue :=
  if_pos h

/-- Behind the part a prepared image is what it was, which is nothing if it was too short. -/
theorem extract_preparedImage (capacity : Nat) (eraseValue : UInt8) (image : ByteArray) :
    preparedImage capacity eraseValue image =
      (preparedImage capacity eraseValue image).extract 0 capacity ++
        image.extract capacity image.size := by
  by_cases hshort : image.size < capacity
  · have hnone : image.extract capacity image.size = ByteArray.empty :=
      ByteArray.extract_eq_empty_iff.mpr (by omega)
    rw [preparedImage_of_lt eraseValue hshort, hnone, ByteArray.append_empty,
      Memory.extract_size _ (Nat.le_of_eq (Memory.size_filled _ _))]
  · have hlong := Nat.le_of_not_lt hshort
    rw [preparedImage_of_le eraseValue hlong, ByteArray.extract_append_extract,
      Nat.zero_min, Nat.max_eq_right hlong, ByteArray.extract_zero_size]

theorem create_mirrored {map : SectorMap} {capacity : Nat} (hmap : layout.sectorMap = .ok map)
    (hcapacity : layout.capacity = .ok capacity) (timing : FlashTiming) (image : ByteArray) :
    (create layout map capacity timing
      (some (preparedImage capacity layout.eraseValue image))).Mirrored layout
        (image.extract capacity image.size) where
  sound := (create_idle _ _ _ _ _).sound (create_on hmap hcapacity timing (some image)) (by
    show Register.start.read 0 = 0
    decide)
  image := congrArg some (extract_preparedImage capacity layout.eraseValue image)

end Controller

namespace Bench

variable {setup : BenchSetup} {files : FileTree} {path : String} {location : Location}
  {old : ByteArray} {capacity : Nat} {bench : Bench}

/-- The bench works on the image at `location`, which goes on with `tail` behind the part. -/
structure Backed (setup : BenchSetup) (path : String) (location : Location) (tail : ByteArray)
    (bench : Bench) : Prop where
  setup_eq : bench.setup = setup
  location_eq : bench.location = some location
  opens : ∃ content, bench.files.openOrCreate path = .ok (location, content)
  mirrored : bench.rig.ctrl.Mirrored setup.layout tail

variable {tail : ByteArray}

/-- **The file holds the medium,** and goes on as the image does. -/
theorem Backed.finalFiles (h : bench.Backed setup path location tail) :
    bench.finalFiles.openOrCreate path = .ok (location, bench.rig.ctrl.medium ++ tail) := by
  obtain ⟨content, hopens⟩ := h.opens
  have hsaved : bench.finalFiles =
      bench.files.write location (bench.rig.ctrl.medium ++ tail) := by
    unfold Bench.finalFiles Controller.saveImage
    rw [h.location_eq, h.mirrored.image]
  rw [hsaved]
  exact FileTree.openOrCreate_write hopens _

/-- **A bench comes up** if the file of its image can be opened, and prepares the file. -/
theorem start_backed {map : SectorMap} (hlayout : setup.layout.validate = .ok (.ok ()))
    (hmap : setup.layout.sectorMap = .ok map) (hcapacity : setup.layout.capacity = .ok capacity)
    (hbacking : setup.backing = some path) (record : Record)
    (hopen : record.files.openOrCreate path = .ok (location, old)) (clocks : Clocks) :
    ∃ next after, start setup clocks record = (some next, after) ∧
      next.Backed setup path location (old.extract capacity old.size) ∧
      next.rig.ctrl.medium =
        (Controller.preparedImage capacity setup.layout.eraseValue old).extract 0 capacity := by
  let image := Controller.preparedImage capacity setup.layout.eraseValue old
  let ctrl := Controller.create setup.layout map capacity setup.timing (some image)
  let next : Bench := {
    setup
    files := record.files.write location image
    rig := { ctrl, pollTimeout := setup.pollTimeout, clocks, distortion := setup.distortion }
    location := some location }
  have hup : Attempt.Ends (· = record.files) (bringUp setup clocks) (.ok next)
      (· = record.files.write location image) := by
    unfold bringUp
    rw [hbacking]
    refine .bind (Controller.bringUp_ends hlayout hmap hcapacity hopen) ?_
    exact .bind (.lift (.read id fun _ h => h)) (.pure _)
  obtain ⟨world, hrun, _⟩ := hup { state := record.files, log := record.log } rfl
  have hstart : start setup clocks record = (some next,
      ({ record with files := world.state, log := world.log } : Record).push
        (.creation (.ok (.ok ())))) := by
    unfold start
    rw [hrun]
  exact ⟨next, _, hstart, ⟨rfl, rfl, ⟨_, FileTree.openOrCreate_write hopen image⟩,
    Controller.create_mirrored hmap hcapacity setup.timing old⟩, rfl⟩

/-- **Coming up again** takes the medium over from the file. -/
theorem Backed.reopen {map : SectorMap} (h : bench.Backed setup path location tail)
    (hlayout : setup.layout.validate = .ok (.ok ()))
    (hmap : setup.layout.sectorMap = .ok map) (hcapacity : setup.layout.capacity = .ok capacity)
    (hbacking : setup.backing = some path) (record : Record) :
    ∃ next after, start bench.setup bench.rig.clocks (bench.finish record) = (some next, after) ∧
      next.Backed setup path location tail ∧ next.rig.ctrl.medium = bench.rig.ctrl.medium := by
  have hsize : bench.rig.ctrl.medium.size = capacity :=
    h.mirrored.sound.on.medium.trans
      (Except.ok.inj (h.mirrored.sound.on.capacity.symm.trans hcapacity))
  have hopen : (bench.finish record).files.openOrCreate path =
      .ok (location, bench.rig.ctrl.medium ++ tail) := by
    rw [files_finish]
    exact h.finalFiles
  obtain ⟨next, after, hstart, hbacked, hmedium⟩ :=
    start_backed hlayout hmap hcapacity hbacking _ hopen bench.rig.clocks
  have hlong : capacity ≤ (bench.rig.ctrl.medium ++ tail).size := by
    rw [ByteArray.size_append]
    omega
  rw [Controller.preparedImage_of_le _ hlong, ByteArray.extract_append_eq_left hsize.symm]
    at hmedium
  rw [ByteArray.extract_append_eq_right hsize.symm (ByteArray.size_append)] at hbacked
  rw [h.setup_eq]
  exact ⟨next, after, hstart, hbacked, hmedium⟩

/-- **The image stays with the part** on its whole way, over any number of reopenings. -/
theorem Reached.backed {map : SectorMap} (h : Reached setup files bench)
    (hlayout : setup.layout.validate = .ok (.ok ()))
    (hmap : setup.layout.sectorMap = .ok map) (hcapacity : setup.layout.capacity = .ok capacity)
    (hbacking : setup.backing = some path) (hopen : files.openOrCreate path = .ok (location, old)) :
    bench.Backed setup path location (old.extract capacity old.size) := by
  induction h with
  | start hfiles hstart =>
      obtain ⟨next, after, hnext, hbacked, _⟩ :=
        start_backed hlayout hmap hcapacity hbacking _ (hfiles.symm ▸ hopen) _
      obtain rfl := Option.some.inj (congrArg Prod.fst (hstart.symm.trans hnext))
      exact hbacked
  | step h command record ih =>
      have hkept := step_kept (Controller.mirrored_stable _ _) ⟨rfl, rfl, rfl, ih.mirrored⟩ command
        record
      exact ⟨hkept.setup.trans ih.setup_eq, hkept.location.trans ih.location_eq,
        hkept.files ▸ ih.opens, hkept.ctrl⟩
  | reopen h hnext ih =>
      obtain ⟨next, after, hstart, hbacked, _⟩ :=
        ih.reopen hlayout hmap hcapacity hbacking _
      obtain rfl := Option.some.inj (congrArg Prod.fst (hnext.symm.trans hstart))
      exact hbacked

/-- **The contents outlive the part.** Let the file of an image be there, empty, of any length, or
be one that can be made. Then a bench comes up, and a file that was too short is erased as a whole
before anything else happens. From then on, whatever is done and however often the part is brought
up again, the file holds the medium, followed by the bytes that it held behind the part in the
beginning; and a part that is brought up again has the medium of the one before. -/
theorem persistent (hlayout : setup.layout.validate = .ok (.ok ()))
    (hbacking : setup.backing = some path) (hopen : files.openOrCreate path = .ok (location, old)) :
    ∃ capacity, setup.layout.capacity = .ok capacity ∧
      (∀ clocks log, ∃ first after, start setup clocks { files, log } = (some first, after) ∧
        (old.size < capacity → first.finalFiles.openOrCreate path =
          .ok (location, Memory.filled capacity setup.layout.eraseValue))) ∧
      ∀ bench, Reached setup files bench →
        bench.rig.ctrl.medium.size = capacity ∧
        bench.rig.ctrl.image = some (bench.rig.ctrl.medium ++ old.extract capacity old.size) ∧
        bench.finalFiles.openOrCreate path =
          .ok (location, bench.rig.ctrl.medium ++ old.extract capacity old.size) ∧
        ∀ record, ∃ next after,
          start bench.setup bench.rig.clocks (bench.finish record) = (some next, after) ∧
          next.rig.ctrl.medium = bench.rig.ctrl.medium := by
  obtain ⟨map, hmap, _⟩ := Word.bind_eq_ok_iff.mp hlayout
  have hcapacity := FlashLayout.capacity_of_sectorMap hmap
  refine ⟨_, hcapacity, fun clocks log => ?_, fun bench hreached => ?_⟩
  · obtain ⟨first, after, hstart, hbacked, hmedium⟩ :=
      start_backed hlayout hmap hcapacity hbacking { files, log } hopen clocks
    refine ⟨first, after, hstart, fun hshort => ?_⟩
    have hnone : old.extract (FlashLayout.bytesOf setup.layout.sectors) old.size =
        ByteArray.empty := ByteArray.extract_eq_empty_iff.mpr (by omega)
    rw [hbacked.finalFiles, hmedium, hnone, ByteArray.append_empty,
      Controller.preparedImage_of_lt _ hshort,
      Memory.extract_size _ (Nat.le_of_eq (Memory.size_filled _ _))]
  · have hbacked := hreached.backed hlayout hmap hcapacity hbacking hopen
    have hon := hbacked.mirrored.sound.on
    have hsize := hon.medium.trans (Except.ok.inj (hon.capacity.symm.trans hcapacity))
    refine ⟨hsize, hbacked.mirrored.image, hbacked.finalFiles, fun record => ?_⟩
    obtain ⟨next, after, hstart, _, hmedium⟩ :=
      hbacked.reopen hlayout hmap hcapacity hbacking record
    exact ⟨next, after, hstart, hmedium⟩

/-- A part whose image is not there yet. -/
def newImage : BenchSetup where
  layout := smallLayout
  clocks := smallRig.clocks
  backing := some "flash.bin"

theorem persistent_newImage :
    newImage.layout.validate = .ok (.ok ()) ∧ newImage.backing = some "flash.bin" ∧
      FileTree.openOrCreate {} "flash.bin" = .ok (["flash.bin"], ByteArray.empty) ∧
      ∃ first after, start newImage newImage.clocks { files := {} } = (some first, after) ∧
        first.finalFiles.openOrCreate "flash.bin" =
          .ok (["flash.bin"], Memory.filled 32 0xFF) := by
  have hlayout : newImage.layout.validate = .ok (.ok ()) := rfl
  have hopens : FileTree.Opens {} "flash.bin" [] :=
    ⟨rfl, by
      have hhere : (FileTree.properNames "flash.bin").dropLast = [] := rfl
      have horigin : ({} : FileTree).origin "flash.bin" = [] := ite_self _
      rw [hhere, horigin]
      rfl, rfl, by decide +kernel, by decide⟩
  have hopen : FileTree.openOrCreate {} "flash.bin" = .ok (["flash.bin"], ByteArray.empty) :=
    hopens.openOrCreate
  obtain ⟨capacity, hcapacity, hstarts, _⟩ :=
    persistent hlayout rfl hopen
  obtain rfl : 32 = capacity := Except.ok.inj hcapacity
  obtain ⟨first, after, hstart, hshort⟩ := hstarts newImage.clocks {}
  exact ⟨hlayout, rfl, hopen, first, after, hstart, hshort (by decide)⟩

end Bench

end FlashBench
