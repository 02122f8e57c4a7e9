import FlashBench.Part.Creation
import FlashBench.Proofs.Part.Controller
import FlashBench.Proofs.Storage.FileTree
import FlashBench.Proofs.Triple

/-!
# Parts that were brought up

Whatever the file tree holds, a controller that `bringUp` makes is a new one on a layout that was
accepted, and its backing image, if it has one, was prepared (`bringUp_eq_ok`). The layout decides
before any file is looked at (`bringUp_refused`, `bringUp_accepted`). A file that another path leads
to can still be opened afterwards (`bringUp_ready`, `saveImage_ready`).
-/

namespace FlashBench.Controller

variable {layout : FlashLayout} {timing : FlashTiming}

variable {world : World FileTree} {path : String} {location : Location} {old : ByteArray}

/-- What opening an image comes to is decided by the file tree. -/
theorem openImage_runOn_eq (capacity : Nat) (eraseValue : UInt8) (path : String)
    (world : World FileTree) :
    (openImage capacity eraseValue path).run.runOn world =
      (match world.state.openOrCreate path with
        | .error error => throw (CreationError.storage error)
        | .ok (location, old) => (do
          if old.size < capacity then
            Attempt.note .debug s!"initializing flash backing file {path}"
          (Act.change fun files =>
            files.write location (preparedImage capacity eraseValue old) : Act FileTree Unit)
          return (location, preparedImage capacity eraseValue old) :
          Attempt CreationError FileTree (Location × ByteArray))).run.runOn world := rfl

/-- A file that can be opened is prepared and written back, whatever is in it. -/
theorem openImage_runOn (hopen : world.state.openOrCreate path = .ok (location, old))
    (capacity : Nat) (eraseValue : UInt8) :
    ∃ next, (openImage capacity eraseValue path).run.runOn world =
        (.ok (.ok (location, preparedImage capacity eraseValue old)), next) ∧
      next.state = world.state.write location (preparedImage capacity eraseValue old) ∧
      next.log.level = world.log.level := by
  rw [openImage_runOn_eq, hopen]
  by_cases hshort : old.size < capacity
  · -- the message on the new image comes first
    simp only [if_pos hshort]
    exact ⟨_, rfl, rfl, Log.level_write _ _ _⟩
  · simp only [if_neg hshort]
    exact ⟨_, rfl, rfl, rfl⟩

theorem openImage_refused {error : StorageError}
    (hopen : world.state.openOrCreate path = .error error) (capacity : Nat) (eraseValue : UInt8) :
    (openImage capacity eraseValue path).run.runOn world =
      (.ok (.error (.storage error)), world) := by
  rw [openImage_runOn_eq, hopen]
  rfl

theorem openImage_eq_ok {capacity : Nat} {eraseValue : UInt8} {next : World FileTree}
    {image : ByteArray}
    (h : (openImage capacity eraseValue path).run.runOn world =
      (.ok (.ok (location, image)), next)) :
    ∃ old, image = preparedImage capacity eraseValue old := by
  cases hopen : world.state.openOrCreate path with
  | error error =>
      rw [openImage_refused hopen] at h
      cases h
  | ok opened =>
      obtain ⟨_, hrun, _⟩ := openImage_runOn hopen capacity eraseValue
      rw [hrun] at h
      cases h
      exact ⟨_, rfl⟩

/-- **A part that was brought up is a new one,** on a layout that was accepted. -/
theorem bringUp_eq_ok {backing : Option String} {next : World FileTree} {part : OpenedPart}
    (h : (bringUp layout timing backing).run.runOn world = (.ok (.ok part), next)) :
    layout.validate = .ok (.ok ()) ∧ ∃ map capacity, ∃ image : Option ByteArray,
      layout.sectorMap = .ok map ∧ layout.capacity = .ok capacity ∧
      part.ctrl = create layout map capacity timing
        (image.map (preparedImage capacity layout.eraseValue)) := by
  obtain ⟨verdict, _, hverdict, h⟩ := Attempt.runOn_bind_eq_ok.mp h
  cases verdict with
  | error error => cases h
  | ok accepted =>
      obtain ⟨capacity, _, hbytes, h⟩ := Attempt.runOn_bind_eq_ok.mp h
      obtain ⟨map, _, hregions, h⟩ := Attempt.runOn_bind_eq_ok.mp h
      have hlayout := Attempt.runOn_checked_eq_ok hverdict
      have hmap := Attempt.runOn_checked_eq_ok hregions
      have hcapacity := Attempt.runOn_checked_eq_ok hbytes
      cases backing with
      | none =>
          cases h
          exact ⟨hlayout, map, capacity, none, hmap, hcapacity, rfl⟩
      | some path =>
          obtain ⟨⟨location, image⟩, _, himage, h⟩ := Attempt.runOn_bind_eq_ok.mp h
          obtain ⟨old, rfl⟩ := openImage_eq_ok himage
          cases h
          exact ⟨hlayout, map, capacity, some old, hmap, hcapacity, rfl⟩

/-! ## Bringing a part up around an image -/

section Backed

variable {map : SectorMap} {capacity : Nat}

theorem openImage_ends {files : FileTree} (hopen : files.openOrCreate path = .ok (location, old))
    (capacity : Nat) (eraseValue : UInt8) :
    Attempt.Ends (· = files) (openImage capacity eraseValue path)
      (.ok (location, preparedImage capacity eraseValue old))
      (· = files.write location (preparedImage capacity eraseValue old)) := by
  rintro world rfl
  obtain ⟨next, hrun, hstate, _⟩ := openImage_runOn hopen capacity eraseValue
  exact ⟨next, hrun, hstate⟩

/-- **A part with an image comes up** if the file of the image can be opened. -/
theorem bringUp_ends {files : FileTree} (hlayout : layout.validate = .ok (.ok ()))
    (hmap : layout.sectorMap = .ok map) (hcapacity : layout.capacity = .ok capacity)
    (hopen : files.openOrCreate path = .ok (location, old)) :
    Attempt.Ends (· = files) (bringUp layout timing (some path))
      (.ok ⟨create layout map capacity timing
        (some (preparedImage capacity layout.eraseValue old)), some location⟩)
      (· = files.write location (preparedImage capacity layout.eraseValue old)) := by
  unfold bringUp
  rw [hlayout, hcapacity, hmap]
  refine .bind (.checked _) (.bind (.checked _) (.bind (.checked _) ?_))
  exact .bind (openImage_ends hopen _ _) (.pure _)

/-- With an image that can be opened, or with none, a part comes up that is new but for what it
holds. -/
theorem bringUp_runOn {backing : Option String} (hlayout : layout.validate = .ok (.ok ()))
    (hmap : layout.sectorMap = .ok map) (hcapacity : layout.capacity = .ok capacity)
    (hopen : ∀ path, backing = some path → ∃ found, world.state.openOrCreate path = .ok found) :
    ∃ part next, (bringUp layout timing backing).run.runOn world = (.ok (.ok part), next) ∧
      next.log.level = world.log.level ∧ ∃ image : Option ByteArray,
        part.ctrl = create layout map capacity timing
          (image.map (preparedImage capacity layout.eraseValue)) := by
  unfold bringUp
  rw [hlayout, hcapacity, hmap]
  cases backing with
  | none => exact ⟨_, _, rfl, rfl, none, rfl⟩
  | some path =>
      obtain ⟨⟨location, old⟩, hfile⟩ := hopen path rfl
      obtain ⟨next, himage, _, hlevel⟩ := openImage_runOn hfile capacity layout.eraseValue
      refine ⟨⟨create layout map capacity timing
        (some (preparedImage capacity layout.eraseValue old)), some location⟩, next, ?_, hlevel,
        some old, rfl⟩
      refine Attempt.runOn_bind_eq_ok.mpr ⟨_, world, rfl, ?_⟩
      refine Attempt.runOn_bind_eq_ok.mpr ⟨_, world, rfl, ?_⟩
      refine Attempt.runOn_bind_eq_ok.mpr ⟨_, world, rfl, ?_⟩
      exact Attempt.runOn_bind_eq_ok.mpr ⟨_, next, himage, rfl⟩

end Backed

/-! ## The verdict comes first -/

section Verdict

variable {backing : Option String}

theorem bringUp_fault {fault : Fault} (hlayout : layout.validate = .error fault) :
    (bringUp layout timing backing).run.runOn world = (.error fault, world) := by
  unfold bringUp
  rw [hlayout]
  rfl

/-- A layout that is refused is refused before any file is looked at. -/
theorem bringUp_refused {error : GeometryError} (hlayout : layout.validate = .ok (.error error)) :
    (bringUp layout timing backing).run.runOn world =
      (.ok (.error (.geometry error)), world) := by
  unfold bringUp
  rw [hlayout]
  rfl

/-- **On a layout that is accepted** a part comes up, or its image cannot be opened. -/
theorem bringUp_accepted (hlayout : layout.validate = .ok (.ok ())) :
    ∃ outcome next, (bringUp layout timing backing).run.runOn world = (.ok outcome, next) ∧
      ∀ error, outcome ≠ .error (.geometry error) := by
  obtain ⟨map, hmap, _⟩ := Word.bind_eq_ok_iff.mp hlayout
  unfold bringUp
  rw [hlayout, FlashLayout.capacity_of_sectorMap hmap, hmap]
  cases backing with
  | none => exact ⟨_, world, rfl, nofun⟩
  | some path =>
      -- all but the image is there
      show ∃ outcome next, (ExceptT.run (openImage _ _ path >>= _)).runOn world = _ ∧ _
      rw [ExceptT.run_bind, Act.runOn_bind]
      cases hopen : world.state.openOrCreate path with
      | error error =>
          rw [openImage_refused hopen]
          exact ⟨.error (.storage error), world, rfl, nofun⟩
      | ok found =>
          obtain ⟨next, himage, _⟩ := openImage_runOn hopen
            (FlashLayout.bytesOf layout.sectors) layout.eraseValue
          rw [himage]
          exact ⟨_, next, rfl, nofun⟩

end Verdict

/-! ## Other files -/

section Others

variable {other : String}

theorem openImage_ready (capacity : Nat) (eraseValue : UInt8) (path : String) :
    Attempt.Leads (FileTree.Ready · other) (openImage capacity eraseValue path)
      (fun made files => files.Ready other ∧ ∃ old, files.openOrCreate path = .ok (made.1, old))
      (fun _ files => files.Ready other) fun _ files => files.Ready other := by
  intro world hready
  cases hopen : world.state.openOrCreate path with
  | error error =>
      rw [openImage_refused hopen]
      exact hready
  | ok found =>
      obtain ⟨next, hrun, hstate, _⟩ := openImage_runOn hopen capacity eraseValue
      rw [hrun]
      show next.state.Ready other ∧ ∃ old, next.state.openOrCreate path = .ok (found.1, old)
      rw [hstate]
      exact ⟨hready.write hopen _, _, FileTree.openOrCreate_write hopen _⟩

/-- **Bringing a part up** gets no other file out of the way, and its own file lies where a path
leads. -/
theorem bringUp_ready (layout : FlashLayout) (timing : FlashTiming) (backing : Option String) :
    Attempt.Leads (FileTree.Ready · other) (bringUp layout timing backing)
      (fun part files => files.Ready other ∧ ∀ location, part.location = some location →
        ∃ path old, files.openOrCreate path = .ok (location, old))
      (fun _ files => files.Ready other) fun _ files => files.Ready other := by
  refine .checked_bind (fun verdict _ => ?_) fun _ _ _ hready => hready
  cases verdict with
  | error error => exact .throw _ fun _ hready => hready
  | ok accepted =>
      refine .checked_bind (fun capacity _ => ?_) fun _ _ _ hready => hready
      refine .checked_bind (fun map _ => ?_) fun _ _ _ hready => hready
      cases backing with
      | none => exact .pure _ fun _ hready => ⟨hready, nofun⟩
      | some path =>
          refine .bind (openImage_ready capacity layout.eraseValue path) fun made => ?_
          refine .pure _ fun files ⟨hready, hopen⟩ => ⟨hready, fun location hlocation => ?_⟩
          exact Option.some.inj hlocation ▸ ⟨path, hopen⟩

/-- Nor is it got out of the way when the image is saved. -/
theorem saveImage_ready {ctrl : Controller} {location : Option Location} {files : FileTree}
    (hready : files.Ready other)
    (hopen : ∀ place, location = some place →
      ∃ path old, files.openOrCreate path = .ok (place, old)) :
    (ctrl.saveImage location files).Ready other := by
  unfold saveImage
  split
  · rename_i place image _
    obtain ⟨path, old, hopen⟩ := hopen place rfl
    exact hready.write hopen image
  · exact hready

end Others

end FlashBench.Controller
