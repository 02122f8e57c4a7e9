import FlashBench.Proofs.Geometry.Tiling
import FlashBench.Proofs.Outcome

/-!
# What the geometry check accepts

`checkGeometry` on a device whose geometry answers depend on the address only.

* **Exactness** (`checkGeometry_outcome`): the check always ends, without a fault, and it accepts
  exactly the walked tilings.
* **The report** folds `GeometryReport.count` over the sectors; `Walked.describes` reads its fields
  off the list.
-/

namespace FlashBench

variable {σ : Type} {inv : σ → Prop} {g : Geometry}

/-- In every state of `inv`, which its questions keep, the device gives the geometry answers `g`.
What else a question changes (a counter, the log) is left open. -/
structure Device.Reports (device : Device σ) (inv : σ → Prop) (g : Geometry) : Prop where
  pageSize : Act.Ends inv device.pageSize g.pageSize inv
  startAddress : Act.Ends inv device.startAddress g.start inv
  size : Act.Ends inv device.size g.size inv
  sectorSize : ∀ address, Act.Ends inv (device.sectorSize address) (g.sectorSize address) inv

/-- In every state of `inv`, which these questions keep, the window of the device has `size` bytes and
starts at `start`. -/
structure Device.Spans (device : Device σ) (inv : σ → Prop) (start size : UInt32) : Prop where
  startAddress : Act.Ends inv device.startAddress start inv
  size : Act.Ends inv device.size size inv

theorem Device.Reports.spans {device : Device σ} (h : device.Reports inv g) :
    device.Spans inv g.start g.size :=
  ⟨h.startAddress, h.size⟩

/-- The report with one more sector. -/
def GeometryReport.count (report : GeometryReport) (sector : Sector) : GeometryReport :=
  { report with
    sectors := UInt32.ofNat (report.sectors.toNat + 1)
    minSectorSize := min report.minSectorSize sector.size
    maxSectorSize := max report.maxSectorSize sector.size }

namespace Geometry

/-- The report on a window before the first sector is counted. -/
def emptyReport (g : Geometry) : GeometryReport where
  start := g.start
  size := g.size
  pageSize := g.pageSize
  sectors := 0
  minSectorSize := Word.max32
  maxSectorSize := 0

/-- The report on a window with these sectors. -/
def report (g : Geometry) (sectors : List Sector) : GeometryReport :=
  sectors.foldl GeometryReport.count g.emptyReport

/-- The fields that name the window stay as the device gave them. -/
structure Names (g : Geometry) (report : GeometryReport) : Prop where
  start : report.start = g.start
  size : report.size = g.size
  pageSize : report.pageSize = g.pageSize

theorem Names.stop {report : GeometryReport} (h : g.Names report) : report.stop = g.stop := by
  unfold GeometryReport.stop Geometry.stop
  rw [h.start, h.size]

theorem Names.count {report : GeometryReport} (h : g.Names report) (sector : Sector) :
    g.Names (report.count sector) :=
  ⟨h.start, h.size, h.pageSize⟩

theorem Names.foldl {report : GeometryReport} (h : g.Names report) (sectors : List Sector) :
    g.Names (sectors.foldl GeometryReport.count report) := by
  induction sectors generalizing report with
  | nil => exact h
  | cons sector rest ih => exact ih (h.count sector)

theorem foldl_count_sectors (report : GeometryReport) (sectors : List Sector)
    (hfits : report.sectors.toNat + sectors.length < Word.span32) :
    (sectors.foldl GeometryReport.count report).sectors.toNat =
      report.sectors.toNat + sectors.length := by
  induction sectors generalizing report with
  | nil => rfl
  | cons sector rest ih =>
      simp only [List.length_cons] at hfits ⊢
      have hcount : (report.count sector).sectors.toNat = report.sectors.toNat + 1 :=
        Word.toNat_ofNat_of_lt (by omega)
      rw [List.foldl_cons, ih _ (by omega), hcount]
      omega

theorem foldl_count_minSectorSize (report : GeometryReport) (sectors : List Sector) :
    (sectors.foldl GeometryReport.count report).minSectorSize =
      (sectors.map (·.size)).foldl min report.minSectorSize := by
  induction sectors generalizing report with
  | nil => rfl
  | cons sector rest ih => exact ih (report.count sector)

theorem foldl_count_maxSectorSize (report : GeometryReport) (sectors : List Sector) :
    (sectors.foldl GeometryReport.count report).maxSectorSize =
      (sectors.map (·.size)).foldl max report.maxSectorSize := by
  induction sectors generalizing report with
  | nil => rfl
  | cons sector rest ih => exact ih (report.count sector)

/-- What a report on these sectors says: the window as the device gave it, how many sectors there
are, and the smallest and the largest size among them. -/
structure Describes (g : Geometry) (sectors : List Sector) (report : GeometryReport) : Prop where
  names : g.Names report
  count : report.sectors.toNat = sectors.length
  minSectorSize : (sectors.map (·.size)).min? = some report.minSectorSize
  maxSectorSize : (sectors.map (·.size)).max? = some report.maxSectorSize

theorem emptyReport_names (g : Geometry) : g.Names g.emptyReport := ⟨rfl, rfl, rfl⟩

theorem report_names (g : Geometry) (sectors : List Sector) : g.Names (g.report sectors) :=
  g.emptyReport_names.foldl sectors

theorem Walked.describes {g : Geometry} {sectors : List Sector} (h : g.Walked sectors) :
    g.Describes sectors (g.report sectors) := by
  have hsize : ∀ sector ∈ sectors, sector.size ≠ 0 :=
    fun sector hmem => (h.passes.fits sector hmem).1
  have hlength := h.passes.path.length_le hsize
  have hword := Word.toNat_lt_span32 g.size
  have hpos := h.size
  unfold Geometry.stop at hlength
  have hfits : g.emptyReport.sectors.toNat + sectors.length < Word.span32 := by
    simp only [emptyReport, UInt32.toNat_zero]
    omega
  obtain ⟨sector, rest, rfl, _⟩ := h.passes.exists_cons (by unfold Geometry.stop; omega)
  refine ⟨g.report_names _, ?_, ?_, ?_⟩
  · rw [report, foldl_count_sectors _ _ hfits]
    exact Nat.zero_add _
  · rw [report, foldl_count_minSectorSize, List.map_cons, List.min?_cons', List.foldl_cons]
    exact congrArg (fun a => some (List.foldl min a _)) (Word.min_max32 _).symm
  · rw [report, foldl_count_maxSectorSize, List.map_cons, List.max?_cons', List.foldl_cons]
    exact congrArg (fun a => some (List.foldl max a _)) (Word.max_zero _).symm

end Geometry

/-! ## One sector -/

theorem Sector.lastByte_of_fit {sector : Sector} (hsize : sector.size ≠ 0)
    (hstop : sector.stop ≤ Word.span32) :
    sector.lastByte = some (UInt32.ofNat (sector.stop - 1)) := by
  have hpos := (Word.ne_zero_iff _).mp hsize
  unfold Sector.stop at hstop ⊢
  unfold Sector.lastByte
  rw [if_neg hsize, Nat.add_sub_assoc hpos]
  exact if_pos (by omega)

theorem Sector.lastByte_of_beyond {sector : Sector} (hsize : sector.size ≠ 0)
    (hstop : Word.span32 < sector.stop) : sector.lastByte = none := by
  have hpos := (Word.ne_zero_iff _).mp hsize
  unfold Sector.stop at hstop
  unfold Sector.lastByte
  rw [if_neg hsize]
  exact if_neg (by omega)

/-- A sector that keeps the rules is counted. -/
theorem checkSector_ends {device : Device σ} (h : device.Reports inv g) {report : GeometryReport}
    (hnames : g.Names report) (hcount : report.sectors.toNat + 1 < Word.span32) {sector : Sector}
    (hadmits : g.Admits sector) (hstop : sector.stop ≤ Word.span32) :
    Attempt.Ends inv (checkSector device report sector) (.ok (report.count sector)) inv := by
  have hpages : sector.size % report.pageSize = 0 := by
    rw [hnames.pageSize]
    exact (Word.mod_eq_zero_iff _ _).mpr hadmits.pages
  have haligned : sector.start % sector.size = 0 := (Word.mod_eq_zero_iff _ _).mpr hadmits.aligned
  have hsectors : Word.fit32 (report.sectors.toNat + 1) =
      .ok (UInt32.ofNat (report.sectors.toNat + 1)) := Word.fit32_of_lt hcount
  unfold checkSector
  simp only [Sector.lastByte_of_fit hadmits.nonempty hstop, hsectors]
  refine .bind (.note _ _) (.equal hpages (.equal haligned ?_))
  refine .bind (.lift (h.sectorSize _)) (.equal hadmits.last ?_)
  exact .bind (.checked _) (.pure _)

/-- A sector the walk found that breaks a rule ends the check with an error. -/
theorem checkSector_refuses {device : Device σ} (h : device.Reports inv g)
    {report : GeometryReport} (hnames : g.Names report) {sector : Sector}
    (hsize : sector.size ≠ 0) (hvalid : sector.size ≠ invalidSize)
    (hfirst : g.sectorSize sector.start = sector.size)
    (hbroken : ¬ (g.Admits sector ∧ sector.stop ≤ Word.span32)) :
    ∃ error, Attempt.Ends inv (checkSector device report sector) (.error error) inv := by
  unfold checkSector
  by_cases hpages : sector.size % report.pageSize = 0
  · by_cases haligned : sector.start % sector.size = 0
    · by_cases hstop : sector.stop ≤ Word.span32
      · -- only the answer at the last byte is left to differ
        have hlast : g.sectorSize (UInt32.ofNat (sector.stop - 1)) ≠ sector.size := by
          intro hlast
          rw [hnames.pageSize] at hpages
          exact hbroken ⟨⟨hsize, hvalid, hfirst, hlast, (Word.mod_eq_zero_iff _ _).mp hpages,
            (Word.mod_eq_zero_iff _ _).mp haligned⟩, hstop⟩
        simp only [Sector.lastByte_of_fit hsize hstop]
        let last := g.sectorSize (UInt32.ofNat (sector.stop - 1))
        refine ⟨.inconsistentBoundary sector.start sector.size last, ?_⟩
        refine .bind (.note _ _) (.equal hpages (.equal haligned ?_))
        exact .bind (.lift (h.sectorSize _)) (.refuse hlast)
      · simp only [Sector.lastByte_of_beyond hsize (Nat.lt_of_not_le hstop)]
        exact ⟨_, .bind (.note _ _) (.equal hpages (.equal haligned (.throw _)))⟩
    · exact ⟨_, .bind (.note _ _) (.equal hpages (.refuse haligned))⟩
  · exact ⟨_, .bind (.note _ _) (.refuse hpages)⟩

/-! ## The walk -/

namespace SectorWalk

variable {device : Device σ} {walk : SectorWalk}

theorem next_at_stop (hdone : walk.done = false) (hstop : walk.offset = walk.stop) :
    Act.Ends inv (walk.next device) (none, { walk with done := true }) inv := by
  unfold next
  rw [hdone, hstop]
  exact .neg Bool.false_ne_true (.pos (Nat.le_refl _) (by simpa using .pure _))

theorem next_beyond (hdone : walk.done = false) (hstop : walk.stop < walk.offset) :
    Act.Ends inv (walk.next device)
      (some (.error (.overshoot walk.offset walk.stop)), { walk with done := true }) inv := by
  unfold next
  rw [hdone]
  exact .neg Bool.false_ne_true (.pos (Nat.le_of_lt hstop) (by simpa [hstop] using .pure _))

theorem next_unusable (h : device.Reports inv g) (hdone : walk.done = false)
    (hstop : walk.offset < walk.stop)
    (hsize : g.sectorSize (Word.low32 walk.offset) = 0 ∨
      g.sectorSize (Word.low32 walk.offset) = invalidSize) :
    ∃ error, Act.Ends inv (walk.next device) (some (.error error), { walk with done := true })
      inv := by
  unfold next
  rw [hdone]
  exact ⟨_, .neg Bool.false_ne_true (.neg (Nat.not_le_of_lt hstop)
    (.bind (h.sectorSize _) (.pos hsize (.pure _))))⟩

theorem next_sector (h : device.Reports inv g) (hdone : walk.done = false)
    (hstop : walk.offset < walk.stop) {size : UInt32}
    (hsize : g.sectorSize (Word.low32 walk.offset) = size)
    (husable : ¬ (size = 0 ∨ size = invalidSize)) :
    Act.Ends inv (walk.next device)
      (some (.ok ⟨Word.low32 walk.offset, size⟩), { walk with offset := walk.offset + size.toNat })
      inv := by
  subst hsize
  unfold next
  rw [hdone]
  exact .neg Bool.false_ne_true (.neg (Nat.not_le_of_lt hstop)
    (.bind (h.sectorSize _) (.neg husable (.pure _))))

/-- The fold from here accepts the report on a passage to the stop. -/
def Accepts (g : Geometry) (walk : SectorWalk) (report final : GeometryReport) : Prop :=
  ∃ sectors, g.Passes walk.offset sectors walk.stop ∧
    final = sectors.foldl GeometryReport.count report

/-- Where the first sector breaks a rule there is nothing to accept. -/
theorem not_accepts {report final : GeometryReport} (hstop : walk.offset < walk.stop)
    {sector : Sector}
    (hsector : sector = ⟨Word.low32 walk.offset, g.sectorSize (Word.low32 walk.offset)⟩)
    (hbroken : ¬ (g.Admits sector ∧ sector.stop ≤ Word.span32)) :
    ¬ Accepts g walk report final := by
  rintro ⟨sectors, hpasses, _⟩
  obtain ⟨first, rest, _, hfirst, hkeeps, _⟩ := hpasses.exists_cons hstop
  rw [hfirst, ← hsector] at hkeeps
  exact hbroken hkeeps

theorem accepts_at_stop {report final : GeometryReport} (hstop : walk.offset = walk.stop) :
    report = final ↔ Accepts g walk report final := by
  unfold Accepts
  rw [hstop]
  constructor
  · rintro rfl
    exact ⟨[], Geometry.passes_nil.mpr rfl, rfl⟩
  · rintro ⟨sectors, hpasses, hfinal⟩
    rw [hfinal, hpasses.eq_nil]
    rfl

/-- Where the first sector keeps the rules, it is counted and the rest decides. -/
theorem accepts_step {report final : GeometryReport} (hstop : walk.offset < walk.stop)
    {sector : Sector}
    (hsector : sector = ⟨Word.low32 walk.offset, g.sectorSize (Word.low32 walk.offset)⟩)
    (hkeeps : g.Admits sector ∧ sector.stop ≤ Word.span32) :
    Accepts g { walk with offset := walk.offset + sector.size.toNat } (report.count sector) final ↔
      Accepts g walk report final := by
  constructor
  · rintro ⟨rest, hpasses, hfinal⟩
    refine ⟨sector :: rest, Geometry.passes_cons.mpr ⟨?_, hkeeps, hpasses⟩, hfinal⟩
    rw [hsector]
  · rintro ⟨sectors, hpasses, hfinal⟩
    obtain ⟨first, rest, rfl, hfirst, _, hrest⟩ := hpasses.exists_cons hstop
    rw [← hsector] at hfirst
    subst hfirst
    exact ⟨rest, hrest, hfinal⟩

/-- **The fold over a walk.** With a call for every byte left and one more, it ends without a fault,
and its value counts the sectors of a passage to the stop; there is no value without one. -/
theorem foldSectors_decides (h : device.Reports inv g) (calls : Nat) (walk : SectorWalk)
    (report : GeometryReport) (hdone : walk.done = false) (hcalls : walk.remaining < calls)
    (hnames : g.Names report) (hcount : report.sectors.toNat + walk.remaining < Word.span32) :
    Attempt.Decides inv (foldSectors device (checkSector device) calls report walk)
      (Accepts g walk report) := by
  induction calls generalizing walk report with
  | zero => exact absurd hcalls (Nat.not_lt_zero _)
  | succ calls ih =>
      unfold foldSectors
      rcases Nat.lt_trichotomy walk.offset walk.stop with hlt | heq | hgt
      · let size := g.sectorSize (Word.low32 walk.offset)
        let sector : Sector := ⟨Word.low32 walk.offset, size⟩
        by_cases husable : size = 0 ∨ size = invalidSize
        · have hbroken : ¬ (g.Admits sector ∧ sector.stop ≤ Word.span32) := by
            rintro ⟨hadmits, _⟩
            exact absurd husable (not_or.mpr ⟨hadmits.nonempty, hadmits.valid⟩)
          obtain ⟨error, hnext⟩ := next_unusable h hdone hlt husable
          exact .refused (.bind (.lift hnext) (.throw _)) fun _ => not_accepts hlt rfl hbroken
        · have hnext := next_sector h hdone hlt rfl husable
          have hpos : 0 < size.toNat := (Word.ne_zero_iff _).mp (not_or.mp husable).1
          have hremaining : walk.remaining = walk.stop - walk.offset := rfl
          by_cases hkeeps : g.Admits sector ∧ sector.stop ≤ Word.span32
          · have hfits : report.sectors.toNat + 1 < Word.span32 := by omega
            have hcounted : (report.count sector).sectors.toNat = report.sectors.toNat + 1 :=
              Word.toNat_ofNat_of_lt hfits
            obtain ⟨outcome, hrest, hiff⟩ :=
              ih { walk with offset := walk.offset + size.toNat } (report.count sector) hdone
                (by simp only [remaining]; omega) (hnames.count sector)
                (by rw [hcounted]; simp only [remaining]; omega)
            refine ⟨outcome, .bind (.lift hnext) (.bind
              (checkSector_ends h hnames hfits hkeeps.1 hkeeps.2) hrest), fun final => ?_⟩
            exact (hiff final).trans (accepts_step hlt rfl hkeeps)
          · obtain ⟨error, hrefused⟩ := checkSector_refuses h hnames (not_or.mp husable).1
              (not_or.mp husable).2 rfl hkeeps
            exact .refused (.bind (.lift hnext) (.bind_error hrefused))
              fun _ => not_accepts hlt rfl hkeeps
      · exact .accepted (.bind (.lift (next_at_stop hdone heq)) (.pure _))
          fun _ => accepts_at_stop heq
      · -- the walk has stepped over the stop, to which no passage leads back
        refine .refused (.bind (.lift (next_beyond hdone hgt)) (.throw _)) ?_
        rintro final ⟨sectors, hpasses, _⟩
        exact absurd hpasses.path.le (Nat.not_le_of_lt hgt)

end SectorWalk

/-! ## The whole check -/

theorem checkOutside_ends {device : Device σ} (h : device.Reports inv g) {address : UInt32}
    (houtside : g.sectorSize address = invalidSize) :
    Attempt.Ends inv (checkOutside device address) (.ok ()) inv :=
  .bind (.lift (h.sectorSize address)) (.equal houtside (.pure _))

theorem checkOutside_refuses {device : Device σ} (h : device.Reports inv g) {address : UInt32}
    (hinside : g.sectorSize address ≠ invalidSize) :
    Attempt.Ends inv (checkOutside device address)
      (.error (.sentinelMissing address (g.sectorSize address))) inv :=
  .bind (.lift (h.sectorSize address)) (.pos hinside (.throw _))

theorem checkFence_ends {device : Device σ} (h : device.Reports inv g) {report : GeometryReport}
    (hnames : g.Names report) (hfenced : g.Fenced) :
    Attempt.Ends inv (checkFence device report) (.ok ()) inv := by
  unfold checkFence
  rw [hnames.stop, hnames.start]
  have hafter : Attempt.Ends inv (if g.stop < Word.span32 then
      checkOutside device (UInt32.ofNat g.stop) else pure ()) (.ok ()) inv := by
    by_cases hstop : g.stop < Word.span32
    · exact .pos hstop (checkOutside_ends h (hfenced.after hstop))
    · exact .neg hstop (.pure _)
  by_cases hstart : g.start = 0
  · exact .equal hstart hafter
  · exact .pos hstart (.bind (checkOutside_ends h (hfenced.before hstart)) hafter)

theorem checkFence_refuses {device : Device σ} (h : device.Reports inv g)
    {report : GeometryReport} (hnames : g.Names report) (hopen : ¬ g.Fenced) :
    ∃ error, Attempt.Ends inv (checkFence device report) (.error error) inv := by
  unfold checkFence
  rw [hnames.stop, hnames.start]
  by_cases hbefore : g.start ≠ 0 ∧ g.sectorSize (g.start - 1) ≠ invalidSize
  · exact ⟨_, .pos hbefore.1 (.bind_error (checkOutside_refuses h hbefore.2))⟩
  · -- nothing is wrong below the window, so it is open at its end
    have hfence : g.start ≠ 0 → g.sectorSize (g.start - 1) = invalidSize :=
      fun hstart => Decidable.not_not.mp fun hinside => hbefore ⟨hstart, hinside⟩
    have hafter : g.stop < Word.span32 ∧
        g.sectorSize (UInt32.ofNat g.stop) ≠ invalidSize := by
      refine Decidable.not_not.mp fun hclosed => hopen ⟨hfence, fun hstop => ?_⟩
      exact Decidable.not_not.mp fun hinside => hclosed ⟨hstop, hinside⟩
    have hlast := checkOutside_refuses h hafter.2
    by_cases hstart : g.start = 0
    · exact ⟨_, .equal hstart (.pos hafter.1 hlast)⟩
    · exact ⟨_, .pos hstart (.bind (checkOutside_ends h (hfence hstart)) (.pos hafter.1 hlast))⟩

theorem SectorWalk.begin_ends {device : Device σ} {start size : UInt32}
    (h : device.Spans inv start size) :
    Act.Ends inv (SectorWalk.begin device)
      { offset := start.toNat, stop := start.toNat + size.toNat } inv :=
  .bind h.startAddress (.bind h.size (.pure _))

/-- What is left of the check once the first questions are answered: the walk and the fence. -/
theorem checkGeometry_of_walk {device : Device σ} (h : device.Reports inv g)
    (hpage : g.pageSize ≠ 0) (hsize : g.size ≠ 0)
    {answer : Except GeometryError GeometryReport}
    (hwalk : Attempt.Ends inv (do
      let report ← SectorWalk.foldSectors device (checkSector device) (g.size.toNat + 1)
        g.emptyReport { offset := g.start.toNat, stop := g.stop }
      checkFence device report
      return report) answer inv) :
    Attempt.Ends inv (checkGeometry device) answer inv := by
  have hremaining : SectorWalk.remaining { offset := g.start.toNat, stop := g.stop } =
      g.size.toNat := Nat.add_sub_cancel_left ..
  rw [← hremaining] at hwalk
  unfold checkGeometry
  refine .bind (.lift h.pageSize) (.neg hpage (.bind (.lift h.size) (.neg hsize ?_)))
  refine .bind (.lift h.startAddress) (.bind (.lift h.size) ?_)
  exact .bind (.lift (SectorWalk.begin_ends h.spans)) hwalk

/-- **Exactness of the check.** On every device whose geometry depends on the address only the check
ends without a fault, and it answers a report exactly when the window is walked by sectors that
keep the rules; the report is the one on these sectors. -/
theorem checkGeometry_outcome {device : Device σ} (h : device.Reports inv g) :
    Attempt.Decides inv (checkGeometry device)
      fun final => ∃ sectors, g.Walked sectors ∧ final = g.report sectors := by
  by_cases hpage : g.pageSize = 0
  · refine .refused (.bind (.lift h.pageSize) (.refuse hpage)) ?_
    rintro final ⟨sectors, hwalked, _⟩
    exact absurd hpage ((Word.ne_zero_iff _).mpr hwalked.pageSize)
  by_cases hsize : g.size = 0
  · refine .refused (.bind (.lift h.pageSize)
      (.neg hpage (.bind (.lift h.size) (.refuse hsize)))) ?_
    rintro final ⟨sectors, hwalked, _⟩
    exact absurd hsize ((Word.ne_zero_iff _).mpr hwalked.size)
  obtain ⟨outcome, hfold, hiff⟩ := SectorWalk.foldSectors_decides h (g.size.toNat + 1)
    { offset := g.start.toNat, stop := g.stop } g.emptyReport rfl
    (by simp only [SectorWalk.remaining, Geometry.stop]; omega) g.emptyReport_names
    (by
      have hword := Word.toNat_lt_span32 g.size
      simp only [Geometry.emptyReport, SectorWalk.remaining, Geometry.stop, UInt32.toNat_zero]
      omega)
  cases outcome with
  | error error =>
      refine .refused (checkGeometry_of_walk h hpage hsize (.bind_error hfold)) ?_
      rintro final ⟨sectors, hwalked, hfinal⟩
      exact nomatch (hiff final).mpr ⟨sectors, hwalked.passes, hfinal⟩
  | ok report =>
      obtain ⟨sectors, hpasses, hreport⟩ := (hiff report).mp rfl
      have hnames : g.Names report := hreport ▸ g.report_names sectors
      by_cases hfenced : g.Fenced
      · refine .accepted (checkGeometry_of_walk h hpage hsize
          (.bind hfold (.bind (checkFence_ends h hnames hfenced) (.pure _)))) fun final => ?_
        constructor
        · rintro rfl
          exact ⟨sectors, ⟨(Word.ne_zero_iff _).mp hpage, (Word.ne_zero_iff _).mp hsize, hpasses,
            hfenced⟩, hreport⟩
        · rintro ⟨sectors, hwalked, hfinal⟩
          exact Except.ok.inj ((hiff final).mpr ⟨sectors, hwalked.passes, hfinal⟩)
      · obtain ⟨error, hrefused⟩ := checkFence_refuses h hnames hfenced
        refine .refused (checkGeometry_of_walk h hpage hsize (.bind hfold (.bind_error hrefused))) ?_
        rintro final ⟨sectors, hwalked, _⟩
        exact absurd hwalked.fenced hfenced

end FlashBench
