import FlashBench.Device.Table
import FlashBench.Proofs.Geometry.Check

/-!
# Which windows the check accepts

Windows inside the 32-bit address space, and windows that leave it, for devices whose geometry
depends on the address only.

* **Inside** (`checkGeometry_ok_iff_tiled`): a window is accepted exactly when it is tiled, and the
  report describes the tiling.
* **Beyond the top** (`checkGeometry_ok_iff_turned`): the walk cuts its offset to a word and goes on
  at address zero. Such a window is accepted exactly when the part below the top and the part that
  starts over at zero are each tiled, so it is not refused for leaving the address space.
-/

namespace FlashBench

variable {σ : Type} {inv : σ → Prop} {g : Geometry}

/-- What a table device answers about its geometry. -/
def SectorTable.geometry (table : SectorTable) : Geometry where
  start := table.start
  size := table.size
  pageSize := table.pageSize
  sectorSize address := (lookupSize table.entries address).getD table.otherwise

/-- The answers of a table do not depend on how many questions it was asked. -/
theorem SectorTable.device_reports (table : SectorTable) :
    table.device.Reports (fun _ => True) table.geometry where
  pageSize := .pure _
  startAddress := .pure _
  size := .pure _
  sectorSize _ := .bind (.change _ fun _ _ => trivial) (.pure _)

/-! ## Inside the address space -/

/-- **Inside the address space the check is exact.** It never ends in a fault, so the counter of
sectors does not overflow. -/
theorem checkGeometry_ok_iff_tiled {device : Device σ} (h : device.Reports inv g)
    (hwindow : g.stop ≤ Word.span32) (world : World σ) (hworld : inv world.state) :
    ∃ outcome next, Act.runOn (checkGeometry device).run world = (.ok outcome, next) ∧
      ((∃ report, outcome = .ok report) ↔ ∃ sectors, g.Tiled sectors) ∧
      ∀ report sectors, outcome = .ok report → g.Tiled sectors →
        g.Describes sectors report := by
  obtain ⟨outcome, hends, hiff⟩ := checkGeometry_outcome h
  obtain ⟨next, hrun, _⟩ := hends world hworld
  refine ⟨outcome, next, hrun, ?_, ?_⟩
  · constructor
    · rintro ⟨report, hreport⟩
      obtain ⟨sectors, hwalked, _⟩ := (hiff report).mp hreport
      exact ⟨sectors, hwalked.tiled hwindow⟩
    · rintro ⟨sectors, htiled⟩
      exact ⟨_, (hiff _).mpr ⟨sectors, htiled.walked hwindow, rfl⟩⟩
  · intro report sectors hreport htiled
    have hwalked := htiled.walked hwindow
    -- the report of this tiling is an answer too, and there is only one
    have hanswer := (hiff _).mpr ⟨sectors, hwalked, rfl⟩
    rw [hreport] at hanswer
    rw [Except.ok.inj hanswer]
    exact hwalked.describes

/-- Two sectors of different size that end at the top of the address space. -/
def topTable : SectorTable where
  start := 0xFFFFC000
  size := 0x4000
  pageSize := 0x100
  entries := [⟨0xFFFFC000, 0xFFFFCFFF, 0x1000⟩, ⟨0xFFFFD000, 0xFFFFDFFF, 0x1000⟩,
    ⟨0xFFFFE000, 0xFFFFFFFF, 0x2000⟩]

/-- The sectors of `topTable`. -/
def topSectors : List Sector :=
  [⟨0xFFFFC000, 0x1000⟩, ⟨0xFFFFD000, 0x1000⟩, ⟨0xFFFFE000, 0x2000⟩]

theorem topTable_tiled : topTable.geometry.Tiled topSectors where
  pageSize := by decide
  size := by decide
  abut := by decide
  admits := by decide
  fenced := ⟨fun _ => by decide, fun h => absurd h (by decide)⟩

/-- The table that ends at the top is accepted, with its three sectors. -/
theorem checkGeometry_ok_topTable :
    topTable.geometry.stop ≤ Word.span32 ∧
      ∃ report next, Act.runOn (checkGeometry topTable.device).run { state := 0 } =
        (.ok (.ok report), next) ∧ topTable.geometry.Describes topSectors report := by
  have hstop : topTable.geometry.stop ≤ Word.span32 := by decide
  obtain ⟨outcome, next, hrun, haccepts, hdescribes⟩ :=
    checkGeometry_ok_iff_tiled topTable.device_reports hstop { state := 0 } trivial
  obtain ⟨report, hreport⟩ := haccepts.mpr ⟨topSectors, topTable_tiled⟩
  refine ⟨hstop, report, next, ?_, hdescribes report topSectors hreport topTable_tiled⟩
  rw [hrun, hreport]

/-! ## Beyond the top of the address space -/

namespace Geometry

/-- The part below the top of the address space and the part that starts over at zero are tiled by
sectors that keep the rules, and the address below the window is in no sector. -/
structure Turned (g : Geometry) (upper lower : List Sector) : Prop where
  pageSize : 0 < g.pageSize.toNat
  below : Sector.Abut g.start.toNat upper Word.span32
  wrapped : Sector.Abut 0 lower (g.stop - Word.span32)
  admits : ∀ sector ∈ upper ++ lower, g.Admits sector
  before : g.sectorSize (g.start - 1) = invalidSize

/-- A window beyond the top starts above zero, since a size is a word. -/
theorem start_ne_zero_of_beyond (hwindow : Word.span32 < g.stop) : g.start ≠ 0 := by
  have hword := Word.toNat_lt_span32 g.size
  unfold Geometry.stop at hwindow
  exact (Word.ne_zero_iff _).mpr (by omega)

theorem Walked.turned {sectors : List Sector} (h : g.Walked sectors)
    (hwindow : Word.span32 < g.stop) : ∃ upper lower, g.Turned upper lower := by
  have hstart := Word.toNat_lt_span32 g.start
  have hsize := Word.toNat_lt_span32 g.size
  have hstop : g.stop = Word.span32 + (g.stop - Word.span32) := by omega
  have hpath := h.passes.path
  rw [hstop] at hpath
  obtain ⟨upper, lower, hsplit, hupper, hlower⟩ :=
    hpath.cross h.passes.fits (Nat.le_of_lt hstart)
  have hnonempty : ∀ sector ∈ upper ++ lower, sector.size ≠ 0 := by
    rw [← hsplit]
    exact fun sector hmem => (h.passes.fits sector hmem).1
  refine ⟨upper, lower, h.pageSize, ?_, ?_, ?_, ?_⟩
  · exact hupper.abut (fun sector hmem => hnonempty sector (List.mem_append_left _ hmem))
      (Nat.le_refl _)
  · refine hlower.abut (fun sector hmem => hnonempty sector (List.mem_append_right _ hmem)) ?_
    unfold Geometry.stop
    omega
  · rw [← hsplit]
    exact h.passes.admits
  · exact h.fenced.before (start_ne_zero_of_beyond hwindow)

theorem Turned.walked {upper lower : List Sector} (h : g.Turned upper lower)
    (hwindow : Word.span32 < g.stop) : g.Walked (upper ++ lower) := by
  have hstart := Word.toNat_lt_span32 g.start
  have hsize := Word.toNat_lt_span32 g.size
  have hstop : Word.span32 + (g.stop - Word.span32) = g.stop := by omega
  have hlower : Sector.Path Word.span32 lower g.stop := by
    have hturn := Sector.path_turn.mpr h.wrapped.path
    rwa [hstop] at hturn
  refine ⟨h.pageSize, ?_, ⟨h.below.path.append hlower, h.admits, ?_⟩, fun _ => h.before, ?_⟩
  · unfold Geometry.stop at hwindow
    omega
  · intro sector hmem
    refine ⟨(h.admits sector hmem).nonempty, ?_⟩
    rcases List.mem_append.mp hmem with hupper | hlower
    · exact (h.below.mem_bounds sector hupper).2
    · have hbound := (h.wrapped.mem_bounds sector hlower).2
      unfold Geometry.stop at hbound
      omega
  · exact fun hinside => absurd hinside (Nat.not_lt_of_lt hwindow)

/-- A window that starts over has a sector at address zero, which lies outside it. -/
theorem Turned.sectorSize_zero {upper lower : List Sector} (h : g.Turned upper lower)
    (hwindow : Word.span32 < g.stop) : g.sectorSize 0 ≠ invalidSize := by
  obtain ⟨sector, rest, rfl⟩ := h.wrapped.exists_cons (Nat.sub_pos_of_lt hwindow)
  have hadmits := h.admits sector (List.mem_append_right _ List.mem_cons_self)
  have hzero : sector.start = 0 := UInt32.toNat_inj.mp h.wrapped.1
  rw [← hzero, hadmits.first]
  exact hadmits.valid

end Geometry

/-- **Beyond the top the check goes on at zero.** A window that leaves the address space is accepted
exactly when both its parts are tiled, as if the addresses went round. -/
theorem checkGeometry_ok_iff_turned {device : Device σ} (h : device.Reports inv g)
    (hwindow : Word.span32 < g.stop) (world : World σ) (hworld : inv world.state) :
    ∃ outcome next, Act.runOn (checkGeometry device).run world = (.ok outcome, next) ∧
      ((∃ report, outcome = .ok report) ↔ ∃ upper lower, g.Turned upper lower) := by
  obtain ⟨outcome, hends, hiff⟩ := checkGeometry_outcome h
  obtain ⟨next, hrun, _⟩ := hends world hworld
  refine ⟨outcome, next, hrun, ?_, ?_⟩
  · rintro ⟨report, hreport⟩
    obtain ⟨sectors, hwalked, _⟩ := (hiff report).mp hreport
    exact hwalked.turned hwindow
  · rintro ⟨upper, lower, hturned⟩
    exact ⟨_, (hiff _).mpr ⟨_, hturned.walked hwindow, rfl⟩⟩

/-- A window of two sectors, of which the second one would start at the top; no address behind the
top is in a sector. -/
def crossingTable : SectorTable where
  start := 0xC0000000
  size := 0x80000000
  pageSize := 0x100
  entries := [⟨0xC0000000, 0xFFFFFFFF, 0x40000000⟩]

/-- A device that is honest about address zero is refused. -/
theorem checkGeometry_error_crossingTable :
    Word.span32 < crossingTable.geometry.stop ∧
      ∃ error next, Act.runOn (checkGeometry crossingTable.device).run { state := 0 } =
        (.ok (.error error), next) := by
  have hstop : Word.span32 < crossingTable.geometry.stop := by decide
  obtain ⟨outcome, next, hrun, haccepts⟩ :=
    checkGeometry_ok_iff_turned crossingTable.device_reports hstop { state := 0 } trivial
  refine ⟨hstop, ?_⟩
  cases outcome with
  | error error => exact ⟨error, next, hrun⟩
  | ok report =>
      obtain ⟨upper, lower, hturned⟩ := haccepts.mp ⟨report, rfl⟩
      exact absurd (by decide) (hturned.sectorSize_zero hstop)

/-- The same window on a device that also claims addresses from zero on. -/
def turningTable : SectorTable :=
  { crossingTable with
    entries := [⟨0xC0000000, 0xFFFFFFFF, 0x40000000⟩, ⟨0, 0x3FFFFFFF, 0x40000000⟩] }

theorem turningTable_turned :
    turningTable.geometry.Turned [⟨0xC0000000, 0x40000000⟩] [⟨0, 0x40000000⟩] where
  pageSize := by decide
  below := by decide
  wrapped := by decide
  admits := by decide
  before := by decide

/-- A window that leaves the address space and is accepted all the same. -/
theorem checkGeometry_ok_turningTable :
    Word.span32 < turningTable.geometry.stop ∧
      ∃ report next, Act.runOn (checkGeometry turningTable.device).run { state := 0 } =
        (.ok (.ok report), next) := by
  have hstop : Word.span32 < turningTable.geometry.stop := by decide
  obtain ⟨outcome, hends, hiff⟩ := checkGeometry_outcome turningTable.device_reports
  have haccepts := (hiff _).mpr ⟨_, turningTable_turned.walked hstop, rfl⟩
  subst haccepts
  obtain ⟨next, hrun, _⟩ := hends { state := 0 } trivial
  exact ⟨hstop, _, next, hrun⟩

end FlashBench
