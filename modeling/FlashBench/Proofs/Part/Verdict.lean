import FlashBench.Proofs.Part.Creation
import FlashBench.Proofs.Part.Layout

/-!
# The verdict on a layout

`FlashLayout.validate` judges regions whose starts were cut to words. This module says what it comes
to in exact numbers, from the runs alone.

* **`regionsFrom_eq`**: the regions are those of `regionList`, unless the bytes leave 64 bits, and
  then there are none.
* **`chained_regionList_iff`**: regions with cut starts form a chain only if nothing was cut, since
  each start is compared with the exact end of the region before it.
* **`validate_exact`**: a layout is accepted exactly when it is `Backable`.
* **`verdict_iff_fits`**: it gets a verdict exactly when its end is a 64-bit number. Two runs are
  enough for one without (`twiceOverLayout`).
-/

namespace FlashBench

/-- The run can back a part with this page size when it starts at `first`. -/
structure SectorRun.SoundAt (pageSize : UInt32) (first : Nat) (run : SectorRun) : Prop where
  count_ne_zero : run.count ≠ 0
  size_ne_zero : run.size ≠ 0
  size_valid : run.size ≠ 0xFFFFFFFF
  pages : pageSize.toNat ∣ run.size.toNat
  aligned : run.size.toNat ∣ first

/-- A sound run takes at least one byte. -/
theorem SectorRun.SoundAt.bytes_pos {pageSize : UInt32} {first : Nat} {run : SectorRun}
    (h : run.SoundAt pageSize first) : 0 < run.bytes :=
  Nat.mul_pos ((Word.ne_zero_iff _).mp h.size_ne_zero) ((Word.ne_zero_iff _).mp h.count_ne_zero)

namespace FlashLayout

variable {layout : FlashLayout} {pageSize : UInt32}

/-- Runs that follow each other from `first` on, each with the exact address it starts at. -/
def placedFrom (first : Nat) : List SectorRun → List (Nat × SectorRun)
  | [] => []
  | run :: runs => (first, run) :: placedFrom (first + run.bytes) runs

/-- The runs of a layout with the exact addresses they start at. -/
def placedRuns (layout : FlashLayout) : List (Nat × SectorRun) :=
  placedFrom layout.start.toNat layout.sectors

/-- A part can have this layout. The conditions are on exact numbers; nothing is cut. -/
structure Backable (layout : FlashLayout) : Prop where
  paged : 0 < layout.pageSize.toNat
  nonempty : layout.sectors ≠ []
  sound : ∀ placed ∈ layout.placedRuns, placed.2.SoundAt layout.pageSize placed.1
  top : layout.start.toNat + bytesOf layout.sectors ≤ Word.span32
  span : bytesOf layout.sectors ≤ Word.span32 - 1

/-- The regions of runs from `first` on, with their starts cut to words. -/
def regionList (first : Nat) : List SectorRun → List SectorRegion
  | [] => []
  | run :: runs => ⟨Word.low32 first, run.size, run.count⟩ :: regionList (first + run.bytes) runs

/-- The map of a layout whose bytes can be counted. -/
def regionMap (layout : FlashLayout) : SectorMap :=
  ⟨(regionList layout.start.toNat layout.sectors).toArray⟩

/-! ## Counting in 64 bits -/

/-- **There are regions** exactly as long as the end of the last one is a 64-bit number. -/
theorem regionsFrom_eq {first : Nat} {runs : List SectorRun} (hfirst : first < Word.span64) :
    regionsFrom first runs =
      if first + bytesOf runs < Word.span64 then .ok (regionList first runs)
      else .error .arithmetic := by
  induction runs generalizing first with
  | nil => simp [regionsFrom, regionList, bytesOf, hfirst]
  | cons run runs ih =>
      simp only [regionsFrom, regionList, bytesOf, ← Nat.add_assoc]
      by_cases hnext : first + run.bytes < Word.span64
      · rw [Word.fit64_of_lt hnext]
        show (regionsFrom (first + run.bytes) runs >>= _) = _
        rw [ih hnext]
        split <;> rfl
      · have hover : ¬ first + run.bytes + bytesOf runs < Word.span64 := by omega
        simp [Word.fit64, hnext, hover, bind, Except.bind]

theorem start_lt_span64 (layout : FlashLayout) : layout.start.toNat < Word.span64 :=
  Nat.lt_trans layout.start.toNat_lt (by decide)

theorem regions_eq (layout : FlashLayout) :
    layout.regions =
      if layout.stop < Word.span64 then .ok (regionList layout.start.toNat layout.sectors)
      else .error .arithmetic :=
  regionsFrom_eq layout.start_lt_span64

theorem sectorMap_eq (layout : FlashLayout) :
    layout.sectorMap =
      if layout.stop < Word.span64 then .ok layout.regionMap else .error .arithmetic := by
  unfold sectorMap
  rw [regions_eq]
  split <;> rfl

theorem validate_eq (layout : FlashLayout) :
    layout.validate =
      if layout.stop < Word.span64 then .ok (layout.regionMap.validate layout.pageSize)
      else .error .arithmetic := by
  unfold validate
  rw [sectorMap_eq]
  split <;> rfl

/-! ## What the cut starts come to -/

theorem end_le_of_mem_placedFrom {first : Nat} {runs : List SectorRun} :
    ∀ placed ∈ placedFrom first runs, placed.1 + placed.2.bytes ≤ first + bytesOf runs := by
  induction runs generalizing first with
  | nil => simp [placedFrom]
  | cons run runs ih =>
      simp only [placedFrom, bytesOf, List.forall_mem_cons]
      refine ⟨by omega, fun placed hmem => ?_⟩
      have hle := ih placed hmem
      omega

/-- A region with a cut start is sound where it is expected exactly when nothing was cut and its run
is sound there. -/
theorem sound_region_iff {first : Nat} {run : SectorRun} :
    (Word.low32 first).toNat = first ∧
        SectorRegion.Sound pageSize ⟨Word.low32 first, run.size, run.count⟩ ↔
      first < Word.span32 ∧ run.SoundAt pageSize first := by
  constructor
  · rintro ⟨hstart, hsound⟩
    have haligned := hsound.aligned
    simp only [hstart] at haligned
    refine ⟨hstart ▸ Word.toNat_lt_span32 _, ?_⟩
    exact ⟨hsound.count_ne_zero, hsound.size_ne_zero, hsound.size_valid, hsound.pages, haligned⟩
  · rintro ⟨hlt, hsound⟩
    have hstart : (Word.low32 first).toNat = first := Word.toNat_ofNat_of_lt hlt
    refine ⟨hstart, hsound.size_ne_zero, hsound.size_valid, hsound.count_ne_zero, hsound.pages, ?_⟩
    simpa only [hstart] using hsound.aligned

/-- **Cut starts line up only if nothing was cut.** A chain asks of each region that its start, a
word, is the exact end of the one before it; so no run lies behind the address space, however many
times round it their sizes may lead. -/
theorem chained_regionList_iff {first stop : Nat} {runs : List SectorRun} :
    SectorRegion.Chained pageSize first (regionList first runs) stop ↔
      (∀ placed ∈ placedFrom first runs,
        placed.1 < Word.span32 ∧ placed.2.SoundAt pageSize placed.1) ∧
      stop = first + bytesOf runs := by
  induction runs generalizing first with
  | nil => simp [regionList, placedFrom, bytesOf, SectorRegion.Chained, eq_comm]
  | cons run runs ih =>
      simp only [regionList, placedFrom, bytesOf, SectorRegion.Chained, List.forall_mem_cons,
        ← Nat.add_assoc]
      rw [← and_assoc, sound_region_iff, and_assoc (c := stop = _), ← ih]
      refine and_congr_right fun hhead => ?_
      have hstart : (Word.low32 first).toNat = first := Word.toNat_ofNat_of_lt hhead.1
      have hnext : SectorRegion.stop ⟨Word.low32 first, run.size, run.count⟩ = first + run.bytes :=
        congrArg (· + run.bytes) hstart
      rw [hnext]

/-- Regions whose runs lie in the address space start where the runs do. -/
theorem map_regionList {first : Nat} {runs : List SectorRun}
    (hlow : ∀ placed ∈ placedFrom first runs, placed.1 < Word.span32) :
    (regionList first runs).map (fun region =>
      (region.start.toNat, SectorRun.mk region.sectorSize region.count)) =
      placedFrom first runs := by
  induction runs generalizing first with
  | nil => rfl
  | cons run runs ih =>
      simp only [placedFrom, List.forall_mem_cons] at hlow
      have hstart : (Word.low32 first).toNat = first := Word.toNat_ofNat_of_lt hlow.1
      simp only [regionList, placedFrom, List.map_cons, hstart, ih hlow.2]

/-! ## What is accepted -/

theorem start_regionMap (hne : layout.sectors ≠ []) : layout.regionMap.start = layout.start := by
  cases hruns : layout.sectors with
  | nil => exact absurd hruns hne
  | cons run runs =>
      simp [regionMap, SectorMap.start, hruns, regionList, Word.low32_toNat]

theorem regionMap_ne_nil_iff : layout.regionMap.regions.toList ≠ [] ↔ layout.sectors ≠ [] := by
  cases hruns : layout.sectors with
  | nil => simp [regionMap, hruns, regionList]
  | cons run runs => simp [regionMap, hruns, regionList]

/-- No run of a backable layout starts behind the address space, since there is a byte in it. -/
theorem Backable.start_lt (h : layout.Backable) :
    ∀ placed ∈ layout.placedRuns, placed.1 < Word.span32 := by
  intro placed hmem
  have hend := end_le_of_mem_placedFrom placed hmem
  have hbytes := (h.sound placed hmem).bytes_pos
  have htop := h.top
  omega

theorem Backable.chained (h : layout.Backable) :
    SectorRegion.Chained layout.pageSize layout.start.toNat layout.regionMap.regions.toList
      layout.stop :=
  chained_regionList_iff.mpr
    ⟨fun placed hmem => ⟨h.start_lt placed hmem, h.sound placed hmem⟩, rfl⟩

theorem Backable.stop_lt (h : layout.Backable) : layout.stop < Word.span64 :=
  Nat.lt_of_le_of_lt h.top (by decide)

/-- **The map of a layout is valid** exactly when the layout is backable. -/
theorem valid_regionMap_iff : layout.regionMap.Valid layout.pageSize ↔ layout.Backable := by
  have hwords : 0 < Word.span32 := by decide
  constructor
  · intro h
    have hne := regionMap_ne_nil_iff.mp h.nonempty
    have hchained := h.chained
    have htop := h.top
    have hspan := h.span
    rw [start_regionMap hne] at hchained hspan
    obtain ⟨hsound, hstop⟩ := chained_regionList_iff.mp hchained
    rw [hstop] at htop hspan
    refine ⟨h.paged, hne, fun placed hmem => (hsound placed hmem).2, ?_, ?_⟩ <;> omega
  · intro h
    have hne := regionMap_ne_nil_iff.mpr h.nonempty
    have hstart := start_regionMap h.nonempty
    have hstop := SectorMap.stop_eq_of_chained hne h.chained
    have htop := h.top
    have hspan := h.span
    have hend : layout.stop = layout.start.toNat + bytesOf layout.sectors := rfl
    refine ⟨h.paged, hne, ?_, ?_, ?_⟩
    · rw [hstart, hstop]
      exact h.chained
    · omega
    · rw [hstart, hstop]
      omega

theorem validate_eq_ok_iff : layout.validate = .ok (.ok ()) ↔ layout.Backable := by
  rw [validate_eq]
  by_cases hfits : layout.stop < Word.span64
  · rw [if_pos hfits, ← valid_regionMap_iff, ← SectorMap.validate_eq_ok_iff]
    exact ⟨Except.ok.inj, congrArg Except.ok⟩
  · rw [if_neg hfits]
    exact ⟨nofun, fun h => absurd h.stop_lt hfits⟩

/-- **The check of a layout is exact, although it works on addresses cut to words.** It accepts
exactly the backable layouts, and does come to a verdict on every layout whose byte totals stay
below `2 ^ 64`; the totals only grow, so the last one says so for all. The regions of an accepted
layout start at the exact addresses, and its capacity is the size of its map. -/
theorem validate_exact (layout : FlashLayout) :
    (layout.validate = .ok (.ok ()) ↔ layout.Backable) ∧
      (layout.stop < Word.span64 → ∃ verdict, layout.validate = .ok verdict) ∧
      (layout.validate = .ok (.ok ()) → ∃ regions capacity size,
        layout.regions = .ok regions ∧ layout.capacity = .ok capacity ∧
        regions.map (fun region =>
          (region.start.toNat, SectorRun.mk region.sectorSize region.count)) =
          layout.placedRuns ∧
        SectorMap.size ⟨regions.toArray⟩ = .ok size ∧ size.toNat = capacity) := by
  refine ⟨validate_eq_ok_iff, fun hfits => ?_, fun haccepted => ?_⟩
  · rw [validate_eq, if_pos hfits]
    exact ⟨_, rfl⟩
  · have h := validate_eq_ok_iff.mp haccepted
    have hvalid := valid_regionMap_iff.mpr h
    have hmap : layout.sectorMap = .ok layout.regionMap := by
      rw [sectorMap_eq, if_pos h.stop_lt]
    have hregions : layout.regions = .ok (regionList layout.start.toNat layout.sectors) := by
      rw [regions_eq, if_pos h.stop_lt]
    refine ⟨_, _, _, hregions, capacity_of_sectorMap hmap, map_regionList h.start_lt,
      hvalid.size_eq, ?_⟩
    have hstop := SectorMap.stop_eq_of_chained hvalid.nonempty h.chained
    have hend : layout.stop = layout.start.toNat + bytesOf layout.sectors := rfl
    rw [hvalid.toNat_size, start_regionMap h.nonempty, hstop]
    omega

/-- Sectors of two sizes up to the top of the address space. -/
def summitLayout : FlashLayout where
  start := 0xFFFE0000
  pageSize := 256
  sectors := [⟨0x1000, 16⟩, ⟨0x8000, 2⟩]

theorem validate_exact_summitLayout :
    summitLayout.stop < Word.span64 ∧ summitLayout.validate = .ok (.ok ()) ∧
      summitLayout.Backable ∧
      summitLayout.placedRuns = [(0xFFFE0000, ⟨0x1000, 16⟩), (0xFFFF0000, ⟨0x8000, 2⟩)] ∧
      ∃ regions, summitLayout.regions = .ok regions ∧
        regions.map (·.start.toNat) = [0xFFFE0000, 0xFFFF0000] := by
  obtain ⟨hiff, hverdict, hexact⟩ := validate_exact summitLayout
  have hfits : summitLayout.stop < Word.span64 := by decide
  have haccepted : summitLayout.validate = .ok (.ok ()) := rfl
  obtain ⟨regions, _, _, hregions, _, hplaced, _⟩ := hexact haccepted
  refine ⟨hfits, haccepted, hiff.mp haccepted, rfl, regions, hregions, ?_⟩
  have hstarts := congrArg (List.map Prod.fst) hplaced
  rw [List.map_map] at hstarts
  exact hstarts

end FlashLayout

/-! ## Layouts without a verdict -/

/-- A region ends within 64 bits: it starts at a word, and its bytes are the product of two. -/
theorem SectorRegion.stop_lt_span64 (region : SectorRegion) : region.stop < Word.span64 := by
  have hsize : region.size ≤ (2 ^ 32 - 1) * (2 ^ 32 - 1) :=
    Nat.mul_le_mul (Nat.le_of_lt_succ region.sectorSize.toNat_lt)
      (Nat.le_of_lt_succ region.count.toNat_lt)
  have hstart := region.start.toNat_lt
  have hspan : Word.span64 = 2 ^ 64 := rfl
  unfold stop
  omega

namespace FlashLayout

/-- **A layout gets a verdict exactly if its end is a 64-bit number;** otherwise counting its bytes
overflows. Nothing else can: the end of a single region always fits. Bringing a part up comes to the
verdict first. An error of the layout ends it with the files as they were, and on an accepted layout
it ends with a part or with an error of the image. -/
theorem verdict_iff_fits (layout : FlashLayout) :
    ((∃ verdict, layout.validate = .ok verdict) ↔ layout.stop < Word.span64) ∧
      (∀ region : SectorRegion, region.stop < Word.span64) ∧
      ∀ timing backing world,
        let made := (Controller.bringUp layout timing backing).run.runOn world
        (Word.span64 ≤ layout.stop → layout.validate = .error .arithmetic ∧
          made = (.error .arithmetic, world)) ∧
        (∀ error, layout.validate = .ok (.error error) →
          made = (.ok (.error (.geometry error)), world)) ∧
        (layout.validate = .ok (.ok ()) → ∃ outcome next, made = (.ok outcome, next) ∧
          ∀ error, outcome ≠ .error (.geometry error)) := by
  refine ⟨?_, SectorRegion.stop_lt_span64, fun timing backing world => ⟨?_, ?_, ?_⟩⟩
  · rw [validate_eq]
    by_cases hfits : layout.stop < Word.span64
    · rw [if_pos hfits]
      exact ⟨fun _ => hfits, fun _ => ⟨_, rfl⟩⟩
    · rw [if_neg hfits]
      exact ⟨nofun, fun h => absurd h hfits⟩
  · intro hover
    have hfault : layout.validate = .error .arithmetic := by
      rw [validate_eq, if_neg (Nat.not_lt_of_le hover)]
    exact ⟨hfault, Controller.bringUp_fault hfault⟩
  · intro error hrefused
    exact Controller.bringUp_refused hrefused
  · intro haccepted
    exact Controller.bringUp_accepted haccepted

theorem verdict_iff_fits_summitLayout :
    summitLayout.stop < Word.span64 ∧ summitLayout.validate = .ok (.ok ()) ∧
      (∃ verdict, summitLayout.validate = .ok verdict) ∧
      ∃ outcome next, (Controller.bringUp summitLayout {} (some "")).run.runOn { state := {} } =
        (.ok outcome, next) := by
  obtain ⟨hiff, _, hmade⟩ := verdict_iff_fits summitLayout
  have hfits : summitLayout.stop < Word.span64 := by decide
  have haccepted : summitLayout.validate = .ok (.ok ()) := rfl
  obtain ⟨_, _, hopened⟩ := hmade {} (some "") { state := {} }
  obtain ⟨outcome, next, hrun, _⟩ := hopened haccepted
  exact ⟨hfits, haccepted, hiff.mpr hfits, outcome, next, hrun⟩

/-- Two runs of the largest size and count. The first one alone is refused, and the two together
take more than 64 bits. -/
def twiceOverLayout : FlashLayout where
  start := 0
  pageSize := 256
  sectors := [⟨0xFFFFFFFF, 0xFFFFFFFF⟩, ⟨0xFFFFFFFF, 0xFFFFFFFF⟩]

theorem no_verdict_twiceOverLayout :
    twiceOverLayout.validate = .error .arithmetic ∧
      ¬ ∃ verdict, twiceOverLayout.validate = .ok verdict := by
  have hfault : twiceOverLayout.validate = .error .arithmetic := rfl
  refine ⟨hfault, ?_⟩
  rw [hfault]
  exact nofun

end FlashLayout

end FlashBench
