import FlashBench.Proofs.Geometry.Tiling

/-!
# Sector maps that are valid

What `SectorMap.validate` accepts, and what the lookups of an accepted map answer.

* **`validate_eq_ok_iff`**: the map is accepted exactly when its regions form a **chain**, each sound
  by itself and starting where the one before it ends, inside the address space.
* **`regionOf_eq_some_iff`**: the binary search finds the region that contains the address, whichever
  it is, and nothing else.
* **`sectors_abut`**: the sectors of all regions, written out, tile the map.
-/

namespace FlashBench

/-! ## The binary search -/

section PartitionPoint

variable {α : Type} {xs : Array α} {p : α → Bool}

/-- The elements that satisfy `p` form a prefix of the array. -/
def PrefixHolds (xs : Array α) (p : α → Bool) : Prop :=
  ∀ i j : Nat, i ≤ j → (xs[j]?).any p → (xs[i]?).any p

/-- **Halving keeps the answer between the bounds.** Below `base` everything satisfies `p`, from
`base + size` on nothing does. -/
theorem partitionFrom_spec (hmono : PrefixHolds xs p)
    (base size : Nat) (hsize : 1 ≤ size) (hbelow : ∀ i, i < base → (xs[i]?).any p)
    (habove : ∀ i, base + size ≤ i → ¬ (xs[i]?).any p) (i : Nat) :
    i < partitionFrom xs p base size ↔ (xs[i]?).any p := by
  fun_induction partitionFrom xs p base size with
  | case1 base size hle hprobe =>
      constructor
      · intro hi
        exact hmono i base (Nat.le_of_lt_succ hi) hprobe
      · intro hp
        exact Nat.lt_of_not_le fun hi => habove i (by omega) hp
  | case2 base size hle hprobe =>
      constructor
      · exact hbelow i
      · intro hp
        exact Nat.lt_of_not_le fun hi => hprobe (hmono base i hi hp)
  | case3 base size hle probe ih =>
      have hprobe : probe = base + size / 2 := rfl
      apply ih
      · omega
      · intro i hi
        split at hi
        · exact hmono i probe (Nat.le_of_lt hi) ‹_›
        · exact hbelow i hi
      · intro i hi hp
        split at hi
        · exact habove i (by omega) hp
        · exact absurd (hmono probe i (by omega) hp) ‹_›

/-- Where `p` holds of a prefix and of nothing else, the search counts the prefix. -/
theorem partitionPoint_spec (hmono : PrefixHolds xs p) (i : Nat) :
    i < partitionPoint xs p ↔ (xs[i]?).any p := by
  have habove : ∀ i, xs.size ≤ i → ¬ (xs[i]?).any p := by
    intro i hi
    simp [Array.getElem?_eq_none hi]
  unfold partitionPoint
  by_cases hempty : xs.size = 0
  · rw [if_pos hempty]
    exact ⟨fun hi => absurd hi (Nat.not_lt_zero _), fun hp => absurd hp (habove i (by omega))⟩
  · rw [if_neg hempty]
    exact partitionFrom_spec hmono 0 xs.size (by omega) (fun i hi => absurd hi (Nat.not_lt_zero _))
      (by simpa using habove) i

end PartitionPoint

/-! ## Chains of regions -/

namespace SectorRegion

/-- A region can back a device with this page size. -/
structure Sound (pageSize : UInt32) (region : SectorRegion) : Prop where
  size_ne_zero : region.sectorSize ≠ 0
  size_valid : region.sectorSize ≠ invalidSize
  count_ne_zero : region.count ≠ 0
  pages : pageSize.toNat ∣ region.sectorSize.toNat
  aligned : region.sectorSize.toNat ∣ region.start.toNat

/-- Sound regions that start at `first`, each where the one before it ends, the last ending at
`stop`. -/
def Chained (pageSize : UInt32) : Nat → List SectorRegion → Nat → Prop
  | first, [], stop => first = stop
  | first, region :: rest, stop =>
      region.start.toNat = first ∧ region.Sound pageSize ∧ Chained pageSize region.stop rest stop

variable {pageSize : UInt32} {first stop : Nat} {regions : List SectorRegion}

theorem Sound.start_lt_stop {region : SectorRegion} (h : region.Sound pageSize) :
    region.start.toNat < region.stop :=
  Nat.lt_add_of_pos_right (Nat.mul_pos ((Word.ne_zero_iff _).mp h.size_ne_zero)
    ((Word.ne_zero_iff _).mp h.count_ne_zero))

theorem contains_iff (region : SectorRegion) (address : UInt32) :
    region.contains address = true ↔
      region.start.toNat ≤ address.toNat ∧ address.toNat < region.stop := by
  simp [contains, UInt32.le_iff_toNat_le]

theorem Chained.le (h : Chained pageSize first regions stop) : first ≤ stop := by
  induction regions generalizing first with
  | nil => exact Nat.le_of_eq h
  | cons region rest ih =>
      obtain ⟨hstart, hsound, hrest⟩ := h
      have hlt := hsound.start_lt_stop
      have hle := ih hrest
      omega

/-- Every region of a chain is sound and lies inside it. -/
theorem Chained.mem_bounds (h : Chained pageSize first regions stop) :
    ∀ region ∈ regions, region.Sound pageSize ∧ first ≤ region.start.toNat ∧
      region.stop ≤ stop := by
  induction regions generalizing first with
  | nil => simp
  | cons head rest ih =>
      obtain ⟨hstart, hsound, hrest⟩ := h
      intro region hmem
      rcases List.mem_cons.mp hmem with rfl | hmem
      · exact ⟨hsound, Nat.le_of_eq hstart.symm, hrest.le⟩
      · obtain ⟨hregion, hfirst, hstop⟩ := ih hrest region hmem
        have hlt := hsound.start_lt_stop
        exact ⟨hregion, by omega, hstop⟩

/-- Of two regions of a chain the one in front ends before the other starts. -/
theorem Chained.pairwise (h : Chained pageSize first regions stop) :
    regions.Pairwise fun front back => front.stop ≤ back.start.toNat := by
  induction regions generalizing first with
  | nil => exact .nil
  | cons region rest ih =>
      obtain ⟨_, _, hrest⟩ := h
      exact .cons (fun back hback => (hrest.mem_bounds back hback).2.1) (ih hrest)

theorem Chained.getLast?_stop (h : Chained pageSize first regions stop) :
    (regions.getLast?).elim first (·.stop) = stop := by
  induction regions generalizing first with
  | nil => exact h
  | cons region rest ih =>
      obtain ⟨_, _, hrest⟩ := h
      have hlast := ih hrest
      cases rest with
      | nil => exact hlast
      | cons next rest => rwa [List.getLast?_cons_cons]

end SectorRegion

/-! ## What is accepted -/

namespace SectorMap

open SectorRegion

variable {pageSize : UInt32} {map : SectorMap}

theorem checkRegion_eq_ok_iff {expected next : Nat} {region : SectorRegion} :
    checkRegion pageSize expected region = .ok next ↔
      region.start.toNat = expected ∧ region.Sound pageSize ∧ region.stop = next := by
  unfold checkRegion
  constructor
  · intro h
    split at h
    · cases h
    split at h
    · cases h
    split at h
    · cases h
    split at h
    · cases h
    rename_i hstart husable hpages haligned
    simp only [not_or] at husable
    refine ⟨Decidable.not_not.mp hstart, ⟨husable.1, husable.2.1, husable.2.2, ?_, ?_⟩,
      Except.ok.inj h⟩
    · exact (Word.mod_eq_zero_iff _ _).mp (Decidable.not_not.mp hpages)
    · exact (Word.mod_eq_zero_iff _ _).mp (Decidable.not_not.mp haligned)
  · rintro ⟨hstart, hsound, rfl⟩
    rw [if_neg (not_not_intro hstart),
      if_neg (by simp [hsound.size_ne_zero, hsound.size_valid, hsound.count_ne_zero]),
      if_neg (not_not_intro ((Word.mod_eq_zero_iff _ _).mpr hsound.pages)),
      if_neg (not_not_intro ((Word.mod_eq_zero_iff _ _).mpr hsound.aligned))]

theorem foldlM_checkRegion_eq_ok_iff {first stop : Nat} {regions : List SectorRegion} :
    regions.foldlM (checkRegion pageSize) first = .ok stop ↔
      Chained pageSize first regions stop := by
  induction regions generalizing first with
  | nil =>
      rw [List.foldlM_nil]
      exact ⟨Except.ok.inj, congrArg Except.ok⟩
  | cons region rest ih =>
      rw [List.foldlM_cons]
      unfold Chained
      rw [← ih]
      cases hcheck : checkRegion pageSize first region with
      | error error =>
          constructor
          · exact nofun
          · rintro ⟨hstart, hsound, _⟩
            exact nomatch hcheck.symm.trans (checkRegion_eq_ok_iff.mpr ⟨hstart, hsound, rfl⟩)
      | ok next =>
          obtain ⟨hstart, hsound, hnext⟩ := checkRegion_eq_ok_iff.mp hcheck
          rw [hnext]
          exact ⟨fun h => ⟨hstart, hsound, h⟩, fun h => h.2.2⟩

/-- The map can back a device: its regions form a chain, and the window they span fits into the
address space and its size into a word. -/
structure Valid (map : SectorMap) (pageSize : UInt32) : Prop where
  paged : 0 < pageSize.toNat
  nonempty : map.regions.toList ≠ []
  chained : Chained pageSize map.start.toNat map.regions.toList map.stop
  top : map.stop ≤ Word.span32
  span : map.stop - map.start.toNat < Word.span32

theorem start_eq_of_toList {first : SectorRegion} {rest : List SectorRegion}
    (h : map.regions.toList = first :: rest) : map.start = first.start := by
  unfold start
  rw [← Array.getElem?_toList, h]
  rfl

theorem stop_eq_of_chained (hne : map.regions.toList ≠ []) {first stop : Nat}
    (h : Chained pageSize first map.regions.toList stop) : map.stop = stop := by
  have hlast := h.getLast?_stop
  unfold SectorMap.stop
  rw [← Array.getLast?_toList]
  rwa [List.getLast?_eq_some_getLast hne] at hlast ⊢

theorem validate_eq_ok_iff : map.validate pageSize = .ok () ↔ map.Valid pageSize := by
  unfold validate
  rw [← Array.getElem?_toList]
  by_cases hpage : pageSize = 0
  · rw [if_pos hpage]
    refine ⟨nofun, fun h => ?_⟩
    exact absurd hpage ((Word.ne_zero_iff _).mpr h.paged)
  rw [if_neg hpage]
  cases hregions : map.regions.toList with
  | nil => exact ⟨nofun, fun h => absurd hregions h.nonempty⟩
  | cons first rest =>
      have hne : map.regions.toList ≠ [] := by simp [hregions]
      have hstart := start_eq_of_toList hregions
      simp only [List.getElem?_cons_zero]
      rw [← hregions, ← hstart]
      cases hfold : map.regions.toList.foldlM (checkRegion pageSize) map.start.toNat with
      | error error =>
          refine ⟨nofun, fun h => ?_⟩
          exact nomatch hfold.symm.trans (foldlM_checkRegion_eq_ok_iff.mpr h.chained)
      | ok stop =>
          have hchained := foldlM_checkRegion_eq_ok_iff.mp hfold
          have hstop := stop_eq_of_chained hne hchained
          show (if stop > Word.span32 then _ else _) = _ ↔ _
          constructor
          · intro h
            split at h
            · cases h
            split at h
            · cases h
            rename_i htop hspan
            rw [← hstop] at hchained htop hspan
            exact ⟨(Word.ne_zero_iff _).mp hpage, hne, hchained, Nat.le_of_not_lt htop,
              Nat.lt_of_not_le hspan⟩
          · intro h
            rw [← hstop, if_neg (Nat.not_lt_of_le h.top), if_neg (Nat.not_le_of_lt h.span)]
            rfl

theorem Valid.mem_bounds (h : map.Valid pageSize) {region : SectorRegion}
    (hmem : region ∈ map.regions.toList) :
    region.Sound pageSize ∧ map.start.toNat ≤ region.start.toNat ∧ region.stop ≤ map.stop :=
  h.chained.mem_bounds region hmem

theorem Valid.start_lt_stop (h : map.Valid pageSize) : map.start.toNat < map.stop := by
  obtain ⟨region, hmem⟩ := List.exists_mem_of_ne_nil _ h.nonempty
  obtain ⟨hsound, hstart, hstop⟩ := h.mem_bounds hmem
  have hlt := hsound.start_lt_stop
  omega

/-- The size of a valid map is exact: the end lies above the start, and the distance is a word. -/
theorem Valid.size_eq (h : map.Valid pageSize) :
    map.size = .ok (UInt32.ofNat (map.stop - map.start.toNat)) := by
  unfold size Word.minus
  rw [if_pos (Nat.le_of_lt h.start_lt_stop)]
  show Except.ok _ = _
  rw [if_pos h.span]

/-! ## Lookups -/

/-- Of two regions of a valid map the one further down ends before the other one starts. -/
theorem Valid.stop_le_start (h : map.Valid pageSize) {i j : Nat} {front back : SectorRegion}
    (hfront : map.regions[i]? = some front) (hback : map.regions[j]? = some back) (hij : i < j) :
    front.stop ≤ back.start.toNat := by
  rw [← Array.getElem?_toList] at hfront hback
  obtain ⟨hi, rfl⟩ := List.getElem?_eq_some_iff.mp hfront
  obtain ⟨hj, rfl⟩ := List.getElem?_eq_some_iff.mp hback
  exact List.pairwise_iff_getElem.mp h.chained.pairwise i j hi hj hij

theorem Valid.start_lt_stop_of_getElem? (h : map.Valid pageSize) {i : Nat} {region : SectorRegion}
    (hregion : map.regions[i]? = some region) : region.start.toNat < region.stop :=
  (h.mem_bounds (Array.mem_toList_iff.mpr (Array.mem_of_getElem? hregion))).1.start_lt_stop

/-- In a valid map the regions that start at or below an address form a prefix. -/
theorem Valid.prefixHolds (h : map.Valid pageSize) (address : UInt32) :
    PrefixHolds map.regions fun region => region.start ≤ address := by
  intro i j hij hj
  rcases Nat.eq_or_lt_of_le hij with rfl | hlt
  · exact hj
  obtain ⟨back, hback, hle⟩ := (Option.any_eq_true _ _).mp hj
  have hilt : i < map.regions.size :=
    Nat.lt_trans hlt (Array.getElem?_eq_some_iff.mp hback).1
  have hfront := Array.getElem?_eq_getElem hilt
  have hapart := h.stop_le_start hfront hback hlt
  have hnonempty := h.start_lt_stop_of_getElem? hfront
  rw [hfront]
  simp only [decide_eq_true_eq, UInt32.le_iff_toNat_le, Option.any_some] at hle ⊢
  omega

/-- The region that contains an address is the last one that starts at or below it. -/
theorem Valid.partitionPoint_eq (h : map.Valid pageSize) {address : UInt32} {i : Nat}
    {region : SectorRegion} (hregion : map.regions[i]? = some region)
    (hcontains : region.contains address = true) :
    partitionPoint map.regions (·.start ≤ address) = i + 1 := by
  have hpoint := partitionPoint_spec (h.prefixHolds address)
  have hbounds := (region.contains_iff address).mp hcontains
  have hcounted : i < partitionPoint map.regions (·.start ≤ address) := by
    rw [hpoint i, hregion]
    simpa [UInt32.le_iff_toNat_le] using hbounds.1
  -- a region after it starts behind the address
  have hlast : ¬ i + 1 < partitionPoint map.regions (·.start ≤ address) := by
    rw [hpoint (i + 1)]
    intro hnext
    obtain ⟨next, hget, hle⟩ := (Option.any_eq_true _ _).mp hnext
    have hapart := h.stop_le_start hregion hget (Nat.lt_succ_self i)
    simp only [decide_eq_true_eq, UInt32.le_iff_toNat_le] at hle
    omega
  omega

/-- **The binary search is exact.** It finds the region that contains the address, if there is
one. -/
theorem Valid.regionOf_eq_some_iff (h : map.Valid pageSize) {address : UInt32}
    {region : SectorRegion} :
    map.regionOf address = some region ↔
      region ∈ map.regions.toList ∧ region.contains address = true := by
  unfold regionOf
  constructor
  · intro hfound
    split at hfound
    · cases hfound
    · rw [Option.filter_eq_some_iff] at hfound
      exact ⟨Array.mem_toList_iff.mpr (Array.mem_of_getElem? hfound.1), hfound.2⟩
  · rintro ⟨hmem, hcontains⟩
    obtain ⟨i, hi, hget⟩ := List.getElem_of_mem hmem
    have hregion : map.regions[i]? = some region := by
      rw [← Array.getElem?_toList, List.getElem?_eq_getElem hi, hget]
    rw [h.partitionPoint_eq hregion hcontains]
    exact Option.filter_eq_some_iff.mpr ⟨hregion, hcontains⟩

theorem Valid.sectorSize_of_mem (h : map.Valid pageSize) {region : SectorRegion}
    (hmem : region ∈ map.regions.toList) {address : UInt32}
    (hstart : region.start.toNat ≤ address.toNat) (hstop : address.toNat < region.stop) :
    map.sectorSize address = region.sectorSize := by
  have hregion := h.regionOf_eq_some_iff.mpr
    ⟨hmem, (region.contains_iff address).mpr ⟨hstart, hstop⟩⟩
  rw [sectorSize, hregion]
  rfl

/-- No region of a valid map reaches out of it. -/
theorem Valid.regionOf_outside (h : map.Valid pageSize) {address : UInt32}
    (houtside : address.toNat < map.start.toNat ∨ map.stop ≤ address.toNat) :
    map.regionOf address = none := by
  rw [Option.eq_none_iff_forall_ne_some]
  intro region hfound
  obtain ⟨hmem, hcontains⟩ := h.regionOf_eq_some_iff.mp hfound
  have hbounds := (region.contains_iff address).mp hcontains
  have hinside := (h.mem_bounds hmem).2
  omega

theorem Valid.sectorSize_outside (h : map.Valid pageSize) {address : UInt32}
    (houtside : address.toNat < map.start.toNat ∨ map.stop ≤ address.toNat) :
    map.sectorSize address = invalidSize := by
  rw [sectorSize, h.regionOf_outside houtside]
  rfl

end SectorMap

/-! ## The sectors of a map -/

/-- `count` sectors of one size from the address `first` on. -/
def sectorRun (first : Nat) (size : UInt32) (count : Nat) : List Sector :=
  (List.range count).map fun i => ⟨Word.low32 (first + i * size.toNat), size⟩

theorem sectorRun_succ (first : Nat) (size : UInt32) (count : Nat) :
    sectorRun first size (count + 1) =
      sectorRun first size count ++ [⟨Word.low32 (first + count * size.toNat), size⟩] := by
  simp [sectorRun, List.range_succ]

theorem size_of_mem_sectorRun {first count : Nat} {size : UInt32} {sector : Sector}
    (h : sector ∈ sectorRun first size count) : sector.size = size := by
  obtain ⟨_, _, rfl⟩ := List.mem_map.mp h
  rfl

theorem sectorRun_abut {first count : Nat} {size : UInt32} (hsize : size ≠ 0)
    (htop : first + count * size.toNat ≤ Word.span32) :
    Sector.Abut first (sectorRun first size count) (first + count * size.toNat) := by
  have hpos := (Word.ne_zero_iff _).mp hsize
  induction count with
  | zero => simp [sectorRun, Sector.Abut]
  | succ count ih =>
      rw [Nat.succ_mul, ← Nat.add_assoc] at htop ⊢
      rw [sectorRun_succ]
      have hlast : (Word.low32 (first + count * size.toNat)).toNat = first + count * size.toNat :=
        Word.toNat_ofNat_of_lt (by omega)
      refine (ih (by omega)).append ⟨hlast, ?_⟩
      unfold Sector.stop
      rw [hlast]
      rfl

/-- Every sector of a run starts at a multiple of its size if the run does. -/
theorem dvd_start_of_mem_sectorRun {first count : Nat} {size : UInt32} (hsize : size ≠ 0)
    (htop : first + count * size.toNat ≤ Word.span32) (haligned : size.toNat ∣ first)
    {sector : Sector} (h : sector ∈ sectorRun first size count) :
    size.toNat ∣ sector.start.toNat := by
  obtain ⟨i, hi, rfl⟩ := List.mem_map.mp h
  have hpos := (Word.ne_zero_iff _).mp hsize
  have hle : (i + 1) * size.toNat ≤ count * size.toNat :=
    Nat.mul_le_mul_right _ (List.mem_range.mp hi)
  rw [Nat.succ_mul] at hle
  show size.toNat ∣ (Word.low32 (first + i * size.toNat)).toNat
  rw [Word.low32, Word.toNat_ofNat_of_lt (by omega)]
  exact Nat.dvd_add haligned (Nat.dvd_mul_left _ _)

namespace SectorRegion

/-- The sectors of a region, written out. -/
def sectors (region : SectorRegion) : List Sector :=
  sectorRun region.start.toNat region.sectorSize region.count.toNat

theorem length_sectors (region : SectorRegion) :
    region.sectors.length = region.count.toNat := by
  simp [sectors, sectorRun]

variable {pageSize : UInt32} {region : SectorRegion}

theorem stop_eq_mul (region : SectorRegion) :
    region.stop = region.start.toNat + region.count.toNat * region.sectorSize.toNat := by
  unfold SectorRegion.stop SectorRegion.size
  rw [Nat.mul_comm]

theorem Sound.sectors_abut (h : region.Sound pageSize) (htop : region.stop ≤ Word.span32) :
    Sector.Abut region.start.toNat region.sectors region.stop := by
  rw [stop_eq_mul] at htop ⊢
  exact sectorRun_abut h.size_ne_zero htop

theorem Sound.dvd_start (h : region.Sound pageSize) (htop : region.stop ≤ Word.span32)
    {sector : Sector} (hmem : sector ∈ region.sectors) :
    sector.size.toNat ∣ sector.start.toNat := by
  rw [stop_eq_mul] at htop
  rw [size_of_mem_sectorRun hmem]
  exact dvd_start_of_mem_sectorRun h.size_ne_zero htop h.aligned hmem

theorem Chained.sectors_abut {first stop : Nat} {regions : List SectorRegion}
    (h : Chained pageSize first regions stop) (htop : stop ≤ Word.span32) :
    Sector.Abut first (regions.flatMap sectors) stop := by
  induction regions generalizing first with
  | nil => exact h
  | cons region rest ih =>
      obtain ⟨rfl, hsound, hrest⟩ := h
      rw [List.flatMap_cons]
      exact (hsound.sectors_abut (Nat.le_trans hrest.le htop)).append (ih hrest)

end SectorRegion

namespace SectorMap

variable {pageSize : UInt32} {map : SectorMap}

/-- All sectors of a map in address order. -/
def sectors (map : SectorMap) : List Sector := map.regions.toList.flatMap SectorRegion.sectors

/-- **The sectors of a valid map tile it.** -/
theorem Valid.sectors_abut (h : map.Valid pageSize) :
    Sector.Abut map.start.toNat map.sectors map.stop :=
  h.chained.sectors_abut h.top

/-- A sector of a valid map belongs to a region that covers it. -/
theorem Valid.exists_region (h : map.Valid pageSize) {sector : Sector}
    (hmem : sector ∈ map.sectors) :
    ∃ region ∈ map.regions.toList, sector ∈ region.sectors ∧ sector.size = region.sectorSize ∧
      region.start.toNat ≤ sector.start.toNat ∧ sector.stop ≤ region.stop := by
  obtain ⟨region, hregion, hsector⟩ := List.mem_flatMap.mp hmem
  obtain ⟨hsound, _, hstop⟩ := h.mem_bounds hregion
  have hbounds := (hsound.sectors_abut (Nat.le_trans hstop h.top)).mem_bounds sector hsector
  exact ⟨region, hregion, hsector, size_of_mem_sectorRun hsector, hbounds⟩

/-- Every address of a sector of a valid map answers with the size of the sector. -/
theorem Valid.sectorSize_of_sector (h : map.Valid pageSize) {sector : Sector}
    (hmem : sector ∈ map.sectors) {address : UInt32}
    (hstart : sector.start.toNat ≤ address.toNat) (hstop : address.toNat < sector.stop) :
    map.sectorSize address = sector.size := by
  obtain ⟨region, hregion, _, hsize, hfirst, hlast⟩ := h.exists_region hmem
  rw [hsize]
  exact h.sectorSize_of_mem hregion (Nat.le_trans hfirst hstart) (Nat.lt_of_lt_of_le hstop hlast)

/-! ## The geometry of a map -/

/-- What a device answers that looks its sectors up in a map. -/
def geometry (map : SectorMap) (pageSize size : UInt32) : Geometry where
  start := map.start
  size := size
  pageSize := pageSize
  sectorSize := map.sectorSize

theorem Valid.toNat_size (h : map.Valid pageSize) :
    (UInt32.ofNat (map.stop - map.start.toNat)).toNat = map.stop - map.start.toNat :=
  Word.toNat_ofNat_of_lt h.span

theorem Valid.geometry_stop (h : map.Valid pageSize) :
    (map.geometry pageSize (UInt32.ofNat (map.stop - map.start.toNat))).stop = map.stop := by
  have hlt := h.start_lt_stop
  show map.start.toNat + (UInt32.ofNat (map.stop - map.start.toNat)).toNat = map.stop
  rw [h.toNat_size]
  omega

theorem Valid.admits (h : map.Valid pageSize) (size : UInt32) {sector : Sector}
    (hmem : sector ∈ map.sectors) : (map.geometry pageSize size).Admits sector := by
  obtain ⟨region, hregion, hsector, hsize, _, hstop⟩ := h.exists_region hmem
  obtain ⟨hsound, _, hregionStop⟩ := h.mem_bounds hregion
  have hpos := (Word.ne_zero_iff _).mp hsound.size_ne_zero
  have htop := Nat.le_trans hregionStop h.top
  have hlt : sector.start.toNat < sector.stop := by
    unfold Sector.stop
    rw [hsize]
    omega
  have hlast : (UInt32.ofNat (sector.stop - 1)).toNat = sector.stop - 1 :=
    Word.toNat_ofNat_of_lt (by omega)
  refine ⟨?_, ?_, ?_, ?_, ?_, hsound.dvd_start htop hsector⟩
  · rw [hsize]
    exact hsound.size_ne_zero
  · rw [hsize]
    exact hsound.size_valid
  · exact h.sectorSize_of_sector hmem (Nat.le_refl _) hlt
  · exact h.sectorSize_of_sector hmem (by omega) (by omega)
  · rw [hsize]
    exact hsound.pages

end SectorMap

end FlashBench
