import FlashBench.Geometry.Walk
import FlashBench.Proofs.Words

/-!
# Tilings of a window

When sectors follow each other without gaps. Two relations say so, for two ways of counting:

* **`Sector.Abut`** counts in exact addresses: each sector starts where the one before it ends.
* **`Sector.Path`** counts as a walk does: the offset is exact, but the sector starts at the offset
  **cut to a word**.

They agree up to the top of the 32-bit address space (`Path.abut`, `Abut.path`). Behind it a path
starts over at address zero (`Path.cross`), which is what separates a walk from a tiling.
-/

namespace FlashBench

namespace Sector

/-- The first address behind the sector. -/
def stop (sector : Sector) : Nat := sector.start.toNat + sector.size.toNat

/-- The sectors start at `first`, each where the one before it ends, and the last ends at `stop`. -/
def Abut : Nat → List Sector → Nat → Prop
  | first, [], stop => first = stop
  | first, sector :: rest, stop => sector.start.toNat = first ∧ Abut sector.stop rest stop

instance Abut.decide : (first : Nat) → (sectors : List Sector) → (stop : Nat) →
    Decidable (Abut first sectors stop)
  | first, [], stop => inferInstanceAs (Decidable (first = stop))
  | first, sector :: rest, stop =>
      have := Abut.decide sector.stop rest stop
      inferInstanceAs (Decidable (sector.start.toNat = first ∧ Abut sector.stop rest stop))

/-- The address is one of the sector. -/
def Covers (sector : Sector) (address : Nat) : Prop :=
  sector.start.toNat ≤ address ∧ address < sector.stop

instance Covers.decide (sector : Sector) (address : Nat) : Decidable (sector.Covers address) :=
  inferInstanceAs (Decidable (_ ∧ _))

/-- A walk from the offset `first` steps over the sectors and arrives at `stop`. -/
def Path : Nat → List Sector → Nat → Prop
  | first, [], stop => first = stop
  | first, sector :: rest, stop =>
      sector.start = Word.low32 first ∧ Path (first + sector.size.toNat) rest stop

/-- The sectors end at or below the top of the address space and are not empty. -/
def Fit (sectors : List Sector) : Prop :=
  ∀ sector ∈ sectors, sector.size ≠ 0 ∧ sector.stop ≤ Word.span32

theorem Fit.head {sector : Sector} {rest : List Sector} (h : Fit (sector :: rest)) :
    sector.size ≠ 0 ∧ sector.stop ≤ Word.span32 :=
  h sector List.mem_cons_self

theorem Fit.tail {sector : Sector} {rest : List Sector} (h : Fit (sector :: rest)) : Fit rest :=
  fun next hnext => h next (List.mem_cons_of_mem _ hnext)

theorem Abut.le {first stop : Nat} {sectors : List Sector} (h : Abut first sectors stop) :
    first ≤ stop := by
  induction sectors generalizing first with
  | nil => exact Nat.le_of_eq h
  | cons sector rest ih =>
      obtain ⟨hstart, hrest⟩ := h
      have hle := ih hrest
      unfold Sector.stop at hle
      omega

theorem Abut.append {first middle stop : Nat} {front back : List Sector}
    (hfront : Abut first front middle) (hback : Abut middle back stop) :
    Abut first (front ++ back) stop := by
  induction front generalizing first with
  | nil =>
      rw [show first = middle from hfront]
      exact hback
  | cons sector rest ih => exact ⟨hfront.1, ih hfront.2⟩

/-- Every sector of a tiling lies inside it. -/
theorem Abut.mem_bounds {first stop : Nat} {sectors : List Sector} (h : Abut first sectors stop) :
    ∀ sector ∈ sectors, first ≤ sector.start.toNat ∧ sector.stop ≤ stop := by
  induction sectors generalizing first with
  | nil => simp
  | cons head rest ih =>
      obtain ⟨hstart, hrest⟩ := h
      intro sector hmem
      rcases List.mem_cons.mp hmem with rfl | hmem
      · exact ⟨Nat.le_of_eq hstart.symm, hrest.le⟩
      · have hbounds := ih hrest sector hmem
        have hhead : head.stop = head.start.toNat + head.size.toNat := rfl
        omega

/-- A tiling of a non-empty stretch starts with a sector. -/
theorem Abut.exists_cons {first stop : Nat} {sectors : List Sector} (h : Abut first sectors stop)
    (hlt : first < stop) : ∃ sector rest, sectors = sector :: rest := by
  cases sectors with
  | nil => exact absurd h (Nat.ne_of_lt hlt)
  | cons sector rest => exact ⟨sector, rest, rfl⟩

/-- Every address of a tiled stretch is in a sector. -/
theorem Abut.exists_covers {first stop address : Nat} {sectors : List Sector}
    (h : Abut first sectors stop) (hfirst : first ≤ address) (hstop : address < stop) :
    ∃ sector ∈ sectors, sector.Covers address := by
  induction sectors generalizing first with
  | nil =>
      have hend : first = stop := h
      omega
  | cons sector rest ih =>
      obtain ⟨hstart, hrest⟩ := h
      by_cases hhere : address < sector.stop
      · exact ⟨sector, List.mem_cons_self, by omega, hhere⟩
      · obtain ⟨next, hmem, hcovers⟩ := ih hrest (Nat.le_of_not_lt hhere)
        exact ⟨next, List.mem_cons_of_mem _ hmem, hcovers⟩

/-- Looking for a sector of a tiling finds the one that covers the address. -/
theorem Abut.exists_find? {first stop address : Nat} {sectors : List Sector}
    (h : Abut first sectors stop) (hfirst : first ≤ address) (hstop : address < stop) :
    ∃ sector, sectors.find? (·.Covers address) = some sector ∧ sector ∈ sectors ∧
      sector.Covers address := by
  obtain ⟨covering, hcovering, hcovers⟩ := h.exists_covers hfirst hstop
  cases hfind : sectors.find? (·.Covers address) with
  | none => exact absurd (decide_eq_true hcovers) (List.find?_eq_none.mp hfind covering hcovering)
  | some sector =>
      have hhere := List.find?_some hfind
      exact ⟨sector, rfl, List.mem_of_find?_eq_some hfind, of_decide_eq_true hhere⟩

/-- A tiling of a non-empty stretch ends with a sector. -/
theorem Abut.exists_last {first stop : Nat} {sectors : List Sector} (h : Abut first sectors stop)
    (hlt : first < stop) : ∃ sector ∈ sectors, sector.stop = stop := by
  obtain ⟨sector, hmem, hcovers⟩ :=
    h.exists_covers (show first ≤ stop - 1 by omega) (Nat.sub_lt (by omega) Nat.one_pos)
  have hstop := (h.mem_bounds sector hmem).2
  have hlast := hcovers.2
  exact ⟨sector, hmem, by omega⟩

/-- A sector at a multiple of its size covers no other multiple than its start. -/
theorem Covers.eq_start {sector : Sector} {address : Nat} (h : sector.Covers address)
    (hstart : sector.size.toNat ∣ sector.start.toNat) (haddress : sector.size.toNat ∣ address) :
    address = sector.start.toNat := by
  obtain ⟨hfirst, hlast⟩ := h
  have hdvd := Nat.dvd_sub haddress hstart
  unfold stop at hlast
  have hzero := Nat.eq_zero_of_dvd_of_lt hdvd (by omega)
  omega

/-- Aligning an address of the sector down to the size of the sector gives its start. -/
theorem Covers.alignDown_eq {sector : Sector} {address : UInt32}
    (h : sector.Covers address.toNat) (hsize : sector.size ≠ 0)
    (hstart : sector.size.toNat ∣ sector.start.toNat) :
    alignDown address sector.size = sector.start := by
  obtain ⟨hfirst, hlast⟩ := h
  unfold Sector.stop at hlast
  have hmod : (address % sector.size).toNat = address.toNat - sector.start.toNat := by
    rw [UInt32.toNat_mod]
    obtain ⟨k, hk⟩ := hstart
    rw [hk] at hfirst hlast ⊢
    conv => lhs; rw [← Nat.add_sub_cancel' hfirst, Nat.mul_add_mod]
    exact Nat.mod_eq_of_lt (by omega)
  have hle : address % sector.size ≤ address := by
    rw [UInt32.le_iff_toNat_le, hmod]
    omega
  unfold alignDown
  rw [if_neg hsize]
  apply UInt32.toNat_inj.mp
  rw [UInt32.toNat_sub_of_le _ _ hle, hmod]
  omega

theorem Abut.path {first stop : Nat} {sectors : List Sector} (h : Abut first sectors stop) :
    Path first sectors stop := by
  induction sectors generalizing first with
  | nil => exact h
  | cons sector rest ih =>
      obtain ⟨hstart, hrest⟩ := h
      refine ⟨?_, ?_⟩
      · rw [← hstart, Word.low32_toNat]
      · rw [← hstart]
        exact ih hrest

theorem Path.le {first stop : Nat} {sectors : List Sector} (h : Path first sectors stop) :
    first ≤ stop := by
  induction sectors generalizing first with
  | nil => exact Nat.le_of_eq h
  | cons sector rest ih => exact Nat.le_of_add_right_le (ih h.2)

/-- Every sector of a path takes at least one byte. -/
theorem Path.length_le {first stop : Nat} {sectors : List Sector} (h : Path first sectors stop)
    (hsize : ∀ sector ∈ sectors, sector.size ≠ 0) : first + sectors.length ≤ stop := by
  induction sectors generalizing first with
  | nil => exact Nat.le_of_eq h
  | cons sector rest ih =>
      have hpos : 0 < sector.size.toNat :=
        (Word.ne_zero_iff _).mp (hsize sector List.mem_cons_self)
      have hrest := ih h.2 (fun next hnext => hsize next (List.mem_cons_of_mem _ hnext))
      simp only [List.length_cons]
      omega

theorem Path.append {first middle stop : Nat} {front back : List Sector}
    (hfront : Path first front middle) (hback : Path middle back stop) :
    Path first (front ++ back) stop := by
  induction front generalizing first with
  | nil =>
      rw [show first = middle from hfront]
      exact hback
  | cons sector rest ih => exact ⟨hfront.1, ih hfront.2⟩

/-- Up to the top of the address space nothing is cut, so a path is a tiling. -/
theorem Path.abut {first stop : Nat} {sectors : List Sector} (h : Path first sectors stop)
    (hsize : ∀ sector ∈ sectors, sector.size ≠ 0) (hstop : stop ≤ Word.span32) :
    Abut first sectors stop := by
  induction sectors generalizing first with
  | nil => exact h
  | cons sector rest ih =>
      obtain ⟨hstart, hrest⟩ := h
      have hpos : 0 < sector.size.toNat :=
        (Word.ne_zero_iff _).mp (hsize sector List.mem_cons_self)
      have hle := hrest.le
      have hfirst : sector.start.toNat = first := by
        rw [hstart]
        exact Word.toNat_ofNat_of_lt (by omega)
      refine ⟨hfirst, ?_⟩
      unfold Sector.stop
      rw [hfirst]
      exact ih hrest (fun next hnext => hsize next (List.mem_cons_of_mem _ hnext))

/-- A whole turn of the address space makes no difference to the sectors on a path. -/
theorem path_turn {first stop : Nat} {sectors : List Sector} :
    Path (Word.span32 + first) sectors (Word.span32 + stop) ↔ Path first sectors stop := by
  induction sectors generalizing first with
  | nil =>
      unfold Path
      omega
  | cons sector rest ih =>
      unfold Path
      rw [Word.low32_span32_add, Nat.add_assoc, ih]

/-- A path over the top of the address space, of sectors that do not reach over it themselves, is a
path to the top and a second one from address zero. -/
theorem Path.cross {first stop : Nat} {sectors : List Sector}
    (h : Path first sectors (Word.span32 + stop)) (hfit : Fit sectors)
    (hfirst : first ≤ Word.span32) :
    ∃ upper lower, sectors = upper ++ lower ∧
      Path first upper Word.span32 ∧ Path 0 lower stop := by
  by_cases htop : first = Word.span32
  · subst htop
    exact ⟨[], sectors, rfl, rfl, path_turn.mp h⟩
  · induction sectors generalizing first with
    | nil =>
        have hend : first = Word.span32 + stop := h
        omega
    | cons sector rest ih =>
        obtain ⟨hstart, hrest⟩ := h
        have hstop := hfit.head.2
        unfold Sector.stop at hstop
        rw [hstart, Word.low32, Word.toNat_ofNat_of_lt (by omega)] at hstop
        -- the next offset is at most the top, and may be the top itself
        by_cases hnext : first + sector.size.toNat = Word.span32
        · refine ⟨[sector], rest, rfl, ⟨hstart, hnext⟩, ?_⟩
          rw [hnext] at hrest
          exact path_turn.mp hrest
        · obtain ⟨upper, lower, hsplit, hupper, hlower⟩ := ih hrest hfit.tail hstop hnext
          refine ⟨sector :: upper, lower, ?_, ⟨hstart, hupper⟩, hlower⟩
          rw [hsplit, List.cons_append]

end Sector

/-- What a device answers about its geometry, as long as the answers depend on nothing but the
address asked for. -/
structure Geometry where
  start : UInt32
  size : UInt32
  pageSize : UInt32
  sectorSize : UInt32 → UInt32

namespace Geometry

/-- The first address behind the window. -/
def stop (g : Geometry) : Nat := g.start.toNat + g.size.toNat

/-- A sector keeps the rules of flash geometry: it answers its own size at its first and at its last
byte, the size is usable, pages divide it, and it divides its start. -/
structure Admits (g : Geometry) (sector : Sector) : Prop where
  nonempty : sector.size ≠ 0
  valid : sector.size ≠ invalidSize
  first : g.sectorSize sector.start = sector.size
  last : g.sectorSize (UInt32.ofNat (sector.stop - 1)) = sector.size
  pages : g.pageSize.toNat ∣ sector.size.toNat
  aligned : sector.size.toNat ∣ sector.start.toNat

theorem admits_iff (g : Geometry) (sector : Sector) :
    g.Admits sector ↔ sector.size ≠ 0 ∧ sector.size ≠ invalidSize ∧
      g.sectorSize sector.start = sector.size ∧
      g.sectorSize (UInt32.ofNat (sector.stop - 1)) = sector.size ∧
      g.pageSize.toNat ∣ sector.size.toNat ∧ sector.size.toNat ∣ sector.start.toNat :=
  ⟨fun ⟨h1, h2, h3, h4, h5, h6⟩ => ⟨h1, h2, h3, h4, h5, h6⟩,
    fun ⟨h1, h2, h3, h4, h5, h6⟩ => ⟨h1, h2, h3, h4, h5, h6⟩⟩

instance (g : Geometry) (sector : Sector) : Decidable (g.Admits sector) :=
  decidable_of_iff' _ (g.admits_iff sector)

/-- Pages divide where the sector starts. -/
theorem Admits.dvd_start {g : Geometry} {sector : Sector} (h : g.Admits sector) :
    g.pageSize.toNat ∣ sector.start.toNat :=
  Nat.dvd_trans h.pages h.aligned

/-- They divide where it ends. -/
theorem Admits.dvd_stop {g : Geometry} {sector : Sector} (h : g.Admits sector) :
    g.pageSize.toNat ∣ sector.stop :=
  Nat.dvd_add h.dvd_start h.pages

/-- The addresses just outside the window, as far as there are any, are in no sector. -/
structure Fenced (g : Geometry) : Prop where
  before : g.start ≠ 0 → g.sectorSize (g.start - 1) = invalidSize
  after : g.stop < Word.span32 → g.sectorSize (UInt32.ofNat g.stop) = invalidSize

/-- The window is not empty, has pages, and is tiled exactly by sectors that keep the rules. -/
structure Tiled (g : Geometry) (sectors : List Sector) : Prop where
  pageSize : 0 < g.pageSize.toNat
  size : 0 < g.size.toNat
  abut : Sector.Abut g.start.toNat sectors g.stop
  admits : ∀ sector ∈ sectors, g.Admits sector
  fenced : g.Fenced

namespace Tiled

variable {g : Geometry} {sectors : List Sector} (h : g.Tiled sectors)

include h

theorem start_lt_stop : g.start.toNat < g.stop :=
  Nat.lt_add_of_pos_right h.size

/-- The window starts with a page. -/
theorem dvd_start : g.pageSize.toNat ∣ g.start.toNat := by
  obtain ⟨first, rest, rfl⟩ := h.abut.exists_cons h.start_lt_stop
  rw [← h.abut.1]
  exact (h.admits first List.mem_cons_self).dvd_start

/-- It ends with one. -/
theorem dvd_stop : g.pageSize.toNat ∣ g.stop := by
  obtain ⟨last, hmem, hstop⟩ := h.abut.exists_last h.start_lt_stop
  rw [← hstop]
  exact (h.admits last hmem).dvd_stop

/-- The window holds a page. -/
theorem page_le : g.start.toNat + g.pageSize.toNat ≤ g.stop := by
  have hlt := h.start_lt_stop
  have hle := Nat.le_of_dvd (by omega) (Nat.dvd_sub h.dvd_stop h.dvd_start)
  omega

end Tiled

/-- A walk from the offset `first` to `stop` steps over these sectors and finds nothing to object to:
they keep the rules, and none of them reaches over the top of the address space. -/
structure Passes (g : Geometry) (first : Nat) (sectors : List Sector) (stop : Nat) : Prop where
  path : Sector.Path first sectors stop
  admits : ∀ sector ∈ sectors, g.Admits sector
  fits : Sector.Fit sectors

/-- As `Tiled`, for a walk. A sector may start behind the top of the address space, but must not
reach over it. -/
structure Walked (g : Geometry) (sectors : List Sector) : Prop where
  pageSize : 0 < g.pageSize.toNat
  size : 0 < g.size.toNat
  passes : g.Passes g.start.toNat sectors g.stop
  fenced : g.Fenced

theorem passes_nil {g : Geometry} {first stop : Nat} : g.Passes first [] stop ↔ first = stop :=
  ⟨fun h => h.path, fun h => ⟨h, by simp, by simp [Sector.Fit]⟩⟩

theorem passes_cons {g : Geometry} {first stop : Nat} {sector : Sector} {rest : List Sector} :
    g.Passes first (sector :: rest) stop ↔
      sector.start = Word.low32 first ∧ (g.Admits sector ∧ sector.stop ≤ Word.span32) ∧
        g.Passes (first + sector.size.toNat) rest stop := by
  constructor
  · intro h
    refine ⟨h.path.1, ⟨h.admits sector List.mem_cons_self, h.fits.head.2⟩, ?_⟩
    exact ⟨h.path.2, fun next hnext => h.admits next (List.mem_cons_of_mem _ hnext), h.fits.tail⟩
  · rintro ⟨hstart, ⟨hadmits, hstop⟩, hrest⟩
    refine ⟨⟨hstart, hrest.path⟩, ?_, ?_⟩
    · intro next hnext
      rcases List.mem_cons.mp hnext with rfl | hnext
      · exact hadmits
      · exact hrest.admits next hnext
    · intro next hnext
      rcases List.mem_cons.mp hnext with rfl | hnext
      · exact ⟨hadmits.nonempty, hstop⟩
      · exact hrest.fits next hnext

/-- The first sector of a passage is the one the device answers for, and it keeps the rules. -/
theorem Passes.exists_cons {g : Geometry} {first stop : Nat} {sectors : List Sector}
    (h : g.Passes first sectors stop) (hlt : first < stop) :
    ∃ sector rest, sectors = sector :: rest ∧
      sector = ⟨Word.low32 first, g.sectorSize (Word.low32 first)⟩ ∧
      (g.Admits sector ∧ sector.stop ≤ Word.span32) ∧
      g.Passes (first + sector.size.toNat) rest stop := by
  cases sectors with
  | nil => exact absurd (passes_nil.mp h) (Nat.ne_of_lt hlt)
  | cons sector rest =>
      obtain ⟨hstart, hkeeps, hrest⟩ := passes_cons.mp h
      refine ⟨sector, rest, rfl, ?_, hkeeps, hrest⟩
      rw [← hstart, hkeeps.1.first]

/-- A passage that leads nowhere has no sectors. -/
theorem Passes.eq_nil {g : Geometry} {first : Nat} {sectors : List Sector}
    (h : g.Passes first sectors first) : sectors = [] := by
  cases sectors with
  | nil => rfl
  | cons sector rest =>
      obtain ⟨_, ⟨hadmits, _⟩, hrest⟩ := passes_cons.mp h
      have hpos := (Word.ne_zero_iff _).mp hadmits.nonempty
      have hle := hrest.path.le
      omega

theorem Tiled.walked {g : Geometry} {sectors : List Sector} (h : g.Tiled sectors)
    (hstop : g.stop ≤ Word.span32) : g.Walked sectors where
  pageSize := h.pageSize
  size := h.size
  passes := {
    path := h.abut.path
    admits := h.admits
    fits := fun sector hmem =>
      ⟨(h.admits sector hmem).nonempty, Nat.le_trans (h.abut.mem_bounds sector hmem).2 hstop⟩ }
  fenced := h.fenced

theorem Walked.tiled {g : Geometry} {sectors : List Sector} (h : g.Walked sectors)
    (hstop : g.stop ≤ Word.span32) : g.Tiled sectors where
  pageSize := h.pageSize
  size := h.size
  abut := h.passes.path.abut (fun sector hmem => (h.passes.admits sector hmem).nonempty) hstop
  admits := h.passes.admits
  fenced := h.fenced

end Geometry

end FlashBench
