import FlashBench.Proofs.Device.Keeps
import FlashBench.Proofs.Part.Driver

/-!
# A part is an array of bytes

`FlashArray` is what a client of a part may think of: the bytes of the window, which an erase sets
and a program changes, each all at once. There are no registers in it, no page buffer, no polling
and no words that could be cut.

A session on the driver of a controller that works answers every call as the array does and keeps
the medium equal to it (`call_refines`), so no sequence of calls can tell the two apart
(`Rig.trace_eq_array`).
-/

namespace FlashBench

/-- The bytes of a part with this layout, by address. -/
structure FlashArray (layout : FlashLayout) where
  bytes : Nat → UInt8

/-- What a client may ask a session for. -/
inductive FlashCall where
  | erase (address : UInt32)
  | program (address : UInt32) (data : ByteArray)
  | read (address : UInt32) (len : Nat)

/-- The answer to a call: an error, or success with the bytes that were asked for, if any. -/
abbrev FlashReply := Except FlashError (Option ByteArray)

namespace FlashArray

variable {layout : FlashLayout}

/-- The array that holds the contents of a medium. -/
def ofMedium (layout : FlashLayout) (medium : ByteArray) : FlashArray layout where
  bytes := Memory.loaded medium layout.start.toNat

/-- The bytes of the whole window in address order. -/
def contents (array : FlashArray layout) : ByteArray :=
  Memory.dump array.bytes layout.start.toNat (layout.stop - layout.start.toNat)

/-- Erases the sector that covers `address`, which must be a multiple of its size. -/
def erase (array : FlashArray layout) (address : Nat) : FlashReply × FlashArray layout :=
  if address < layout.start.toNat ∨ layout.stop ≤ address then (.error .outOfRange, array)
  else match layout.sectorList.find? (·.Covers address) with
    -- the sectors tile the window, so one of them covers the address
    | none => (.error .outOfRange, array)
    | some sector =>
      if address % sector.size.toNat ≠ 0 then (.error .alignment, array)
      else (.ok none, ⟨fun a => if sector.Covers a then layout.eraseValue else array.bytes a⟩)

/-- Programs the bytes from `address` on, whole pages of them. -/
def program (array : FlashArray layout) (address : Nat) (data : ByteArray) :
    FlashReply × FlashArray layout :=
  if address < layout.start.toNat ∨ layout.stop < address + data.size then
    (.error .outOfRange, array)
  else if data.size = 0 ∨ data.size % layout.pageSize.toNat ≠ 0 ∨
      address % layout.pageSize.toNat ≠ 0 then
    (.error .alignment, array)
  else
    (.ok none, ⟨fun a =>
      if h : address ≤ a ∧ a < address + data.size then
        layout.eraseValue ^^^ ((layout.eraseValue ^^^ array.bytes a) |||
          (layout.eraseValue ^^^ data[a - address]))
      else array.bytes a⟩)

/-- Reads the bytes from `address` on. -/
def read (array : FlashArray layout) (address len : Nat) : FlashReply :=
  if address < layout.start.toNat ∨ layout.stop < address + len then .error .outOfRange
  else .ok (some (Memory.dump array.bytes address len))

/-- The answer of the array to a call, and the array after it. -/
def call (array : FlashArray layout) : FlashCall → FlashReply × FlashArray layout
  | .erase address => array.erase address.toNat
  | .program address data => array.program address.toNat data
  | .read address len => (array.read address.toNat len, array)

/-- The answers to calls one after the other, each with the contents after it. -/
def trace (array : FlashArray layout) : List FlashCall → List (FlashReply × ByteArray)
  | [] => []
  | call :: calls =>
      ((array.call call).1, (array.call call).2.contents) :: (array.call call).2.trace calls

end FlashArray

/-- Hands a call to a session. -/
def Session.call {σ : Type} (session : Session σ) :
    FlashCall → Attempt FlashError σ (Option ByteArray)
  | .erase address => do
    session.eraseSector address
    return none
  | .program address data => do
    session.programPage address data
    return none
  | .read address len => do
    let bytes ← session.read address len
    return some bytes

/-- A call keeps what the calls of the device keep. -/
theorem Device.Keeps.call {σ : Type} {inv : σ → Prop} {device : Device σ}
    (h : device.Keeps inv fun _ => True) (call : FlashCall) :
    Attempt.Keeps inv (Session.call ⟨device⟩ call) := by
  cases call with
  | erase address => exact .bind (h.sessionErase trivial) fun _ => .pure _
  | program address data => exact .bind (h.sessionProgram data trivial) fun _ => .pure _
  | read address len => exact .bind (h.sessionRead address len) fun _ => .pure _

/-- The call keeps to the window, to the starts of sectors and to whole pages. -/
def FlashCall.Proper (layout : FlashLayout) : FlashCall → Prop
  | .erase address => ∃ sector ∈ layout.sectorList, sector.start = address
  | .program address data =>
      layout.start.toNat ≤ address.toNat ∧ address.toNat + data.size ≤ layout.stop ∧
        data.size ≠ 0 ∧ layout.pageSize.toNat ∣ data.size ∧ layout.pageSize.toNat ∣ address.toNat
  | .read address len =>
      layout.start.toNat ≤ address.toNat ∧ address.toNat + len ≤ layout.stop

instance FlashCall.Proper.decide (layout : FlashLayout) :
    (call : FlashCall) → Decidable (call.Proper layout)
  | .erase address => inferInstanceAs
      (Decidable (∃ sector ∈ layout.sectorList, sector.start = address))
  | .program address data => inferInstanceAs (Decidable (layout.start.toNat ≤ address.toNat ∧
      address.toNat + data.size ≤ layout.stop ∧ data.size ≠ 0 ∧
      layout.pageSize.toNat ∣ data.size ∧ layout.pageSize.toNat ∣ address.toNat))
  | .read address len => inferInstanceAs (Decidable
      (layout.start.toNat ≤ address.toNat ∧ address.toNat + len ≤ layout.stop))

/-- Hands calls to a session one after the other, and looks at the medium after each. -/
def Rig.trace (session : Session Rig) : List FlashCall → Act Rig (List (FlashReply × ByteArray))
  | [] => return []
  | call :: calls => do
    let reply ← (session.call call).run
    let medium := (← Rig.ctrlNow).medium
    let rest ← Rig.trace session calls
    return (reply, medium) :: rest

/-! ## One call -/

namespace FlashArray

variable {layout : FlashLayout} {array : FlashArray layout} {address : UInt32}

theorem patch_program (bytes : Nat → UInt8) (first : Nat) (data : ByteArray) (erased : UInt8) :
    Memory.patch bytes first data.size
        (Memory.programmedOver erased bytes (Memory.loaded data first)) =
      fun a =>
        if h : first ≤ a ∧ a < first + data.size then
          erased ^^^ ((erased ^^^ bytes a) ||| (erased ^^^ data[a - first]))
        else bytes a := by
  funext a
  by_cases h : first ≤ a ∧ a < first + data.size
  · have hin : a - first < data.size := by omega
    rw [Memory.patch_inside h, dif_pos h, ← Memory.loaded_eq_getElem hin]
    rfl
  · rw [Memory.patch_outside h, dif_neg h]

/-! ### Calls that are refused -/

section Refusals

variable {P : Rig → Prop} (hlayout : layout.validate = .ok (.ok ()))
  (hon : ∀ rig, P rig → rig.ctrl.On layout)

include hlayout hon

/-- **An erase that is not proper** is refused. The session looks the sector up in the map, the
array in the layout. -/
theorem erase_refused (array : FlashArray layout)
    (hnot : ¬ (FlashCall.erase address).Proper layout) :
    ∃ error, (error = .outOfRange ∨ error = .alignment) ∧
      array.erase address.toNat = (.error error, array) ∧
      Attempt.Ends P (Session.call ⟨Rig.device⟩ (.erase address)) (.error error) P := by
  obtain ⟨g, hcharts, hanswers⟩ := Rig.device_answers hlayout
  have hreports := hanswers P hon
  unfold erase
  by_cases hout : address.toNat < layout.start.toNat ∨ layout.stop ≤ address.toNat
  · exact ⟨.outOfRange, .inl rfl, if_pos hout,
      .bind_error (Session.eraseSector_outOfRange hreports (hcharts.outside _ hout))⟩
  · obtain ⟨hfirst, hlast⟩ := not_or.mp hout
    obtain ⟨sector, hfind, hmem, hcovers⟩ :=
      hcharts.tiled.exists_find? (Nat.le_of_not_lt hfirst) (Nat.lt_of_not_le hlast)
    have hadmits := hcharts.admits sector hmem
    have hsize := hcharts.covered sector hmem address hcovers
    -- the sector starts at a multiple of its size, so an aligned address is its start
    have hbroken : ¬ sector.size.toNat ∣ address.toNat := fun haligned =>
      hnot ⟨sector, hmem, (UInt32.toNat_inj.mp (hcovers.eq_start hadmits.aligned haligned)).symm⟩
    refine ⟨.alignment, .inr rfl, ?_, .bind_error
      (Session.eraseSector_alignment hreports (hsize ▸ hadmits.valid) (hsize ▸ hbroken))⟩
    rw [if_neg hout, hfind]
    exact if_pos fun hmod => hbroken (Nat.dvd_of_mod_eq_zero hmod)

theorem program_refused (array : FlashArray layout) {data : ByteArray}
    (hnot : ¬ (FlashCall.program address data).Proper layout) :
    ∃ error, (error = .outOfRange ∨ error = .alignment) ∧
      array.program address.toNat data = (.error error, array) ∧
      Attempt.Ends P (Session.call ⟨Rig.device⟩ (.program address data)) (.error error) P := by
  obtain ⟨g, hcharts, hanswers⟩ := Rig.device_answers hlayout
  have hreports := hanswers P hon
  unfold program
  by_cases hout : address.toNat < layout.start.toNat ∨ layout.stop < address.toNat + data.size
  · refine ⟨.outOfRange, .inl rfl, if_pos hout, ?_⟩
    rw [← hcharts.start, ← hcharts.stop] at hout
    exact .bind_error (Session.programPage_outOfRange hreports hout)
  · obtain ⟨hfirst, hlast⟩ := not_or.mp hout
    have hfirst := Nat.le_of_not_lt hfirst
    have hlast := Nat.le_of_not_lt hlast
    have hbroken : data.size = 0 ∨ ¬ layout.pageSize.toNat ∣ data.size ∨
        ¬ layout.pageSize.toNat ∣ address.toNat :=
      Decidable.byContradiction fun hnone => by
        simp only [not_or, Decidable.not_not] at hnone
        exact hnot ⟨hfirst, hlast, hnone⟩
    refine ⟨.alignment, .inr rfl, ?_, ?_⟩
    · rw [if_neg hout, if_pos (by simpa only [Nat.dvd_iff_mod_eq_zero] using hbroken)]
    · rw [← hcharts.start] at hfirst
      rw [← hcharts.stop] at hlast
      rw [← hcharts.pageSize] at hbroken
      exact .bind_error (Session.programPage_alignment hreports
        (hcharts.pageSize ▸ hcharts.paged) hfirst hlast hbroken)

/-- **A read that is not proper** is refused by the check of its range. -/
theorem read_refused (array : FlashArray layout) {len : Nat}
    (hnot : ¬ (FlashCall.read address len).Proper layout) :
    array.read address.toNat len = .error .outOfRange ∧
      Attempt.Ends P (Session.checkRange ⟨Rig.device⟩ address len) (.error .outOfRange) P := by
  obtain ⟨g, hcharts, hanswers⟩ := Rig.device_answers hlayout
  have hout : address.toNat < layout.start.toNat ∨ layout.stop < address.toNat + len := by
    have hnot : ¬ (layout.start.toNat ≤ address.toNat ∧ address.toNat + len ≤ layout.stop) := hnot
    omega
  refine ⟨if_pos hout, ?_⟩
  rw [← hcharts.start, ← hcharts.stop] at hout
  exact Session.checkRange_refuses (hanswers P hon) hout

/-! ### Calls that are passed on -/

variable {Q : Rig → Prop}

/-- **A proper call** ends as the driver ends it. -/
theorem erase_passed {outcome : Except FlashError Unit} {sector : Sector}
    (hmem : sector ∈ layout.sectorList)
    (herase : Attempt.Ends P (Rig.device.eraseSector sector.start) outcome Q) :
    Attempt.Ends P (Session.call ⟨Rig.device⟩ (.erase sector.start)) (outcome.map fun _ => none)
      Q := by
  obtain ⟨g, hcharts, hanswers⟩ := Rig.device_answers hlayout
  have hadmits := hcharts.admits sector hmem
  have hsize := hadmits.first
  exact .answer _ (Session.eraseSector_ends (hanswers P hon) (hsize ▸ hadmits.valid)
    (hsize ▸ hadmits.nonempty) (hsize ▸ hadmits.aligned) herase)

theorem program_passed {outcome : Except FlashError Unit} {data : ByteArray}
    (hproper : (FlashCall.program address data).Proper layout)
    (hprogram : Attempt.Ends P (Rig.device.programPage address data) outcome Q) :
    Attempt.Ends P (Session.call ⟨Rig.device⟩ (.program address data)) (outcome.map fun _ => none)
      Q := by
  obtain ⟨g, hcharts, hanswers⟩ := Rig.device_answers hlayout
  obtain ⟨hfirst, hlast, hsome, hpages, haligned⟩ := hproper
  have hpaged := hcharts.paged
  rw [← hcharts.start] at hfirst
  rw [← hcharts.stop] at hlast
  rw [← hcharts.pageSize] at hpages haligned hpaged
  exact .answer _ (Session.programPage_ends (hanswers P hon) hpaged hfirst hlast hsome hpages
    haligned hprogram)

theorem read_passed {outcome : Except FlashError ByteArray} {len : Nat}
    (hproper : (FlashCall.read address len).Proper layout)
    (hread : Attempt.Ends P (Rig.device.read address len) outcome Q) :
    Attempt.Ends P (Session.call ⟨Rig.device⟩ (.read address len)) (outcome.map some) Q := by
  obtain ⟨g, hcharts, hanswers⟩ := Rig.device_answers hlayout
  obtain ⟨hfirst, hlast⟩ := hproper
  rw [← hcharts.start] at hfirst
  rw [← hcharts.stop] at hlast
  exact .answer _ (Session.read_ends (hanswers P hon) hfirst hlast hread)

end Refusals

/-! ### Proper calls on the array -/

theorem erase_proper (hlayout : layout.validate = .ok (.ok ())) {sector : Sector}
    (hmem : sector ∈ layout.sectorList) :
    array.erase sector.start.toNat =
      (.ok none, ⟨fun a => if sector.Covers a then layout.eraseValue else array.bytes a⟩) := by
  obtain ⟨map, hmap, _⟩ := Word.bind_eq_ok_iff.mp hlayout
  have hcharts := FlashLayout.charts_geometry hlayout hmap
  have hadmits := hcharts.admits sector hmem
  have hbounds := hcharts.tiled.mem_bounds sector hmem
  have hnonempty := (Word.ne_zero_iff _).mp hadmits.nonempty
  have hwithin : sector.start.toNat < layout.stop := by
    have hstop := hbounds.2
    unfold Sector.stop at hstop
    omega
  obtain ⟨found, hfind, hfound, hcovers⟩ := hcharts.tiled.exists_find? hbounds.1 hwithin
  -- the sector that covers the start of a sector is that sector
  have hsize : found.size = sector.size :=
    (hcharts.covered found hfound _ hcovers).symm.trans hadmits.first
  have hstart : sector.start = found.start := UInt32.toNat_inj.mp
    (hcovers.eq_start (hcharts.admits found hfound).aligned (hsize ▸ hadmits.aligned))
  obtain rfl : found = sector := by
    cases found
    cases sector
    simp_all
  unfold erase
  rw [if_neg (by omega), hfind]
  exact if_neg (not_not_intro (Nat.mod_eq_zero_of_dvd hadmits.aligned))

theorem program_proper {data : ByteArray}
    (hproper : (FlashCall.program address data).Proper layout) :
    array.program address.toNat data =
      (.ok none, ⟨Memory.patch array.bytes address.toNat data.size
        (Memory.programmedOver layout.eraseValue array.bytes
          (Memory.loaded data address.toNat))⟩) := by
  obtain ⟨hfirst, hlast, hsome, hpages, haligned⟩ := hproper
  unfold program
  rw [if_neg (by omega), if_neg (by
    simp only [not_or, Decidable.not_not]
    exact ⟨hsome, Nat.mod_eq_zero_of_dvd hpages, Nat.mod_eq_zero_of_dvd haligned⟩), patch_program]

theorem read_proper {len : Nat} (hproper : (FlashCall.read address len).Proper layout) :
    array.read address.toNat len = .ok (some (Memory.dump array.bytes address.toNat len)) :=
  if_neg (by
    have hproper : layout.start.toNat ≤ address.toNat ∧ address.toNat + len ≤ layout.stop := hproper
    omega)

/-! ### Refinement -/

/-- **Erasing.** -/
theorem erase_refines (hlayout : layout.validate = .ok (.ok ())) :
    Attempt.Ends (Rig.Serves layout array.bytes) (Session.call ⟨Rig.device⟩ (.erase address))
      (array.erase address.toNat).1 (Rig.Serves layout (array.erase address.toNat).2.bytes) := by
  by_cases hproper : (FlashCall.erase address).Proper layout
  · obtain ⟨sector, hmem, rfl⟩ := hproper
    rw [erase_proper hlayout hmem]
    exact erase_passed hlayout (fun _ hrig => hrig.on) hmem (Rig.erase_ends hlayout hmem)
  · obtain ⟨error, _, harray, hends⟩ :=
      erase_refused (P := Rig.Serves layout array.bytes) hlayout (fun _ hrig => hrig.on) array
        hproper
    rw [harray]
    exact hends

/-- **Programming.** The driver goes page by page, the array changes at once. -/
theorem program_refines (hlayout : layout.validate = .ok (.ok ())) (data : ByteArray) :
    Attempt.Ends (Rig.Serves layout array.bytes) (Session.call ⟨Rig.device⟩ (.program address data))
      (array.program address.toNat data).1
      (Rig.Serves layout (array.program address.toNat data).2.bytes) := by
  by_cases hproper : (FlashCall.program address data).Proper layout
  · obtain ⟨map, hmap, _⟩ := Word.bind_eq_ok_iff.mp hlayout
    have hcharts := FlashLayout.charts_geometry hlayout hmap
    obtain ⟨hfirst, hlast, _, hpages, haligned⟩ := id hproper
    rw [program_proper hproper]
    exact program_passed hlayout (fun _ hrig => hrig.on) hproper
      (Rig.device_programPage data hcharts.top hcharts.paged haligned hpages hfirst hlast)
  · obtain ⟨error, _, harray, hends⟩ :=
      program_refused (P := Rig.Serves layout array.bytes) hlayout (fun _ hrig => hrig.on) array
        hproper
    rw [harray]
    exact hends

theorem read_refines (hlayout : layout.validate = .ok (.ok ())) (len : Nat) :
    Attempt.Ends (Rig.Serves layout array.bytes) (Session.call ⟨Rig.device⟩ (.read address len))
      (array.read address.toNat len) (Rig.Serves layout array.bytes) := by
  by_cases hproper : (FlashCall.read address len).Proper layout
  · rw [read_proper hproper]
    exact read_passed hlayout (fun _ hrig => hrig.on) hproper
      (Rig.device_read hproper.1 hproper.2)
  · obtain ⟨harray, hends⟩ :=
      read_refused (P := Rig.Serves layout array.bytes) hlayout (fun _ hrig => hrig.on) array
        hproper
    rw [harray]
    exact .bind_error (.bind_error hends)

/-- **A call cannot tell a part from an array.** -/
theorem call_refines (hlayout : layout.validate = .ok (.ok ())) (call : FlashCall) :
    Attempt.Ends (Rig.Serves layout array.bytes) (Session.call ⟨Rig.device⟩ call)
      (array.call call).1 (Rig.Serves layout (array.call call).2.bytes) := by
  cases call with
  | erase address => exact erase_refines hlayout
  | program address data => exact program_refines hlayout data
  | read address len => exact read_refines hlayout len

/-! ## Any number of calls -/

theorem contents_eq_medium {ctrl : Controller} (h : ctrl.Holds layout array.bytes) :
    ctrl.medium = array.contents := by
  have hcapacity := FlashLayout.start_add_capacity h.on.capacity
  have hsize : layout.stop - layout.start.toNat = ctrl.capacity := by omega
  rw [h.medium, contents, hsize]

/-- The induction is on the calls, with `Rig.Serves` as the invariant; the array is the state it is
indexed by. -/
theorem trace_ends (hlayout : layout.validate = .ok (.ok ())) (calls : List FlashCall) :
    ∃ final : FlashArray layout, Act.Ends (Rig.Serves layout array.bytes)
      (Rig.trace ⟨Rig.device⟩ calls) (array.trace calls) (Rig.Serves layout final.bytes) := by
  induction calls generalizing array with
  | nil => exact ⟨array, .pure _⟩
  | cons call calls ih =>
      obtain ⟨final, hrest⟩ := @ih (array.call call).2
      refine ⟨final, .bind (call_refines hlayout call) (Rig.ctrlNow_bind fun rig hrig => ?_)⟩
      rw [contents_eq_medium (Controller.Serves.holds hrig)]
      exact .bind hrest (.pure _)

end FlashArray

/-- **A part is an array of bytes.** Whatever the calls, every answer and the medium after it are
those of the array that starts with the contents of the medium. -/
theorem Rig.trace_eq_array {layout : FlashLayout} (hlayout : layout.validate = .ok (.ok ()))
    (rig : Rig) (hon : rig.ctrl.On layout) (hidle : rig.ctrl.Idle)
    (hworks : rig.ctrl.Works rig.pollTimeout) (log : Log) (calls : List FlashCall) :
    ∃ next, (Rig.trace ⟨Rig.device⟩ calls).runOn { state := rig, log } =
      (.ok ((FlashArray.ofMedium layout rig.ctrl.medium).trace calls), next) := by
  have hserves : Rig.Serves layout (FlashArray.ofMedium layout rig.ctrl.medium).bytes rig :=
    Controller.serves_loaded hon hidle hworks
  obtain ⟨_, htrace⟩ := FlashArray.trace_ends hlayout calls
  obtain ⟨next, hrun, _⟩ := htrace { state := rig, log } hserves
  exact ⟨next, hrun⟩

/-- Three sectors of two sizes, with pages of four bytes. -/
def smallLayout : FlashLayout where
  start := 0x1000
  pageSize := 4
  sectors := [⟨8, 2⟩, ⟨16, 1⟩]

/-- An erased part with this layout. -/
def smallRig : Rig where
  ctrl := .create smallLayout ⟨#[⟨0x1000, 8, 2⟩, ⟨0x1010, 16, 1⟩]⟩ 32 {} none
  clocks := { info := ⟨1000, 16⟩, cpuHz := 1000 }

/-- A page programmed twice, an erase of its sector, and calls that are refused. -/
def smallCalls : List FlashCall :=
  [.program 0x1004 ⟨#[1, 2, 3, 4]⟩, .program 0x1004 ⟨#[3, 3, 3, 3]⟩, .read 0x1003 6, .erase 0x1000,
    .read 0x1004 2, .erase 0x1004, .erase 0x1020, .program 0x101C ⟨#[1, 2, 3, 4, 5]⟩]

theorem Rig.trace_smallRig :
    smallLayout.validate = .ok (.ok ()) ∧ smallRig.ctrl.On smallLayout ∧ smallRig.ctrl.Idle ∧
      smallRig.ctrl.Works smallRig.pollTimeout ∧
      ∃ answers next, (Rig.trace ⟨Rig.device⟩ smallCalls).runOn { state := smallRig } =
        (.ok answers, next) ∧
        answers.map (·.1) = [.ok none, .ok none, .ok (some ⟨#[0xFF, 1, 2, 3, 0, 0xFF]⟩), .ok none,
          .ok (some ⟨#[0xFF, 0xFF]⟩), .error .alignment, .error .outOfRange,
          .error .outOfRange] := by
  have hlayout : smallLayout.validate = .ok (.ok ()) := rfl
  have hon : smallRig.ctrl.On smallLayout := Controller.create_on rfl rfl _ none
  have hidle : smallRig.ctrl.Idle := Controller.create_idle _ _ _ _ _
  have hworks : smallRig.ctrl.Works smallRig.pollTimeout := by
    refine ⟨rfl, rfl, fun operation => ?_⟩
    cases operation <;> decide
  obtain ⟨next, hrun⟩ := Rig.trace_eq_array hlayout smallRig hon hidle hworks {} smallCalls
  exact ⟨hlayout, hon, hidle, hworks, _, next, hrun, rfl⟩

end FlashBench
