import FlashBench.Proofs.Part.Confined
import FlashBench.Proofs.Part.History
import Mathlib.Data.LawfulXor.Basic
import Mathlib.Data.List.DropRight

/-!
# Programming accumulates

With respect to the erased value a program adds bits to a cell and removes none. So a cell holds all
the bits of all the bytes that were programmed to it since it was last erased, in whatever order and
however often that was done (`Memory.accumulated`, `FlashArray.afterAll_byte`).

For a history of calls that succeed on a part (`Rig.calls_accumulate`) this means that programs may
be permuted, repeated and split into their pages, that no bit goes back to its erased state but by
an erase, and that what is programmed to erased cells is what is read. On a controller that drops
its programs the bytes that are programmed are none (`Rig.calls_dropped_mixedRig`).
-/

namespace FlashBench

/-! ## Bits that add up -/

namespace Memory

variable {erased d : UInt8} {data other : List UInt8}

/-- All the bits that are set in one of the bytes. -/
def allBits (data : List UInt8) : UInt8 := data.foldr (· ||| ·) 0

/-- What an erased cell holds after all of `data` was programmed to it: the bits that differ from
the erased value in one of the bytes are those that differ in the cell. -/
def accumulated (erased : UInt8) (data : List UInt8) : UInt8 :=
  erased ^^^ allBits (data.map (erased ^^^ ·))

theorem allBits_concat (data : List UInt8) (d : UInt8) :
    allBits (data ++ [d]) = allBits data ||| d := by
  induction data with
  | nil => simp [allBits]
  | cons x rest ih =>
      show x ||| allBits (rest ++ [d]) = x ||| allBits rest ||| d
      rw [ih, UInt8.or_assoc]

theorem or_allBits (h : d ∈ data) : d ||| allBits data = allBits data := by
  induction data with
  | nil => cases h
  | cons x rest ih =>
      show d ||| (x ||| allBits rest) = x ||| allBits rest
      rcases List.mem_cons.mp h with rfl | hmem
      · rw [← UInt8.or_assoc, UInt8.or_self]
      · rw [← UInt8.or_assoc, UInt8.or_comm d x, UInt8.or_assoc, ih hmem]

theorem allBits_or (h : ∀ x ∈ data, x ||| d = d) : allBits data ||| d = d := by
  induction data with
  | nil => exact UInt8.zero_or
  | cons x rest ih =>
      have hrest := ih fun y hmem => h y (List.mem_cons_of_mem x hmem)
      show x ||| allBits rest ||| d = d
      rw [UInt8.or_assoc, hrest, h x List.mem_cons_self]

/-- Order and repetition make no difference. -/
theorem allBits_congr (h : ∀ x, x ∈ data ↔ x ∈ other) : allBits data = allBits other := by
  have hle := allBits_or fun x hmem => or_allBits ((h x).mp hmem)
  have hge := allBits_or fun x hmem => or_allBits ((h x).mpr hmem)
  rw [← hge, UInt8.or_comm, hle]

theorem accumulated_nil (erased : UInt8) : accumulated erased [] = erased :=
  UInt8.xor_zero

theorem accumulated_singleton (erased d : UInt8) : accumulated erased [d] = d := by
  simp [accumulated, allBits, xor_cancel_left]

/-- **A program adds a byte.** -/
theorem accumulated_concat (erased : UInt8) (data : List UInt8) (d : UInt8) :
    accumulated erased (data ++ [d]) = programmedByte erased (accumulated erased data) d := by
  rw [accumulated, List.map_append, List.map_singleton, allBits_concat, programmedByte, accumulated,
    xor_cancel_left]

theorem accumulated_congr (erased : UInt8) (h : ∀ x, x ∈ data ↔ x ∈ other) :
    accumulated erased data = accumulated erased other := by
  have hbits : allBits (data.map (erased ^^^ ·)) = allBits (other.map (erased ^^^ ·)) :=
    allBits_congr fun x => by simp only [List.mem_map, h]
  rw [accumulated, hbits, accumulated]

/-- Every bit that was programmed is still there. -/
theorem or_accumulated (erased : UInt8) (h : d ∈ data) :
    (erased ^^^ d) ||| (erased ^^^ accumulated erased data) =
      erased ^^^ accumulated erased data := by
  rw [accumulated, xor_cancel_left]
  exact or_allBits (List.mem_map_of_mem h)

end Memory

/-! ## What calls do to a cell -/

namespace FlashCall

variable {layout : FlashLayout} {drops : Bool} {a : Nat} {address : UInt32} {data : ByteArray}
  {history : List FlashCall} {d : UInt8}

/-- The call programs the part. -/
def IsProgram : FlashCall → Prop
  | program _ _ => True
  | _ => False

/-- The call erases the sector that covers `a`. -/
def Erases (layout : FlashLayout) (a : Nat) : FlashCall → Prop
  | erase address => ∃ sector ∈ layout.sectorList, sector.start = address ∧ sector.Covers a
  | _ => False

instance Erases.decide (layout : FlashLayout) (a : Nat) :
    (call : FlashCall) → Decidable (call.Erases layout a)
  | erase address => inferInstanceAs
      (Decidable (∃ sector ∈ layout.sectorList, sector.start = address ∧ sector.Covers a))
  | program _ _ => inferInstanceAs (Decidable False)
  | read _ _ => inferInstanceAs (Decidable False)

/-- The byte that the call programs to `a`. A part that drops its programs is programmed nothing. -/
def byteTo (drops : Bool) (a : Nat) : FlashCall → Option UInt8
  | program address data =>
      if drops = false ∧ address.toNat ≤ a then data.data[a - address.toNat]? else none
  | _ => none

/-- The bytes that a history has programmed to `a` since it last erased the sector of `a`. As long
as it never did, the byte `old` that was there in the beginning counts as one of them. -/
def programmedTo (layout : FlashLayout) (drops : Bool) (a : Nat) (old : UInt8)
    (history : List FlashCall) : List UInt8 :=
  (if ∃ call ∈ history, call.Erases layout a then [] else [old]) ++
    (history.rtakeWhile fun call => ¬ call.Erases layout a).filterMap (byteTo drops a)

/-- The pages of a program, each of them as a call of its own. -/
def pages (layout : FlashLayout) (address : UInt32) (data : ByteArray) : List FlashCall :=
  (List.range (data.size / layout.pageSize.toNat)).map fun index =>
    program (UInt32.ofNat (address.toNat + index * layout.pageSize.toNat))
      (data.extract (index * layout.pageSize.toNat)
        (index * layout.pageSize.toNat + layout.pageSize.toNat))

theorem byteTo_program_eq_some :
    (program address data).byteTo drops a = some d ↔
      drops = false ∧ address.toNat ≤ a ∧ a < address.toNat + data.size ∧
        Memory.loaded data address.toNat a = d := by
  rw [byteTo]
  by_cases hhere : drops = false ∧ address.toNat ≤ a
  · rw [if_pos hhere, Array.getElem?_eq_some_iff]
    constructor
    · rintro ⟨hin, hbyte⟩
      have hsize : a - address.toNat < data.size := hin
      exact ⟨hhere.1, hhere.2, by omega, (Memory.loaded_eq_getElem hin).trans hbyte⟩
    · rintro ⟨_, hfirst, hlast, hbyte⟩
      have hin : a - address.toNat < data.size := by omega
      exact ⟨hin, (Memory.loaded_eq_getElem hin).symm.trans hbyte⟩
  · rw [if_neg hhere]
    exact iff_of_false nofun fun h => hhere ⟨h.1, h.2.1⟩

theorem programmedTo_concat (layout : FlashLayout) (drops : Bool) (a : Nat) (old : UInt8)
    (history : List FlashCall) (call : FlashCall) :
    programmedTo layout drops a old (history ++ [call]) =
      if call.Erases layout a then []
      else programmedTo layout drops a old history ++ (call.byteTo drops a).toList := by
  unfold programmedTo
  by_cases herases : call.Erases layout a
  · rw [if_pos herases, if_pos ⟨call, by simp, herases⟩,
      List.rtakeWhile_concat_neg _ _ _ (by simpa using herases)]
    rfl
  · have hsame : (∃ other ∈ history ++ [call], other.Erases layout a) ↔
        ∃ other ∈ history, other.Erases layout a := by
      simp [herases, or_and_right, exists_or]
    rw [if_neg herases, List.rtakeWhile_concat_pos _ _ _ (by simpa using herases),
      List.filterMap_append, ← List.append_assoc]
    simp only [hsame]
    cases hbyte : call.byteTo drops a <;> simp [hbyte]

/-- Without an erase all that was programmed counts, and so does what was there before. -/
theorem programmedTo_of_programs (hprograms : ∀ call ∈ history, call.IsProgram) (old : UInt8) :
    programmedTo layout drops a old history = old :: history.filterMap (byteTo drops a) := by
  have hnone : ∀ call ∈ history, ¬ call.Erases layout a := fun call hmem herases => by
    cases call with
    | program => exact herases
    | erase | read => exact hprograms _ hmem
  have hall : (history.rtakeWhile fun call => ¬ call.Erases layout a) = history :=
    List.rtakeWhile_eq_self_iff.mpr fun call hmem => by simpa using hnone call hmem
  rw [programmedTo, hall, if_neg fun ⟨call, hmem, herases⟩ => hnone call hmem herases]
  rfl

theorem mem_pages {call : FlashCall} (hpage : 0 < layout.pageSize.toNat) :
    call ∈ pages layout address data ↔ ∃ offset, offset + layout.pageSize.toNat ≤ data.size ∧
      layout.pageSize.toNat ∣ offset ∧
      call = program (UInt32.ofNat (address.toNat + offset))
        (data.extract offset (offset + layout.pageSize.toNat)) := by
  have hroom (index : Nat) : index < data.size / layout.pageSize.toNat ↔
      index * layout.pageSize.toNat + layout.pageSize.toNat ≤ data.size := by
    rw [← Nat.succ_le_iff, Nat.le_div_iff_mul_le hpage, Nat.succ_mul]
  simp only [pages, List.mem_map, List.mem_range, hroom]
  constructor
  · rintro ⟨index, hindex, rfl⟩
    exact ⟨_, hindex, Nat.dvd_mul_left _ _, rfl⟩
  · rintro ⟨_, hoffset, ⟨index, rfl⟩, rfl⟩
    rw [Nat.mul_comm] at hoffset ⊢
    exact ⟨index, hoffset, rfl⟩

section Pages

variable {map : SectorMap} (hcharts : layout.Charts (layout.geometry map))
  (hproper : (program address data).Proper layout)

include hcharts hproper

/-- A page lies where it is in the program. -/
theorem toNat_page {offset : Nat} (hoffset : offset + layout.pageSize.toNat ≤ data.size) :
    (UInt32.ofNat (address.toNat + offset)).toNat = address.toNat + offset := by
  have hlast := hproper.2.1
  have htop := hcharts.top
  have hpage := hcharts.paged
  exact Word.toNat_ofNat_of_lt (by omega)

/-- **The pages of a program** are accepted like the program. -/
theorem accepted_page {ready : FlashOperation → Prop} (hready : ready .programPage) :
    ∀ call ∈ pages layout address data, call.Accepted layout ready := by
  intro call hmem
  obtain ⟨offset, hoffset, hdvd, rfl⟩ := (mem_pages hcharts.paged).mp hmem
  have htarget := toNat_page hcharts hproper hoffset
  obtain ⟨hfirst, hlast, _, _, haligned⟩ := hproper
  have hpage := hcharts.paged
  have hsize : (data.extract offset (offset + layout.pageSize.toNat)).size =
      layout.pageSize.toNat := by
    rw [ByteArray.size_extract]
    omega
  refine ⟨⟨?_, ?_, ?_, ?_, ?_⟩, fun _ heq => Option.some.inj heq ▸ hready⟩
  · omega
  · omega
  · omega
  · exact ⟨1, hsize.trans (Nat.mul_one _).symm⟩
  · rw [htarget]
    exact Nat.dvd_add haligned hdvd

/-- **The pages of a program** program the same bytes as the program. -/
theorem mem_filterMap_pages :
    d ∈ (pages layout address data).filterMap (byteTo drops a) ↔
      (program address data).byteTo drops a = some d := by
  have hpage := hcharts.paged
  rw [List.mem_filterMap, byteTo_program_eq_some]
  constructor
  · rintro ⟨call, hmem, hbyte⟩
    obtain ⟨offset, hoffset, _, rfl⟩ := (mem_pages hpage).mp hmem
    obtain ⟨hkeeps, hfirst, hlast, rfl⟩ := byteTo_program_eq_some.mp hbyte
    rw [toNat_page hcharts hproper hoffset] at hfirst hlast ⊢
    rw [ByteArray.size_extract] at hlast
    exact ⟨hkeeps, by omega, by omega,
      (Memory.loaded_extract hoffset hfirst (by omega)).symm⟩
  · rintro ⟨hkeeps, hfirst, hlast, rfl⟩
    -- the page that holds the address
    let offset := (a - address.toNat) / layout.pageSize.toNat * layout.pageSize.toNat
    have hdvd : layout.pageSize.toNat ∣ offset := Nat.dvd_mul_left _ _
    have hle : offset ≤ a - address.toNat := Nat.div_mul_le_self _ _
    have hlt : a - address.toNat < offset + layout.pageSize.toNat :=
      Nat.lt_div_mul_add hpage
    have hoffset : offset + layout.pageSize.toNat ≤ data.size :=
      Nat.le_of_lt_add_of_dvd (by omega) (Nat.dvd_add hdvd (Nat.dvd_refl _)) hproper.2.2.2.1
    refine ⟨_, (mem_pages hpage).mpr ⟨offset, hoffset, hdvd, rfl⟩, byteTo_program_eq_some.mpr ?_⟩
    rw [toNat_page hcharts hproper hoffset, ByteArray.size_extract]
    exact ⟨hkeeps, by omega, by omega, Memory.loaded_extract hoffset (by omega) (by omega)⟩

end Pages

end FlashCall

namespace FlashArray

variable {layout : FlashLayout} {drops : Bool} {array : FlashArray layout} {call : FlashCall}
  {history : List FlashCall} {a : Nat}

/-- **One call** sets a cell to the erased value, programs a byte to it, or leaves it alone. -/
theorem after_byte (hlayout : layout.validate = .ok (.ok ())) (hproper : call.Proper layout) :
    (array.after drops call).bytes a =
      if call.Erases layout a then layout.eraseValue
      else (call.byteTo drops a).elim (array.bytes a)
        (Memory.programmedByte layout.eraseValue (array.bytes a)) := by
  cases call with
  | read address len => rfl
  | erase address =>
      by_cases herases : (FlashCall.erase address).Erases layout a
      · obtain ⟨sector, hmem, rfl, hcovers⟩ := id herases
        rw [if_pos herases, after_erase hlayout hmem]
        exact Memory.patch_inside hcovers
      · obtain ⟨sector, hmem, rfl⟩ := hproper
        rw [if_neg herases, after_erase hlayout hmem]
        exact Memory.patch_outside fun hcovers => herases ⟨sector, hmem, rfl, hcovers⟩
  | program address data =>
      have hnot : ¬ (FlashCall.program address data).Erases layout a := id
      rw [if_neg hnot, after_program hproper]
      cases hbyte : (FlashCall.program address data).byteTo drops a with
      | some d =>
          obtain ⟨rfl, hfirst, hlast, rfl⟩ := FlashCall.byteTo_program_eq_some.mp hbyte
          exact Memory.patch_inside ⟨hfirst, hlast⟩
      | none =>
          cases drops with
          | true => rfl
          | false =>
              refine Memory.patch_outside fun hin => ?_
              cases hbyte.symm.trans
                (FlashCall.byteTo_program_eq_some.mpr ⟨rfl, hin.1, hin.2, rfl⟩)

/-- **All the bits** that were programmed to a cell since it was last erased are what it holds. -/
theorem afterAll_byte (hlayout : layout.validate = .ok (.ok ()))
    (hproper : ∀ call ∈ history, call.Proper layout) :
    (array.afterAll drops history).bytes a = Memory.accumulated layout.eraseValue
      (FlashCall.programmedTo layout drops a (array.bytes a) history) := by
  induction history using List.reverseRecOn with
  | nil => exact (Memory.accumulated_singleton _ _).symm
  | append_singleton history call ih =>
      have hbefore := ih fun other hmem => hproper other (List.mem_append_left _ hmem)
      have hcall := hproper call (List.mem_append_right _ (List.mem_singleton_self call))
      have hlast : array.afterAll drops (history ++ [call]) =
          (array.afterAll drops history).after drops call := List.foldl_concat _ _ _ _
      rw [hlast, after_byte hlayout hcall, hbefore, FlashCall.programmedTo_concat]
      by_cases herases : call.Erases layout a
      · rw [if_pos herases, if_pos herases, Memory.accumulated_nil]
      · rw [if_neg herases, if_neg herases]
        cases call.byteTo drops a with
        | none => rw [Option.toList_none, List.append_nil]; rfl
        | some d => exact (Memory.accumulated_concat _ _ _).symm

theorem afterAll_append (array : FlashArray layout) (drops : Bool) (front back : List FlashCall) :
    array.afterAll drops (front ++ back) = (array.afterAll drops front).afterAll drops back :=
  List.foldl_append

/-- **Programs in any order,** and repeated in any number, leave the same. -/
theorem afterAll_congr {others : List FlashCall} (hlayout : layout.validate = .ok (.ok ()))
    (hprograms : ∀ call ∈ history, call.IsProgram) (hothers : ∀ call ∈ others, call.IsProgram)
    (hproper : ∀ call ∈ history, call.Proper layout)
    (hproper' : ∀ call ∈ others, call.Proper layout)
    (hsame : ∀ a d, d ∈ others.filterMap (FlashCall.byteTo drops a) ↔
      d ∈ history.filterMap (FlashCall.byteTo drops a)) :
    array.afterAll drops others = array.afterAll drops history := by
  have hbytes : (array.afterAll drops others).bytes = (array.afterAll drops history).bytes := by
    funext a
    rw [afterAll_byte hlayout hproper, afterAll_byte hlayout hproper',
      FlashCall.programmedTo_of_programs hprograms, FlashCall.programmedTo_of_programs hothers]
    exact Memory.accumulated_congr _ fun d => by simp only [List.mem_cons, hsame]
  cases hleft : array.afterAll drops others
  cases hright : array.afterAll drops history
  rw [hleft, hright] at hbytes
  exact congrArg FlashArray.mk hbytes

end FlashArray

/-! ## Histories on a part -/

namespace Rig

variable {layout : FlashLayout} {rig : Rig} {log : Log} {next : World Rig}
  {history before programs others rest : List FlashCall} {address : UInt32} {data : ByteArray}
  {a : Nat}

/-- The calls all succeed, one after the other, and end in `next`. -/
def Succeeds (rig : Rig) (log : Log) (history : List FlashCall) (next : World Rig) : Prop :=
  (Session.calls ⟨device⟩ history).run.runOn { state := rig, log } = (.ok (.ok ()), next)

/-- The calls all succeed, and leave `medium`. -/
def Leaves (rig : Rig) (log : Log) (history : List FlashCall) (medium : ByteArray) : Prop :=
  ∃ next, rig.Succeeds log history next ∧ next.state.ctrl.medium = medium

/-- The operations that would end in time on the controller as it is. -/
def readyNow (rig : Rig) (operation : FlashOperation) : Prop :=
  rig.ctrl.Punctual operation rig.pollTimeout

/-- The array that a part is. -/
def array (layout : FlashLayout) (rig : Rig) : FlashArray layout := ⟨rig.ctrl.byteAt⟩

/-- The rig rests, and its medium is what the history leaves of that of `rig`. -/
def RestsAfter (layout : FlashLayout) (rig : Rig) (history : List FlashCall) (next : Rig) : Prop :=
  Rests layout rig.ctrl.dropWrites rig.readyNow
    ((rig.array layout).afterAll rig.ctrl.dropWrites history).bytes next

theorem rests_now (hon : rig.ctrl.On layout) :
    Rests layout rig.ctrl.dropWrites rig.readyNow (rig.array layout).bytes rig :=
  ⟨hon.holds_byteAt, rfl, fun _ => Iff.rfl⟩

section Histories

variable (hlayout : layout.validate = .ok (.ok ())) (hon : rig.ctrl.On layout)

include hlayout

theorem RestsAfter.byteAt (h : rig.RestsAfter layout history next.state)
    (hproper : ∀ call ∈ history, call.Proper layout) (hfirst : layout.start.toNat ≤ a)
    (hlast : a < layout.stop) :
    next.state.ctrl.byteAt a = Memory.accumulated layout.eraseValue
      (FlashCall.programmedTo layout rig.ctrl.dropWrites a (rig.ctrl.byteAt a) history) :=
  (h.holds.byteAt hfirst hlast).trans (FlashArray.afterAll_byte hlayout hproper)

include hon

/-- **What a history leaves** is what it leaves in the array. -/
theorem succeeds_of_accepted (log : Log)
    (haccepted : ∀ call ∈ history, call.Accepted layout rig.readyNow) :
    ∃ next, rig.Succeeds log history next ∧ rig.RestsAfter layout history next.state :=
  calls_ok hlayout haccepted { state := rig, log } (rests_now hon)

/-- A history that succeeded was accepted, and left what the array has. -/
theorem Succeeds.accepted (hrun : rig.Succeeds log history next) :
    (∀ call ∈ history, call.Accepted layout rig.readyNow) ∧
      rig.RestsAfter layout history next.state := by
  have haccepted := calls_accepted hlayout (rests_now hon) hrun
  obtain ⟨other, hother, hnext⟩ := succeeds_of_accepted hlayout hon log haccepted
  obtain ⟨-, rfl⟩ := Prod.mk.inj (hother.symm.trans hrun)
  exact ⟨haccepted, hnext⟩

/-- **Programs may be replaced** by others that program the same bytes. -/
theorem Succeeds.replaced (hrun : rig.Succeeds log (before ++ programs ++ rest) next)
    (hprograms : ∀ call ∈ programs, call.IsProgram)
    (hothers : ∀ call ∈ others, call.IsProgram ∧ call.Accepted layout rig.readyNow)
    (hsame : ∀ a d, d ∈ others.filterMap (FlashCall.byteTo rig.ctrl.dropWrites a) ↔
      d ∈ programs.filterMap (FlashCall.byteTo rig.ctrl.dropWrites a)) :
    rig.Leaves log (before ++ others ++ rest) next.state.ctrl.medium := by
  obtain ⟨haccepted, hnext⟩ := hrun.accepted hlayout hon
  simp only [List.forall_mem_append] at haccepted
  obtain ⟨⟨hbefore, hold⟩, hrest⟩ := haccepted
  have hnew : ∀ call ∈ before ++ others ++ rest, call.Accepted layout rig.readyNow := by
    simp only [List.forall_mem_append]
    exact ⟨⟨hbefore, fun call hmem => (hothers call hmem).2⟩, hrest⟩
  obtain ⟨other, hother, hleft⟩ := succeeds_of_accepted hlayout hon log hnew
  have hmiddle (array : FlashArray layout) : array.afterAll rig.ctrl.dropWrites others =
      array.afterAll rig.ctrl.dropWrites programs :=
    FlashArray.afterAll_congr hlayout hprograms (fun call hmem => (hothers call hmem).1)
      (fun call hmem => (hold call hmem).proper) (fun call hmem => (hothers call hmem).2.proper)
      hsame
  have harray : (rig.array layout).afterAll rig.ctrl.dropWrites (before ++ others ++ rest) =
      (rig.array layout).afterAll rig.ctrl.dropWrites (before ++ programs ++ rest) := by
    simp only [FlashArray.afterAll_append, hmiddle]
  rw [RestsAfter, harray] at hleft
  exact ⟨other, hother, (FlashArray.contents_eq_medium hleft.holds).trans
    (FlashArray.contents_eq_medium hnext.holds).symm⟩

/-- **Programs in any order,** and any number of times. -/
theorem Succeeds.reordered (hrun : rig.Succeeds log (before ++ programs ++ rest) next)
    (hprograms : ∀ call ∈ programs, call.IsProgram)
    (hsame : ∀ call, call ∈ others ↔ call ∈ programs) :
    rig.Leaves log (before ++ others ++ rest) next.state.ctrl.medium := by
  obtain ⟨haccepted, _⟩ := hrun.accepted hlayout hon
  have hothers : ∀ call ∈ others, call.IsProgram ∧ call.Accepted layout rig.readyNow :=
    fun call hmem =>
      have hmem := (hsame call).mp hmem
      ⟨hprograms call hmem, haccepted call (by simp [hmem])⟩
  exact hrun.replaced hlayout hon hprograms hothers fun a d => by
    simp only [List.mem_filterMap, hsame]

/-- **A program page by page.** -/
theorem Succeeds.split (hrun : rig.Succeeds log (before ++ [.program address data] ++ rest) next) :
    rig.Leaves log (before ++ FlashCall.pages layout address data ++ rest)
      next.state.ctrl.medium := by
  obtain ⟨haccepted, _⟩ := hrun.accepted hlayout hon
  have hprogram := haccepted (.program address data) (by simp)
  have hcharts := FlashLayout.charts_geometry hlayout hon.sectorMap
  have hpages : ∀ call ∈ FlashCall.pages layout address data,
      call.IsProgram ∧ call.Accepted layout rig.readyNow := fun call hmem => by
    refine ⟨?_, FlashCall.accepted_page hcharts hprogram.proper (hprogram.ready _ rfl) call hmem⟩
    obtain ⟨_, _, _, rfl⟩ := (FlashCall.mem_pages hcharts.paged).mp hmem
    trivial
  refine hrun.replaced hlayout hon (fun call hmem => List.mem_singleton.mp hmem ▸ trivial) hpages
    fun a d => ?_
  rw [FlashCall.mem_filterMap_pages hcharts hprogram.proper]
  simp [List.mem_filterMap]

/-- **Programs keep every bit** that is not as it is when erased. -/
theorem Succeeds.keeps_bits (hrun : rig.Succeeds log (before ++ programs) next)
    (hprograms : ∀ call ∈ programs, call.IsProgram) :
    ∃ middle, rig.Succeeds log before middle ∧
      ∀ a, layout.start.toNat ≤ a → a < layout.stop →
        (layout.eraseValue ^^^ middle.state.ctrl.byteAt a) |||
            (layout.eraseValue ^^^ next.state.ctrl.byteAt a) =
          layout.eraseValue ^^^ next.state.ctrl.byteAt a := by
  obtain ⟨haccepted, hnext⟩ := hrun.accepted hlayout hon
  obtain ⟨hbefore, hrest⟩ := List.forall_mem_append.mp haccepted
  obtain ⟨middle, hmiddle, hrests⟩ := succeeds_of_accepted hlayout hon log hbefore
  refine ⟨middle, hmiddle, fun a hfirst hlast => ?_⟩
  have hproper : ∀ call ∈ programs, call.Proper layout := fun call hmem => (hrest call hmem).proper
  rw [hnext.holds.byteAt hfirst hlast, hrests.holds.byteAt hfirst hlast,
    FlashArray.afterAll_append, FlashArray.afterAll_byte hlayout hproper,
    FlashCall.programmedTo_of_programs hprograms]
  exact Memory.or_accumulated _ List.mem_cons_self

/-- **What is programmed to erased cells** is what is read from them. -/
theorem Succeeds.reads (hrun : rig.Succeeds log (before ++ [.program address data]) next)
    (hkeeps : rig.ctrl.dropWrites = false)
    (hfresh : ∀ a, address.toNat ≤ a → a < address.toNat + data.size →
      FlashCall.programmedTo layout rig.ctrl.dropWrites a (rig.ctrl.byteAt a) before = []) :
    ∃ last, (Session.call ⟨device⟩ (.read address data.size)).run.runOn next =
      (.ok (.ok (some data)), last) := by
  obtain ⟨haccepted, hnext⟩ := hrun.accepted hlayout hon
  obtain ⟨hproper, _⟩ := haccepted (.program address data) (by simp)
  have hdata : Memory.dump ((rig.array layout).afterAll rig.ctrl.dropWrites
      (before ++ [.program address data])).bytes address.toNat data.size = data := by
    rw [← Memory.dump_loaded data address.toNat, Memory.size_dump]
    refine Memory.dump_congr fun a hfirst hlast => ?_
    have hto : (FlashCall.program address data).byteTo rig.ctrl.dropWrites a =
        some (Memory.loaded data address.toNat a) :=
      FlashCall.byteTo_program_eq_some.mpr ⟨hkeeps, hfirst, hlast, rfl⟩
    rw [Memory.dump_loaded,
      FlashArray.afterAll_byte hlayout fun call hmem => (haccepted call hmem).proper,
      FlashCall.programmedTo_concat,
      if_neg (show ¬ (FlashCall.program address data).Erases layout a from id), hto,
      show FlashCall.programmedTo layout _ a ((rig.array layout).bytes a) before = [] from
        hfresh a hfirst hlast]
    exact Memory.accumulated_singleton _ _
  obtain ⟨last, hread, _⟩ := read_rests hlayout ⟨hproper.1, hproper.2.1⟩ next hnext
  exact ⟨last, by rw [hread, hdata]⟩

end Histories

/-- **Programming accumulates.** After a history of calls that succeeded every cell holds the bits
of all that was programmed to it since it was last erased. So programs may come in another order and
any number of times, or page by page; no program moves a bit back to its erased state; and what is
programmed to erased cells is read. -/
theorem calls_accumulate (hlayout : layout.validate = .ok (.ok ())) (rig : Rig)
    (hon : rig.ctrl.On layout) (log : Log) {history : List FlashCall} {next : World Rig}
    (hrun : rig.Succeeds log history next) :
    let erased := layout.eraseValue
    let drops := rig.ctrl.dropWrites
    (∀ a, layout.start.toNat ≤ a → a < layout.stop →
        next.state.ctrl.byteAt a = Memory.accumulated erased
          (FlashCall.programmedTo layout drops a (rig.ctrl.byteAt a) history)) ∧
      (∀ before programs others rest, history = before ++ programs ++ rest →
        (∀ call ∈ programs, call.IsProgram) → (∀ call, call ∈ others ↔ call ∈ programs) →
        rig.Leaves log (before ++ others ++ rest) next.state.ctrl.medium) ∧
      (∀ before address data rest, history = before ++ [.program address data] ++ rest →
        rig.Leaves log (before ++ FlashCall.pages layout address data ++ rest)
          next.state.ctrl.medium) ∧
      (∀ before programs, history = before ++ programs → (∀ call ∈ programs, call.IsProgram) →
        ∃ middle, rig.Succeeds log before middle ∧
          ∀ a, layout.start.toNat ≤ a → a < layout.stop →
            (erased ^^^ middle.state.ctrl.byteAt a) ||| (erased ^^^ next.state.ctrl.byteAt a) =
              erased ^^^ next.state.ctrl.byteAt a) ∧
      (∀ before address data, history = before ++ [.program address data] → drops = false →
        (∀ a, address.toNat ≤ a → a < address.toNat + data.size →
          FlashCall.programmedTo layout drops a (rig.ctrl.byteAt a) before = []) →
        ∃ last, (Session.call ⟨device⟩ (.read address data.size)).run.runOn next =
          (.ok (.ok (some data)), last)) := by
  intro erased drops
  obtain ⟨haccepted, hnext⟩ := hrun.accepted hlayout hon
  have hproper : ∀ call ∈ history, call.Proper layout := fun call hmem =>
    (haccepted call hmem).proper
  refine ⟨fun a => hnext.byteAt hlayout hproper, ?_, ?_, ?_, ?_⟩
  · rintro before programs others rest rfl
    exact hrun.reordered hlayout hon
  · rintro before address data rest rfl
    exact hrun.split hlayout hon
  · rintro before programs rfl
    exact hrun.keeps_bits hlayout hon
  · rintro before address data rfl
    exact hrun.reads hlayout hon

/-- Three sectors whose erased bytes are `0x5A`. -/
def mixedLayout : FlashLayout := { smallLayout with eraseValue := 0x5A }

/-- A part with this layout, of which nothing is erased, and which may drop its programs. -/
def mixedRig (drops : Bool) : Rig where
  ctrl :=
    let ctrl := Controller.create mixedLayout ⟨#[⟨0x1000, 8, 2⟩, ⟨0x1010, 16, 1⟩]⟩ 32 {}
      (some (Controller.preparedImage 32 0x5A (Memory.filled 32 0x11)))
    { ctrl with dropWrites := drops }
  clocks := { info := ⟨1000, 16⟩, cpuHz := 1000 }

theorem mixedRig_on (drops : Bool) : (mixedRig drops).ctrl.On mixedLayout :=
  have h := Controller.create_on (show mixedLayout.sectorMap = .ok _ from rfl)
    (show mixedLayout.capacity = .ok _ from rfl) {} (some (Memory.filled 32 0x11))
  ⟨rfl, h.sectorMap, h.capacity, h.pageBuffer, h.medium⟩

/-- Proper calls are in time for this part. -/
theorem mixedRig_accepts (drops : Bool) {history : List FlashCall}
    (hproper : ∀ call ∈ history, call.Proper mixedLayout) :
    ∀ call ∈ history, call.Accepted mixedLayout (mixedRig drops).readyNow := by
  have hready : ∀ operation, (mixedRig drops).readyNow operation := fun operation =>
    ⟨by cases drops <;> decide, rfl, by cases drops <;> cases operation <;> decide⟩
  exact fun call hmem => ⟨hproper call hmem, fun operation _ => hready operation⟩

/-- Two pages are programmed, the second of them twice; then the next sector is erased and
programmed. -/
theorem calls_accumulate_mixedRig :
    let pages := FlashCall.program 0x1000 ⟨#[1, 2, 3, 4, 5, 6, 7, 8]⟩
    let again := FlashCall.program 0x1004 ⟨#[0x3C, 0x3C, 0x3C, 0x3C]⟩
    let after : List FlashCall := [.erase 0x1008, .program 0x1008 ⟨#[9, 8, 7, 6]⟩]
    mixedLayout.validate = .ok (.ok ()) ∧ (mixedRig false).ctrl.On mixedLayout ∧
      ∃ next, (mixedRig false).Succeeds {} ([pages, again] ++ after) next ∧
        next.state.ctrl.byteAt 0x1005 = 0x5A ^^^ (0x5A ^^^ 0x11 ||| 0x5A ^^^ 6 ||| 0x5A ^^^ 0x3C) ∧
        (mixedRig false).Leaves {} ([again, pages, again] ++ after) next.state.ctrl.medium ∧
        (mixedRig false).Leaves {}
          ([.program 0x1000 ⟨#[1, 2, 3, 4]⟩, .program 0x1004 ⟨#[5, 6, 7, 8]⟩, again] ++ after)
          next.state.ctrl.medium ∧
        (∃ middle, (mixedRig false).Succeeds {} [pages, again, .erase 0x1008] middle ∧
          (0x5A ^^^ middle.state.ctrl.byteAt 0x1008) ||| (0x5A ^^^ next.state.ctrl.byteAt 0x1008) =
            0x5A ^^^ next.state.ctrl.byteAt 0x1008) ∧
        ∃ last, (Session.call ⟨device⟩ (.read 0x1008 4)).run.runOn next =
          (.ok (.ok (some ⟨#[9, 8, 7, 6]⟩)), last) := by
  intro pages again after
  have hlayout : mixedLayout.validate = .ok (.ok ()) := rfl
  have hon := mixedRig_on false
  have hproper : ∀ call ∈ [pages, again] ++ after, call.Proper mixedLayout := by decide +kernel
  obtain ⟨next, hrun, _⟩ := succeeds_of_accepted hlayout hon {} (mixedRig_accepts false hproper)
  obtain ⟨hbytes, horder, hpages, hbits, hread⟩ :=
    calls_accumulate hlayout (mixedRig false) hon {} hrun
  refine ⟨hlayout, hon, next, hrun, ?_, ?_, ?_, ?_, ?_⟩
  · rw [hbytes 0x1005 (by decide) (by decide)]
    decide +kernel
  · exact horder [] [pages, again] [again, pages, again] after rfl
      (by simp [pages, again, FlashCall.IsProgram]) (by simp)
  · have hsplit : FlashCall.pages mixedLayout 0x1000 ⟨#[1, 2, 3, 4, 5, 6, 7, 8]⟩ =
        [.program 0x1000 ⟨#[1, 2, 3, 4]⟩, .program 0x1004 ⟨#[5, 6, 7, 8]⟩] := rfl
    have hleaves := hpages [] 0x1000 ⟨#[1, 2, 3, 4, 5, 6, 7, 8]⟩ (again :: after) rfl
    rw [hsplit] at hleaves
    exact hleaves
  · obtain ⟨middle, hmiddle, hkeeps⟩ :=
      hbits [pages, again, .erase 0x1008] [.program 0x1008 ⟨#[9, 8, 7, 6]⟩] rfl
        (by simp [FlashCall.IsProgram])
    exact ⟨middle, hmiddle, hkeeps 0x1008 (by decide) (by decide)⟩
  · refine hread [pages, again, .erase 0x1008] 0x1008 ⟨#[9, 8, 7, 6]⟩ rfl rfl ?_
    have hfresh : ∀ a ∈ List.range' 0x1008 4, FlashCall.programmedTo mixedLayout false a
        ((mixedRig false).ctrl.byteAt a) [pages, again, .erase 0x1008] = [] := by decide +kernel
    exact fun a hfirst hlast => hfresh a (List.mem_range'_1.mpr ⟨hfirst, hlast⟩)

/-- **What is dropped** is not accumulated. The calls succeed on a part that drops its programs as
well, but what was erased stays erased. -/
theorem calls_dropped_mixedRig :
    let history := [FlashCall.erase 0x1008, .program 0x1008 ⟨#[9, 8, 7, 6]⟩]
    mixedLayout.validate = .ok (.ok ()) ∧ (mixedRig true).ctrl.On mixedLayout ∧
      ∃ next, (mixedRig true).Succeeds {} history next ∧
        Memory.accumulated 0x5A (FlashCall.programmedTo mixedLayout false 0x1008
          ((mixedRig true).ctrl.byteAt 0x1008) history) = 9 ∧
        next.state.ctrl.byteAt 0x1008 = 0x5A ∧
        ∃ last, (Session.call ⟨device⟩ (.read 0x1008 4)).run.runOn next =
          (.ok (.ok (some ⟨#[0x5A, 0x5A, 0x5A, 0x5A]⟩)), last) := by
  intro history
  have hlayout : mixedLayout.validate = .ok (.ok ()) := rfl
  have hon := mixedRig_on true
  have hproper : ∀ call ∈ history, call.Proper mixedLayout := by decide +kernel
  obtain ⟨next, hrun, hnext⟩ := succeeds_of_accepted hlayout hon {} (mixedRig_accepts true hproper)
  have herased : Memory.dump (((mixedRig true).array mixedLayout).afterAll true history).bytes
      0x1008 4 = ⟨#[0x5A, 0x5A, 0x5A, 0x5A]⟩ := by decide +kernel
  obtain ⟨last, hread, _⟩ :=
    read_rests hlayout (show (FlashCall.read 0x1008 4).Proper mixedLayout by decide) next hnext
  refine ⟨hlayout, hon, next, hrun, by decide +kernel, ?_, last, ?_⟩
  · rw [hnext.byteAt hlayout hproper (by decide) (by decide)]
    decide +kernel
  · rw [← herased]
    exact hread

end Rig

end FlashBench
