import FlashBench.Proofs.Geometry.Window
import FlashBench.Proofs.Validation.Fill

/-!
# Reading back in chunks

A comparison on a device whose reads show stable bytes, as long as they are not refused, compared
with one look at the whole stretch.

* **The answer** (`Validator.expectFill_reads_back`): the chunks do not show. The comparison is
  passed exactly when no read is refused and every byte is the expected one, and otherwise it names
  the first byte that differs, or the error of the read that was refused.
* **The reads** stay inside the stretch and have no byte in common.
* **One buffer for all reads** (`Validator.compareInPlace_runOn`): what an earlier read left in the
  buffer is never compared.
-/

namespace FlashBench

variable {σ : Type} {P : σ → Prop} {bytes : Nat → UInt8} {device : Device σ} {start size : UInt32}
  {may : FlashError → Prop}

/-- In every state of `P`, which its questions and reads keep, the device has its window, and a read
inside the window shows `bytes` or is refused with an error that may occur. -/
structure Device.Stable (device : Device σ) (P : σ → Prop) (start size : UInt32)
    (bytes : Nat → UInt8) (may : FlashError → Prop) : Prop where
  spans : device.Spans P start size
  read : ∀ (address : UInt32) (len : Nat), start.toNat ≤ address.toNat →
    address.toNat + len ≤ start.toNat + size.toNat →
    Attempt.Leads P (device.read address len)
      (fun data s => data = Memory.dump bytes address.toNat len ∧ P s)
      (fun error s => may error ∧ P s) fun _ _ => False

/-- The errors of refused reads are among those that may occur. -/
def Reading.May (may : FlashError → Prop) (readings : List Reading) : Prop :=
  ∀ reading ∈ readings, ∀ error, reading.answer = .error error → may error

/-- A watched device reads as the device does, and keeps the reads. -/
theorem Device.Stable.watched (h : device.Stable P start size bytes may) :
    device.watched.ReadsAs
      (fun made watched => (P watched.hardware ∧ watched.inquiry.readings = made) ∧
        Reading.May may made) start size bytes where
  spans made := (h.spans.watched (T := fun inquiry => inquiry.readings = made)).and_const _
  read made address len hfirst hlast := by
    have hread := Device.watched_read (h.read address len hfirst hlast) made
    refine (hread.and_keeps (K := fun _ => Reading.May may made) (.const _ _)).mono
      (fun _ hs => hs) ?_ ?_ fun _ _ hs => hs.1.1
    · rintro data watched ⟨⟨⟨rfl, hs⟩, hmade⟩, hmay⟩
      refine ⟨rfl, ⟨hs, hmade⟩, List.forall_mem_append.mpr ⟨hmay, ?_⟩⟩
      exact List.forall_mem_singleton.mpr nofun
    · rintro error watched ⟨⟨⟨herror, hs⟩, hmade⟩, hmay⟩
      refine ⟨⟨hs, hmade⟩, List.forall_mem_append.mpr ⟨hmay, ?_⟩⟩
      exact List.forall_mem_singleton.mpr fun other hother => Except.error.inj hother ▸ herror

namespace Validator

variable {address len : UInt32} {expected : UInt8} {done : Nat} {readings : List Reading}
  {outcome : Except ValidationError Unit}

/-! ## The reads of a comparison -/

/-- A chunk in which nothing differs. -/
theorem eq_expected_of_not_found {first chunk : Nat}
    (hnone : (Memory.dump bytes first chunk).data.toList.findIdx? (· ≠ expected) = none) {a : Nat}
    (hfirst : first ≤ a) (hlast : a < first + chunk) : bytes a = expected := by
  rw [Memory.toList_data_dump, List.findIdx?_eq_none_iff] at hnone
  have hsame := hnone (bytes a) (List.mem_map_of_mem (List.mem_range'_1.mpr ⟨hfirst, hlast⟩))
  exact Decidable.not_not.mp (of_decide_eq_false hsame)

theorem ChunkAt.within {base : UInt32} {chunk : Nat} (h : ChunkAt address len done base chunk)
    (answer : Except FlashError ByteArray) :
    address.toNat + done ≤ base.toNat ∧
      (Reading.mk base chunk answer).stop ≤ address.toNat + len.toNat := by
  have hbase := h.base_eq
  have hfits := h.fits
  dsimp only [Reading.stop]
  omega

namespace Compares

/-- **No read leaves** what is left of the stretch. -/
theorem within (h : Compares bytes address len expected done readings outcome) :
    ∀ reading ∈ readings, address.toNat + done ≤ reading.address.toNat ∧
      reading.stop ≤ address.toNat + len.toNat := by
  induction h with
  | nothing => exact nofun
  | refused hchunk => exact List.forall_mem_singleton.mpr (hchunk.within _)
  | differs hchunk => exact List.forall_mem_singleton.mpr (hchunk.within _)
  | agrees hchunk _ _ ih =>
      refine List.forall_mem_cons.mpr ⟨hchunk.within _, fun reading hmem => ?_⟩
      obtain ⟨hfirst, hlast⟩ := ih reading hmem
      exact ⟨by omega, hlast⟩

/-- **No byte is read twice.** -/
theorem once (h : Compares bytes address len expected done readings outcome) :
    readings.Pairwise fun reading later => reading.stop ≤ later.address.toNat := by
  induction h with
  | nothing => exact .nil
  | refused => exact List.pairwise_singleton _ _
  | differs => exact List.pairwise_singleton _ _
  | agrees hchunk _ hrest ih =>
      refine .cons (fun later hmem => ?_) ih
      have hbase := hchunk.base_eq
      have hlater := (hrest.within later hmem).1
      dsimp only [Reading.stop]
      omega

/-- **A refused read** is what the comparison answers, and all that was read before it is as
expected. -/
theorem refusal (h : Compares bytes address len expected done readings outcome) :
    ∀ reading ∈ readings, ∀ error, reading.answer = .error error →
      outcome = .error (.flash error) ∧
        ∀ a, address.toNat + done ≤ a → a < reading.address.toNat → bytes a = expected := by
  induction h with
  | nothing => exact nofun
  | refused hchunk other =>
      refine List.forall_mem_singleton.mpr fun error herror => ⟨?_, fun a hfirst hbelow => ?_⟩
      · rw [Except.error.inj herror]
      · have hbase := hchunk.base_eq
        dsimp only at hbelow
        omega
  | differs => exact List.forall_mem_singleton.mpr nofun
  | @agrees done chunk base _ _ hchunk hnone _ ih =>
      refine List.forall_mem_cons.mpr ⟨nofun, fun reading hmem error herror => ?_⟩
      obtain ⟨houtcome, hbefore⟩ := ih reading hmem error herror
      refine ⟨houtcome, fun a hfirst hbelow => ?_⟩
      by_cases hhere : a < address.toNat + done + chunk
      · exact eq_expected_of_not_found hnone hfirst hhere
      · exact hbefore a (by omega) hbelow

/-- A comparison that is passed was shown all it read. -/
theorem shown_of_ok (h : Compares bytes address len expected done readings (.ok ())) :
    ∀ reading ∈ readings, reading.Shown := by
  intro reading hmem
  cases hanswer : reading.answer with
  | ok data => exact ⟨data, hanswer⟩
  | error error => exact nomatch (h.refusal reading hmem error hanswer).1

end Compares

/-! ## The answer -/

/-- The answer of a comparison of the stretch, and the reads it made for it, as one look at the
whole stretch has it. -/
structure ReadBack (bytes : Nat → UInt8) (address len : UInt32) (expected : UInt8)
    (may : FlashError → Prop) (readings : List Reading) (outcome : Except ValidationError Unit) :
    Prop where
  /-- Nothing outside the stretch is read. -/
  within : ∀ reading ∈ readings, address.toNat ≤ reading.address.toNat ∧
    reading.stop ≤ address.toNat + len.toNat
  /-- Each read starts behind the end of those before it, so no byte is read twice. -/
  once : readings.Pairwise fun reading later => reading.stop ≤ later.address.toNat
  ok_iff : outcome = .ok () ↔ (∀ reading ∈ readings, reading.Shown) ∧
    ∀ a, address.toNat ≤ a → a < address.toNat + len.toNat → bytes a = expected
  /-- Unless a read is refused, the first byte that differs is named. -/
  differs : (∀ reading ∈ readings, reading.Shown) → outcome ≠ .ok () →
    ∃ offset : UInt32, offset.toNat < len.toNat ∧
      bytes (address.toNat + offset.toNat) ≠ expected ∧
      (∀ before < offset.toNat, bytes (address.toNat + before) = expected) ∧
      outcome = .error (.verificationMismatch address offset expected
        (bytes (address.toNat + offset.toNat)))
  /-- A read is refused only after all bytes before it were as expected. -/
  refused : ∀ reading ∈ readings, ∀ error, reading.answer = .error error →
    may error ∧ outcome = .error (.flash error) ∧
      ∀ a, address.toNat ≤ a → a < reading.address.toNat → bytes a = expected

theorem Compares.readBack (h : Compares bytes address len expected 0 readings outcome)
    (hmay : Reading.May may readings) :
    ReadBack bytes address len expected may readings outcome where
  within := h.within
  once := h.once
  ok_iff := by
    constructor
    · rintro rfl
      exact ⟨h.shown_of_ok, fillVerdict_eq_ok_iff.mp (h.verdict h.shown_of_ok).symm⟩
    · rintro ⟨hshown, hall⟩
      rw [h.verdict hshown]
      exact fillVerdict_eq_ok_iff.mpr hall
  differs hshown hfails := by
    have hverdict := h.verdict hshown
    cases outcome with
    | ok => exact absurd rfl hfails
    | error error =>
        obtain ⟨offset, hoffset, hdiffers, hbefore, rfl⟩ := fillVerdict_eq_first hverdict.symm
        exact ⟨offset, hoffset, hdiffers, hbefore, rfl⟩
  refused reading hmem error herror :=
    ⟨hmay reading hmem error herror, h.refusal reading hmem error herror⟩

/-! ## One buffer -/

/-- The comparison as it is made in place: each read goes to the front of one buffer, and the rest
of the buffer keeps what was read before. -/
def compareInPlace (session : Session σ) (address len : UInt32) (expected : UInt8) :
    Nat → Nat → ByteArray → Attempted σ Unit
  | 0, _, _ => return ()
  | chunks + 1, done, buffer => do
    if done < len.toNat then
      let chunk := min (len.toNat - done) readChunk
      let base ← Attempt.checked (Word.fit32 (address.toNat + done))
      let bytes ← (session.read base chunk).withError ValidationError.flash
      let buffer := Memory.overwrite buffer 0 bytes
      match (buffer.extract 0 chunk).data.toList.findIdx? (· ≠ expected) with
      | some i =>
        throw (.verificationMismatch address (Word.low32 (done + i)) expected
          (buffer.data[i]?.getD expected))
      | none => compareInPlace session address len expected chunks (done + chunk) buffer

/-- As `expectFill`, in place. -/
def expectInPlace (session : Session σ) (address len : UInt32) (expected : UInt8)
    (buffer : ByteArray) : Attempted σ Unit :=
  compareInPlace session address len expected (len.toNat / readChunk + 1) 0 buffer

/-- What was read stands in front. -/
theorem extract_overwrite (buffer data : ByteArray) :
    (Memory.overwrite buffer 0 data).extract 0 data.size = data := by
  rw [Memory.overwrite_eq_append, ByteArray.extract_same, ByteArray.empty_append]
  exact ByteArray.extract_append_eq_left rfl

theorem getElem?_overwrite (buffer : ByteArray) {data : ByteArray} {i : Nat} (hi : i < data.size) :
    (Memory.overwrite buffer 0 data).data[i]? = data.data[i]? := by
  rw [Memory.overwrite_eq_append, ByteArray.extract_same, ByteArray.empty_append,
    ByteArray.data_append]
  exact Array.getElem?_append_left hi

/-- **Nothing stale is compared:** whatever the buffer holds, the comparison in place is the one of
what was read. -/
theorem compareInPlace_runOn {T : List Reading → σ → Prop} (h : device.ReadsAs T start size bytes)
    (htop : start.toNat + size.toNat ≤ Word.span32) (hfirst : start.toNat ≤ address.toNat)
    (hlast : address.toNat + len.toNat ≤ start.toNat + size.toNat) (chunks done : Nat)
    (buffer : ByteArray) {made : List Reading} {world : World σ} (hworld : T made world.state) :
    Act.runOn (compareInPlace ⟨device⟩ address len expected chunks done buffer).run world =
      Act.runOn (compareChunks ⟨device⟩ address len expected chunks done).run world := by
  induction chunks generalizing done buffer made world with
  | zero => rfl
  | succ chunks ih =>
      unfold compareInPlace compareChunks
      by_cases hdone : done < len.toNat
      · rw [if_pos hdone, if_pos hdone, Word.fit32_of_lt (by omega)]
        let base := Word.low32 (address.toNat + done)
        let chunk := min (len.toNat - done) readChunk
        have hmin : chunk = min (len.toNat - done) readChunk := rfl
        have hbase : base.toNat = address.toNat + done := Word.toNat_ofNat_of_lt (by omega)
        have hread := read_leads h made base chunk (by omega) (by omega)
        let read := (Session.read ⟨device⟩ base chunk).withError ValidationError.flash
        show (read >>= _).run.runOn world = (read >>= _).run.runOn world
        refine hread.runOn_bind_congr hworld ?_
        rintro data next ⟨hdata, hnext⟩
        have hsize : data.size = chunk := hdata ▸ Memory.size_dump
        have hfront := extract_overwrite buffer data
        rw [hsize] at hfront
        dsimp only
        rw [hfront]
        cases hfind : data.data.toList.findIdx? (· ≠ expected) with
        | none => exact ih (done + chunk) _ hnext
        | some i =>
            have hi : i < data.size := (List.findIdx?_eq_some_iff_findIdx_eq.mp hfind).1
            dsimp only
            rw [getElem?_overwrite buffer hi]
      · rw [if_neg hdone, if_neg hdone]

/-! ## The whole comparison -/

/-- **Reading back in chunks** is one look at the whole stretch. The comparison ends without a
fault, so the addresses of its reads are words, and it does not matter what its buffer held
before. -/
theorem expectFill_reads_back (h : device.Stable P start size bytes may)
    (htop : start.toNat + size.toNat ≤ Word.span32) (hfirst : start.toNat ≤ address.toNat)
    (hlast : address.toNat + len.toNat ≤ start.toNat + size.toNat) (expected : UInt8)
    (world : World σ) (hworld : P world.state) :
    ∃ outcome next,
      Act.runOn (expectFill ⟨device.watched⟩ address len expected).run world.watched =
        (.ok outcome, next) ∧
      ReadBack bytes address len expected may next.state.inquiry.readings outcome ∧
      ∀ buffer, Act.runOn (expectInPlace ⟨device.watched⟩ address len expected buffer).run
        world.watched = (.ok outcome, next) := by
  have hnone : Reading.May may [] := nofun
  have hleads := compareChunks_leads h.watched htop hfirst hlast expected
    (len.toNat / readChunk + 1) 0 [] (chunks_suffice _)
  obtain ⟨outcome, next, hrun, more, hmore, ⟨_, hreadings⟩, hmay⟩ :=
    hleads.returns world.watched ⟨⟨hworld, rfl⟩, hnone⟩
  refine ⟨outcome, next, hrun, hreadings ▸ hmore.readBack hmay, fun buffer => ?_⟩
  rw [← hrun]
  exact compareInPlace_runOn h.watched htop hfirst hlast _ 0 buffer ⟨⟨hworld, rfl⟩, hnone⟩

/-- Erased but for one byte. -/
def fadingBytes (a : Nat) : UInt8 := if a = 0xFFFFFE90 then 0 else 0xFF

/-- A part at the top of the address space, whose last 128 bytes cannot be read. -/
def fadingDevice : Device Nat :=
  { topTable.device with
    read := fun address len =>
      if address.toNat + len ≤ 0xFFFFFF80 then return Memory.dump fadingBytes address.toNat len
      else throw .deviceFault }

theorem fadingDevice_stable :
    fadingDevice.Stable (fun _ => True) 0xFFFFC000 0x4000 fadingBytes (· = .deviceFault) where
  spans := ⟨topTable.device_reports.startAddress, topTable.device_reports.size⟩
  read address len _ _ := by
    refine .ite (fun _ => ?_) fun _ => ?_
    · exact .pure _ fun _ _ => ⟨rfl, trivial⟩
    · exact .throw _ fun _ _ => ⟨rfl, trivial⟩

/-- A stretch of two chunks and a half, up to the top of the address space. -/
theorem expectFill_reads_back_fadingDevice :
    fadingDevice.Stable (fun _ => True) 0xFFFFC000 0x4000 fadingBytes (· = .deviceFault) ∧
      ∃ outcome next,
        Act.runOn (expectFill ⟨fadingDevice.watched⟩ 0xFFFFFD80 0x280 0xFF).run
          (World.watched { state := 0 }) = (.ok outcome, next) ∧
        ReadBack fadingBytes 0xFFFFFD80 0x280 0xFF (· = .deviceFault) next.state.inquiry.readings
          outcome := by
  have hlast : (0xFFFFFD80 : UInt32).toNat + (0x280 : UInt32).toNat ≤
      (0xFFFFC000 : UInt32).toNat + (0x4000 : UInt32).toNat := by decide
  obtain ⟨outcome, next, hrun, hreadBack, _⟩ := expectFill_reads_back fadingDevice_stable
    (by decide) (by decide) hlast 0xFF { state := 0 } trivial
  exact ⟨fadingDevice_stable, outcome, next, hrun, hreadBack⟩

end Validator

end FlashBench
