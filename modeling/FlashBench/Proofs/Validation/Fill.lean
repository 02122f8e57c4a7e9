import FlashBench.Proofs.Bytes
import FlashBench.Proofs.Device.Watched
import FlashBench.Proofs.Part.Driver
import FlashBench.Proofs.Triple
import FlashBench.Validation.Validator

/-!
# What a comparison answers

`expectFill` reads a stretch in chunks and stops at the first byte that differs, or at the first
read that is refused.

* **The reads** of a comparison and its answer go together as `Validator.Compares` has it, one case
  for each way a chunk can turn out (`compareChunks_leads`).
* **The chunks make no difference** (`Compares.verdict`): as long as no read is refused, the answer
  is the one of a search through the whole stretch. On a device that shows what its medium holds,
  none is (`expectFill_ends`).
-/

namespace FlashBench

variable {σ : Type} {P : σ → Prop} {layout : FlashLayout} {g : Geometry} {bytes : Nat → UInt8}
  {device : Device σ}

/-- Searching a stretch of addresses for an index is searching it for an address. -/
theorem findIdx?_range' (p : Nat → Bool) (first len : Nat) :
    (List.range' first len).findIdx? p = ((List.range' first len).find? p).map (· - first) := by
  induction len generalizing first with
  | zero => rfl
  | succ len ih =>
      rw [List.range'_succ, List.findIdx?_cons, List.find?_cons]
      cases hp : p first with
      | true => simp
      | false =>
          rw [ih]
          cases hfind : (List.range' (first + 1) len).find? p with
          | none => simp
          | some a =>
              have hmem := List.mem_range'_1.mp (List.mem_of_find?_eq_some hfind)
              simp only [Option.map_some, Bool.false_eq_true, if_false, Option.some.injEq]
              omega

/-- The device has its window, and a read inside the window either shows `bytes` or is refused. `T`
knows of the reads that were made. -/
structure Device.ReadsAs (device : Device σ) (T : List Reading → σ → Prop) (start size : UInt32)
    (bytes : Nat → UInt8) : Prop where
  spans : ∀ made, device.Spans (T made) start size
  read : ∀ made (address : UInt32) (len : Nat), start.toNat ≤ address.toNat →
    address.toNat + len ≤ start.toNat + size.toNat →
    Attempt.Leads (T made) (device.read address len)
      (fun data s => data = Memory.dump bytes address.toNat len ∧
        T (made ++ [⟨address, len, .ok (Memory.dump bytes address.toNat len)⟩]) s)
      (fun e s => T (made ++ [⟨address, len, .error e⟩]) s) fun _ _ => False

/-- A device that shows what its medium holds refuses no read. -/
theorem Device.Shows.readsAs (h : device.Shows P layout g bytes) (hcharts : layout.Charts g) :
    device.ReadsAs (fun made s => P s ∧ ∀ reading ∈ made, reading.Shown) g.start g.size bytes where
  spans made := h.reports.spans.and_const _
  read made address len hfirst hlast := by
    have hshown : Attempt.Leads P (device.read address len)
        (fun data s => data = Memory.dump bytes address.toNat len ∧ P s) (fun _ _ => False)
        fun _ _ => False :=
      .of_ok (h.read address len (hcharts.start ▸ hfirst) (hcharts.stop ▸ hlast))
        fun _ hs => ⟨rfl, hs⟩
    have hmade := hshown.and_keeps (K := fun _ => ∀ reading ∈ made, reading.Shown) (.const _ _)
    refine hmade.mono (fun _ hs => hs) ?_ (fun _ _ hs => hs.1.elim) fun _ _ hs => hs.1
    rintro data s ⟨⟨hdata, hs⟩, hok⟩
    exact ⟨hdata, hs, List.forall_mem_append.mpr ⟨hok, List.forall_mem_singleton.mpr ⟨_, rfl⟩⟩⟩

namespace Validator

/-- The answer to a comparison of `len` bytes from `address` on of which `done` are done: the first
byte that is not `expected`, if there is one. -/
def fillVerdict (bytes : Nat → UInt8) (address : UInt32) (len : Nat) (expected : UInt8)
    (done : Nat) : Except ValidationError Unit :=
  match (List.range' (address.toNat + done) (len - done)).find? (bytes · ≠ expected) with
  | none => .ok ()
  | some a =>
    .error (.verificationMismatch address (Word.low32 (a - address.toNat)) expected (bytes a))

/-- Nothing differs exactly when every byte is the expected one. -/
theorem fillVerdict_eq_ok_iff {address : UInt32} {len : Nat} {expected : UInt8} :
    fillVerdict bytes address len expected 0 = .ok () ↔
      ∀ a, address.toNat ≤ a → a < address.toNat + len → bytes a = expected := by
  unfold fillVerdict
  rw [Nat.add_zero, Nat.sub_zero]
  cases hfind : (List.range' address.toNat len).find? (bytes · ≠ expected) with
  | none =>
      simp only [List.find?_eq_none, List.mem_range'_1, decide_eq_true_eq] at hfind
      exact ⟨fun _ a hfirst hlast => Decidable.not_not.mp (hfind a ⟨hfirst, hlast⟩), fun _ => rfl⟩
  | some a =>
      have hmem := List.mem_range'_1.mp (List.mem_of_find?_eq_some hfind)
      have hdiffers : bytes a ≠ expected := of_decide_eq_true (List.find?_some hfind :)
      exact ⟨nofun, fun hall => absurd (hall a hmem.1 hmem.2) hdiffers⟩

/-- What a comparison answers with is the first byte that differs: where it is, and what it is. -/
theorem fillVerdict_eq_first {address len : UInt32} {expected : UInt8} {error : ValidationError}
    (h : fillVerdict bytes address len.toNat expected 0 = .error error) :
    ∃ offset : UInt32, offset.toNat < len.toNat ∧
      bytes (address.toNat + offset.toNat) ≠ expected ∧
      (∀ before < offset.toNat, bytes (address.toNat + before) = expected) ∧
      error = .verificationMismatch address offset expected
        (bytes (address.toNat + offset.toNat)) := by
  unfold fillVerdict at h
  rw [Nat.add_zero, Nat.sub_zero] at h
  cases hfind : (List.range' address.toNat len.toNat).find? (bytes · ≠ expected) with
  | none =>
      rw [hfind] at h
      cases h
  | some a =>
      rw [hfind] at h
      obtain ⟨hdiffers, hmem, hfirst⟩ := List.find?_range'_eq_some.mp hfind
      obtain ⟨hlow, hhigh⟩ := List.mem_range'_1.mp hmem
      have hlen : len.toNat < Word.span32 := len.toNat_lt
      have hoffset : (Word.low32 (a - address.toNat)).toNat = a - address.toNat :=
        Word.toNat_ofNat_of_lt (by omega)
      refine ⟨Word.low32 (a - address.toNat), by omega, ?_⟩
      rw [hoffset, Nat.add_sub_cancel' hlow]
      refine ⟨of_decide_eq_true hdiffers, fun before hbefore => ?_, (Except.error.inj h).symm⟩
      simpa using hfirst (address.toNat + before) (Nat.le_add_right _ _) (by omega)

theorem fillVerdict_eq_error {address len : UInt32} {expected : UInt8} {error : ValidationError}
    (h : fillVerdict bytes address len.toNat expected 0 = .error error) :
    ∃ offset : UInt32, offset.toNat < len.toNat ∧
      bytes (address.toNat + offset.toNat) ≠ expected ∧
      error = .verificationMismatch address offset expected
        (bytes (address.toNat + offset.toNat)) := by
  obtain ⟨offset, hoffset, hdiffers, -, herror⟩ := fillVerdict_eq_first h
  exact ⟨offset, hoffset, hdiffers, herror⟩

section Chunks

variable {address len : UInt32} {expected : UInt8} {done chunk : Nat}

/-- A byte that differs is found in the chunk that is read. -/
theorem fillVerdict_of_found {i : Nat} (hchunk : chunk ≤ len.toNat - done)
    (hfound : (Memory.dump bytes (address.toNat + done) chunk).data.toList.findIdx? (· ≠ expected) =
      some i) :
    fillVerdict bytes address len.toNat expected done =
      .error (.verificationMismatch address (Word.low32 (done + i)) expected
        ((Memory.dump bytes (address.toNat + done) chunk).data[i]?.getD expected)) := by
  obtain ⟨back, hback⟩ := Nat.exists_eq_add_of_le hchunk
  rw [Memory.toList_data_dump, List.findIdx?_map, findIdx?_range', Option.map_eq_some_iff] at hfound
  obtain ⟨a, hfind, rfl⟩ := hfound
  have hmem := List.mem_range'_1.mp (List.mem_of_find?_eq_some hfind)
  have hat : (Memory.dump bytes (address.toNat + done) chunk).data[a - (address.toNat + done)]? =
      some (bytes a) := by
    rw [← Array.getElem?_toList, Memory.toList_data_dump, List.getElem?_map,
      List.getElem?_range' (by omega)]
    simp only [Option.map_some, Nat.one_mul, Nat.add_sub_cancel' hmem.1]
  have hindex : done + (a - (address.toNat + done)) = a - address.toNat := by omega
  have hfound : (List.range' (address.toNat + done) chunk).find? (bytes · ≠ expected) = some a :=
    hfind
  unfold fillVerdict
  rw [hback, ← List.range'_append_1, List.find?_append, hfound, hat, hindex]
  rfl

/-- A chunk in which nothing differs is done. -/
theorem fillVerdict_of_not_found (hchunk : chunk ≤ len.toNat - done)
    (hnone : (Memory.dump bytes (address.toNat + done) chunk).data.toList.findIdx? (· ≠ expected) =
      none) :
    fillVerdict bytes address len.toNat expected done =
      fillVerdict bytes address len.toNat expected (done + chunk) := by
  obtain ⟨back, hback⟩ := Nat.exists_eq_add_of_le hchunk
  have hrest : len.toNat - (done + chunk) = back := by omega
  rw [Memory.toList_data_dump, List.findIdx?_map, findIdx?_range', Option.map_eq_none_iff] at hnone
  have hnothing : (List.range' (address.toNat + done) chunk).find? (bytes · ≠ expected) = none :=
    hnone
  unfold fillVerdict
  rw [hback, hrest, ← List.range'_append_1, List.find?_append, hnothing, Nat.add_assoc]
  rfl

/-- The stretch of `chunk` bytes from `base` on is read after `done` bytes of the whole. -/
structure ChunkAt (address len : UInt32) (done : Nat) (base : UInt32) (chunk : Nat) : Prop where
  base_eq : base.toNat = address.toNat + done
  fits : done + chunk ≤ len.toNat

/-- The reads of a comparison from the byte `done` on, and its answer. A read that is refused, or
that shows a byte that differs, is the last one. -/
inductive Compares (bytes : Nat → UInt8) (address len : UInt32) (expected : UInt8) :
    Nat → List Reading → Except ValidationError Unit → Prop
  | nothing {done : Nat} (h : len.toNat ≤ done) :
      Compares bytes address len expected done [] (.ok ())
  | refused {done chunk : Nat} {base : UInt32} (hchunk : ChunkAt address len done base chunk)
      (error : FlashError) :
      Compares bytes address len expected done [⟨base, chunk, .error error⟩] (.error (.flash error))
  | differs {done chunk i : Nat} {base : UInt32} (hchunk : ChunkAt address len done base chunk)
      (hfound : (Memory.dump bytes (address.toNat + done) chunk).data.toList.findIdx?
        (· ≠ expected) = some i) :
      Compares bytes address len expected done
        [⟨base, chunk, .ok (Memory.dump bytes (address.toNat + done) chunk)⟩]
        (.error (.verificationMismatch address (Word.low32 (done + i)) expected
          ((Memory.dump bytes (address.toNat + done) chunk).data[i]?.getD expected)))
  | agrees {done chunk : Nat} {base : UInt32} {rest : List Reading}
      {outcome : Except ValidationError Unit} (hchunk : ChunkAt address len done base chunk)
      (hnone : (Memory.dump bytes (address.toNat + done) chunk).data.toList.findIdx?
        (· ≠ expected) = none)
      (hrest : Compares bytes address len expected (done + chunk) rest outcome) :
      Compares bytes address len expected done
        (⟨base, chunk, .ok (Memory.dump bytes (address.toNat + done) chunk)⟩ :: rest) outcome

/-- **The chunks make no difference** to what is answered, as long as no read is refused. -/
theorem Compares.verdict {readings : List Reading} {outcome : Except ValidationError Unit}
    (h : Compares bytes address len expected done readings outcome)
    (hok : ∀ reading ∈ readings, reading.Shown) :
    outcome = fillVerdict bytes address len.toNat expected done := by
  induction h with
  | nothing h =>
      rw [fillVerdict, Nat.sub_eq_zero_of_le h]
      rfl
  | refused hchunk error =>
      obtain ⟨data, hdata⟩ := hok _ List.mem_cons_self
      cases hdata
  | differs hchunk hfound =>
      exact (fillVerdict_of_found (Nat.le_sub_of_add_le' hchunk.fits) hfound).symm
  | agrees hchunk hnone _ ih =>
      rw [fillVerdict_of_not_found (Nat.le_sub_of_add_le' hchunk.fits) hnone]
      exact ih fun reading hmem => hok reading (List.mem_cons_of_mem _ hmem)

section Reads

variable {start size : UInt32} {T : List Reading → σ → Prop}

/-- One read of a comparison. -/
theorem read_leads (h : device.ReadsAs T start size bytes) (made : List Reading) (base : UInt32)
    (chunk : Nat) (hfirst : start.toNat ≤ base.toNat)
    (hlast : base.toNat + chunk ≤ start.toNat + size.toNat) :
    Attempt.Leads (T made) ((Session.read ⟨device⟩ base chunk).withError ValidationError.flash)
      (fun data s => data = Memory.dump bytes base.toNat chunk ∧
        T (made ++ [⟨base, chunk, .ok (Memory.dump bytes base.toNat chunk)⟩]) s)
      (fun e s => ∃ error, e = .flash error ∧ T (made ++ [⟨base, chunk, .error error⟩]) s)
      fun _ _ => False := by
  have hrange : Attempt.Ends (T made) (Session.checkRange ⟨device⟩ base chunk) (.ok ()) (T made) :=
    Session.checkRange_of_spans (h.spans made) hfirst hlast
  exact .withError (.bind_ends hrange (h.read made base chunk hfirst hlast))
    fun error _ hs => ⟨error, rfl, hs⟩

/-- **One comparison**, of any stretch of the window. The induction is on the reads that may still
be made; they are enough for the bytes that are left. -/
theorem compareChunks_leads (h : device.ReadsAs T start size bytes)
    (htop : start.toNat + size.toNat ≤ Word.span32) (hfirst : start.toNat ≤ address.toNat)
    (hlast : address.toNat + len.toNat ≤ start.toNat + size.toNat) (expected : UInt8)
    (chunks done : Nat) (made : List Reading) (hchunks : len.toNat - done ≤ chunks * readChunk) :
    Act.Leads (T made) (compareChunks ⟨device⟩ address len expected chunks done).run
      (fun outcome s => ∃ more, Compares bytes address len expected done more outcome ∧
        T (made ++ more) s) fun _ _ => False := by
  induction chunks generalizing done made with
  | zero =>
      refine .pure _ fun s hs => ⟨[], .nothing (by omega), ?_⟩
      rwa [List.append_nil]
  | succ chunks ih =>
      unfold compareChunks
      rw [← Attempt.Leads.outcome_iff]
      refine .ite (fun hdone => ?_) fun hdone => .pure _ fun s hs =>
        ⟨[], .nothing (Nat.le_of_not_lt hdone), by rwa [List.append_nil]⟩
      let base := Word.low32 (address.toNat + done)
      let chunk := min (len.toNat - done) readChunk
      have hmin : chunk = min (len.toNat - done) readChunk := rfl
      have hbase : base.toNat = address.toNat + done := Word.toNat_ofNat_of_lt (by omega)
      have hchunk : ChunkAt address len done base chunk := ⟨hbase, by omega⟩
      have hread := read_leads h made base chunk (by omega) (by omega)
      rw [hbase] at hread
      rw [Word.fit32_of_lt (by omega)]
      refine .checked_bind (fun a hok => ?_) nofun
      obtain rfl := Except.ok.inj hok
      refine .bind_value (hread.on_refusal fun e s hs => ?_) ?_
      · obtain ⟨error, rfl, hs⟩ := hs
        exact ⟨_, .refused hchunk error, hs⟩
      cases hfind : (Memory.dump bytes (address.toNat + done) chunk).data.toList.findIdx?
          (· ≠ expected) with
      | some i => exact .throw _ fun s hs => ⟨_, .differs hchunk hfind, hs⟩
      | none =>
          refine (Attempt.Leads.outcome_iff (R := fun outcome s => ∃ more,
            Compares bytes address len expected done more outcome ∧ T (made ++ more) s)).mpr ?_
          refine (ih (done + chunk) _ (by unfold readChunk at *; omega)).post ?_
          rintro outcome s ⟨more, hmore, hs⟩
          rw [List.append_assoc] at hs
          exact ⟨_, .agrees hchunk hfind hmore, hs⟩

end Reads

/-- A comparison may make a read for every chunk of the stretch. -/
theorem chunks_suffice (len : Nat) : len - 0 ≤ (len / readChunk + 1) * readChunk := by
  have hmod := Nat.div_add_mod len readChunk
  have hlt : len % readChunk < readChunk := Nat.mod_lt _ (by decide)
  rw [Nat.succ_mul, Nat.mul_comm]
  omega

/-- **The chunks make no difference** on a device that shows what its medium holds. -/
theorem compareChunks_ends (h : device.Shows P layout g bytes) (hcharts : layout.Charts g)
    (hfirst : layout.start.toNat ≤ address.toNat)
    (hlast : address.toNat + len.toNat ≤ layout.stop) (chunks done : Nat)
    (hchunks : len.toNat - done ≤ chunks * readChunk) :
    Attempt.Ends P (compareChunks ⟨device⟩ address len expected chunks done)
      (fillVerdict bytes address len.toNat expected done) P := by
  have htop : g.stop ≤ Word.span32 := hcharts.stop ▸ hcharts.top
  have hlow : g.start.toNat ≤ address.toNat := hcharts.start ▸ hfirst
  have hhigh : address.toNat + len.toNat ≤ g.stop := hcharts.stop ▸ hlast
  have hleads := compareChunks_leads (h.readsAs hcharts) htop hlow hhigh expected chunks done []
    hchunks
  refine .of_leads (hleads.mono (fun _ hs => ⟨hs, nofun⟩) ?_ fun _ _ hs => hs)
  rintro outcome s ⟨more, hmore, hs, hok⟩
  exact ⟨hmore.verdict hok, hs⟩

/-- **What a comparison answers** on a device that shows what its medium holds. -/
theorem expectFill_ends (h : device.Shows P layout g bytes) (hcharts : layout.Charts g)
    (hfirst : layout.start.toNat ≤ address.toNat)
    (hlast : address.toNat + len.toNat ≤ layout.stop) :
    Attempt.Ends P (expectFill ⟨device⟩ address len expected)
      (fillVerdict bytes address len.toNat expected 0) P :=
  compareChunks_ends h hcharts hfirst hlast _ 0 (chunks_suffice _)

theorem expectFill_decides (h : device.Shows P layout g bytes) (hcharts : layout.Charts g)
    (hfirst : layout.start.toNat ≤ address.toNat)
    (hlast : address.toNat + len.toNat ≤ layout.stop) :
    Attempt.Decides P (expectFill ⟨device⟩ address len expected) fun _ =>
      ∀ a, address.toNat ≤ a → a < address.toNat + len.toNat → bytes a = expected :=
  ⟨_, expectFill_ends h hcharts hfirst hlast, fun _ => fillVerdict_eq_ok_iff⟩

end Chunks

/-! ## Looks -/

/-- A stretch that is compared with one byte while the device shows `bytes`. -/
structure Look where
  bytes : Nat → UInt8
  address : UInt32
  len : UInt32
  expected : UInt8

namespace Look

variable {look : Look} {looks : List Look}

/-- What a comparison of the stretch answers. -/
def verdict (look : Look) : Except ValidationError Unit :=
  fillVerdict look.bytes look.address look.len.toNat look.expected 0

/-- Every byte of the stretch is the expected one. -/
def Matches (look : Look) : Prop :=
  ∀ a, look.address.toNat ≤ a → a < look.address.toNat + look.len.toNat →
    look.bytes a = look.expected

/-- The error names a byte of the stretch that is not the expected one. -/
def Differs (look : Look) (error : ValidationError) : Prop :=
  ∃ offset : UInt32, offset.toNat < look.len.toNat ∧
    look.bytes (look.address.toNat + offset.toNat) ≠ look.expected ∧
    error = .verificationMismatch look.address offset look.expected
      (look.bytes (look.address.toNat + offset.toNat))

theorem Differs.not_matches {error : ValidationError} (h : look.Differs error) :
    ¬ look.Matches := by
  obtain ⟨offset, hoffset, hne, -⟩ := h
  exact fun hmatches => hne (hmatches _ (Nat.le_add_right _ _) (by omega))

/-- What looks one after the other answer, the first one that differs being the last one. -/
def verdicts (looks : List Look) : Except ValidationError Unit := looks.forM verdict

theorem verdicts_cons (look : Look) (looks : List Look) :
    verdicts (look :: looks) = look.verdict >>= fun _ => verdicts looks := rfl

theorem verdicts_singleton (look : Look) : verdicts [look] = look.verdict := by
  rw [verdicts_cons]
  cases look.verdict <;> rfl

theorem verdicts_eq_ok_iff : verdicts looks = .ok () ↔ ∀ look ∈ looks, look.Matches := by
  induction looks with
  | nil => simp [verdicts, pure, Except.pure]
  | cons look rest ih =>
      rw [verdicts_cons, List.forall_mem_cons, ← ih]
      cases hlook : look.verdict with
      | error error =>
          have hnot : ¬ look.Matches := fun hmatches =>
            nomatch hlook.symm.trans (fillVerdict_eq_ok_iff.mpr hmatches)
          exact ⟨nofun, fun hboth => absurd hboth.1 hnot⟩
      | ok => exact ⟨fun hrest => ⟨fillVerdict_eq_ok_iff.mp hlook, hrest⟩, And.right⟩

theorem exists_differs {error : ValidationError} (h : verdicts looks = .error error) :
    ∃ look ∈ looks, look.Differs error := by
  induction looks with
  | nil => cases h
  | cons look rest ih =>
      rw [verdicts_cons] at h
      cases hlook : look.verdict with
      | error other =>
          rw [hlook] at h
          cases h
          exact ⟨look, List.mem_cons_self, fillVerdict_eq_error hlook⟩
      | ok =>
          rw [hlook] at h
          obtain ⟨other, hmem, hdiffers⟩ := ih h
          exact ⟨other, List.mem_cons_of_mem _ hmem, hdiffers⟩

/-- A look, and those after it. -/
theorem ends_cons {first : Attempted σ Unit} {rest : Unit → Attempted σ Unit}
    (hfirst : Attempt.Ends P first look.verdict P)
    (hrest : Attempt.Ends P (rest ()) (verdicts looks) P) :
    Attempt.Ends P (first >>= rest) (verdicts (look :: looks)) P := by
  rw [verdicts_cons]
  cases hlook : look.verdict with
  | error error => exact .bind_error (hlook ▸ hfirst)
  | ok => exact .bind (hlook ▸ hfirst) hrest

/-- What is known after looks: either all of them match, or one differs. -/
theorem leads {attempt : Attempted σ Unit} {Q : σ → Prop} {S : Fault → σ → Prop}
    (h : Attempt.Ends P attempt (verdicts looks) Q) :
    Attempt.Leads P attempt (fun _ s => (∀ look ∈ looks, look.Matches) ∧ Q s)
      (fun error s => (∃ look ∈ looks, look.Differs error) ∧ Q s) S :=
  (Attempt.Leads.of_ends h).mono (fun _ hs => hs)
    (fun _ _ hs => ⟨verdicts_eq_ok_iff.mp hs.1, hs.2⟩) (fun _ _ hs => ⟨exists_differs hs.1, hs.2⟩)
    fun _ _ hs => hs

end Look

/-- **One look** on a device that shows its bytes. -/
theorem expectFill_looks (look : Look) {S : Fault → σ → Prop}
    (h : device.Shows P layout g look.bytes) (hcharts : layout.Charts g)
    (hfirst : layout.start.toNat ≤ look.address.toNat)
    (hlast : look.address.toNat + look.len.toNat ≤ layout.stop) :
    Attempt.Leads P (expectFill ⟨device⟩ look.address look.len look.expected)
      (fun _ s => look.Matches ∧ P s) (fun error s => look.Differs error ∧ P s) S :=
  (Attempt.Leads.of_ends (expectFill_ends h hcharts hfirst hlast)).mono (fun _ hs => hs)
    (fun _ _ hs => ⟨fillVerdict_eq_ok_iff.mp hs.1, hs.2⟩)
    (fun _ _ hs => ⟨fillVerdict_eq_error hs.1, hs.2⟩) fun _ _ hs => hs

end Validator

end FlashBench
