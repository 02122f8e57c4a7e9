import FlashBench.Geometry.Walk
import FlashBench.Proofs.Beside
import FlashBench.Proofs.Clock.Measure
import FlashBench.Validation.Validator

/-!
# What is asked twice

A device and a timer are looked at side by side with themselves, in states that are related. If each
question has the same answer in both and leaves them related, then so has all that is made of
questions: the check of the geometry, what a session refuses before it calls its device, and taking
samples. The calls of a session lead where the calls of its device lead.
-/

namespace FlashBench

variable {σ : Type} {R S : σ → σ → Prop} {device : Device σ} {timer : CycleTimer σ}

/-- Questions have the same answers in states that are related by `R`, and leave them so. A question
that is not answered leaves what `S` says, which is not more. -/
structure Device.Agrees (R S : σ → σ → Prop) (device : Device σ) : Prop where
  weaker : ∀ s t, R s t → S s t
  pageSize : Act.Agrees R device.pageSize (fun _ => R) S
  startAddress : Act.Agrees R device.startAddress (fun _ => R) S
  size : Act.Agrees R device.size (fun _ => R) S
  sectorSize : ∀ address, Act.Agrees R (device.sectorSize address) (fun _ => R) S
  eraseValue : Act.Agrees R device.eraseValue (fun _ => R) S

/-- The calls of a timer have the same answers. -/
structure CycleTimer.Agrees (R S : σ → σ → Prop) (timer : CycleTimer σ) : Prop where
  weaker : ∀ s t, R s t → S s t
  info : Act.Agrees R timer.ticker.info (fun _ => R) S
  read : Act.Agrees R timer.ticker.read (fun _ => R) S
  spin : ∀ cycles, Act.Agrees R (timer.spin cycles) (fun _ => R) S

namespace Device.Agrees

variable (h : device.Agrees R S)

include h

/-! ## The geometry check -/

theorem next (walk : SectorWalk) : Act.Agrees R (walk.next device) (fun _ => R) S := by
  unfold SectorWalk.next
  refine .ite (fun _ => .same _) fun _ => .ite (fun _ => .same _) fun _ => ?_
  exact (h.sectorSize _).bind fun _ => .ite (fun _ => .same _) fun _ => .same _

theorem foldSectors {β : Type} {visit : β → Sector → Attempt GeometryError σ β}
    (hvisit : ∀ b sector, Attempt.Agrees R (visit b sector) (fun _ => R) S) (calls : Nat) (b : β)
    (walk : SectorWalk) :
    Attempt.Agrees R (SectorWalk.foldSectors device visit calls b walk) (fun _ => R) S := by
  induction calls generalizing b walk with
  | zero => exact .lift (.fault _ h.weaker)
  | succ calls ih =>
      refine .bind (.lift (h.next walk)) fun item => ?_
      rcases item with ⟨_ | _ | sector, walk⟩
      · exact .same _
      · exact .throw _ h.weaker
      · exact .bind (hvisit b sector) fun b => ih b walk

theorem checkSector (report : GeometryReport) (sector : Sector) :
    Attempt.Agrees R (FlashBench.checkSector device report sector) (fun _ => R) S := by
  unfold FlashBench.checkSector
  refine .bind (.note _ _) fun _ => .guard h.weaker fun _ => .guard h.weaker fun _ => ?_
  cases sector.lastByte with
  | none => exact .throw _ h.weaker
  | some lastByte =>
      refine .bind (.lift (h.sectorSize _)) fun _ => .guard h.weaker fun _ => ?_
      exact .bind (.checked _ h.weaker) fun _ => .same _

theorem checkOutside (address : UInt32) :
    Attempt.Agrees R (FlashBench.checkOutside device address) (fun _ => R) S :=
  .bind (.lift (h.sectorSize address)) fun _ =>
    .ite (fun _ => .throw _ h.weaker) fun _ => .same _

theorem checkFence (report : GeometryReport) :
    Attempt.Agrees R (FlashBench.checkFence device report) (fun _ => R) S := by
  have hafter : Attempt.Agrees R (if report.stop < Word.span32 then
      FlashBench.checkOutside device (UInt32.ofNat report.stop) else pure ()) (fun _ => R) S :=
    .ite (fun _ => h.checkOutside _) fun _ => .same _
  exact .ite (fun _ => .bind (h.checkOutside _) fun _ => hafter) fun _ => hafter

/-- **The geometry check** answers the same. -/
theorem checkGeometry :
    Attempt.Agrees R (FlashBench.checkGeometry device) (fun _ => R) S := by
  have hbegin : Act.Agrees R (SectorWalk.begin device) (fun _ => R) S :=
    h.startAddress.bind fun _ => h.size.bind fun _ => .same _
  unfold FlashBench.checkGeometry
  refine .bind (.lift h.pageSize) fun _ => .guard h.weaker fun _ => ?_
  refine .bind (.lift h.size) fun _ => .guard h.weaker fun _ => ?_
  refine .bind (.lift h.startAddress) fun _ => .bind (.lift h.size) fun _ => ?_
  refine .bind (.lift hbegin) fun walk => ?_
  refine .bind (h.foldSectors h.checkSector _ _ _) fun report => ?_
  exact .bind (h.checkFence report) fun _ => .same _

/-! ## Sessions -/

theorem openingText : Act.Agrees R (Session.openingText device) (fun _ => R) S :=
  h.startAddress.bind fun _ => h.size.bind fun _ => h.pageSize.bind fun _ => .same _

theorem endAddress : Act.Agrees R (Session.endAddress ⟨device⟩) (fun _ => R) S :=
  h.startAddress.bind fun _ => h.size.bind fun _ => .same _

theorem checkRange (address : UInt32) (len : Nat) :
    Attempt.Agrees R (Session.checkRange ⟨device⟩ address len) (fun _ => R) S := by
  refine .bind (.lift h.startAddress) fun _ => .guard h.weaker fun _ => ?_
  refine .bind (.lift h.endAddress) fun _ => ?_
  exact .ite (fun _ => .throw _ h.weaker) fun _ => .same _

variable {Q : σ → σ → Prop} {address : UInt32}

theorem sessionErase (herase : Attempt.Agrees R (device.eraseSector address) (fun _ => Q) S) :
    Attempt.Agrees R ((Session.eraseSector ⟨device⟩ address).withError ValidationError.flash)
      (fun _ => Q) S := by
  refine .withError (.bind (.lift (h.sectorSize _)) fun _ => ?_)
  exact .guard h.weaker fun _ => .guard h.weaker fun _ => herase

theorem sessionProgram {data : ByteArray}
    (hprogram : Attempt.Agrees R (device.programPage address data) (fun _ => Q) S) :
    Attempt.Agrees R ((Session.programPage ⟨device⟩ address data).withError ValidationError.flash)
      (fun _ => Q) S := by
  refine .withError (.bind (h.checkRange _ _) fun _ => .bind (.lift h.pageSize) fun _ => ?_)
  refine .guard h.weaker fun _ => .bind (.checked _ h.weaker) fun _ => ?_
  exact .guard h.weaker fun _ => hprogram

theorem sessionRead {len : Nat}
    (hread : Attempt.Agrees R (device.read address len) (fun _ => Q) S) :
    Attempt.Agrees R ((Session.read ⟨device⟩ address len).withError ValidationError.flash)
      (fun _ => Q) S :=
  .withError (.bind (h.checkRange _ _) fun _ => hread)

omit h in
theorem start (h : device.Agrees R S) {before : σ → σ → Prop}
    (hinit : Attempt.Agrees before device.init (fun _ => R) S) :
    Attempt.Agrees before ((Session.start device).withError ValidationError.flash)
      (fun session s t => session = ⟨device⟩ ∧ R s t) S :=
  .withError (.bind hinit fun _ => .bind (.lift (.noteWith h.openingText)) fun _ =>
    .pure _ fun _ _ hs => ⟨rfl, hs⟩)

omit h

theorem free (hfree : Attempt.Agrees R device.free (fun _ => Q) S) :
    Attempt.Agrees R (Session.free ⟨device⟩) (fun _ => Q) S :=
  .bind hfree fun _ => .note _ _

/-- A refused release is noted both times. -/
theorem drop (hfree : Attempt.Agrees S device.free (fun _ => S) S) :
    Act.Agrees S (Session.drop ⟨device⟩) (fun _ => S) S := by
  refine Act.Agrees.bind hfree fun outcome => ?_
  cases outcome with
  | ok => exact .same _
  | error => exact .note _ _

/-- A fault ends the session both times. -/
theorem guarding {ε α : Type} {attempt : Attempt ε σ α} {Q : α → σ → σ → Prop}
    (hfree : Attempt.Agrees S device.free (fun _ => S) S) (h : Attempt.Agrees R attempt Q S) :
    Attempt.Agrees R (Session.guarding ⟨device⟩ attempt) Q S :=
  Act.Agrees.tryCatch h fun f => (drop hfree).bind fun _ => .fault f fun _ _ hs => hs

end Device.Agrees

/-! ## Samples -/

namespace CycleTimer.Agrees

/-- The two readings of a sample are all that its microseconds depend on. -/
theorem elapsedMicros (sample : TimerSample) (hweaker : ∀ s t, R s t → S s t) :
    Act.Agrees R sample.elapsedMicros (fun _ => R) S := by
  unfold TimerSample.elapsedMicros
  refine .ite (fun _ => .checked _ hweaker) fun _ => ?_
  exact .bind (.note _ _) fun _ => .same _

variable (h : timer.Agrees R S)

include h

/-- The induction is on the readings that may still be made. -/
theorem awaitBelow (maxCount now : UInt32) (patience : Nat) :
    Act.Agrees R (FlashBench.awaitBelow timer.ticker maxCount now patience) (fun _ => R) S := by
  induction patience with
  | zero => exact .fault _ h.weaker
  | succ patience ih =>
      exact h.read.bind fun _ => .ite (fun _ => ih) fun _ => .same _

theorem protect (window : UInt32) : Act.Agrees R (timer.protect window) (fun _ => R) S := by
  unfold CycleTimer.protect overflowProtect
  refine h.info.bind fun _ => .ite (fun _ => .same _) fun _ => ?_
  refine h.read.bind fun _ => .ite (fun _ => .same _) fun _ => ?_
  exact .bind (.note _ _) fun _ => .bind (h.awaitBelow _ _ _) fun _ => .same _

theorem sample (cycles : UInt32) : Act.Agrees R (timer.sample cycles) (fun _ => R) S :=
  h.info.bind fun _ => h.read.bind fun _ => (h.spin cycles).bind fun _ =>
    h.read.bind fun _ => .same _

end CycleTimer.Agrees

end FlashBench
