import FlashBench.Proofs.Part.Atomic
import FlashBench.Proofs.Part.Operation

/-!
# Histories of calls

A session on any controller of a layout, which may be stalled or busy and may drop its programs.
Between calls nothing of that changes (`Rig.Rests`): a call is accepted if it is proper and its
operation would end in time, and then it leaves the medium as the array has it; otherwise it is
refused (`Rig.call_accepted`, `Rig.call_refused`). So the calls of a history all succeed exactly if
all of them are accepted (`Rig.calls_ok`, `Rig.calls_accepted`).
-/

namespace FlashBench

/-- Makes calls one after the other, until one of them is refused. -/
def Session.calls {σ : Type} (session : Session σ) : List FlashCall → Attempt FlashError σ Unit
  | [] => return ()
  | call :: rest => do
    let _ ← session.call call
    session.calls rest

/-- The call keeps to the layout, and its operation would end in time. -/
structure FlashCall.Accepted (layout : FlashLayout) (ready : FlashOperation → Prop)
    (call : FlashCall) : Prop where
  proper : call.Proper layout
  ready : ∀ operation, call.operation? = some operation → ready operation

/-- The array after calls one after the other. -/
def FlashArray.afterAll {layout : FlashLayout} (array : FlashArray layout) (drops : Bool)
    (history : List FlashCall) : FlashArray layout :=
  history.foldl (·.after drops ·) array

namespace Rig

variable {layout : FlashLayout} {bytes : Nat → UInt8} {drops : Bool} {ready : FlashOperation → Prop}
  {operation : FlashOperation} {address : UInt32} {call : FlashCall} {array : FlashArray layout}
  {history : List FlashCall}

/-- The rig between calls: the medium holds `bytes`, programs are dropped or not, and the operations
that would end in time are known. -/
structure Rests (layout : FlashLayout) (drops : Bool) (ready : FlashOperation → Prop)
    (bytes : Nat → UInt8) (rig : Rig) : Prop where
  holds : rig.ctrl.Holds layout bytes
  drops : rig.ctrl.dropWrites = drops
  ready : ∀ operation, rig.ctrl.Punctual operation rig.pollTimeout ↔ ready operation

/-! ## One call -/

/-- An operation that ends in time leaves a rig that rests again. -/
theorem perform_rests {P : Rig → Prop} {result : Nat → UInt8} (hready : ready operation)
    (h : ∀ rig, P rig → Rests layout drops ready bytes rig ∧
      ∃ final, rig.ctrl.Yields operation address final ∧ rig.ctrl.Settles final ∧
        final.Holds layout result) :
    Attempt.Ends P (perform operation address) (.ok ()) (Rests layout drops ready result) :=
  ends_of_has fun rig hrig => by
    obtain ⟨hrests, final, hyields, hsettles, hfinal⟩ := h rig hrig
    have hpunctual := (hrests.ready operation).mpr hready
    have hcleared := hsettles.withStatus 0
    refine (perform_ends hpunctual hyields).post fun next hnext => ?_
    obtain ⟨hctrl, htimeout⟩ := hnext
    refine ⟨hctrl ▸ hfinal.withRegisters, ?_, fun other => ?_⟩
    · rw [hctrl]
      exact hcleared.dropWrites.trans hrests.drops
    · rw [hctrl, htimeout, hcleared.punctual_iff hpunctual.enabled]
      exact hrests.ready other

theorem programs_rests (hready : ready .programPage) :
    Programs layout drops (Rests layout drops ready) where
  layout_eq := fun _ _ hrig => hrig.holds.on.layout_eq
  load := fun bytes page hsize => .change _ fun rig hrig => by
    have hwhole := hsize.trans hrig.holds.on.pageBuffer.symm
    show Rests layout drops ready bytes { rig with ctrl := rig.ctrl.writePageBuffer page } ∧
      (rig.ctrl.writePageBuffer page).pageBuffer = page
    rw [Controller.writePageBuffer_eq hwhole]
    refine ⟨⟨⟨hrig.holds.on.withPageBuffer hwhole, hrig.holds.medium⟩, hrig.drops,
      fun other => ?_⟩, rfl⟩
    exact ⟨fun h => (hrig.ready other).mp ⟨h.enabled, h.runs, h.ticks⟩,
      fun h => let hends := (hrig.ready other).mpr h; ⟨hends.enabled, hends.runs, hends.ticks⟩⟩
  program := fun bytes data address haligned hfirst hlast =>
    perform_rests hready fun rig ⟨hrig, hpage⟩ => ⟨hrig, by
      cases drops with
      | true => exact hrig.holds.program_dropped haligned hfirst hlast hrig.drops
      | false => exact hrig.holds.program haligned hfirst hlast hrig.drops hpage⟩

theorem erase_rests (hlayout : layout.validate = .ok (.ok ())) (hready : ready .eraseSector)
    {sector : Sector} (hmem : sector ∈ layout.sectorList) :
    Attempt.Ends (Rests layout drops ready bytes) (perform .eraseSector sector.start) (.ok ())
      (Rests layout drops ready
        (Memory.patch bytes sector.start.toNat sector.size.toNat fun _ => layout.eraseValue)) :=
  perform_rests hready fun _ hrig => ⟨hrig, hrig.holds.erase hlayout hmem⟩

theorem read_rests (hlayout : layout.validate = .ok (.ok ())) {len : Nat}
    (hproper : (FlashCall.read address len).Proper layout) :
    Attempt.Ends (Rests layout drops ready bytes) (Session.call ⟨device⟩ (.read address len))
      (.ok (some (Memory.dump bytes address.toNat len))) (Rests layout drops ready bytes) :=
  FlashArray.read_passed hlayout (fun _ hrig => hrig.holds.on) hproper
    (device_read_holds (fun _ hrig => hrig.holds) hproper.1 hproper.2)

/-- **A call that is accepted** succeeds, and leaves what the array has. -/
theorem call_accepted (hlayout : layout.validate = .ok (.ok ()))
    (haccepted : call.Accepted layout ready) :
    ∃ answer, Attempt.Ends (Rests layout drops ready array.bytes) (Session.call ⟨device⟩ call)
      (.ok answer) (Rests layout drops ready (array.after drops call).bytes) := by
  have hon : ∀ rig, Rests layout drops ready array.bytes rig → rig.ctrl.On layout :=
    fun _ hrig => hrig.holds.on
  obtain ⟨hproper, hready⟩ := haccepted
  cases call with
  | erase address =>
      obtain ⟨sector, hmem, rfl⟩ := hproper
      rw [FlashArray.after_erase hlayout hmem]
      exact ⟨none, FlashArray.erase_passed hlayout hon hmem
        (erase_rests hlayout (hready _ rfl) hmem)⟩
  | program address data =>
      obtain ⟨map, hmap, _⟩ := Word.bind_eq_ok_iff.mp hlayout
      have hcharts := FlashLayout.charts_geometry hlayout hmap
      obtain ⟨hfirst, hlast, _, hpages, haligned⟩ := id hproper
      rw [FlashArray.after_program hproper]
      exact ⟨none, FlashArray.program_passed hlayout hon hproper
        ((programs_rests (hready _ rfl)).device_ends data hcharts.top hcharts.paged haligned hpages
          hfirst hlast)⟩
  | read address len => exact ⟨_, read_rests hlayout hproper⟩

/-- **Any other call** is refused. -/
theorem call_refused (hlayout : layout.validate = .ok (.ok ()))
    (hnot : ¬ call.Accepted layout ready) :
    ∃ error, Attempt.Ends (Rests layout drops ready array.bytes) (Session.call ⟨device⟩ call)
      (.error error) fun _ => True := by
  have hon : ∀ rig, Rests layout drops ready array.bytes rig → rig.ctrl.On layout :=
    fun _ hrig => hrig.holds.on
  cases call with
  | erase address =>
      by_cases hproper : (FlashCall.erase address).Proper layout
      · obtain ⟨sector, hmem, rfl⟩ := id hproper
        have hlate : ¬ ready .eraseSector := fun hready =>
          hnot ⟨hproper, fun _ heq => Option.some.inj heq ▸ hready⟩
        have hperform : Attempt.Ends (Rests layout drops ready array.bytes)
            (perform .eraseSector sector.start) (.error .hardwareTimeout) fun _ => True :=
          ends_of_has fun rig hrig =>
            (perform_timeout (mt (hrig.ready _).mp hlate)).post fun _ _ => trivial
        exact ⟨_, FlashArray.erase_passed hlayout hon hmem hperform⟩
      · obtain ⟨error, _, _, hends⟩ := FlashArray.erase_refused hlayout hon array hproper
        exact ⟨error, hends.post fun _ _ => trivial⟩
  | program address data =>
      by_cases hproper : (FlashCall.program address data).Proper layout
      · have hlate : ¬ ready .programPage := fun hready =>
          hnot ⟨hproper, fun _ heq => Option.some.inj heq ▸ hready⟩
        obtain ⟨map, hmap, _⟩ := Word.bind_eq_ok_iff.mp hlayout
        have hpage := (FlashLayout.charts_geometry hlayout hmap).paged
        have hprogram : Attempt.Ends (Rests layout drops ready array.bytes)
            (device.programPage address data) (.error .hardwareTimeout) fun _ => True :=
          ends_of_has fun rig hrig => (device_programPage_late (hon rig hrig) hpage
            hproper.2.2.1 (mt (hrig.ready _).mp hlate)).post fun _ _ => trivial
        exact ⟨_, FlashArray.program_passed hlayout hon hproper hprogram⟩
      · obtain ⟨error, _, _, hends⟩ := FlashArray.program_refused hlayout hon array hproper
        exact ⟨error, hends.post fun _ _ => trivial⟩
  | read address len =>
      have hproper : ¬ (FlashCall.read address len).Proper layout := fun hproper =>
        hnot ⟨hproper, nofun⟩
      obtain ⟨_, hcheck⟩ := FlashArray.read_refused hlayout hon array hproper
      exact ⟨_, .bind_error (.bind_error (hcheck.post fun _ _ => trivial))⟩

/-! ## Any number of calls -/

/-- **A history of accepted calls** succeeds. The induction is on the history; the array is the
state it is indexed by. -/
theorem calls_ok (hlayout : layout.validate = .ok (.ok ()))
    (haccepted : ∀ call ∈ history, call.Accepted layout ready) :
    Attempt.Ends (Rests layout drops ready array.bytes) (Session.calls ⟨device⟩ history) (.ok ())
      (Rests layout drops ready (array.afterAll drops history).bytes) := by
  induction history generalizing array with
  | nil => exact .pure _
  | cons call rest ih =>
      obtain ⟨answer, hcall⟩ := call_accepted hlayout (haccepted call List.mem_cons_self)
      exact .bind hcall (ih fun other hmem => haccepted other (List.mem_cons_of_mem call hmem))

/-- **A history that succeeded** is one of accepted calls. -/
theorem calls_accepted (hlayout : layout.validate = .ok (.ok ())) {world next : World Rig}
    (hrests : Rests layout drops ready array.bytes world.state)
    (hrun : (Session.calls ⟨device⟩ history).run.runOn world = (.ok (.ok ()), next)) :
    ∀ call ∈ history, call.Accepted layout ready := by
  induction history generalizing array world with
  | nil => exact nofun
  | cons call rest ih =>
      obtain ⟨answer, middle, hcall, hrest⟩ := Attempt.runOn_bind_eq_ok.mp hrun
      by_cases haccepted : call.Accepted layout ready
      · obtain ⟨_, hends⟩ : ∃ answer,
            Attempt.Ends (Rests layout drops ready array.bytes) _ (.ok answer) _ :=
          call_accepted hlayout haccepted
        obtain ⟨other, hother, hmiddle⟩ := hends world hrests
        obtain ⟨-, rfl⟩ := Prod.mk.inj (hcall.symm.trans hother)
        exact List.forall_mem_cons.mpr ⟨haccepted, ih hmiddle hrest⟩
      · obtain ⟨_, hends⟩ : ∃ error,
            Attempt.Ends (Rests layout drops ready array.bytes) _ (.error error) _ :=
          call_refused hlayout haccepted
        obtain ⟨_, hrefused, _⟩ := hends world hrests
        cases hcall.symm.trans hrefused

end Rig

end FlashBench
