import FlashBench.Proofs.Part.Switch

/-!
# What an operation leaves alone

The lock of the driver and the clocks have nothing to do with the medium: an operation moves neither,
except that an erase may switch the CPU to another frequency. So what is known of them is still known
after any operation, if that frequency makes no difference (`Rig.Driven`), and may be carried next to
a part that is served (`Rig.InOrder`). What has to do neither with the controller nor with any
frequency (`Rig.Aside`) is known even after erases of another make.
-/

namespace FlashBench

namespace Rig

/-- What is said has to do neither with the controller nor with the frequency of the CPU. -/
structure Aside (K : Rig → Prop) : Prop where
  ctrl : ∀ rig ctrl, K rig → K { rig with ctrl }
  cpuHz : ∀ rig cpuHz, K rig → K { rig with clocks := { rig.clocks with cpuHz } }

theorem Aside.driven {K : Rig → Prop} (hK : Aside K) : Driven K :=
  ⟨fun rig _ _ h => hK.ctrl rig _ h, fun rig cpuHz _ h => hK.cpuHz rig cpuHz h⟩

/-- The part is served, and `K` is known of the rest of the rig. -/
def InOrder (layout : FlashLayout) (K : Rig → Prop) (bytes : Nat → UInt8) (rig : Rig) : Prop :=
  Serves layout bytes rig ∧ K rig

section Operations

variable {K : Rig → Prop} (hK : Driven K)

include hK

/-! ## A part in order -/

variable {layout : FlashLayout} {bytes : Nat → UInt8} {address : UInt32}

theorem eraseSector_inOrder (hlayout : layout.validate = .ok (.ok ())) {sector : Sector}
    (hmem : sector ∈ layout.sectorList) :
    Attempt.Ends (InOrder layout K bytes) (device.eraseSector sector.start) (.ok ())
      (InOrder layout K
        (Memory.patch bytes sector.start.toNat sector.size.toNat fun _ => layout.eraseValue)) :=
  Act.Ends.and_keeps (erase_ends hlayout hmem) (perform_keeps hK _ _)

theorem programPage_inOrder (content : ByteArray) (hstop : layout.stop ≤ Word.span32)
    (hpage : 0 < layout.pageSize.toNat) (haligned : layout.pageSize.toNat ∣ address.toNat)
    (hpages : layout.pageSize.toNat ∣ content.size)
    (hfirst : layout.start.toNat ≤ address.toNat)
    (hlast : address.toNat + content.size ≤ layout.stop) :
    Attempt.Ends (InOrder layout K bytes) (device.programPage address content) (.ok ())
      (InOrder layout K (Memory.patch bytes address.toNat content.size
        (Memory.programmedOver layout.eraseValue bytes
          (Memory.loaded content address.toNat)))) := by
  have hkeeps : Attempt.Keeps K (device.programPage address content) :=
    .bind (.lift ctrlNow_keeps) fun _ => programPages_keeps hK _ _ _ _ _
  exact Act.Ends.and_keeps
    (device_programPage content hstop hpage haligned hpages hfirst hlast) hkeeps

end Operations

section Attended

variable {layout : FlashLayout} {K : Rig → Prop} {bytes : Nat → UInt8}
  {ready : Option UInt32 → Clocks → Prop} {held : Bool}

theorem InOrder.holds {rig : Rig} (h : InOrder layout K bytes rig) :
    rig.ctrl.Holds layout bytes :=
  Controller.Serves.holds h.1

/-! ## Sessions and clocks -/

/-- Whether the driver is taken, and what is known of the clocks, given the frequency to which an
erase switches the CPU. -/
def Attended (ready : Option UInt32 → Clocks → Prop) (held : Bool) (rig : Rig) : Prop :=
  rig.lock.held = held ∧ ready rig.ctrl.eraseClockHz rig.clocks

theorem attended_driven
    (hswitch : ∀ hz clocks, ready (some hz) clocks → ready (some hz) { clocks with cpuHz := hz }) :
    Driven (Attended ready held) where
  access := fun rig access hdriver h => by
    refine ⟨h.1, ?_⟩
    show ready (rig.ctrl.access access).2.eraseClockHz rig.clocks
    rw [Controller.access_eraseClockHz hdriver]
    exact h.2
  cpuHz := fun rig hz hhook h => by
    have hready := h.2
    refine ⟨h.1, ?_⟩
    show ready rig.ctrl.eraseClockHz { rig.clocks with cpuHz := hz }
    rw [hhook] at hready ⊢
    exact hswitch hz _ hready

theorem changeLock_ends {P Q : Rig → Prop}
    (f : SessionLock → Except FlashError Unit × SessionLock) {outcome : Except FlashError Unit}
    (h : ∀ rig, P rig → (f rig.lock).1 = outcome ∧ Q { rig with lock := (f rig.lock).2 }) :
    Act.Ends P (Act.changeGet fun rig => ((f rig.lock).1, { rig with lock := (f rig.lock).2 }))
      outcome Q :=
  .changeGet _ h

theorem device_init_ends :
    Attempt.Ends
      (fun rig => InOrder layout (Attended ready false) bytes rig ∧ rig.ctrl.failInit = false)
      device.init (.ok ()) (InOrder layout (Attended ready true) bytes) := by
  refine ctrlNow_lift_bind fun rig hrig => .neg (hrig.2 ▸ Bool.false_ne_true) ?_
  refine changeLock_ends SessionLock.acquire fun rig ⟨⟨hserves, hfree, hready⟩, _⟩ => ?_
  unfold SessionLock.acquire
  rw [hfree]
  exact ⟨rfl, hserves, rfl, hready⟩

theorem device_free_ends :
    Attempt.Ends (InOrder layout (Attended ready true) bytes) device.free (.ok ())
      (InOrder layout (Attended ready false) bytes) := by
  refine changeLock_ends SessionLock.release fun rig ⟨hserves, hheld, hready⟩ => ?_
  unfold SessionLock.release
  rw [hheld]
  exact ⟨rfl, hserves, rfl, hready⟩

end Attended

end Rig

end FlashBench
