import FlashBench.Proofs.Clock.Headroom
import FlashBench.Proofs.Part.Aside

/-!
# The two measurements of a run

A run protects a window and takes a sample, and does so again after the flash steps. The second
measurement starts from clocks that the first one has left, at their own frequency or at the one to
which an erase switches the CPU. That the two come to an end (`CycleTimer.Returns`) is all that a
run needs of a timer. Nothing is said of a third one, nor of any other clocks.

* **Running clocks** measure twice whenever the window fits in one turn of the counter
  (`Rig.timer_returns`).
* **Clocks with enough room ahead** measure twice whatever a reading does to the counter, also if it
  stands still when it is read (`Rig.timer_returns_ahead`).
-/

namespace FlashBench

/-- From a rig with these clocks, whatever else is in it, the action ends with clocks that satisfy
`after`, or with a fault that is expected. -/
def Clocks.Leads {α : Type} (clocks : Clocks) (act : Act Rig α) (after : Clocks → Prop)
    (expected : Fault → Prop) : Prop :=
  Act.Leads (fun rig => rig.clocks = clocks) act (fun _ rig => after rig.clocks)
    fun fault _ => expected fault

namespace Clocks.Leads

variable {α : Type} {clocks : Clocks} {act : Act Rig α} {after later : Clocks → Prop}
  {expected feared : Fault → Prop}

theorem mono (h : clocks.Leads act after expected) (hafter : ∀ left, after left → later left)
    (hfault : ∀ fault, expected fault → feared fault) : clocks.Leads act later feared := by
  unfold Clocks.Leads at h ⊢
  exact h.mono (fun _ hs => hs) (fun _ rig hs => hafter rig.clocks hs) fun fault _ => hfault fault

/-- What an action does with clocks of a kind it does with each of them. -/
theorem of_leads {ready : Clocks → Prop} (h : Act.Leads (fun rig : Rig => ready rig.clocks) act
      (fun _ rig => after rig.clocks) fun fault _ => expected fault) (hready : ready clocks) :
    clocks.Leads act after expected := by
  unfold Clocks.Leads
  exact h.pre fun _ heq => heq ▸ hready

/-- An action whose end is known. -/
theorem of_ends {value : α} {next : Clocks}
    (h : Act.Ends (·.clocks = clocks) act value (·.clocks = next)) (hafter : after next) :
    clocks.Leads act after expected := by
  unfold Clocks.Leads
  exact (Act.Leads.of_ends h).post fun _ _ hs => hs.2 ▸ hafter

/-- Of any action it is known that it ends or stops. -/
theorem trivial (hafter : ∀ left, after left) (hfault : ∀ fault, expected fault) :
    clocks.Leads act after expected := by
  unfold Clocks.Leads
  exact Act.Leads.trivial.mono (fun _ _ => True.intro) (fun _ rig _ => hafter rig.clocks)
    fun fault _ _ => hfault fault

end Clocks.Leads

namespace CycleTimer

/-- **One measurement:** from these clocks the timer protects its window, and from the clocks that
this leaves it takes a sample. -/
def Measures (timer : CycleTimer Rig) (windowTicks cycles : UInt32) (expected : Fault → Prop)
    (clocks : Clocks) (after : Clocks → Prop) : Prop :=
  clocks.Leads (timer.protect windowTicks)
    (fun ready => ready.Leads (timer.sample cycles) after expected) expected

/-- Clocks that a measurement has left are measured once more without a fault, at their own frequency
and at the one to which an erase switches the CPU. -/
def ReturnsAgain (timer : CycleTimer Rig) (windowTicks cycles : UInt32) (hook : Option UInt32)
    (left : Clocks) : Prop :=
  ∀ cpuHz, cpuHz = left.cpuHz ∨ hook = some cpuHz →
    timer.Measures windowTicks cycles (fun _ => False) { left with cpuHz } fun _ => True

/-- **Both measurements of a run return:** the one from these clocks, and the one from the clocks
that it leaves. -/
def Returns (timer : CycleTimer Rig) (windowTicks cycles : UInt32) (hook : Option UInt32)
    (clocks : Clocks) : Prop :=
  timer.Measures windowTicks cycles (fun _ => False) clocks
    (timer.ReturnsAgain windowTicks cycles hook)

/-- What is known before the first measurement is enough for it, and what it leaves is enough for
the second one. Faults may be expected. -/
structure MeasuresTwice (timer : CycleTimer Rig) (windowTicks cycles : UInt32)
    (expected : Fault → Prop) (start again : Option UInt32 → Clocks → Prop) : Prop where
  first : ∀ hook clocks, start hook clocks →
    timer.Measures windowTicks cycles expected clocks (again hook)
  second : ∀ hook clocks, again hook clocks →
    timer.Measures windowTicks cycles expected clocks fun _ => True

variable {timer : CycleTimer Rig} {windowTicks cycles : UInt32} {expected : Fault → Prop}
  {clocks : Clocks} {after : Clocks → Prop} {hook : Option UInt32}

theorem Measures.mono {later : Clocks → Prop} {feared : Fault → Prop}
    (h : timer.Measures windowTicks cycles expected clocks after)
    (hafter : ∀ left, after left → later left) (hfault : ∀ fault, expected fault → feared fault) :
    timer.Measures windowTicks cycles feared clocks later := by
  unfold Measures at h ⊢
  exact h.mono (fun _ hready => hready.mono hafter hfault) hfault

/-- A measurement without a fault is one with faults that are expected. -/
theorem Measures.on_fault (h : timer.Measures windowTicks cycles (fun _ => False) clocks after) :
    timer.Measures windowTicks cycles expected clocks after :=
  h.mono (fun _ hafter => hafter) fun _ => False.elim

/-- The frequency to which an erase switches the CPU was thought of. -/
theorem ReturnsAgain.switch {hz : UInt32}
    (h : timer.ReturnsAgain windowTicks cycles (some hz) clocks) :
    timer.ReturnsAgain windowTicks cycles (some hz) { clocks with cpuHz := hz } :=
  fun cpuHz hcpu => h cpuHz (.inr (hcpu.elim (congrArg some ·.symm) id))

theorem returns_twice : timer.MeasuresTwice windowTicks cycles expected
    (timer.Returns windowTicks cycles) (timer.ReturnsAgain windowTicks cycles) where
  first := fun _ _ h => h.on_fault
  second := fun _ clocks h => (h clocks.cpuHz (.inl rfl)).on_fault

/-- Of any timer it is known that it measures or stops. -/
theorem measures_or_stops (timer : CycleTimer Rig) (windowTicks cycles : UInt32) :
    timer.MeasuresTwice windowTicks cycles (fun _ => True) (fun _ _ => True) fun _ _ => True where
  first := fun _ _ _ => .trivial (fun _ => .trivial (fun _ => trivial) fun _ => trivial)
    fun _ => trivial
  second := fun _ _ _ => .trivial (fun _ => .trivial (fun _ => trivial) fun _ => trivial)
    fun _ => trivial

/-! ## Next to a part -/

section Part

variable {layout : FlashLayout} {held : Bool} {bytes : Nat → UInt8}
  {start again : Option UInt32 → Clocks → Prop} (htimer : timer.Apart)

include htimer

/-- What the timer does with the clocks, it does next to a part in order. -/
theorem Apart.leads_inOrder {α : Type} {act : Act Rig α}
    (hkeeps : ∀ {inv : Rig → Prop}, timer.Keeps inv → Act.Keeps inv act)
    (hleads : ∀ hook clocks, start hook clocks → clocks.Leads act (again hook) expected) :
    Act.Leads (Rig.InOrder layout (Rig.Attended start held) bytes) act
      (fun _ => Rig.InOrder layout (Rig.Attended again held) bytes)
      fun fault _ => expected fault := by
  intro world ⟨hserves, hheld, hready⟩
  -- the timer does not see the part, so all that is said of it stays
  have hpart := hkeeps (htimer.keeps fun part : Controller × SessionLock × UInt32 =>
    part.1.Serves layout bytes part.2.2 ∧ part.2.1.held = held ∧
      part.1.eraseClockHz = world.state.ctrl.eraseClockHz)
  refine ((Act.Leads.and_keeps (hleads _ _ hready) hpart).mono (fun _ hs => hs)
    (fun _ rig hs => ?_) fun _ _ hs => hs.1) world ⟨rfl, hserves, hheld, rfl⟩
  obtain ⟨hafter, hserves, hheld, hhook⟩ := hs
  exact ⟨hserves, hheld, hhook.symm ▸ hafter⟩

theorem Apart.protect_inOrder (hmeasures : ∀ hook clocks, start hook clocks →
      timer.Measures windowTicks cycles expected clocks (again hook)) :
    Act.Leads (Rig.InOrder layout (Rig.Attended start held) bytes) (timer.protect windowTicks)
      (fun _ => Rig.InOrder layout (Rig.Attended (fun hook ready =>
        ready.Leads (timer.sample cycles) (again hook) expected) held) bytes)
      fun fault _ => expected fault :=
  htimer.leads_inOrder (fun hkeeps => hkeeps.protect _) hmeasures

theorem Apart.sample_inOrder :
    Act.Leads (Rig.InOrder layout (Rig.Attended (fun hook ready =>
        ready.Leads (timer.sample cycles) (again hook) expected) held) bytes) (timer.sample cycles)
      (fun _ => Rig.InOrder layout (Rig.Attended again held) bytes)
      fun fault _ => expected fault :=
  htimer.leads_inOrder (fun hkeeps => hkeeps.sample _) fun _ _ hready => hready

end Part

end CycleTimer

/-! ## The clocks of the rig -/

section Clocks

variable {windowTicks cycles : UInt32} {hook : Option UInt32} {clocks : Clocks} {patience : Nat}

/-- What every measurement keeps is enough for two of them. -/
theorem CycleTimer.Returns.of_keeps {timer : CycleTimer Rig} {ready : Clocks → Prop}
    (hmeasures : ∀ clocks, ready clocks →
      timer.Measures windowTicks cycles (fun _ => False) clocks ready)
    (hswitch : ∀ clocks cpuHz, ready clocks → ready { clocks with cpuHz }) (h : ready clocks) :
    timer.Returns windowTicks cycles hook clocks :=
  (hmeasures clocks h).mono (fun left hleft cpuHz _ =>
    (hmeasures _ (hswitch left cpuHz hleft)).mono (fun _ _ => trivial) fun _ => id) fun _ => id

/-- **Running clocks** protect every window that fits in one turn of the counter. -/
theorem Rig.timer_returns {info : CounterInfo} (h : clocks.Running info)
    (hwindow : windowTicks < info.maxCount) (hpatience : windowTicks.toNat < patience) :
    (Rig.timer patience).Returns windowTicks cycles hook clocks := by
  have hprotect : Act.Leads (fun rig => rig.clocks.Running info)
      ((Rig.timer patience).protect windowTicks) _ _ :=
    CycleTimer.protect_leads (fun _ _ => rfl) rfl hwindow hpatience
  have hsample : Act.Leads (fun rig => rig.clocks.Running info)
      ((Rig.timer patience).sample cycles) (fun _ rig => rig.clocks.Running info) _ :=
    CycleTimer.sample_leads (fun _ _ => rfl) rfl rfl cycles
  refine .of_keeps (fun clocks hrunning => ?_) (fun _ cpuHz hrunning => hrunning.switch cpuHz) h
  refine .of_leads (hprotect.post fun _ rig hs => ?_) hrunning
  exact Clocks.Leads.of_leads hsample hs.1

/-- Clocks with room for the window are read once to protect it, and then a sample is taken. -/
theorem Rig.timer_measures_ahead (h : clocks.Ahead (windowTicks.toNat + 1)) :
    (Rig.timer patience).Measures windowTicks cycles (fun _ => False) clocks
      (· = clocks.read.2.sampled cycles) := by
  have hprotect : Act.Ends (·.clocks = clocks) ((Rig.timer patience).protect windowTicks) _
      (·.clocks = clocks.read.2) := CycleTimer.protect_headroom (fun _ _ => rfl) rfl h
  obtain ⟨sample, hsample⟩ : ∃ sample, Act.Ends (·.clocks = clocks.read.2)
      ((Rig.timer patience).sample cycles) sample (·.clocks = clocks.read.2.sampled cycles) :=
    CycleTimer.sample_ends (fun _ _ => rfl) rfl rfl h.readable.read h.carried cycles
  exact .of_ends hprotect (.of_ends hsample rfl)

/-- **Clocks with enough room ahead** protect a window that fits in what the first measurement leaves
of it. -/
theorem Rig.timer_returns_ahead (h : clocks.Ahead (3 * clocks.readStep.toNat +
      workTicks clocks.info clocks.cpuHz cycles clocks.carried + (windowTicks.toNat + 1))) :
    (Rig.timer patience).Returns windowTicks cycles hook clocks := by
  -- what the first measurement takes is one reading and a sample
  have hread : clocks.Ahead (clocks.readStep.toNat + (2 * clocks.readStep.toNat +
      workTicks clocks.info clocks.cpuHz cycles clocks.carried + (windowTicks.toNat + 1))) :=
    h.mono (by omega)
  have hleft : (clocks.read.2.sampled cycles).Ahead (windowTicks.toNat + 1) := hread.read.sampled
  refine (timer_measures_ahead (h.mono (by omega))).mono (fun left heq cpuHz _ => ?_) fun _ => id
  have hswitched : ({ left with cpuHz } : Clocks).Ahead (windowTicks.toNat + 1) :=
    heq ▸ hleft.switch cpuHz
  exact (timer_measures_ahead hswitched).mono (fun _ _ => trivial) fun _ => id

end Clocks

end FlashBench
