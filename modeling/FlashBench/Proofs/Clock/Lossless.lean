import FlashBench.Proofs.Clock.Carry

/-!
# No time is lost

What a stretch of work leaves over goes into the next one, so at a fixed CPU frequency the ticks of
many stretches are those of all their cycles together, rounded down once. Readings of the counter
and pushes from outside come on top, in whatever order (`Accounts.events`).

None of it leaves the words it is computed in, at any frequency the CPU is switched to: a history
with every result checked to fit, and every divisor not to be zero, has no fault and the same end
(`Bounded.events`). `Clocks.no_time_lost` says both of clocks that were just set up.
-/

namespace FlashBench

/-- What happens to clocks: a call, or a push of the counter from outside. -/
inductive ClockEvent where
  | call (call : ClockCall)
  | advance (ticks : UInt64)
deriving DecidableEq, Repr

namespace ClockEvent

/-- Cycles of work. -/
def cycles : ClockEvent → Nat
  | call (.spin cycles) => cycles.toNat
  | _ => 0

/-- Ticks of a push. -/
def pushed : ClockEvent → Nat
  | advance ticks => ticks.toNat
  | _ => 0

/-- How often the counter is read. -/
def readings : ClockEvent → Nat
  | call .read => 1
  | _ => 0

/-- The CPU is not switched. -/
def Steady : ClockEvent → Prop
  | call (.switch _) => False
  | _ => True

end ClockEvent

namespace Clocks

variable {clocks fresh : Clocks} {cycles ticks : Nat}

/-- The clocks after an event. -/
def event (clocks : Clocks) : ClockEvent → Except Fault Clocks
  | .call call => clocks.call call
  | .advance ticks => return clocks.advance ticks.toNat

/-- The clocks after a history of events. -/
def events (clocks : Clocks) (history : List ClockEvent) : Except Fault Clocks :=
  history.foldlM event clocks

/-! ## Checked steps -/

/-- Moves the counter, in numbers of 64 bits. -/
def checkedAdvance (clocks : Clocks) (ticks : Nat) : Except Fault Clocks := do
  let ticks ← Word.fit64 ticks
  let modulus ← Word.fit64 (clocks.info.maxCount.toNat + 1)
  let rest ← Word.remainder ticks modulus
  let sum ← Word.fit64 (clocks.counter.toNat + rest)
  let next ← Word.remainder sum modulus
  let counter ← Word.fit32 next
  return { clocks with counter }

/-- Runs cycles of work, in numbers of 64 bits. -/
def checkedSpin (clocks : Clocks) (cycles : UInt32) : Except Fault Clocks := do
  let cpuHz := max clocks.cpuHz.toNat 1
  let product ← Word.fit64 (cycles.toNat * clocks.info.hz.toNat)
  let work ← Word.fit64 (product + clocks.carried)
  let carried ← Word.remainder work cpuHz
  checkedAdvance { clocks with carried } (work / cpuHz)

/-- The clocks after an event, with every step checked. -/
def checkedEvent (clocks : Clocks) : ClockEvent → Except Fault Clocks
  | .call (.spin cycles) => clocks.checkedSpin cycles
  | .call (.switch cpuHz) => return { clocks with cpuHz }
  | .call .read => do
    let next ← clocks.checkedAdvance clocks.readStep.toNat
    return { next with reads := clocks.reads + 1 }
  | .advance ticks => clocks.checkedAdvance ticks.toNat

/-- The clocks after a history of events, with every step checked. -/
def checkedEvents (clocks : Clocks) (history : List ClockEvent) : Except Fault Clocks :=
  history.foldlM checkedEvent clocks

/-- The counter stands at one of its values, and what is carried over fits into 32 bits. -/
structure Bounded (clocks : Clocks) : Prop where
  counter : clocks.counter ≤ clocks.info.maxCount
  carried : clocks.carried < Word.span32

theorem checkedAdvance_eq (clocks : Clocks) (hticks : ticks < Word.span64) :
    clocks.checkedAdvance ticks = .ok (clocks.advance ticks) := by
  have hmax := Word.toNat_lt_span32 clocks.info.maxCount
  have hcounter := Word.toNat_lt_span32 clocks.counter
  have hspans : Word.span32 + Word.span32 ≤ Word.span64 := by decide
  have hmodulus : 0 < clocks.info.maxCount.toNat + 1 := Nat.succ_pos _
  have hrest := Nat.mod_lt ticks hmodulus
  have hnext := Nat.mod_lt
    (clocks.counter.toNat + ticks % (clocks.info.maxCount.toNat + 1)) hmodulus
  refine Word.bind_eq_ok_iff.mpr ⟨_, Word.fit64_of_lt hticks, ?_⟩
  refine Word.bind_eq_ok_iff.mpr ⟨_, Word.fit64_of_lt (by omega), ?_⟩
  refine Word.bind_eq_ok_iff.mpr ⟨_, Word.remainder_of_pos _ hmodulus, ?_⟩
  refine Word.bind_eq_ok_iff.mpr ⟨_, Word.fit64_of_lt (by omega), ?_⟩
  refine Word.bind_eq_ok_iff.mpr ⟨_, Word.remainder_of_pos _ hmodulus, ?_⟩
  exact Word.bind_eq_ok_iff.mpr ⟨_, Word.fit32_of_lt (by omega), rfl⟩

theorem checkedSpin_eq (hcarried : clocks.carried < Word.span32) (cycles : UInt32) :
    clocks.checkedSpin cycles = clocks.spin cycles := by
  have hwork := work_lt hcarried cycles
  have hcpu : 0 < max clocks.cpuHz.toNat 1 := Nat.lt_of_lt_of_le Nat.one_pos (Nat.le_max_right _ _)
  have hticks := Nat.div_le_self (cycles.toNat * clocks.info.hz.toNat + clocks.carried)
    (max clocks.cpuHz.toNat 1)
  rw [spin_eq hcarried]
  refine Word.bind_eq_ok_iff.mpr ⟨_, Word.fit64_of_lt (by omega), ?_⟩
  refine Word.bind_eq_ok_iff.mpr ⟨_, Word.fit64_of_lt hwork, ?_⟩
  refine Word.bind_eq_ok_iff.mpr ⟨_, Word.remainder_of_pos _ hcpu, ?_⟩
  exact checkedAdvance_eq _ (Nat.lt_of_le_of_lt hticks hwork)

/-- **One event** keeps the bounds, and its steps fit. -/
theorem Bounded.event (h : clocks.Bounded) (event : ClockEvent) :
    ∃ next, clocks.event event = .ok next ∧ clocks.checkedEvent event = .ok next ∧
      next.info = clocks.info ∧ next.Bounded := by
  cases event with
  | advance ticks =>
      exact ⟨_, rfl, checkedAdvance_eq _ ticks.toNat_lt, rfl, clocks.advance_counter_le _,
        h.carried⟩
  | call call =>
      cases call with
      | spin cycles =>
          have hcpu := Word.toNat_lt_span32 clocks.cpuHz
          have hspin := spin_eq h.carried cycles
          refine ⟨_, hspin, (checkedSpin_eq h.carried cycles).trans hspin, rfl,
            clocks.advance_counter_le _, ?_⟩
          exact Nat.lt_of_lt_of_le (Nat.mod_lt _ (by omega))
            (Nat.max_le.mpr ⟨Nat.le_of_lt hcpu, by decide⟩)
      | switch cpuHz => exact ⟨_, rfl, rfl, rfl, h.counter, h.carried⟩
      | read =>
          have hstep : clocks.readStep.toNat < Word.span64 :=
            Nat.lt_trans (Word.toNat_lt_span32 _) (by decide)
          refine ⟨clocks.read.2, rfl, ?_, rfl, clocks.advance_counter_le _, h.carried⟩
          exact Word.bind_eq_ok_iff.mpr ⟨_, checkedAdvance_eq _ hstep, rfl⟩

/-- **Any history** does. -/
theorem Bounded.events (h : clocks.Bounded) (history : List ClockEvent) :
    ∃ now, clocks.events history = .ok now ∧ clocks.checkedEvents history = .ok now ∧
      now.info = clocks.info ∧ now.Bounded := by
  induction history generalizing clocks with
  | nil => exact ⟨clocks, rfl, rfl, rfl, h⟩
  | cons event history ih =>
      obtain ⟨next, hnext, hchecked, hinfo, hbounded⟩ := h.event event
      obtain ⟨now, hnow, hagain, hsame, hlast⟩ := ih hbounded
      refine ⟨now, ?_, ?_, hsame.trans hinfo, hlast⟩
      · exact List.foldlM_cons.trans (Word.bind_eq_ok_iff.mpr ⟨next, hnext, hnow⟩)
      · exact List.foldlM_cons.trans (Word.bind_eq_ok_iff.mpr ⟨next, hchecked, hagain⟩)

/-! ## Accounts -/

/-- Cycles of work in a history. -/
def cyclesOf (history : List ClockEvent) : Nat := (history.map ClockEvent.cycles).sum

/-- Ticks in a history that are not those of work. -/
def ticksBeside (readStep : UInt32) (history : List ClockEvent) : Nat :=
  (history.map ClockEvent.pushed).sum + (history.map ClockEvent.readings).sum * readStep.toNat

theorem cyclesOf_cons (event : ClockEvent) (history : List ClockEvent) :
    cyclesOf (event :: history) = event.cycles + cyclesOf history := by
  rw [cyclesOf, List.map_cons, List.sum_cons, cyclesOf]

theorem ticksBeside_cons (readStep : UInt32) (event : ClockEvent) (history : List ClockEvent) :
    ticksBeside readStep (event :: history) =
      event.pushed + event.readings * readStep.toNat + ticksBeside readStep history := by
  simp only [ticksBeside, List.map_cons, List.sum_cons, Nat.add_mul]
  omega

/-- The clocks `fresh` after `cycles` cycles of work and `ticks` ticks beside it: the counter has
the whole ticks of the work, and the rest of it is carried over. -/
structure Accounts (fresh : Clocks) (cycles ticks : Nat) (clocks : Clocks) : Prop where
  info : clocks.info = fresh.info
  readStep : clocks.readStep = fresh.readStep
  cpuHz : clocks.cpuHz = fresh.cpuHz
  counter : clocks.counter.toNat =
    (fresh.counter.toNat + cycles * fresh.info.hz.toNat / max fresh.cpuHz.toNat 1 + ticks) %
      (fresh.info.maxCount.toNat + 1)
  carried : clocks.carried = cycles * fresh.info.hz.toNat % max fresh.cpuHz.toNat 1

/-- What a division leaves over is not lost for the next one. -/
theorem add_div_eq (a b : Nat) {m : Nat} (h : 0 < m) :
    (a + b) / m = a / m + (b + a % m) / m := by
  conv_lhs => rw [← Nat.div_add_mod a m]
  rw [Nat.add_assoc, Nat.mul_add_div h, Nat.add_comm (a % m)]

theorem Accounts.spin (h : fresh.Accounts cycles ticks clocks) (more : UInt32) :
    ∃ next, clocks.spin more = .ok next ∧ fresh.Accounts (cycles + more.toNat) ticks next := by
  have hcpu : 0 < max fresh.cpuHz.toNat 1 := Nat.lt_of_lt_of_le Nat.one_pos (Nat.le_max_right _ _)
  have hcarried : clocks.carried < Word.span32 := by
    rw [h.carried]
    exact Nat.lt_of_lt_of_le (Nat.mod_lt _ hcpu)
      (Nat.max_le.mpr ⟨Nat.le_of_lt (Word.toNat_lt_span32 _), by decide⟩)
  refine ⟨_, spin_eq hcarried more, h.info, h.readStep, h.cpuHz, ?_, ?_⟩
  · refine (advance_toNat_counter _ _).trans ?_
    rw [h.info, h.cpuHz, h.counter, h.carried, Nat.mod_add_mod, Nat.add_mul,
      add_div_eq (cycles * _) _ hcpu]
    congr 1
    omega
  · show (more.toNat * clocks.info.hz.toNat + clocks.carried) % max clocks.cpuHz.toNat 1 = _
    rw [h.info, h.cpuHz, h.carried, Nat.add_mod_mod, Nat.add_mul, Nat.add_comm]

theorem Accounts.advance (h : fresh.Accounts cycles ticks clocks) (more : Nat) :
    fresh.Accounts cycles (ticks + more) (clocks.advance more) where
  info := h.info
  readStep := h.readStep
  cpuHz := h.cpuHz
  counter := by
    rw [advance_toNat_counter, h.info, h.counter, Nat.mod_add_mod, Nat.add_assoc _ ticks]
  carried := h.carried

/-- **One event** goes into the accounts. -/
theorem Accounts.event (h : fresh.Accounts cycles ticks clocks) {event : ClockEvent}
    (hsteady : event.Steady) :
    ∃ next, clocks.event event = .ok next ∧ fresh.Accounts (cycles + event.cycles)
      (ticks + (event.pushed + event.readings * fresh.readStep.toNat)) next := by
  cases event with
  | advance more =>
      have hmoved := h.advance more.toNat
      exact ⟨_, rfl,
        by simpa [ClockEvent.cycles, ClockEvent.pushed, ClockEvent.readings] using hmoved⟩
  | call call =>
      cases call with
      | spin more =>
          obtain ⟨next, hnext, haccounts⟩ := h.spin more
          exact ⟨next, hnext,
            by simpa [ClockEvent.cycles, ClockEvent.pushed, ClockEvent.readings] using haccounts⟩
      | switch cpuHz => exact absurd hsteady id
      | read =>
          obtain ⟨hinfo, hreadStep, hcpuHz, hcounter, hcarried⟩ := h.advance clocks.readStep.toNat
          have hread : clocks.read.2.counter.toNat = _ := hcounter
          rw [h.readStep] at hread
          refine ⟨clocks.read.2, rfl, hinfo, hreadStep, hcpuHz, ?_, hcarried⟩
          simpa [ClockEvent.cycles, ClockEvent.pushed, ClockEvent.readings] using hread

/-- **The accounts of a history.** The induction is on the events, with what there was before them
in the accounts. -/
theorem Accounts.events (h : fresh.Accounts cycles ticks clocks) {history : List ClockEvent}
    (hsteady : ∀ event ∈ history, event.Steady) :
    ∃ now, clocks.events history = .ok now ∧ fresh.Accounts (cycles + cyclesOf history)
      (ticks + ticksBeside fresh.readStep history) now := by
  induction history generalizing clocks cycles ticks with
  | nil => exact ⟨clocks, rfl, by simpa [cyclesOf, ticksBeside] using h⟩
  | cons event history ih =>
      obtain ⟨next, hnext, haccounts⟩ := h.event (hsteady event List.mem_cons_self)
      obtain ⟨now, hnow, hlast⟩ :=
        ih haccounts fun other hmem => hsteady other (List.mem_cons_of_mem event hmem)
      refine ⟨now, List.foldlM_cons.trans (Word.bind_eq_ok_iff.mpr ⟨next, hnext, hnow⟩), ?_⟩
      rw [cyclesOf_cons, ticksBeside_cons, ← Nat.add_assoc, ← Nat.add_assoc ticks]
      exact hlast

/-- Clocks that were just set up: a counter that starts at `start`, masked to its width, and nothing
carried over. -/
def setUp (info : CounterInfo) (start readStep cpuHz : UInt32) : Clocks :=
  ({ info, readStep, cpuHz } : Clocks).startingAt start

section SetUp

variable (info : CounterInfo) (start readStep cpuHz : UInt32)

theorem toNat_setUp_counter : (setUp info start readStep cpuHz).counter.toNat =
    start.toNat % (info.maxCount.toNat + 1) :=
  CounterInfo.toNat_and_maxCount start info

theorem setUp_bounded : (setUp info start readStep cpuHz).Bounded where
  counter := by
    rw [UInt32.le_iff_toNat_le, toNat_setUp_counter]
    exact Nat.le_of_lt_succ (Nat.mod_lt _ (Nat.succ_pos _))
  carried := Nat.two_pow_pos 32

theorem setUp_accounts :
    (setUp info start readStep cpuHz).Accounts 0 0 (setUp info start readStep cpuHz) where
  info := rfl
  readStep := rfl
  cpuHz := rfl
  counter := by
    have hle := UInt32.le_iff_toNat_le.mp (setUp_bounded info start readStep cpuHz).counter
    rw [Nat.zero_mul, Nat.zero_div, Nat.add_zero, Nat.add_zero]
    exact (Nat.mod_eq_of_lt (Nat.lt_succ_of_le hle)).symm
  carried := by
    rw [Nat.zero_mul, Nat.zero_mod]
    rfl

end SetUp

/-- **No time is lost, and nothing overflows.** Whatever happens to clocks that were just set up, no
step of it leaves its words, the counter stays at one of its values, and the next work fits into 64
bits. If the CPU was not switched, the counter has moved by the whole ticks of all the work, by the
pushes and by a step for every reading. -/
theorem no_time_lost (info : CounterInfo) (start readStep cpuHz : UInt32)
    (history : List ClockEvent) :
    ∃ now, (setUp info start readStep cpuHz).events history = .ok now ∧
      (setUp info start readStep cpuHz).checkedEvents history = .ok now ∧
      now.counter ≤ info.maxCount ∧
      (∀ cycles : UInt32, cycles.toNat * info.hz.toNat + now.carried ≤ 2 ^ 64 - 1) ∧
      ((∀ event ∈ history, event.Steady) →
        now.counter.toNat =
          (start.toNat + (history.map ClockEvent.cycles).sum * info.hz.toNat / max cpuHz.toNat 1 +
              (history.map ClockEvent.pushed).sum +
              (history.map ClockEvent.readings).sum * readStep.toNat) %
            2 ^ min info.bits.toNat 32) := by
  obtain ⟨now, hnow, hchecked, hinfo, hbounded⟩ :=
    (setUp_bounded info start readStep cpuHz).events history
  have hinfo : now.info = info := hinfo
  refine ⟨now, hnow, hchecked, hinfo ▸ hbounded.counter, fun cycles => ?_, fun hsteady => ?_⟩
  · have hwork := work_lt hbounded.carried cycles
    rw [hinfo] at hwork
    exact Nat.le_sub_one_of_lt hwork
  · obtain ⟨_, hsame, haccounts⟩ := (setUp_accounts info start readStep cpuHz).events hsteady
    cases hnow.symm.trans hsame
    have hcounter : now.counter.toNat =
        ((setUp info start readStep cpuHz).counter.toNat +
            (0 + cyclesOf history) * info.hz.toNat / max cpuHz.toNat 1 +
          (0 + ticksBeside readStep history)) % (info.maxCount.toNat + 1) := haccounts.counter
    rw [toNat_setUp_counter, Nat.zero_add, Nat.zero_add, Nat.add_assoc, Nat.mod_add_mod,
      CounterInfo.maxCount_add_one, ticksBeside, ← Nat.add_assoc, ← Nat.add_assoc] at hcounter
    exact hcounter

/-- Work, readings and pushes at a third of the frequency of the CPU, on a counter of twelve
bits. -/
def mixedHistory : List ClockEvent :=
  [.call (.spin 1), .call .read, .advance 0x100000005, .call (.spin 1), .call .read,
    .call (.spin 2)]

/-- Four cycles are one tick, and the rest is carried over. -/
theorem no_time_lost_mixedHistory :
    (∀ event ∈ mixedHistory, event.Steady) ∧
      ∃ now, (setUp ⟨1000000, 12⟩ 0xFFFE 7 3000000).events mixedHistory = .ok now ∧
        (setUp ⟨1000000, 12⟩ 0xFFFE 7 3000000).checkedEvents mixedHistory = .ok now ∧
        now.counter = 0x12 := by
  have hsteady : ∀ event ∈ mixedHistory, event.Steady := by
    unfold mixedHistory
    simp [ClockEvent.Steady]
  obtain ⟨now, hnow, hchecked, -, -, hcounter⟩ :=
    no_time_lost ⟨1000000, 12⟩ 0xFFFE 7 3000000 mixedHistory
  exact ⟨hsteady, now, hnow, hchecked, UInt32.toNat_inj.mp ((hcounter hsteady).trans (by decide))⟩

end Clocks

end FlashBench
