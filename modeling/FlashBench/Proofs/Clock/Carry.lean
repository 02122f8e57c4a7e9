import FlashBench.Proofs.Clock.Running
import Mathlib.Data.Nat.ModEq

/-!
# What the busy loop carries over

Work moves the counter by its whole ticks and carries the rest over to the work after it. The rest
is kept as a number of cycles-times-hertz: less than a tick at the CPU frequency of the work that
left it, but as much as the quotient of the two frequencies at another one. So the ticks of some
work are those of its own cycles and a **surplus** (`Clocks.surplus`), which after any history is at
most one if the CPU has not been slowed down since the last work (`Clocks.spin_after_calls`).
-/

namespace FlashBench

/-- What is done with clocks: work, a switch of the CPU, and a reading. -/
inductive ClockCall where
  | spin (cycles : UInt32)
  | switch (cpuHz : UInt32)
  | read
deriving DecidableEq, Repr

/-- The CPU frequency of the last work in a history that starts at `cpuHz`; `last` if there is
none. -/
def ClockCall.lastPace (cpuHz : UInt32) (last : Nat) : List ClockCall → Nat
  | [] => last
  | .spin _ :: history => lastPace cpuHz (max cpuHz.toNat 1) history
  | .switch cpuHz :: history => lastPace cpuHz last history
  | .read :: history => lastPace cpuHz last history

namespace Clocks

variable {clocks before after : Clocks} {cycles : UInt32} {ticks more : Nat}

/-- The clocks after a call. -/
def call (clocks : Clocks) : ClockCall → Except Fault Clocks
  | .spin cycles => clocks.spin cycles
  | .switch cpuHz => return { clocks with cpuHz }
  | .read => return clocks.read.2

/-- The clocks after a history of calls. -/
def calls (clocks : Clocks) (history : List ClockCall) : Except Fault Clocks :=
  history.foldlM call clocks

/-! ## What is carried over -/

/-- What is carried over is less than `pace`, a CPU frequency. -/
structure CarriesBelow (pace : Nat) (clocks : Clocks) : Prop where
  carried : clocks.carried < pace
  pace_le : pace ≤ Word.span32

theorem CarriesBelow.fits {pace : Nat} (h : clocks.CarriesBelow pace) :
    clocks.carried < Word.span32 :=
  Nat.lt_of_lt_of_le h.carried h.pace_le

/-- Work carries less than its own frequency over. -/
theorem CarriesBelow.spin {pace : Nat} (h : clocks.CarriesBelow pace) (cycles : UInt32) :
    ∃ next, clocks.spin cycles = .ok next ∧ next.info = clocks.info ∧
      next.cpuHz = clocks.cpuHz ∧ next.CarriesBelow (max clocks.cpuHz.toNat 1) := by
  have hcpu := Word.toNat_lt_span32 clocks.cpuHz
  refine ⟨_, spin_eq h.fits cycles, rfl, rfl, Nat.mod_lt _ (Nat.lt_of_lt_of_le Nat.one_pos
    (Nat.le_max_right _ _)), Nat.max_le.mpr ⟨Nat.le_of_lt hcpu, by decide⟩⟩

/-- The run of a history: no call is a fault, and what is carried over at its end is less than a
tick at the frequency of the last work. The induction is on the history, and the frequency of the
last work so far goes along with it. -/
theorem CarriesBelow.calls {pace : Nat} (h : clocks.CarriesBelow pace) (history : List ClockCall) :
    ∃ now, clocks.calls history = .ok now ∧ now.info = clocks.info ∧
      now.CarriesBelow (ClockCall.lastPace clocks.cpuHz pace history) := by
  induction history generalizing clocks pace with
  | nil => exact ⟨clocks, rfl, rfl, h⟩
  | cons call history ih =>
      unfold Clocks.calls
      rw [List.foldlM_cons]
      cases call with
      | spin cycles =>
          obtain ⟨next, hnext, hinfo, hcpuHz, hcarries⟩ := h.spin cycles
          obtain ⟨now, hnow, hsame, hlast⟩ := ih hcarries
          rw [hcpuHz] at hlast
          refine ⟨now, ?_, hsame.trans hinfo, hlast⟩
          show clocks.spin cycles >>= _ = _
          rw [hnext]
          exact hnow
      | switch cpuHz =>
          have hswitched : CarriesBelow pace { clocks with cpuHz } := ⟨h.carried, h.pace_le⟩
          exact ih hswitched
      | read =>
          have hread : clocks.read.2.CarriesBelow pace := ⟨h.carried, h.pace_le⟩
          exact ih hread

/-! ## What work adds -/

/-- What moves the counter by `ticks`, and leaves the rest of it as it is. -/
structure Moved (ticks : Nat) (before after : Clocks) : Prop where
  info : after.info = before.info
  readStep : after.readStep = before.readStep
  readLimit : after.readLimit = before.readLimit
  counter : after.counter = (before.advance ticks).counter

/-- Within a turn the counter goes up by the ticks. -/
theorem Moved.toNat_counter (h : before.Moved ticks after)
    (hroom : before.counter.toNat + ticks ≤ before.info.maxCount.toNat) :
    after.counter.toNat = before.counter.toNat + ticks := by
  rw [h.counter, advance_toNat_counter, Nat.mod_eq_of_lt (Nat.lt_succ_of_le hroom)]

/-- The counter does not tell ticks apart that differ by whole turns. -/
theorem Moved.add_iff (h : before.Moved (ticks + more) after) (other : Nat) :
    before.Moved (ticks + other) after ↔ more ≡ other [MOD before.info.maxCount.toNat + 1] := by
  have hcounter : after.counter = (before.advance (ticks + other)).counter ↔
      more ≡ other [MOD before.info.maxCount.toNat + 1] := by
    rw [h.counter, ← UInt32.toNat_inj, advance_toNat_counter, advance_toNat_counter,
      ← Nat.add_assoc, ← Nat.add_assoc]
    exact ⟨Nat.ModEq.add_left_cancel' _, Nat.ModEq.add_left _⟩
  exact ⟨fun hother => hcounter.mp hother.counter,
    fun hmod => ⟨h.info, h.readStep, h.readLimit, hcounter.mpr hmod⟩⟩

/-- Some ticks or one more. -/
theorem Moved.or_one_more_iff (h : before.Moved (ticks + more) after) :
    before.Moved ticks after ∨ before.Moved (ticks + 1) after ↔
      more % (before.info.maxCount.toNat + 1) ≤ 1 := by
  have hnone : before.Moved ticks after ↔ more % (before.info.maxCount.toNat + 1) = 0 :=
    h.add_iff 0
  have hone : before.Moved (ticks + 1) after ↔ more % (before.info.maxCount.toNat + 1) =
      1 % (before.info.maxCount.toNat + 1) := h.add_iff 1
  rw [hnone, hone]
  -- a counter without bits stands still, and every move of it is none
  rcases Nat.eq_zero_or_pos before.info.maxCount.toNat with hzero | hpos
  · simp [hzero, Nat.mod_one]
  · rw [Nat.mod_eq_of_lt (Nat.succ_lt_succ hpos)]
    omega

/-- The whole ticks of `cycles` cycles of work. -/
def wholeTicks (clocks : Clocks) (cycles : UInt32) : Nat :=
  cycles.toNat * clocks.info.hz.toNat / clocks.cpuHz.toNat

/-- The ticks that work adds to its own, out of what was carried over to it. -/
def surplus (clocks : Clocks) (cycles : UInt32) : Nat :=
  (cycles.toNat * clocks.info.hz.toNat % clocks.cpuHz.toNat + clocks.carried) / clocks.cpuHz.toNat

theorem spin_moves (hcarried : clocks.carried < Word.span32) (hcpu : 1 ≤ clocks.cpuHz.toNat)
    (cycles : UInt32) : ∃ next, clocks.spin cycles = .ok next ∧
      clocks.Moved (clocks.wholeTicks cycles + clocks.surplus cycles) next := by
  have hsplit : (cycles.toNat * clocks.info.hz.toNat + clocks.carried) / max clocks.cpuHz.toNat 1 =
      clocks.wholeTicks cycles + clocks.surplus cycles := by
    rw [Nat.max_eq_left hcpu, wholeTicks, surplus]
    conv_lhs => rw [← Nat.div_add_mod (cycles.toNat * clocks.info.hz.toNat) clocks.cpuHz.toNat]
    rw [Nat.add_assoc, Nat.mul_add_div hcpu]
  exact ⟨_, spin_eq hcarried cycles, rfl, rfl, rfl, hsplit ▸ rfl⟩

/-- What is less than a tick adds at most one. -/
theorem surplus_le_one (hcpu : 1 ≤ clocks.cpuHz.toNat)
    (hcarried : clocks.carried ≤ clocks.cpuHz.toNat) : clocks.surplus cycles ≤ 1 := by
  have hrest := Nat.mod_lt (cycles.toNat * clocks.info.hz.toNat) hcpu
  refine Nat.le_of_lt_succ ((Nat.div_lt_iff_lt_mul hcpu).mpr ?_)
  omega

/-- **Work after any history** moves the counter by the whole ticks of its cycles and a surplus.
That comes to the whole ticks or one more exactly if the surplus is at most one, up to whole turns
of the counter. So it is if the last work was done at the frequency of this one or below. -/
theorem spin_after_calls (hfresh : clocks.carried = 0) (history : List ClockCall)
    (cycles : UInt32) :
    ∃ now, clocks.calls history = .ok now ∧ now.info = clocks.info ∧
      (1 ≤ now.cpuHz.toNat → ∃ next, now.spin cycles = .ok next ∧
        now.Moved (now.wholeTicks cycles + now.surplus cycles) next ∧
        (now.Moved (now.wholeTicks cycles) next ∨ now.Moved (now.wholeTicks cycles + 1) next ↔
          now.surplus cycles % (now.info.maxCount.toNat + 1) ≤ 1) ∧
        (ClockCall.lastPace clocks.cpuHz 1 history ≤ now.cpuHz.toNat → now.surplus cycles ≤ 1)) := by
  have hstart : clocks.CarriesBelow 1 := ⟨by omega, by decide⟩
  obtain ⟨now, hnow, hinfo, hcarries⟩ := hstart.calls history
  refine ⟨now, hnow, hinfo, fun hcpu => ?_⟩
  obtain ⟨next, hnext, hmoved⟩ := spin_moves hcarries.fits hcpu cycles
  have hrest : ClockCall.lastPace clocks.cpuHz 1 history ≤ now.cpuHz.toNat →
      now.surplus cycles ≤ 1 := fun hslow =>
    surplus_le_one hcpu (Nat.le_trans (Nat.le_of_lt hcarries.carried) hslow)
  exact ⟨next, hnext, hmoved, hmoved.or_one_more_iff, hrest⟩

/-- A counter of one megahertz next to a CPU of 400. -/
def fourHundred : Clocks where
  info := { hz := 1000000, bits := 32 }
  cpuHz := 400000000

/-- Nearly a tick is carried over to a CPU that is twice as fast. -/
theorem spin_after_calls_sped_up :
    ∃ now next, fourHundred.calls [.spin 399, .switch 800000000] = .ok now ∧
      now.spin 401 = .ok next ∧
      (now.Moved (now.wholeTicks 401) next ∨ now.Moved (now.wholeTicks 401 + 1) next) := by
  obtain ⟨now, hnow, -, hwork⟩ :=
    @spin_after_calls fourHundred rfl [.spin 399, .switch 800000000] 401
  have hcpu : (fourHundred.calls [.spin 399, .switch 800000000]).map (·.cpuHz) =
      .ok 800000000 := by decide
  rw [hnow] at hcpu
  have hcpu : now.cpuHz = 800000000 := Except.ok.inj hcpu
  obtain ⟨next, hnext, -, hiff, hslow⟩ := hwork (by rw [hcpu]; decide)
  exact ⟨now, next, hnow, hnext,
    hiff.mpr (Nat.le_trans (Nat.mod_le _ _) (hslow (by rw [hcpu]; decide)))⟩

/-- Nearly a tick is carried over to a CPU that is half as fast, where it is nearly two. -/
theorem spin_slowed_down_moves_two :
    ∃ now next, fourHundred.calls [.spin 399, .switch 200000000] = .ok now ∧
      now.spin 199 = .ok next ∧
      ¬ (now.Moved (now.wholeTicks 199) next ∨ now.Moved (now.wholeTicks 199 + 1) next) := by
  refine ⟨_, _, rfl, rfl, ?_⟩
  rintro (hwhole | hmore)
  · exact absurd hwhole.counter (by decide)
  · exact absurd hmore.counter (by decide)

end Clocks

end FlashBench
