import FlashBench.Proofs.Clock.Running

/-!
# What a sample measures

A sample of running clocks that has room before the counter wraps **spans** the ticks of its work and
one more, for the reading it starts with (`sample_spans`). Its microseconds are those of the ticks up
to less than one: each reading is rounded down on its own (`Spans.micros_bounds`).

How many ticks the same work takes depends on the frequency of the CPU and on what the work before
has carried over, which is less than a tick at the frequency of that time.
-/

namespace FlashBench

/-! ## Work -/

/-- Ticks that `cycles` cycles of work take at a CPU frequency, after `carried` was carried over. -/
def workTicks (info : CounterInfo) (cpuHz cycles : UInt32) (carried : Nat) : Nat :=
  (cycles.toNat * info.hz.toNat + carried) / max cpuHz.toNat 1

/-- What the work carries over in turn. -/
def workCarried (info : CounterInfo) (cpuHz cycles : UInt32) (carried : Nat) : Nat :=
  (cycles.toNat * info.hz.toNat + carried) % max cpuHz.toNat 1

section Work

variable (info : CounterInfo) {cpuHz : UInt32} (hcpu : 1 ≤ cpuHz.toNat) (cycles : UInt32)
  {carried : Nat}

include hcpu

theorem workTicks_eq (carried : Nat) : workTicks info cpuHz cycles carried =
    (cycles.toNat * info.hz.toNat + carried) / cpuHz.toNat := by
  rw [workTicks, Nat.max_eq_left hcpu]

theorem workTicks_le {limit : Nat} (h : carried ≤ limit) : workTicks info cpuHz cycles carried ≤
    (cycles.toNat * info.hz.toNat + limit) / cpuHz.toNat := by
  rw [workTicks_eq info hcpu]
  exact Nat.div_le_div_right (Nat.add_le_add_left h _)

theorem workCarried_lt (carried : Nat) : workCarried info cpuHz cycles carried < cpuHz.toNat := by
  rw [workCarried, Nat.max_eq_left hcpu]
  exact Nat.mod_lt _ hcpu

theorem workTicks_zero : workTicks info cpuHz cycles 0 =
    cycles.toNat * info.hz.toNat / cpuHz.toNat := workTicks_eq info hcpu cycles 0

/-- Work that finds less than a tick carried over takes at most one tick more. -/
theorem workTicks_bounds (hcarried : carried ≤ cpuHz.toNat) :
    workTicks info cpuHz cycles 0 ≤ workTicks info cpuHz cycles carried ∧
      workTicks info cpuHz cycles carried ≤ workTicks info cpuHz cycles 0 + 1 := by
  have hmost := workTicks_le info hcpu cycles hcarried
  rw [Nat.add_div_right _ hcpu, ← workTicks_zero info hcpu] at hmost
  refine ⟨?_, hmost⟩
  rw [workTicks_eq info hcpu, workTicks_eq info hcpu]
  exact Nat.div_le_div_right (Nat.add_le_add_left (Nat.zero_le _) _)

end Work

namespace Clocks

variable {info : CounterInfo} {clocks : Clocks} {cpuHz : UInt32} {carried : Nat}

/-- Running clocks at a CPU frequency, with something carried over. -/
structure Paced (info : CounterInfo) (cpuHz : UInt32) (carried : Nat) (clocks : Clocks) : Prop where
  running : clocks.Running info
  cpuHz_eq : clocks.cpuHz = cpuHz
  carried_eq : clocks.carried = carried

/-- Work moves the counter by its ticks. -/
theorem Paced.spin (h : clocks.Paced info cpuHz carried) (cycles : UInt32) :
    ∃ next, clocks.spin cycles = .ok next ∧
      next.Paced info cpuHz (workCarried info cpuHz cycles carried) ∧
      next.counter.toNat =
        (clocks.counter.toNat + workTicks info cpuHz cycles carried) %
          (info.maxCount.toNat + 1) := by
  obtain ⟨next, hnext, hrunning⟩ := h.running.spin cycles
  have hspin := spin_eq h.running.carried cycles
  rw [hnext] at hspin
  cases hspin
  refine ⟨_, hnext, ⟨hrunning, h.cpuHz_eq, ?_⟩, ?_⟩
  · rw [workCarried, ← h.running.info_eq, ← h.cpuHz_eq, ← h.carried_eq]
  · refine (advance_toNat_counter _ _).trans ?_
    rw [workTicks, ← h.running.info_eq, ← h.cpuHz_eq, ← h.carried_eq]

/-- The counter of an emulator that was just made stands where it was told to. -/
theorem startingAt_paced (info : CounterInfo) (cpuHz start : UInt32) :
    (({ info, cpuHz } : Clocks).startingAt start).Paced info cpuHz 0 := by
  refine ⟨⟨rfl, ?_, rfl, rfl, Nat.two_pow_pos 32⟩, rfl, rfl⟩
  rw [UInt32.le_iff_toNat_le]
  show (start &&& info.maxCount).toNat ≤ _
  rw [UInt32.toNat_and]
  exact Nat.and_le_right

end Clocks

/-! ## Samples -/

/-- How much two roundings lose, and gain, together. -/
theorem div_sub_div_bounds (a d : Nat) {m : Nat} (hm : 0 < m) :
    ((a + d) / m - a / m) * m < d + m ∧ d < ((a + d) / m - a / m) * m + m := by
  have hfirst := Nat.div_add_mod' a m
  have hsecond := Nat.div_add_mod' (a + d) m
  have hle : a / m * m ≤ (a + d) / m * m :=
    Nat.mul_le_mul_right _ (Nat.div_le_div_right (Nat.le_add_right a d))
  have hfirst_lt := Nat.mod_lt a hm
  have hsecond_lt := Nat.mod_lt (a + d) hm
  rw [Nat.sub_mul]
  omega

namespace TimerSample

variable {info : CounterInfo} {ticks : Nat} {sample : TimerSample}

/-- The second reading is one more than `ticks` after the first, and not beyond a wrap. -/
structure Spans (info : CounterInfo) (ticks : Nat) (sample : TimerSample) : Prop where
  info_eq : sample.info = info
  stop_eq : sample.stop.toNat = sample.start.toNat + 1 + ticks

theorem Spans.start_le_stop (h : sample.Spans info ticks) : sample.start ≤ sample.stop := by
  rw [UInt32.le_iff_toNat_le, h.stop_eq]
  omega

/-- **The microseconds of a sample** are off by less than one. -/
theorem Spans.micros_bounds (h : sample.Spans info ticks) (hhz : 0 < info.hz.toNat) :
    sample.micros * info.hz.toNat < (ticks + 1) * 1000000 + info.hz.toNat ∧
      (ticks + 1) * 1000000 < sample.micros * info.hz.toNat + info.hz.toNat := by
  have hmoves : info.hz ≠ 0 := fun heq => by
    rw [heq] at hhz
    exact absurd hhz (Nat.lt_irrefl 0)
  have hstop : sample.stop.toNat * 1000000 =
      sample.start.toNat * 1000000 + (ticks + 1) * 1000000 := by
    rw [h.stop_eq]
    omega
  unfold micros ticksToMicros
  rw [if_pos h.start_le_stop, h.info_eq, if_neg hmoves, if_neg hmoves, hstop]
  exact div_sub_div_bounds _ _ hhz

end TimerSample

/-! ## Taking samples -/

section Timer

variable {σ : Type} {get : σ → Clocks} {put : Clocks → σ → σ} {quiet : σ → Prop}
  {info : CounterInfo} {cpuHz : UInt32} {carried : Nat} {timer : CycleTimer σ}

/-- Hardware that is `quiet`, with paced clocks. -/
def Clocks.PacedIn (get : σ → Clocks) (quiet : σ → Prop) (info : CounterInfo) (carried : Nat)
    (cpuHz : UInt32) (s : σ) : Prop :=
  quiet s ∧ (get s).Paced info cpuHz carried

/-- What is known of the counter is known of the value it stands at. -/
theorem Clocks.counter_leads {α : Type} {act : Act σ α} {P : σ → Prop} {Q : α → σ → Prop}
    {S : Fault → σ → Prop} (q : UInt32 → Prop)
    (h : ∀ now, q now → Act.Leads (fun s => P s ∧ (get s).counter = now) act Q S) :
    Act.Leads (fun s => P s ∧ q (get s).counter) act Q S :=
  fun world ⟨hP, hq⟩ => h _ hq world ⟨hP, rfl⟩

variable (hput : ∀ clocks s, get (put clocks s) = clocks)
  (hquiet : ∀ clocks s, quiet s → quiet (put clocks s))

include hput hquiet

/-- A reading moves the counter and nothing else. -/
theorem Ticker.ofClocks_read_keeps :
    Act.Keeps (fun s => quiet s ∧ (get s).cpuHz = cpuHz ∧ (get s).carried = carried)
      (ofClocks get put).read := by
  refine .bind .state fun s => .ite (fun _ => ?_) fun _ => .fault _
  refine .changeGet _ fun s hs => ?_
  rw [hput]
  exact ⟨hquiet _ _ hs.1, hs.2⟩

theorem Ticker.ofClocks_read_paced (now : UInt32) :
    Act.Leads
      (fun s => Clocks.PacedIn get quiet info carried cpuHz s ∧ (get s).counter = now)
      (ofClocks get put).read
      (fun reading s => reading = now ∧ Clocks.PacedIn get quiet info carried cpuHz s ∧
        (get s).counter = info.next now) fun _ _ => False := by
  refine ((ofClocks_read_leads hput).and_keeps (ofClocks_read_keeps hput hquiet)).mono
    (fun s hs => ⟨⟨hs.1.2.running, hs.2⟩, hs.1.1, hs.1.2.cpuHz_eq, hs.1.2.carried_eq⟩)
    (fun _ s hs => ?_) fun _ _ hs => hs.1
  obtain ⟨⟨hreading, hrunning, hnext⟩, hs, hcpuHz, hcarried⟩ := hs
  exact ⟨hreading, ⟨hs, hrunning, hcpuHz, hcarried⟩, hnext⟩

/-- Work changes what is carried over, and moves the counter as long as it takes. -/
theorem spinClocks_paced {now : UInt32} {cycles : UInt32}
    (hroom : now.toNat + workTicks info cpuHz cycles carried ≤ info.maxCount.toNat) :
    Act.Leads
      (fun s => Clocks.PacedIn get quiet info carried cpuHz s ∧ (get s).counter = now)
      (spinClocks get put cycles)
      (fun _ s => Clocks.PacedIn get quiet info (workCarried info cpuHz cycles carried) cpuHz s ∧
        (get s).counter.toNat = now.toNat + workTicks info cpuHz cycles carried)
      fun _ _ => False := by
  refine Act.Leads.state fun s ⟨⟨hs, hpaced⟩, hnow⟩ => ?_
  obtain ⟨next, hnext, hafter, hcounter⟩ := hpaced.spin cycles
  rw [hnow, Nat.mod_eq_of_lt (by omega)] at hcounter
  rw [hnext]
  refine .bind_ends (.checked _) (.change _ fun s' heq => ?_)
  rw [Clocks.PacedIn, hput, heq]
  exact ⟨⟨hquiet _ _ hs, hafter⟩, hcounter⟩

variable (hticker : timer.ticker = .ofClocks get put)

include hticker

/-- Protecting a window leaves the clocks at their pace, with the window ahead of them. -/
theorem CycleTimer.protect_paced {window : UInt32} (hwindow : window < info.maxCount)
    (hpatience : window.toNat < timer.patience) :
    Act.Leads (Clocks.PacedIn get quiet info carried cpuHz) (timer.protect window)
      (fun _ s => Clocks.PacedIn get quiet info carried cpuHz s ∧
        (get s).counter.toNat + window.toNat ≤ info.maxCount.toNat) fun _ _ => False := by
  have hkeeps : Act.Keeps
      (fun s => quiet s ∧ (get s).cpuHz = cpuHz ∧ (get s).carried = carried)
      (timer.protect window) := by
    unfold CycleTimer.protect
    rw [hticker]
    exact overflowProtect_keeps (.bind .state fun _ => .pure _)
      (Ticker.ofClocks_read_keeps hput hquiet) _ _
  refine ((CycleTimer.protect_leads hput hticker hwindow hpatience).and_keeps hkeeps).mono
    (fun s hs => ⟨hs.2.running, hs.1, hs.2.cpuHz_eq, hs.2.carried_eq⟩) (fun _ s hs => ?_)
    fun _ _ hs => hs.1
  obtain ⟨⟨hrunning, hroom⟩, hs, hcpuHz, hcarried⟩ := hs
  exact ⟨⟨hs, hrunning, hcpuHz, hcarried⟩, hroom⟩

/-- **A sample with room** spans the ticks of its work. -/
theorem CycleTimer.sample_spans (hspin : timer.spin = spinClocks get put) {window cycles : UInt32}
    (hroom : workTicks info cpuHz cycles carried + 1 ≤ window.toNat) :
    Act.Leads
      (fun s => Clocks.PacedIn get quiet info carried cpuHz s ∧
        (get s).counter.toNat + window.toNat ≤ info.maxCount.toNat)
      (timer.sample cycles)
      (fun sample s => sample.Spans info (workTicks info cpuHz cycles carried) ∧
        Clocks.PacedIn get quiet info (workCarried info cpuHz cycles carried) cpuHz s)
      fun _ _ => False := by
  refine Clocks.counter_leads (fun now => now.toNat + window.toNat ≤ info.maxCount.toNat)
    fun now hahead => ?_
  have hmax : now ≤ info.maxCount := UInt32.le_iff_toNat_le.mpr (by omega)
  have hbelow : now ≠ info.maxCount := fun heq => by
    rw [heq] at hahead
    omega
  have hnext := CounterInfo.toNat_next hmax hbelow
  unfold CycleTimer.sample
  rw [hticker, hspin]
  refine .bind_ends (.read _ fun s hs => hs.1.2.running.info_eq) ?_
  refine .bind_value (Ticker.ofClocks_read_paced hput hquiet now) ?_
  refine (spinClocks_paced hput hquiet (by omega)).bind fun _ => ?_
  refine Clocks.counter_leads (fun later =>
    later.toNat = (info.next now).toNat + workTicks info cpuHz cycles carried) fun later hlater => ?_
  refine .bind_value (Ticker.ofClocks_read_paced hput hquiet later) ?_
  rw [CounterInfo.and_maxCount hmax,
    CounterInfo.and_maxCount (UInt32.le_iff_toNat_le.mpr (by omega))]
  exact .pure _ fun s hs => ⟨⟨rfl, by show later.toNat = now.toNat + 1 + _; omega⟩, hs.1⟩

end Timer

end FlashBench
