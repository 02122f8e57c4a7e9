import FlashBench.Part.Rig
import FlashBench.Proofs.Part.Controller
import FlashBench.Proofs.Triple

/-!
# How often the driver polls

The driver on a rig that also counts the polls of the controller (`PolledRig`). The count is a
ghost: the counted driver goes the way of the driver, poll by poll, and without the count it is the
driver (`PolledRig.perform_counts`, `PolledRig.programPage_counts`). So the loop is looked at once,
and what is known of the counted driver is known of the driver (`PolledRig.AttemptCounts.ends`).

* **An operation that is done in time** takes a poll for every tick, and at least one
  (`PolledRig.perform_timely`).
* **An operation that is given up** has had all the polls there are, and the rest of its ticks is
  still to come (`PolledRig.perform_late`).
* **A controller that is busy** is not polled at all (`PolledRig.perform_busy`).

What happens to the clocks and the log on the way makes no difference: `Rig.Has` leaves everything
but the controller and the timeout open.
-/

namespace FlashBench

namespace Rig

variable {ctrl : Controller} {layout : FlashLayout} {timeout : UInt32}

/-- The controller and the timeout of the driver. -/
def Has (ctrl : Controller) (timeout : UInt32) (rig : Rig) : Prop :=
  rig.ctrl = ctrl ∧ rig.pollTimeout = timeout

theorem on_of_has (h : ctrl.On layout) : ∀ rig, Has ctrl timeout rig → rig.ctrl.On layout :=
  fun _ hrig => hrig.1 ▸ h

theorem medium_of_has : ∀ rig, Has ctrl timeout rig → rig.ctrl.medium = ctrl.medium :=
  fun _ hrig => congrArg Controller.medium hrig.1

/-! ## Steps on the controller -/

theorem ctrlNow_ends : Act.Ends (Has ctrl timeout) ctrlNow ctrl (Has ctrl timeout) :=
  .read _ fun _ h => h.1

theorem timeoutNow_ends : Act.Ends (Has ctrl timeout) timeoutNow timeout (Has ctrl timeout) :=
  .read _ fun _ h => h.2

theorem changeCtrl_ends (f : Controller → Controller) :
    Act.Ends (Has ctrl timeout) (changeCtrl f) () (Has (f ctrl) timeout) :=
  .change _ fun _ h => ⟨congrArg f h.1, h.2⟩

/-- A completion that switches the CPU clock leaves the controller alone. -/
theorem afterwards_ends (completion : Completion) :
    Act.Ends (Has ctrl timeout) (afterwards completion) () (Has ctrl timeout) := by
  cases completion with
  | programmed => exact .pure _
  | refused => exact .pure _
  | dropped => exact .note _ _
  | erased =>
      refine .state fun rig _ => ?_
      cases rig.ctrl.eraseClockHz with
      | none => exact .pure _
      | some hz => exact .bind (.note _ _) (.change _ fun _ h => h)

theorem poll_ends {completion : Option Completion} {next : Controller}
    (h : ctrl.poll = (completion, next)) :
    Act.Ends (Has ctrl timeout) poll () (Has next timeout) := by
  have hstep : Act.Ends (Has ctrl timeout)
      (Act.changeGet fun rig => (rig.ctrl.poll.1, { rig with ctrl := rig.ctrl.poll.2 }))
      completion (Has next timeout) :=
    .changeGet _ fun rig hrig => by
      rw [hrig.1, h]
      exact ⟨rfl, rfl, hrig.2⟩
  cases completion with
  | none => exact .bind hstep (.pure _)
  | some completion => exact .bind hstep (afterwards_ends completion)

theorem writeControl_ends (h : ctrl.isEnabled = true) (value : UInt32) :
    Act.Ends (Has ctrl timeout) (writeControl value) ()
      (Has (ctrl.writeControl value) timeout) := by
  unfold writeControl
  exact .bind ctrlNow_ends (.pos h (changeCtrl_ends _))

theorem pageCount_mul {len size : Nat} (hsize : 0 < size) (hdvd : size ∣ len) :
    pageCount len size * size = len := by
  obtain ⟨pages, rfl⟩ := hdvd
  have hcount : pageCount (size * pages) size = pages := by
    unfold pageCount
    rw [Nat.add_sub_assoc hsize, Nat.mul_add_div hsize, Nat.div_eq_of_lt (by omega), Nat.add_zero]
  rw [hcount, Nat.mul_comm]

theorem pageCount_self {size : Nat} (hsize : 0 < size) : pageCount size size = 1 :=
  Nat.eq_of_mul_eq_mul_right hsize
    ((pageCount_mul hsize (Nat.dvd_refl size)).trans (Nat.one_mul size).symm)

end Rig

/-- A rig, and how often its driver has polled the controller. -/
structure PolledRig where
  rig : Rig
  polls : Nat := 0

namespace PolledRig

variable {α β : Type} {ε : Type}

/-- An action of the rig that is not counted. -/
def uncounted (act : Act Rig α) : Act PolledRig α :=
  Act.zoom (·.rig) (fun rig polled => { polled with rig }) act

/-- The controller as it is. -/
def ctrlNow : Act PolledRig Controller := uncounted Rig.ctrlNow

/-- The poll timeout of the driver. -/
def timeoutNow : Act PolledRig UInt32 := uncounted Rig.timeoutNow

/-- Changes the controller. -/
def changeCtrl (f : Controller → Controller) : Act PolledRig Unit := uncounted (Rig.changeCtrl f)

/-- Writes the control register. -/
def writeControl (value : UInt32) : Act PolledRig Unit := uncounted (Rig.writeControl value)

/-- One controller tick, counted. -/
def poll : Act PolledRig Unit := do
  Act.change fun polled => { polled with polls := polled.polls + 1 }
  uncounted Rig.poll

/-- Polls until the operation at `address` is reported, at most `ticks` times. -/
def awaitCompletion (address : UInt32) : Nat → Attempt FlashError PolledRig Unit
  | 0 => ExceptT.mk (uncounted (Rig.awaitCompletion address 0).run)
  | ticks + 1 => do
    poll
    let status := (← ctrlNow).status
    if Register.done.read status ≠ 0 then
      changeCtrl fun ctrl => { ctrl with status := 0 }
    else
      let error := Register.error.read status
      if error ≠ 0 then
        changeCtrl fun ctrl => { ctrl with status := 0 }
        Attempt.note .error
          s!"flash operation at {Text.address address.toNat} failed with status {error}"
        throw .deviceFault
      else
        awaitCompletion address ticks

/-- Starts an operation and waits for it. -/
def perform (operation : FlashOperation) (address : UInt32) :
    Attempt FlashError PolledRig Unit := do
  unless (← ctrlNow).isEnabled do
    Attempt.note .error s!"flash controller still busy, cannot start {operation.label}"
    throw .hardwareTimeout
  changeCtrl fun ctrl => { ctrl with status := 0, address }
  writeControl operation.controlValue
  awaitCompletion address (← timeoutNow).toNat

/-- Programs the pages of `data` from page `index` on, at most `pages` of them. -/
def programPages (address : UInt32) (data : ByteArray) (pageSize : Nat) :
    Nat → Nat → Attempt FlashError PolledRig Unit
  | 0, _ => return ()
  | pages + 1, index => do
    let offset := index * pageSize
    changeCtrl (·.writePageBuffer (data.extract offset (offset + pageSize)))
    let target ← Attempt.checked (Word.fit32 (address.toNat + (Word.low32 offset).toNat))
    perform .programPage target
    programPages address data pageSize pages (index + 1)

/-- Programs all the pages of `data`. -/
def programPage (address : UInt32) (data : ByteArray) : Attempt FlashError PolledRig Unit := do
  let pageSize := (← ctrlNow).layout.pageSize.toNat
  programPages address data pageSize (Rig.pageCount data.size pageSize) 0

/-! ## Without the count -/

/-- The rig is as `P` has it after so many polls. -/
def At (P : Rig → Prop) (polls : Nat) (polled : PolledRig) : Prop :=
  P polled.rig ∧ polled.polls = polls

/-- The world without the count. -/
def forget (world : World PolledRig) : World Rig := { state := world.state.rig, log := world.log }

/-- The first action does the same as the second one, and counts. -/
def Counts (counted : Act PolledRig α) (act : Act Rig α) : Prop :=
  ∀ world, act.runOn (forget world) = ((counted.runOn world).1, forget (counted.runOn world).2)

namespace Counts

theorem uncounted (act : Act Rig α) : Counts (uncounted act) act :=
  fun _ => rfl

theorem poll : Counts poll Rig.poll :=
  fun _ => rfl

theorem pure (value : α) : Counts (pure value) (pure value) :=
  fun _ => rfl

theorem note (level : LogLevel) (text : String) :
    Counts (Act.note level text) (Act.note level text) :=
  fun _ => rfl

theorem checked (value : Except Fault α) : Counts (Act.checked value) (Act.checked value) := by
  cases value with
  | ok a => exact pure a
  | error fault => exact fun _ => rfl

theorem bind {counted : Act PolledRig α} {act : Act Rig α} {f : α → Act PolledRig β}
    {g : α → Act Rig β} (h : Counts counted act) (hf : ∀ a, Counts (f a) (g a)) :
    Counts (counted >>= f) (act >>= g) := by
  intro world
  rw [Act.runOn_bind, Act.runOn_bind, h world]
  rcases counted.runOn world with ⟨fault | a, next⟩
  · rfl
  · exact hf a next

theorem ite {c : Prop} [Decidable c] {x y : Act PolledRig α} {x' y' : Act Rig α} (hx : Counts x x')
    (hy : Counts y y') : Counts (if c then x else y) (if c then x' else y') := by
  by_cases hc : c
  · rwa [if_pos hc, if_pos hc]
  · rwa [if_neg hc, if_neg hc]

end Counts

/-- The same of attempts. -/
def AttemptCounts (counted : Attempt ε PolledRig α) (attempt : Attempt ε Rig α) : Prop :=
  Counts counted.run attempt.run

namespace AttemptCounts

theorem lift {counted : Act PolledRig α} {act : Act Rig α} (h : Counts counted act) :
    AttemptCounts (liftM counted : Attempt ε PolledRig α) (liftM act) := by
  show Counts (Except.ok <$> counted) (Except.ok <$> act)
  rw [map_eq_pure_bind, map_eq_pure_bind]
  exact h.bind fun _ => .pure _

theorem bind {counted : Attempt ε PolledRig α} {attempt : Attempt ε Rig α}
    {f : α → Attempt ε PolledRig β} {g : α → Attempt ε Rig β} (h : AttemptCounts counted attempt)
    (hf : ∀ a, AttemptCounts (f a) (g a)) : AttemptCounts (counted >>= f) (attempt >>= g) := by
  unfold AttemptCounts at h hf ⊢
  rw [ExceptT.run_bind, ExceptT.run_bind]
  refine h.bind fun outcome => ?_
  cases outcome with
  | ok a => exact hf a
  | error error => exact .pure _

theorem throw (error : ε) :
    AttemptCounts (throw error : Attempt ε PolledRig α) (throw error) :=
  Counts.pure _

theorem note (level : LogLevel) (text : String) :
    AttemptCounts (Attempt.note level text : Attempt ε PolledRig Unit) (Attempt.note level text) :=
  lift (.note level text)

/-- What is known of the counted attempt, from no polls on, is known of the attempt. -/
theorem ends {counted : Attempt ε PolledRig α} {attempt : Attempt ε Rig α} {outcome : Except ε α}
    {P Q : Rig → Prop} (h : AttemptCounts counted attempt)
    (hends : Attempt.Ends (At P 0) counted outcome fun polled => Q polled.rig) :
    Attempt.Ends P attempt outcome Q := by
  intro world hworld
  let start : World PolledRig := { state := { rig := world.state }, log := world.log }
  obtain ⟨next, hrun, hnext⟩ := hends start ⟨hworld, rfl⟩
  have hforgotten : attempt.run.runOn world = _ := h start
  rw [hrun] at hforgotten
  exact ⟨forget next, hforgotten, hnext⟩

/-- What is known of the attempt is known of the counted one, but for the count. -/
theorem counted {counted : Attempt ε PolledRig α} {attempt : Attempt ε Rig α}
    {outcome : Except ε α} {P Q : Rig → Prop} (h : AttemptCounts counted attempt)
    (hends : Attempt.Ends P attempt outcome Q) :
    Attempt.Ends (fun polled => P polled.rig) counted outcome fun polled => Q polled.rig := by
  intro world hworld
  obtain ⟨next, hrun, hnext⟩ := hends (forget world) hworld
  have hsame := (h world).symm.trans hrun
  rcases hcounted : counted.run.runOn world with ⟨answer, last⟩
  rw [hcounted] at hsame
  obtain ⟨rfl, rfl⟩ := Prod.mk.inj hsame
  exact ⟨last, rfl, hnext⟩

end AttemptCounts

theorem awaitCompletion_counts (address : UInt32) (ticks : Nat) :
    AttemptCounts (awaitCompletion address ticks) (Rig.awaitCompletion address ticks) := by
  induction ticks with
  | zero => exact Counts.uncounted _
  | succ ticks ih =>
      unfold awaitCompletion Rig.awaitCompletion
      refine .bind (.lift .poll) fun _ => .bind (.lift (.uncounted _)) fun ctrl => ?_
      refine Counts.ite (AttemptCounts.lift (.uncounted _)) (Counts.ite ?_ ih)
      exact AttemptCounts.bind (.lift (.uncounted _)) fun _ =>
        .bind (.note _ _) fun _ => .throw _

theorem perform_counts (operation : FlashOperation) (address : UInt32) :
    AttemptCounts (perform operation address) (Rig.perform operation address) := by
  unfold perform Rig.perform
  refine .bind (.lift (.uncounted _)) fun ctrl => ?_
  have hstart : AttemptCounts (do
      changeCtrl fun ctrl => { ctrl with status := 0, address }
      writeControl operation.controlValue
      awaitCompletion address (← timeoutNow).toNat) (do
      Rig.changeCtrl fun ctrl => { ctrl with status := 0, address }
      Rig.writeControl operation.controlValue
      Rig.awaitCompletion address (← Rig.timeoutNow).toNat) :=
    .bind (.lift (.uncounted _)) fun _ => .bind (.lift (.uncounted _)) fun _ =>
      .bind (.lift (.uncounted _)) fun _ => awaitCompletion_counts _ _
  exact Counts.ite hstart
    (AttemptCounts.bind (.note _ _) fun _ => .bind (.throw _) fun _ => hstart)

theorem programPages_counts (address : UInt32) (data : ByteArray) (pageSize pages index : Nat) :
    AttemptCounts (programPages address data pageSize pages index)
      (Rig.programPages address data pageSize pages index) := by
  induction pages generalizing index with
  | zero => exact Counts.pure _
  | succ pages ih =>
      exact .bind (.lift (.uncounted _)) fun _ => .bind (.lift (.checked _)) fun _ =>
        .bind (perform_counts _ _) fun _ => ih _

theorem programPage_counts (address : UInt32) (data : ByteArray) :
    AttemptCounts (programPage address data) (Rig.device.programPage address data) :=
  .bind (.lift (.uncounted _)) fun _ => programPages_counts _ _ _ _ _

/-! ## Counting -/

section Counting

variable {ctrl final next : Controller} {layout : FlashLayout} {timeout address : UInt32}
  {operation : FlashOperation} {P Q : Rig → Prop} {polls : Nat}

theorem uncounted_ends {act : Act Rig α} {a : α} (h : Act.Ends P act a Q) (polls : Nat) :
    Act.Ends (At P polls) (uncounted act) a (At Q polls) :=
  .of_leads (Act.Leads.zoom (Act.Leads.of_ends (S := fun _ _ => False) h) (fun _ hs => hs.1)
    (fun _ _ _ hs hq => ⟨hq.1, hq.2, hs.2⟩) fun _ _ _ _ hs => hs)

theorem ctrlNow_ends : Act.Ends (At (Rig.Has ctrl timeout) polls) ctrlNow ctrl
    (At (Rig.Has ctrl timeout) polls) :=
  uncounted_ends Rig.ctrlNow_ends polls

theorem changeCtrl_ends (f : Controller → Controller) :
    Act.Ends (At (Rig.Has ctrl timeout) polls) (changeCtrl f) ()
      (At (Rig.Has (f ctrl) timeout) polls) :=
  uncounted_ends (Rig.changeCtrl_ends f) polls

theorem poll_ends {completion : Option Completion} (h : ctrl.poll = (completion, next)) :
    Act.Ends (At (Rig.Has ctrl timeout) polls) poll () (At (Rig.Has next timeout) (polls + 1)) :=
  .bind (.change _ fun _ hs => ⟨hs.1, congrArg (· + 1) hs.2⟩)
    (uncounted_ends (Rig.poll_ends h) _)

/-- A poll that reports nothing is followed by the next one. -/
theorem awaitCompletion_silent {outcome : Except FlashError Unit} {R : PolledRig → Prop}
    {completion : Option Completion} {ticks : Nat} (hpoll : ctrl.poll = (completion, next))
    (hstatus : next.status = 0)
    (hrest : Attempt.Ends (At (Rig.Has next timeout) (polls + 1)) (awaitCompletion address ticks)
      outcome R) :
    Attempt.Ends (At (Rig.Has ctrl timeout) polls) (awaitCompletion address (ticks + 1)) outcome
      R := by
  have hdone : ¬ Register.done.read next.status ≠ 0 := by
    rw [hstatus]
    decide
  have herror : ¬ Register.error.read next.status ≠ 0 := by
    rw [hstatus]
    decide
  unfold awaitCompletion
  refine .bind (.lift (poll_ends hpoll)) (.bind (.lift ctrlNow_ends) ?_)
  exact .neg hdone (.neg herror hrest)

/-- A tick short of the last one. -/
theorem countdown (left : UInt32) (hleft : 1 < left.toNat) :
    1 < left ∧ (left - 1).toNat = left.toNat - 1 := by
  have hlt : 1 < left := UInt32.lt_iff_toNat_lt.mpr hleft
  exact ⟨hlt, UInt32.toNat_sub_of_le _ _ (UInt32.le_of_lt hlt)⟩

/-- **A countdown that ends in time** takes a poll for every tick. -/
theorem awaitCompletion_timely (base final : Controller) (hruns : base.stalled = false)
    (hstatus : base.status = 0)
    (hcomplete : ∀ busy, ∃ completion,
      ({ base with busy } : Controller).complete = (completion, final))
    (hdone : Register.done.read final.status ≠ 0) (ticks : Nat) (left : UInt32)
    (hticks : max 1 left.toNat ≤ ticks) (polls : Nat) :
    Attempt.Ends (At (Rig.Has { base with busy := some left } timeout) polls)
      (awaitCompletion address ticks) (.ok ())
      (At (Rig.Has { final with status := 0 } timeout) (polls + max 1 left.toNat)) := by
  induction ticks generalizing left polls with
  | zero => omega
  | succ ticks ih =>
      by_cases hleft : 1 < left.toNat
      · obtain ⟨hlt, hnext⟩ := countdown left hleft
        have hrest := ih (left - 1) (by omega) (polls + 1)
        rw [show polls + 1 + max 1 (left - 1).toNat = polls + max 1 left.toNat by omega] at hrest
        exact awaitCompletion_silent (Controller.poll_counts rfl hruns hlt) hstatus hrest
      · have hlast : ¬ 1 < left := fun hlt => hleft (UInt32.lt_iff_toNat_lt.mp hlt)
        obtain ⟨completion, hfinal⟩ := hcomplete (some left)
        rw [show max 1 left.toNat = 1 by omega]
        unfold awaitCompletion
        refine .bind (.lift (poll_ends (Controller.poll_completes rfl hruns hlast hfinal))) ?_
        exact .bind (.lift ctrlNow_ends) (.pos hdone (.lift (changeCtrl_ends _)))

/-- **A countdown that is given up** has had all the polls, and goes on from where it was left. One
that is held up stays where it is. -/
theorem awaitCompletion_late (base : Controller) (hstatus : base.status = 0) (ticks : Nat)
    (left : UInt32)
    (hlate : base.stalled = true ∨ ticks < max 1 left.toNat) (polls : Nat) :
    ∃ rest : UInt32,
      (base.stalled = false → max 1 rest.toNat = max 1 left.toNat - ticks) ∧
        Attempt.Ends (At (Rig.Has { base with busy := some left } timeout) polls)
          (awaitCompletion address ticks) (.error .hardwareTimeout)
          (At (Rig.Has { base with busy := some rest } timeout) (polls + ticks)) := by
  induction ticks generalizing left polls with
  | zero =>
      refine ⟨left, fun _ => rfl, uncounted_ends ?_ polls⟩
      exact Attempt.Ends.bind (.lift Rig.timeoutNow_ends) (.bind (.note _ _) (.throw _))
  | succ ticks ih =>
      have hcount : polls + 1 + ticks = polls + (ticks + 1) := by omega
      by_cases hstalled : base.stalled = true
      · obtain ⟨rest, _, hends⟩ := ih left (.inl hstalled) (polls + 1)
        rw [hcount] at hends
        exact ⟨rest, fun hruns => absurd hstalled (Bool.eq_false_iff.mp hruns),
          awaitCompletion_silent (Controller.poll_stalled hstalled) hstatus hends⟩
      · have hruns := Bool.eq_false_iff.mpr hstalled
        have hticks := hlate.resolve_left hstalled
        obtain ⟨hlt, hnext⟩ := countdown left (by omega)
        obtain ⟨rest, hrest, hends⟩ := ih (left - 1) (.inr (by omega)) (polls + 1)
        rw [hcount] at hends
        have hleft := hrest hruns
        exact ⟨rest, fun _ => by omega,
          awaitCompletion_silent (Controller.poll_counts rfl hruns hlt) hstatus hends⟩

/-- On a controller that is free an operation is started and waited for. -/
theorem perform_started {outcome : Except FlashError Unit} {R : PolledRig → Prop}
    (henabled : ctrl.isEnabled = true)
    (hawait : Attempt.Ends (At (Rig.Has { ctrl.started operation address with
        busy := some (ctrl.ticksOf (some operation)) } timeout) polls)
      (awaitCompletion address timeout.toNat) outcome R) :
    Attempt.Ends (At (Rig.Has ctrl timeout) polls) (perform operation address) outcome R := by
  have hstart : ({ ctrl with status := 0, address } : Controller).isEnabled = true := henabled
  unfold perform
  refine .bind (.lift ctrlNow_ends) (.pos henabled (.bind (.lift (changeCtrl_ends _)) ?_))
  refine .bind (.lift (uncounted_ends (Rig.writeControl_ends hstart _) polls)) ?_
  rw [Controller.writeControl_started henabled]
  exact .bind (.lift (uncounted_ends Rig.timeoutNow_ends polls)) hawait

/-- **An operation that is done in time** takes a poll for every tick. -/
theorem perform_timely (hpunctual : ctrl.Punctual operation timeout)
    (hyields : ctrl.Yields operation address final) (polls : Nat) :
    Attempt.Ends (At (Rig.Has ctrl timeout) polls) (perform operation address) (.ok ())
      (At (Rig.Has { final with status := 0 } timeout)
        (polls + max 1 (ctrl.ticksOf (some operation)).toNat)) :=
  perform_started hpunctual.enabled (awaitCompletion_timely (ctrl.started operation address) _
    hpunctual.runs rfl hyields.complete hyields.done _ _ hpunctual.ticks polls)

/-- **An operation that is given up** has had all the polls, and is still in flight. -/
theorem perform_late (henabled : ctrl.isEnabled = true)
    (hlate : ¬ ctrl.Punctual operation timeout) (polls : Nat) :
    ∃ rest : UInt32,
      (ctrl.stalled = false →
        max 1 rest.toNat = max 1 (ctrl.ticksOf (some operation)).toNat - timeout.toNat) ∧
      Attempt.Ends (At (Rig.Has ctrl timeout) polls) (perform operation address)
        (.error .hardwareTimeout)
        (At (Rig.Has { ctrl.started operation address with busy := some rest } timeout)
          (polls + timeout.toNat)) := by
  have hcause : ctrl.stalled = true ∨
      timeout.toNat < max 1 (ctrl.ticksOf (some operation)).toNat := by
    by_cases hstalled : ctrl.stalled = true
    · exact .inl hstalled
    · exact .inr (Nat.lt_of_not_le fun hticks =>
        hlate ⟨henabled, Bool.eq_false_iff.mpr hstalled, hticks⟩)
  obtain ⟨rest, hrest, hends⟩ :=
    awaitCompletion_late (ctrl.started operation address) rfl _ _ hcause polls
  exact ⟨rest, hrest, perform_started henabled hends⟩

/-- **A controller that is still busy** refuses an operation without being polled. -/
theorem perform_busy (hdisabled : ctrl.isEnabled = false) (polls : Nat) :
    Attempt.Ends (At (Rig.Has ctrl timeout) polls) (perform operation address)
      (.error .hardwareTimeout) (At (Rig.Has ctrl timeout) polls) := by
  unfold perform
  refine .bind (.lift ctrlNow_ends) (.neg (Bool.eq_false_iff.mp hdisabled) ?_)
  exact .bind (.note _ _) (.bind_error (.throw _))

/-- **The first page** is loaded before anything is asked of the controller. A refusal of its
program ends the whole, and so does the end of the data. -/
theorem programPage_first {data : ByteArray} {outcome : Except FlashError Unit}
    {R : PolledRig → Prop} (hpage : 0 < ctrl.layout.pageSize.toNat) (hsome : data.size ≠ 0)
    (hlast : (∃ error, outcome = .error error) ∨ data.size = ctrl.layout.pageSize.toNat)
    (hperform : Attempt.Ends
      (At (Rig.Has (ctrl.writePageBuffer (data.extract 0 ctrl.layout.pageSize.toNat)) timeout)
        polls)
      (perform .programPage address) outcome R) :
    Attempt.Ends (At (Rig.Has ctrl timeout) polls) (programPage address data) outcome R := by
  obtain ⟨pages, hpages⟩ :
      ∃ pages, Rig.pageCount data.size ctrl.layout.pageSize.toNat = pages + 1 :=
    Nat.exists_eq_succ_of_ne_zero (Nat.ne_of_gt (Nat.div_pos (by omega) hpage))
  have htarget : Word.fit32 (address.toNat + (Word.low32 0).toNat) = .ok address := by
    rw [show (Word.low32 0).toNat = 0 from rfl, Nat.add_zero, Word.fit32_of_lt address.toNat_lt]
    exact congrArg Except.ok (UInt32.ofNat_toNat)
  refine .bind (.lift ctrlNow_ends) ?_
  simp only [hpages, programPages, Nat.zero_mul, Nat.zero_add]
  rw [htarget]
  refine .bind (.lift (changeCtrl_ends _)) (.bind (.checked _) ?_)
  rcases hlast with ⟨error, rfl⟩ | hone
  · exact .bind_error hperform
  · obtain rfl : pages = 0 := by
      rw [hone, Rig.pageCount_self hpage] at hpages
      exact (Nat.succ.inj hpages).symm
    cases outcome with
    | ok _ => exact .bind hperform (.pure _)
    | error error => exact .bind_error hperform

end Counting

end PolledRig

end FlashBench
