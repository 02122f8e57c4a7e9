import FlashBench.Clock.Scripted
import FlashBench.Device.Table
import FlashBench.Proofs.Validation.Bracket

/-!
# Every session is given back

Of the device nothing is known: each call may answer what it likes, and `free` may be refused. Still
the trace of a run has one of four shapes. The device was never asked, it refused, it is held and has
been used since, or it was given back, once and at last. Which of them it is follows from where the
run stands (`Validator.session_paired`).
-/

namespace FlashBench

variable {σ : Type}

namespace DeviceCall

/-- The device was asked for, and refused. -/
def Refused (calls : List DeviceCall) : Prop :=
  ∃ error, calls = [.init (.error error)]

/-- The device was taken first, and since then it was used only. -/
def Held (calls : List DeviceCall) : Prop :=
  ∃ uses : List DeviceCall, (∀ call ∈ uses, call.IsUse) ∧ calls = .init (.ok ()) :: uses

/-- The device was taken first, then used only, and given back at last. -/
def Returned (calls : List DeviceCall) : Prop :=
  ∃ (uses : List DeviceCall) (answer : Except FlashError Unit), (∀ call ∈ uses, call.IsUse) ∧
    calls = .init (.ok ()) :: uses ++ [.free answer]

/-- There is no session any more. -/
def Over (calls : List DeviceCall) : Prop := Refused calls ∨ Returned calls

theorem Held.use {calls : List DeviceCall} {call : DeviceCall} (huse : call.IsUse)
    (h : Held calls) : Held (calls ++ [call]) := by
  obtain ⟨uses, huses, rfl⟩ := h
  refine ⟨uses ++ [call], fun other hmem => ?_, rfl⟩
  rcases List.mem_append.mp hmem with hold | hnew
  · exact huses other hold
  · rw [List.mem_singleton.mp hnew]
    exact huse

theorem Held.free {calls : List DeviceCall} (h : Held calls) (answer : Except FlashError Unit) :
    Over (calls ++ [.free answer]) := by
  obtain ⟨uses, huses, rfl⟩ := h
  exact .inr ⟨uses, answer, huses, rfl⟩

end DeviceCall

open DeviceCall

/-- **Any device** leads through these shapes. -/
theorem Device.traced_brackets (device : Device σ) (timer : CycleTimer σ) :
    Brackets (fun traced => traced.calls = []) (fun traced => Held traced.calls)
      (fun traced => Over traced.calls) (fun _ => True) device.traced timer.traced := by
  -- nothing is known of the hardware
  have hinit : Attempt.Keeps (fun _ => True) device.init := Act.Keeps.const True _
  have hfree : Attempt.Keeps (fun _ => True) device.free := Act.Keeps.const True _
  have hheld : device.traced.Keeps (fun traced => True ∧ Held traced.calls) _ :=
    Device.traced_keeps device.keeps_const fun _ _ huse => Held.use huse
  have hbrackets : Brackets (fun traced => True ∧ traced.calls = [])
      (fun traced => True ∧ Held traced.calls) (fun traced => True ∧ Over traced.calls)
      (fun _ => True) device.traced timer.traced :=
    { init := (Attempt.answered_leads (T := (· = [])) hinit.leads
        (fun _ hnone => ⟨[], nofun, by rw [hnone]; rfl⟩)
        fun _ error hnone => .inl ⟨error, by rw [hnone]; rfl⟩).unless_fault
      opening := hheld.openingText.unless_fault
      uses := hheld
      free := (Attempt.answered_leads hfree.leads (fun _ hs => hs.free _)
        fun _ error hs => hs.free (.error error)).unless_fault
      samples := CycleTimer.traced_keeps timer.keeps_const
      rests := CycleTimer.traced_keeps timer.keeps_const
      stops := fun _ _ => trivial }
  simpa only [true_and] using hbrackets

/-- **Every session is given back.** After any number of events the device was never asked for, or it
refused and was left alone, or it is held, or it was given back, once and at last; there is no
session any more when the run is at the drift check or at its end. Dropping the run then, or driving
it to its end, gives a session back that it still has. -/
theorem Validator.session_paired (device : Device σ) (timer : CycleTimer σ)
    (config : ValidatorConfig) (events : Nat) (hardware : σ) (log : Log) {v : Validator}
    {now : World (Traced σ)}
    (hevents : (afterEvents device.traced timer.traced events { config }).runOn
      { state := { hardware }, log } = (.ok v, now)) :
    (now.state.calls = [] ∨ Held now.state.calls ∨ Over now.state.calls) ∧
      (v.state = .at .driftCheck ∨ v.isFinished = true → Over now.state.calls) ∧
      (∀ next, (v.drop device.traced).runOn now = (.ok (), next) →
        next.state.calls = [] ∨ Over next.state.calls) ∧
      ∀ report next, (v.run device.traced timer.traced).runOn now = (.ok report, next) →
        Over next.state.calls := by
  have hbrackets := device.traced_brackets timer
  have hstage := hbrackets.afterEvents events { config } { state := { hardware }, log } (.fresh rfl)
  rw [hevents] at hstage
  refine ⟨?_, fun hover => hstage.over hover, fun next hdrop => ?_, fun report next hrun => ?_⟩
  · rcases hstage.cases with ⟨_, hnone⟩ | ⟨_, hheld⟩ | ⟨_, hover⟩
    · exact .inl hnone
    · exact .inr (.inl hheld)
    · exact .inr (.inr hover)
  · have hleads := hbrackets.abandon v now hstage
    rw [hdrop] at hleads
    exact hleads.imp_left And.right
  · have hleads := hbrackets.run v now hstage
    rw [hrun] at hleads
    exact hleads

/-- A device without pages, whose geometry is refused. -/
def pagelessTable : SectorTable where
  start := 0x1000
  size := 32
  pageSize := 0
  entries := [⟨0x1000, 0x101F, 16⟩]

theorem Validator.session_paired_pagelessTable :
    ∃ v now, (afterEvents pagelessTable.device.traced (CycleTimer.standing 32 0).traced 2
        { config := {} }).runOn { state := { hardware := 0 } } = (.ok v, now) ∧
      v.isFinished = true ∧
      now.state.calls = [.init (.ok ()), .question, .free (.ok ())] ∧ Over now.state.calls := by
  obtain ⟨v, now, hevents, hfinished, hcalls⟩ : ∃ v now,
      (afterEvents pagelessTable.device.traced (CycleTimer.standing 32 0).traced 2
        { config := {} }).runOn { state := { hardware := 0 } } = (.ok v, now) ∧
      v.isFinished = true ∧ now.state.calls = [.init (.ok ()), .question, .free (.ok ())] :=
    ⟨_, _, rfl, rfl, rfl⟩
  have hpaired := Validator.session_paired _ _ {} 2 0 {} hevents
  exact ⟨v, now, hevents, hfinished, hcalls, hpaired.2.1 (.inr hfinished)⟩

end FlashBench
