import FlashBench.Device.Basic

/-!
# Outcomes of actions

`Act.Ends pre act value post` says that an action, started in **any** state that satisfies `pre`,
ends without a fault, answers `value`, and leaves a state that satisfies `post`, whatever the log
shows. `Attempt.Ends` is the same for an action that may be refused: its outcome is a value or a
refusal.

* **Composition** (`Ends.bind`): the state one step leaves is the state the next one starts in.
* **Refusals** (`Ends.bind_error`): the first refusal is the outcome of the whole.
* **Inversion** (`runOn_bind_eq_ok`): what a run answered, its steps answered one after the other.
* **Decisions** (`Decides`): an attempt that always ends, with a value exactly under a condition.
* **States** (`Ends.state`): a step may look at the state, as long as its answer is the same in all
  the states in question.
-/

namespace FlashBench

variable {σ τ α β ε : Type} {P Q R : σ → Prop}

/-- A message does not change which messages are written. -/
theorem Log.level_write (log : Log) (level : LogLevel) (text : String) :
    (log.write level text).level = log.level := by
  unfold Log.write
  split <;> rfl

namespace Act

/-- From every state that satisfies `pre` the action ends with `value` and leaves a state that
satisfies `post`. -/
def Ends (pre : σ → Prop) (act : Act σ α) (value : α) (post : σ → Prop) : Prop :=
  ∀ world, pre world.state → ∃ next, act.runOn world = (.ok value, next) ∧ post next.state

theorem runOn_bind (act : Act σ α) (f : α → Act σ β) (world : World σ) :
    (act >>= f).runOn world =
      match act.runOn world with
      | (.ok value, next) => (f value).runOn next
      | (.error fault, next) => (.error fault, next) := by
  unfold runOn
  simp only [ExceptT.run_bind, StateT.run_bind]
  rcases act.run.run world with ⟨outcome, next⟩
  cases outcome <;> rfl

theorem runOn_map (f : α → β) (act : Act σ α) (world : World σ) :
    (f <$> act).runOn world = ((act.runOn world).1.map f, (act.runOn world).2) := by
  rw [map_eq_pure_bind, runOn_bind]
  rcases act.runOn world with ⟨fault | value, next⟩ <;> rfl

/-- What a sequence of two steps answered, the second step answered in the state the first one
left. -/
theorem runOn_bind_eq_ok {act : Act σ α} {f : α → Act σ β} {b : β} {world last : World σ} :
    (act >>= f).runOn world = (.ok b, last) ↔
      ∃ a next, act.runOn world = (.ok a, next) ∧ (f a).runOn next = (.ok b, last) := by
  rw [runOn_bind]
  constructor
  · intro h
    split at h
    · rename_i a next hrun
      exact ⟨a, next, hrun, h⟩
    · cases h
  · rintro ⟨a, next, hrun, h⟩
    rw [hrun]
    exact h

/-- What is told of the value of a run is told of a run that returns. -/
theorem runOn_of_map {act : Act σ α} {world : World σ} {f : α → β} {b : β}
    (h : (act.runOn world).1.toOption.map f = some b) :
    ∃ a next, act.runOn world = (.ok a, next) ∧ f a = b := by
  rcases hrun : act.runOn world with ⟨fault | a, next⟩
  · rw [hrun] at h
    cases h
  · rw [hrun] at h
    exact ⟨a, next, rfl, Option.some.inj h⟩

namespace Ends

theorem pure (value : α) : Ends P (pure value) value P :=
  fun world hP => ⟨world, rfl, hP⟩

theorem pre {act : Act σ α} {a : α} (h : Ends P act a Q) (hP : ∀ s, R s → P s) :
    Ends R act a Q :=
  fun world hR => h world (hP _ hR)

theorem post {act : Act σ α} {a : α} (h : Ends P act a Q) (hQ : ∀ s, Q s → R s) :
    Ends P act a R := by
  intro world hP
  obtain ⟨next, hrun, hnext⟩ := h world hP
  exact ⟨next, hrun, hQ _ hnext⟩

theorem bind {act : Act σ α} {f : α → Act σ β} {a : α} {b : β}
    (h : Ends P act a Q) (hf : Ends Q (f a) b R) : Ends P (act >>= f) b R := by
  intro world hP
  obtain ⟨next, hrun, hQ⟩ := h world hP
  obtain ⟨last, hlast, hR⟩ := hf next hQ
  exact ⟨last, by rw [runOn_bind, hrun]; exact hlast, hR⟩

/-- An answer that is only used to form the value. -/
theorem map {act : Act σ α} {a : α} (f : α → β) (h : Ends P act a Q) :
    Ends P (f <$> act) (f a) Q := by
  rw [map_eq_pure_bind]
  exact h.bind (pure (f a))

theorem pos {c : Prop} [Decidable c] {x y : Act σ α} {a : α} (hc : c) (h : Ends P x a Q) :
    Ends P (if c then x else y) a Q := by
  rwa [if_pos hc]

theorem neg {c : Prop} [Decidable c] {x y : Act σ α} {a : α} (hc : ¬ c) (h : Ends P y a Q) :
    Ends P (if c then x else y) a Q := by
  rwa [if_neg hc]

/-- An answer that is the same in every state of `pre`. -/
theorem read (f : σ → α) {a : α} (h : ∀ s, P s → f s = a) :
    Ends P (do return f (← state)) a P :=
  fun world hP => ⟨world, by rw [← h _ hP]; rfl, hP⟩

/-- A step that depends on the state in a way the value does not. -/
theorem state {f : σ → Act σ β} {b : β} (h : ∀ s, P s → Ends P (f s) b R) :
    Ends P (do f (← state)) b R := by
  intro world hP
  rw [runOn_bind]
  exact h world.state hP world hP

theorem change (f : σ → σ) (h : ∀ s, P s → Q (f s)) : Ends P (change f) () Q :=
  fun _ hP => ⟨_, rfl, h _ hP⟩

theorem changeGet (f : σ → α × σ) {a : α} (h : ∀ s, P s → (f s).1 = a ∧ Q (f s).2) :
    Ends P (changeGet f) a Q := by
  intro world hP
  obtain ⟨rfl, hQ⟩ := h world.state hP
  exact ⟨_, rfl, hQ⟩

theorem note (level : LogLevel) (text : String) : Ends P (note level text) () P :=
  fun _ hP => ⟨_, rfl, hP⟩

theorem checked (value : α) : Ends P (checked (.ok value)) value P :=
  pure value

end Ends

end Act

namespace Attempt

theorem runOn_bind_eq_ok {attempt : Attempt ε σ α} {f : α → Attempt ε σ β} {b : β}
    {world last : World σ} :
    (attempt >>= f).run.runOn world = (.ok (.ok b), last) ↔
      ∃ a next, attempt.run.runOn world = (.ok (.ok a), next) ∧
        (f a).run.runOn next = (.ok (.ok b), last) := by
  rw [ExceptT.run_bind, Act.runOn_bind_eq_ok]
  constructor
  · rintro ⟨outcome, next, hrun, h⟩
    cases outcome with
    | ok a => exact ⟨a, next, hrun, h⟩
    | error error => cases h
  · rintro ⟨a, next, hrun, h⟩
    exact ⟨.ok a, next, hrun, h⟩

theorem runOn_checked_eq_ok {value : Except Fault α} {a : α} {world next : World σ}
    (h : (checked value : Attempt ε σ α).run.runOn world = (.ok (.ok a), next)) :
    value = .ok a := by
  cases value with
  | error fault => cases h
  | ok b =>
      cases h
      rfl

/-- From every state that satisfies `pre` the attempt ends with `outcome`, a value or a refusal, and
leaves a state that satisfies `post`. -/
def Ends (pre : σ → Prop) (attempt : Attempt ε σ α) (outcome : Except ε α) (post : σ → Prop) :
    Prop :=
  Act.Ends pre attempt.run outcome post

namespace Ends

theorem pure (value : α) : Ends P (pure value : Attempt ε σ α) (.ok value) P :=
  Act.Ends.pure _

theorem throw (error : ε) : Ends P (throw error : Attempt ε σ α) (.error error) P :=
  Act.Ends.pure _

theorem pre {attempt : Attempt ε σ α} {outcome : Except ε α} (h : Ends P attempt outcome Q)
    (hP : ∀ s, R s → P s) : Ends R attempt outcome Q :=
  Act.Ends.pre h hP

theorem post {attempt : Attempt ε σ α} {outcome : Except ε α} (h : Ends P attempt outcome Q)
    (hQ : ∀ s, Q s → R s) : Ends P attempt outcome R :=
  Act.Ends.post h hQ

theorem bind {attempt : Attempt ε σ α} {f : α → Attempt ε σ β} {a : α} {outcome : Except ε β}
    (h : Ends P attempt (.ok a) Q) (hf : Ends Q (f a) outcome R) :
    Ends P (attempt >>= f) outcome R := by
  unfold Ends at h hf ⊢
  rw [ExceptT.run_bind]
  exact h.bind hf

theorem bind_error {attempt : Attempt ε σ α} {f : α → Attempt ε σ β} {error : ε}
    (h : Ends P attempt (.error error) Q) : Ends P (attempt >>= f) (.error error) Q := by
  unfold Ends at h ⊢
  rw [ExceptT.run_bind]
  exact h.bind (Act.Ends.pure _)

/-- What comes after a success and does nothing but answer. -/
theorem answer {attempt : Attempt ε σ α} {outcome : Except ε α} (f : α → β)
    (h : Ends P attempt outcome Q) :
    Ends P (attempt >>= fun a => Pure.pure (f a)) (outcome.map f) Q := by
  cases outcome with
  | ok a => exact .bind h (.pure (f a))
  | error error => exact .bind_error h

theorem lift {act : Act σ α} {a : α} (h : Act.Ends P act a Q) :
    Ends P (liftM act : Attempt ε σ α) (.ok a) Q :=
  h.map Except.ok

theorem pos {c : Prop} [Decidable c] {x y : Attempt ε σ α} {outcome : Except ε α} (hc : c)
    (h : Ends P x outcome Q) : Ends P (if c then x else y) outcome Q := by
  rwa [if_pos hc]

theorem neg {c : Prop} [Decidable c] {x y : Attempt ε σ α} {outcome : Except ε α} (hc : ¬ c)
    (h : Ends P y outcome Q) : Ends P (if c then x else y) outcome Q := by
  rwa [if_neg hc]

/-- A guard on two values that must be equal, and are. -/
theorem equal {γ : Type} [DecidableEq γ] {a b : γ} {x y : Attempt ε σ α} {outcome : Except ε α}
    (hab : a = b) (h : Ends P y outcome Q) : Ends P (if a ≠ b then x else y) outcome Q :=
  neg (not_not_intro hab) h

/-- A guard that refuses before anything else is done. -/
theorem refuse {c : Prop} [Decidable c] {error : ε} {f : α → Attempt ε σ β}
    {y : Attempt ε σ β} (hc : c) :
    Ends P (if c then (throwThe ε error : Attempt ε σ α) >>= f else y) (.error error) P :=
  pos hc (bind_error (throw error))

theorem note (level : LogLevel) (text : String) :
    Ends P (note level text : Attempt ε σ Unit) (.ok ()) P :=
  lift (Act.Ends.note level text)

theorem checked (value : α) : Ends P (checked (.ok value) : Attempt ε σ α) (.ok value) P :=
  lift (Act.Ends.checked value)

end Ends

/-- From every state of `inv` the attempt ends and keeps `inv`, and it has a value exactly when
`accepts` says so. -/
def Decides (inv : σ → Prop) (attempt : Attempt ε σ α) (accepts : α → Prop) : Prop :=
  ∃ outcome, Ends inv attempt outcome inv ∧ ∀ value, outcome = .ok value ↔ accepts value

namespace Decides

variable {attempt : Attempt ε σ α} {accepts : α → Prop}

theorem refused {error : ε} (h : Ends P attempt (.error error) P)
    (hnone : ∀ value, ¬ accepts value) : Decides P attempt accepts :=
  ⟨_, h, fun value => ⟨nofun, fun haccepts => absurd haccepts (hnone value)⟩⟩

theorem accepted {value : α} (h : Ends P attempt (.ok value) P)
    (honly : ∀ other, value = other ↔ accepts other) : Decides P attempt accepts :=
  ⟨_, h, fun other => ⟨fun heq => (honly other).mp (Except.ok.inj heq),
    fun haccepts => congrArg Except.ok ((honly other).mpr haccepts)⟩⟩

theorem ends {value : α} (h : Decides P attempt accepts) (haccepts : accepts value) :
    Ends P attempt (.ok value) P := by
  obtain ⟨outcome, hends, hiff⟩ := h
  exact (hiff value).mpr haccepts ▸ hends

end Decides

end Attempt

end FlashBench
