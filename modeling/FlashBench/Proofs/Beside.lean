import FlashBench.Proofs.Triple

/-!
# Two runs side by side

`Act.Agrees pre act post stop` looks at an action twice. Started in two states that are related as
`pre` has it, it ends alike both times: with the same value, and states related as `post` has it, or
with the same fault, and states related as `stop` has it. So what the relation leaves open makes no
difference to what is answered.

The two logs need not hold the same, but they take messages of the same levels: what is done to put
a message together is then done both times or not at all.

* **Composition** (`Agrees.bind`): the relation that one step leads to is where the next one starts.
* **Looking at the state** (`Agrees.state`) is fine as long as only what the two states have in
  common is made use of.
* **What is known of each run** on its own is known of both (`Agrees.and_leads`), and an answer that
  is known is the answer of both (`Agrees.known`).
-/

namespace FlashBench

variable {σ α β ε : Type} {P : σ → Prop} {R R' S S' : σ → σ → Prop}

/-- Two worlds with related states, whose logs take the same messages. -/
structure World.Beside (R : σ → σ → Prop) (left right : World σ) : Prop where
  state : R left.state right.state
  level : left.log.level = right.log.level

theorem World.Beside.mono {left right : World σ} (h : left.Beside R right)
    (hR : ∀ s t, R s t → R' s t) : left.Beside R' right :=
  ⟨hR _ _ h.state, h.level⟩

namespace Act

variable {Q Q' : α → σ → σ → Prop} {T : β → σ → σ → Prop} {act : Act σ α}

/-- From worlds that are related as `pre` has it the action ends alike: with the same value and
states as `post` has them, or with the same fault and states as `stop` has them. -/
def Agrees (pre : σ → σ → Prop) (act : Act σ α) (post : α → σ → σ → Prop)
    (stop : σ → σ → Prop) : Prop :=
  ∀ left right : World σ, left.Beside pre right →
    match act.runOn left, act.runOn right with
    | (.ok a, left), (.ok b, right) => a = b ∧ left.Beside (post a) right
    | (.error f, left), (.error g, right) => f = g ∧ left.Beside stop right
    | _, _ => False

namespace Agrees

theorem mono (h : Agrees R act Q S) (hR : ∀ s t, R' s t → R s t) (hQ : ∀ a s t, Q a s t → Q' a s t)
    (hS : ∀ s t, S s t → S' s t) : Agrees R' act Q' S' := by
  intro left right hbeside
  have hrun := h left right (hbeside.mono hR)
  revert hrun
  rcases act.runOn left with ⟨_ | _, _⟩ <;> rcases act.runOn right with ⟨_ | _, _⟩
  · exact fun hrun => ⟨hrun.1, hrun.2.mono hS⟩
  · exact id
  · exact id
  · exact fun hrun => ⟨hrun.1, hrun.2.mono (hQ _)⟩

theorem pre (h : Agrees R act Q S) (hR : ∀ s t, R' s t → R s t) : Agrees R' act Q S :=
  h.mono hR (fun _ _ _ hs => hs) fun _ _ hs => hs

theorem post (h : Agrees R act Q S) (hQ : ∀ a s t, Q a s t → Q' a s t) : Agrees R act Q' S :=
  h.mono (fun _ _ hs => hs) hQ fun _ _ hs => hs

/-- Two runs that start alike answer the same. -/
theorem answers (h : Agrees R act Q S) {left right : World σ} (hbeside : left.Beside R right) :
    (act.runOn left).1 = (act.runOn right).1 := by
  have hrun := h left right hbeside
  revert hrun
  rcases act.runOn left with ⟨_ | _, _⟩ <;> rcases act.runOn right with ⟨_ | _, _⟩
  · exact fun hrun => congrArg Except.error hrun.1
  · exact False.elim
  · exact False.elim
  · exact fun hrun => congrArg Except.ok hrun.1

/-- What is no matter of the states holds throughout. -/
theorem of_and {p : Prop} (h : p → Agrees R act Q S) : Agrees (fun s t => p ∧ R s t) act Q S :=
  fun left right hbeside => h hbeside.state.1 left right ⟨hbeside.state.2, hbeside.level⟩

theorem pure (value : α) (h : ∀ s t, R s t → Q value s t) : Agrees R (pure value) Q S :=
  fun _ _ hbeside => ⟨rfl, hbeside.mono h⟩

/-- The relation stays as it is. -/
theorem same (value : α) : Agrees R (Pure.pure value) (fun _ => R) S :=
  pure value fun _ _ hs => hs

theorem fault (f : Fault) (h : ∀ s t, R s t → S s t) : Agrees R (fault f : Act σ α) Q S :=
  fun _ _ hbeside => ⟨rfl, hbeside.mono h⟩

theorem bind {f : α → Act σ β} (h : Agrees R act Q S) (hf : ∀ a, Agrees (Q a) (f a) T S) :
    Agrees R (act >>= f) T S := by
  intro left right hbeside
  have hrun := h left right hbeside
  rw [runOn_bind, runOn_bind]
  revert hrun
  rcases act.runOn left with ⟨_ | a, _⟩ <;> rcases act.runOn right with ⟨_ | _, _⟩
  · exact id
  · exact False.elim
  · exact False.elim
  · rintro ⟨rfl, hnext⟩
    exact hf a _ _ hnext

theorem ite {c : Prop} [Decidable c] {x y : Act σ α} (hx : c → Agrees R x Q S)
    (hy : ¬ c → Agrees R y Q S) : Agrees R (if c then x else y) Q S := by
  by_cases hc : c
  · rw [if_pos hc]
    exact hx hc
  · rw [if_neg hc]
    exact hy hc

/-- An action that is never started. -/
theorem absurd : Agrees (fun _ _ => False) act Q S :=
  fun _ _ hbeside => hbeside.state.elim

/-- A step that depends on what the two states have in common. -/
theorem state {f : σ → Act σ α} (hf : ∀ s t, R s t → f t = f s)
    (h : ∀ s t, R s t → Agrees R (f s) Q S) : Agrees R (do f (← state)) Q S := by
  intro left right hbeside
  have hrun := h _ _ hbeside.state left right hbeside
  rw [runOn_bind, runOn_bind]
  show match (f left.state).runOn left, (f right.state).runOn right with
    | (.ok a, left), (.ok b, right) => a = b ∧ left.Beside (Q a) right
    | (.error f, left), (.error g, right) => f = g ∧ left.Beside S right
    | _, _ => False
  rw [hf _ _ hbeside.state]
  exact hrun

/-- An answer that the two states have in common. -/
theorem read (f : σ → α) (h : ∀ s t, R s t → f s = f t) :
    Agrees R (do return f (← Act.state)) (fun _ => R) S :=
  fun _ _ hbeside => ⟨h _ _ hbeside.state, hbeside⟩

theorem change (f : σ → σ) (h : ∀ s t, R s t → R' (f s) (f t)) :
    Agrees R (change f) (fun _ => R') S :=
  fun _ _ hbeside => ⟨rfl, h _ _ hbeside.state, hbeside.level⟩

theorem changeGet (f : σ → α × σ) (h : ∀ s t, R s t → (f s).1 = (f t).1 ∧ R' (f s).2 (f t).2) :
    Agrees R (changeGet f) (fun _ => R') S :=
  fun _ _ hbeside => ⟨(h _ _ hbeside.state).1, (h _ _ hbeside.state).2, hbeside.level⟩

theorem checked (value : Except Fault α) (h : ∀ s t, R s t → S s t) :
    Agrees R (checked value) (fun _ => R) S := by
  cases value with
  | ok a => exact same a
  | error f => exact fault f h

theorem note (level : LogLevel) (text : String) : Agrees R (note level text) (fun _ => R) S :=
  fun left right hbeside => ⟨rfl, hbeside.state,
    (left.log.level_write level text).trans
      (hbeside.level.trans (right.log.level_write level text).symm)⟩

/-- A message is put together both times or not at all. -/
theorem noteWith {level : LogLevel} {message : Act σ String}
    (h : Agrees R message (fun _ => R) S) : Agrees R (noteWith level message) (fun _ => R) S := by
  intro left right hbeside
  have hshows : right.log.shows level = left.log.shows level := by
    unfold Log.shows
    rw [hbeside.level]
  have hwrite : Agrees R
      (if left.log.shows level = true then message >>= Act.note level else Pure.pure ())
      (fun _ => R) S :=
    ite (fun _ => h.bind fun text => note level text) fun _ => same ()
  have hrun := hwrite left right hbeside
  have hopen : ∀ world : World σ, (Act.noteWith level message).runOn world =
      (if world.log.shows level = true then message >>= Act.note level
        else Pure.pure ()).runOn world := fun world => rfl
  rw [hopen, hopen, hshows]
  exact hrun

/-- A fault that is caught goes on in its handler. -/
theorem tryCatch {handler : Fault → Act σ α} (h : Agrees R act Q S')
    (hf : ∀ f, Agrees S' (handler f) Q S) : Agrees R (tryCatchThe Fault act handler) Q S := by
  intro left right hbeside
  have hrun := h left right hbeside
  rw [runOn_tryCatch, runOn_tryCatch]
  revert hrun
  rcases act.runOn left with ⟨f | _, _⟩ <;> rcases act.runOn right with ⟨_ | _, _⟩
  · rintro ⟨rfl, hnext⟩
    exact hf f _ _ hnext
  · exact False.elim
  · exact False.elim
  · exact id

/-- What each run leads to on its own. -/
theorem and_leads {L : α → σ → Prop} {stop : Fault → σ → Prop} (h : Agrees R act Q S)
    (hleads : Leads P act L stop) (hR : ∀ s t, R s t → P s ∧ P t) :
    Agrees R act (fun a s t => Q a s t ∧ L a s ∧ L a t) S := by
  intro left right hbeside
  have hrun := h left right hbeside
  have hleft := hleads left (hR _ _ hbeside.state).1
  have hright := hleads right (hR _ _ hbeside.state).2
  revert hrun hleft hright
  rcases act.runOn left with ⟨_ | a, _⟩ <;> rcases act.runOn right with ⟨_ | _, _⟩
  · exact fun hrun _ _ => hrun
  · exact fun hrun _ _ => hrun
  · exact fun hrun _ _ => hrun
  · rintro ⟨rfl, hnext⟩ hleft hright
    exact ⟨rfl, ⟨hnext.state, hleft, hright⟩, hnext.level⟩

/-- An answer that is known is the answer of both. -/
theorem known {value : α} (h : Agrees R act (fun _ => R) S) (hends : Ends P act value P)
    (hR : ∀ s t, R s t → P s ∧ P t) : Agrees R act (fun a s t => a = value ∧ R s t) S :=
  (h.and_leads (Leads.of_ends (S := fun _ _ => True) hends) hR).post
    fun _ _ _ hs => ⟨hs.2.1.1, hs.1⟩

end Agrees

end Act

namespace Attempt

variable {Q Q' : α → σ → σ → Prop} {T : β → σ → σ → Prop} {attempt : Attempt ε σ α}

/-- The attempt ends alike: with the same value and states as `post` has them, or with the same
refusal or the same fault and states as `stop` has them. -/
def Agrees (pre : σ → σ → Prop) (attempt : Attempt ε σ α) (post : α → σ → σ → Prop)
    (stop : σ → σ → Prop) : Prop :=
  Act.Agrees pre attempt.run
    (fun outcome s t => match outcome with
      | .ok value => post value s t
      | .error _ => stop s t) stop

namespace Agrees

theorem pure (value : α) (h : ∀ s t, R s t → Q value s t) :
    Agrees R (pure value : Attempt ε σ α) Q S :=
  Act.Agrees.pure _ h

theorem same (value : α) : Agrees R (Pure.pure value : Attempt ε σ α) (fun _ => R) S :=
  pure value fun _ _ hs => hs

theorem throw (error : ε) (h : ∀ s t, R s t → S s t) :
    Agrees R (throw error : Attempt ε σ α) Q S :=
  Act.Agrees.pure _ h

theorem pre (h : Agrees R attempt Q S) (hR : ∀ s t, R' s t → R s t) : Agrees R' attempt Q S :=
  Act.Agrees.pre h hR

theorem post (h : Agrees R attempt Q S) (hQ : ∀ a s t, Q a s t → Q' a s t) :
    Agrees R attempt Q' S :=
  Act.Agrees.post h fun outcome s t hs => by
    cases outcome with
    | ok value => exact hQ value s t hs
    | error => exact hs

theorem bind {f : α → Attempt ε σ β} (h : Agrees R attempt Q S)
    (hf : ∀ a, Agrees (Q a) (f a) T S) : Agrees R (attempt >>= f) T S := by
  unfold Agrees at h hf ⊢
  rw [ExceptT.run_bind]
  refine Act.Agrees.bind h fun outcome => ?_
  cases outcome with
  | ok value => exact hf value
  | error error => exact .pure _ fun _ _ hs => hs

theorem lift {act : Act σ α} (h : Act.Agrees R act Q S) :
    Agrees R (liftM act : Attempt ε σ α) Q S := by
  show Act.Agrees R (Except.ok <$> act) _ S
  rw [map_eq_pure_bind]
  exact h.bind fun a => .pure _ fun _ _ hs => hs

/-- An action that answers whether it is refused. -/
theorem of_act {act : Act σ (Except ε α)} (h : Act.Agrees R act (fun _ => R') S)
    (hstop : ∀ s t, R' s t → S s t) : Agrees R (ExceptT.mk act) (fun _ => R') S :=
  h.post fun outcome s t hs => by
    cases outcome with
    | ok => exact hs
    | error => exact hstop s t hs

theorem ite {c : Prop} [Decidable c] {x y : Attempt ε σ α} (hx : c → Agrees R x Q S)
    (hy : ¬ c → Agrees R y Q S) : Agrees R (if c then x else y) Q S :=
  Act.Agrees.ite hx hy

/-- Nothing comes after a refusal. -/
theorem bind_throw {f : β → Attempt ε σ α} (error : ε) (h : ∀ s t, R s t → S s t) :
    Agrees R ((throwThe ε error : Attempt ε σ β) >>= f) Q S :=
  bind (Q := fun _ _ _ => False) (throw error h) fun _ => Act.Agrees.absurd

/-- A guard, which refuses before anything else is done. -/
theorem guard {c : Prop} [Decidable c] {error : ε} {f : β → Attempt ε σ α} {y : Attempt ε σ α}
    (h : ∀ s t, R s t → S s t) (hy : ¬ c → Agrees R y Q S) :
    Agrees R (if c then (throwThe ε error : Attempt ε σ β) >>= f else y) Q S :=
  ite (fun _ => bind_throw error h) hy

theorem note (level : LogLevel) (text : String) :
    Agrees R (note level text : Attempt ε σ Unit) (fun _ => R) S :=
  lift (.note level text)

theorem checked (value : Except Fault α) (h : ∀ s t, R s t → S s t) :
    Agrees R (checked value : Attempt ε σ α) (fun _ => R) S :=
  lift (.checked value h)

/-- The value of a word operation, or its fault, is taken over as it is. -/
theorem checked_bind {value : Except Fault α} {f : α → Attempt ε σ β}
    (hf : ∀ a, value = .ok a → Agrees R (f a) T S) (h : ∀ s t, R s t → S s t) :
    Agrees R (Attempt.checked value >>= f) T S := by
  cases value with
  | ok a => exact hf a rfl
  | error fault => exact bind (Q := fun _ _ _ => False) (lift (.fault fault h)) fun _ => .absurd

theorem withError {ε' : Type} {f : ε' → ε} {attempt : Attempt ε' σ α} (h : Agrees R attempt Q S) :
    Agrees R (attempt.withError f) Q S := by
  show Act.Agrees R ((·.mapError f) <$> attempt.run) _ S
  rw [map_eq_pure_bind]
  refine Act.Agrees.bind h fun outcome => .pure _ fun _ _ hs => ?_
  cases outcome with
  | ok value => exact hs
  | error error => exact hs

/-- What each run leads to on its own. -/
theorem and_leads {L : α → σ → Prop} {E : ε → σ → Prop} {stop : Fault → σ → Prop}
    (h : Agrees R attempt Q S) (hleads : Leads P attempt L E stop)
    (hR : ∀ s t, R s t → P s ∧ P t) :
    Agrees R attempt (fun a s t => Q a s t ∧ L a s ∧ L a t) S :=
  (Act.Agrees.and_leads h hleads hR).post fun outcome _ _ hs => by
    cases outcome with
    | ok value => exact hs
    | error error => exact hs.1

/-- A first step whose answer is known. -/
theorem bind_known {f : α → Attempt ε σ β} {act : Act σ α} {value : α}
    (h : Act.Agrees R act (fun _ => R) S) (hends : Act.Ends P act value P)
    (hR : ∀ s t, R s t → P s ∧ P t) (hf : Agrees R (f value) T S) :
    Agrees R ((liftM act : Attempt ε σ α) >>= f) T S := by
  refine bind (lift (h.known hends hR)) fun a => ?_
  exact Act.Agrees.of_and fun ha => ha ▸ hf

end Agrees

end Attempt

end FlashBench
