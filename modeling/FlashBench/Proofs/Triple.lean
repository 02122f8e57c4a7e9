import FlashBench.Proofs.Outcome

/-!
# What actions lead to

`Act.Leads pre act post stop` looks at **every** way an action can end: started in a state that
satisfies `pre` it leads to a value and a state in `post`, or to a fault and a state in `stop`.
`Attempt.Leads` has a third place for the refusals. Where `Ends` names the one value that there is,
`Leads` says what is known of the value.

* **Composition** (`Leads.bind`): what one step leads to is where the next one starts.
* **No fault** is a `stop` that nothing satisfies; a value that is never reached is a `post` that
  nothing satisfies.
* **Invariants** (`Keeps`): what holds before the action holds after it, however it ends. They may
  be kept alongside anything else that is known (`Leads.and_keeps`, `Ends.and_keeps`).
-/

namespace FlashBench

variable {σ τ α β ε : Type} {P P' K inv : σ → Prop} {S S' : Fault → σ → Prop}

namespace Act

variable {Q Q' : α → σ → Prop} {R : β → σ → Prop} {act : Act σ α}

/-- From every state that satisfies `pre` the action leads to a value as `post` has it, or to a
fault as `stop` has it. -/
def Leads (pre : σ → Prop) (act : Act σ α) (post : α → σ → Prop) (stop : Fault → σ → Prop) :
    Prop :=
  ∀ world, pre world.state →
    match act.runOn world with
    | (.ok value, next) => post value next.state
    | (.error fault, next) => stop fault next.state

/-- What holds before the action holds after it, also when it ends in a fault. -/
def Keeps (inv : σ → Prop) (act : Act σ α) : Prop :=
  Leads inv act (fun _ => inv) (fun _ => inv)

theorem Keeps.runOn (h : Keeps inv act) (world : World σ) (hworld : inv world.state) :
    inv (act.runOn world).2.state := by
  have hrun := h world hworld
  revert hrun
  rcases act.runOn world with ⟨outcome, next⟩
  cases outcome with
  | ok value => exact id
  | error fault => exact id

theorem runOn_tryCatch (act : Act σ α) (handler : Fault → Act σ α) (world : World σ) :
    Act.runOn (tryCatchThe Fault act handler) world =
      match act.runOn world with
      | (.ok value, next) => (.ok value, next)
      | (.error fault, next) => (handler fault).runOn next := by
  show (ExceptT.tryCatch act handler world) = _
  unfold ExceptT.tryCatch runOn
  simp only [ExceptT.mk, ExceptT.run, StateT.run, bind, StateT.bind]
  rcases act world with ⟨outcome, next⟩
  cases outcome <;> rfl

namespace Leads

theorem of_ends {value : α} {post : σ → Prop} (h : Ends P act value post) :
    Leads P act (fun a s => a = value ∧ post s) S := by
  intro world hP
  obtain ⟨next, hrun, hpost⟩ := h world hP
  rw [hrun]
  exact ⟨rfl, hpost⟩

theorem mono (h : Leads P act Q S) (hP : ∀ s, P' s → P s) (hQ : ∀ a s, Q a s → Q' a s)
    (hS : ∀ fault s, S fault s → S' fault s) : Leads P' act Q' S' := by
  intro world hworld
  have hrun := h world (hP _ hworld)
  revert hrun
  rcases act.runOn world with ⟨outcome, next⟩
  cases outcome with
  | ok value => exact hQ _ _
  | error fault => exact hS _ _

theorem pre (h : Leads P act Q S) (hP : ∀ s, P' s → P s) : Leads P' act Q S :=
  h.mono hP (fun _ _ hQ => hQ) fun _ _ hS => hS

theorem post (h : Leads P act Q S) (hQ : ∀ a s, Q a s → Q' a s) : Leads P act Q' S :=
  h.mono (fun _ hP => hP) hQ fun _ _ hS => hS

theorem on_fault (h : Leads P act Q S) (hS : ∀ fault s, S fault s → S' fault s) :
    Leads P act Q S' :=
  h.mono (fun _ hP => hP) (fun _ _ hQ => hQ) hS

/-- Nothing is said of a fault. -/
theorem unless_fault (h : Leads P act Q S) : Leads P act Q fun _ _ => True :=
  h.on_fault fun _ _ _ => True.intro

/-- What the start does not fix may be fixed at each start. -/
theorem of_forall {ι : Type} {P : ι → σ → Prop} (h : ∀ i, Leads (P i) act Q S) :
    Leads (fun s => ∃ i, P i s) act Q S :=
  fun world ⟨i, hP⟩ => h i world hP

/-- What is no matter of the state holds throughout. -/
theorem of_and {p : Prop} (h : p → Leads P act Q S) : Leads (fun s => p ∧ P s) act Q S :=
  fun world ⟨hp, hP⟩ => h hp world hP

theorem pure (value : α) (h : ∀ s, P s → Q value s) : Leads P (pure value) Q S :=
  fun _ hP => h _ hP

theorem fault (f : Fault) (h : ∀ s, P s → S f s) : Leads P (fault f : Act σ α) Q S :=
  fun _ hP => h _ hP

theorem bind {f : α → Act σ β} (h : Leads P act Q S) (hf : ∀ a, Leads (Q a) (f a) R S) :
    Leads P (act >>= f) R S := by
  intro world hP
  have hrun := h world hP
  rw [runOn_bind]
  revert hrun
  rcases act.runOn world with ⟨outcome, next⟩
  cases outcome with
  | ok value => exact hf value next
  | error fault => exact id

/-- A first step that leads to one value only. -/
theorem bind_value {f : α → Act σ β} {value : α} {post : σ → Prop}
    (h : Leads P act (fun a s => a = value ∧ post s) S) (hf : Leads post (f value) R S) :
    Leads P (act >>= f) R S := by
  refine h.bind fun a => ?_
  rintro world ⟨rfl, hpost⟩
  exact hf world hpost

theorem bind_ends {f : α → Act σ β} {value : α} {post : σ → Prop} (h : Ends P act value post)
    (hf : Leads post (f value) R S) : Leads P (act >>= f) R S :=
  bind_value (of_ends h) hf

theorem ite {c : Prop} [Decidable c] {x y : Act σ α} (hx : c → Leads P x Q S)
    (hy : ¬ c → Leads P y Q S) : Leads P (if c then x else y) Q S := by
  by_cases hc : c
  · rw [if_pos hc]
    exact hx hc
  · rw [if_neg hc]
    exact hy hc

/-- A step that depends on the state, which it may be said to know. -/
theorem state {f : σ → Act σ α} (h : ∀ s, P s → Leads (· = s) (f s) Q S) :
    Leads P (do f (← state)) Q S := by
  intro world hP
  rw [runOn_bind]
  exact h world.state hP world rfl

theorem change {Q : Unit → σ → Prop} (f : σ → σ) (h : ∀ s, P s → Q () (f s)) :
    Leads P (change f) Q S :=
  fun _ hP => h _ hP

theorem changeGet (f : σ → α × σ) (h : ∀ s, P s → Q (f s).1 (f s).2) : Leads P (changeGet f) Q S :=
  fun _ hP => h _ hP

theorem note {Q : Unit → σ → Prop} (level : LogLevel) (text : String) (h : ∀ s, P s → Q () s) :
    Leads P (note level text) Q S :=
  fun _ hP => h _ hP

/-- A message changes nothing. -/
theorem note_bind {f : Unit → Act σ β} (level : LogLevel) (text : String)
    (h : Leads P (f ()) R S) : Leads P (Act.note level text >>= f) R S :=
  bind (note (Q := fun _ => P) level text fun _ hP => hP) fun _ => h

/-- A message may or may not be put together, and what it leads to is known either way. -/
theorem noteWith {level : LogLevel} {message : Act σ String} (h : Leads P message (fun _ => P) S) :
    Leads P (noteWith level message) (fun _ => P) S :=
  bind (Q := fun _ => P) (fun _ hP => hP) fun world =>
    ite (c := world.log.shows level = true)
      (fun _ => h.bind fun text => note level text fun _ hP => hP) fun _ => pure () fun _ hP => hP

/-- A fault that is caught goes on in its handler. -/
theorem tryCatch {handler : Fault → Act σ α} (h : Leads P act Q S')
    (hf : ∀ f, Leads (S' f) (handler f) Q S) : Leads P (tryCatchThe Fault act handler) Q S := by
  intro world hP
  have hrun := h world hP
  rw [runOn_tryCatch]
  revert hrun
  rcases act.runOn world with ⟨outcome, next⟩
  cases outcome with
  | ok value => exact id
  | error f => exact hf f next

/-- What is known of an action from two sides. -/
theorem and {Q' : α → σ → Prop} (h : Leads P act Q S) (h' : Leads P act Q' S') :
    Leads P act (fun a s => Q a s ∧ Q' a s) (fun f s => S f s ∧ S' f s) := by
  intro world hworld
  have hrun := h world hworld
  have hrun' := h' world hworld
  revert hrun hrun'
  rcases act.runOn world with ⟨outcome, next⟩
  cases outcome with
  | ok value => exact And.intro
  | error f => exact And.intro

/-- What an action keeps holds next to what it leads to. -/
theorem and_keeps (h : Leads P act Q S) (hK : Keeps K act) :
    Leads (fun s => P s ∧ K s) act (fun a s => Q a s ∧ K s) (fun f s => S f s ∧ K s) :=
  (h.pre fun _ hs => hs.1).and (hK.pre fun _ hs => hs.2)

theorem or (h : Leads P act Q S) (h' : Leads P' act Q S) :
    Leads (fun s => P s ∨ P' s) act Q S := by
  rintro world (hworld | hworld)
  · exact h world hworld
  · exact h' world hworld

/-- **An action on a part of the hardware** leads the part where it leads alone, and the rest stays
as it was. -/
theorem zoom {before : τ → Prop} {after : α → τ → Prop} {stop : Fault → τ → Prop} {get : σ → τ}
    {put : τ → σ → σ} {act : Act τ α} (h : Leads before act after stop)
    (hget : ∀ s, P s → before (get s)) (hput : ∀ s a t, P s → after a t → Q a (put t s))
    (hstop : ∀ s f t, P s → stop f t → S f (put t s)) : Leads P (Act.zoom get put act) Q S := by
  refine Leads.state fun s hs world heq => ?_
  have hrun : (Act.within (get s) act put).runOn world =
      ((act.runOn ⟨get s, world.log⟩).1,
        { state := put (act.runOn ⟨get s, world.log⟩).2.state world.state
          log := (act.runOn ⟨get s, world.log⟩).2.log }) := rfl
  have hinner := h ⟨get s, world.log⟩ (hget s hs)
  rw [hrun, show world.state = s from heq]
  revert hinner
  rcases act.runOn ⟨get s, world.log⟩ with ⟨outcome, next⟩
  cases outcome with
  | ok value => exact hput s value next.state hs
  | error f => exact hstop s f next.state hs

/-- Whatever an action does on hardware of its own, it is what is put back that counts. -/
theorem within {start : τ} {inner : Act τ α} {leave : τ → σ → σ} {R : σ → Prop}
    (h : ∀ s t, P s → R (leave t s)) :
    Leads P (Act.within start inner leave) (fun _ => R) fun _ => R := by
  intro world hworld
  have hrun : (Act.within start inner leave).runOn world =
      ((inner.runOn ⟨start, world.log⟩).1,
        { state := leave (inner.runOn ⟨start, world.log⟩).2.state world.state
          log := (inner.runOn ⟨start, world.log⟩).2.log }) := rfl
  rw [hrun]
  rcases inner.runOn ⟨start, world.log⟩ with ⟨outcome, next⟩
  cases outcome with
  | ok value => exact h _ _ hworld
  | error f => exact h _ _ hworld

/-- Nothing is known of an action. -/
theorem trivial : Leads P act (fun _ _ => True) fun _ _ => True := by
  intro world _
  rcases act.runOn world with ⟨outcome, next⟩
  cases outcome <;> exact True.intro

/-- An action that is never started. -/
theorem absurd : Leads (fun _ => False) act Q S :=
  fun _ hfalse => hfalse.elim

end Leads

/-- An action that leads to no fault returns. -/
theorem Leads.returns (h : Leads P act Q fun _ _ => False) (world : World σ)
    (hworld : P world.state) :
    ∃ value next, act.runOn world = (.ok value, next) ∧ Q value next.state := by
  have hrun := h world hworld
  rcases hact : act.runOn world with ⟨outcome, next⟩
  rw [hact] at hrun
  cases outcome with
  | ok value => exact ⟨value, next, rfl, hrun⟩
  | error f => exact hrun.elim

/-- An action that leads to no value stops. -/
theorem Leads.stops (h : Leads P act (fun _ _ => False) S) (world : World σ)
    (hworld : P world.state) :
    ∃ fault next, act.runOn world = (.error fault, next) ∧ S fault next.state := by
  have hrun := h world hworld
  rcases hact : act.runOn world with ⟨outcome, next⟩
  rw [hact] at hrun
  cases outcome with
  | ok value => exact hrun.elim
  | error f => exact ⟨f, next, rfl, hrun⟩

/-- An action that leads to nothing but one value ends with it. -/
theorem Ends.of_leads {value : α} {post : σ → Prop}
    (h : Leads P act (fun a s => a = value ∧ post s) (fun _ _ => False)) :
    Ends P act value post := by
  intro world hP
  obtain ⟨_, next, hrun, rfl, hpost⟩ := h.returns world hP
  exact ⟨next, hrun, hpost⟩

theorem Ends.and_keeps {value : α} {post : σ → Prop} (h : Ends P act value post)
    (hK : Keeps K act) : Ends (fun s => P s ∧ K s) act value (fun s => post s ∧ K s) :=
  .of_leads (((Leads.of_ends h).and_keeps hK).mono (fun _ hP => hP)
    (fun _ _ ⟨⟨hvalue, hpost⟩, hkept⟩ => ⟨hvalue, hpost, hkept⟩) fun _ _ hS => hS.1)

/-- A message is put together only where it is shown, so all it may do is nothing. -/
theorem Ends.noteWith {level : LogLevel} {message : Act σ String} {text : String}
    (h : Ends P message text P) : Ends P (noteWith level message) () P := by
  have hmessage : Leads P message (fun _ => P) fun _ _ => False :=
    (Leads.of_ends h).post fun _ _ hs => hs.2
  exact .of_leads ((Leads.noteWith hmessage).post fun _ _ hs => ⟨rfl, hs⟩)

/-- An action on a part of the hardware, whose end is known. -/
theorem Ends.zoom {get : σ → τ} {put : τ → σ → σ} {act : Act τ α} {value : α} {s : σ} {t : τ}
    (h : Ends (· = get s) act value (· = t)) :
    Ends (· = s) (Act.zoom get put act) value (· = put t s) :=
  .of_leads (Leads.zoom (Leads.of_ends (S := fun _ _ => False) h) (fun _ heq => heq ▸ rfl)
    (fun _ _ _ heq hs => ⟨hs.1, heq ▸ hs.2 ▸ rfl⟩) fun _ _ _ _ hs => hs)

/-- What is known of the end from each start. -/
theorem Leads.of_exact {value : σ → α} {last : σ → σ}
    (h : ∀ s, P s → Ends (· = s) act (value s) (· = last s))
    (hQ : ∀ s, P s → Q (value s) (last s)) : Leads P act Q S := by
  intro world hP
  obtain ⟨next, hrun, heq⟩ := h world.state hP world rfl
  rw [hrun]
  show Q (value world.state) next.state
  rw [heq]
  exact hQ world.state hP

namespace Keeps

theorem pure (value : α) : Keeps inv (pure value : Act σ α) :=
  Leads.pure value fun _ h => h

theorem fault (f : Fault) : Keeps inv (fault f : Act σ α) :=
  Leads.fault f fun _ h => h

theorem bind {f : α → Act σ β} (h : Keeps inv act) (hf : ∀ a, Keeps inv (f a)) :
    Keeps inv (act >>= f) :=
  Leads.bind h hf

theorem ite {c : Prop} [Decidable c] {x y : Act σ α} (hx : c → Keeps inv x)
    (hy : ¬ c → Keeps inv y) : Keeps inv (if c then x else y) :=
  Leads.ite hx hy

/-- Looking at the state changes nothing. -/
theorem state : Keeps inv (state : Act σ σ) :=
  fun _ h => h

theorem change (f : σ → σ) (h : ∀ s, inv s → inv (f s)) : Keeps inv (change f) :=
  Leads.change f h

theorem changeGet (f : σ → α × σ) (h : ∀ s, inv s → inv (f s).2) : Keeps inv (changeGet f) :=
  Leads.changeGet f h

theorem note (level : LogLevel) (text : String) : Keeps inv (note level text : Act σ Unit) :=
  Leads.note level text fun _ h => h

theorem noteWith {level : LogLevel} {message : Act σ String} (h : Keeps inv message) :
    Keeps inv (noteWith level message) :=
  Leads.noteWith h

theorem checked (value : Except Fault α) : Keeps inv (checked value : Act σ α) := by
  cases value with
  | ok a => exact pure a
  | error f => exact fault f

theorem forIn {γ : Type} (xs : List γ) (b : β) {f : γ → β → Act σ (ForInStep β)}
    (h : ∀ a b, Keeps inv (f a b)) : Keeps inv (forIn xs b f) := by
  induction xs generalizing b with
  | nil => exact .pure b
  | cons a rest ih =>
      rw [List.forIn_cons]
      refine (h a b).bind fun step => ?_
      cases step with
      | done b => exact .pure b
      | yield b => exact ih b

/-- What an action keeps of a part of the hardware it keeps of the whole, as long as that is all that
is said of it. -/
theorem zoom {inner : τ → Prop} {get : σ → τ} {put : τ → σ → σ} {act : Act τ α}
    (h : Keeps inner act) (hget : ∀ s, inv s → inner (get s))
    (hput : ∀ s t, inv s → inner t → inv (put t s)) : Keeps inv (Act.zoom get put act) :=
  Leads.zoom h hget (fun s _ => hput s) fun s _ => hput s

/-- Where something stays whatever it is, all that is said of it stays. -/
theorem of_fixed {f : σ → β} {q : β → Prop} (h : ∀ b, Keeps (fun s => f s = b) act) :
    Keeps (fun s => q (f s)) act := by
  intro world hq
  have hfixed : Leads (· = world.state) act (fun _ s => f s = f world.state)
      fun _ s => f s = f world.state :=
    (h (f world.state)).pre fun s heq => by rw [heq]
  exact (hfixed.mono (fun _ heq => heq) (fun _ s heq => show q (f s) by rw [heq]; exact hq)
    fun _ s heq => show q (f s) by rw [heq]; exact hq) world rfl

/-- What is no matter of the state is kept by everything. -/
theorem const (p : Prop) (act : Act σ α) : Keeps (fun _ => p) act := by
  intro world hp
  rcases act.runOn world with ⟨outcome, next⟩
  cases outcome <;> exact hp

end Keeps

end Act

namespace Attempt

variable {Q Q' : α → σ → Prop} {R : β → σ → Prop} {E E' : ε → σ → Prop} {attempt : Attempt ε σ α}

/-- From every state that satisfies `pre` the attempt leads to a value as `post` has it, to a refusal
as `refused` has it, or to a fault as `stop` has it. -/
def Leads (pre : σ → Prop) (attempt : Attempt ε σ α) (post : α → σ → Prop)
    (refused : ε → σ → Prop) (stop : Fault → σ → Prop) : Prop :=
  Act.Leads pre attempt.run
    (fun outcome s => match outcome with
      | .ok value => post value s
      | .error error => refused error s) stop

/-- What holds before the attempt holds after it, however it ends. -/
def Keeps (inv : σ → Prop) (attempt : Attempt ε σ α) : Prop :=
  Act.Keeps inv attempt.run

namespace Leads

theorem of_ends {outcome : Except ε α} {post : σ → Prop} (h : Ends P attempt outcome post) :
    Leads P attempt (fun a s => outcome = .ok a ∧ post s) (fun e s => outcome = .error e ∧ post s)
      S :=
  (Act.Leads.of_ends h).post fun a s ⟨ha, hs⟩ => by
    subst ha
    cases a with
    | ok value => exact ⟨rfl, hs⟩
    | error error => exact ⟨rfl, hs⟩

/-- An attempt that ends with a value is not refused. -/
theorem of_ok {value : α} {post : σ → Prop} (h : Ends P attempt (.ok value) post)
    (hQ : ∀ s, post s → Q value s) : Leads P attempt Q E S :=
  Act.Leads.post (of_ends (S := S) h) fun outcome s hs => by
    cases outcome with
    | ok a => exact Except.ok.inj hs.1 ▸ hQ s hs.2
    | error error => exact nomatch hs.1

/-- An attempt that leads to nothing but one outcome ends with it. -/
theorem ends {outcome : Except ε α} {post : σ → Prop}
    (h : Leads P attempt (fun a s => outcome = .ok a ∧ post s)
      (fun e s => outcome = .error e ∧ post s) fun _ _ => False) :
    Attempt.Ends P attempt outcome post :=
  Act.Ends.of_leads (Act.Leads.post h fun result s hs => by
    cases result with
    | ok value => exact ⟨hs.1.symm, hs.2⟩
    | error error => exact ⟨hs.1.symm, hs.2⟩)

theorem mono (h : Leads P attempt Q E S) (hP : ∀ s, P' s → P s) (hQ : ∀ a s, Q a s → Q' a s)
    (hE : ∀ e s, E e s → E' e s) (hS : ∀ fault s, S fault s → S' fault s) :
    Leads P' attempt Q' E' S' :=
  Act.Leads.mono h hP (fun outcome s hs => by
    cases outcome with
    | ok value => exact hQ _ _ hs
    | error error => exact hE _ _ hs) hS

theorem pre (h : Leads P attempt Q E S) (hP : ∀ s, P' s → P s) : Leads P' attempt Q E S :=
  Act.Leads.pre h hP

theorem post (h : Leads P attempt Q E S) (hQ : ∀ a s, Q a s → Q' a s) :
    Leads P attempt Q' E S :=
  h.mono (fun _ hP => hP) hQ (fun _ _ hE => hE) fun _ _ hS => hS

theorem on_refusal (h : Leads P attempt Q E S) (hE : ∀ e s, E e s → E' e s) :
    Leads P attempt Q E' S :=
  h.mono (fun _ hP => hP) (fun _ _ hQ => hQ) hE fun _ _ hS => hS

theorem on_fault (h : Leads P attempt Q E S) (hS : ∀ fault s, S fault s → S' fault s) :
    Leads P attempt Q E S' :=
  Act.Leads.on_fault h hS

/-- Nothing is said of a fault. -/
theorem unless_fault (h : Leads P attempt Q E S) : Leads P attempt Q E fun _ _ => True :=
  Act.Leads.unless_fault h

theorem pure (value : α) (h : ∀ s, P s → Q value s) :
    Leads P (pure value : Attempt ε σ α) Q E S :=
  Act.Leads.pure _ h

theorem throw (error : ε) (h : ∀ s, P s → E error s) :
    Leads P (throw error : Attempt ε σ α) Q E S :=
  Act.Leads.pure _ h

theorem bind {f : α → Attempt ε σ β} (h : Leads P attempt Q E S)
    (hf : ∀ a, Leads (Q a) (f a) R E S) : Leads P (attempt >>= f) R E S := by
  unfold Leads at h hf ⊢
  rw [ExceptT.run_bind]
  refine h.bind fun outcome => ?_
  cases outcome with
  | ok value => exact hf value
  | error error => exact .pure _ fun _ hs => hs

/-- Nothing comes after a refusal. -/
theorem bind_throw {f : β → Attempt ε σ α} (error : ε) (h : ∀ s, P s → E error s) :
    Leads P ((throwThe ε error : Attempt ε σ β) >>= f) Q E S :=
  bind (Q := fun _ _ => False) (throw error h) fun _ _ hs => hs.elim

theorem lift {act : Act σ α} (h : Act.Leads P act Q S) :
    Leads P (liftM act : Attempt ε σ α) Q E S := by
  show Act.Leads P (Except.ok <$> act) _ S
  rw [map_eq_pure_bind]
  exact h.bind fun a => .pure _ fun _ hs => hs

/-- A first step that leads to one value only, if it is not refused. -/
theorem bind_value {f : α → Attempt ε σ β} {value : α} {post : σ → Prop}
    (h : Leads P attempt (fun a s => a = value ∧ post s) E S) (hf : Leads post (f value) R E S) :
    Leads P (attempt >>= f) R E S := by
  refine h.bind fun a => ?_
  rintro world ⟨rfl, hpost⟩
  exact hf world hpost

theorem bind_ends {f : α → Attempt ε σ β} {value : α} {post : σ → Prop}
    (h : Ends P attempt (.ok value) post) (hf : Leads post (f value) R E S) :
    Leads P (attempt >>= f) R E S :=
  bind_value (of_ok h fun _ hpost => ⟨rfl, hpost⟩) hf

theorem ite {c : Prop} [Decidable c] {x y : Attempt ε σ α} (hx : c → Leads P x Q E S)
    (hy : ¬ c → Leads P y Q E S) : Leads P (if c then x else y) Q E S :=
  Act.Leads.ite hx hy

/-- A guard, which refuses before anything else is done. -/
theorem guard {c : Prop} [Decidable c] {error : ε} {f : β → Attempt ε σ α} {y : Attempt ε σ α}
    (hE : c → ∀ s, P s → E error s) (hy : ¬ c → Leads P y Q E S) :
    Leads P (if c then (throwThe ε error : Attempt ε σ β) >>= f else y) Q E S :=
  ite (fun hc => bind_throw error (hE hc)) hy

theorem note {Q : Unit → σ → Prop} (level : LogLevel) (text : String) (h : ∀ s, P s → Q () s) :
    Leads P (note level text : Attempt ε σ Unit) Q E S :=
  lift (.note level text h)

theorem note_bind {f : Unit → Attempt ε σ β} (level : LogLevel) (text : String)
    (h : Leads P (f ()) R E S) : Leads P (Attempt.note level text >>= f) R E S :=
  bind (note (Q := fun _ => P) level text fun _ hP => hP) fun _ => h

/-- The value of a word operation, or its fault, is taken over as it is. -/
theorem checked_bind {value : Except Fault α} {f : α → Attempt ε σ β}
    (hok : ∀ a, value = .ok a → Leads P (f a) R E S)
    (herror : ∀ fault, value = .error fault → ∀ s, P s → S fault s) :
    Leads P (checked value >>= f) R E S := by
  cases value with
  | ok a => exact bind_value (lift (.pure a fun _ hP => ⟨rfl, hP⟩)) (hok a rfl)
  | error fault =>
      exact bind (Q := fun _ _ => False) (lift (.fault fault (herror fault rfl))) fun _ _ h => h.elim

theorem withError {ε' : Type} {refused : ε' → σ → Prop} {f : ε' → ε} {attempt : Attempt ε' σ α}
    (h : Leads P attempt Q refused S) (hf : ∀ e s, refused e s → E (f e) s) :
    Leads P (attempt.withError f) Q E S := by
  show Act.Leads P ((·.mapError f) <$> attempt.run) _ S
  rw [map_eq_pure_bind]
  refine Act.Leads.bind h fun outcome => .pure _ fun s hs => ?_
  cases outcome with
  | ok value => exact hs
  | error error => exact hf _ _ hs

/-- What is said of a value and of a refusal in the same way is said of the outcome. -/
theorem outcome_iff {R : Except ε α → σ → Prop} :
    Leads P attempt (fun a => R (.ok a)) (fun e => R (.error e)) S ↔ Act.Leads P attempt.run R S := by
  refine ⟨fun h => Act.Leads.post h ?_, fun h => Act.Leads.post h ?_⟩
  · rintro (error | value) _ hs <;> exact hs
  · rintro (error | value) _ hs <;> exact hs

/-- What comes after an attempt matters only where the attempt leads. -/
theorem runOn_bind_congr {f g : α → Attempt ε σ β} (h : Leads P attempt Q E S) {world : World σ}
    (hworld : P world.state)
    (hfg : ∀ a next, Q a next.state → (f a).run.runOn next = (g a).run.runOn next) :
    (attempt >>= f).run.runOn world = (attempt >>= g).run.runOn world := by
  have hrun := h world hworld
  rw [ExceptT.run_bind, ExceptT.run_bind, Act.runOn_bind, Act.runOn_bind]
  rcases hattempt : attempt.run.runOn world with ⟨outcome, next⟩
  rw [hattempt] at hrun
  rcases outcome with fault | error | a
  · rfl
  · rfl
  · exact hfg a next hrun

/-- What an attempt keeps holds next to what it leads to. -/
theorem and_keeps (h : Leads P attempt Q E S) (hK : Keeps K attempt) :
    Leads (fun s => P s ∧ K s) attempt (fun a s => Q a s ∧ K s) (fun e s => E e s ∧ K s)
      fun f s => S f s ∧ K s :=
  Act.Leads.post (Act.Leads.and_keeps h hK) fun outcome s hs => by
    cases outcome with
    | ok value => exact hs
    | error error => exact hs

/-- Nothing is known of an attempt. -/
theorem trivial :
    Leads P attempt (fun _ _ => True) (fun _ _ => True) fun _ _ => True :=
  Act.Leads.trivial.mono (fun _ _ => True.intro) (fun outcome _ _ => by
    cases outcome <;> exact True.intro) fun _ _ hs => hs

end Leads

namespace Keeps

theorem leads (h : Keeps inv attempt) :
    Leads inv attempt (fun _ => inv) (fun _ => inv) (fun _ => inv) :=
  Act.Leads.post h fun outcome s hs => by
    cases outcome with
    | ok value => exact hs
    | error error => exact hs

/-- What is kept is there next to a value, whatever becomes of a refusal or a fault. -/
theorem value (h : Keeps inv attempt) :
    Leads inv attempt (fun _ => inv) (fun _ _ => True) fun _ _ => True :=
  h.leads.mono (fun _ hs => hs) (fun _ _ hs => hs) (fun _ _ _ => trivial) fun _ _ _ => trivial

theorem of_leads (h : Leads inv attempt (fun _ => inv) (fun _ => inv) (fun _ => inv)) :
    Keeps inv attempt :=
  Act.Leads.post h fun outcome s hs => by
    cases outcome with
    | ok value => exact hs
    | error error => exact hs

theorem pure (value : α) : Keeps inv (pure value : Attempt ε σ α) :=
  Act.Keeps.pure _

theorem throw (error : ε) : Keeps inv (throw error : Attempt ε σ α) :=
  Act.Keeps.pure _

theorem bind {f : α → Attempt ε σ β} (h : Keeps inv attempt) (hf : ∀ a, Keeps inv (f a)) :
    Keeps inv (attempt >>= f) := by
  unfold Keeps at h hf ⊢
  rw [ExceptT.run_bind]
  refine h.bind fun outcome => ?_
  cases outcome with
  | ok value => exact hf value
  | error error => exact .pure _

theorem bind_throw (error : ε) (f : β → Attempt ε σ α) :
    Keeps inv ((throwThe ε error : Attempt ε σ β) >>= f) :=
  Act.Keeps.pure _

theorem lift {act : Act σ α} (h : Act.Keeps inv act) : Keeps inv (liftM act : Attempt ε σ α) := by
  show Act.Keeps inv (Except.ok <$> act)
  rw [map_eq_pure_bind]
  exact h.bind fun a => .pure _

theorem ite {c : Prop} [Decidable c] {x y : Attempt ε σ α} (hx : c → Keeps inv x)
    (hy : ¬ c → Keeps inv y) : Keeps inv (if c then x else y) :=
  Act.Keeps.ite hx hy

theorem guard {c : Prop} [Decidable c] {error : ε} {f : β → Attempt ε σ α} {y : Attempt ε σ α}
    (hy : ¬ c → Keeps inv y) :
    Keeps inv (if c then (throwThe ε error : Attempt ε σ β) >>= f else y) :=
  ite (fun _ => bind_throw error f) hy

theorem note (level : LogLevel) (text : String) :
    Keeps inv (note level text : Attempt ε σ Unit) :=
  lift (.note level text)

theorem checked (value : Except Fault α) : Keeps inv (checked value : Attempt ε σ α) :=
  lift (.checked value)

theorem withError {ε' : Type} {f : ε' → ε} {attempt : Attempt ε' σ α} (h : Keeps inv attempt) :
    Keeps inv (attempt.withError f) := by
  show Act.Keeps inv ((·.mapError f) <$> attempt.run)
  rw [map_eq_pure_bind]
  exact Act.Keeps.bind h fun _ => .pure _

end Keeps

end Attempt

end FlashBench
