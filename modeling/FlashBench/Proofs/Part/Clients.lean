import Mathlib.Data.List.Perm.Basic
import FlashBench.Proofs.Part.Taken

/-!
# Clients of one part

Sessions and validation runs on one driver, any number of them, in any order. Whoever has the driver
is written down in three places: the lock of the driver, the handles that clients have, and the flag
of each run. `Floor.Sound` says that these agree, and that the calls of the driver up to now agree
with them. One deed keeps it, whatever its outcome (`Floor.perform_sound`), and so do any number of
deeds (`Floor.after_sound`).

So there is one session at most, and it is there exactly when the lock is held
(`Floor.one_session`).
-/

namespace FlashBench

/-! ## Clients -/

/-- Whoever uses the part: a session that was opened, or a validation run. -/
inductive Client where
  | session (handle : Session (Traced Rig))
  | run (validator : Validator)

namespace Client

/-- The client has an open session. -/
def live : Client → Bool
  | session _ => true
  | run validator => validator.holdsSession

/-- The session is one on the driver, and the run has a session where its state says so. -/
def Proper : Client → Prop
  | session handle => handle = ⟨Rig.device.traced⟩
  | run validator => validator.holdsSession = validator.state.inSession

end Client

/-- A part with the calls of its driver, and the clients it has. -/
structure Floor where
  rig : Traced Rig
  clients : List Client := []

/-- What may happen. A client is named by its place. -/
inductive Deed where
  | open
  | free (index : Nat)
  | drop (index : Nat)
  | call (index : Nat) (call : FlashCall)
  | failInit (fails : Bool)
  | begin (config : ValidatorConfig)
  /-- One event of a run. Its timer has nothing to do with the part. -/
  | step (index : Nat) (timer : CycleTimer Rig) (apart : timer.Apart)

/-- The deeds by which a client gives its session back. -/
def Client.releases (index : Nat) : Client → List Deed
  | session _ => [.drop index, .free index]
  | run _ => [.drop index]

namespace Floor

/-- The number of open sessions. -/
def live (floor : Floor) : Nat := floor.clients.countP Client.live

/-- The lock of the driver is held. -/
def held (floor : Floor) : Bool := floor.rig.hardware.lock.held

/-- Runs an action on the part. -/
def onRig {α : Type} (act : Act (Traced Rig) α) : Act Floor α :=
  Act.zoom (·.rig) (fun rig floor => { floor with rig }) act

/-- A client that is new, or is done with something, stands last. -/
def join (client : Client) : Act Floor Unit :=
  Act.change fun floor => { floor with clients := floor.clients ++ [client] }

/-- Takes a client out, who may be back. -/
def leave (index : Nat) : Act Floor Unit :=
  Act.change fun floor => { floor with clients := floor.clients.eraseIdx index }

/-- What a client does, if there is one at this place. -/
def withClient (index : Nat) (deed : Client → Act Floor (Except FlashError Unit)) :
    Act Floor (Except FlashError Unit) := do
  match (← Act.state).clients[index]? with
  | some client => deed client
  | none => return .ok ()

/-- Does a deed, and answers whether it was refused. A run whose event ends in a fault is gone. -/
def perform : Deed → Act Floor (Except FlashError Unit)
  | .open => do
    match ← onRig (Session.start Rig.device.traced).run with
    | .ok handle =>
      join (.session handle)
      return .ok ()
    | .error error => return .error error
  | .free index => withClient index fun client => do
    match client with
    | .session handle =>
      leave index
      onRig handle.free.run
    | .run _ => return .ok ()
  | .drop index => withClient index fun client => do
    leave index
    match client with
    | .session handle => onRig handle.drop
    | .run validator => onRig (validator.drop Rig.device.traced)
    return .ok ()
  | .call index call => withClient index fun client => do
    match client with
    | .session handle => return (← onRig (handle.call call).run).map fun _ => ()
    | .run _ => return .ok ()
  | .failInit fails => do
    onRig (Act.beneath (Rig.changeCtrl fun ctrl => { ctrl with failInit := fails }))
    return .ok ()
  | .begin config => do
    join (.run { config })
    return .ok ()
  | .step index timer _ => withClient index fun client => do
    match client with
    | .session _ => return .ok ()
    | .run validator =>
      leave index
      let next ← onRig (validator.onEvent Rig.device.traced timer.traced)
      join (.run next)
      return .ok ()

/-- The world after deeds one after the other, whatever came of each. -/
def after (deeds : List Deed) (world : World Floor) : World Floor :=
  deeds.foldl (fun world deed => ((perform deed).runOn world).2) world

end Floor

/-! ## The clients -/

/-- All clients are in order, and as many of them are live as take the driver. -/
structure Crowd (taken : Bool) (clients : List Client) : Prop where
  proper : ∀ client ∈ clients, client.Proper
  live : clients.countP Client.live = taken.toNat

namespace Crowd

variable {taken others : Bool} {clients : List Client} {client : Client}

theorem join (h : Crowd others clients) (hproper : client.Proper)
    (halone : client.live = true → others = false) :
    Crowd (others || client.live) (clients ++ [client]) := by
  refine ⟨fun member hmem => ?_, ?_⟩
  · rcases List.mem_append.mp hmem with hold | hnew
    · exact h.proper member hold
    · rw [List.mem_singleton.mp hnew]
      exact hproper
  · rw [List.countP_append, h.2, List.countP_singleton]
    cases hlive : client.live with
    | true =>
        rw [halone hlive]
        rfl
    | false =>
        rw [Bool.or_false]
        rfl

/-- A client that leaves was the live one, or left the live one behind. -/
theorem leave (h : Crowd taken clients) {index : Nat} (hclient : clients[index]? = some client) :
    ∃ others, (client.Proper ∧ (client.live = true → others = false)) ∧
      (others || client.live) = taken ∧ Crowd others (clients.eraseIdx index) := by
  obtain ⟨hindex, rfl⟩ := List.getElem?_eq_some_iff.mp hclient
  have hperm := List.getElem_cons_eraseIdx_perm hindex
  have hrest : ∀ member ∈ clients.eraseIdx index, member.Proper := fun member hmem =>
    h.proper member (List.mem_of_mem_eraseIdx hmem)
  have hcount := hperm.countP_eq Client.live
  rw [List.countP_cons, h.live] at hcount
  have hproper := h.proper _ (List.getElem_mem hindex)
  cases hlive : clients[index].live with
  | true =>
      rw [if_pos hlive] at hcount
      have htaken : taken = true := by
        cases taken with
        | true => rfl
        | false => cases hcount
      subst htaken
      exact ⟨false, ⟨hproper, fun _ => rfl⟩, rfl, hrest, Nat.succ.inj hcount⟩
  | false =>
      rw [if_neg (by rw [hlive]; exact Bool.false_ne_true)] at hcount
      exact ⟨taken, ⟨hproper, nofun⟩, Bool.or_false taken, hrest, hcount⟩

/-- A live client takes the driver. -/
theorem taken_of_live (h : Crowd taken clients) {index : Nat}
    (hclient : clients[index]? = some client) (hlive : client.live = true) : taken = true := by
  obtain ⟨others, -, rfl, -⟩ := h.leave hclient
  rw [hlive, Bool.or_true]

end Crowd

namespace Floor

variable {layout : FlashLayout} {client : Client} {α : Type}

/-- The lock, the calls and the clients agree on whether the driver is taken. -/
def Sound (layout : FlashLayout) (floor : Floor) : Prop :=
  ∃ taken, Taken layout taken floor.rig ∧ Crowd taken floor.clients

/-- They agree but for a client that stands aside, who may have the driver. -/
structure Beside (layout : FlashLayout) (client : Client) (others : Bool) (floor : Floor) :
    Prop where
  proper : client.Proper
  taken : client.live = true → TakenAlone layout others floor.rig
  spare : client.live = false → Taken layout others floor.rig
  crowd : Crowd others floor.clients

theorem onRig_leads {P : Traced Rig → Prop} {Q : α → Traced Rig → Prop}
    {S : Fault → Traced Rig → Prop} {C : List Client → Prop} {act : Act (Traced Rig) α}
    (h : Act.Leads P act Q S) :
    Act.Leads (fun floor => P floor.rig ∧ C floor.clients) (onRig act)
      (fun a floor => Q a floor.rig ∧ C floor.clients)
      fun fault floor => S fault floor.rig ∧ C floor.clients :=
  Act.Leads.zoom h (fun _ hs => hs.1) (fun _ _ _ hs hq => ⟨hq, hs.2⟩) fun _ _ _ hs hf => ⟨hf, hs.2⟩

theorem Beside.sound {others : Bool} {floor : Floor} (h : Beside layout client others floor) :
    Sound layout { floor with clients := floor.clients ++ [client] } := by
  refine ⟨_, ?_, h.crowd.join h.proper fun hlive => (h.taken hlive).1.1⟩
  cases hlive : client.live with
  | true =>
      rw [Bool.or_true]
      exact ⟨(h.taken hlive).1.2, (h.taken hlive).2⟩
  | false =>
      rw [Bool.or_false]
      exact h.spare hlive

theorem join_leads {S : Fault → Floor → Prop} (client : Client) (value : α) :
    Act.Leads (fun floor => ∃ others, Beside layout client others floor)
      (do join client; return value) (fun _ => Sound layout) S :=
  .bind (.change _ fun _ ⟨_, hbeside⟩ => hbeside.sound) fun _ => .pure _ fun _ hs => hs

theorem leave_leads {S : Fault → Floor → Prop} (index : Nat) :
    Act.Leads (fun floor => Sound layout floor ∧ floor.clients[index]? = some client) (leave index)
      (fun _ floor => ∃ others, Beside layout client others floor) S := by
  refine .change _ fun floor ⟨⟨taken, htaken, hcrowd⟩, hclient⟩ => ?_
  obtain ⟨others, ⟨hproper, halone⟩, rfl, hrest⟩ := hcrowd.leave hclient
  refine ⟨others, hproper, fun hlive => ?_, fun hlive => ?_, hrest⟩
  · rw [hlive, Bool.or_true] at htaken
    exact ⟨⟨halone hlive, htaken.1⟩, htaken.2⟩
  · rwa [hlive, Bool.or_false] at htaken

/-- A client in its place is in order. -/
theorem withClient_leads {index : Nat} {deed : Client → Act Floor (Except FlashError Unit)}
    (h : ∀ client, client.Proper → Act.Leads
      (fun floor => Sound layout floor ∧ floor.clients[index]? = some client) (deed client)
      (fun _ => Sound layout) fun _ => Sound layout) :
    Act.Leads (Sound layout) (withClient index deed) (fun _ => Sound layout)
      fun _ => Sound layout := by
  refine .state fun floor hsound => ?_
  cases hclient : floor.clients[index]? with
  | none => exact .pure _ fun _ heq => heq ▸ hsound
  | some client =>
      obtain ⟨_, _, hcrowd⟩ := id hsound
      refine (h client (hcrowd.proper _ (List.mem_of_getElem? hclient))).pre fun _ heq => ?_
      exact heq ▸ ⟨hsound, hclient⟩

/-! ### One deed -/

/-- A run that stands aside is in the stage its state says. -/
theorem beside_run {validator : Validator} {others : Bool} {floor : Floor} :
    Beside layout (.run validator) others floor ↔
      validator.Stage (Taken layout others) (TakenAlone layout others) (Taken layout others)
        floor.rig ∧ Crowd others floor.clients := by
  constructor
  · rintro ⟨hproper, htaken, hspare, hcrowd⟩
    exact ⟨.of_tidy hproper htaken hspare, hcrowd⟩
  · rintro ⟨hstage, hcrowd⟩
    refine ⟨hstage.tidy, fun hlive => ?_, fun hlive => ?_, hcrowd⟩
    · rcases hstage.cases with ⟨hnone, -⟩ | ⟨-, halone⟩ | ⟨hnone, -⟩
      · exact nomatch hnone.symm.trans hlive
      · exact halone
      · exact nomatch hnone.symm.trans hlive
    · rcases hstage.cases with ⟨-, htaken⟩ | ⟨hholds, -⟩ | ⟨-, htaken⟩
      · exact htaken
      · exact nomatch hholds.symm.trans hlive
      · exact htaken

theorem open_sound (hlayout : layout.validate = .ok (.ok ())) :
    Act.Leads (Sound layout) (perform .open) (fun _ => Sound layout) fun _ => Sound layout := by
  refine Act.Leads.of_forall fun taken => ?_
  have hstart := Session.start_leads (init_leads taken) (opening_leads hlayout taken)
  refine ((onRig_leads (C := Crowd taken) hstart).on_fault fun _ _ hs => hs.1.elim).bind
    fun outcome => ?_
  cases outcome with
  | error error => exact .pure _ fun _ hs => ⟨taken, hs⟩
  | ok handle =>
      refine (join_leads (.session handle) _).pre ?_
      rintro floor ⟨⟨rfl, halone⟩, hcrowd⟩
      exact ⟨taken, rfl, fun _ => halone, nofun, hcrowd⟩

/-- A client stands aside for what it does. -/
theorem aside_leads {act : Act Floor (Except FlashError Unit)} (index : Nat)
    (h : ∀ others, Act.Leads (Beside layout client others) act (fun _ => Sound layout)
      fun _ => Sound layout) :
    Act.Leads (fun floor => Sound layout floor ∧ floor.clients[index]? = some client)
      (leave index >>= fun _ => act) (fun _ => Sound layout) fun _ => Sound layout :=
  (leave_leads index).bind fun _ => .of_forall h

theorem free_sound (index : Nat) :
    Act.Leads (Sound layout) (perform (.free index)) (fun _ => Sound layout)
      fun _ => Sound layout := by
  refine withClient_leads fun client hproper => ?_
  cases client with
  | run => exact .pure _ fun _ hs => hs.1
  | session handle =>
      obtain rfl : handle = _ := hproper
      refine aside_leads index fun others => ?_
      have hfree : Attempt.Leads _ (Session.free ⟨Rig.device.traced⟩) (fun _ => Taken layout others)
          (fun _ _ => False) fun _ _ => False := Session.free_leads (free_leads others)
      refine (onRig_leads (C := Crowd others) hfree).mono (fun _ hs => ⟨hs.taken rfl, hs.crowd⟩)
        (fun answer _ hs => ?_) fun _ _ hs => hs.1.elim
      cases answer with
      | ok => exact ⟨others, hs⟩
      | error => exact hs.1.elim

theorem drop_sound (hlayout : layout.validate = .ok (.ok ())) (index : Nat) :
    Act.Leads (Sound layout) (perform (.drop index)) (fun _ => Sound layout)
      fun _ => Sound layout := by
  refine withClient_leads fun client hproper => aside_leads index fun others => ?_
  have hbrackets := taken_brackets hlayout others (CycleTimer.standing_apart 32 0)
  -- whatever the client had, the others are left
  have hothers {P : Traced Rig → Prop} {act : Act (Traced Rig) Unit}
      (h : Act.Leads P act (fun _ => Taken layout others) fun _ => Taken layout others) :
      Act.Leads (fun floor => P floor.rig ∧ Crowd others floor.clients)
        (onRig act >>= fun _ => (pure (.ok ()) : Act Floor (Except FlashError Unit)))
        (fun _ => Sound layout) fun _ => Sound layout :=
    ((onRig_leads h).on_fault fun _ _ hs => ⟨others, hs⟩).bind fun _ =>
      .pure _ fun _ hs => ⟨others, hs⟩
  cases client with
  | session handle =>
      obtain rfl : handle = _ := hproper
      exact (hothers hbrackets.drop).pre fun _ hs => ⟨hs.taken rfl, hs.crowd⟩
  | run validator =>
      refine (hothers ((hbrackets.abandon validator).post fun _ _ hs => ?_)).pre fun _ hs =>
        beside_run.mp hs
      exact hs.elim And.right id

theorem call_sound (index : Nat) (call : FlashCall) :
    Act.Leads (Sound layout) (perform (.call index call)) (fun _ => Sound layout)
      fun _ => Sound layout := by
  refine withClient_leads fun client hproper => ?_
  cases client with
  | run => exact .pure _ fun _ hs => hs.1
  | session handle =>
      obtain rfl : handle = _ := hproper
      have halone {floor : Floor}
          (hs : TakenAlone layout false floor.rig ∧ Crowd true floor.clients) :
          Sound layout floor := ⟨true, ⟨hs.1.1.2, hs.1.2⟩, hs.2⟩
      have hkeeps : Rig.device.traced.Keeps (TakenAlone layout false) fun _ => True :=
        takenAlone_keeps false
      have hcall := onRig_leads (C := Crowd true) (hkeeps.call call)
      refine Act.Leads.bind (hcall.mono ?_ (fun _ _ hs => hs) fun _ _ => halone) fun _ =>
        .pure _ fun _ => halone
      rintro floor ⟨⟨taken, htaken, hcrowd⟩, hclient⟩
      obtain rfl := hcrowd.taken_of_live hclient rfl
      exact ⟨⟨⟨rfl, htaken.1⟩, htaken.2⟩, hcrowd⟩

theorem step_sound (hlayout : layout.validate = .ok (.ok ())) (index : Nat)
    {timer : CycleTimer Rig} (htimer : timer.Apart) :
    Act.Leads (Sound layout) (perform (.step index timer htimer)) (fun _ => Sound layout)
      fun _ => Sound layout := by
  refine withClient_leads fun client _ => ?_
  cases client with
  | session => exact .pure _ fun _ hs => hs.1
  | run validator =>
      refine aside_leads index fun others => ?_
      have hevent := onRig_leads (C := Crowd others)
        ((taken_brackets hlayout others htimer).onEvent validator)
      refine Act.Leads.bind (hevent.mono (fun _ => beside_run.mp) (fun _ _ hs => hs)
        fun _ _ hs => ⟨others, hs⟩) fun next => ?_
      exact (join_leads (.run next) _).pre fun _ hs => ⟨others, beside_run.mpr hs⟩

theorem failInit_sound (fails : Bool) :
    Act.Leads (Sound layout) (perform (.failInit fails)) (fun _ => Sound layout)
      fun _ => Sound layout := by
  refine Act.Leads.of_forall fun taken => ?_
  have hchange : Act.Leads (Rig.Stands layout taken)
      (Rig.changeCtrl fun ctrl => { ctrl with failInit := fails })
      (fun _ => Rig.Stands layout taken) fun _ _ => False :=
    .change _ fun _ hs => ⟨{ hs.1 with }, hs.2⟩
  refine Act.Leads.bind ((onRig_leads (C := Crowd taken) (Act.beneath_leads
    (T := (Turns · taken)) hchange)).on_fault
    fun _ _ hs => hs.1.1.elim) fun _ => ?_
  exact .pure _ fun _ hs => ⟨taken, hs⟩

/-- **One deed**, whatever comes of it. -/
theorem perform_sound (hlayout : layout.validate = .ok (.ok ())) (deed : Deed) :
    Act.Leads (Sound layout) (perform deed) (fun _ => Sound layout) fun _ => Sound layout := by
  cases deed with
  | «open» => exact open_sound hlayout
  | free index => exact free_sound index
  | drop index => exact drop_sound hlayout index
  | call index call => exact call_sound index call
  | failInit fails => exact failInit_sound fails
  | begin config =>
      refine (join_leads (.run { config }) _).pre fun floor ⟨taken, htaken, hcrowd⟩ => ?_
      exact ⟨taken, beside_run.mpr ⟨.fresh htaken, hcrowd⟩⟩
  | step index timer apart => exact step_sound hlayout index apart

/-- **Any number of deeds.** The induction is on them, with `Sound` as the invariant. -/
theorem after_sound (hlayout : layout.validate = .ok (.ok ())) (deeds : List Deed)
    (world : World Floor) (h : Sound layout world.state) :
    Sound layout (after deeds world).state := by
  induction deeds generalizing world with
  | nil => exact h
  | cons deed rest ih =>
      have hdeed : Act.Keeps (Sound layout) (perform deed) := perform_sound hlayout deed
      exact ih _ (hdeed.runOn world h)

/-! ### What comes of a deed -/

/-- The answer to a client that wants to open a session. -/
def answer (floor : Floor) : Except FlashError Unit :=
  if floor.rig.hardware.ctrl.failInit then .error .initFailure
  else if floor.live = 0 then .ok ()
  else .error .alreadyOpen

/-- What an opening that is refused makes of the floor: the driver was asked, and that is all. -/
def refused (floor : Floor) (error : FlashError) : Floor :=
  { floor with rig := { floor.rig with calls := floor.rig.calls ++ [.init (.error error)] } }

/-- What a client that gives the driver back makes of the floor. -/
def released (floor : Floor) (index : Nat) : Floor where
  rig := { hardware := { floor.rig.hardware with lock := { held := false } }
           calls := floor.rig.calls ++ [.free (.ok ())] }
  clients := floor.clients.eraseIdx index

variable {floor : Floor} {index : Nat}

theorem Sound.fresh {rig : Rig} (hon : rig.ctrl.On layout) (hfree : rig.lock.held = false) :
    Sound layout { rig := { hardware := rig } } :=
  ⟨false, ⟨⟨hon, hfree⟩, rfl⟩, List.forall_mem_nil _, rfl⟩

theorem Sound.live_eq (h : Sound layout floor) : floor.live = floor.held.toNat := by
  obtain ⟨taken, ⟨⟨-, hheld⟩, -⟩, hcrowd⟩ := h
  exact hcrowd.live.trans (congrArg Bool.toNat hheld.symm)

theorem Sound.answer_eq (h : Sound layout floor) :
    floor.answer = floor.rig.hardware.admission := by
  have hlive := h.live_eq
  unfold held at hlive
  unfold answer Rig.admission
  rw [hlive]
  cases floor.rig.hardware.lock.held <;> rfl

theorem Sound.held_of_live (h : Sound layout floor) (hclient : floor.clients[index]? = some client)
    (hlive : client.live = true) : floor.held = true := by
  obtain ⟨taken, ⟨⟨-, hheld⟩, -⟩, hcrowd⟩ := h
  exact hheld.trans (hcrowd.taken_of_live hclient hlive)

/-- Nobody is live once the live client has left. -/
theorem Sound.released_live (h : Sound layout floor)
    (hclient : floor.clients[index]? = some client) (hlive : client.live = true) :
    (floor.released index).live = 0 := by
  obtain ⟨taken, -, hcrowd⟩ := h
  obtain ⟨others, ⟨-, halone⟩, -, hrest⟩ := hcrowd.leave hclient
  exact hrest.live.trans (congrArg Bool.toNat (halone hlive))

theorem open_refused {error : FlashError} (h : floor.rig.hardware.admission = .error error) :
    Act.Ends (· = floor) (perform .open) (.error error) (· = floor.refused error) := by
  have hinit : Attempt.Ends (· = floor.rig) Rig.device.traced.init floor.rig.hardware.admission _ :=
    Attempt.answered_ends (Rig.init_ends _)
  rw [Rig.admitted, h] at hinit
  have hstart : Attempt.Ends _ (Session.start Rig.device.traced) _ _ := .bind_error hinit
  exact .bind (Act.Ends.zoom hstart) (.pure _)

theorem open_granted (hlayout : layout.validate = .ok (.ok ())) (hsound : Sound layout floor)
    (h : floor.rig.hardware.admission = .ok ()) :
    Act.Leads (· = floor) (perform .open)
      (fun answer next => answer = .ok () ∧
        next.clients = floor.clients ++ [.session ⟨Rig.device.traced⟩]) fun _ _ => False := by
  obtain ⟨taken, htaken, -⟩ := hsound
  have hanswer : Attempt.Ends (· = floor.rig) Rig.device.traced.init
      floor.rig.hardware.admission _ := Attempt.answered_ends (Rig.init_ends _)
  rw [h] at hanswer
  have hinit : Attempt.Leads (· = floor.rig) Rig.device.traced.init
      (fun _ => TakenAlone layout taken) (fun _ _ => False) fun _ _ => False := by
    have htakes := (init_leads taken).pre fun traced (heq : traced = floor.rig) => heq ▸ htaken
    refine ((Act.Leads.of_ends (S := fun _ _ => False) hanswer).and htakes).mono
      (fun _ heq => heq) ?_ fun _ _ hs => hs.1
    rintro answer traced ⟨⟨rfl, -⟩, halone⟩
    exact halone
  have hstart := Session.start_leads hinit (opening_leads hlayout taken)
  refine Act.Leads.bind (Act.Leads.mono (onRig_leads (C := (· = floor.clients)) hstart)
    (fun _ heq => heq ▸ ⟨rfl, rfl⟩) (fun _ _ hs => hs) fun _ _ hs => hs.1) fun answer => ?_
  cases answer with
  | error error => exact .pure _ fun _ hs => hs.1.elim
  | ok handle =>
      refine .bind
        (Q := fun _ next => next.clients = floor.clients ++ [.session ⟨Rig.device.traced⟩])
        (.change _ ?_) fun _ => .pure _ fun _ hs => ⟨rfl, hs⟩
      rintro next ⟨⟨rfl, -⟩, hclients⟩
      exact hclients ▸ rfl

/-- **An opening** is answered as the floor says, and a refused one changes nothing. -/
theorem open_answer (hlayout : layout.validate = .ok (.ok ())) (hsound : Sound layout floor)
    (now : World Floor) (hnow : now.state = floor) :
    ∃ next, (perform .open).runOn now = (.ok floor.answer, next) ∧
      match floor.answer with
      | .ok () => next.state.live = 1
      | .error error => next.state = floor.refused error := by
  rw [hsound.answer_eq]
  cases hadmission : floor.rig.hardware.admission with
  | error error => exact open_refused hadmission now hnow
  | ok =>
      have hopen := (open_granted hlayout hsound hadmission).and
        ((open_sound hlayout).pre fun _ heq => heq ▸ hsound)
      obtain ⟨answer, next, hrun, ⟨rfl, hclients⟩, hnext⟩ :=
        (hopen.on_fault fun _ _ hs => hs.1).returns now hnow
      refine ⟨next, hrun, ?_⟩
      have hclient : next.state.clients[floor.clients.length]? =
          some (.session ⟨Rig.device.traced⟩) := by
        rw [hclients, List.getElem?_concat_length]
      rw [hnext.live_eq, hnext.held_of_live hclient rfl]
      rfl

theorem withClient_ends {deed : Client → Act Floor (Except FlashError Unit)}
    {answer : Except FlashError Unit} {Q : Floor → Prop}
    (hclient : floor.clients[index]? = some client)
    (h : Act.Ends (· = floor) (deed client) answer Q) :
    Act.Ends (· = floor) (withClient index deed) answer Q := by
  refine .state fun now heq => ?_
  subst heq
  rw [hclient]
  exact h

theorem leave_ends :
    Act.Ends (· = floor) (leave index) ()
      (· = { floor with clients := floor.clients.eraseIdx index }) :=
  .change _ fun _ heq => heq ▸ rfl

section Release

variable (hheld : floor.held = true)

include hheld

theorem device_free_ends :
    Attempt.Ends (· = floor.rig) Rig.device.traced.free (.ok ()) (· = (floor.released index).rig) :=
  Attempt.answered_ends (Rig.free_ends hheld)

/-- A session that is freed gives the driver back. -/
theorem free_ends (hclient : floor.clients[index]? = some (.session ⟨Rig.device.traced⟩)) :
    Act.Ends (· = floor) (perform (.free index)) (.ok ()) (· = floor.released index) := by
  have hfree : Attempt.Ends (· = floor.rig) (Session.free ⟨Rig.device.traced⟩) (.ok ())
      (· = (floor.released index).rig) := .bind (device_free_ends hheld) (.note _ _)
  exact withClient_ends hclient (.bind leave_ends (Act.Ends.zoom hfree))

/-- So does a live client that is dropped. -/
theorem drop_ends (hclient : floor.clients[index]? = some client) (hproper : client.Proper)
    (hlive : client.live = true) :
    Act.Ends (· = floor) (perform (.drop index)) (.ok ()) (· = floor.released index) := by
  have hdrop : Act.Ends (· = floor.rig) (Session.drop ⟨Rig.device.traced⟩) ()
      (· = (floor.released index).rig) := Act.Ends.bind (device_free_ends hheld) (.pure _)
  refine withClient_ends hclient (.bind leave_ends ?_)
  cases client with
  | session handle =>
      obtain rfl : handle = _ := hproper
      exact .bind (Act.Ends.zoom hdrop) (.pure _)
  | run validator => exact .bind (Act.Ends.zoom (.pos hlive hdrop)) (.pure _)

end Release

theorem Sound.release_ends (h : Sound layout floor) (hclient : floor.clients[index]? = some client)
    (hlive : client.live = true) {deed : Deed} (hdeed : deed ∈ client.releases index) :
    Act.Ends (· = floor) (perform deed) (.ok ()) (· = floor.released index) := by
  have hheld := h.held_of_live hclient hlive
  obtain ⟨_, -, hcrowd⟩ := h
  have hproper := hcrowd.proper _ (List.mem_of_getElem? hclient)
  cases client with
  | run validator =>
      obtain rfl := List.mem_singleton.mp hdeed
      exact drop_ends hheld hclient hproper hlive
  | session handle =>
      obtain rfl : handle = ⟨Rig.device.traced⟩ := hproper
      rcases List.mem_pair.mp hdeed with rfl | rfl
      · exact drop_ends hheld hclient rfl hlive
      · exact free_ends hheld hclient

/-- **At most one session.** After any deeds the driver is held exactly if a session is open, and no
more than one is. Another one is opened or refused accordingly, and whoever has the one that is open
gives the driver back by dropping or freeing it. -/
theorem one_session (hlayout : layout.validate = .ok (.ok ())) {rig : Rig}
    (hon : rig.ctrl.On layout) (hfree : rig.lock.held = false) (deeds : List Deed) (log : Log) :
    let now := after deeds { state := { rig := { hardware := rig } }, log }
    let floor := now.state
    (floor.live ≤ 1 ∧ (floor.held = true ↔ floor.live = 1) ∧ Turns floor.rig.calls floor.held) ∧
      (∃ next, (perform .open).runOn now = (.ok floor.answer, next) ∧
        match floor.answer with
        | .ok () => next.state.live = 1
        | .error error => next.state = floor.refused error) ∧
      ∀ index client, floor.clients[index]? = some client → client.live = true →
        (floor.released index).live = 0 ∧ ∀ deed ∈ client.releases index,
          ∃ next, (perform deed).runOn now = (.ok (.ok ()), next) ∧
            next.state = floor.released index := by
  intro now floor
  have hsound : Sound layout floor := after_sound hlayout deeds _ (Sound.fresh hon hfree)
  refine ⟨⟨?_, ?_, ?_⟩, ?_, fun index client hclient hlive => ⟨?_, fun deed hdeed => ?_⟩⟩
  · rw [hsound.live_eq]
    exact Bool.toNat_le _
  · rw [hsound.live_eq]
    cases floor.held <;> decide
  · obtain ⟨_, ⟨⟨-, rfl⟩, hturns⟩, -⟩ := hsound
    exact hturns
  · exact open_answer hlayout hsound now rfl
  · exact hsound.released_live hclient hlive
  · exact hsound.release_ends hclient hlive hdeed now rfl

/-- A session, and a run that cannot have one meanwhile. -/
def smallDeeds : List Deed :=
  [.open, .begin {}, .step 1 (.standing 32 0) (CycleTimer.standing_apart 32 0), .failInit true]

theorem one_session_smallDeeds :
    smallLayout.validate = .ok (.ok ()) ∧ smallRig.ctrl.On smallLayout ∧
      smallRig.lock.held = false ∧
      ∃ now : World Floor, now = after smallDeeds { state := { rig := { hardware := smallRig } } } ∧
        now.state.live = 1 ∧ now.state.held = true ∧
        Turns [.init (.ok ()), .init (.error .alreadyOpen)] true ∧
        (∃ next, (perform .open).runOn now = (.ok (.error .initFailure), next) ∧
          next.state = now.state.refused .initFailure) ∧
        ∃ next, (perform (.free 0)).runOn now = (.ok (.ok ()), next) ∧
          next.state = now.state.released 0 := by
  have hlayout : smallLayout.validate = .ok (.ok ()) := rfl
  have hon : smallRig.ctrl.On smallLayout := Controller.create_on rfl rfl _ none
  obtain ⟨⟨-, hheld, hturns⟩, hopen, hrelease⟩ := one_session hlayout hon rfl smallDeeds {}
  have hlive : (after smallDeeds { state := { rig := { hardware := smallRig } } }).state.live = 1 :=
    rfl
  exact ⟨hlayout, hon, rfl, _, rfl, hlive, hheld.mpr hlive, hturns, hopen,
    (hrelease 0 (.session ⟨Rig.device.traced⟩) rfl rfl).2 (.free 0) (by simp [Client.releases])⟩

end Floor

end FlashBench
