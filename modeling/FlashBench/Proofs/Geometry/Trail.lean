import FlashBench.Proofs.Device.Watched
import FlashBench.Proofs.Geometry.Window
import Mathlib.Data.List.Basic

/-!
# What a walk comes to

A walk over a device that answers every question for a sector size **with whatever it likes**: with
nothing, with the reserved size, with sectors that reach over the end of the window or over the top
of the address space, and differently each time it is asked. The window may leave the address space.

* **A trail** (`SectorWalk.Trail`) is a walk as the answers make it: sectors that start inside the
  window, and the way it ends. Each sector takes at least one byte, so what is left of the window
  becomes less with every step, and every walk has a trail (`exists_course`).
* **The balance** (`Trail.balance`): the bytes of the sectors and the size of the window agree
  exactly when the walk ends without an error, and what is too much is what the overshoot says.
* **The course** (`SectorWalk.course`): the trail determines each call of `next`, before and after
  the end, and with it what the device is asked.
-/

namespace FlashBench

variable {σ : Type}

/-- The bytes of all the sectors. -/
def Sector.bytes : List Sector → Nat
  | [] => 0
  | sector :: rest => sector.size.toNat + bytes rest

namespace SectorWalk

/-! ## Trails -/

/-- How a walk ends at the offset `last`: it has arrived at the stop, it has stepped over it, or it
was told a size that does not get it any further. -/
inductive Ending (stop last : Nat) : Option GeometryError → Prop
  | arrived (h : last = stop) : Ending stop last none
  | overshot (h : stop < last) : Ending stop last (some (.overshoot last stop))
  | unusable {size : UInt32} (h : last < stop) (hsize : size = 0 ∨ size = invalidSize) :
      Ending stop last (some (.invalidSectorSize (Word.low32 last) size))

/-- From the offset the walk steps over the sectors, of which each starts before the stop, and then
it ends. -/
inductive Trail (stop : Nat) : Nat → List Sector → Option GeometryError → Prop
  | ends {offset : Nat} {ending : Option GeometryError} (h : Ending stop offset ending) :
      Trail stop offset [] ending
  | steps {offset : Nat} {size : UInt32} {rest : List Sector} {ending : Option GeometryError}
      (hinside : offset < stop) (husable : ¬ (size = 0 ∨ size = invalidSize))
      (hrest : Trail stop (offset + size.toNat) rest ending) :
      Trail stop offset (⟨Word.low32 offset, size⟩ :: rest) ending

namespace Trail

variable {stop offset : Nat} {sectors : List Sector} {ending : Option GeometryError}

theorem path (h : Trail stop offset sectors ending) :
    Sector.Path offset sectors (offset + Sector.bytes sectors) := by
  induction h with
  | ends => rfl
  | steps _ _ _ ih =>
      refine ⟨rfl, ?_⟩
      rwa [Sector.bytes, ← Nat.add_assoc]

/-- The walk ends where its sectors end. -/
theorem last (h : Trail stop offset sectors ending) :
    Ending stop (offset + Sector.bytes sectors) ending := by
  induction h with
  | ends h => exact h
  | steps _ _ _ ih => rwa [Sector.bytes, ← Nat.add_assoc]

/-- No sector is empty, so there are no more of them than bytes. -/
theorem length_le (h : Trail stop offset sectors ending) : sectors.length ≤ stop - offset := by
  induction h with
  | ends => exact Nat.zero_le _
  | steps hinside husable _ ih =>
      have hpos := (Word.ne_zero_iff _).mp (not_or.mp husable).1
      rw [List.length_cons]
      omega

/-- Only the last sector reaches over the stop, and by less than a word. -/
theorem last_lt (h : Trail stop offset sectors ending) :
    offset + Sector.bytes sectors < max (offset + 1) (stop + Word.span32) := by
  induction h with
  | ends => exact Nat.lt_of_lt_of_le (Nat.lt_succ_self _) (Nat.le_max_left _ _)
  | @steps offset size rest _ hinside _ _ ih =>
      have hword := Word.toNat_lt_span32 size
      rw [Sector.bytes]
      dsimp only
      omega

end Trail

/-- The sectors of a walk and the way it ended account for a window of `size` bytes from `start`
on. -/
structure Balance (start size : UInt32) (sectors : List Sector) (ending : Option GeometryError) :
    Prop where
  /-- The sectors follow each other from the start on. -/
  path : Sector.Path start.toNat sectors (start.toNat + Sector.bytes sectors)
  length_le : sectors.length ≤ size.toNat
  ends : Ending (start.toNat + size.toNat) (start.toNat + Sector.bytes sectors) ending
  exact_iff : Sector.bytes sectors = size.toNat ↔ ending = none
  over_iff : size.toNat < Sector.bytes sectors ↔
    ∃ last expected, ending = some (.overshoot last expected)
  excess : ∀ last expected, ending = some (.overshoot last expected) →
    last = expected + (Sector.bytes sectors - size.toNat)

/-- **Every byte is accounted for.** -/
theorem Trail.balance {start size : UInt32} {sectors : List Sector}
    {ending : Option GeometryError}
    (h : Trail (start.toNat + size.toNat) start.toNat sectors ending) :
    Balance start size sectors ending := by
  have hlength := h.length_le
  have hending := h.last
  refine ⟨h.path, by omega, hending, ?_, ?_, ?_⟩
  · cases hending with
    | arrived harrived => exact iff_of_true (by omega) rfl
    | overshot hover => exact iff_of_false (by omega) nofun
    | unusable hshort => exact iff_of_false (by omega) nofun
  · cases hending with
    | arrived harrived => exact iff_of_false (by omega) nofun
    | overshot hover => exact iff_of_true (by omega) ⟨_, _, rfl⟩
    | unusable hshort => exact iff_of_false (by omega) nofun
  · rintro last expected rfl
    cases hending
    omega

/-! ## Calls of `next` -/

/-- A call of `next`: the walk it was made on, and its answer. -/
structure Call where
  before : SectorWalk
  answer : Option (Except GeometryError Sector)

/-- The call starts inside the window, on a walk that has not ended. -/
def Call.Inside (call : Call) : Prop :=
  call.before.done = false ∧ call.before.offset < call.before.stop

instance (call : Call) : Decidable call.Inside := inferInstanceAs (Decidable (_ ∧ _))

/-- The sector size that the answer tells of. -/
def Call.told (call : Call) : Option Sector :=
  match call.answer with
  | some (.ok sector) => some sector
  | some (.error (.invalidSectorSize address size)) => some ⟨address, size⟩
  | _ => none

/-- Calls `next` a number of times, whatever it answers. -/
def calls (device : Device σ) : Nat → SectorWalk → Act σ (List Call)
  | 0, _ => return []
  | n + 1, walk => do
    let (answer, after) ← walk.next device
    return ⟨walk, answer⟩ :: (← calls device n after)

/-- All that a walk has to answer, in order. -/
def collected (sectors : List Sector) (ending : Option GeometryError) :
    List (Except GeometryError Sector) :=
  sectors.map .ok ++ (ending.map .error).toList

/-- The first calls on a walk with a trail. After its end each call finds it done. -/
def course (ending : Option GeometryError) : SectorWalk → List Sector → Nat → List Call
  | _, _, 0 => []
  | walk, [], n + 1 =>
      ⟨walk, ending.map .error⟩ :: List.replicate n ⟨{ walk with done := true }, none⟩
  | walk, sector :: rest, n + 1 =>
      ⟨walk, some (.ok sector)⟩ ::
        course ending { walk with offset := walk.offset + sector.size.toNat } rest n

theorem Balance.collected_length_le {start size : UInt32} {sectors : List Sector}
    {ending : Option GeometryError} (h : Balance start size sectors ending) :
    (collected sectors ending).length ≤ size.toNat + 1 := by
  have hlength := h.length_le
  have herror : (ending.map (.error : _ → Except GeometryError Sector)).toList.length ≤ 1 := by
    cases ending <;> simp
  rw [collected, List.length_append, List.length_map]
  omega

section Course

variable {ending : Option GeometryError} {walk : SectorWalk} {sectors : List Sector} {call : Call}

/-- **The answers** are what the walk has to answer, one after the other, and nothing after that. -/
theorem course_answers (walk : SectorWalk) (sectors : List Sector) (n : Nat) :
    (course ending walk sectors n).map (·.answer) =
      (List.range n).map fun i => (collected sectors ending)[i]? := by
  fun_induction course ending walk sectors n with
  | case1 => rfl
  | case2 walk n =>
      rw [List.range_succ_eq_map]
      cases ending <;> simp [collected, Function.comp_def, List.map_const']
  | case3 walk sector rest n ih =>
      rw [List.range_succ_eq_map, List.map_cons, ih, List.map_cons, List.map_map]
      rfl

/-- With one call more than there are answers the walk is collected. -/
theorem course_collected (walk : SectorWalk) (sectors : List Sector) :
    (course ending walk sectors ((collected sectors ending).length + 1)).map (·.answer) =
      (collected sectors ending).map some ++ [none] := by
  rw [course_answers, List.range_succ, List.map_append, List.map_singleton,
    List.getElem?_eq_none (Nat.le_refl _)]
  congr 1
  exact List.ext_getElem (by simp) (by simp)

/-- The calls stay between the offset of the walk and the end of its sectors. -/
theorem course_offset (walk : SectorWalk) (sectors : List Sector) (n : Nat) :
    ∀ call ∈ course ending walk sectors n,
      call.before.offset ≤ walk.offset + Sector.bytes sectors ∧ call.before.stop = walk.stop := by
  fun_induction course ending walk sectors n with
  | case1 => nofun
  | case2 walk n =>
      intro call hcall
      rcases List.mem_cons.mp hcall with rfl | hafter
      · exact ⟨Nat.le_add_right _ _, rfl⟩
      · rw [List.eq_of_mem_replicate hafter]
        exact ⟨Nat.le_add_right _ _, rfl⟩
  | case3 walk sector rest n ih =>
      intro call hcall
      rcases List.mem_cons.mp hcall with rfl | hrest
      · exact ⟨Nat.le_add_right _ _, rfl⟩
      · rw [Sector.bytes, ← Nat.add_assoc]
        exact ih call hrest

/-- **One size is told** by a call that starts inside the window, the one at its offset, and none by
any other call. -/
theorem Trail.course_told (n : Nat) (h : Trail walk.stop walk.offset sectors ending)
    (hdone : walk.done = false) :
    ∀ call ∈ course ending walk sectors n,
      call.told.map (·.start) =
        if call.Inside then some (Word.low32 call.before.offset) else none := by
  fun_induction course ending walk sectors n with
  | case1 => nofun
  | case2 walk n =>
      intro call hcall
      rcases List.mem_cons.mp hcall with rfl | hafter
      · cases h with
        | ends hending =>
            cases hending with
            | arrived harrived => exact (if_neg fun hin => Nat.ne_of_lt hin.2 harrived).symm
            | overshot hover => exact (if_neg fun hin => Nat.lt_asymm hin.2 hover).symm
            | unusable hshort => exact (if_pos ⟨hdone, hshort⟩).symm
      · rw [List.eq_of_mem_replicate hafter]
        exact (if_neg fun hin => nomatch hin.1).symm
  | case3 walk sector rest n ih =>
      intro call hcall
      cases h with
      | steps hinside _ hrest =>
          rcases List.mem_cons.mp hcall with rfl | hmem
          · exact (if_pos ⟨hdone, hinside⟩).symm
          · exact ih hrest hdone call hmem

/-- After the end nothing is told. -/
theorem course_nil_told (walk : SectorWalk) (n : Nat) :
    (course ending walk [] (n + 1)).filterMap Call.told =
      (Call.told ⟨walk, ending.map .error⟩).toList := by
  have hafter : (List.replicate n (Call.mk { walk with done := true } none)).filterMap Call.told =
      [] := by simp [Call.told]
  rw [course, List.filterMap_cons, hafter]
  cases Call.told ⟨walk, ending.map .error⟩ <;> rfl

end Course

/-! ## Walks over a device -/

section Run

variable {device : Device σ} {walk : SectorWalk} {world : World σ} {T : List Sector → σ → Prop}

theorem next_done (hdone : walk.done = true) :
    (walk.next device).runOn world = (.ok (none, walk), world) := by
  unfold next
  rw [if_pos hdone]
  rfl

theorem calls_succ {answer : Option (Except GeometryError Sector)} {after : SectorWalk}
    {next last : World σ} {rest : List Call} {n : Nat}
    (hnext : (walk.next device).runOn world = (.ok (answer, after), next))
    (hrest : (calls device n after).runOn next = (.ok rest, last)) :
    (calls device (n + 1) walk).runOn world = (.ok (⟨walk, answer⟩ :: rest), last) := by
  unfold calls
  rw [Act.runOn_bind, hnext]
  dsimp only
  rw [Act.runOn_bind, hrest]
  rfl

/-- Nothing comes after the end, and the device is not asked. -/
theorem calls_done (hdone : walk.done = true) (n : Nat) :
    (calls device n walk).runOn world = (.ok (List.replicate n ⟨walk, none⟩), world) := by
  induction n with
  | zero => rfl
  | succ n ih => exact calls_succ (next_done hdone) ih

/-- **One call** on a walk that has not ended either ends it or steps over a sector. -/
theorem next_cases
    (hask : ∀ asked address, Act.Leads (T asked) (device.sectorSize address)
      (fun size => T (asked ++ [⟨address, size⟩])) fun _ _ => False)
    (hdone : walk.done = false) {asked : List Sector} (hworld : T asked world.state) :
    (∃ ending next, Ending walk.stop walk.offset ending ∧
      (walk.next device).runOn world =
        (.ok (ending.map .error, { walk with done := true }), next) ∧
      T (asked ++ (Call.told ⟨walk, ending.map .error⟩).toList) next.state) ∨
    ∃ size next, walk.offset < walk.stop ∧ ¬ (size = 0 ∨ size = invalidSize) ∧
      (walk.next device).runOn world = (.ok (some (.ok ⟨Word.low32 walk.offset, size⟩),
        { walk with offset := walk.offset + size.toNat }), next) ∧
      T (asked ++ [⟨Word.low32 walk.offset, size⟩]) next.state := by
  rcases Nat.lt_trichotomy walk.offset walk.stop with hlt | heq | hgt
  · obtain ⟨size, next, hsize, hnext⟩ := (hask asked (Word.low32 walk.offset)).returns world hworld
    have hinside : ¬ walk.offset ≥ walk.stop := Nat.not_le_of_lt hlt
    by_cases husable : size = 0 ∨ size = invalidSize
    · refine .inl ⟨_, next, .unusable hlt husable, ?_, hnext⟩
      unfold SectorWalk.next
      rw [hdone, if_neg Bool.false_ne_true, if_neg hinside, Act.runOn_bind, hsize]
      exact congrArg (Act.runOn · next) (if_pos husable)
    · refine .inr ⟨size, next, hlt, husable, ?_, hnext⟩
      unfold SectorWalk.next
      rw [hdone, if_neg Bool.false_ne_true, if_neg hinside, Act.runOn_bind, hsize]
      exact congrArg (Act.runOn · next) (if_neg husable)
  · have hends : Act.Ends (T asked) (walk.next device) _ (T asked) := next_at_stop hdone heq
    obtain ⟨next, hrun, hnext⟩ := hends world hworld
    exact .inl ⟨none, next, .arrived heq, hrun, by simpa [Call.told] using hnext⟩
  · have hends : Act.Ends (T asked) (walk.next device) _ (T asked) := next_beyond hdone hgt
    obtain ⟨next, hrun, hnext⟩ := hends world hworld
    exact .inl ⟨_, next, .overshot hgt, hrun, by simpa [Call.told] using hnext⟩

/-- **Every walk has a trail**, however the device answers, and the calls of `next` take its course.
The induction is on what is left of the window. -/
theorem exists_course
    (hask : ∀ asked address, Act.Leads (T asked) (device.sectorSize address)
      (fun size => T (asked ++ [⟨address, size⟩])) fun _ _ => False)
    (hdone : walk.done = false) {asked : List Sector} (hworld : T asked world.state) :
    ∃ sectors ending, Trail walk.stop walk.offset sectors ending ∧
      ∀ n, ∃ next, (calls device n walk).runOn world =
          (.ok (course ending walk sectors n), next) ∧
        T (asked ++ (course ending walk sectors n).filterMap Call.told) next.state := by
  induction hleft : walk.remaining using Nat.strongRecOn generalizing walk asked world with
  | ind left ih =>
    rcases next_cases hask hdone hworld with
      ⟨ending, next, hending, hrun, hnext⟩ | ⟨size, next, hinside, husable, hrun, hnext⟩
    · refine ⟨[], ending, .ends hending, fun n => ?_⟩
      cases n with
      | zero => exact ⟨world, rfl, by simpa [course] using hworld⟩
      | succ n =>
          refine ⟨next, calls_succ hrun (calls_done rfl n), ?_⟩
          rwa [course_nil_told]
    · have hpos := (Word.ne_zero_iff _).mp (not_or.mp husable).1
      let after : SectorWalk := { walk with offset := walk.offset + size.toNat }
      have hless : after.remaining < left := by
        unfold remaining at *
        dsimp only [after]
        omega
      have hafter : after.done = false := hdone
      obtain ⟨rest, ending, htrail, hcalls⟩ := ih after.remaining hless hafter hnext rfl
      refine ⟨⟨Word.low32 walk.offset, size⟩ :: rest, ending, .steps hinside husable htrail,
        fun n => ?_⟩
      cases n with
      | zero => exact ⟨world, rfl, by simpa [course] using hworld⟩
      | succ n =>
          obtain ⟨last, hrest, hlast⟩ := hcalls n
          refine ⟨last, calls_succ hrun hrest, ?_⟩
          rwa [List.append_assoc] at hlast

theorem of_calls_succ {n : Nat} {made : List Call} {last : World σ}
    (hrun : (calls device (n + 1) walk).runOn world = (.ok made, last)) :
    ∃ answer after next rest, (walk.next device).runOn world = (.ok (answer, after), next) ∧
      (calls device n after).runOn next = (.ok rest, last) ∧ made = ⟨walk, answer⟩ :: rest := by
  obtain ⟨⟨answer, after⟩, next, hnext, hrun⟩ := Act.runOn_bind_eq_ok.mp hrun
  obtain ⟨rest, final, hrest, hpure⟩ := Act.runOn_bind_eq_ok.mp hrun
  cases hpure
  exact ⟨answer, after, next, rest, hnext, hrest, rfl⟩

/-- Collecting is calling `next` until there is nothing more. -/
theorem items_of_calls {found : List (Except GeometryError Sector)} {made : List Call}
    {last : World σ} {limit : Nat}
    (hrun : (calls device (found.length + 1) walk).runOn world = (.ok made, last))
    (hmade : made.map (·.answer) = found.map some ++ [none]) (hlimit : found.length < limit) :
    ∃ next, (items device limit walk).runOn world = (.ok (found.map some ++ [none]), next) := by
  induction found generalizing walk world made limit with
  | nil =>
      obtain ⟨answer, after, next, _, hnext, _, rfl⟩ := of_calls_succ hrun
      obtain rfl : answer = none := List.head_eq_of_cons_eq hmade
      obtain ⟨limit, rfl⟩ := Nat.exists_eq_add_of_lt hlimit
      refine ⟨next, ?_⟩
      unfold items
      rw [Act.runOn_bind, hnext]
      rfl
  | cons item rest ih =>
      obtain ⟨answer, after, next, others, hnext, hothers, rfl⟩ := of_calls_succ hrun
      have hcons : answer :: others.map (·.answer) = some item :: (rest.map some ++ [none]) := hmade
      obtain ⟨rfl, hrest⟩ := List.cons.inj hcons
      obtain ⟨limit, rfl⟩ := Nat.exists_eq_add_of_lt hlimit
      have hless : rest.length < rest.length + 1 + limit := by omega
      obtain ⟨final, hfinal⟩ := ih hothers hrest hless
      refine ⟨final, ?_⟩
      unfold items
      rw [Act.runOn_bind, hnext]
      dsimp only
      rw [List.length_cons, Act.runOn_bind, hfinal]
      rfl

end Run

/-- What `n` calls of `next` on a walk came to, and what the device was asked for during them. -/
structure Follows (sectors : List Sector) (ending : Option GeometryError) (n : Nat)
    (made : List Call) (asked : List Sector) : Prop where
  /-- The walk answers its sectors and its error, if it has one, and nothing after that. -/
  answers : made.map (·.answer) = (List.range n).map fun i => (collected sectors ending)[i]?
  /-- The offset of the walk and the stop fit into 64 bits all the time. -/
  fits : ∀ call ∈ made, call.before.offset < Word.span64 ∧ call.before.stop < Word.span64
  /-- Each call that starts inside the window asks for one size, at its offset; no other asks. -/
  once : asked.map (·.start) =
    (made.filter fun call => call.Inside).map fun call => Word.low32 call.before.offset
  /-- The answers of the walk tell the sizes that the device answered. -/
  told : asked = made.filterMap Call.told

end SectorWalk

/-- In every state of `inv` the device has its window, and it answers every question for a sector
size, whatever the answer is. -/
structure Device.Walkable (device : Device σ) (inv : σ → Prop) (start size : UInt32) : Prop where
  spans : device.Spans inv start size
  sectorSize : ∀ address,
    Act.Leads inv (device.sectorSize address) (fun _ => inv) fun _ _ => False

/-- Answers that depend on the address only are answers. -/
theorem Device.Reports.walkable {device : Device σ} {inv : σ → Prop} {g : Geometry}
    (h : device.Reports inv g) : device.Walkable inv g.start g.size where
  spans := h.spans
  sectorSize address := (Act.Leads.of_ends (h.sectorSize address)).post fun _ _ hs => hs.2

namespace SectorWalk

variable {inv : σ → Prop} {device : Device σ} {start size : UInt32}

theorem Trail.follows {walk : SectorWalk} {sectors : List Sector} {ending : Option GeometryError}
    (h : Trail walk.stop walk.offset sectors ending) (hdone : walk.done = false)
    (hoffset : walk.offset < Word.span32) (hstop : walk.stop < 2 * Word.span32) (n : Nat) :
    Follows sectors ending n (course ending walk sectors n)
      ((course ending walk sectors n).filterMap Call.told) := by
  refine ⟨course_answers walk sectors n, fun call hcall => ?_, ?_, rfl⟩
  · have hbounds := course_offset walk sectors n call hcall
    have hlast := h.last_lt
    rw [hbounds.2]
    unfold Word.span32 Word.span64 at *
    omega
  · rw [List.map_filterMap, List.filterMap_congr (h.course_told n hdone), ← List.filterMap_eq_map,
      List.filterMap_filter]
    simp

/-- **A walk ends and accounts for every byte.** It is collected with no more calls of `next` than
there are bytes, and two for its error and its end; and however many calls are made, they follow the
walk. -/
theorem accounts_for_every_byte (h : device.Walkable inv start size) (world : World σ)
    (hworld : inv world.state) :
    ∃ sectors ending, Balance start size sectors ending ∧
      (∀ limit, size.toNat + 1 < limit → ∃ next,
        Act.runOn (do items device.watched limit (← begin device.watched)) world.watched =
          (.ok ((collected sectors ending).map some ++ [none]), next)) ∧
      ∀ n, ∃ made next,
        Act.runOn (do calls device.watched n (← begin device.watched)) world.watched =
          (.ok made, next) ∧
        Follows sectors ending n made next.state.inquiry.sizes := by
  let walk : SectorWalk := { offset := start.toNat, stop := start.toNat + size.toNat }
  let T (asked : List Sector) (watched : Watched σ) : Prop :=
    inv watched.hardware ∧ watched.inquiry.sizes = asked
  have hstart := Word.toNat_lt_span32 start
  have hsize := Word.toNat_lt_span32 size
  obtain ⟨first, hbegin, hfirst⟩ :=
    begin_ends (h.spans.watched (T := fun inquiry => inquiry.sizes = []))
      world.watched ⟨hworld, rfl⟩
  have hask (asked : List Sector) (address : UInt32) :
      Act.Leads (T asked) (device.watched.sectorSize address)
        (fun size => T (asked ++ [⟨address, size⟩])) fun _ _ => False :=
    (Device.watched_sectorSize (h.sectorSize address) asked).on_fault fun _ _ hs => hs.1
  have hdone : walk.done = false := rfl
  obtain ⟨sectors, ending, htrail, hcalls⟩ := exists_course hask hdone hfirst
  have hbalance := htrail.balance
  refine ⟨sectors, ending, hbalance, fun limit hlimit => ?_, fun n => ?_⟩
  · obtain ⟨last, hrun, _⟩ := hcalls ((collected sectors ending).length + 1)
    obtain ⟨next, hitems⟩ := items_of_calls hrun (course_collected walk sectors)
      (Nat.lt_of_le_of_lt hbalance.collected_length_le hlimit)
    refine ⟨next, ?_⟩
    rw [Act.runOn_bind, hbegin]
    exact hitems
  · obtain ⟨last, hrun, hasked⟩ := hcalls n
    have hsizes : last.state.inquiry.sizes = (course ending walk sectors n).filterMap Call.told :=
      hasked.2
    refine ⟨_, last, ?_, hsizes ▸ htrail.follows hdone hstart (by dsimp only [walk]; omega) n⟩
    rw [Act.runOn_bind, hbegin]
    exact hrun

/-- A window beyond the top that the second sector, the one at address zero, reaches over. -/
def overreachingTable : SectorTable :=
  { turningTable with size := 0x60000000 }

theorem accounts_for_every_byte_overreachingTable :
    overreachingTable.device.Walkable (fun _ => True) 0xC0000000 0x60000000 ∧
      ∃ sectors ending, Balance 0xC0000000 0x60000000 sectors ending ∧
        ∀ n, ∃ made next,
          Act.runOn (do
            calls overreachingTable.device.watched n (← begin overreachingTable.device.watched))
            (World.watched { state := 0 }) = (.ok made, next) ∧
          Follows sectors ending n made next.state.inquiry.sizes := by
  have hwalkable : overreachingTable.device.Walkable (fun _ => True) 0xC0000000 0x60000000 :=
    overreachingTable.device_reports.walkable
  obtain ⟨sectors, ending, hbalance, _, hcalls⟩ :=
    accounts_for_every_byte hwalkable { state := 0 } trivial
  exact ⟨hwalkable, sectors, ending, hbalance, hcalls⟩

end SectorWalk

end FlashBench
