import FlashBench.Geometry.SectorMap

/-!
# Words as numbers

What the operations on 32-bit words say about the numbers the words stand for. Everything later is
stated in natural numbers, where nothing wraps.
-/

namespace FlashBench.Word

theorem toNat_lt_span32 (a : UInt32) : a.toNat < span32 := a.toNat_lt

/-- A word has no remainder exactly when the divisor divides it; a zero divisor leaves the word as
it is, and divides nothing but zero. -/
theorem mod_eq_zero_iff (a b : UInt32) : a % b = 0 ↔ b.toNat ∣ a.toNat := by
  rw [← UInt32.toNat_inj, UInt32.toNat_mod]
  exact Nat.dvd_iff_mod_eq_zero.symm

theorem ne_zero_iff (a : UInt32) : a ≠ 0 ↔ 0 < a.toNat := by
  rw [Ne, ← UInt32.toNat_inj]
  exact Nat.pos_iff_ne_zero.symm

theorem low32_toNat (a : UInt32) : low32 a.toNat = a := UInt32.ofNat_toNat

theorem toNat_ofNat_of_lt {n : Nat} (h : n < span32) : (UInt32.ofNat n).toNat = n :=
  UInt32.toNat_ofNat_of_lt' h

/-- Cutting a number to a word forgets whole turns of the address space. -/
theorem low32_span32_add (n : Nat) : low32 (span32 + n) = low32 n := by
  apply UInt32.toNat_inj.mp
  simp [low32, span32]

theorem toNat_pred {a : UInt32} (h : a ≠ 0) : (a - 1).toNat = a.toNat - 1 := by
  rw [UInt32.toNat_sub_of_le a 1 (UInt32.le_iff_toNat_le.mpr ((ne_zero_iff a).mp h))]
  rfl

theorem le_max32 (a : UInt32) : a ≤ max32 :=
  UInt32.le_iff_toNat_le.mpr (Nat.le_of_lt_succ a.toNat_lt)

theorem min_max32 (a : UInt32) : min max32 a = a := by
  show (if max32 ≤ a then max32 else a) = a
  by_cases h : max32 ≤ a
  · rw [if_pos h, UInt32.le_antisymm h (le_max32 a)]
  · rw [if_neg h]

theorem max_eq_ite (a b : UInt32) : max a b = if a ≤ b then b else a := rfl

/-- With this the lemmas on the largest element of a list hold for words. -/
instance instLawfulOrderMax : Std.LawfulOrderMax UInt32 := by
  apply Std.LawfulOrderMax.of_max_le_iff
  · intro a b c
    rw [max_eq_ite]
    by_cases h : a ≤ b
    · rw [if_pos h]
      exact ⟨fun hb => ⟨UInt32.le_trans h hb, hb⟩, fun hboth => hboth.2⟩
    · rw [if_neg h]
      have hba : b ≤ a := UInt32.le_of_lt (UInt32.not_le.mp h)
      exact ⟨fun ha => ⟨ha, UInt32.le_trans hba ha⟩, fun hboth => hboth.1⟩
  · intro a b
    rw [max_eq_ite]
    by_cases h : a ≤ b
    · exact .inr (if_pos h)
    · exact .inl (if_neg h)

theorem max_zero (a : UInt32) : max 0 a = a := if_pos UInt32.zero_le

theorem fit32_of_lt {n : Nat} (h : n < span32) : fit32 n = .ok (UInt32.ofNat n) := if_pos h

theorem fit32_of_le {n : Nat} (h : span32 ≤ n) : fit32 n = .error .arithmetic :=
  if_neg (Nat.not_lt_of_le h)

theorem toNat_of_fit32 {n : Nat} {a : UInt32} (h : fit32 n = .ok a) : a.toNat = n := by
  by_cases hlt : n < span32
  · rw [fit32_of_lt hlt] at h
    rw [← Except.ok.inj h, toNat_ofNat_of_lt hlt]
  · rw [fit32_of_le (Nat.le_of_not_lt hlt)] at h
    cases h

theorem minus_of_le {a b : Nat} (h : b ≤ a) : minus a b = .ok (a - b) := if_pos h

theorem remainder_of_dvd {a b : Nat} (hpos : 0 < b) (h : b ∣ a) : remainder a b = .ok 0 := by
  rw [remainder, if_neg (Nat.ne_of_gt hpos), Nat.mod_eq_zero_of_dvd h]

theorem remainder_of_pos (a : Nat) {b : Nat} (h : 0 < b) : remainder a b = .ok (a % b) :=
  if_neg (Nat.ne_of_gt h)

theorem fit64_of_lt {n : Nat} (h : n < span64) : fit64 n = .ok n := if_pos h

theorem fit64_eq_ok_iff {n m : Nat} : fit64 n = .ok m ↔ n < span64 ∧ n = m := by
  unfold fit64
  by_cases h : n < span64
  · rw [if_pos h]
    exact ⟨fun heq => ⟨h, Except.ok.inj heq⟩, fun heq => congrArg Except.ok heq.2⟩
  · rw [if_neg h]
    exact ⟨nofun, fun heq => absurd heq.1 h⟩

/-- A computation that has a value had one at every step. -/
theorem bind_eq_ok_iff {ε α β : Type} {x : Except ε α} {f : α → Except ε β} {b : β} :
    x >>= f = .ok b ↔ ∃ a, x = .ok a ∧ f a = .ok b := by
  cases x with
  | error fault => exact ⟨nofun, fun ⟨_, h, _⟩ => nomatch h⟩
  | ok a => exact ⟨fun h => ⟨a, rfl, h⟩, fun ⟨_, ha, h⟩ => Except.ok.inj ha ▸ h⟩

end FlashBench.Word
