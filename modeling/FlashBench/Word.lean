import FlashBench.Action

/-!
# Machine words

Addresses, sizes and counter readings are 32-bit words; sums of them are taken in 64 bits, and a
few counts in fewer bits. The bench computes in natural numbers and checks the width where a
result is stored, so **an operation either has its exact value or is a fault**, and never wraps
unnoticed.
-/

namespace FlashBench.Word

/-- One more than the largest byte. -/
def span8 : Nat := 0x100

/-- One more than the largest 16-bit word. -/
def span16 : Nat := 0x10000

/-- One more than the largest 32-bit word. -/
def span32 : Nat := 0x100000000

/-- One more than the largest 64-bit word. -/
def span64 : Nat := 0x10000000000000000

/-- The largest 32-bit word. -/
def max32 : UInt32 := 0xFFFFFFFF

/-- A count that must fit into a byte. -/
def fit8 (n : Nat) : Except Fault Nat :=
  if n < span8 then .ok n else .error .arithmetic

/-- A number that must fit into 16 bits. -/
def fit16 (n : Nat) : Except Fault Nat :=
  if n < span16 then .ok n else .error .arithmetic

/-- A number as a 32-bit word, a fault if it does not fit. -/
def fit32 (n : Nat) : Except Fault UInt32 :=
  if n < span32 then .ok (UInt32.ofNat n) else .error .arithmetic

/-- A number that must fit into 64 bits. -/
def fit64 (n : Nat) : Except Fault Nat :=
  if n < span64 then .ok n else .error .arithmetic

/-- The difference of two numbers, a fault if it is negative. -/
def minus (a b : Nat) : Except Fault Nat :=
  if b ≤ a then .ok (a - b) else .error .arithmetic

/-- The remainder of two numbers, a fault if the divisor is zero. -/
def remainder (a b : Nat) : Except Fault Nat :=
  if b = 0 then .error .arithmetic else .ok (a % b)

/-- The low 32 bits of a number. -/
def low32 (n : Nat) : UInt32 := UInt32.ofNat n

end FlashBench.Word
