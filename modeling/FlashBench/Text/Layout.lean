/-!
# Text layout

Numbers in base sixteen, zero padding, and padding of a text to a width. Sizes are written `0x1000`,
addresses `0x08000000`: the width of a padded number counts the leading `0x`.
-/

namespace FlashBench.Text

/-- `n` in base sixteen with lower-case digits and no leading zeros. -/
def hexDigits (n : Nat) : String := String.ofList (Nat.toDigits 16 n)

/-- `text` behind as many zeros as it is shorter than `width`. -/
def zeroPadded (width : Nat) (text : String) : String :=
  String.ofList (List.replicate (width - text.length) '0') ++ text

/-- A number as `0x1f`. -/
def hex (n : Nat) : String := "0x" ++ hexDigits n

/-- A number as `0x` and at least `digits` digits. -/
def hexWide (digits n : Nat) : String := "0x" ++ zeroPadded digits (hexDigits n)

/-- An address: eight digits or more. -/
def address (n : Nat) : String := hexWide 8 n

/-- A byte value: two digits. -/
def byte (n : Nat) : String := hexWide 2 n

/-- A decimal number of at least `width` digits. -/
def decimalWide (width n : Nat) : String := zeroPadded width (toString n)

/-- Where a text stands in a field that is wider than it. -/
inductive Align where
  | left
  | right
  | center
deriving DecidableEq, Repr, Inhabited

/-- A text in a field: cut to `precision` characters if one is given, then filled up to `width`.
Of an odd number of filling characters around a centred text, the extra one stands on the right.
-/
def padded (text : String) (align : Align) (fill : Char) (width : Nat)
    (precision : Option Nat) : String :=
  let shown := match precision with
    | some n => (text.toList.take n)
    | none => text.toList
  let gap := width - shown.length
  let before := match align with
    | .left => 0
    | .right => gap
    | .center => gap / 2
  String.ofList (List.replicate before fill ++ shown ++ List.replicate (gap - before) fill)

end FlashBench.Text
