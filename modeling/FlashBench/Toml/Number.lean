import FlashBench.Toml.Quoted
import FlashBench.Toml.Value

/-!
# Numbers and moments

Integers are decimal with an optional sign, or without a sign in base two, eight or sixteen;
floats have a fraction, an exponent, or both. Single underscores may stand between digits. An
integer must fit into 64 bits with a sign, and a float must not round up to infinity.
-/

namespace FlashBench.Toml

/-- A digit of a base, and its value. -/
def digitValue? (base : Nat) (c : Char) : Option Nat := (hexValue? c).filter (· < base)

/-- Reads further digits of a base; an underscore must stand between two digits. -/
def moreDigits (base : Nat) : List Char → Option (List Nat × List Char)
  | [] => some ([], [])
  | ['_'] => none
  | '_' :: c :: rest => do
    let digit ← digitValue? base c
    let (digits, rest) ← moreDigits base rest
    return (digit :: digits, rest)
  | c :: rest =>
    match digitValue? base c with
    | none => some ([], c :: rest)
    | some digit => do
      let (digits, rest) ← moreDigits base rest
      return (digit :: digits, rest)

/-- Reads digits of a base, one at least. -/
def someDigits (base : Nat) : List Char → Option (List Nat × List Char)
  | [] => none
  | c :: rest => do
    let digit ← digitValue? base c
    let (digits, rest) ← moreDigits base rest
    return (digit :: digits, rest)

/-- The number that digits of a base stand for. -/
def ofDigits (base : Nat) (digits : List Nat) : Nat := digits.foldl (fun n d => base * n + d) 0

/-- Reads a sign; it is negative when it is a minus. -/
def sign : List Char → Bool × List Char
  | '-' :: rest => (true, rest)
  | '+' :: rest => (false, rest)
  | text => (false, text)

/-- Reads decimal digits that have no zero in front. -/
def wholePart : List Char → Option (List Nat × List Char)
  | '0' :: rest => some ([0], rest)
  | text => someDigits 10 text

/-- Reads an exponent, if one starts here: its value and what follows. -/
def exponent : List Char → Option (Option Int × List Char)
  | c :: rest =>
    if c = 'e' ∨ c = 'E' then do
      let (negative, rest) := sign rest
      let (digits, rest) ← someDigits 10 rest
      let size : Int := ofDigits 10 digits
      return (some (if negative then -size else size), rest)
    else some (none, c :: rest)
  | [] => some (none, [])

/-- Reads a fraction, if one starts here: its digits and what follows. -/
def fraction : List Char → Option (Option (List Nat) × List Char)
  | '.' :: rest => do
    let (digits, rest) ← someDigits 10 rest
    return (some digits, rest)
  | text => some (none, text)

/-- An integer that fits into 64 bits with a sign. -/
def integer? (n : Int) : Option Value :=
  if -0x8000000000000000 ≤ n ∧ n < 0x8000000000000000 then some (.integer n) else none

/-- A float that did not round up to infinity. -/
def float? (negative : Bool) (decimal : Decimal) : Option Value :=
  match Binary64.ofDecimal negative decimal with
  | .infinite false => none
  | x => some (.float x)

/-- Reads a decimal integer or a float. -/
def decimalNumber (text : List Char) : Option (Value × List Char) := do
  let (negative, rest) := sign text
  let (whole, rest) ← wholePart rest
  let (places, rest) ← fraction rest
  let (power, rest) ← exponent rest
  match places, power with
  | none, none =>
    let size : Int := ofDigits 10 whole
    return (← integer? (if negative then -size else size), rest)
  | _, _ =>
    let places := places.getD []
    let decimal : Decimal := ⟨ofDigits 10 (whole ++ places), power.getD 0 - places.length⟩
    return (← float? negative decimal, rest)

/-- Reads a number of another base behind its mark. -/
def basedNumber (base : Nat) (text : List Char) : Option (Value × List Char) := do
  let (digits, rest) ← someDigits base text
  return (← integer? (ofDigits base digits), rest)

/-- Reads any number. -/
def number : List Char → Option (Value × List Char)
  | '0' :: 'x' :: rest => basedNumber 16 rest
  | '0' :: 'o' :: rest => basedNumber 8 rest
  | '0' :: 'b' :: rest => basedNumber 2 rest
  | text =>
    match sign text with
    | (negative, 'i' :: 'n' :: 'f' :: rest) => some (.float (.infinite negative), rest)
    | (negative, 'n' :: 'a' :: 'n' :: rest) => some (.float (.nan negative), rest)
    | _ => decimalNumber text

/-- Reads a number of exactly so many decimal digits. -/
def fixedDigits : Nat → List Char → Option (List Nat × List Char)
  | 0, text => some ([], text)
  | _ + 1, [] => none
  | count + 1, c :: rest => do
    let digit ← digitValue? 10 c
    let (digits, rest) ← fixedDigits count rest
    return (digit :: digits, rest)

/-- The text behind a character that must come first. -/
def expect (c : Char) : List Char → Option (List Char)
  | [] => none
  | first :: rest => if first = c then some rest else none

/-- Reads two digits. -/
def twoDigits (text : List Char) : Option (Nat × List Char) := do
  let (digits, rest) ← fixedDigits 2 text
  return (ofDigits 10 digits, rest)

/-- Reads a date. -/
def date (text : List Char) : Option (Date × List Char) := do
  let (year, rest) ← fixedDigits 4 text
  let (month, rest) ← twoDigits (← expect '-' rest)
  let (day, rest) ← twoDigits (← expect '-' rest)
  let date : Date := { year := ofDigits 10 year, month, day }
  if date.isValid then some (date, rest) else none

/-- Nanoseconds from the digits of a fraction; digits behind the ninth do not count. -/
def nanoseconds (digits : List Nat) : Nat :=
  let shown := digits.take 9
  ofDigits 10 shown * tenTo (9 - shown.length)

/-- Reads the decimal digits at the start of a text. -/
def plainDigits (text : List Char) : List Nat × List Char :=
  (text.takeWhile Char.isDigit |>.filterMap (digitValue? 10), text.dropWhile Char.isDigit)

/-- Reads a fraction of a second, if one starts here. -/
def secondFraction : List Char → Option (Nat × List Char)
  | '.' :: rest =>
    match plainDigits rest with
    | ([], _) => none
    | (digits, rest) => some (nanoseconds digits, rest)
  | text => some (0, text)

/-- Reads a time of day. -/
def timeOfDay (text : List Char) : Option (TimeOfDay × List Char) := do
  let (hour, rest) ← twoDigits text
  let (minute, rest) ← twoDigits (← expect ':' rest)
  let (second, rest) ← twoDigits (← expect ':' rest)
  let (nanosecond, rest) ← secondFraction rest
  let time : TimeOfDay := { hour, minute, second, nanosecond }
  if time.isValid then some (time, rest) else none

/-- Reads an offset, if one starts here. -/
def offset : List Char → Option (Option Offset × List Char)
  | [] => some (none, [])
  | c :: rest =>
    if c = 'Z' ∨ c = 'z' then some (some .universal, rest)
    else if c = '+' ∨ c = '-' then do
      let (hour, rest) ← twoDigits rest
      let (minute, rest) ← twoDigits (← expect ':' rest)
      if hour ≤ 23 ∧ minute ≤ 59 then
        let minutes : Int := hour * 60 + minute
        some (some (.ahead (if c = '-' then -minutes else minutes)), rest)
      else none
    else some (none, c :: rest)

/-- Reads a time of day behind a date, if one starts here. -/
def timeBehindDate : List Char → Option (TimeOfDay × List Char)
  | c :: rest => if c = 'T' ∨ c = 't' ∨ c = ' ' then timeOfDay rest else none
  | [] => none

/-- Reads a moment. -/
def moment (text : List Char) : Option (Moment × List Char) :=
  match date text with
  | some (date, rest) =>
    match timeBehindDate rest with
    | none => some ({ date := some date }, rest)
    | some (time, rest) => do
      let (offset, rest) ← offset rest
      return ({ date := some date, time := some time, offset }, rest)
  | none => do
    let (time, rest) ← timeOfDay text
    return ({ time := some time }, rest)

/-- The moment that a whole text spells. -/
def Moment.ofText? (text : String) : Option Moment :=
  match moment text.toList with
  | some (moment, []) => some moment
  | _ => none

/-- Reads a moment or a number. -/
def momentOrNumber (text : List Char) : Option (Value × List Char) :=
  match moment text with
  | some (moment, rest) => some (.moment moment, rest)
  | none => number text

end FlashBench.Toml
