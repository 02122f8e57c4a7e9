import FlashBench.Text.Layout
import FlashBench.Text.Unprintable

/-!
# Quoted texts

A text between double quotes in which every character can be seen: quotes and backslashes are
escaped, and so is whatever is not printable.
-/

namespace FlashBench.Text

/-- A character as it stands between double quotes. -/
def visible (c : Char) : String :=
  match c with
  | '\x00' => "\\0"
  | '\t' => "\\t"
  | '\r' => "\\r"
  | '\n' => "\\n"
  | '"' => "\\\""
  | '\\' => "\\\\"
  | _ => if isUnprintable c then "\\u\x7b" ++ hexDigits c.toNat ++ "\x7d" else String.singleton c

/-- A text between double quotes. -/
def quoted (text : String) : String := "\"" ++ String.join (text.toList.map visible) ++ "\""

end FlashBench.Text
