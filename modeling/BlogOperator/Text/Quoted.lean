import BlogOperator.Text.Printable

/-!
# Quoted text

`quoted` writes a text between double quotes so that a reader sees every character of it: the
quote and the backslash get a backslash, four controls have a letter of their own, and any other
character that `isPrintable` refuses is written as its number. Messages quote the values they
complain about in this form.
-/

set_option autoImplicit false

namespace BlogOperator.Text

/-- The lower-case hexadecimal digits of a number, without leading zeros. -/
def hexadecimal (number : Nat) : String :=
  String.ofList (Nat.toDigits 16 number)

/-- One character as it stands between the quotes. -/
def quotedCharacter (character : Char) : String :=
  match character with
  | '\u0000' => "\\0"
  | '\t' => "\\t"
  | '\n' => "\\n"
  | '\u000d' => "\\r"
  | '"' => "\\\""
  | '\\' => "\\\\"
  | other =>
    if isPrintable other then other.toString
    else "\\u\x7b" ++ hexadecimal other.toNat ++ "\x7d"

/-- A text between double quotes, every character of it visible. -/
def quoted (text : String) : String :=
  "\"" ++ String.join (text.toList.map quotedCharacter) ++ "\""

end BlogOperator.Text
