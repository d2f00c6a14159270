import LineEditor.Text.Basic
import LineEditor.Unicode.Kind

/-!
# Escaped text

How messages show a text that someone typed: in double quotes, with everything that would not show
as itself escaped. Characters without a short escape are written by their code point.
-/

namespace LineEditor.Text.Escaped

/-- The digits of a number in hexadecimal. -/
private def hexDigits (n : Nat) : Text := Nat.toDigits 16 n

/-- A character as it stands inside the quotes. -/
def encodeChar (c : Char) : Text :=
  match c with
  | '\x00' => ['\\', '0']
  | '\t' => ['\\', 't']
  | '\r' => ['\\', 'r']
  | '\n' => ['\\', 'n']
  | '"' => ['\\', '"']
  | '\\' => ['\\', '\\']
  | c =>
    if Unicode.isExtending c || !Unicode.isPrintable c then
      "\\u\x7b".toList ++ hexDigits c.toNat ++ ['\x7d']
    else [c]

/-- The text in quotes, escaped. -/
def encode (t : Text) : Text := '"' :: t.flatMap encodeChar ++ ['"']

end LineEditor.Text.Escaped
