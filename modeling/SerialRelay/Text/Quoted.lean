import SerialRelay.Text.Unprintable

/-!
# Quoted text

A text between double quotes, as a device's description shows its name. Quotes, backslashes and the
usual controls have short escapes; a character without a glyph of its own is written by its number.
-/

namespace SerialRelay.Text

/-- One character inside quotes. -/
def quotedChar (c : Char) : List Char :=
  match c with
  | '\x00' => ['\\', '0']
  | '\t' => ['\\', 't']
  | '\n' => ['\\', 'n']
  | '\r' => ['\\', 'r']
  | '"' => ['\\', '"']
  | '\\' => ['\\', '\\']
  | c =>
    if isUnprintable c then ['\\', 'u', '\x7b'] ++ Nat.toDigits 16 c.toNat ++ ['\x7d'] else [c]

/-- **A text in double quotes**. -/
def quoted (s : String) : String := String.ofList (['"'] ++ s.toList.flatMap quotedChar ++ ['"'])

end SerialRelay.Text
