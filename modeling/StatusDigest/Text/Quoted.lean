import StatusDigest.Text.Blank

/-!
# Texts quoted in messages

A message that shows a text puts it in double quotes and escapes what would not be seen: quotes
and backslashes have a backslash before them, the tab, the line feed, the carriage return and NUL
have a letter or digit of their own, and other control characters and other blank characters than
the space are shown by their code point.
-/

namespace StatusDigest.Text

/-- A character by its code point, in hexadecimal digits between braces. -/
def codePointText (c : Char) : List Char :=
  ['\\', 'u', '\x7b'] ++ Nat.toDigits 16 c.toNat ++ ['\x7d']

/-- Whether a character would not be seen in a message. -/
def isHidden (c : Char) : Bool :=
  c.toNat < 0x20 || (0x7F ≤ c.toNat && c.toNat < 0xA0) || (isBlank c && c ≠ ' ')

/-- A character as it stands in a quoted text. -/
def quotedChar (c : Char) : List Char :=
  match c with
  | '"' => ['\\', '"']
  | '\\' => ['\\', '\\']
  | '\t' => ['\\', 't']
  | '\n' => ['\\', 'n']
  | '\r' => ['\\', 'r']
  | '\x00' => ['\\', '0']
  | c => if isHidden c then codePointText c else [c]

/-- A text in double quotes. -/
def quoted (text : String) : String :=
  "\"" ++ String.ofList (text.toList.flatMap quotedChar) ++ "\""

example : quoted " ,\t\x0b" = "\" ,\\t\\u\x7bb\x7d\"" := by decide +kernel

end StatusDigest.Text
