import ByteLayout.Text.Printable
/-!
# Quoted text

Names inside messages are written between double quotes. A backslash escapes the quote, the
backslash itself, NUL, tab, line feed and carriage return. A character that is not printable,
or that extends the grapheme before it, is written as its code point in lowercase hex between
braces after a backslash and a `u`, so that what the reader sees is what the text holds; all
other characters stand as they are.

## Main definitions

* `ByteLayout.Quoted.escapeChar` — the written form of one character.
* `ByteLayout.Quoted.quote` — a text between double quotes, with its characters escaped.
-/

namespace ByteLayout.Quoted

/-- The lowercase hex digits of a number, without leading zeros. -/
def hexDigits (n : Nat) : List Char :=
  Nat.toDigits 16 n

/-- The written form of one character inside quotes. -/
def escapeChar (c : Char) : List Char :=
  if c = '"' then ['\\', '"']
  else if c = '\\' then ['\\', '\\']
  else if c = '\n' then ['\\', 'n']
  else if c = '\r' then ['\\', 'r']
  else if c = '\t' then ['\\', 't']
  else if c = '\x00' then ['\\', '0']
  else if Printable.extendsGrapheme c || !Printable.isPrintable c then
    ['\\', 'u', '\x7b'] ++ hexDigits c.toNat ++ ['\x7d']
  else [c]

/-- A text between double quotes, with its characters escaped. -/
def quote (s : String) : String :=
  String.ofList ('"' :: s.toList.flatMap escapeChar ++ ['"'])

end ByteLayout.Quoted
