import ByteLayout.Json.Basic
import ByteLayout.Text.Hex
/-!
# Writing JSON text

Compact JSON text: no whitespace, strings with the quote, the backslash and control
characters escaped, and numbers as they were written.

## Main definitions

* `ByteLayout.Json.render` — the compact text of a document.
-/

namespace ByteLayout.Json

/-- The written form of a character inside a string. -/
def escapeChar (c : Char) : List Char :=
  if c = '"' then ['\\', '"']
  else if c = '\\' then ['\\', '\\']
  else if c = '\n' then ['\\', 'n']
  else if c = '\r' then ['\\', 'r']
  else if c = '\t' then ['\\', 't']
  else if c.toNat < 0x20 then
    ['\\', 'u', '0', '0', Hex.digitChar (c.toNat / 16), Hex.digitChar (c.toNat % 16)]
  else [c]

/-- A string between quotes, escaped. -/
def renderString (s : String) : String :=
  String.ofList ('"' :: s.toList.flatMap escapeChar ++ ['"'])

/-- The text of a number. -/
def renderNumber (n : JsonNumber) : String :=
  let digits (ds : List Nat) : String := String.ofList (ds.map fun d => Char.ofNat ('0'.toNat + d))
  let sign := if n.negative then "-" else ""
  let fraction := if n.fraction.isEmpty then "" else "." ++ digits n.fraction
  let exponent := match n.exponent with
    | some x => "e" ++ toString x
    | none => ""
  sign ++ digits n.whole ++ fraction ++ exponent

mutual

/-- Appends the compact text of a document to `out`. -/
def renderTo (out : String) : Json → String
  | .null => out ++ "null"
  | .bool b => out ++ (if b then "true" else "false")
  | .number n => out ++ renderNumber n
  | .string s => out ++ renderString s
  | .array items => renderItemsTo (out ++ "[") items ++ "]"
  | .object fields => renderFieldsTo (out ++ "\x7b") fields ++ "\x7d"

/-- Appends the items of an array to `out`, separated by commas. -/
def renderItemsTo (out : String) : List Json → String
  | [] => out
  | [v] => renderTo out v
  | v :: rest => renderItemsTo (renderTo out v ++ ",") rest

/-- Appends the members of an object to `out`, separated by commas. -/
def renderFieldsTo (out : String) : List (String × Json) → String
  | [] => out
  | [(k, v)] => renderTo (out ++ renderString k ++ ":") v
  | (k, v) :: rest => renderFieldsTo (renderTo (out ++ renderString k ++ ":") v ++ ",") rest

end

/-- The compact text of a document. Writing appends to one growing text, so the cost is in
proportion to the length of the text. -/
def render (j : Json) : String :=
  renderTo "" j

end ByteLayout.Json
