import ByteLayout.Text.Hex
import ByteLayout.Text.Utf8
/-!
# Text encodings of byte regions

A text region shows its bytes as a string in one of three ways: as UTF-8 text, as lowercase
hex, or as base64. Showing bytes as text fails only for bytes that are not UTF-8; reading text
back into bytes fails for hex that is not an even run of byte pairs and for text that the
base64 engine refuses.

Base64 is not written here: a base64 encoding carries the engine it uses, which writes bytes as
text and reads text back, or refuses it with a reason of its own. What a proof needs of an
engine, such as reading back what it writes, it takes as a hypothesis.

## Main definitions

* `ByteLayout.Base64Engine` — what an encoding needs of a base64 engine.
* `ByteLayout.Encoding` — the three encodings, with their names.
* `ByteLayout.Encoding.toText` — the string that shows some bytes.
* `ByteLayout.Encoding.toBytes` — the bytes that a string shows.
-/

namespace ByteLayout

/-- A base64 engine: how it writes bytes as text, and how it reads the bytes of a text back,
or refuses them with the reason it gives. -/
structure Base64Engine where
  encode : List UInt8 → String
  decode : List UInt8 → Except String (List UInt8)

/-- How the bytes of a text region map to a string. -/
inductive Encoding where
  | utf8
  | hex
  | base64 (engine : Base64Engine)

namespace Encoding

/-- The name of an encoding, as schema names and messages give it. -/
def name : Encoding → String
  | .utf8 => "text"
  | .hex => "hex"
  | .base64 _ => "base64"

/-- Why bytes or text do not fit an encoding. -/
inductive Fault where
  | utf8 (f : Utf8.Fault)
  | hex
  | base64 (reason : String)

/-- The text of a fault. -/
def Fault.reason : Fault → String
  | .utf8 f => f.message
  | .hex => "not an even-length hex string"
  | .base64 reason => reason

/-- The string that shows some bytes. -/
def toText (e : Encoding) (bs : List UInt8) : Except Fault String :=
  match e with
  | .utf8 => (Utf8.decode bs).mapError .utf8
  | .hex => .ok (Hex.render bs)
  | .base64 engine => .ok (engine.encode bs)

/-- The bytes that a string shows. -/
def toBytes (e : Encoding) (s : String) : Except Fault (List UInt8) :=
  match e with
  | .utf8 => .ok (Utf8.encode s)
  | .hex => match Hex.read? s with
    | some bs => .ok bs
    | none => .error .hex
  | .base64 engine => (engine.decode (Utf8.encode s)).mapError .base64

end Encoding

end ByteLayout
