import ByteLayout.Length
import ByteLayout.Number
import ByteLayout.Text.Encoding
/-!
# Schemas

A schema describes a binary layout and serves both directions: it parses bytes into a value
and builds a value back into bytes. Leaves are fixed-width numbers, raw byte regions, literal
byte sequences and text regions; combinators are structs of named fields, counted arrays,
greedy repetitions, switches on a key, regions padded to a declared total, and windows of a
known length.

Lengths, switch keys and region totals may be arbitrary functions, so one schema type covers
both the forms that a definition document can state and any computed form.

## Main definitions

* `ByteLayout.SwitchOn` — where a switch takes its key from.
* `ByteLayout.Schema` — the schemas.
* `ByteLayout.Schema.name` — the short name of a schema.
-/

namespace ByteLayout

/-- Where a switch takes its key from: a visible field, a function of the scope, or a fixed key. -/
inductive SwitchOn where
  | field (name : String)
  | computed (f : Scope → Option Value)
  | fixed (key : String)

namespace SwitchOn

/-- The key in a scope: the key of the value found, or the fixed key. -/
def key? (on : SwitchOn) (scope : Scope) : Option String :=
  match on with
  | .field name => (scope.get? name).bind Value.key?
  | .computed f => (f scope).bind Value.key?
  | .fixed key => some key

/-- How the key's source is shown in schema names: the field, `fn`, or the quoted key. -/
def label : SwitchOn → String
  | .field name => name
  | .computed _ => "fn"
  | .fixed key => Quoted.quote key

end SwitchOn

/-- A binary layout, read and written by the same description. -/
inductive Schema where
  /-- A fixed-width number in a byte order. -/
  | number (kind : NumberKind) (order : ByteOrder)
  /-- Raw bytes of a resolved length; a negative length is empty. -/
  | bytes (length : Length)
  /-- A constant byte sequence. -/
  | literal (expected : Bytes)
  /-- Bytes shown as text, of a resolved length or up to the end of the window. -/
  | text (encoding : Encoding) (length : Option Length)
  /-- Named fields in order; each parsed field is visible to the fields after it. -/
  | struct (fields : List (String × Schema))
  /-- A counted sequence; each item sees its index. -/
  | array (item : Schema) (count : Length)
  /-- Items for as long as they parse and bytes remain. -/
  | greedy (item : Schema)
  /-- The case registered under a key, or the default. -/
  | switch (on : SwitchOn) (cases : List (String × Schema)) (default : Option Schema)
  /-- A schema padded to a total that its own value declares. -/
  | sized (inner : Schema) (total : Value → Option Int64)
  /-- A schema read inside a window of a resolved length. -/
  | prefixed (length : Length) (inner : Schema)

/-- The total a sized region declares for its value: a non-negative integer. -/
def Schema.declaredTotal (total : Value → Option Int64) (v : Value) : Except Error Nat :=
  match total v with
  | none => .error (.invalidLength .totalNotInteger)
  | some n => if n.toInt < 0 then .error (.invalidLength (.totalNegative n.toInt)) else .ok n.toInt.toNat

namespace Schema

/-- The short name of a schema: `uint8`, `struct{a, b}`, `array<uint8>(count=n)`, … -/
def name : Schema → String
  | .number kind _ => kind.name
  | .bytes length => s!"bytes(len={length.label})"
  | .literal _ => "literal"
  | .text encoding none => encoding.name
  | .text encoding (some length) => s!"{encoding.name}(len={length.label})"
  | .struct fields => "struct\x7b" ++ ", ".intercalate (fields.map (·.1)) ++ "\x7d"
  | .array item count => s!"array<{item.name}>(count={count.label})"
  | .greedy item => s!"greedy_range<{item.name}>"
  | .switch on _ _ => s!"switch(on={on.label})"
  | .sized inner _ => s!"sized<{inner.name}>"
  | .prefixed length inner => s!"prefixed<{inner.name}>(len={length.label})"

end Schema

end ByteLayout
