import ByteLayout.Value
import ByteLayout.IEEE.Reading
import ByteLayout.Json.Basic
/-!
# Values as tagged JSON

A value written as JSON that keeps its type: each value but nothing is an object of one
member whose key names the type. Integers are decimal strings so that all 64 bits survive,
and a double is the sixteen lowercase hex digits of its bits; a double may also be read from
decimal text, `inf`, `-inf` or `NaN`. Bytes are lowercase hex.

| value | JSON |
|---|---|
| nothing | `null` |
| unsigned integer | `{"u64": "<decimal>"}` |
| signed integer | `{"i64": "<decimal>"}` |
| double | `{"f64_bits": "<hex>"}`, or when read, `{"f64": "<decimal>"}` |
| text | `{"text": "<text>"}` |
| bytes | `{"bytes": "<hex>"}` |
| array | `{"array": [...]}` |
| record | `{"struct": {...}}` |

## Main definitions

* `ByteLayout.Value.toTagged` — the tagged JSON of a value.
* `ByteLayout.Value.ofTagged?` — the value of tagged JSON.
-/

namespace ByteLayout

/-- Reads decimal digits, possibly after a plus sign. -/
def readNat? (s : String) : Option Nat :=
  let ds := match s.toList with
    | '+' :: r => r
    | r => r
  if ds.isEmpty || !ds.all Char.isDigit then none
  else some (ds.foldl (fun a c => a * 10 + (c.toNat - '0'.toNat)) 0)

/-- Reads decimal digits, possibly after a sign. -/
def readInt? (s : String) : Option Int :=
  match s.toList with
  | '-' :: r => (readNat? (String.ofList r)).bind fun n =>
    -- a minus sign takes digits only, not a second sign
    if r.head? = some '+' then none else some (-(n : Int))
  | _ => (readNat? s).map Int.ofNat

/-- Reads hex digits of either case, possibly after a plus sign. -/
def readHexNat? (s : String) : Option Nat :=
  let ds := match s.toList with
    | '+' :: r => r
    | r => r
  if ds.isEmpty then none
  else ds.foldlM (fun a c => (Hex.digitValue? c).map (a * 16 + ·)) 0

/-- The sixteen lowercase hex digits of a 64-bit word. -/
def hex16 (n : UInt64) : String :=
  let ds := Nat.toDigits 16 n.toNat
  String.ofList (List.replicate (16 - ds.length) '0' ++ ds)

mutual

/-- The tagged JSON of a value. -/
def Value.toTagged : Value → Json
  | .null => .null
  | .unsigned n => .object [("u64", .string (toString n.toNat))]
  | .signed n => .object [("i64", .string (toString n.toInt))]
  | .float bits => .object [("f64_bits", .string (hex16 bits))]
  | .text s => .object [("text", .string s)]
  | .bytes b => .object [("bytes", .string (Hex.render b))]
  | .array items => .object [("array", .array (Value.toTaggedItems items))]
  | .record fields => .object [("struct", .object (Value.toTaggedFields fields))]

/-- The tagged JSON of the items of an array. -/
def Value.toTaggedItems : List Value → List Json
  | [] => []
  | v :: rest => Value.toTagged v :: Value.toTaggedItems rest

/-- The tagged JSON of the fields of a record. -/
def Value.toTaggedFields : List (String × Value) → List (String × Json)
  | [] => []
  | (k, v) :: rest => (k, Value.toTagged v) :: Value.toTaggedFields rest

end

mutual

/-- The value of tagged JSON. -/
def Value.ofTagged? : Json → Option Value
  | .null => some .null
  | .object [(tag, j)] =>
    match tag, j with
    | "u64", .string s => (readNat? s).bind fun n =>
      if n < Nat.pow 2 64 then some (.unsigned (UInt64.ofNat n)) else none
    | "i64", .string s => (readInt? s).bind fun n =>
      if -Nat.pow 2 63 ≤ n ∧ n < Nat.pow 2 63 then some (.signed (Int64.ofInt n)) else none
    | "f64_bits", .string s => (readHexNat? s).bind fun n =>
      if n < Nat.pow 2 64 then some (.float (UInt64.ofNat n)) else none
    | "f64", .string s => (IEEE.readDecimal? s).map .float
    | "text", .string s => some (.text s)
    | "bytes", .string s => (Hex.read? s).map .bytes
    | "array", .array items => (Value.ofTaggedItems? items).map .array
    | "struct", .object members =>
      (Value.ofTaggedMembers? members).map fun fs => .record (Record.ofList fs)
    | _, _ => none
  | _ => none

/-- The values of tagged array items. -/
def Value.ofTaggedItems? : List Json → Option (List Value)
  | [] => some []
  | j :: rest => do
    let v ← Value.ofTagged? j
    let vs ← Value.ofTaggedItems? rest
    pure (v :: vs)

/-- The fields of a tagged record. -/
def Value.ofTaggedMembers? : List (String × Json) → Option (List (String × Value))
  | [] => some []
  | (k, j) :: rest => do
    let v ← Value.ofTagged? j
    let vs ← Value.ofTaggedMembers? rest
    pure ((k, v) :: vs)

end

end ByteLayout
