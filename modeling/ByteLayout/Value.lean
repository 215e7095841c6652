import ByteLayout.IEEE.Format
import ByteLayout.IEEE.Shortest
import ByteLayout.Text.Hex
/-!
# Values

The dynamic values that schemas read from bytes and write back: nothing, 64-bit unsigned and
signed integers, doubles kept as their bit patterns, text, arrays, records and raw bytes.
Records are lists of named fields sorted by name, each name once.

Numbers convert among themselves when the value fits exactly: a double converts to an integer
only when it is finite, integral and in range, and an integer converts to the nearest double.
The key of a value is the text a switch looks its cases up by; numbers that are equal as
integers have the same key whatever their type.

## Main definitions

* `ByteLayout.Value` — the values, with `ByteLayout.Record` for records.
* `ByteLayout.Record.insert`, `ByteLayout.Record.get?` — the record operations.
* `ByteLayout.Value.toUInt64?`, `toInt64?`, `toFloat?` — the numeric views.
* `ByteLayout.Value.key?` — the switch key of a value.
-/

namespace ByteLayout

/-- Bytes as they stand on the wire. -/
abbrev Bytes := List UInt8

/-- A value read from bytes or to be written to bytes. -/
inductive Value where
  | null
  | unsigned (n : UInt64)
  | signed (n : Int64)
  | float (bits : UInt64)
  | text (s : String)
  | array (items : List Value)
  | record (fields : List (String × Value))
  | bytes (data : Bytes)

/-- The fields of a record, sorted by name, each name once. -/
abbrev Record := List (String × Value)

namespace Record

/-- The value of a field. -/
def get? (r : Record) (name : String) : Option Value :=
  (r.find? (·.1 == name)).map (·.2)

/-- Sets a field, replacing a field of the same name and keeping the names sorted. -/
def insert (name : String) (v : Value) : Record → Record
  | [] => [(name, v)]
  | (k, w) :: rest =>
    if name < k then (name, v) :: (k, w) :: rest
    else if name = k then (name, v) :: rest
    else (k, w) :: insert name v rest

/-- The record of some fields set in order, a later field replacing an earlier one. -/
def ofList (fields : List (String × Value)) : Record :=
  fields.foldl (fun r (k, v) => insert k v r) []

end Record

namespace Value

/-- The name of the kind of a value, as messages give it. -/
def typeName : Value → String
  | .null => "null"
  | .unsigned _ => "unsigned integer"
  | .signed _ => "signed integer"
  | .float _ => "float"
  | .text _ => "text"
  | .array _ => "array"
  | .record _ => "struct"
  | .bytes _ => "bytes"

/-- The integer a value holds exactly, for the two integer kinds and integral finite doubles. -/
def exactInt? : Value → Option Int
  | .unsigned n => some n.toNat
  | .signed n => some n.toInt
  | .float bits => (IEEE.decode bits).toInt?
  | _ => none

/-- The value as an unsigned 64-bit integer, if it is one exactly. -/
def toUInt64? (v : Value) : Option UInt64 :=
  match v.exactInt? with
  | some n => if 0 ≤ n ∧ n < Nat.pow 2 64 then some (UInt64.ofNat n.toNat) else none
  | none => none

/-- The value as a signed 64-bit integer, if it is one exactly. -/
def toInt64? (v : Value) : Option Int64 :=
  match v.exactInt? with
  | some n => if -Nat.pow 2 63 ≤ n ∧ n < Nat.pow 2 63 then some (Int64.ofInt n) else none
  | none => none

/-- The value as a double: integers round to the nearest one. -/
def toFloat? : Value → Option UInt64
  | .unsigned n => some (IEEE.ofNat n.toNat)
  | .signed n => some (IEEE.ofInt n.toInt)
  | .float bits => some bits
  | _ => none

/-- The text of a text value. -/
def text? : Value → Option String
  | .text s => some s
  | _ => none

/-- The bytes of a bytes value. -/
def bytes? : Value → Option Bytes
  | .bytes b => some b
  | _ => none

/-- The items of an array. -/
def items? : Value → Option (List Value)
  | .array items => some items
  | _ => none

/-- The fields of a record. -/
def fields? : Value → Option Record
  | .record r => some r
  | _ => none

/-- A field of a record value. -/
def get? (v : Value) (name : String) : Option Value :=
  v.fields?.bind (Record.get? · name)

/-- The key a switch looks its cases up by. Integers are written in decimal, and so is a
double equal to a signed 64-bit integer; any other double is written in its shortest
positional form. Text is its own key and bytes are written in lowercase hex. Nothing, arrays
and records have no key. -/
def key? : Value → Option String
  | .unsigned n => some (toString n.toNat)
  | .signed n => some (toString n.toInt)
  | .float bits =>
    match (Value.float bits).toInt64? with
    | some n => some (toString n.toInt)
    | none => some (IEEE.displayText bits)
  | .text s => some s
  | .bytes b => some (Hex.render b)
  | _ => none

end Value

end ByteLayout
