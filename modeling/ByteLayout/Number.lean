import ByteLayout.Error
import ByteLayout.IEEE.Format
/-!
# Fixed-width numbers on the wire

Integers of one, two, four or eight bytes, unsigned or in two's complement, and single and
double precision floats, in either byte order. Reading gives an unsigned or signed integer
value, or a double (a single widens exactly); writing accepts any value that converts to the
number type exactly, and for a single any number whose magnitude does not exceed the largest
finite single, rounded to nearest.

## Main definitions

* `ByteLayout.NumberKind`, `ByteLayout.ByteOrder` — the number types and the byte orders.
* `ByteLayout.NumberKind.decode` — the value of some bytes.
* `ByteLayout.NumberKind.encode` — the bytes of a value, if it fits the type.
-/

namespace ByteLayout

/-- The byte order of a number on the wire. -/
inductive ByteOrder where
  | big
  | little

namespace ByteOrder

/-- The unsigned integer of some bytes. -/
def toNat (o : ByteOrder) (bs : Bytes) : Nat :=
  let msbFirst := match o with
    | .big => bs
    | .little => bs.reverse
  msbFirst.foldl (fun acc b => acc * 256 + b.toNat) 0

/-- The `width` lowest bytes of a natural number. -/
def ofNat (o : ByteOrder) (width n : Nat) : Bytes :=
  let lsbFirst := (List.range width).map fun i => (n / Nat.pow 256 i % 256).toUInt8
  match o with
  | .big => lsbFirst.reverse
  | .little => lsbFirst

end ByteOrder

/-- The fixed-width number types. -/
inductive NumberKind where
  | uint8 | uint16 | uint32 | uint64
  | int8 | int16 | int32 | int64
  | float32 | float64

namespace NumberKind

/-- The number of bytes a number takes. -/
def width : NumberKind → Nat
  | .uint8 | .int8 => 1
  | .uint16 | .int16 => 2
  | .uint32 | .int32 | .float32 => 4
  | .uint64 | .int64 | .float64 => 8

/-- The name of a number type, as schema names give it. -/
def name : NumberKind → String
  | .uint8 => "uint8" | .uint16 => "uint16" | .uint32 => "uint32" | .uint64 => "uint64"
  | .int8 => "int8" | .int16 => "int16" | .int32 => "int32" | .int64 => "int64"
  | .float32 => "float32" | .float64 => "float64"

/-- The short name of a number type, as messages about values give it. -/
def shortName : NumberKind → String
  | .uint8 => "u8" | .uint16 => "u16" | .uint32 => "u32" | .uint64 => "u64"
  | .int8 => "i8" | .int16 => "i16" | .int32 => "i32" | .int64 => "i64"
  | .float32 => "f32" | .float64 => "f64"

/-- Whether a number type is a signed integer type. -/
def isSigned : NumberKind → Bool
  | .int8 | .int16 | .int32 | .int64 => true
  | _ => false

/-- Whether a number type is a float type. -/
def isFloat : NumberKind → Bool
  | .float32 | .float64 => true
  | _ => false

/-- The value of the bytes of a number. -/
def decode (k : NumberKind) (o : ByteOrder) (bs : Bytes) : Value :=
  let raw := o.toNat bs
  let bits := 8 * k.width
  match k with
  | .float32 => .float (IEEE.widen (UInt32.ofNat raw))
  | .float64 => .float (UInt64.ofNat raw)
  | _ =>
    if k.isSigned then
      .signed (Int64.ofInt (if raw < Nat.pow 2 (bits - 1) then raw else (raw : Int) - Nat.pow 2 bits))
    else .unsigned (UInt64.ofNat raw)

/-- The bit pattern a value takes in a number type, if it converts to the type. -/
def bitsOf? (k : NumberKind) (v : Value) : Option Nat :=
  let bits := 8 * k.width
  match k with
  | .float32 =>
    (v.toFloat?).bind fun f =>
      if (IEEE.decode f).exceedsBinary32 then none else some (IEEE.narrow f).toNat
  | .float64 => v.toFloat?.map UInt64.toNat
  | _ =>
    if k.isSigned then
      (v.toInt64?).bind fun n =>
        let i := n.toInt
        if -Nat.pow 2 (bits - 1) ≤ i ∧ i < Nat.pow 2 (bits - 1) then some (i % Nat.pow 2 bits).toNat else none
    else
      (v.toUInt64?).bind fun n => if n.toNat < Nat.pow 2 bits then some n.toNat else none

/-- The bytes of a value in a number type, or the error of a value that does not convert. -/
def encode (k : NumberKind) (o : ByteOrder) (v : Value) : Except Error Bytes :=
  match k.bitsOf? v with
  | some n => .ok (o.ofNat k.width n)
  | none => .error (.invalidValue k.shortName v.typeName)

end NumberKind

end ByteLayout
