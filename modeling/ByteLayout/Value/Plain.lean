import ByteLayout.Value
import ByteLayout.IEEE.Reading
import ByteLayout.Json.Basic
/-!
# Values from plain JSON

A plain JSON document loads as a value by its shape: `null` is nothing, a string is text, an
array is an array and an object is a record. A number written as a plain integer is an
unsigned integer if it fits 64 bits, else a signed integer if it fits 64 bits; any other
number, a minus zero included, is a double. Doubles are read the fast way rather than the
exact way: at most 64 bits of digits are kept, rounded to a double, and scaled by a power of
ten with one rounding per step, so a number with many digits or a large exponent may land one
unit from the nearest double. A number beyond the largest double does not load, and neither
do booleans.

## Main definitions

* `ByteLayout.JsonNumber.significand` — the digits a number is read with.
* `ByteLayout.JsonNumber.toDouble?` — the double a number reads as.
* `ByteLayout.Value.ofPlain?` — the value a plain document loads as.
-/

namespace ByteLayout

/-- Takes digits into a significand while it stays below `2^64`, stopping at the first digit
that would pass it: the significand and how many digits were taken. -/
def takeDigits (acc : Nat) : List Nat → Nat × Nat
  | [] => (acc, 0)
  | d :: ds =>
    if acc * 10 + d < Nat.pow 2 64 then
      let (s, k) := takeDigits (acc * 10 + d) ds
      (s, k + 1)
    else (acc, 0)

/-- The significand and power of ten a number is read with. Digits are taken while the
significand fits 64 bits. When a digit before the point does not fit, the digits before the
point from it on each raise the power by one; then the digits after the point are taken while
they fit, each lowering the power by one, and the rest are dropped. -/
def JsonNumber.significand (n : JsonNumber) : Nat × Int :=
  let (s, k) := takeDigits 0 n.whole
  let (t, j) := takeDigits s n.fraction
  (t, n.exponent.getD 0 + (n.whole.length - k : Nat) - j)

/-- The double a number reads as: its significand rounded to a double and then scaled by its
power of ten, one rounding per step; none if it passes the largest double. -/
def JsonNumber.toDouble? (n : JsonNumber) : Option UInt64 :=
  let (s, k) := n.significand
  (IEEE.scaleByPow10? (IEEE.ofNat s) k).map fun f => if n.negative then f ^^^ 0x8000000000000000 else f

/-- The value a plain JSON number loads as, if it loads: a plain integer that fits is an
integer, anything else a double. -/
def Value.ofNumber? (n : JsonNumber) : Option Value :=
  let (s, k) := takeDigits 0 n.whole
  if n.integral ∧ k = n.whole.length then
    if !n.negative then some (.unsigned (UInt64.ofNat s))
    else if s = 0 ∨ Nat.pow 2 63 < s then
      some (.float (IEEE.ofNat s ^^^ 0x8000000000000000))
    else some (.signed (Int64.ofInt (-(s : Int))))
  else n.toDouble?.map .float

mutual

/-- The value a plain JSON document loads as; booleans have none. -/
def Value.ofPlain? : Json → Option Value
  | .null => some .null
  | .bool _ => none
  | .number n => Value.ofNumber? n
  | .string s => some (.text s)
  | .array items => (Value.ofPlainItems? items).map .array
  | .object members => (Value.ofPlainMembers? members).map fun fs => .record (Record.ofList fs)

/-- The values of the items of an array. -/
def Value.ofPlainItems? : List Json → Option (List Value)
  | [] => some []
  | j :: rest => do
    let v ← Value.ofPlain? j
    let vs ← Value.ofPlainItems? rest
    pure (v :: vs)

/-- The values of the members of an object. -/
def Value.ofPlainMembers? : List (String × Json) → Option (List (String × Value))
  | [] => some []
  | (k, j) :: rest => do
    let v ← Value.ofPlain? j
    let vs ← Value.ofPlainMembers? rest
    pure ((k, v) :: vs)

end

end ByteLayout
