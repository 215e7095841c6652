/-!
# Hexadecimal text of bytes

Bytes are written as two lowercase hex digits each. Reading takes text of an even number of
bytes, all of them ASCII, and reads each pair as one byte: two hex digits of either case, or a
plus sign followed by one hex digit, which a reader of unsigned numbers with an optional sign
accepts as well.

## Main definitions

* `ByteLayout.Hex.render` — the lowercase hex text of some bytes.
* `ByteLayout.Hex.read?` — the bytes that hex text stands for.
-/

namespace ByteLayout.Hex

/-- The lowercase hex digit of a number below sixteen. -/
def digitChar (n : Nat) : Char :=
  if n < 10 then Char.ofNat ('0'.toNat + n) else Char.ofNat ('a'.toNat + n - 10)

/-- The two lowercase hex digits of a byte. -/
def byteChars (b : UInt8) : List Char :=
  [digitChar (b.toNat / 16), digitChar (b.toNat % 16)]

/-- The lowercase hex text of some bytes, two digits per byte. -/
def render (bs : List UInt8) : String :=
  String.ofList (bs.flatMap byteChars)

/-- The value of a hex digit of either case. -/
def digitValue? (c : Char) : Option Nat :=
  if '0' ≤ c ∧ c ≤ '9' then some (c.toNat - '0'.toNat)
  else if 'a' ≤ c ∧ c ≤ 'f' then some (c.toNat - 'a'.toNat + 10)
  else if 'A' ≤ c ∧ c ≤ 'F' then some (c.toNat - 'A'.toNat + 10)
  else none

/-- The byte of a pair of characters: two hex digits, or a plus sign and one hex digit. -/
def pairValue? (hi lo : Char) : Option UInt8 :=
  if hi = '+' then (digitValue? lo).map Nat.toUInt8
  else do
    let h ← digitValue? hi
    let l ← digitValue? lo
    pure (h * 16 + l).toUInt8

/-- Reads the characters two at a time. -/
def readPairs : List Char → Option (List UInt8)
  | [] => some []
  | [_] => none
  | hi :: lo :: rest => do
    let b ← pairValue? hi lo
    let bs ← readPairs rest
    pure (b :: bs)

/-- The bytes that hex text stands for, if its UTF-8 length is even, it is all ASCII and every
pair of characters reads as a byte. -/
def read? (s : String) : Option (List UInt8) :=
  if s.utf8ByteSize % 2 ≠ 0 ∨ !s.toList.all (·.toNat < 128) then none
  else readPairs s.toList

end ByteLayout.Hex
