/-!
# Binary floating-point formats

IEEE 754 binary interchange formats, handled as bit patterns in exact `Nat` arithmetic. A
bit pattern decodes to a sign, a significand and a binary exponent; an exact rational value
rounds to the nearest representable bit pattern, ties going to the even significand. Nothing
here runs a hardware float operation, so every conversion can be evaluated and reasoned about.

## Main definitions

* `ByteLayout.IEEE.Format` — the field widths of a format, with `binary32` and `binary64`.
* `ByteLayout.IEEE.Format.decode` — a bit pattern as a NaN, an infinity or a finite value.
* `ByteLayout.IEEE.Format.round` — the bit pattern nearest to a signed rational.
* `ByteLayout.IEEE.narrow`, `ByteLayout.IEEE.widen` — conversions between the two formats.
* `ByteLayout.IEEE.ofNat`, `ByteLayout.IEEE.ofInt` — the double nearest to an integer.
* `ByteLayout.IEEE.Decoded.toInt?` — the integer a finite value equals, if any.
* `ByteLayout.IEEE.mul?`, `ByteLayout.IEEE.div?` — products and quotients of finite doubles,
  rounded once.
-/

namespace ByteLayout.IEEE

/-- A binary interchange format, given by the widths of its exponent and fraction fields. -/
structure Format where
  exponentBits : Nat
  fractionBits : Nat

/-- The classes of floating-point data. A finite value is `(-1)^negative * mantissa * 2^exponent`. -/
inductive Decoded where
  | nan (negative : Bool) (payload : Nat)
  | infinity (negative : Bool)
  | finite (negative : Bool) (mantissa : Nat) (exponent : Int)

namespace Format

/-- Single precision: eight exponent bits and twenty-three fraction bits. -/
def binary32 : Format := ⟨8, 23⟩

/-- Double precision: eleven exponent bits and fifty-two fraction bits. -/
def binary64 : Format := ⟨11, 52⟩

/-- The exponent bias. -/
def bias (f : Format) : Nat := Nat.pow 2 (f.exponentBits - 1) - 1

/-- The all-ones exponent field, which marks infinities and NaNs. -/
def topField (f : Format) : Nat := Nat.pow 2 f.exponentBits - 1

/-- The weight of the lowest fraction bit in the subnormal and the smallest normal binade. -/
def minExponent (f : Format) : Int := 1 - (f.bias : Int) - f.fractionBits

/-- The weight of the sign bit in a bit pattern. -/
def signWeight (f : Format) : Nat := Nat.pow 2 (f.exponentBits + f.fractionBits)

/-- The weight of the highest fraction bit, which marks a quiet NaN. -/
def quietBit (f : Format) : Nat := Nat.pow 2 (f.fractionBits - 1)

/-- Puts the three fields together into a bit pattern. -/
def pack (f : Format) (negative : Bool) (field fraction : Nat) : Nat :=
  (if negative then f.signWeight else 0) + field * Nat.pow 2 f.fractionBits + fraction

/-- The infinity of the given sign. -/
def infinityBits (f : Format) (negative : Bool) : Nat :=
  f.pack negative f.topField 0

/-- Splits a bit pattern into its class, reading the fields from the low bits up. -/
def decode (f : Format) (bits : Nat) : Decoded :=
  let negative := (bits / f.signWeight) % 2 == 1
  let field := (bits / Nat.pow 2 f.fractionBits) % Nat.pow 2 f.exponentBits
  let fraction := bits % Nat.pow 2 f.fractionBits
  if field = f.topField then
    if fraction = 0 then .infinity negative else .nan negative fraction
  else if field = 0 then
    .finite negative fraction f.minExponent
  else
    .finite negative (fraction + Nat.pow 2 f.fractionBits) (f.minExponent + (field - 1 : Nat))

/-- `⌊num / (den * 2^shift)⌋` together with the remainder and the divisor, for any integer `shift`. -/
def divPow2 (num den : Nat) (shift : Int) : Nat × Nat × Nat :=
  if 0 ≤ shift then
    let d := den * Nat.pow 2 shift.toNat
    (num / d, num % d, d)
  else
    let n := num * Nat.pow 2 (-shift).toNat
    (n / den, n % den, den)

/-- Rounds a quotient to the nearest integer, a remainder of exactly half going to the even one. -/
def roundHalfEven (q r d : Nat) : Nat :=
  if 2 * r > d ∨ (2 * r = d ∧ q % 2 = 1) then q + 1 else q

/-- The binary exponent of the lowest significand bit that gives `num / den` a full significand:
the least `e` with `num / (den * 2^e) < 2^(fractionBits + 1)`, but never below `minExponent`. -/
def scaleFor (f : Format) (num den : Nat) : Int :=
  let guess : Int := (Nat.log2 num : Int) - (Nat.log2 den : Int) - f.fractionBits
  let e := if (divPow2 num den guess).1 < Nat.pow 2 f.fractionBits then guess - 1 else guess
  max e f.minExponent

/-- The bit pattern nearest to `(-1)^negative * num / den`, ties to the even significand.
Magnitudes beyond the largest finite value round to infinity; `den = 0` also gives infinity. -/
def round (f : Format) (negative : Bool) (num den : Nat) : Nat :=
  if den = 0 then f.infinityBits negative
  else if num = 0 then f.pack negative 0 0
  else
    let e := f.scaleFor num den
    let (q, r, d) := divPow2 num den e
    let m := roundHalfEven q r d
    -- rounding up may carry into the next binade
    let (m, e) := if m = Nat.pow 2 (f.fractionBits + 1) then (m / 2, e + 1) else (m, e)
    if m < Nat.pow 2 f.fractionBits then
      f.pack negative 0 m
    else
      let field := (e - f.minExponent).toNat + 1
      if field ≥ f.topField then f.infinityBits negative
      else f.pack negative field (m - Nat.pow 2 f.fractionBits)

/-- The bit pattern of an exactly known finite value `(-1)^negative * mantissa * 2^exponent`,
rounded into this format. -/
def ofFinite (f : Format) (negative : Bool) (mantissa : Nat) (exponent : Int) : Nat :=
  if 0 ≤ exponent then f.round negative (mantissa * Nat.pow 2 exponent.toNat) 1
  else f.round negative mantissa (Nat.pow 2 (-exponent).toNat)

end Format

/-- Converts a double to single precision: finite values round to nearest, NaNs keep their
sign and the top bits of their payload and become quiet. -/
def narrow (bits : UInt64) : UInt32 :=
  let f32 := Format.binary32
  let f64 := Format.binary64
  match f64.decode bits.toNat with
  | .nan negative payload =>
    UInt32.ofNat (f32.pack negative f32.topField
      (payload / Nat.pow 2 (f64.fractionBits - f32.fractionBits) ||| f32.quietBit))
  | .infinity negative => UInt32.ofNat (f32.infinityBits negative)
  | .finite negative m e => UInt32.ofNat (f32.ofFinite negative m e)

/-- Converts a single to double precision, which is exact; NaNs keep sign and payload and
become quiet. -/
def widen (bits : UInt32) : UInt64 :=
  let f32 := Format.binary32
  let f64 := Format.binary64
  match f32.decode bits.toNat with
  | .nan negative payload =>
    UInt64.ofNat (f64.pack negative f64.topField
      (payload * Nat.pow 2 (f64.fractionBits - f32.fractionBits) ||| f64.quietBit))
  | .infinity negative => UInt64.ofNat (f64.infinityBits negative)
  | .finite negative m e => UInt64.ofNat (f64.ofFinite negative m e)

/-- The double nearest to a natural number. -/
def ofNat (n : Nat) : UInt64 :=
  UInt64.ofNat (Format.binary64.round false n 1)

/-- The double nearest to an integer. -/
def ofInt (n : Int) : UInt64 :=
  UInt64.ofNat (Format.binary64.round (n < 0) n.natAbs 1)

/-- The decoded form of a double. -/
def decode (bits : UInt64) : Decoded :=
  Format.binary64.decode bits.toNat

namespace Decoded

/-- The integer a finite value equals, if it is integral; both zeros give `0`. -/
def toInt? : Decoded → Option Int
  | .finite negative m e =>
    let magnitude : Option Nat :=
      if 0 ≤ e then some (m * Nat.pow 2 e.toNat)
      else if m % Nat.pow 2 (-e).toNat = 0 then some (m / Nat.pow 2 (-e).toNat) else none
    magnitude.map fun n => if negative then -(n : Int) else n
  | _ => none

/-- A finite value as its sign and a fraction `num / den` of natural numbers. -/
def fraction? : Decoded → Option (Bool × Nat × Nat)
  | .finite negative m e =>
    if 0 ≤ e then some (negative, m * Nat.pow 2 e.toNat, 1)
    else some (negative, m, Nat.pow 2 (-e).toNat)
  | _ => none

/-- Whether the value is finite and greater than the largest finite single-precision value. -/
def exceedsBinary32 : Decoded → Bool
  | .finite _ m e =>
    -- the largest single is (2^24 - 1) * 2^104
    let limitMantissa := Nat.pow 2 24 - 1
    if 0 ≤ e then decide (m * Nat.pow 2 e.toNat > limitMantissa * Nat.pow 2 104)
    else decide (m > limitMantissa * Nat.pow 2 104 * Nat.pow 2 (-e).toNat)
  | _ => false

end Decoded

/-- The product of two finite doubles, rounded to nearest even; none unless both are finite. -/
def mul? (a b : UInt64) : Option UInt64 := do
  let (na, pa, qa) ← (decode a).fraction?
  let (nb, pb, qb) ← (decode b).fraction?
  pure (UInt64.ofNat (Format.binary64.round (na != nb) (pa * pb) (qa * qb)))

/-- The quotient of two finite doubles, rounded to nearest even; none unless both are finite
and the divisor is not zero. -/
def div? (a b : UInt64) : Option UInt64 := do
  let (na, pa, qa) ← (decode a).fraction?
  let (nb, pb, qb) ← (decode b).fraction?
  if pb = 0 then none
  else pure (UInt64.ofNat (Format.binary64.round (na != nb) (pa * qb) (qa * pb)))

end ByteLayout.IEEE
