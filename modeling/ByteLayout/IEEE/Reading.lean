import ByteLayout.IEEE.Format
/-!
# Reading decimal text as a double

A decimal `mantissa * 10^exponent` rounds to the nearest double, ties to even. Values far
outside the range of doubles are settled from their digit count alone, so a huge exponent
costs nothing. The text form accepted is an optional sign, then `inf`, `infinity` or `nan` in
any case, or digits with an optional point and an optional exponent part.

## Main definitions

* `ByteLayout.IEEE.ofDecimal` — the double nearest to a signed decimal.
* `ByteLayout.IEEE.readDecimal?` — reads decimal text as a double.
* `ByteLayout.IEEE.scaleByPow10?` — a double times a power of ten, one rounding per step.
-/

namespace ByteLayout.IEEE

/-- The bits of the quiet NaN with an empty payload. -/
def quietNaN : UInt64 := 0x7ff8000000000000

/-- The double nearest to `(-1)^negative * mantissa * 10^exponent`. -/
def ofDecimal (negative : Bool) (mantissa : Nat) (exponent : Int) : UInt64 :=
  let f := Format.binary64
  let digits : Int := (Nat.toDigits 10 mantissa).length
  if mantissa = 0 then UInt64.ofNat (f.pack negative 0 0)
  -- at least 10^309, beyond the largest double
  else if digits - 1 + exponent ≥ 310 then UInt64.ofNat (f.infinityBits negative)
  -- below 10^-330, under half the smallest subnormal
  else if digits + exponent < -330 then UInt64.ofNat (f.pack negative 0 0)
  else if 0 ≤ exponent then UInt64.ofNat (f.round negative (mantissa * Nat.pow 10 exponent.toNat) 1)
  else UInt64.ofNat (f.round negative mantissa (Nat.pow 10 (-exponent).toNat))

/-- The value of a list of decimal digit characters. -/
def digitsValue (ds : List Char) : Nat :=
  ds.foldl (fun acc c => acc * 10 + (c.toNat - '0'.toNat)) 0

/-- Reads the part after `e` or `E`: an optional sign and at least one digit. -/
def readExponent? (cs : List Char) : Option Int :=
  let (negative, rest) := match cs with
    | '+' :: r => (false, r)
    | '-' :: r => (true, r)
    | r => (false, r)
  if rest.isEmpty || !rest.all Char.isDigit then none
  else
    let n : Int := digitsValue rest
    some (if negative then -n else n)

/-- Reads unsigned decimal digits with an optional point and exponent part. At least one digit
must stand before or after the point. -/
def readUnsigned? (cs : List Char) : Option (Nat × Int) :=
  let whole := cs.takeWhile Char.isDigit
  let rest := cs.dropWhile Char.isDigit
  let (fraction, rest) := match rest with
    | '.' :: r => (r.takeWhile Char.isDigit, r.dropWhile Char.isDigit)
    | r => ([], r)
  if whole.isEmpty && fraction.isEmpty then none
  else
    let scale : Option Int := match rest with
      | [] => some 0
      | c :: r => if c = 'e' || c = 'E' then readExponent? r else none
    scale.map fun x => (digitsValue (whole ++ fraction), x - fraction.length)

/-- Reads decimal text as the nearest double: an optional sign, then `inf`, `infinity` or `nan`
in any case, or a decimal number. -/
def readDecimal? (s : String) : Option UInt64 :=
  let cs := s.toList
  let (negative, body) := match cs with
    | '+' :: r => (false, r)
    | '-' :: r => (true, r)
    | r => (false, r)
  let word := String.ofList (body.map Char.toLower)
  let f := Format.binary64
  if word = "inf" || word = "infinity" then some (UInt64.ofNat (f.infinityBits negative))
  else if word = "nan" then
    some (if negative then quietNaN ||| 0x8000000000000000 else quietNaN)
  else (readUnsigned? body).map fun (m, x) => ofDecimal negative m x

/-- `f * 10^k` computed as fast decimal readers do, rounding at every step: for `|k| ≤ 308` one
multiplication or division by the double nearest to `10^|k|`; beyond that a zero stays zero, a
positive `k` has no value, and a negative `k` first divides by the double nearest to `10^308`.
A product beyond the largest double has no value either. -/
def scaleByPow10? (f : UInt64) (k : Int) : Option UInt64 :=
  if k.natAbs ≤ 308 then
    let pow := ofDecimal false 1 k.natAbs
    if 0 ≤ k then
      (mul? f pow).bind fun g => match decode g with
        | .infinity _ => none
        | _ => some g
    else div? f pow
  else match decode f with
    | .finite _ 0 _ => some f
    | _ =>
      if 0 ≤ k then none
      else (div? f (ofDecimal false 1 308)).bind fun g => scaleByPow10? g (k + 308)
termination_by k.natAbs
decreasing_by omega

end ByteLayout.IEEE
