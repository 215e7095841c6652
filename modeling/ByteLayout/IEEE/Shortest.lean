import ByteLayout.IEEE.Format
/-!
# Shortest decimal text of a double

The decimal with the fewest significant digits that reads back as a given double, and its
positional text. A double `v` reads back from every real strictly inside the interval between
the midpoints to its two neighbours; the midpoints themselves read back as `v` exactly when the
significand of `v` is even, since reading ties go to even. For `n = 1, 2, …, 17` the search
looks at the two multiples of `10^k` around `v` that have `n` significant digits; the first `n`
at which one of them lies in the interval wins, and of two the nearer to `v`. An exact tie
between them goes to the larger, as when the exact digits of `v` are rounded half up: the
double `2^-25 = 0.0000000298023223876953125` is written `0.000000029802322387695313`. If a
multiple of `10^k` lies in the interval, one of these two neighbours does, so no shorter
decimal is missed.

## Main definitions

* `ByteLayout.IEEE.shortestDigits` — the digits and decimal exponent of a positive finite double.
* `ByteLayout.IEEE.positional` — digits and exponent written without an exponent part.
* `ByteLayout.IEEE.displayText` — the text of any double: `NaN`, `inf`, `-inf`, or positional.
-/

namespace ByteLayout.IEEE

/-- Compares `c * 10^k` with `a * 2^s`, for integers `k` and `s`, in exact arithmetic. -/
def compareScaled (c : Nat) (k : Int) (a : Nat) (s : Int) : Ordering :=
  compare (c * Nat.pow 10 k.toNat * Nat.pow 2 (-s).toNat) (a * Nat.pow 2 s.toNat * Nat.pow 10 (-k).toNat)

/-- The number of decimal digits of `n`, taking `0` to have one. -/
def decimalLength (n : Nat) : Nat :=
  (Nat.toDigits 10 n).length

/-- The decimal exponent `k` with `10^k ≤ num / den < 10^(k+1)`, for positive `num` and `den`. -/
def decimalExponent (num den : Nat) : Int :=
  let t : Int := (decimalLength num : Int) - (decimalLength den : Int)
  -- the quotient lies strictly between 10^(t-1) and 10^(t+1)
  if num * Nat.pow 10 (-t).toNat ≥ den * Nat.pow 10 t.toNat then t else t - 1

/-- The rounding interval of a positive finite double `m * 2^e`, as numerators over the common
scale `2^(e-2)`: the low end, the value, the high end, and whether the ends belong to it. -/
def roundingInterval (m : Nat) (e : Int) : Nat × Nat × Nat × Bool :=
  let f := Format.binary64
  -- the lowest double of a binade above the first has a neighbour below at half the spacing
  let lowGap := if m = Nat.pow 2 f.fractionBits ∧ e > f.minExponent then 1 else 2
  (4 * m - lowGap, 4 * m, 4 * m + 2, m % 2 == 0)

/-- Whether `c * 10^k` lies in the rounding interval of `m * 2^e`. -/
def readsBack (m : Nat) (e : Int) (c : Nat) (k : Int) : Bool :=
  let (low, _, high, closed) := roundingInterval m e
  let s := e - 2
  let aboveLow := match compareScaled c k low s with
    | .gt => true
    | .eq => closed
    | .lt => false
  let belowHigh := match compareScaled c k high s with
    | .lt => true
    | .eq => closed
    | .gt => false
  aboveLow && belowHigh

/-- The multiple of `10^k` nearest to `m * 2^e` among `c * 10^k` and `(c + 1) * 10^k` that
reads back, if one does; an exact tie goes to the larger one. -/
def nearestReadingBack (m : Nat) (e : Int) (c : Nat) (k : Int) : Option Nat :=
  match readsBack m e c k, readsBack m e (c + 1) k with
  | false, false => none
  | true, false => some c
  | false, true => some (c + 1)
  | true, true =>
    -- compare twice the value with (2c + 1) * 10^k
    match compareScaled (2 * c + 1) k (8 * m) (e - 2) with
    | .gt => some c
    | .lt => some (c + 1)
    | .eq => some (c + 1)

/-- Removes trailing zeros from a digit string, raising the exponent to match. -/
def stripZeros (c : Nat) (k : Int) : (fuel : Nat) → Nat × Int
  | 0 => (c, k)
  | fuel + 1 => if c ≠ 0 ∧ c % 10 = 0 then stripZeros (c / 10) (k + 1) fuel else (c, k)

/-- Tries the grids of `n, n + 1, …` significant digits, `fuel` of them at most. -/
def searchDigits (m : Nat) (e : Int) (num den : Nat) (e10 : Int) : (n fuel : Nat) → Nat × Int
  | n, 0 =>
    -- seventeen digits always suffice; this is the exact value truncated, as a last resort
    let k := e10 - n + 1
    (num * Nat.pow 10 (-k).toNat / (den * Nat.pow 10 k.toNat), k)
  | n, fuel + 1 =>
    let k := e10 - n + 1
    let c := num * Nat.pow 10 (-k).toNat / (den * Nat.pow 10 k.toNat)
    match nearestReadingBack m e c k with
    | some d => (d, k)
    | none => searchDigits m e num den e10 (n + 1) fuel

/-- The shortest decimal `digits * 10^exponent` that reads back as the positive finite double
`m * 2^e`, with no trailing zeros in `digits`. -/
def shortestDigits (m : Nat) (e : Int) : Nat × Int :=
  let num := m * Nat.pow 2 e.toNat
  let den := Nat.pow 2 (-e).toNat
  let (c, k) := searchDigits m e num den (decimalExponent num den) 1 17
  stripZeros c k 20

/-- The text of `digits * 10^exponent` without an exponent part: `2.5`, `0.0000001`,
`100000000000000000000`. -/
def positional (digits : Nat) (exponent : Int) : String :=
  let s := Nat.toDigits 10 digits
  let point : Int := exponent + s.length
  if point ≤ 0 then
    "0." ++ String.ofList (List.replicate (-point).toNat '0' ++ s)
  else if point < s.length then
    String.ofList (s.take point.toNat ++ '.' :: s.drop point.toNat)
  else
    String.ofList (s ++ List.replicate (point.toNat - s.length) '0')

/-- The text of a double: the shortest digits that read back, written positionally after a
minus sign for negative values (negative zero included); `NaN`, `inf` and `-inf` otherwise. -/
def displayText (bits : UInt64) : String :=
  match decode bits with
  | .nan _ _ => "NaN"
  | .infinity negative => if negative then "-inf" else "inf"
  | .finite negative m e =>
    let sign := if negative then "-" else ""
    if m = 0 then sign ++ "0"
    else
      let (digits, exponent) := shortestDigits m e
      sign ++ positional digits exponent

end ByteLayout.IEEE
