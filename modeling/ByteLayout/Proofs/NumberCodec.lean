import Mathlib
import ByteLayout.Number

set_option autoImplicit false

/-!
# Integers read back as they were written

The bytes of a number are its lowest bytes in the chosen order, and reading them back gives the
number modulo the range of that many bytes. So an integer that fits its type reads back as
itself: an unsigned one directly, a signed one through its two's complement. The other way
round, every pattern of bytes is the pattern of the integer it reads as.

## Main results

* `ByteLayout.ByteOrder.toNat_ofNat` — bytes read back give the number modulo their range.
* `ByteLayout.ByteOrder.ofNat_toNat` — the number some bytes read as writes back as them.
* `ByteLayout.NumberKind.decode_encode` — an integer of an integer type, given as an unsigned
  value for the unsigned types and as a signed value for the signed ones, reads back as itself
  from the bytes it writes.
* `ByteLayout.NumberKind.encode_decode` — the value an integer type reads from bytes of its
  width writes back as those bytes.
-/

namespace ByteLayout

namespace ByteOrder

/-- The digits of `n` in base 256, least significant first, folded from the most significant
one onto `a`. -/
lemma foldr_digits (n w a : Nat) :
    ((List.range w).map fun i => (n / Nat.pow 256 i % 256).toUInt8).foldr
      (fun b acc => acc * 256 + b.toNat) a = a * 256 ^ w + n % 256 ^ w := by
  induction w generalizing a with
  | zero => simp [Nat.mod_one]
  | succ w ih =>
    rw [List.range_succ, List.map_append, List.foldr_append, List.map_singleton,
      List.foldr_cons, List.foldr_nil, ih, Nat.mod_pow_succ]
    have hdigit : (n / Nat.pow 256 w % 256).toUInt8.toNat = n / 256 ^ w % 256 := by
      simp [Nat.pow_eq, Nat.toUInt8]
    rw [hdigit, pow_succ]
    ring

@[simp] lemma length_ofNat (o : ByteOrder) (w n : Nat) : (o.ofNat w n).length = w := by
  cases o <;> simp [ofNat]

/-- Reading the `w` bytes of a number gives the number modulo `256 ^ w`, in either order. -/
theorem toNat_ofNat (o : ByteOrder) (w n : Nat) : o.toNat (o.ofNat w n) = n % 256 ^ w := by
  -- both orders read the least significant byte last
  have h := foldr_digits n w 0
  rw [Nat.zero_mul, Nat.zero_add] at h
  cases o <;> simpa [toNat, ofNat, List.foldl_reverse] using h

lemma toNat_little_cons (b : UInt8) (rest : Bytes) :
    little.toNat (b :: rest) = little.toNat rest * 256 + b.toNat := by
  simp [toNat, List.foldl_append]

lemma ofNat_little_succ (w n : Nat) :
    little.ofNat (w + 1) n = (n % 256).toUInt8 :: little.ofNat w (n / 256) := by
  simp only [ofNat, List.range_succ_eq_map, List.map_cons, List.map_map]
  congr 1
  · simp [Nat.pow_eq]
  · refine List.map_congr_left fun i _ => ?_
    simp only [Function.comp, Nat.succ_eq_add_one, Nat.pow_eq, Nat.pow_succ, Nat.div_div_eq_div_mul]
    rw [Nat.mul_comm]

lemma toNat_big (bs : Bytes) : big.toNat bs = little.toNat bs.reverse := by
  simp [toNat]

lemma ofNat_big (w n : Nat) : big.ofNat w n = (little.ofNat w n).reverse := rfl

/-- Writing the number that some bytes read as, at their own width, gives the bytes back. -/
theorem ofNat_toNat (o : ByteOrder) (bs : Bytes) : o.ofNat bs.length (o.toNat bs) = bs := by
  -- little-endian by induction, the lowest byte first; big-endian is its reverse
  have hlittle : ∀ bs : Bytes, little.ofNat bs.length (little.toNat bs) = bs := by
    intro bs
    induction bs with
    | nil => rfl
    | cons b rest ih =>
      rw [List.length_cons, ofNat_little_succ, toNat_little_cons]
      have hb := b.toNat_lt
      have hmod : (little.toNat rest * 256 + b.toNat) % 256 = b.toNat := by omega
      have hdiv : (little.toNat rest * 256 + b.toNat) / 256 = little.toNat rest := by omega
      rw [hmod, hdiv, ih]
      simp
  cases o with
  | little => exact hlittle bs
  | big =>
    rw [ofNat_big, toNat_big, ← List.length_reverse, hlittle, List.reverse_reverse]

/-- Some bytes read as a number below their range. -/
lemma toNat_lt (o : ByteOrder) (bs : Bytes) : o.toNat bs < 256 ^ bs.length := by
  have h := toNat_ofNat o bs.length (o.toNat bs)
  rw [ofNat_toNat] at h
  rw [h]
  exact Nat.mod_lt _ (by positivity)

end ByteOrder

/-- Two's complement: the pattern of `i` modulo `2 ^ b`, read back as a signed number of `b`
bits, is `i` again, for every `i` the `b` bits can hold. -/
lemma twos_complement {b : Nat} (hb : 1 ≤ b) {i : Int} (hlo : -(2 ^ (b - 1) : Int) ≤ i)
    (hhi : i < 2 ^ (b - 1)) :
    (if (i % 2 ^ b).toNat < 2 ^ (b - 1) then ((i % 2 ^ b).toNat : Int)
      else ((i % 2 ^ b).toNat : Int) - 2 ^ b) = i := by
  -- a pattern below half the range is the integer itself, one above it is shifted down by it
  have hM : (2 : Int) ^ b = 2 * 2 ^ (b - 1) := by
    rw [← pow_succ']
    congr 1
    omega
  have hcast : ((2 ^ (b - 1) : Nat) : Int) = 2 ^ (b - 1) := by push_cast; rfl
  have hm : i % 2 ^ b = if 0 ≤ i then i else i + 2 ^ b := by
    split
    · exact Int.emod_eq_of_lt ‹_› (by omega)
    · rw [Int.emod_eq_add_self_emod, Int.emod_eq_of_lt (by omega) (by omega)]
  rw [hm]
  split <;> split <;> omega

/-- Two's complement, the other way: a pattern of `b` bits read as a signed number lies in the
range of `b` signed bits, and its pattern is the one read. -/
lemma twos_complement_pattern {b r : Nat} (hb : 1 ≤ b) (hr : r < 2 ^ b) {j : Int}
    (hj : (if r < 2 ^ (b - 1) then (r : Int) else (r : Int) - 2 ^ b) = j) :
    (-(2 ^ (b - 1) : Int) ≤ j ∧ j < 2 ^ (b - 1)) ∧ (j % 2 ^ b).toNat = r := by
  have hM : (2 : Int) ^ b = 2 * 2 ^ (b - 1) := by
    rw [← pow_succ']
    congr 1
    omega
  have hcast : ((2 ^ (b - 1) : Nat) : Int) = 2 ^ (b - 1) := by push_cast; rfl
  have hcast' : ((2 ^ b : Nat) : Int) = 2 ^ b := by push_cast; rfl
  have hr' : (r : Int) < 2 ^ b := by rw [← hcast']; exact_mod_cast hr
  subst hj
  constructor
  · split <;> omega
  · split
    · rw [Int.emod_eq_of_lt (by omega) hr']
      simp
    · rw [Int.sub_emod_right, Int.emod_eq_of_lt (by omega) hr']
      simp

lemma Value.toUInt64?_unsigned (n : UInt64) : (Value.unsigned n).toUInt64? = some n := by
  have h := n.toNat_lt
  simp only [Value.toUInt64?, Value.exactInt?]
  rw [if_pos ⟨by omega, by simpa [Nat.pow_eq] using h⟩]
  simp

lemma Value.toInt64?_signed (i : Int64) : (Value.signed i).toInt64? = some i := by
  have h1 := i.le_toInt
  have h2 := i.toInt_lt
  simp only [Value.toInt64?, Value.exactInt?]
  rw [if_pos ⟨by simpa [Nat.pow_eq] using h1, by simpa [Nat.pow_eq] using h2⟩]
  simp

namespace NumberKind

variable {k : NumberKind}

/-! ### The integer types, whatever their width -/

lemma width_pos (k : NumberKind) : 1 ≤ k.width := by
  cases k <;> simp [width]

lemma width_le (k : NumberKind) : k.width ≤ 8 := by
  cases k <;> simp [width]

lemma bitsOf?_unsigned (hf : k.isFloat = false) (hs : k.isSigned = false) (n : UInt64) :
    k.bitsOf? (.unsigned n) = if n.toNat < 2 ^ (8 * k.width) then some n.toNat else none := by
  cases k <;> simp_all [bitsOf?, isFloat, isSigned, Value.toUInt64?_unsigned, Nat.pow_eq]

lemma bitsOf?_signed (hf : k.isFloat = false) (hs : k.isSigned = true) (i : Int64) :
    k.bitsOf? (.signed i) =
      if -(2 ^ (8 * k.width - 1) : Int) ≤ i.toInt ∧ i.toInt < 2 ^ (8 * k.width - 1) then
        some (i.toInt % 2 ^ (8 * k.width)).toNat else none := by
  cases k <;> simp_all [bitsOf?, isFloat, isSigned, Value.toInt64?_signed, Nat.pow_eq]

lemma decode_of_integer (hf : k.isFloat = false) (o : ByteOrder) (bs : Bytes) :
    k.decode o bs = if k.isSigned then
      .signed (Int64.ofInt (if o.toNat bs < 2 ^ (8 * k.width - 1) then (o.toNat bs : Int)
        else (o.toNat bs : Int) - 2 ^ (8 * k.width)))
      else .unsigned (UInt64.ofNat (o.toNat bs)) := by
  cases k <;> simp_all [decode, isFloat, isSigned, Nat.pow_eq]

/-- A number type writes as many bytes as it is wide. -/
lemma length_of_encode {o : ByteOrder} {v : Value} {bs : Bytes} (h : k.encode o v = .ok bs) :
    bs.length = k.width := by
  simp only [encode] at h
  split at h
  · cases h
    exact ByteOrder.length_ofNat _ _ _
  · cases h

/-- **Integers read back as written.** An integer type writes an unsigned value (for an
unsigned type) or a signed value (for a signed type) as bytes that read back as that value. -/
theorem decode_encode (hf : k.isFloat = false) (o : ByteOrder) {v : Value} {bs : Bytes}
    (hv : if k.isSigned then ∃ i, v = .signed i else ∃ n, v = .unsigned n)
    (h : k.encode o v = .ok bs) : k.decode o bs = v := by
  have hrange : (2 : Nat) ^ (8 * k.width) = 256 ^ k.width := by rw [pow_mul]; norm_num
  rw [decode_of_integer hf]
  cases hs : k.isSigned
  · rw [hs, if_neg Bool.false_ne_true] at hv
    obtain ⟨n, rfl⟩ := hv
    by_cases hn : n.toNat < 2 ^ (8 * k.width)
    · simp only [encode, bitsOf?_unsigned hf hs, if_pos hn, Except.ok.injEq] at h
      subst h
      rw [if_neg Bool.false_ne_true, ByteOrder.toNat_ofNat, Nat.mod_eq_of_lt (hrange ▸ hn)]
      simp
    · simp [encode, bitsOf?_unsigned hf hs, hn] at h
  · rw [hs, if_pos rfl] at hv
    obtain ⟨i, rfl⟩ := hv
    by_cases hi : -(2 ^ (8 * k.width - 1) : Int) ≤ i.toInt ∧ i.toInt < 2 ^ (8 * k.width - 1)
    · simp only [encode, bitsOf?_signed hf hs, if_pos hi, Except.ok.injEq] at h
      subst h
      -- the bytes hold the pattern of `i` modulo `2 ^ (8 * width)`, below that range
      have hlt : (i.toInt % 2 ^ (8 * k.width)).toNat < 256 ^ k.width := by
        have hpos : (0 : Int) < 2 ^ (8 * k.width) := by positivity
        have hcast : ((2 ^ (8 * k.width) : Nat) : Int) = 2 ^ (8 * k.width) := by push_cast; rfl
        have := Int.emod_lt_of_pos i.toInt hpos
        have := Int.emod_nonneg i.toInt hpos.ne'
        rw [← hrange]
        omega
      rw [if_pos rfl, ByteOrder.toNat_ofNat, Nat.mod_eq_of_lt hlt,
        twos_complement (by have := k.width_pos; omega) hi.1 hi.2]
      simp
    · simp [encode, bitsOf?_signed hf hs, hi] at h

/-- **Integer bytes are written back as read.** The value an integer type reads from bytes of
its width writes as those same bytes. -/
theorem encode_decode (hf : k.isFloat = false) (o : ByteOrder) {bs : Bytes}
    (hlen : bs.length = k.width) : k.encode o (k.decode o bs) = .ok bs := by
  have hrange : (2 : Nat) ^ (8 * k.width) = 256 ^ k.width := by rw [pow_mul]; norm_num
  have hraw : o.toNat bs < 2 ^ (8 * k.width) := hrange ▸ hlen ▸ o.toNat_lt bs
  have hbits : 2 ^ (8 * k.width) ≤ 2 ^ 64 :=
    Nat.pow_le_pow_right (by norm_num) (by have := k.width_le; omega)
  rw [decode_of_integer hf]
  cases hs : k.isSigned
  · -- unsigned: the number itself, below the range of the type
    have hnat : (UInt64.ofNat (o.toNat bs)).toNat = o.toNat bs := by
      simp only [UInt64.toNat_ofNat']
      exact Nat.mod_eq_of_lt (by omega)
    rw [if_neg Bool.false_ne_true]
    simp only [encode, bitsOf?_unsigned hf hs, hnat, if_pos hraw]
    rw [← hlen, ByteOrder.ofNat_toNat]
  · -- signed: the pattern read back as a signed number, whose pattern is the number read
    rw [if_pos rfl]
    generalize hj : (if o.toNat bs < 2 ^ (8 * k.width - 1) then (o.toNat bs : Int)
      else (o.toNat bs : Int) - 2 ^ (8 * k.width)) = j
    obtain ⟨hjrange, hjmod⟩ := twos_complement_pattern (by have := k.width_pos; omega) hraw hj
    -- the signed range of the type lies within that of `Int64`
    have h63 : (2 : Int) ^ (8 * k.width - 1) ≤ 2 ^ 63 :=
      pow_le_pow_right₀ (by norm_num) (by have := k.width_le; omega)
    have hto : (Int64.ofInt j).toInt = j := Int64.toInt_ofInt_of_le (by omega) (by omega)
    simp only [encode, bitsOf?_signed hf hs, hto, if_pos hjrange, hjmod]
    rw [← hlen, ByteOrder.ofNat_toNat]

end NumberKind

end ByteLayout
