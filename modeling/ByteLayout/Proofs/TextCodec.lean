import Mathlib
import ByteLayout.Text.Encoding

set_option autoImplicit false

/-!
# Text that reads back as the bytes it shows

A text region parses its bytes into a string and builds the string back into bytes. The two
agree when the encoding reads back: the string it shows some bytes as stands for those same
bytes. Hex does, whatever the bytes: each byte is shown as two lowercase hex digits, every
one of them ASCII, and reading takes the text two characters at a time.

## Main definitions

* `ByteLayout.Encoding.ReadsBack` — an encoding whose text stands for the bytes it shows.

## Main results

* `ByteLayout.Hex.length_render`, `ByteLayout.Hex.render_lower_digits` — hex text is two
  lowercase hex digits per byte.
* `ByteLayout.Hex.read?_render` — hex text reads as the bytes it was written from.
* `ByteLayout.Encoding.readsBack_hex` — hex reads back.
* `ByteLayout.Encoding.readsBack_base64` — base64 reads back when its engine reads back what it
  writes.
-/

namespace ByteLayout

/-- An encoding reads back when the text it shows some bytes as stands for those bytes. -/
def Encoding.ReadsBack (e : Encoding) : Prop :=
  ∀ (raw : List UInt8) (str : String), e.toText raw = .ok str → e.toBytes str = .ok raw

namespace Hex

/-- A hex digit is ASCII, is not a plus sign, and reads as its value. -/
lemma digitChar_facts : ∀ n, n < 16 → digitValue? (digitChar n) = some n ∧
    (digitChar n).toNat < 128 ∧ digitChar n ≠ '+' := by
  decide

lemma pairValue?_byteChars (b : UInt8) :
    pairValue? (digitChar (b.toNat / 16)) (digitChar (b.toNat % 16)) = some b := by
  have hb := b.toNat_lt
  obtain ⟨hhi, -, hplus⟩ := digitChar_facts (b.toNat / 16) (by omega)
  obtain ⟨hlo, -, -⟩ := digitChar_facts (b.toNat % 16) (by omega)
  simp only [pairValue?, if_neg hplus, hhi, hlo, Option.pure_def, Option.bind_eq_bind,
    Option.bind_some]
  rw [Nat.div_add_mod']
  simp

lemma readPairs_flatMap (bs : List UInt8) : readPairs (bs.flatMap byteChars) = some bs := by
  induction bs with
  | nil => rfl
  | cons b rest ih =>
    rw [List.flatMap_cons, byteChars, List.cons_append, List.cons_append, List.nil_append,
      readPairs, pairValue?_byteChars, ih]
    rfl

lemma byteChars_ascii (b : UInt8) : ∀ c ∈ byteChars b, c.toNat < 128 := by
  have hb := b.toNat_lt
  intro c hc
  simp only [byteChars, List.mem_cons, List.mem_nil_iff, or_false] at hc
  rcases hc with rfl | rfl
  · exact (digitChar_facts _ (by omega)).2.1
  · exact (digitChar_facts _ (by omega)).2.1

/-- ASCII text takes one byte per character. -/
lemma utf8ByteSize_ofList_ascii (cs : List Char) (h : ∀ c ∈ cs, c.toNat < 128) :
    (String.ofList cs).utf8ByteSize = cs.length := by
  induction cs with
  | nil => rfl
  | cons c rest ih =>
    have hc : c.utf8Size = 1 := by
      have h127 : c.toNat < 128 := h c List.mem_cons_self
      rw [Char.utf8Size_eq_one_iff, UInt32.le_iff_toNat_le]
      exact Nat.lt_succ_iff.1 h127
    rw [show c :: rest = [c] ++ rest from rfl, String.ofList_append, String.utf8ByteSize_append,
      ← String.singleton_eq_ofList, String.utf8ByteSize_singleton, hc,
      ih fun c' hc' => h c' (by simp [hc']), List.length_append]
    simp [Nat.add_comm]

/-- Hex text has two characters per byte. -/
lemma length_flatMap_byteChars (bs : List UInt8) :
    (bs.flatMap byteChars).length = 2 * bs.length := by
  induction bs with
  | nil => rfl
  | cons b rest ih => simp [byteChars] at ih ⊢; omega

theorem length_render (bs : List UInt8) : (render bs).length = 2 * bs.length := by
  rw [render, String.length_ofList, length_flatMap_byteChars]

/-- A digit of a number below sixteen is a lowercase hex digit. -/
lemma digitChar_lower :
    ∀ n, n < 16 → (digitChar n).isHexDigit = true ∧ (digitChar n).toLower = digitChar n := by
  decide

/-- Hex text is made of lowercase hex digits. -/
theorem render_lower_digits (bs : List UInt8) :
    ∀ c ∈ (render bs).toList, c.isHexDigit = true ∧ c.toLower = c := by
  intro c hc
  rw [render, String.toList_ofList] at hc
  obtain ⟨b, -, hb⟩ := List.mem_flatMap.1 hc
  have hlt := b.toNat_lt
  simp only [byteChars, List.mem_cons, List.mem_nil_iff, or_false] at hb
  rcases hb with rfl | rfl
  · exact digitChar_lower _ (by omega)
  · exact digitChar_lower _ (by omega)

/-- **Hex reads back.** The hex text of some bytes reads as those bytes.

**Proof sketch.** The text has two ASCII characters per byte, so its UTF-8 length is even and
it passes the checks; each pair of digits then reads as its byte. -/
theorem read?_render (bs : List UInt8) : read? (render bs) = some bs := by
  have hascii : ∀ c ∈ bs.flatMap byteChars, c.toNat < 128 := by
    intro c hc
    obtain ⟨b, -, hb⟩ := List.mem_flatMap.1 hc
    exact byteChars_ascii b c hb
  rw [read?, render, if_neg, String.toList_ofList, readPairs_flatMap]
  rw [utf8ByteSize_ofList_ascii _ hascii, length_flatMap_byteChars, String.toList_ofList]
  simp only [Nat.mul_mod_right, ne_eq, not_true_eq_false, false_or, Bool.not_eq_true',
    List.all_eq_false]
  rintro ⟨c, hc, hbad⟩
  exact hbad (decide_eq_true (hascii c hc))

end Hex

theorem Encoding.readsBack_hex : Encoding.hex.ReadsBack := by
  intro raw str h
  cases h
  simp only [Encoding.toBytes, Hex.read?_render]

/-- **A base64 encoding reads back when its engine does.** An engine that reads the text it
writes as the bytes it wrote makes its encoding read back. -/
theorem Encoding.readsBack_base64 (engine : Base64Engine)
    (decode_encode : ∀ bs, engine.decode (Utf8.encode (engine.encode bs)) = .ok bs) :
    (Encoding.base64 engine).ReadsBack := by
  intro raw str h
  simp only [Encoding.toText, Except.ok.injEq] at h
  subst h
  simp [Encoding.toBytes, decode_encode, Except.mapError]

end ByteLayout
