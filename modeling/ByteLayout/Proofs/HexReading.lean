import ByteLayout.Proofs.TextCodec
import ByteLayout.Definition

set_option autoImplicit false

/-!
# Reading hex text

Hex text is read two characters at a time, once it is known to be ASCII with an even number of
bytes. A pair reads as a byte when both of its characters are hex digits, of either case, and
also when it is a plus sign followed by one hex digit, a form that a reader of unsigned numbers
with an optional sign accepts. Such a pair is not hex, so reading takes some texts that are not
hex strings, such as `+a`, and reads them as bytes whose hex text is another string.

This module gives the texts that read as bytes as a grammar, `Hex.Spells`, and shows that
reading accepts exactly what the grammar spells. Without plus signs the grammar is the even-length
strings of hex digits, and the bytes they spell are written back as their lowercase form; so are
the hex encoding of text regions and the hex of literal definitions.

## Main definitions

* `ByteLayout.Hex.Spells` — the texts that spell some bytes, pair by pair.

## Main results

* `ByteLayout.Hex.read?_eq_some_iff` — reading accepts exactly what the grammar spells.
* `ByteLayout.Hex.read?_accepts_plus_pair` — `+a` reads as the byte `0a`.
* `ByteLayout.Hex.read?_iff_digits_of_plus_free` — for text without a plus sign, reading, the hex
  encoding and literal definitions accept exactly the even-length strings of hex digits, and
  the bytes read are written back as the text's lowercase form.
-/

namespace ByteLayout

namespace Hex

/-! ### Hex digits -/

/-- The characters with a digit value are exactly the hex digits, of either case. -/
lemma digitValue?_isSome (c : Char) : (digitValue? c).isSome = c.isHexDigit := by
  unfold digitValue? Char.isHexDigit Char.isDigit
  simp only [Char.le_def, ge_iff_le, UInt32.le_iff_toNat_le]
  split_ifs <;> simp_all

/-- A hex digit is ASCII. -/
lemma toNat_lt_of_digitValue? {c : Char} {n : Nat} (h : digitValue? c = some n) :
    c.toNat < 128 := by
  show c.val.toNat < 128
  unfold digitValue? at h
  simp only [Char.le_def, UInt32.le_iff_toNat_le] at h
  split_ifs at h
  all_goals simp_all
  all_goals omega

/-- Every ASCII hex digit has a value below sixteen, whose lowercase digit is the character in
lowercase. -/
private lemma ascii_digits : ∀ k < 128, (digitValue? (Char.ofNat k)).all
    (fun n => decide (n < 16) && digitChar n == (Char.ofNat k).toLower) := by
  decide

/-- A hex digit's value is below sixteen, and writing it gives the digit in lowercase. -/
lemma digitChar_of_digitValue? {c : Char} {n : Nat} (h : digitValue? c = some n) :
    n < 16 ∧ digitChar n = c.toLower := by
  have hdigit := ascii_digits c.toNat (toNat_lt_of_digitValue? h)
  rw [Char.ofNat_toNat, h] at hdigit
  simpa using hdigit

lemma digitValue?_plus : digitValue? '+' = none := by
  decide

/-! ### The texts that read as bytes -/

/-- The texts that spell bytes when read as hex, pair by pair: two hex digits of either case
spell the byte they write, and a plus sign followed by one hex digit spells the digit's value. -/
inductive Spells : List Char → List UInt8 → Prop
  | nil : Spells [] []
  | digits {hi lo : Char} {h l : Nat} {rest : List Char} {bs : List UInt8} :
      digitValue? hi = some h → digitValue? lo = some l → Spells rest bs →
      Spells (hi :: lo :: rest) ((h * 16 + l).toUInt8 :: bs)
  | plus {lo : Char} {l : Nat} {rest : List Char} {bs : List UInt8} :
      digitValue? lo = some l → Spells rest bs → Spells ('+' :: lo :: rest) (l.toUInt8 :: bs)

namespace Spells

variable {cs : List Char} {bs : List UInt8}

/-- A spelling takes two characters per byte. -/
lemma length (h : Spells cs bs) : cs.length = 2 * bs.length := by
  induction h with
  | nil => rfl
  | digits _ _ _ ih => simp only [List.length_cons, ih]; omega
  | plus _ _ ih => simp only [List.length_cons, ih]; omega

/-- A spelling is ASCII. -/
lemma ascii (h : Spells cs bs) : ∀ c ∈ cs, c.toNat < 128 := by
  induction h with
  | nil => simp
  | digits hh hl _ ih =>
    simp only [List.mem_cons, forall_eq_or_imp]
    exact ⟨toNat_lt_of_digitValue? hh, toNat_lt_of_digitValue? hl, ih⟩
  | plus hl _ ih =>
    simp only [List.mem_cons, forall_eq_or_imp]
    exact ⟨by decide, toNat_lt_of_digitValue? hl, ih⟩

end Spells

/-- A pair reads as a byte when it is two hex digits, or a plus sign and one hex digit. -/
lemma pairValue?_eq_some_iff (hi lo : Char) (b : UInt8) :
    pairValue? hi lo = some b ↔
      (∃ h l, digitValue? hi = some h ∧ digitValue? lo = some l ∧ b = (h * 16 + l).toUInt8) ∨
        (hi = '+' ∧ ∃ l, digitValue? lo = some l ∧ b = l.toUInt8) := by
  unfold pairValue?
  by_cases hplus : hi = '+'
  · subst hplus
    simp [digitValue?_plus, eq_comm]
  · simp only [hplus, if_false, false_and, or_false, Option.pure_def, Option.bind_eq_bind,
      Option.bind_eq_some_iff, Option.some.injEq]
    constructor
    · rintro ⟨h, hh, l, hl, rfl⟩
      exact ⟨h, l, hh, hl, rfl⟩
    · rintro ⟨h, l, hh, hl, rfl⟩
      exact ⟨h, hh, l, hl, rfl⟩

/-- Reading pairs accepts exactly what the grammar spells. -/
lemma readPairs_eq_some_iff (cs : List Char) (bs : List UInt8) :
    readPairs cs = some bs ↔ Spells cs bs := by
  induction cs using readPairs.induct generalizing bs with
  | case1 =>
    constructor
    · intro h
      cases h
      exact .nil
    · rintro ⟨⟩
      rfl
  | case2 c =>
    constructor
    · intro h
      cases h
    · rintro ⟨⟩
  | case3 hi lo rest ih =>
    simp only [readPairs, Option.pure_def, Option.bind_eq_bind, Option.bind_eq_some_iff,
      Option.some.injEq]
    constructor
    · rintro ⟨b, hb, bs', hrest, rfl⟩
      rcases (pairValue?_eq_some_iff hi lo b).1 hb with ⟨h, l, hh, hl, rfl⟩ | ⟨rfl, l, hl, rfl⟩
      · exact .digits hh hl ((ih bs').1 hrest)
      · exact .plus hl ((ih bs').1 hrest)
    · rintro (_ | ⟨hh, hl, hrest⟩ | ⟨hl, hrest⟩)
      · exact ⟨_, (pairValue?_eq_some_iff _ _ _).2 (.inl ⟨_, _, hh, hl, rfl⟩), _,
          (ih _).2 hrest, rfl⟩
      · exact ⟨_, (pairValue?_eq_some_iff _ _ _).2 (.inr ⟨rfl, _, hl, rfl⟩), _,
          (ih _).2 hrest, rfl⟩

/-- **Reading accepts exactly what the grammar spells.** Hex text reads as some bytes exactly
when its characters spell them pair by pair; the checks that the text is ASCII and has an even
number of bytes reject nothing that the pairs would accept. -/
theorem read?_eq_some_iff (s : String) (bs : List UInt8) :
    read? s = some bs ↔ Spells s.toList bs := by
  unfold read?
  constructor
  · intro h
    split at h
    · cases h
    · exact (readPairs_eq_some_iff _ _).1 h
  · intro h
    have hsize : s.utf8ByteSize = s.toList.length := by
      have := utf8ByteSize_ofList_ascii s.toList h.ascii
      rwa [String.ofList_toList] at this
    have hchecks : ¬(s.utf8ByteSize % 2 ≠ 0 ∨ (!s.toList.all (·.toNat < 128)) = true) := by
      rw [hsize, h.length]
      simp only [Nat.mul_mod_right, ne_eq, not_true_eq_false, false_or, Bool.not_eq_true',
        Bool.not_eq_false, List.all_eq_true, decide_eq_true_eq]
      exact h.ascii
    rw [if_neg hchecks]
    exact (readPairs_eq_some_iff _ _).2 h

/-- The text `+a` reads as the byte `0a`, though its plus sign is no hex digit. -/
theorem read?_accepts_plus_pair :
    read? "+a" = some [0x0a] ∧ ¬ ∀ c ∈ "+a".toList, c.isHexDigit = true := by
  refine ⟨by decide, fun h => ?_⟩
  have hplus : '+'.isHexDigit = true := h '+' (by simp)
  exact absurd hplus (by decide)

/-! ### Text without plus signs -/

/-- Without plus signs, the texts that spell bytes are the even-length strings of hex digits. -/
lemma spells_iff_digits (cs : List Char) (hcs : '+' ∉ cs) :
    (∃ bs, Spells cs bs) ↔ cs.length % 2 = 0 ∧ ∀ c ∈ cs, c.isHexDigit = true := by
  induction cs using readPairs.induct with
  | case1 => exact ⟨fun _ => ⟨rfl, by simp⟩, fun _ => ⟨[], .nil⟩⟩
  | case2 c =>
    constructor
    · rintro ⟨bs, ⟨⟩⟩
    · rintro ⟨hodd, -⟩
      simp at hodd
  | case3 hi lo rest ih =>
    have hhi : hi ≠ '+' := fun h => hcs (h ▸ List.mem_cons_self)
    have hrest : '+' ∉ rest := fun h => hcs (List.mem_cons_of_mem _ (List.mem_cons_of_mem _ h))
    -- a first character that is not a plus sign leaves only two hex digits as the first pair
    have hfirst : (∃ bs, Spells (hi :: lo :: rest) bs) ↔
        (digitValue? hi).isSome ∧ (digitValue? lo).isSome ∧ ∃ bs, Spells rest bs := by
      constructor
      · rintro ⟨_, _ | ⟨hh, hl, hs⟩ | ⟨_, _⟩⟩
        · exact ⟨by simp [hh], by simp [hl], _, hs⟩
        · exact absurd rfl hhi
      · rintro ⟨hh, hl, bs, hs⟩
        obtain ⟨h, hh⟩ := Option.isSome_iff_exists.1 hh
        obtain ⟨l, hl⟩ := Option.isSome_iff_exists.1 hl
        exact ⟨_, .digits hh hl hs⟩
    rw [hfirst, ih hrest, digitValue?_isSome, digitValue?_isSome]
    simp only [List.length_cons, List.mem_cons, forall_eq_or_imp]
    constructor
    · rintro ⟨hh, hl, heven, hall⟩
      exact ⟨by omega, hh, hl, hall⟩
    · rintro ⟨heven, hh, hl, hall⟩
      exact ⟨hh, hl, by omega, hall⟩

/-- Without plus signs, the bytes a text spells are written back as its lowercase form. -/
lemma flatMap_byteChars_of_spells {cs : List Char} {bs : List UInt8} (h : Spells cs bs)
    (hcs : '+' ∉ cs) : bs.flatMap byteChars = cs.map Char.toLower := by
  induction h with
  | nil => rfl
  | @digits hi lo hv lv rest bs hh hl _ ih =>
    obtain ⟨hv16, hhi⟩ := digitChar_of_digitValue? hh
    obtain ⟨lv16, hlo⟩ := digitChar_of_digitValue? hl
    have hbyte : (hv * 16 + lv).toUInt8.toNat = hv * 16 + lv := by
      rw [Nat.toUInt8, UInt8.toNat_ofNat']
      omega
    have hrest : '+' ∉ rest := fun h => hcs (List.mem_cons_of_mem _ (List.mem_cons_of_mem _ h))
    rw [List.flatMap_cons, byteChars, hbyte, ih hrest,
      show (hv * 16 + lv) / 16 = hv by omega, show (hv * 16 + lv) % 16 = lv by omega, hhi, hlo]
    rfl
  | plus _ _ _ => exact absurd List.mem_cons_self hcs

/-- **Text without plus signs reads as hex exactly when it is hex.** Every byte string is
written as lowercase hex digits, two per byte, and the text reads back as the bytes. For a text
with no plus sign: it reads as bytes exactly when it has an even length and every character is a hex digit
of either case, and the bytes then write back as its lowercase form. The hex encoding of text
regions and literal definitions with hex accept exactly the same texts, refusing any other as
an invalid encoding or an invalid literal; and the text reads back as itself through the
encoding exactly when it is such a text and is lowercase.

Plus signs are what this needs: `read?_accepts_plus_pair`. -/
theorem read?_iff_digits_of_plus_free (s : String) (hs : '+' ∉ s.toList) :
    (∀ b : List UInt8, (render b).length = 2 * b.length ∧
      (∀ c ∈ (render b).toList, c.isHexDigit = true ∧ c.toLower = c) ∧
      read? (render b) = some b) ∧
    ((∃ bs, read? s = some bs) ↔ s.length % 2 = 0 ∧ ∀ c ∈ s.toList, c.isHexDigit = true) ∧
    (∀ bs, read? s = some bs → render bs = s.toLower) ∧
    ((∃ bs, Encoding.hex.toBytes s = .ok bs) ↔
      s.length % 2 = 0 ∧ ∀ c ∈ s.toList, c.isHexDigit = true) ∧
    (∀ f, Encoding.hex.toBytes s = .error f → f = .hex) ∧
    ((∃ sch, (Definition.literal (some s) none).compile = .ok sch) ↔
      s.length % 2 = 0 ∧ ∀ c ∈ s.toList, c.isHexDigit = true) ∧
    (∀ e, (Definition.literal (some s) none).compile = .error e → e = .invalidLiteral s) ∧
    ((Encoding.hex.toBytes s).bind Encoding.hex.toText = .ok s ↔
      (s.length % 2 = 0 ∧ ∀ c ∈ s.toList, c.isHexDigit = true) ∧ s.toLower = s) := by
  have hread : (∃ bs, read? s = some bs) ↔
      s.length % 2 = 0 ∧ ∀ c ∈ s.toList, c.isHexDigit = true := by
    simp only [read?_eq_some_iff]
    rw [spells_iff_digits _ hs, String.length_toList]
  have hrender : ∀ bs, read? s = some bs → render bs = s.toLower := by
    intro bs h
    apply String.ext
    rw [render, String.toList_ofList, String.toLower, String.toList_map]
    exact flatMap_byteChars_of_spells ((read?_eq_some_iff s bs).1 h) hs
  refine ⟨fun b => ⟨length_render b, render_lower_digits b, read?_render b⟩, hread, hrender, ?_,
    fun f hf => ?_, ?_, fun e he => ?_, ?_⟩
  · rw [← hread]
    rcases hr : read? s with _ | bs <;> simp [Encoding.toBytes, hr]
  · rcases hr : read? s with _ | bs <;> simp only [Encoding.toBytes, hr] at hf
    · cases hf
      rfl
    · cases hf
  · rw [← hread, Definition.compile]
    rcases hr : read? s with _ | bs <;> simp [Definition.literalBytes, Except.map, hr]
  · rw [Definition.compile] at he
    rcases hr : read? s with _ | bs <;>
      simp only [Definition.literalBytes, Except.map, hr, reduceCtorEq, Except.error.injEq] at he
    exact he.symm
  · rw [← hread]
    rcases hr : read? s with _ | bs
    · simp [Encoding.toBytes, hr, Except.bind]
    · simp [Encoding.toBytes, Encoding.toText, hr, Except.bind, hrender bs hr]

/-- Uppercase hex reads as its bytes, written back in lowercase. -/
theorem read?_iff_digits_cafe :
    let s := "CAFE"
    '+' ∉ s.toList ∧
    (∀ b : List UInt8, (render b).length = 2 * b.length ∧
      (∀ c ∈ (render b).toList, c.isHexDigit = true ∧ c.toLower = c) ∧
      read? (render b) = some b) ∧
    ((∃ bs, read? s = some bs) ↔ s.length % 2 = 0 ∧ ∀ c ∈ s.toList, c.isHexDigit = true) ∧
    (∀ bs, read? s = some bs → render bs = s.toLower) ∧
    ((∃ bs, Encoding.hex.toBytes s = .ok bs) ↔
      s.length % 2 = 0 ∧ ∀ c ∈ s.toList, c.isHexDigit = true) ∧
    (∀ f, Encoding.hex.toBytes s = .error f → f = .hex) ∧
    ((∃ sch, (Definition.literal (some s) none).compile = .ok sch) ↔
      s.length % 2 = 0 ∧ ∀ c ∈ s.toList, c.isHexDigit = true) ∧
    (∀ e, (Definition.literal (some s) none).compile = .error e → e = .invalidLiteral s) ∧
    ((Encoding.hex.toBytes s).bind Encoding.hex.toText = .ok s ↔
      (s.length % 2 = 0 ∧ ∀ c ∈ s.toList, c.isHexDigit = true) ∧ s.toLower = s) :=
  ⟨by simp, read?_iff_digits_of_plus_free _ (by simp)⟩

end Hex

end ByteLayout
