/-!
# UTF-8 validation

Decoding bytes as UTF-8 either gives the text or reports where it went wrong: the length of
the valid prefix, and either the length of the invalid sequence that follows it or the fact
that the bytes end in the middle of a sequence. A sequence is invalid as soon as one of its
bytes cannot continue it, so its reported length counts the bytes read before that one. The
second byte of a three- or four-byte sequence has a narrower range after some first bytes,
which rules out overlong forms, surrogates and code points above `0x10FFFF`.

## Main definitions

* `ByteLayout.Utf8.Fault` — why some bytes are not UTF-8, with its message.
* `ByteLayout.Utf8.decode` — the text that some bytes encode.
-/

namespace ByteLayout.Utf8

/-- Where bytes stop being UTF-8: the length of the valid prefix, and the length of the invalid
sequence after it, or `none` if the bytes end inside a sequence. -/
structure Fault where
  validUpTo : Nat
  errorLength : Option Nat

/-- The text of a fault. -/
def Fault.message (f : Fault) : String :=
  match f.errorLength with
  | some n => s!"invalid utf-8 sequence of {n} bytes from index {f.validUpTo}"
  | none => s!"incomplete utf-8 byte sequence from index {f.validUpTo}"

/-- Whether a byte is a continuation byte, `10xxxxxx`. -/
def isContinuation (b : UInt8) : Bool :=
  0x80 ≤ b && b ≤ 0xbf

/-- Whether `b` may follow the first byte `lead` of a three- or four-byte sequence. -/
def secondFits (lead b : UInt8) : Bool :=
  if lead = 0xe0 then 0xa0 ≤ b && b ≤ 0xbf
  else if lead = 0xed then 0x80 ≤ b && b ≤ 0x9f
  else if lead = 0xf0 then 0x90 ≤ b && b ≤ 0xbf
  else if lead = 0xf4 then 0x80 ≤ b && b ≤ 0x8f
  else isContinuation b

/-- The low six bits of a continuation byte. -/
def low6 (b : UInt8) : Nat := b.toNat % 64

/-- Prepends a character to a decoding that succeeded. -/
def consChar (c : Char) : Except Fault (List Char) → Except Fault (List Char)
  | .ok cs => .ok (c :: cs)
  | .error f => .error f

/-- Decodes the bytes, the first of which stands at `index` of the whole input. -/
def decodeFrom : List UInt8 → Nat → Except Fault (List Char)
  | [], _ => .ok []
  | b0 :: tail, i =>
    let invalid (n : Nat) : Except Fault (List Char) := .error ⟨i, some n⟩
    let incomplete : Except Fault (List Char) := .error ⟨i, none⟩
    if b0 < 0x80 then consChar (Char.ofNat b0.toNat) (decodeFrom tail (i + 1))
    else if 0xc2 ≤ b0 && b0 ≤ 0xdf then
      match tail with
      | [] => incomplete
      | b1 :: rest =>
        if isContinuation b1 then
          consChar (Char.ofNat ((b0.toNat % 32) * 64 + low6 b1)) (decodeFrom rest (i + 2))
        else invalid 1
    else if 0xe0 ≤ b0 && b0 ≤ 0xef then
      match tail with
      | [] => incomplete
      | b1 :: tail2 =>
        if !secondFits b0 b1 then invalid 1
        else match tail2 with
          | [] => incomplete
          | b2 :: rest =>
            if isContinuation b2 then
              consChar (Char.ofNat ((b0.toNat % 16) * 4096 + low6 b1 * 64 + low6 b2))
                (decodeFrom rest (i + 3))
            else invalid 2
    else if 0xf0 ≤ b0 && b0 ≤ 0xf4 then
      match tail with
      | [] => incomplete
      | b1 :: tail2 =>
        if !secondFits b0 b1 then invalid 1
        else match tail2 with
          | [] => incomplete
          | b2 :: tail3 =>
            if !isContinuation b2 then invalid 2
            else match tail3 with
              | [] => incomplete
              | b3 :: rest =>
                if isContinuation b3 then
                  consChar (Char.ofNat ((b0.toNat % 8) * 262144 + low6 b1 * 4096 + low6 b2 * 64
                    + low6 b3)) (decodeFrom rest (i + 4))
                else invalid 3
    else invalid 1

/-- The text that some bytes encode in UTF-8, or where they stop being UTF-8. -/
def decode (bs : List UInt8) : Except Fault String :=
  (decodeFrom bs 0).map String.ofList

/-- The UTF-8 bytes of a text. -/
def encode (s : String) : List UInt8 :=
  s.toUTF8.toList

end ByteLayout.Utf8
