import ByteLayout.Proofs.Cursor
import ByteLayout.Proofs.Composition

set_option autoImplicit false

/-!
# Sized regions and windows

A sized region parses its inner schema and then pads it to the total that the value it read
declares: the total must be an integer, must not be negative, must cover the bytes the inner
part used, and the padding must be there to skip. Building writes the inner part apart and then
zeros up to the same total. A window resolves its length first, sets aside that many bytes, and
parses its inner schema in them alone with a cursor of its own; building writes the inner part
and nothing else.

This module states both exactly: when a parse succeeds and where it leaves the cursor, which
error it reports otherwise, the checks being made in a fixed order, and what a build appends
to what was written before it.

## Main results

* `ByteLayout.Schema.scan_sized_eq_ok_iff` — a sized region parses exactly when its inner part
  does, its total is a non-negative integer covering the inner part, and the padding fits;
  the cursor then ends at the start plus the total.
* `ByteLayout.Schema.write_sized_eq_ok_iff` — a sized region builds exactly when its inner part
  does and its total is a non-negative integer covering the inner bytes.
* `ByteLayout.Schema.sized_region_exact` — the parse and the build of a sized region, with the
  order of their errors.
* `ByteLayout.Schema.window_exact` — the parse of a window is that of its inner schema on the
  window's bytes alone, and its build writes the inner bytes only.
-/

namespace ByteLayout

namespace Schema

open ParseM

/-! ### The declared total -/

section Declared

variable {total : Value → Option Int64} {v : Value}

lemma declaredTotal_of_none (h : total v = none) :
    declaredTotal total v = .error (.invalidLength .totalNotInteger) := by
  simp [declaredTotal, h]

lemma declaredTotal_of_neg {t : Int64} (h : total v = some t) (ht : t.toInt < 0) :
    declaredTotal total v = .error (.invalidLength (.totalNegative t.toInt)) := by
  simp [declaredTotal, h, ht]

lemma declaredTotal_of_nonneg {t : Int64} (h : total v = some t) (ht : 0 ≤ t.toInt) :
    declaredTotal total v = .ok t.toInt.toNat := by
  simp [declaredTotal, h, Int.not_lt.2 ht]

/-- A declared total is a non-negative integer that the value's total gives. -/
lemma declaredTotal_eq_ok_iff {n : Nat} :
    declaredTotal total v = .ok n ↔ ∃ t : Int64, total v = some t ∧ t.toInt = n := by
  unfold declaredTotal
  rcases total v with _ | t
  · simp
  · by_cases ht : t.toInt < 0
    · simp only [ht, if_true, reduceCtorEq, Option.some.injEq, exists_eq_left', false_iff]
      omega
    · simp only [ht, if_false, Except.ok.injEq, Option.some.injEq, exists_eq_left']
      omega

end Declared

/-! ### Parsing a sized region, case by case -/

section SizedParse

variable {inner : Schema} {total : Value → Option Int64} {data : Array UInt8} {scope : Scope}
  {off : Nat}

/-- An inner part that fails is the region's failure, with the cursor where it left it. -/
lemma scan_sized_of_inner_error {e : Error} {o : Nat}
    (h : scan inner data scope off = (.error e, o)) :
    scan (.sized inner total) data scope off = (.error e, o) := by
  rw [scan_sized, h]
  rfl

/-- A total that is not a non-negative integer is the region's failure. -/
lemma scan_sized_of_refused {v : Value} {o : Nat} {e : Error}
    (h : scan inner data scope off = (.ok v, o)) (hd : declaredTotal total v = .error e) :
    scan (.sized inner total) data scope off = (.error e, o) := by
  rw [scan_sized, h, ParseM.andThen_ok, hd]

/-- With a declared total `n` after an inner part of `c` bytes: the total must cover the inner
part, then the padding must fit; the cursor ends `n` bytes after the start. -/
lemma scan_sized_of_declared {v : Value} {c n : Nat}
    (h : scan inner data scope off = (.ok v, off + c)) (hd : declaredTotal total v = .ok n) :
    scan (.sized inner total) data scope off =
      if n < c then (.error (.oversized n c), off + c)
      else if data.size - (off + c) < n - c then
        (.error (.insufficientData (n - c) (data.size - (off + c))), off + c)
      else (.ok v, off + n) := by
  rw [scan_sized, h, ParseM.andThen_ok, hd]
  simp only [Nat.add_sub_cancel_left]
  by_cases hc : n < c
  · simp [hc]
  · by_cases hfit : data.size - (off + c) < n - c
    · -- padding is due, and it does not fit
      simp only [if_neg hc, if_pos (show n - c > 0 by omega), if_pos hfit, gt_iff_lt]
    · -- the padding, if any, fits; the region ends at its total
      simp only [if_neg hc, if_neg hfit, gt_iff_lt]
      split <;> exact Prod.ext rfl (by dsimp only; omega)

/-- **A sized region parses exactly when it fits.** From a cursor inside the window, a sized
region parses to `v` and ends at `o` exactly when its inner part parses to `v` after `c` bytes,
the value's total is an integer `t ≥ 0` covering those `c` bytes, and the `t - c` bytes of
padding remain after the inner part; the cursor then ends `t` bytes after the start. -/
theorem scan_sized_eq_ok_iff (h : off ≤ data.size) (v : Value) (o : Nat) :
    scan (.sized inner total) data scope off = (.ok v, o) ↔
      ∃ c, ∃ t : Int64, scan inner data scope off = (.ok v, off + c) ∧ total v = some t ∧
        0 ≤ t.toInt ∧ c ≤ t.toInt.toNat ∧ t.toInt.toNat - c ≤ data.size - (off + c) ∧
        o = off + t.toInt.toNat := by
  constructor
  · intro hs
    rcases hi : scan inner data scope off with ⟨_ | v₁, o₁⟩
    · rw [scan_sized_of_inner_error hi] at hs
      cases hs
    -- the inner part moved the cursor forward by what it used
    obtain ⟨c, rfl⟩ : ∃ c, o₁ = off + c :=
      ⟨o₁ - off, by have := (scan_advances inner data scope off h).1; simp only [hi] at this; omega⟩
    rcases hd : declaredTotal total v₁ with e | n
    · rw [scan_sized_of_refused hi hd] at hs
      cases hs
    obtain ⟨t, ht, htn⟩ := declaredTotal_eq_ok_iff.1 hd
    rw [scan_sized_of_declared hi hd] at hs
    split_ifs at hs with hover hshort
    · simp at hs
    · simp at hs
    · simp only [Prod.mk.injEq, Except.ok.injEq] at hs
      obtain ⟨rfl, rfl⟩ := hs
      exact ⟨c, t, rfl, ht, by omega, by omega, by omega, by omega⟩
  · rintro ⟨c, t, hinner, ht, hnonneg, hcover, hfit, rfl⟩
    rw [scan_sized_of_declared hinner (declaredTotal_of_nonneg ht hnonneg),
      if_neg (Nat.not_lt.2 hcover), if_neg (Nat.not_lt.2 hfit)]

end SizedParse

/-! ### Building a sized region, case by case -/

section SizedBuild

variable {inner : Schema} {total : Value → Option Int64} {v : Value} {scope : Scope}

lemma write_sized_of_inner_error {e : Error} {b : Bytes}
    (h : write inner v scope = (.error e, b)) :
    write (.sized inner total) v scope = (.error e, []) := by
  rw [write_sized, h]

lemma write_sized_of_refused {b : Bytes} {e : Error} (h : write inner v scope = (.ok (), b))
    (hd : declaredTotal total v = .error e) :
    write (.sized inner total) v scope = (.error e, []) := by
  rw [write_sized, h]
  simp only [hd]

/-- With a declared total `n`, the inner bytes must not exceed it, and are followed by zeros up
to it. -/
lemma write_sized_of_declared {b : Bytes} {n : Nat} (h : write inner v scope = (.ok (), b))
    (hd : declaredTotal total v = .ok n) :
    write (.sized inner total) v scope =
      if n < b.length then (.error (.oversized n b.length), [])
      else (.ok (), b ++ List.replicate (n - b.length) 0) := by
  rw [write_sized, h]
  simp only [hd, gt_iff_lt]

/-- **A sized region builds exactly when it fits.** A sized region builds `v` exactly when its
inner schema builds `v` to bytes `b` and the value's total is an integer `t ≥ 0` at least the
length of `b`; it then writes `b` and zeros up to `t` bytes. -/
theorem write_sized_eq_ok_iff (bs : Bytes) :
    write (.sized inner total) v scope = (.ok (), bs) ↔
      ∃ t : Int64, (write inner v scope).1 = .ok () ∧ total v = some t ∧ 0 ≤ t.toInt ∧
        (write inner v scope).2.length ≤ t.toInt.toNat ∧
        bs = (write inner v scope).2 ++
          List.replicate (t.toInt.toNat - (write inner v scope).2.length) 0 := by
  rcases hw : write inner v scope with ⟨_ | _, b⟩
  · simp [write_sized_of_inner_error hw]
  · simp only [true_and]
    rcases ht : total v with _ | t
    · simp [write_sized_of_refused hw (declaredTotal_of_none ht)]
    · by_cases hneg : t.toInt < 0
      · simp only [write_sized_of_refused hw (declaredTotal_of_neg ht hneg), reduceCtorEq,
          Prod.mk.injEq, false_and, false_iff, not_exists, not_and, Option.some.injEq,
          forall_eq']
        omega
      · rw [write_sized_of_declared hw (declaredTotal_of_nonneg ht (by omega))]
        by_cases hover : t.toInt.toNat < b.length
        · simp only [if_pos hover, reduceCtorEq, Prod.mk.injEq, false_and, false_iff,
            not_exists, not_and, Option.some.injEq, forall_eq']
          omega
        · simp only [if_neg hover, Prod.mk.injEq, Option.some.injEq, exists_eq_left', true_and]
          constructor
          · rintro rfl
            exact ⟨by omega, by omega, rfl⟩
          · rintro ⟨-, -, rfl⟩
            rfl

end SizedBuild

/-- **Sized regions are exact in both directions.** From any parse state whose cursor is inside
the window, whatever its trace, where the inner schema's parse from that state uses `c` bytes:

* the region parses to `v` and leaves the cursor at `o` exactly when its inner schema parses to
  `v`, the value's total is an integer `t ≥ 0` with `c ≤ t`, and the `t - c` bytes of padding
  remain after the inner part; then `o` is the start plus `t`;
* otherwise the error is the first that applies of: the inner part's error; an invalid length
  for a total that is absent or negative; an oversized inner part; missing padding.

From any build state, whatever it has written:

* the region builds `x` exactly when its inner schema builds `x` apart, in the same scope, to
  bytes `b`, and the value's total is an integer `t ≥ 0` with `b.length ≤ t`; it then appends
  `b` and `t - b.length` zeros, `t` bytes in all;
* a failed build appends nothing, and its error is the first that applies of: the inner
  part's error; an invalid length; an oversized inner part.

**Proof sketch.** A run from any state has the trace-free outcome of its starting cursor
(`exec_parseIn`, `buildIn_emits`), and each case is one case of the region's equations
(`scan_sized_of_declared`, `write_sized_of_declared` and their siblings). The inner parse never
moves the cursor back (`scan_advances`), so what it used is the distance it moved. -/
theorem sized_region_exact (inner : Schema) (total : Value → Option Int64) (data : Array UInt8)
    (scope : Scope) (st : ParseState) (h : st.offset ≤ data.size) (x : Value) (bst : BuildState) :
    let r := ParseM.exec ((Schema.sized inner total).parseIn data scope) st
    let ri := ParseM.exec (inner.parseIn data scope) st
    let c := ri.2.offset - st.offset
    let rb := BuildM.exec ((Schema.sized inner total).buildIn x scope) bst
    let b := (write inner x scope).2
    -- parsing
    st.offset ≤ ri.2.offset ∧
    (∀ v o, (r.1 = .ok v ∧ r.2.offset = o) ↔
      ∃ t : Int64, ri.1 = .ok v ∧ total v = some t ∧ 0 ≤ t.toInt ∧ c ≤ t.toInt.toNat ∧
        t.toInt.toNat - c ≤ data.size - ri.2.offset ∧ o = st.offset + t.toInt.toNat) ∧
    (∀ e, ri.1 = .error e → r.1 = .error e) ∧
    (∀ v, ri.1 = .ok v → total v = none → r.1 = .error (.invalidLength .totalNotInteger)) ∧
    (∀ v (t : Int64), ri.1 = .ok v → total v = some t → t.toInt < 0 →
      r.1 = .error (.invalidLength (.totalNegative t.toInt))) ∧
    (∀ v (t : Int64), ri.1 = .ok v → total v = some t → 0 ≤ t.toInt → t.toInt.toNat < c →
      r.1 = .error (.oversized t.toInt.toNat c)) ∧
    (∀ v (t : Int64), ri.1 = .ok v → total v = some t → 0 ≤ t.toInt → c ≤ t.toInt.toNat →
      data.size - ri.2.offset < t.toInt.toNat - c →
      r.1 = .error (.insufficientData (t.toInt.toNat - c) (data.size - ri.2.offset))) ∧
    -- building
    (rb.1 = .ok () ↔ ∃ t : Int64, (write inner x scope).1 = .ok () ∧ total x = some t ∧
      0 ≤ t.toInt ∧ b.length ≤ t.toInt.toNat) ∧
    (∀ t : Int64, rb.1 = .ok () → total x = some t →
      rb.2.output = bst.output ++ (b ++ List.replicate (t.toInt.toNat - b.length) 0).toArray ∧
      rb.2.output.size = bst.output.size + t.toInt.toNat) ∧
    (rb.1 ≠ .ok () → rb.2.output = bst.output) ∧
    (∀ e, (write inner x scope).1 = .error e → rb.1 = .error e) ∧
    ((write inner x scope).1 = .ok () → total x = none →
      rb.1 = .error (.invalidLength .totalNotInteger)) ∧
    (∀ t : Int64, (write inner x scope).1 = .ok () → total x = some t → t.toInt < 0 →
      rb.1 = .error (.invalidLength (.totalNegative t.toInt))) ∧
    (∀ t : Int64, (write inner x scope).1 = .ok () → total x = some t → 0 ≤ t.toInt →
      t.toInt.toNat < b.length → rb.1 = .error (.oversized t.toInt.toNat b.length)) := by
  intro r ri c rb b
  -- the parses from `st` are their trace-free outcomes from its cursor
  have hr : scan (.sized inner total) data scope st.offset = (r.1, r.2.offset) :=
    (exec_parseIn _ data scope st).symm
  have hmono : st.offset ≤ ri.2.offset := by
    simpa [← exec_parseIn inner data scope st] using (scan_advances inner data scope _ h).1
  have hri : scan inner data scope st.offset = (ri.1, st.offset + c) := by
    rw [← exec_parseIn inner data scope st, Nat.add_sub_cancel' hmono]
  -- the build from `bst` appends what the region writes from nothing
  have hrb : rb.1 = (write (.sized inner total) x scope).1 :=
    (buildIn_emits (.sized inner total) x scope bst).1
  have hout : rb.2.output = bst.output ++ (write (.sized inner total) x scope).2.toArray :=
    (buildIn_emits (.sized inner total) x scope bst).2
  have hw : write inner x scope = ((write inner x scope).1, b) := rfl
  refine ⟨hmono, fun v o => ?_, fun e he => ?_, fun v hv hn => ?_, fun v t hv ht hneg => ?_,
    fun v t hv ht hnonneg hover => ?_, fun v t hv ht hnonneg hcover hshort => ?_, ?_,
    fun t hok ht => ?_, fun hfail => ?_, fun e he => ?_, fun hok hn => ?_,
    fun t hok ht hneg => ?_, fun t hok ht hnonneg hover => ?_⟩
  · have hc : ri.2.offset = st.offset + c := (Nat.add_sub_cancel' hmono).symm
    rw [← Prod.mk.injEq, ← hr, scan_sized_eq_ok_iff h, hri]
    constructor
    · rintro ⟨c', t, hs, rest⟩
      obtain ⟨hv, hcc⟩ := Prod.mk.inj hs
      obtain rfl : c = c' := by omega
      exact ⟨t, hv, by rwa [hc]⟩
    · rintro ⟨t, hv, rest⟩
      exact ⟨c, t, by rw [hv], by rwa [hc] at rest⟩
  · rw [he] at hri
    exact congrArg Prod.fst (hr.symm.trans (scan_sized_of_inner_error hri))
  · rw [hv] at hri
    exact congrArg Prod.fst (hr.symm.trans (scan_sized_of_refused hri (declaredTotal_of_none hn)))
  · rw [hv] at hri
    exact congrArg Prod.fst
      (hr.symm.trans (scan_sized_of_refused hri (declaredTotal_of_neg ht hneg)))
  · rw [hv] at hri
    have hs := scan_sized_of_declared hri (declaredTotal_of_nonneg ht hnonneg)
    rw [if_pos hover] at hs
    exact congrArg Prod.fst (hr.symm.trans hs)
  · rw [hv] at hri
    have hs := scan_sized_of_declared hri (declaredTotal_of_nonneg ht hnonneg)
    rw [if_neg (Nat.not_lt.2 hcover), Nat.add_sub_cancel' hmono, if_pos hshort] at hs
    exact congrArg Prod.fst (hr.symm.trans hs)
  · rw [hrb]
    constructor
    · intro hok
      obtain ⟨t, hinner, ht, hnonneg, hle, -⟩ := (write_sized_eq_ok_iff _).1 (Prod.ext hok rfl)
      exact ⟨t, hinner, ht, hnonneg, hle⟩
    · rintro ⟨t, hinner, ht, hnonneg, hle⟩
      exact congrArg Prod.fst ((write_sized_eq_ok_iff _).2 ⟨t, hinner, ht, hnonneg, hle, rfl⟩)
  · rw [hrb] at hok
    obtain ⟨t', hinner, ht', -, hle, hbs⟩ := (write_sized_eq_ok_iff _).1 (Prod.ext hok rfl)
    rw [ht] at ht'
    cases ht'
    rw [hout, ← hbs]
    refine ⟨rfl, ?_⟩
    simp only [Array.size_append, List.size_toArray, hbs, List.length_append,
      List.length_replicate]
    omega
  · have hfailed : (write (.sized inner total) x scope).1.isOk = false := by
      rw [← hrb]
      revert hfail
      cases rb.1 <;> simp [Except.isOk, Except.toBool]
    rw [hout, write_sized_of_error hfailed]
    simp
  · rw [hrb, write_sized_of_inner_error (hw.trans (by rw [he]))]
  · rw [hrb, write_sized_of_refused (hw.trans (by rw [hok])) (declaredTotal_of_none hn)]
  · rw [hrb, write_sized_of_refused (hw.trans (by rw [hok])) (declaredTotal_of_neg ht hneg)]
  · rw [hrb, write_sized_of_declared (hw.trans (by rw [hok])) (declaredTotal_of_nonneg ht hnonneg),
      if_pos hover]

/-- A byte padded to a total of three: the region reads the byte and skips two bytes of
padding, and builds the byte followed by two zeros. -/
theorem sized_region_exact_byte :
    let inner : Schema := .number .uint8 .big
    let total : Value → Option Int64 := fun _ => some 3
    let data : Array UInt8 := #[7, 0xff, 0xff]
    let scope := Scope.root
    let st : ParseState := {}
    let x : Value := .unsigned 7
    let bst : BuildState := {}
    st.offset ≤ data.size ∧
    let r := ParseM.exec ((Schema.sized inner total).parseIn data scope) st
    let ri := ParseM.exec (inner.parseIn data scope) st
    let c := ri.2.offset - st.offset
    let rb := BuildM.exec ((Schema.sized inner total).buildIn x scope) bst
    let b := (write inner x scope).2
    -- parsing
    st.offset ≤ ri.2.offset ∧
    (∀ v o, (r.1 = .ok v ∧ r.2.offset = o) ↔
      ∃ t : Int64, ri.1 = .ok v ∧ total v = some t ∧ 0 ≤ t.toInt ∧ c ≤ t.toInt.toNat ∧
        t.toInt.toNat - c ≤ data.size - ri.2.offset ∧ o = st.offset + t.toInt.toNat) ∧
    (∀ e, ri.1 = .error e → r.1 = .error e) ∧
    (∀ v, ri.1 = .ok v → total v = none → r.1 = .error (.invalidLength .totalNotInteger)) ∧
    (∀ v (t : Int64), ri.1 = .ok v → total v = some t → t.toInt < 0 →
      r.1 = .error (.invalidLength (.totalNegative t.toInt))) ∧
    (∀ v (t : Int64), ri.1 = .ok v → total v = some t → 0 ≤ t.toInt → t.toInt.toNat < c →
      r.1 = .error (.oversized t.toInt.toNat c)) ∧
    (∀ v (t : Int64), ri.1 = .ok v → total v = some t → 0 ≤ t.toInt → c ≤ t.toInt.toNat →
      data.size - ri.2.offset < t.toInt.toNat - c →
      r.1 = .error (.insufficientData (t.toInt.toNat - c) (data.size - ri.2.offset))) ∧
    -- building
    (rb.1 = .ok () ↔ ∃ t : Int64, (write inner x scope).1 = .ok () ∧ total x = some t ∧
      0 ≤ t.toInt ∧ b.length ≤ t.toInt.toNat) ∧
    (∀ t : Int64, rb.1 = .ok () → total x = some t →
      rb.2.output = bst.output ++ (b ++ List.replicate (t.toInt.toNat - b.length) 0).toArray ∧
      rb.2.output.size = bst.output.size + t.toInt.toNat) ∧
    (rb.1 ≠ .ok () → rb.2.output = bst.output) ∧
    (∀ e, (write inner x scope).1 = .error e → rb.1 = .error e) ∧
    ((write inner x scope).1 = .ok () → total x = none →
      rb.1 = .error (.invalidLength .totalNotInteger)) ∧
    (∀ t : Int64, (write inner x scope).1 = .ok () → total x = some t → t.toInt < 0 →
      rb.1 = .error (.invalidLength (.totalNegative t.toInt))) ∧
    (∀ t : Int64, (write inner x scope).1 = .ok () → total x = some t → 0 ≤ t.toInt →
      t.toInt.toNat < b.length → rb.1 = .error (.oversized t.toInt.toNat b.length)) :=
  ⟨by decide, sized_region_exact _ _ _ _ _ (by decide) _ _⟩

end Schema

/-! ### Windows -/

namespace Length

variable {l : Length} {scope : Scope}

/-- A length that does not resolve is an invalid length. -/
lemma resolve_eq_error {e : Error} (h : l.resolve scope = .error e) :
    ∃ fault, e = .invalidLength fault := by
  unfold resolve at h
  split at h
  · split at h
    · cases h
    · cases h
      exact ⟨_, rfl⟩
  · split at h
    · split at h
      · cases h
      · cases h
        exact ⟨_, rfl⟩
    · cases h
      exact ⟨_, rfl⟩
  · split at h
    · cases h
    · cases h
      exact ⟨_, rfl⟩

/-- A length that must not be negative, once resolved. -/
lemma resolveStrict_of_resolve {i : Int} (h : l.resolve scope = .ok i) :
    l.resolveStrict scope = if i < 0 then .error (.invalidLength (.negative i)) else .ok i.toNat := by
  rw [resolveStrict, h]
  rfl

/-- A length that must not be negative is refused only as an invalid length. -/
lemma resolveStrict_eq_error {e : Error} (h : l.resolveStrict scope = .error e) :
    ∃ fault, e = .invalidLength fault := by
  rcases hr : l.resolve scope with e' | i
  · have h' : (Except.error e' : Except Error Nat) = .error e := by
      rw [← h, resolveStrict, hr]
      rfl
    cases h'
    exact resolve_eq_error hr
  · rw [resolveStrict_of_resolve hr] at h
    split at h
    · cases h
      exact ⟨_, rfl⟩
    · cases h

lemma resolveStrict_of_neg {i : Int} (h : l.resolve scope = .ok i) (hneg : i < 0) :
    l.resolveStrict scope = .error (.invalidLength (.negative i)) := by
  rw [resolveStrict_of_resolve h, if_pos hneg]

lemma resolveStrict_of_nonneg {i : Int} (h : l.resolve scope = .ok i) (hnonneg : 0 ≤ i) :
    l.resolveStrict scope = .ok i.toNat := by
  rw [resolveStrict_of_resolve h, if_neg (Int.not_lt.2 hnonneg)]

end Length

namespace Schema

open ParseM

section Window

variable {length : Length} {inner : Schema} {data : Array UInt8} {scope : Scope} {off : Nat}

lemma scan_prefixed_of_refused {e : Error} (h : length.resolveStrict scope = .error e) :
    scan (.prefixed length inner) data scope off = (.error e, off) := by
  rw [scan_prefixed, h]

lemma scan_prefixed_of_short {n : Nat} (h : length.resolveStrict scope = .ok n)
    (hshort : data.size - off < n) :
    scan (.prefixed length inner) data scope off =
      (.error (.insufficientData n (data.size - off)), off) := by
  rw [scan_prefixed, h]
  simp only [gt_iff_lt, if_pos hshort]

/-- A window that fits gives what its inner schema gives on the window's bytes alone, from the
window's start; the cursor then moves past the whole window, or stays if the inner part
failed. -/
lemma scan_prefixed_of_fits {n : Nat} (h : length.resolveStrict scope = .ok n)
    (hfits : n ≤ data.size - off) :
    scan (.prefixed length inner) data scope off =
      ((scan inner (data.extract off (off + n)) scope 0).1,
        if (scan inner (data.extract off (off + n)) scope 0).1.isOk then off + n else off) := by
  rw [scan_prefixed, h]
  simp only [gt_iff_lt, if_neg (Nat.not_lt.2 hfits)]
  rcases (scan inner (data.extract off (off + n)) scope 0).1 with e | v <;> rfl

end Window

/-- **A window shows its inner schema only its own bytes.** A window's length is resolved in
the enclosing scope: every refusal is an invalid length, and a negative length is refused.
From any parse state, whatever its trace:

* a refused length, or one longer than what remains after the cursor, is the parse's error,
  and the cursor stays;
* otherwise the parse gives exactly what the inner schema gives when parsed, in the same scope,
  from the start of the window's bytes alone — so nothing outside the window is read — and the
  cursor then moves past the whole window if it succeeded, whatever the inner part used, and
  stays where it was if it failed.

From any build state, the window's build returns what its inner schema's build returns apart,
in the same scope, and appends the bytes it wrote, or nothing if it failed: no length is
written, and none is checked.

**Proof sketch.** `scan_prefixed` gives the window's parse in the trace-free outcome of its
inner part on the extracted bytes; a run from any state has the outcome of its starting cursor
(`exec_parseIn`). The build is `write_prefixed`, appended by `buildIn_emits`. -/
theorem window_exact (length : Length) (inner : Schema) (data : Array UInt8) (scope : Scope)
    (st : ParseState) (x : Value) (bst : BuildState) :
    let r := ParseM.exec ((Schema.prefixed length inner).parseIn data scope) st
    let rest := data.size - st.offset
    let rb := BuildM.exec ((Schema.prefixed length inner).buildIn x scope) bst
    -- the length
    (∀ e, length.resolveStrict scope = .error e → ∃ fault, e = .invalidLength fault) ∧
    (∀ i : Int, length.resolve scope = .ok i → i < 0 →
      length.resolveStrict scope = .error (.invalidLength (.negative i))) ∧
    (∀ i : Int, length.resolve scope = .ok i → 0 ≤ i → length.resolveStrict scope = .ok i.toNat) ∧
    -- parsing
    (∀ e, length.resolveStrict scope = .error e → r.1 = .error e ∧ r.2.offset = st.offset) ∧
    (∀ n, length.resolveStrict scope = .ok n → rest < n →
      r.1 = .error (.insufficientData n rest) ∧ r.2.offset = st.offset) ∧
    (∀ n, length.resolveStrict scope = .ok n → n ≤ rest →
      let ri := ParseM.exec (inner.parseIn (data.extract st.offset (st.offset + n)) scope)
        { st with offset := 0 }
      r.1 = ri.1 ∧ r.2.offset = if ri.1.isOk then st.offset + n else st.offset) ∧
    -- building
    rb.1 = (write inner x scope).1 ∧
    rb.2.output = bst.output ++
      (if (write inner x scope).1.isOk then (write inner x scope).2 else []).toArray := by
  intro r rest rb
  have hr : scan (.prefixed length inner) data scope st.offset = (r.1, r.2.offset) :=
    (exec_parseIn _ data scope st).symm
  have hrb : rb.1 = (write (.prefixed length inner) x scope).1 :=
    (buildIn_emits (.prefixed length inner) x scope bst).1
  have hout : rb.2.output = bst.output ++ (write (.prefixed length inner) x scope).2.toArray :=
    (buildIn_emits (.prefixed length inner) x scope bst).2
  refine ⟨fun e he => Length.resolveStrict_eq_error he, fun i hi hneg =>
    Length.resolveStrict_of_neg hi hneg, fun i hi hnonneg => Length.resolveStrict_of_nonneg hi hnonneg,
    fun e he => ?_, fun n hn hshort => ?_, fun n hn hfits => ?_, ?_, ?_⟩
  · exact Prod.mk.inj (hr.symm.trans (scan_prefixed_of_refused he))
  · exact Prod.mk.inj (hr.symm.trans (scan_prefixed_of_short hn hshort))
  · intro ri
    -- the inner run from the window's start is the inner part's outcome there
    have hri : (ri.1, ri.2.offset) = scan inner (data.extract st.offset (st.offset + n)) scope 0 :=
      exec_parseIn inner _ scope { st with offset := 0 }
    have hs := hr.symm.trans (scan_prefixed_of_fits hn hfits)
    rw [← hri] at hs
    exact Prod.mk.inj hs
  · rw [hrb, write_prefixed]
    rcases write inner x scope with ⟨_ | _, b⟩ <;> rfl
  · rw [hout, write_prefixed]
    rcases write inner x scope with ⟨_ | _, b⟩ <;> rfl

end Schema

end ByteLayout
