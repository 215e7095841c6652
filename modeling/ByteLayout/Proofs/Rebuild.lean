import ByteLayout.Proofs.Padding
import ByteLayout.Proofs.Cursor
import ByteLayout.Proofs.Lookup
import ByteLayout.Proofs.Write
import ByteLayout.Proofs.NumberCodec
import ByteLayout.Proofs.TextCodec

set_option autoImplicit false

/-!
# Parsing, then building, writes the bytes back

Parse some bytes with a schema, then build the value the parse gave: the build succeeds and
writes back what the parse consumed. Where the schema has no window, it writes exactly those
bytes, except that the padding that sized regions skip comes out as zeros. A window writes what
its inner schema writes, which may end before the window does, so a schema with windows writes
at most as many bytes as the parse consumed.

The schemas are those whose expressions a parse and a build resolve alike, `Rebuildable`:
integer numbers; text in an encoding that reads back; lengths and switch keys that are fixed or
read `_index` inside an array item, or a field of an enclosing struct declared earlier; field
names that are not empty, are distinct within their struct, and are never `_index` nor a field
name of an enclosing struct. Unlike the round trip from values, nothing needs to end its
window: a parse that reads to the end of a window gives what a build writes back.

The proof follows the schema, as for the round trip from values. Its statement for one node,
`Rebuilds`, holds in any pair of scopes that answer the names the node may read alike. What the
build writes is described by `Rewrites`: no more bytes than the parse consumed, padding inside
them, and for a node without windows exactly the bytes consumed with their padding zeroed.

## Main definitions

* `ByteLayout.Schema.Rebuildable` — a schema whose parses build back.
* `ByteLayout.Rewrites` — what a build writes, against what a parse consumed.
* `ByteLayout.Schema.Rebuilds` — parse-then-build for one node, in any context.

## Main results

* `ByteLayout.Schema.scan_fields?_get?_eq_none` — a record that a parse gives never answers the
  field names of enclosing structs nor `_index`.
* `ByteLayout.Schema.rebuilds` — every node builds back what it parsed.
-/

namespace ByteLayout

namespace Schema

mutual

/-- A schema whose parses build back, inside structs whose field names are `outer`, where
expressions may read the names `vis`. -/
def Rebuildable (outer vis : List String) : Schema → Prop
  | .number kind _ => kind.isFloat = false
  | .bytes length => length.ReadsFrom vis
  | .literal _ => True
  | .text encoding length => encoding.ReadsBack ∧ ∀ l ∈ length, l.ReadsFrom vis
  | .struct fields =>
    (fields.map Prod.fst).Nodup ∧
      (∀ n ∈ fields.map Prod.fst, n ≠ "" ∧ n ≠ Scope.indexName ∧ n ∉ outer) ∧
      FieldsRebuildable (outer ++ fields.map Prod.fst) vis fields
  | .array item count => count.ReadsFrom vis ∧ Rebuildable outer (Scope.indexName :: vis) item
  | .greedy item => Rebuildable outer vis item
  | .switch on cases default =>
    on.ReadsFrom vis ∧ CasesRebuildable outer vis cases ∧ DefaultRebuildable outer vis default
  | .sized inner _ => Rebuildable outer vis inner
  | .prefixed length inner => length.ReadsFrom vis ∧ Rebuildable outer vis inner

/-- The fields of a struct, each of which may read the fields before it. -/
def FieldsRebuildable (outer vis : List String) : List (String × Schema) → Prop
  | [] => True
  | f :: rest => FieldRebuildable outer vis f ∧ FieldsRebuildable outer (vis ++ [f.1]) rest

/-- A field, or a case of a switch. -/
def FieldRebuildable (outer vis : List String) : String × Schema → Prop
  | (_, s) => Rebuildable outer vis s

/-- The cases of a switch. -/
def CasesRebuildable (outer vis : List String) : List (String × Schema) → Prop
  | [] => True
  | c :: rest => FieldRebuildable outer vis c ∧ CasesRebuildable outer vis rest

/-- The default of a switch. -/
def DefaultRebuildable (outer vis : List String) : Option Schema → Prop
  | none => True
  | some d => Rebuildable outer vis d

end

lemma fieldRebuildable_iff {outer vis : List String} (f : String × Schema) :
    FieldRebuildable outer vis f ↔ f.2.Rebuildable outer vis := by
  cases f
  rfl

lemma CasesRebuildable.of_mem {outer vis : List String} {cases : List (String × Schema)}
    (h : CasesRebuildable outer vis cases) {c : String × Schema} (hc : c ∈ cases) :
    c.2.Rebuildable outer vis := by
  induction cases with
  | nil => cases hc
  | cons c' rest ih =>
    obtain ⟨hhead, hrest⟩ := h
    rcases List.mem_cons.1 hc with rfl | hmem
    · exact (fieldRebuildable_iff _).1 hhead
    · exact ih hrest hmem

open ParseM

/-! ### The records a parse gives -/

/-- The fields of a struct, parsed after the record `acc`, give a record that answers every
name but theirs as `acc` does. -/
lemma scanFields_record {fields : List (String × Schema)} {data : Array UInt8} {scope : Scope}
    {acc : Record} {off : Nat} {w : Value} {o : Nat}
    (h : scanFields fields data scope acc off = (.ok w, o)) :
    ∃ r, w = .record r ∧ ∀ x ∉ fields.map Prod.fst, Record.get? r x = acc.get? x := by
  induction fields generalizing acc off with
  | nil =>
    rw [scanFields_nil] at h
    cases h
    exact ⟨acc, rfl, fun _ _ => rfl⟩
  | cons f rest ih =>
    obtain ⟨name, s⟩ := f
    rw [scanFields_cons] at h
    obtain ⟨v, o₁, -, hrest⟩ := andThen_eq_ok.1 h
    obtain ⟨r, rfl, hr⟩ := ih hrest
    refine ⟨r, rfl, fun x hx => ?_⟩
    simp only [List.map_cons, List.mem_cons, not_or] at hx
    rw [hr x hx.2, Record.get?_insert, if_neg hx.1]

/-- A switch parses with the first case its key selects, or with its default. -/
lemma scanCase_eq_ok {cases : List (String × Schema)} {default : Option Schema}
    {key : Option String} {data : Array UInt8} {scope : Scope} {off : Nat} {v : Value} {o : Nat}
    (h : scanCase cases default key data scope off = (.ok v, o)) :
    (∃ c ∈ cases, scan c.2 data scope off = (.ok v, o)) ∨
      (∃ d ∈ default, scan d data scope off = (.ok v, o)) := by
  induction cases with
  | nil =>
    rw [scanCase_nil] at h
    rcases default with _ | d
    · cases h
    · exact Or.inr ⟨d, rfl, h⟩
  | cons c rest ih =>
    obtain ⟨k, s⟩ := c
    rw [scanCase_cons] at h
    split at h
    · exact Or.inl ⟨(k, s), List.mem_cons_self, h⟩
    · rcases ih h with ⟨c, hc, hscan⟩ | hd
      · exact Or.inl ⟨c, List.mem_cons_of_mem _ hc, hscan⟩
      · exact Or.inr hd

/-- A sized region that parses gives its inner schema's value, then skips up to the total it
declares, which covers the inner part and fits in the window. -/
lemma scan_sized_eq_ok {inner : Schema} {total : Value → Option Int64} {data : Array UInt8}
    {scope : Scope} {off : Nat} {v : Value} {o : Nat}
    (h : scan (.sized inner total) data scope off = (.ok v, o)) :
    ∃ o₁ t, scan inner data scope off = (.ok v, o₁) ∧ declaredTotal total v = .ok t ∧
      o₁ - off ≤ t ∧ t - (o₁ - off) ≤ data.size - o₁ ∧ o = o₁ + (t - (o₁ - off)) := by
  rw [scan_sized] at h
  obtain ⟨v₁, o₁, hinner, h⟩ := andThen_eq_ok.1 h
  split at h
  · cases h
  · rename_i t ht
    split at h
    · cases h
    · rename_i hcover
      -- with padding to skip, it has to fit; without, the region ends with its inner part
      split at h
      · split at h
        · cases h
        · cases h
          exact ⟨o₁, t, hinner, ht, by omega, by omega, rfl⟩
      · cases h
        exact ⟨_, t, hinner, ht, by omega, by omega, by omega⟩

/-- A window that parses has a resolved length that fits, and gives the value its inner schema
parses from the window's start. -/
lemma scan_prefixed_eq_ok {length : Length} {inner : Schema} {data : Array UInt8}
    {scope : Scope} {off : Nat} {v : Value} {o : Nat}
    (h : scan (.prefixed length inner) data scope off = (.ok v, o)) :
    ∃ n o₁, length.resolveStrict scope = .ok n ∧ n ≤ data.size - off ∧
      scan inner (data.extract off (off + n)) scope 0 = (.ok v, o₁) ∧ o = off + n := by
  rw [scan_prefixed] at h
  split at h
  · cases h
  · rename_i n hn
    split at h
    · cases h
    · rename_i hfit
      split at h
      · rename_i hinner
        cases h
        exact ⟨n, _, hn, by omega, Prod.ext hinner rfl, rfl⟩
      · cases h

/-- **A parse shows nothing it should not.** A record that a parse gives is that of a struct
inside the schema, so it answers neither a field name of the structs around the schema nor
`_index`.

**Proof sketch.** Induction over the schema: a struct's record has its own field names only;
sized regions, windows and switches give the value of a schema inside them; other values are
not records. -/
theorem scan_fields?_get?_eq_none (s : Schema) {outer vis : List String}
    (hs : s.Rebuildable outer vis) {data : Array UInt8} {scope : Scope} {off : Nat} {v : Value}
    {o : Nat} (h : scan s data scope off = (.ok v, o)) {r : Record} (hr : v.fields? = some r)
    {x : String} (hx : x ∈ outer ∨ x = Scope.indexName) : r.get? x = none := by
  induction s using Schema.induction generalizing outer vis data scope off v o with
  | number kind order =>
    rw [scan_number] at h
    split at h
    · cases h
    · cases h
      rw [NumberKind.decode_of_integer hs] at hr
      split at hr <;> cases hr
  | bytes length =>
    rw [scan_bytes] at h
    split at h
    · cases h
    · split at h <;> cases h
      cases hr
  | literal expected =>
    rw [scan_literal] at h
    split at h
    · cases h
    · split at h <;> cases h
      cases hr
  | text encoding length =>
    rw [scan_text] at h
    split at h
    · cases h
    · split at h
      · cases h
      · split at h <;> cases h
        cases hr
  | struct fields ih =>
    rw [scan_struct] at h
    obtain ⟨r', rfl, hr'⟩ := scanFields_record h
    cases hr
    obtain ⟨-, hnames, -⟩ := hs
    rw [hr' x]
    · rfl
    · intro hmem
      obtain ⟨-, hidx, hout⟩ := hnames x hmem
      rcases hx with hx | hx
      · exact hout hx
      · exact hidx hx
  | array item count ih =>
    rw [scan_array] at h
    split at h
    · cases h
    · obtain ⟨_, _, -, h⟩ := andThen_eq_ok.1 h
      cases h
      cases hr
  | greedy item ih =>
    rw [scan_greedy] at h
    cases h
    cases hr
  | switch on cases default hc hd =>
    obtain ⟨-, hcases, hdefault⟩ := hs
    rw [scan_switch] at h
    rcases scanCase_eq_ok h with ⟨c, hmem, hscan⟩ | ⟨d, hmem, hscan⟩
    · exact hc c hmem (hcases.of_mem hmem) hscan hr hx
    · cases hmem
      exact hd d rfl hdefault hscan hr hx
  | sized inner total ih =>
    obtain ⟨_, _, hinner, -⟩ := scan_sized_eq_ok h
    exact ih hs hinner hr hx
  | prefixed length inner ih =>
    obtain ⟨_, _, -, -, hinner, -⟩ := scan_prefixed_eq_ok h
    exact ih hs.2 hinner hr hx

end Schema

/-! ### What a build writes back -/

/-- What a build wrote, `b`, against a parse that consumed the window `data` from `off` to `o`
and skipped the positions `pad`: no more bytes than the parse consumed, padding among the
consumed positions, and, when `exact`, the consumed bytes themselves with their padding
zeroed. -/
structure Rewrites (data : Array UInt8) (off o : Nat) (pad : List Nat) (exact : Bool)
    (b : Bytes) : Prop where
  le : off ≤ o
  le_size : o ≤ data.size
  length_le : b.length ≤ o - off
  pad_mem : ∀ x ∈ pad, off ≤ x ∧ x < o
  eq_zeroAt : exact = true → b = zeroAt pad off (data.extract off o).toList

namespace Rewrites

variable {data : Array UInt8} {off o₁ o : Nat} {pad pad₁ pad₂ : List Nat} {e e₁ e₂ : Bool}
  {b b₁ b₂ : Bytes}

lemma toList_extract_split (h₁ : off ≤ o₁) (h₂ : o₁ ≤ o) :
    (data.extract off o).toList = (data.extract off o₁).toList ++ (data.extract o₁ o).toList := by
  rw [← Array.toList_append, Array.extract_append_extract, Nat.min_eq_left h₁, Nat.max_eq_right h₂]

lemma length_extract (h : o ≤ data.size) : (data.extract off o).toList.length = o - off := by
  simp only [Array.length_toList, Array.size_extract, Nat.min_eq_left h]

/-- Bytes written back as the parse consumed them. -/
lemma ofExtract (hle : off ≤ o) (hsize : o ≤ data.size) (hb : b = (data.extract off o).toList) :
    Rewrites data off o [] e b where
  le := hle
  le_size := hsize
  length_le := by rw [hb, length_extract hsize]
  pad_mem := fun _ h => absurd h List.not_mem_nil
  eq_zeroAt := fun _ => by rw [zeroAt.nil_pad, hb]

/-- Nothing written for nothing consumed. -/
lemma nil (hsize : off ≤ data.size) : Rewrites data off off [] e [] :=
  ofExtract (Nat.le_refl off) hsize (by simp)

/-- Zeros written where the parse skipped padding. -/
lemma zeros (hle : o₁ ≤ o) (hsize : o ≤ data.size) :
    Rewrites data o₁ o (List.range' o₁ (o - o₁)) e (List.replicate (o - o₁) 0) where
  le := hle
  le_size := hsize
  length_le := by simp
  pad_mem := fun x hx => by
    rw [List.mem_range'_1] at hx
    omega
  eq_zeroAt := fun _ => by
    rw [zeroAt.all_pad, length_extract hsize]
    intro i hi
    rw [length_extract hsize] at hi
    rw [List.mem_range'_1]
    omega

/-- A write is exact under a stronger flag. -/
lemma mono {e' : Bool} (h : Rewrites data off o pad e b) (he : e' = true → e = true) :
    Rewrites data off o pad e' b where
  le := h.le
  le_size := h.le_size
  length_le := h.length_le
  pad_mem := h.pad_mem
  eq_zeroAt := fun h' => h.eq_zeroAt (he h')

/-- An exact write has the length of what the parse consumed. -/
lemma length_eq (h : Rewrites data off o pad true b) : b.length = o - off := by
  rw [h.eq_zeroAt rfl, zeroAt.length, length_extract h.le_size]

/-- Consecutive parts of a parse write back one after the other. -/
lemma append (h₁ : Rewrites data off o₁ pad₁ e₁ b₁) (h₂ : Rewrites data o₁ o pad₂ e₂ b₂) :
    Rewrites data off o (pad₁ ++ pad₂) (e₁ && e₂) (b₁ ++ b₂) where
  le := Nat.le_trans h₁.le h₂.le
  le_size := h₂.le_size
  length_le := by
    have := h₁.length_le
    have := h₂.length_le
    have := h₁.le
    have := h₂.le
    rw [List.length_append]
    omega
  pad_mem := fun x hx => by
    rcases List.mem_append.1 hx with hx | hx
    · have := h₁.pad_mem x hx
      have := h₂.le
      omega
    · have := h₂.pad_mem x hx
      have := h₁.le
      omega
  eq_zeroAt := fun he => by
    rw [Bool.and_eq_true] at he
    have hsize₁ : o₁ ≤ data.size := Nat.le_trans h₂.le h₂.le_size
    rw [h₁.eq_zeroAt he.1, h₂.eq_zeroAt he.2, toList_extract_split h₁.le h₂.le, zeroAt.append,
      length_extract hsize₁, Nat.add_sub_cancel' h₁.le]
    -- each part's padding lies inside it, so the other part's does not reach it
    congr 1
    · refine zeroAt.congr _ fun i hi => ?_
      rw [length_extract hsize₁] at hi
      refine ⟨fun hx => List.mem_append_left _ hx, fun hx => ?_⟩
      rcases List.mem_append.1 hx with hx | hx
      · exact hx
      · have := h₂.pad_mem _ hx
        omega
    · refine zeroAt.congr _ fun i _ => ⟨fun hx => List.mem_append_right _ hx, fun hx => ?_⟩
      rcases List.mem_append.1 hx with hx | hx
      · have := h₁.pad_mem _ hx
        omega
      · exact hx

/-- A region padded to a declared total `t`, not below what its inner part consumed: zeros
after the inner part's bytes, up to the total. -/
lemma padTo {t : Nat} (h : Rewrites data off o₁ pad e b) (ht : o₁ - off ≤ t)
    (hsize : o₁ + (t - (o₁ - off)) ≤ data.size) :
    Rewrites data off (o₁ + (t - (o₁ - off))) (pad ++ List.range' o₁ (t - (o₁ - off))) e
      (b ++ List.replicate (t - b.length) 0) := by
  cases e with
  | true =>
    -- an exact inner part is as long as it consumed, so the zeros fill the padding exactly
    have hlen := h.length_eq
    have hzeros := zeros (e := true) (Nat.le_add_right o₁ (t - (o₁ - off))) hsize
    rw [Nat.add_sub_cancel_left] at hzeros
    rw [hlen]
    exact (h.append hzeros).mono fun _ => rfl
  | false =>
    have hlen := h.length_le
    have hle := h.le
    exact {
      le := by omega
      le_size := hsize
      length_le := by simp; omega
      pad_mem := fun x hx => by
        rcases List.mem_append.1 hx with hx | hx
        · have := h.pad_mem x hx
          omega
        · rw [List.mem_range'_1] at hx
          omega
      eq_zeroAt := fun h => absurd h Bool.false_ne_true }

end Rewrites

namespace Schema

open ParseM

/-- Parse-then-build for one node: in scopes that answer the names the node may read alike,
the value it parses from `off` builds, and the build `Rewrites` what the parse consumed,
exactly when the node has no window. -/
def Rebuilds (s : Schema) : Prop :=
  ∀ ⦃outer vis : List String⦄, s.Rebuildable outer vis →
    (∀ x ∈ vis, x ∈ outer ∨ x = Scope.indexName) →
    ∀ ⦃P B : Scope⦄, P.Agree vis B →
    ∀ ⦃data : Array UInt8⦄ ⦃off : Nat⦄ ⦃v : Value⦄ ⦃o : Nat⦄, off ≤ data.size →
      scan s data P off = (.ok v, o) →
      ∃ b, write s v B = (.ok (), b) ∧
        Rewrites data off o (padding s data P off) (!s.hasNode isPrefixed) b

/-! ### Leaves -/

theorem rebuilds_number (kind : NumberKind) (order : ByteOrder) :
    Rebuilds (.number kind order) := by
  intro outer vis hs hvis P B hagree data off v o hoff h
  rw [scan_number] at h
  split at h
  · cases h
  · rename_i hfit
    cases h
    have hlen : (data.extract off (off + kind.width)).toList.length = kind.width := by
      rw [Rewrites.length_extract (by omega)]
      omega
    refine ⟨_, ?_, Rewrites.ofExtract (by omega) (by omega) rfl⟩
    rw [write_number, NumberKind.encode_decode hs order hlen]

theorem rebuilds_bytes (length : Length) : Rebuilds (.bytes length) := by
  intro outer vis hs hvis P B hagree data off v o hoff h
  rw [scan_bytes] at h
  split at h
  · cases h
  · rename_i n hn
    split at h
    · cases h
    · rename_i hfit
      cases h
      have hlen : (data.extract off (off + n)).toList.length = n := by
        rw [Rewrites.length_extract (by omega)]
        omega
      refine ⟨_, ?_, Rewrites.ofExtract (by omega) (by omega) rfl⟩
      rw [write_bytes, ← hagree.resolveClamped_eq hs, hn]
      simp only [Value.asBytes?, hlen, ne_eq, not_true_eq_false, if_false]

theorem rebuilds_literal (expected : Bytes) : Rebuilds (.literal expected) := by
  intro outer vis hs hvis P B hagree data off v o hoff h
  rw [scan_literal] at h
  split at h
  · cases h
  · rename_i hfit
    split at h
    · cases h
    · rename_i hsame
      cases h
      refine ⟨_, ?_, Rewrites.ofExtract (by omega) (by omega) (not_not.1 hsame).symm⟩
      rw [write_literal]
      simp only [Value.asBytes?, ne_eq, not_true_eq_false, if_false]

theorem rebuilds_text (encoding : Encoding) (length : Option Length) :
    Rebuilds (.text encoding length) := by
  intro outer vis hs hvis P B hagree data off v o hoff h
  obtain ⟨hreads, hlength⟩ := hs
  rw [scan_text] at h
  split at h
  · cases h
  · rename_i n hn
    split at h
    · cases h
    · rename_i hfit
      split at h
      · cases h
      · rename_i str hstr
        cases h
        have hlen : (data.extract off (off + n)).toList.length = n := by
          rw [Rewrites.length_extract (by omega)]
          omega
        refine ⟨_, ?_, Rewrites.ofExtract (by omega) (by omega) rfl⟩
        rw [write_text]
        simp only [Value.text?, hreads _ _ hstr]
        -- a text with a length resolves it as the parse did, to the length of its bytes
        rcases length with _ | l
        · rfl
        · have hl : l.resolveClamped B = .ok n := by
            rw [← hagree.resolveClamped_eq (hlength l rfl)]
            exact hn
          simp only [hl, hlen, ne_eq, not_true_eq_false, if_false]

/-! ### Sized regions and windows -/

theorem rebuilds_sized (inner : Schema) (total : Value → Option Int64) (ih : Rebuilds inner) :
    Rebuilds (.sized inner total) := by
  intro outer vis hs hvis P B hagree data off v o hoff h
  -- the parse skips from where the inner schema stopped up to the declared total
  obtain ⟨o₁, t, hinner, ht, hcover, hfit, rfl⟩ := scan_sized_eq_ok h
  obtain ⟨b₁, hb₁, hw₁⟩ := ih hs hvis hagree hoff hinner
  have hlen := hw₁.length_le
  have hsize : o₁ + (t - (o₁ - off)) ≤ data.size := by
    have := hw₁.le_size
    omega
  refine ⟨b₁ ++ List.replicate (t - b₁.length) 0, ?_, ?_⟩
  · rw [write_sized, hb₁]
    simp only [ht, if_neg (show ¬ b₁.length > t by omega)]
  · simp only [padding, hinner, ht]
    exact hw₁.padTo hcover hsize

theorem rebuilds_prefixed (length : Length) (inner : Schema) (ih : Rebuilds inner) :
    Rebuilds (.prefixed length inner) := by
  intro outer vis hs hvis P B hagree data off v o hoff h
  obtain ⟨n, o₁, hn, hfit, hinner, rfl⟩ := scan_prefixed_eq_ok h
  -- the inner schema parses its window from the window's start
  have hwindow : (data.extract off (off + n)).size = n := by
    simp only [Array.size_extract]
    omega
  obtain ⟨b₁, hb₁, hw₁⟩ := ih hs.2 hvis hagree (Nat.zero_le _) hinner
  have hlen := hw₁.length_le
  have hend := hw₁.le_size
  refine ⟨b₁, by rw [write_prefixed, hb₁], ?_⟩
  exact {
    le := by omega
    le_size := by omega
    length_le := by omega
    pad_mem := fun x hx => by
      simp only [padding, hn, List.mem_map] at hx
      obtain ⟨y, hy, rfl⟩ := hx
      have := hw₁.pad_mem y hy
      omega
    eq_zeroAt := fun he => absurd he (by simp [hasNode, isPrefixed]) }

/-! ### Structs -/

/-- The fields of a struct after those named `done` build back into the record `r` that the
parse gave, when the parse scope, with the record `acc` of the fields before, answers the names
the fields may read as the build scope does. -/
lemma writeFields_of_scanned {outer vis : List String} {P B : Scope} {r : Record}
    {data : Array UInt8} (hvis : ∀ x ∈ vis, x ∈ outer ∨ x = Scope.indexName)
    (rest : List (String × Schema)) (done : List String) (acc : Record) (off o : Nat)
    (ih : ∀ f ∈ rest, Rebuilds f.2) (hs : FieldsRebuildable outer (vis ++ done) rest)
    (hnames : ∀ n ∈ done ++ rest.map Prod.fst, n ∈ outer)
    (hnodup : (done ++ rest.map Prod.fst).Nodup) (hfresh : ∀ n ∈ rest.map Prod.fst, n ∉ vis)
    (hagree : (P.push acc).Agree (vis ++ done) (B.push r)) (hoff : off ≤ data.size)
    (h : scanFields rest data P acc off = (.ok (.record r), o)) :
    ∃ b, writeFields rest r (B.push r) = (.ok (), b) ∧
      Rewrites data off o (fieldsPadding rest data P acc off) (!fieldsHaveNode isPrefixed rest) b := by
  induction rest generalizing done acc off with
  | nil =>
    rw [scanFields_nil] at h
    cases h
    exact ⟨[], writeFields_nil _ r, Rewrites.nil hoff⟩
  | cons f rest ihrest =>
    obtain ⟨name, s⟩ := f
    obtain ⟨hsf, hsrest⟩ := hs
    rw [scanFields_cons] at h
    obtain ⟨v₁, o₁, hfield, hrest⟩ := andThen_eq_ok.1 h
    have hvis' : ∀ x ∈ vis ++ done, x ∈ outer ∨ x = Scope.indexName := by
      intro x hx
      rcases List.mem_append.1 hx with hx | hx
      · exact hvis x hx
      · exact Or.inl (hnames x (List.mem_append_left _ hx))
    obtain ⟨b₁, hb₁, hw₁⟩ :=
      ih (name, s) List.mem_cons_self ((fieldRebuildable_iff _).1 hsf) hvis' hagree hoff hfield
    -- the record answers the field's name with what the parse gave it, no later field having
    -- the same name
    have hnodup' : (done ++ [name] ++ rest.map Prod.fst).Nodup := by simpa using hnodup
    have hname : Record.get? r name = some v₁ := by
      obtain ⟨r', hr', hget⟩ := scanFields_record hrest
      cases hr'
      rw [hget name, Record.get?_insert, if_pos rfl]
      intro hmem
      exact (List.nodup_append.1 hnodup').2.2 name (by simp) name hmem rfl
    have hname_vis : name ∉ vis := hfresh name (by simp)
    have hname_done : name ∉ done := fun hd =>
      (List.nodup_append.1 hnodup).2.2 name hd name (by simp) rfl
    have hagree' : (P.push (Record.insert name v₁ acc)).Agree (vis ++ (done ++ [name]))
        (B.push r) := by
      rw [← List.append_assoc]
      exact hagree.push_insert (by simp [hname_vis, hname_done]) hname
    obtain ⟨b₂, hb₂, hw₂⟩ := ihrest (done ++ [name]) (Record.insert name v₁ acc) o₁
      (fun f hf => ih f (List.mem_cons_of_mem _ hf)) (by simpa [List.append_assoc] using hsrest)
      (fun n hn => hnames n (by simpa using hn)) (by simpa using hnodup')
      (fun n hn => hfresh n (by simp [hn])) hagree' hw₁.le_size hrest
    refine ⟨b₁ ++ b₂, ?_, ?_⟩
    · rw [writeFields_cons, hname]
      dsimp only
      rw [hb₁, BuildM.andThen_ok, hb₂]
    · simp only [fieldsPadding, fieldsHaveNode, fieldHasNode, hfield, Bool.not_or]
      exact hw₁.append hw₂

theorem rebuilds_struct (fields : List (String × Schema)) (ih : ∀ f ∈ fields, Rebuilds f.2) :
    Rebuilds (.struct fields) := by
  intro outer vis hs hvis P B hagree data off v o hoff h
  obtain ⟨hnodup, hnames, hfields⟩ := hs
  rw [scan_struct] at h
  obtain ⟨r, rfl, hr⟩ := scanFields_record h
  -- the record has the struct's fields only, and no expression reads one of those names
  have hfresh : ∀ n ∈ fields.map Prod.fst, n ∉ vis := by
    intro n hn hvn
    obtain ⟨-, hidx, hout⟩ := hnames n hn
    rcases hvis n hvn with h | h
    · exact hout h
    · exact hidx h
  have hagree' : (P.push []).Agree (vis ++ []) (B.push r) := by
    intro x hx
    rw [List.append_nil] at hx
    rw [Scope.get?_push, Scope.get?_push, hr x fun hmem => hfresh x hmem hx]
    exact hagree x hx
  obtain ⟨b, hb, hw⟩ := @writeFields_of_scanned (outer ++ fields.map Prod.fst) vis P B r data
    (fun x hx => (hvis x hx).imp (List.mem_append_left _) id) fields [] [] off o ih
    (by simpa using hfields) (fun n hn => List.mem_append_right _ (by simpa using hn))
    (by simpa using hnodup) hfresh hagree' hoff h
  exact ⟨b, by rw [write_struct]; exact hb, hw⟩

/-! ### Repetitions -/

/-- The items of a counted sequence, `k` of them from the item `i` on, build back one after the
other, each in its item's scope. -/
lemma itemsEmitted_of_scanned {item : Schema} (ih : Rebuilds item) {outer vis : List String}
    (hs : item.Rebuildable outer (Scope.indexName :: vis))
    (hvis : ∀ x ∈ vis, x ∈ outer ∨ x = Scope.indexName) {P B : Scope} (hagree : P.Agree vis B)
    {data : Array UInt8} (k i off : Nat) (vs : List Value) (o : Nat) (hoff : off ≤ data.size)
    (h : itemsOutcome (fun i => scan item data (P.push (Scope.indexLayer i))) i k off =
      (.ok vs, o)) :
    vs.length = k ∧ ∃ b, BuildM.itemsEmitted
        (fun i x => write item x (B.push (Scope.indexLayer i))) i vs = (.ok (), b) ∧
      Rewrites data off o (itemsPadding (fun i => scan item data (P.push (Scope.indexLayer i)))
        (fun i => padding item data (P.push (Scope.indexLayer i))) i k off)
        (!item.hasNode isPrefixed) b := by
  have hvis' : ∀ x ∈ Scope.indexName :: vis, x ∈ outer ∨ x = Scope.indexName := by
    intro x hx
    rcases List.mem_cons.1 hx with rfl | hmem
    · exact Or.inr rfl
    · exact hvis x hmem
  induction k generalizing i off vs o with
  | zero =>
    cases h
    exact ⟨rfl, [], rfl, Rewrites.nil hoff⟩
  | succ k ihk =>
    simp only [itemsOutcome] at h
    obtain ⟨v₁, o₁, hitem, h⟩ := andThen_eq_ok.1 h
    obtain ⟨vs', o', hrest, h⟩ := andThen_eq_ok.1 h
    cases h
    obtain ⟨b₁, hb₁, hw₁⟩ := ih hs hvis' (hagree.push_index i) hoff hitem
    obtain ⟨hlen, b₂, hb₂, hw₂⟩ := ihk (i + 1) o₁ vs' o hw₁.le_size hrest
    refine ⟨by simp [hlen], b₁ ++ b₂, ?_, ?_⟩
    · simp only [BuildM.itemsEmitted, hb₁, BuildM.andThen_ok, hb₂]
    · simp only [itemsPadding, hitem]
      have hw := hw₁.append hw₂
      rwa [Bool.and_self] at hw

theorem rebuilds_array (item : Schema) (count : Length) (ih : Rebuilds item) :
    Rebuilds (.array item count) := by
  intro outer vis hs hvis P B hagree data off v o hoff h
  obtain ⟨hcount, hs⟩ := hs
  rw [scan_array] at h
  split at h
  · cases h
  · rename_i n hn
    obtain ⟨vs, o', hitems, h⟩ := andThen_eq_ok.1 h
    cases h
    obtain ⟨hlen, b, hb, hw⟩ := itemsEmitted_of_scanned ih hs hvis hagree n 0 off vs o hoff hitems
    refine ⟨b, ?_, ?_⟩
    · rw [write_array, ← hagree.resolveClamped_eq hcount, hn]
      simp only [Value.items?, hlen, ne_eq, not_true_eq_false, if_false]
      exact hb
    · simp only [padding, hn]
      exact hw

/-- The items a greedy repetition keeps build back one after the other. -/
lemma greedyEmitted_of_scanned {item : Schema} (ih : Rebuilds item) {outer vis : List String}
    (hs : item.Rebuildable outer vis) (hvis : ∀ x ∈ vis, x ∈ outer ∨ x = Scope.indexName)
    {P B : Scope} (hagree : P.Agree vis B) {data : Array UInt8} (i off : Nat)
    (hoff : off ≤ data.size) :
    ∃ b, BuildM.itemsEmitted (fun _ x => write item x B) i
        (greedyOutcome (scan item data P) data.size off).1 = (.ok (), b) ∧
      Rewrites data off (greedyOutcome (scan item data P) data.size off).2
        (greedyPadding (scan item data P) (padding item data P) data.size off)
        (!item.hasNode isPrefixed) b := by
  induction off using greedyOutcome.induct (scan item data P) data.size generalizing i with
  | case1 off hlt v o e hadv ihg =>
    -- an item that moved the cursor, followed by the repetition after it
    obtain ⟨b₁, hb₁, hw₁⟩ := ih hs hvis hagree hoff e
    obtain ⟨b₂, hb₂, hw₂⟩ := ihg (i + 1) hw₁.le_size
    rw [greedyOutcome, if_pos hlt, e, greedyPadding, if_pos hlt, e]
    simp only [if_pos hadv]
    refine ⟨b₁ ++ b₂, ?_, ?_⟩
    · simp only [BuildM.itemsEmitted, hb₁, BuildM.andThen_ok, hb₂]
    · have hw := hw₁.append hw₂
      rwa [Bool.and_self] at hw
  | case2 off hlt v o e hadv =>
    -- an item that consumed nothing ends the repetition
    obtain ⟨b₁, hb₁, hw₁⟩ := ih hs hvis hagree hoff e
    rw [greedyOutcome, if_pos hlt, e, greedyPadding, if_pos hlt, e]
    simp only [if_neg hadv]
    refine ⟨b₁, ?_, hw₁⟩
    simp only [BuildM.itemsEmitted, hb₁, BuildM.andThen_ok, List.append_nil]
  | case3 off hlt err o e =>
    -- a failed attempt is undone and ends the repetition
    rw [greedyOutcome, if_pos hlt, e, greedyPadding, if_pos hlt, e]
    exact ⟨[], rfl, Rewrites.nil hoff⟩
  | case4 off hge =>
    rw [greedyOutcome, if_neg hge, greedyPadding, if_neg hge]
    exact ⟨[], rfl, Rewrites.nil hoff⟩

theorem rebuilds_greedy (item : Schema) (ih : Rebuilds item) : Rebuilds (.greedy item) := by
  intro outer vis hs hvis P B hagree data off v o hoff h
  rw [scan_greedy] at h
  cases h
  obtain ⟨b, hb, hw⟩ := greedyEmitted_of_scanned ih hs hvis hagree 0 off hoff
  exact ⟨b, by rw [write_greedy]; exact hb, hw⟩

/-! ### Switches -/

/-- The case a key selects builds back, the same case in both directions. -/
lemma writeCase_of_scanned {outer vis : List String} {P B : Scope} (hagree : P.Agree vis B)
    (hvis : ∀ x ∈ vis, x ∈ outer ∨ x = Scope.indexName) {data : Array UInt8} {off : Nat}
    (hoff : off ≤ data.size) {v : Value} {o : Nat} (key : Option String)
    (default : Option Schema) (hd : ∀ d ∈ default, Rebuilds d)
    (hdefault : DefaultRebuildable outer vis default) (cases : List (String × Schema))
    (hc : ∀ c ∈ cases, Rebuilds c.2) (hcases : CasesRebuildable outer vis cases)
    (h : scanCase cases default key data P off = (.ok v, o)) :
    ∃ b, writeCase cases default key v B = (.ok (), b) ∧
      Rewrites data off o (casesPadding cases key data P off (defaultPadding default data P off))
        (!(fieldsHaveNode isPrefixed cases || defaultHasNode isPrefixed default)) b := by
  induction cases with
  | nil =>
    rw [scanCase_nil] at h
    rcases default with _ | d
    · cases h
    · obtain ⟨b, hb, hw⟩ := hd d rfl hdefault hvis hagree hoff h
      exact ⟨b, by rw [writeCase_nil]; exact hb, hw⟩
  | cons c rest ihc =>
    obtain ⟨k, s⟩ := c
    obtain ⟨hsc, hsrest⟩ := hcases
    rw [scanCase_cons] at h
    by_cases hk : key = some k
    · rw [if_pos hk] at h
      obtain ⟨b, hb, hw⟩ := hc (k, s) List.mem_cons_self ((fieldRebuildable_iff _).1 hsc) hvis
        hagree hoff h
      refine ⟨b, by rw [writeCase_cons, if_pos hk]; exact hb, ?_⟩
      simp only [casesPadding, if_pos hk]
      -- the case has no window if no case and no default has one
      refine hw.mono fun he => ?_
      simp only [fieldsHaveNode, fieldHasNode, Bool.not_or, Bool.and_eq_true] at he
      exact he.1.1
    · rw [if_neg hk] at h
      obtain ⟨b, hb, hw⟩ := ihc (fun c hmem => hc c (List.mem_cons_of_mem _ hmem)) hsrest h
      refine ⟨b, by rw [writeCase_cons, if_neg hk]; exact hb, ?_⟩
      simp only [casesPadding, if_neg hk]
      refine hw.mono fun he => ?_
      simp only [fieldsHaveNode, fieldHasNode, Bool.not_or, Bool.and_eq_true] at he ⊢
      exact ⟨he.1.2, he.2⟩

theorem rebuilds_switch (on : SwitchOn) (cases : List (String × Schema))
    (default : Option Schema) (hc : ∀ c ∈ cases, Rebuilds c.2) (hd : ∀ d ∈ default, Rebuilds d) :
    Rebuilds (.switch on cases default) := by
  intro outer vis hs hvis P B hagree data off v o hoff h
  obtain ⟨hon, hcases, hdefault⟩ := hs
  -- the build shows the fields of the value, none of which is a name an expression reads
  have hfresh : ∀ x ∈ vis, Record.get? (v.fields?.getD []) x = none := by
    intro x hx
    cases hf : v.fields? with
    | none => rfl
    | some r =>
      exact scan_fields?_get?_eq_none (.switch on cases default) ⟨hon, hcases, hdefault⟩ h hf
        (hvis x hx)
  have hagree' := hagree.push_right hfresh
  rw [scan_switch] at h
  rw [write_switch, ← hagree'.key?_eq hon]
  exact writeCase_of_scanned hagree' hvis hoff _ default hd hdefault cases hc hcases h

/-! ### Every schema -/

/-- **Every node builds back what it parsed.** -/
theorem rebuilds (s : Schema) : Rebuilds s := by
  induction s using Schema.induction with
  | number kind order => exact rebuilds_number kind order
  | bytes length => exact rebuilds_bytes length
  | literal expected => exact rebuilds_literal expected
  | text encoding length => exact rebuilds_text encoding length
  | struct fields ih => exact rebuilds_struct fields ih
  | array item count ih => exact rebuilds_array item count ih
  | greedy item ih => exact rebuilds_greedy item ih
  | switch on cases default hc hd => exact rebuilds_switch on cases default hc hd
  | sized inner total ih => exact rebuilds_sized inner total ih
  | prefixed length inner ih => exact rebuilds_prefixed length inner ih

/-! ### Schemas without sized regions -/

lemma itemsPadding_eq_nil {item : Nat → Nat → Except Error Value × Nat}
    {pad : Nat → Nat → List Nat} (h : ∀ i off, pad i off = []) (i k off : Nat) :
    itemsPadding item pad i k off = [] := by
  induction k generalizing i off with
  | zero => rfl
  | succ k ih =>
    rw [itemsPadding, h, List.nil_append]
    split
    · exact ih _ _
    · rfl

lemma greedyPadding_eq_nil {item : Nat → Except Error Value × Nat} {pad : Nat → List Nat}
    (h : ∀ off, pad off = []) (size off : Nat) : greedyPadding item pad size off = [] := by
  induction off using greedyPadding.induct item size with
  | case1 off hlt v o e hadv ih =>
    rw [greedyPadding, if_pos hlt, e]
    simp only [if_pos hadv, h, ih, List.nil_append]
  | case2 off hlt v o e hadv =>
    rw [greedyPadding, if_pos hlt, e]
    simp only [if_neg hadv, h]
  | case3 off hlt err o e => rw [greedyPadding, if_pos hlt, e]
  | case4 off hge => rw [greedyPadding, if_neg hge]

lemma fieldsPadding_eq_nil {fields : List (String × Schema)} {data : Array UInt8}
    {scope : Scope} (h : ∀ f ∈ fields, ∀ scope off, padding f.2 data scope off = [])
    (acc : Record) (off : Nat) : fieldsPadding fields data scope acc off = [] := by
  induction fields generalizing acc off with
  | nil => rfl
  | cons f rest ih =>
    obtain ⟨name, s⟩ := f
    rw [fieldsPadding, fieldPadding, h _ List.mem_cons_self, List.nil_append]
    split
    · exact ih (fun f hf => h f (List.mem_cons_of_mem _ hf)) _ _
    · rfl

lemma casesPadding_eq_nil {cases : List (String × Schema)} {key : Option String}
    {data : Array UInt8} {scope : Scope} {off : Nat} {dflt : List Nat}
    (h : ∀ c ∈ cases, padding c.2 data scope off = []) (hd : dflt = []) :
    casesPadding cases key data scope off dflt = [] := by
  induction cases with
  | nil => exact hd
  | cons c rest ih =>
    obtain ⟨k, s⟩ := c
    rw [casesPadding]
    split
    · exact h _ List.mem_cons_self
    · exact ih fun c hc => h c (List.mem_cons_of_mem _ hc)

/-- **A schema without sized regions skips no padding.** -/
theorem padding_eq_nil (s : Schema) (hs : s.hasNode isSized = false) (data : Array UInt8)
    (scope : Scope) (off : Nat) : padding s data scope off = [] := by
  induction s using Schema.induction generalizing data scope off with
  | number kind order => rfl
  | bytes length => rfl
  | literal expected => rfl
  | text encoding length => rfl
  | struct fields ih =>
    have hfields := fieldsHaveNode_eq_false hs
    -- every field skips nothing, in whatever scope the fields before it give
    rw [padding]
    exact fieldsPadding_eq_nil (fun f hf => ih f hf (hfields f hf) data) [] off
  | array item count ih =>
    simp only [padding]
    split
    · exact itemsPadding_eq_nil (fun i off => ih hs _ _ _) _ _ _
    · rfl
  | greedy item ih => exact greedyPadding_eq_nil (fun off => ih hs _ _ _) _ _
  | switch on cases default hc hd =>
    simp only [hasNode, Bool.or_eq_false_iff] at hs
    obtain ⟨⟨-, hcases⟩, hdefault⟩ := hs
    have hcases' := fieldsHaveNode_eq_false hcases
    -- the case a key selects skips nothing, nor does the default
    rw [padding]
    refine casesPadding_eq_nil (fun c hc' => hc c hc' (hcases' c hc') _ _ _) ?_
    rcases default with _ | d
    · rfl
    · exact hd d rfl hdefault _ _ _
  | sized inner total ih => simp [hasNode, isSized] at hs
  | prefixed length inner ih =>
    simp only [hasNode, isSized, Bool.false_or] at hs
    simp only [padding]
    split
    · rw [ih hs]
      rfl
    · rfl

/-! ### A whole parse -/

/-- **Parsing, then building, writes the bytes back.** For a rebuildable schema, if parsing
some bytes succeeds with a value, then building that value succeeds and writes no more bytes
than the parse consumed; if the schema has no window, exactly the bytes consumed, with the
padding that sized regions skip set to zero; and if it has no sized region either, exactly
the bytes consumed.

**Proof sketch.** `rebuilds` at the root, where the parse and the build both start in the root
scope and the parse from the start of the input; without sized regions there is no padding
(`padding_eq_nil`). -/
theorem build_parse {s : Schema} (hs : s.Rebuildable [] []) {input : Bytes} {v : Value}
    (hp : (s.parse input).1 = .ok v) :
    (s.build v).1 = .ok () ∧
      (s.build v).2.output.size ≤ (s.parse input).2.offset ∧
      (s.hasNode isPrefixed = false →
        (s.build v).2.output.toList =
          zeroAt (s.padding input.toArray Scope.root 0) 0
            (input.take (s.parse input).2.offset)) ∧
      (s.hasNode isSized = false → s.hasNode isPrefixed = false →
        (s.build v).2.output.toList = input.take (s.parse input).2.offset) := by
  have hscan : scan s input.toArray Scope.root 0 = (.ok v, (s.parse input).2.offset) := by
    rw [← parse_eq_scan, hp]
  have hroot : Scope.root.Agree [] Scope.root := fun _ h => absurd h List.not_mem_nil
  obtain ⟨b, hb, hw⟩ :=
    rebuilds s hs (fun _ h => absurd h List.not_mem_nil) hroot (Nat.zero_le _) hscan
  have hbuild := build_eq_write s v
  rw [hb] at hbuild
  have hok : (s.build v).1 = .ok () := congrArg Prod.fst hbuild
  have hbytes : (s.build v).2.output.toList = b := congrArg Prod.snd hbuild
  have htake : (input.toArray.extract 0 (s.parse input).2.offset).toList =
      input.take (s.parse input).2.offset := by
    simp
  refine ⟨hok, ?_, fun hpre => ?_, fun hsized hpre => ?_⟩
  · rw [← Array.length_toList, hbytes]
    simpa using hw.length_le
  · rw [hbytes, hw.eq_zeroAt (by rw [hpre]; rfl), htake]
  · rw [hbytes, hw.eq_zeroAt (by rw [hpre]; rfl), padding_eq_nil s hsized, zeroAt.nil_pad, htake]

/-- A length byte, then a body of that many bytes padded to four. -/
def paddedBody : Schema :=
  .struct [("len", .number .uint8 .big), ("body", .sized (.bytes (.field "len")) fun _ => some 4)]

theorem build_parse_paddedBody :
    paddedBody.Rebuildable [] [] ∧
      (paddedBody.parse [2, 7, 8, 9, 9]).1 =
        .ok (.record [("body", .bytes [7, 8]), ("len", .unsigned 2)]) ∧
      (paddedBody.build (.record [("body", .bytes [7, 8]), ("len", .unsigned 2)])).1 = .ok () ∧
      (paddedBody.build (.record [("body", .bytes [7, 8]), ("len", .unsigned 2)])).2.output.size ≤
        (paddedBody.parse [2, 7, 8, 9, 9]).2.offset ∧
      (paddedBody.hasNode isPrefixed = false →
        (paddedBody.build (.record [("body", .bytes [7, 8]), ("len", .unsigned 2)])).2.output.toList =
          zeroAt (paddedBody.padding [2, 7, 8, 9, 9].toArray Scope.root 0) 0
            ([2, 7, 8, 9, 9].take (paddedBody.parse [2, 7, 8, 9, 9]).2.offset)) ∧
      (paddedBody.hasNode isSized = false → paddedBody.hasNode isPrefixed = false →
        (paddedBody.build (.record [("body", .bytes [7, 8]), ("len", .unsigned 2)])).2.output.toList =
          [2, 7, 8, 9, 9].take (paddedBody.parse [2, 7, 8, 9, 9]).2.offset) := by
  have hs : paddedBody.Rebuildable [] [] := by
    simp [paddedBody, Rebuildable, FieldsRebuildable, FieldRebuildable, Length.ReadsFrom,
      NumberKind.isFloat, Scope.indexName]
  have hp : (paddedBody.parse [2, 7, 8, 9, 9]).1 =
      .ok (.record [("body", .bytes [7, 8]), ("len", .unsigned 2)]) := by
    have h := congrArg Prod.fst (parse_eq_scan paddedBody [2, 7, 8, 9, 9])
    dsimp only at h
    rw [h]
    simp [paddedBody, scan_struct, scanFields_cons, scanFields_nil, scan_number, scan_sized,
      scan_bytes, NumberKind.width, NumberKind.decode, Length.resolveClamped, Length.resolve,
      Scope.get?_push, Record.get?_cons, Record.insert, declaredTotal, NumberKind.isSigned,
      ByteOrder.toNat, Value.toInt64?, Value.exactInt?, show "body" < "len" by decide]
    rfl
  exact ⟨hs, hp, build_parse hs hp⟩

end Schema

end ByteLayout
