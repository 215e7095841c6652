import ByteLayout.Proofs.Rebuild

set_option autoImplicit false

/-!
# Parses are position independent and local

Every cursor operation a parse performs is relative to where the cursor stands: a read takes the
bytes after it, what remains is counted from it, a sized region measures what it consumed from
where it started, and a window starts a cursor of its own at zero. So parsing at a cursor of a
window is parsing at zero in the window with the bytes before the cursor dropped, with every
resulting cursor moved by the bytes dropped; results and errors, with all the counts they
carry, are the same.

A parse that succeeds has also looked at no byte after those it consumed, unless it reads up to
the end of its window: a greedy range, which stops only at the end or at an item that fails,
and a text without a length, which takes whatever remains. Inside a window these are bounded
by the window. A schema with neither outside a window is *self-delimiting*, and its successful
parse gives the same value and the same span in any window that holds the same bytes there.

## Main definitions

* `ByteLayout.ParseM.shiftBy` — an outcome with its cursor moved further.
* `ByteLayout.Schema.isSelfDelimiting` — the schemas whose parse ends where their bytes end.
* `ByteLayout.AgreeOn` — two windows that hold the same bytes at some positions.

## Main results

* `ByteLayout.Schema.scan_drop` — a parse after dropping bytes before the cursor.
* `ByteLayout.Schema.scan_of_agreeOn` — a successful parse of a self-delimiting schema depends
  only on the bytes it consumed.
* `ByteLayout.Schema.parse_position_independent` — both, and a parse read again from the bytes
  it consumed followed by anything.
-/

namespace ByteLayout

namespace ParseM

variable {α β : Type}

/-- An outcome with its cursor moved `d` bytes further. -/
def shiftBy (d : Nat) (r : Except Error α × Nat) : Except Error α × Nat :=
  (r.1, d + r.2)

/-- A sequence run `d` bytes further on: the continuation, moved the same way, continues from
where the first part ended. -/
lemma andThen_shiftBy {d : Nat} (r : Except Error α × Nat) {k : α → Nat → Except Error β × Nat}
    {k' : α → Nat → Except Error β × Nat} (hk : ∀ a o, k a (d + o) = shiftBy d (k' a o)) :
    andThen (shiftBy d r) k = shiftBy d (andThen r k') := by
  rcases r with ⟨_ | a, o⟩
  · rfl
  · exact hk a o

lemma itemsOutcome_shiftBy {d : Nat} {F F' : Nat → Nat → Except Error Value × Nat}
    (h : ∀ i o, F i (d + o) = shiftBy d (F' i o)) (i k o : Nat) :
    itemsOutcome F i k (d + o) = shiftBy d (itemsOutcome F' i k o) := by
  induction k generalizing i o with
  | zero => rfl
  | succ k ih =>
    simp only [itemsOutcome]
    rw [h, andThen_shiftBy]
    intro v o₁
    rw [ih, andThen_shiftBy]
    intro vs o₂
    rfl

/-- A greedy repetition run `d` bytes further on, in a window `d` bytes longer, reads the same
items and ends `d` bytes further on. -/
lemma greedyOutcome_shiftBy {d size : Nat} {F F' : Nat → Except Error Value × Nat}
    (h : ∀ o, F (d + o) = shiftBy d (F' o)) (o : Nat) :
    greedyOutcome F size (d + o) =
      ((greedyOutcome F' (size - d) o).1, d + (greedyOutcome F' (size - d) o).2) := by
  induction o using greedyOutcome.induct F' (size - d) with
  | case1 off hlt v o e hadv ih =>
    have hF : F (d + off) = (.ok v, d + o) := by rw [h, e]; rfl
    rw [greedyOutcome.eq_1 F size, if_pos (by omega), hF, greedyOutcome.eq_1 F' (size - d),
      if_pos hlt, e]
    simp only [if_pos hadv, if_pos (Nat.add_lt_add_left hadv d)]
    rw [ih]
  | case2 off hlt v o e hadv =>
    have hF : F (d + off) = (.ok v, d + o) := by rw [h, e]; rfl
    rw [greedyOutcome.eq_1 F size, if_pos (by omega), hF, greedyOutcome.eq_1 F' (size - d),
      if_pos hlt, e]
    simp only [if_neg hadv, if_neg (fun h' => hadv (Nat.lt_of_add_lt_add_left h'))]
  | case3 off hlt err o e =>
    have hF : F (d + off) = (.error err, d + o) := by rw [h, e]; rfl
    rw [greedyOutcome.eq_1 F size, if_pos (by omega), hF, greedyOutcome.eq_1 F' (size - d),
      if_pos hlt, e]
  | case4 off hge =>
    rw [greedyOutcome.eq_1 F size, if_neg (by omega), greedyOutcome.eq_1 F' (size - d),
      if_neg hge]

end ParseM

/-- The bytes of a window after dropping its first `d` bytes, read from `off` on: those of the
window from `d + off` on. -/
lemma extract_min_size {α : Type} (xs : Array α) (a b : Nat) :
    xs.extract a (min b xs.size) = xs.extract a b := by
  apply Array.ext
  · simp [Array.size_extract]
  · intro i _ _
    simp [Array.getElem_extract]

lemma extract_drop {α : Type} (xs : Array α) (d off n : Nat) :
    (xs.extract d xs.size).extract off (off + n) = xs.extract (d + off) (d + off + n) := by
  rw [Array.extract_extract, ← Nat.add_assoc, extract_min_size]

lemma size_drop_sub {α : Type} (xs : Array α) (d off : Nat) :
    (xs.extract d xs.size).size - off = xs.size - (d + off) := by
  simp [Array.size_extract]
  omega

namespace Schema

open ParseM

/-! ### Position independence -/

section Drop

variable (data : Array UInt8) (scope : Scope) (d : Nat)

lemma scanFields_drop {fields : List (String × Schema)}
    (h : ∀ f ∈ fields, ∀ scope off, scan f.2 data scope (d + off) =
      shiftBy d (scan f.2 (data.extract d data.size) scope off))
    (acc : Record) (off : Nat) :
    scanFields fields data scope acc (d + off) =
      shiftBy d (scanFields fields (data.extract d data.size) scope acc off) := by
  induction fields generalizing acc off with
  | nil => simp only [scanFields_nil]; rfl
  | cons f rest ih =>
    rw [scanFields_cons, scanFields_cons, h f List.mem_cons_self, andThen_shiftBy]
    intro v o
    exact ih (fun g hg => h g (List.mem_cons_of_mem _ hg)) _ o

lemma scanCase_drop {cases : List (String × Schema)} {default : Option Schema}
    (hc : ∀ c ∈ cases, ∀ off, scan c.2 data scope (d + off) =
      shiftBy d (scan c.2 (data.extract d data.size) scope off))
    (hd : ∀ x ∈ default, ∀ off, scan x data scope (d + off) =
      shiftBy d (scan x (data.extract d data.size) scope off))
    (key : Option String) (off : Nat) :
    scanCase cases default key data scope (d + off) =
      shiftBy d (scanCase cases default key (data.extract d data.size) scope off) := by
  induction cases with
  | nil =>
    rw [scanCase_nil, scanCase_nil]
    rcases default with _ | x
    · rfl
    · exact hd x rfl off
  | cons c rest ih =>
    rw [scanCase_cons, scanCase_cons]
    split
    · exact hc c List.mem_cons_self off
    · exact ih fun g hg => hc g (List.mem_cons_of_mem _ hg)

end Drop

/-- **Parsing after dropping bytes.** Parsing a schema at the cursor `d + off` of a window gives
the result of parsing it at `off` in the window without its first `d` bytes, with the cursor
moved `d` bytes further: the same value, or the same error with the same counts.

**Proof sketch.** Induction over schemas. Each leaf compares what it needs with what remains
after the cursor, and reads the bytes after the cursor, which are the same in both windows;
a sized region measures what it consumed from where it started; a window's bytes are the same
window; the combinators move the cursor only through their parts. -/
theorem scan_drop (s : Schema) (data : Array UInt8) (scope : Scope) (d off : Nat) :
    scan s data scope (d + off) = shiftBy d (scan s (data.extract d data.size) scope off) := by
  induction s using Schema.induction generalizing data scope off with
  | number kind order =>
    rw [scan_number, scan_number, size_drop_sub, extract_drop]
    by_cases hb : kind.width > data.size - (d + off) <;> simp [hb, shiftBy, Nat.add_assoc]
  | bytes length =>
    rw [scan_bytes, scan_bytes]
    rcases length.resolveClamped scope with e | n
    · rfl
    · dsimp only
      rw [size_drop_sub, extract_drop]
      by_cases hb : n > data.size - (d + off) <;> simp [hb, shiftBy, Nat.add_assoc]
  | literal expected =>
    rw [scan_literal, scan_literal, size_drop_sub, extract_drop]
    generalize (data.extract (d + off) (d + off + expected.length)).toList = actual
    by_cases hb : expected.length > data.size - (d + off)
    · simp [hb, shiftBy]
    · by_cases he : actual = expected <;> simp [hb, he, shiftBy, Nat.add_assoc]
  | text encoding length =>
    rw [scan_text, scan_text]
    -- a text without a length takes what remains, the same count in both windows
    have hrem : (data.extract d data.size).size - off = data.size - (d + off) :=
      size_drop_sub data d off
    rcases length with _ | l
    · simp only [hrem, extract_drop, gt_iff_lt, Nat.lt_irrefl, if_false]
      rcases encoding.toText (data.extract (d + off) (d + off + (data.size - (d + off)))).toList
        with f | str <;> simp [shiftBy, Nat.add_assoc]
    · dsimp only
      rcases l.resolveClamped scope with e | n
      · rfl
      · dsimp only
        rw [hrem, extract_drop]
        by_cases hb : n > data.size - (d + off)
        · simp [hb, shiftBy]
        · simp only [hb, if_false]
          rcases encoding.toText (data.extract (d + off) (d + off + n)).toList with f | str <;>
            simp [shiftBy, Nat.add_assoc]
  | struct fields ih =>
    rw [scan_struct, scan_struct]
    exact scanFields_drop data scope d (fun f hf => ih f hf data) [] off
  | array item count ih =>
    rw [scan_array, scan_array]
    rcases count.resolveClamped scope with e | n
    · rfl
    · dsimp only
      rw [itemsOutcome_shiftBy (fun i o => ih data _ o), andThen_shiftBy]
      intro vs o
      rfl
  | greedy item ih =>
    rw [scan_greedy, scan_greedy, greedyOutcome_shiftBy (fun o => ih data scope o)]
    simp [shiftBy, Array.size_extract]
  | switch on cases default hc hd =>
    rw [scan_switch, scan_switch]
    exact scanCase_drop data scope d (fun c hmem => hc c hmem data scope)
      (fun x hmem => hd x hmem data scope) _ off
  | sized inner total ih =>
    rw [scan_sized, scan_sized, ih, andThen_shiftBy]
    intro v o
    rcases declaredTotal total v with e | t
    · rfl
    · -- the region measures what it consumed from its own start
      have hc : d + o - (d + off) = o - off := Nat.add_sub_add_left d o off
      have hr : (data.extract d data.size).size - o = data.size - (d + o) := size_drop_sub data d o
      dsimp only
      rw [hc, hr]
      by_cases ho : t < o - off
      · simp [ho, shiftBy]
      · by_cases hp : t - (o - off) > 0
        · by_cases hb : t - (o - off) > data.size - (d + o) <;>
            simp [ho, hp, hb, shiftBy, Nat.add_assoc]
        · simp [ho, hp, shiftBy]
  | prefixed length inner ih =>
    rw [scan_prefixed, scan_prefixed]
    rcases length.resolveStrict scope with e | n
    · rfl
    · dsimp only
      rw [size_drop_sub, extract_drop]
      by_cases hb : n > data.size - (d + off)
      · simp [hb, shiftBy]
      · simp only [hb, if_false]
        rcases (scan inner (data.extract (d + off) (d + off + n)) scope 0).1 with e | v <;>
          simp [shiftBy, Nat.add_assoc]

/-! ### Locality -/

mutual

/-- Whether a schema ends where its own bytes end: no greedy range and no text without a length
stands in it outside a window. -/
def isSelfDelimiting : Schema → Bool
  | .number .. | .bytes _ | .literal _ | .prefixed .. => true
  | .text _ length => length.isSome
  | .struct fields => fieldsSelfDelimiting fields
  | .array item _ => isSelfDelimiting item
  | .greedy _ => false
  | .switch _ cases default => fieldsSelfDelimiting cases && defaultSelfDelimiting default
  | .sized inner _ => isSelfDelimiting inner

/-- Whether the schemas of some fields, or of the cases of a switch, are all self-delimiting. -/
def fieldsSelfDelimiting : List (String × Schema) → Bool
  | [] => true
  | f :: rest => fieldSelfDelimiting f && fieldsSelfDelimiting rest

/-- Whether the schema of a field is self-delimiting. -/
def fieldSelfDelimiting : String × Schema → Bool
  | (_, s) => isSelfDelimiting s

/-- Whether the default of a switch, if it has one, is self-delimiting. -/
def defaultSelfDelimiting : Option Schema → Bool
  | none => true
  | some d => isSelfDelimiting d

end

lemma fieldsSelfDelimiting_iff {fields : List (String × Schema)} :
    fieldsSelfDelimiting fields = true ↔ ∀ f ∈ fields, f.2.isSelfDelimiting = true := by
  induction fields with
  | nil => simp [fieldsSelfDelimiting]
  | cons f rest ih =>
    obtain ⟨_, s⟩ := f
    simp [fieldsSelfDelimiting, fieldSelfDelimiting, ih]

lemma defaultSelfDelimiting_iff {default : Option Schema} :
    defaultSelfDelimiting default = true ↔ ∀ d ∈ default, d.isSelfDelimiting = true := by
  rcases default with _ | d <;> simp [defaultSelfDelimiting]

end Schema

/-- The window `data'` holds the bytes of `data` at every position from `a` up to `b`, and has
all of them. -/
def AgreeOn (data data' : Array UInt8) (a b : Nat) : Prop :=
  b ≤ data'.size ∧ ∀ i, a ≤ i → i < b → data[i]? = data'[i]?

namespace AgreeOn

variable {data data' : Array UInt8} {a b : Nat}

lemma mono (h : AgreeOn data data' a b) {a' b' : Nat} (ha : a ≤ a') (hb : b' ≤ b) :
    AgreeOn data data' a' b' :=
  ⟨Nat.le_trans hb h.1, fun i h₁ h₂ => h.2 i (Nat.le_trans ha h₁) (Nat.lt_of_lt_of_le h₂ hb)⟩

/-- Windows that agree on some positions have the same bytes there. -/
lemma extract_eq (h : AgreeOn data data' a b) (hb : b ≤ data.size) :
    data.extract a b = data'.extract a b := by
  have hb' := h.1
  apply Array.ext
  · simp only [Array.size_extract]
    omega
  · intro i h₁ _
    simp only [Array.size_extract] at h₁
    have hi : data[a + i]? = data'[a + i]? := h.2 (a + i) (Nat.le_add_right a i) (by omega)
    rw [Array.getElem?_eq_getElem (by omega), Array.getElem?_eq_getElem (by omega)] at hi
    simpa [Array.getElem_extract] using hi

end AgreeOn

namespace Schema

open ParseM

/-- A successful parse of `s` gives the same value and ends at the same cursor in any window that
holds the same bytes from where it started to where it ended. -/
def SpanLocal (s : Schema) : Prop :=
  ∀ (data data' : Array UInt8) (scope : Scope) (a : Nat) (v : Value) (b : Nat),
    a ≤ data.size → scan s data scope a = (.ok v, b) → AgreeOn data data' a b →
    scan s data' scope a = (.ok v, b)

section SpanLocal

variable (data data' : Array UInt8) (scope : Scope)

lemma spanLocal_number (kind : NumberKind) (order : ByteOrder) :
    SpanLocal (.number kind order) := by
  intro data data' scope a v b _ h hag
  rw [scan_number] at h ⊢
  split at h
  · cases h
  · cases h
    have hb := hag.1
    rw [if_neg (by omega), hag.extract_eq (by omega)]

lemma spanLocal_bytes (length : Length) : SpanLocal (.bytes length) := by
  intro data data' scope a v b _ h hag
  rw [scan_bytes] at h ⊢
  cases hn : length.resolveClamped scope with
  | error e => rw [hn] at h; cases h
  | ok n =>
    rw [hn] at h
    dsimp only at h ⊢
    split at h
    · cases h
    · cases h
      have hb := hag.1
      rw [if_neg (by omega), hag.extract_eq (by omega)]

lemma spanLocal_literal (expected : Bytes) : SpanLocal (.literal expected) := by
  intro data data' scope a v b _ h hag
  rw [scan_literal] at h ⊢
  split at h
  · cases h
  · split at h
    · cases h
    · cases h
      have hb := hag.1
      rw [if_neg (by omega), ← hag.extract_eq (by omega), if_neg (by assumption)]

lemma spanLocal_text (encoding : Encoding) (l : Length) : SpanLocal (.text encoding (some l)) := by
  intro data data' scope a v b _ h hag
  rw [scan_text] at h ⊢
  dsimp only at h ⊢
  cases hn : l.resolveClamped scope with
  | error e => rw [hn] at h; cases h
  | ok n =>
    rw [hn] at h
    dsimp only at h ⊢
    split at h
    · cases h
    · rename_i hfit
      have hb := hag.1
      -- the text is decoded from bytes inside the span, the same in both windows
      cases hdec : encoding.toText (data.extract a (a + n)).toList with
      | error f => rw [hdec] at h; cases h
      | ok str =>
        rw [hdec] at h
        cases h
        rw [if_neg (by omega), ← hag.extract_eq (by omega), hdec]

/-- A window's bytes are the same in any window that agrees with it there, so its inner parse
is the same, whatever the inner schema. -/
lemma spanLocal_prefixed (length : Length) (inner : Schema) :
    SpanLocal (.prefixed length inner) := by
  intro data data' scope a v b _ h hag
  obtain ⟨n, o₁, hn, hfit, hinner, rfl⟩ := scan_prefixed_eq_ok h
  have hb := hag.1
  rw [scan_prefixed, hn]
  dsimp only
  rw [if_neg (by omega), ← hag.extract_eq (by omega), hinner]

lemma spanLocal_sized (inner : Schema) (total : Value → Option Int64) (ih : SpanLocal inner) :
    SpanLocal (.sized inner total) := by
  intro data data' scope a v b ha h hag
  obtain ⟨o₁, t, hinner, ht, hcover, hfit, rfl⟩ := scan_sized_eq_ok h
  have hadv := scan_advances inner data scope a ha
  rw [hinner] at hadv
  have hb := hag.1
  -- the inner part ends before the padding, inside the span
  rw [scan_sized, ih data data' scope a v o₁ ha hinner (hag.mono le_rfl (Nat.le_add_right _ _)),
    andThen_ok, ht]
  dsimp only
  rw [if_neg (by omega)]
  by_cases hp : t - (o₁ - a) > 0
  · rw [if_pos hp, if_neg (by omega)]
  · rw [if_neg hp]
    simp only [Prod.mk.injEq, true_and]
    omega

lemma scanFields_spanLocal {fields : List (String × Schema)} (h : ∀ f ∈ fields, SpanLocal f.2)
    (acc : Record) (a : Nat) (w : Value) (b : Nat) (ha : a ≤ data.size)
    (hs : scanFields fields data scope acc a = (.ok w, b)) (hag : AgreeOn data data' a b) :
    scanFields fields data' scope acc a = (.ok w, b) := by
  induction fields generalizing acc a with
  | nil =>
    rw [scanFields_nil] at hs ⊢
    exact hs
  | cons f rest ih =>
    obtain ⟨name, s⟩ := f
    rw [scanFields_cons] at hs ⊢
    obtain ⟨v, o₁, h₁, h₂⟩ := andThen_eq_ok.1 hs
    -- the field ends inside the struct's span, and the rest of the struct starts there
    have hfield := scan_advances s data (scope.push acc) a ha
    rw [h₁] at hfield
    have hrest := scanFields_advances data scope
      (fun (g : String × Schema) (_ : g ∈ rest) sc => scan_advances g.2 data sc)
      (Record.insert name v acc) o₁ hfield.2
    rw [h₂] at hrest
    rw [h (name, s) List.mem_cons_self data data' _ a v o₁ ha h₁ (hag.mono le_rfl hrest.1),
      andThen_ok]
    exact ih (fun g hg => h g (List.mem_cons_of_mem _ hg)) _ o₁ hfield.2 h₂
      (hag.mono hfield.1 le_rfl)

lemma spanLocal_struct (fields : List (String × Schema)) (h : ∀ f ∈ fields, SpanLocal f.2) :
    SpanLocal (.struct fields) := by
  intro data data' scope a v b ha hs hag
  rw [scan_struct] at hs ⊢
  exact scanFields_spanLocal data data' scope h [] a v b ha hs hag

lemma itemsOutcome_spanLocal {item : Schema} (ih : SpanLocal item) (i k a : Nat)
    (vs : List Value) (b : Nat) (ha : a ≤ data.size)
    (hs : itemsOutcome (fun i => scan item data (scope.push (Scope.indexLayer i))) i k a =
      (.ok vs, b))
    (hag : AgreeOn data data' a b) :
    itemsOutcome (fun i => scan item data' (scope.push (Scope.indexLayer i))) i k a =
      (.ok vs, b) := by
  induction k generalizing i a vs with
  | zero =>
    rw [itemsOutcome] at hs ⊢
    exact hs
  | succ k ihk =>
    rw [itemsOutcome] at hs ⊢
    obtain ⟨v, o₁, h₁, h₂⟩ := andThen_eq_ok.1 hs
    obtain ⟨vs', o₂, h₃, h₄⟩ := andThen_eq_ok.1 h₂
    cases h₄
    -- the item ends inside the span, and the items after it start there
    have hitem := scan_advances item data (scope.push (Scope.indexLayer i)) a ha
    rw [h₁] at hitem
    have hrest := advances_itemsOutcome (fun j => scan_advances item data
      (scope.push (Scope.indexLayer j))) (i + 1) k o₁ hitem.2
    rw [h₃] at hrest
    rw [ih data data' _ a v o₁ ha h₁ (hag.mono le_rfl hrest.1), andThen_ok,
      ihk (i + 1) o₁ vs' hitem.2 h₃ (hag.mono hitem.1 le_rfl), andThen_ok]

lemma spanLocal_array (item : Schema) (count : Length) (ih : SpanLocal item) :
    SpanLocal (.array item count) := by
  intro data data' scope a v b ha hs hag
  rw [scan_array] at hs ⊢
  cases hn : count.resolveClamped scope with
  | error e => rw [hn] at hs; cases hs
  | ok n =>
    rw [hn] at hs
    dsimp only at hs ⊢
    obtain ⟨vs, o, h₁, h₂⟩ := andThen_eq_ok.1 hs
    cases h₂
    rw [itemsOutcome_spanLocal data data' scope ih 0 n a vs b ha h₁ hag, andThen_ok]

lemma scanCase_spanLocal {cases : List (String × Schema)} {default : Option Schema}
    (hc : ∀ c ∈ cases, SpanLocal c.2) (hd : ∀ x ∈ default, SpanLocal x) (key : Option String)
    (a : Nat) (v : Value) (b : Nat) (ha : a ≤ data.size)
    (hs : scanCase cases default key data scope a = (.ok v, b)) (hag : AgreeOn data data' a b) :
    scanCase cases default key data' scope a = (.ok v, b) := by
  induction cases with
  | nil =>
    rw [scanCase_nil] at hs ⊢
    rcases default with _ | x
    · cases hs
    · exact hd x rfl data data' scope a v b ha hs hag
  | cons c rest ih =>
    rw [scanCase_cons] at hs ⊢
    split at hs
    · rw [if_pos (by assumption)]
      exact hc c List.mem_cons_self data data' scope a v b ha hs hag
    · rw [if_neg (by assumption)]
      exact ih (fun g hg => hc g (List.mem_cons_of_mem _ hg)) hs

lemma spanLocal_switch (on : SwitchOn) (cases : List (String × Schema)) (default : Option Schema)
    (hc : ∀ c ∈ cases, SpanLocal c.2) (hd : ∀ x ∈ default, SpanLocal x) :
    SpanLocal (.switch on cases default) := by
  intro data data' scope a v b ha hs hag
  rw [scan_switch] at hs ⊢
  exact scanCase_spanLocal data data' scope hc hd _ a v b ha hs hag

end SpanLocal

/-- **A self-delimiting parse reads only its own span.** A successful parse of a self-delimiting
schema from a cursor inside its window gives the same value and ends at the same cursor in any
window that holds the same bytes from where it started to where it ended.

**Proof sketch.** Induction over schemas, one lemma per kind: each leaf succeeds only if what it
reads lies inside its span, a sized region skips padding that lies inside it too, a window's
bytes are inside it, and a combinator's parts cover its span one after another. -/
theorem scan_of_agreeOn (s : Schema) (hs : s.isSelfDelimiting = true) : SpanLocal s := by
  induction s using Schema.induction with
  | number kind order => exact spanLocal_number kind order
  | bytes length => exact spanLocal_bytes length
  | literal expected => exact spanLocal_literal expected
  | text encoding length =>
    rcases length with _ | l
    · simp [isSelfDelimiting] at hs
    · exact spanLocal_text encoding l
  | struct fields ih =>
    rw [isSelfDelimiting, fieldsSelfDelimiting_iff] at hs
    exact spanLocal_struct fields fun f hf => ih f hf (hs f hf)
  | array item count ih => exact spanLocal_array item count (ih hs)
  | greedy item _ => simp [isSelfDelimiting] at hs
  | switch on cases default hc hd =>
    rw [isSelfDelimiting, Bool.and_eq_true, fieldsSelfDelimiting_iff,
      defaultSelfDelimiting_iff] at hs
    exact spanLocal_switch on cases default (fun c hmem => hc c hmem (hs.1 c hmem))
      (fun x hmem => hd x hmem (hs.2 x hmem))
  | sized inner total ih => exact spanLocal_sized inner total (ih hs)
  | prefixed length inner _ => exact spanLocal_prefixed length inner

/-- A successful parse of a self-delimiting schema at any cursor reads the same from the bytes
it consumed followed by anything, from cursor zero. -/
theorem scan_extract_append {s : Schema} (hs : s.isSelfDelimiting = true) {w : Array UInt8}
    {scope : Scope} {o o' : Nat} {v : Value} (h : scan s w scope o = (.ok v, o'))
    (t : Array UInt8) : scan s (w.extract o o' ++ t) scope 0 = (.ok v, o' - o) := by
  -- first read the parse from the start of the bytes after the cursor
  have hdrop := scan_drop s w scope o 0
  rw [Nat.add_zero, h] at hdrop
  have hW : scan s (w.extract o w.size) scope 0 = (.ok v, o' - o) := by
    simp only [shiftBy, Prod.mk.injEq] at hdrop
    obtain ⟨h₁, h₂⟩ := hdrop
    rw [Prod.ext_iff]
    exact ⟨h₁.symm, by simp only; omega⟩
  have hend := (scan_advances s (w.extract o w.size) scope 0 (Nat.zero_le _)).2
  rw [hW] at hend
  simp only [Array.size_extract, Nat.min_self] at hend
  -- the consumed bytes followed by `t` agree with the bytes after the cursor on the span
  have hag : AgreeOn (w.extract o w.size) (w.extract o o' ++ t) 0 (o' - o) := by
    refine ⟨by simp only [Array.size_append, Array.size_extract]; omega, fun i _ hi => ?_⟩
    have h₁ : i < min o' w.size - o := by omega
    have h₂ : i < w.size - o := by omega
    simp [Array.getElem?_append, Array.size_extract, h₁, h₂]
  exact scan_of_agreeOn s hs _ _ scope 0 v (o' - o) (Nat.zero_le _) hW hag

/-- **Parses are position independent and local.** Parsing a schema at any cursor of a window
gives the result of parsing it from the start of the bytes after the cursor, the same value or
the same error, with its cursor moved by the bytes dropped. A successful parse of a
self-delimiting schema, one with no greedy range and no text without a length outside a window,
depends only on the bytes from where it started to where it ended: it gives the same in any
window that holds those bytes there, and the same from the start of those bytes followed by
anything.

**Proof sketch.** The first part is `scan_drop` at the cursor; the second is `scan_of_agreeOn`;
the third puts them together, in `scan_extract_append`. -/
theorem parse_position_independent :
    (∀ (s : Schema) (w : Array UInt8) (scope : Scope) (o : Nat),
      (scan s w scope o).1 = (scan s (w.extract o w.size) scope 0).1 ∧
      (scan s w scope o).2 = o + (scan s (w.extract o w.size) scope 0).2) ∧
    (∀ (s : Schema) (data data' : Array UInt8) (scope : Scope) (a : Nat) (v : Value) (b : Nat),
      s.isSelfDelimiting = true → a ≤ data.size → scan s data scope a = (.ok v, b) →
      b ≤ data'.size → (∀ i, a ≤ i → i < b → data[i]? = data'[i]?) →
      scan s data' scope a = (.ok v, b)) ∧
    (∀ (s : Schema) (w t : Array UInt8) (scope : Scope) (o : Nat) (v : Value) (o' : Nat),
      s.isSelfDelimiting = true → scan s w scope o = (.ok v, o') →
      scan s (w.extract o o' ++ t) scope 0 = (.ok v, o' - o)) := by
  refine ⟨fun s w scope o => ?_, fun s data data' scope a v b hs ha h hb hbytes => ?_,
    fun s w t scope o v o' hs h => scan_extract_append hs h t⟩
  · have h := scan_drop s w scope o 0
    rw [Nat.add_zero] at h
    rw [h]
    exact ⟨rfl, rfl⟩
  · exact scan_of_agreeOn s hs data data' scope a v b ha h ⟨hb, hbytes⟩

end Schema

end ByteLayout
