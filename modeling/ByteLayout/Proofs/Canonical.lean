import ByteLayout.Proofs.Lookup
import ByteLayout.Proofs.Write

set_option autoImplicit false

/-!
# Schemas whose builds read back, and the values they read back

A build reads back as the value it was given when the schema keeps parse and build looking at
the same names, and when the value is written the way a parse would give it.

The first is a condition on schemas, `WellFormed`. Integer numbers only, and lengths and
switch keys that are fixed or read a field. Field names are not empty, distinct within their
struct, never `_index` and never a field name of an enclosing struct, so that no layer hides
a name an expression reads. An expression reads `_index` inside an array item, or a field of
an enclosing struct declared before the field that holds the expression, so a parse has
already read it. A schema that runs to the end of its window (a greedy range, a text without
a length) stands only where nothing follows it: at the root, as the last field of such a
struct, as a case of such a switch, or directly inside a window.

The second is a condition on values, `Canonical`, in the scope of the build: integers of the
signedness of their type, bytes for bytes and literals (a literal's own bytes), text that its
encoding reads back, records with exactly the fields of their struct, sorted as records are,
items of greedy ranges that write at least one byte, a switch's value canonical for the case
its key selects, and windows whose length is that of what their inner schema writes.

## Main definitions

* `ByteLayout.Schema.WellFormed` — a schema for the round trip.
* `ByteLayout.Schema.Canonical` — a value as a parse gives it back.

## Main results

* `ByteLayout.Schema.Canonical.get?_eq_none` — a canonical value's record never answers the
  field names of enclosing structs nor `_index`, so a switch that shows it hides nothing.
-/

namespace ByteLayout

namespace Schema

mutual

/-- A schema for the round trip, inside structs whose field names are `outer`, where
expressions may read the names `vis`, and which may run to the end of its window if `tail`. -/
def WellFormed (outer vis : List String) (tail : Bool) : Schema → Prop
  | .number kind _ => kind.isFloat = false
  | .bytes length => length.ReadsFrom vis
  | .literal _ => True
  | .text _ none => tail = true
  | .text _ (some length) => length.ReadsFrom vis
  | .struct fields =>
    (fields.map Prod.fst).Nodup ∧
      (∀ n ∈ fields.map Prod.fst, n ≠ "" ∧ n ≠ Scope.indexName ∧ n ∉ outer) ∧
      FieldsWellFormed (outer ++ fields.map Prod.fst) vis tail fields
  | .array item count =>
    count.ReadsFrom vis ∧ WellFormed outer (Scope.indexName :: vis) false item
  | .greedy item => tail = true ∧ WellFormed outer vis false item
  | .switch on cases default =>
    on.ReadsFrom vis ∧ CasesWellFormed outer vis tail cases ∧
      DefaultWellFormed outer vis tail default
  | .sized inner _ => WellFormed outer vis false inner
  | .prefixed length inner => length.ReadsFrom vis ∧ WellFormed outer vis true inner

/-- The fields of a struct: each may read the fields before it, and only the last may run to
the end of the window. -/
def FieldsWellFormed (outer vis : List String) (tail : Bool) : List (String × Schema) → Prop
  | [] => True
  | f :: rest =>
    FieldWellFormed outer vis (tail && rest.isEmpty) f ∧
      FieldsWellFormed outer (vis ++ [f.1]) tail rest

/-- A field, or a case of a switch. -/
def FieldWellFormed (outer vis : List String) (tail : Bool) : String × Schema → Prop
  | (_, s) => WellFormed outer vis tail s

/-- The cases of a switch. -/
def CasesWellFormed (outer vis : List String) (tail : Bool) : List (String × Schema) → Prop
  | [] => True
  | c :: rest => FieldWellFormed outer vis tail c ∧ CasesWellFormed outer vis tail rest

/-- The default of a switch. -/
def DefaultWellFormed (outer vis : List String) (tail : Bool) : Option Schema → Prop
  | none => True
  | some d => WellFormed outer vis tail d

end

mutual

/-- A value of a schema as a parse gives it back, for a build in `scope`. -/
def Canonical (scope : Scope) : Schema → Value → Prop
  | .number kind _, v => if kind.isSigned then ∃ i, v = .signed i else ∃ n, v = .unsigned n
  | .bytes _, v => ∃ bs, v = .bytes bs
  | .literal expected, v => v = .bytes expected
  | .text encoding _, v =>
    ∃ str, v = .text str ∧ (encoding.toBytes str).bind encoding.toText = .ok str
  | .struct fields, v =>
    ∃ r, v = .record r ∧
      r = Record.ofList ((fields.map Prod.fst).map fun n => (n, (Record.get? r n).getD .null)) ∧
      FieldsCanonical (scope.push r) r fields
  | .array item _, v =>
    ∃ items, v = .array items ∧
      ∀ (i : Nat) (h : i < items.length),
        Canonical (scope.push (Scope.indexLayer i)) item (items.get ⟨i, h⟩)
  | .greedy item, v =>
    ∃ items, v = .array items ∧ ∀ x ∈ items, Canonical scope item x ∧ (write item x scope).2 ≠ []
  | .switch on cases default, v =>
    CasesCanonical (scope.push (v.fields?.getD [])) (on.key? (scope.push (v.fields?.getD [])))
        v cases ∧
      ((∀ c ∈ cases, on.key? (scope.push (v.fields?.getD [])) ≠ some c.1) →
        DefaultCanonical (scope.push (v.fields?.getD [])) v default)
  | .sized inner _, v => Canonical scope inner v
  | .prefixed length inner, v =>
    Canonical scope inner v ∧ length.resolveStrict scope = .ok (write inner v scope).2.length

/-- Every field of a struct has a value in the record, canonical for its schema. -/
def FieldsCanonical (scope : Scope) (r : Record) : List (String × Schema) → Prop
  | [] => True
  | f :: rest => FieldCanonical scope r f ∧ FieldsCanonical scope r rest

/-- A field has a value in the record, canonical for its schema. -/
def FieldCanonical (scope : Scope) (r : Record) : String × Schema → Prop
  | (n, s) => ∃ x, Record.get? r n = some x ∧ Canonical scope s x

/-- The value is canonical for the first case registered under the key. -/
def CasesCanonical (scope : Scope) (key : Option String) (v : Value) :
    List (String × Schema) → Prop
  | [] => True
  | c :: rest => CaseCanonical scope key v c ∧ (key ≠ some c.1 → CasesCanonical scope key v rest)

/-- The value is canonical for a case if the key selects it. -/
def CaseCanonical (scope : Scope) (key : Option String) (v : Value) : String × Schema → Prop
  | (k, s) => key = some k → Canonical scope s v

/-- The value is canonical for the default, which must exist. -/
def DefaultCanonical (scope : Scope) (v : Value) : Option Schema → Prop
  | none => False
  | some d => Canonical scope d v

end

lemma fieldWellFormed_iff {outer vis : List String} {tail : Bool} (f : String × Schema) :
    FieldWellFormed outer vis tail f ↔ f.2.WellFormed outer vis tail := by
  cases f
  rfl

lemma fieldCanonical_iff {scope : Scope} {r : Record} (f : String × Schema) :
    FieldCanonical scope r f ↔ ∃ x, r.get? f.1 = some x ∧ f.2.Canonical scope x := by
  cases f
  rfl

lemma caseCanonical_iff {scope : Scope} {key : Option String} {v : Value} (c : String × Schema) :
    CaseCanonical scope key v c ↔ (key = some c.1 → c.2.Canonical scope v) := by
  cases c
  rfl

lemma CasesWellFormed.of_mem {outer vis : List String} {tail : Bool}
    {cases : List (String × Schema)} (h : CasesWellFormed outer vis tail cases)
    {c : String × Schema} (hc : c ∈ cases) : c.2.WellFormed outer vis tail := by
  induction cases with
  | nil => cases hc
  | cons c' rest ih =>
    obtain ⟨hhead, hrest⟩ := h
    rcases List.mem_cons.1 hc with rfl | hmem
    · exact (fieldWellFormed_iff _).1 hhead
    · exact ih hrest hmem

/-- A switch's value is canonical for one of its cases or its default. -/
lemma canonical_of_cases {scope : Scope} {key : Option String} {v : Value}
    {cases : List (String × Schema)} {default : Option Schema}
    (hc : CasesCanonical scope key v cases)
    (hd : (∀ c ∈ cases, key ≠ some c.1) → DefaultCanonical scope v default) :
    (∃ c ∈ cases, c.2.Canonical scope v) ∨ (∃ d ∈ default, d.Canonical scope v) := by
  induction cases with
  | nil =>
    right
    rcases default with _ | d
    · exact (hd fun _ h => absurd h List.not_mem_nil).elim
    · exact ⟨d, rfl, hd fun _ h => absurd h List.not_mem_nil⟩
  | cons c rest ih =>
    obtain ⟨hhead, hrest⟩ := hc
    by_cases hk : key = some c.1
    · exact Or.inl ⟨c, List.mem_cons_self, (caseCanonical_iff c).1 hhead hk⟩
    · rcases ih (hrest hk) (fun hall => hd fun c' hc' => (List.mem_cons.1 hc').elim
        (fun h => h ▸ hk) (hall c')) with ⟨c', hmem, h⟩ | h
      · exact Or.inl ⟨c', List.mem_cons_of_mem _ hmem, h⟩
      · exact Or.inr h

/-- **What a switch shows hides nothing.** A canonical value that is a record has the fields of
a struct inside the schema, so it answers neither a field name of the structs around the schema
nor `_index`.

**Proof sketch.** Induction over the schema: a struct's record has its own field names only,
which avoid those names; sized regions and windows pass the value to their inner schema, and a
switch to the case its key selects; other values are not records. -/
theorem Canonical.get?_eq_none (s : Schema) {outer vis : List String} {tail : Bool}
    (hs : s.WellFormed outer vis tail) {scope : Scope} {v : Value} (hv : s.Canonical scope v)
    {r : Record} (hr : v.fields? = some r) {x : String} (hx : x ∈ outer ∨ x = Scope.indexName) :
    r.get? x = none := by
  induction s using Schema.induction generalizing outer vis tail scope v with
  | number kind order =>
    simp only [Canonical] at hv
    split at hv <;> obtain ⟨_, rfl⟩ := hv <;> cases hr
  | bytes length =>
    obtain ⟨_, rfl⟩ := hv
    cases hr
  | literal expected =>
    subst hv
    cases hr
  | text encoding length =>
    obtain ⟨_, rfl, _⟩ := hv
    cases hr
  | struct fields ih =>
    obtain ⟨r', rfl, hr', -⟩ := hv
    cases hr
    obtain ⟨-, hnames, -⟩ := hs
    rw [hr', Record.get?_ofList_map, if_neg]
    intro hmem
    obtain ⟨-, hidx, hout⟩ := hnames x hmem
    rcases hx with h | h
    · exact hout h
    · exact hidx h
  | array item count ih =>
    obtain ⟨_, rfl, _⟩ := hv
    cases hr
  | greedy item ih =>
    obtain ⟨_, rfl, _⟩ := hv
    cases hr
  | switch on cases default hc hd =>
    obtain ⟨-, hcases, hdefault⟩ := hs
    rcases canonical_of_cases hv.1 hv.2 with ⟨c, hmem, hcv⟩ | ⟨d, hmem, hdv⟩
    · exact hc c hmem (hcases.of_mem hmem) hcv hr hx
    · cases hmem
      exact hd d rfl hdefault hdv hr hx
  | sized inner total ih => exact ih hs hv hr hx
  | prefixed length inner ih => exact ih hs.2 hv.1 hr hx

end Schema

end ByteLayout
