import Mathlib
import ByteLayout.Definition

set_option autoImplicit false

/-!
# Checking definitions

A definition is accepted when every node of it is well formed: the field names of a struct are
not empty and are distinct, a literal gives exactly one of hex and text and its hex reads as
bytes, a switch has a case or a default, and a sized region wraps a struct that has the field
named as its length. `Definition.WellFormed` states this node by node, with no order in it.

Compiling checks the nodes depth first and stops at the first fault. `Definition.faults` lists
every fault of a definition in that order: at a struct, each field's name and then the field's
own definition, in declaration order; at a switch, its emptiness and then its cases in the order
the definition lists them (by key, for a definition read from a document), then its default; at
a sized region, the shape of what it wraps and then that definition; at an array, a greedy
range or a window, the definition inside.

## Main definitions

* `ByteLayout.Definition.WellFormed` — every node of a definition is well formed.
* `ByteLayout.Definition.faults` — the faults of a definition, in the order compiling checks
  them.

## Main results

* `ByteLayout.Definition.faults_eq_nil_iff` — a definition has no faults exactly when it is
  well formed.
* `ByteLayout.Definition.compile_first_fault` — compiling succeeds exactly on well-formed
  definitions, and otherwise reports the first fault.
* `ByteLayout.Definition.pairwise_sortCases` — cases held by key come in ascending order of
  their keys.
-/

namespace ByteLayout

namespace Definition

/-- Induction over definitions, where the children of a struct are its fields and those of a
switch are its cases and its default. -/
theorem induction {motive : Definition → Prop}
    (number : ∀ kind order, motive (.number kind order))
    (bytes : ∀ length, motive (.bytes length))
    (literal : ∀ hex utf8, motive (.literal hex utf8))
    (text : ∀ encoding length, motive (.text encoding length))
    (struct : ∀ fields, (∀ f ∈ fields, motive f.2) → motive (.struct fields))
    (array : ∀ item count, motive item → motive (.array item count))
    (greedy : ∀ item, motive item → motive (.greedy item))
    (switch : ∀ on cases default, (∀ c ∈ cases, motive c.2) → (∀ d ∈ default, motive d) →
      motive (.switch on cases default))
    (sized : ∀ inner lengthField, motive inner → motive (.sized inner lengthField))
    (prefixed : ∀ length inner, motive inner → motive (.prefixed length inner))
    (d : Definition) : motive d :=
  @Definition.rec motive (fun fs => ∀ f ∈ fs, motive f.2) (fun d => ∀ x ∈ d, motive x)
    (fun f => motive f.2) number bytes literal text struct array greedy switch sized prefixed
    (fun _ h => absurd h List.not_mem_nil)
    (fun _ _ hd htl f hf => (List.mem_cons.1 hf).elim (fun h => h ▸ hd) (htl f))
    (fun _ h => absurd h (by simp))
    (fun _ h x hx => by cases hx; exact h)
    (fun _ _ h => h) d

/-! ### Well-formed definitions -/

/-- Every node of a definition is well formed. -/
inductive WellFormed : Definition → Prop
  | number (kind : NumberKind) (order : ByteOrder) : WellFormed (.number kind order)
  | bytes (length : LengthRef) : WellFormed (.bytes length)
  /-- A literal given as hex that reads as bytes. -/
  | literalHex (hex : String) : (Hex.read? hex).isSome → WellFormed (.literal (some hex) none)
  /-- A literal given as text. -/
  | literalText (utf8 : String) : WellFormed (.literal none (some utf8))
  | text (encoding : Encoding) (length : Option LengthRef) : WellFormed (.text encoding length)
  /-- Field names are not empty and are distinct. -/
  | struct (fields : List (String × Definition)) :
      (∀ f ∈ fields, f.1 ≠ "") → (fields.map Prod.fst).Nodup → (∀ f ∈ fields, WellFormed f.2) →
      WellFormed (.struct fields)
  | array (item : Definition) (count : LengthRef) : WellFormed item → WellFormed (.array item count)
  | greedy (item : Definition) : WellFormed item → WellFormed (.greedy item)
  /-- A switch has a case or a default. -/
  | switch (on : String) (cases : List (String × Definition)) (default : Option Definition) :
      (cases ≠ [] ∨ default.isSome) → (∀ c ∈ cases, WellFormed c.2) →
      (∀ d ∈ default, WellFormed d) → WellFormed (.switch on cases default)
  /-- A sized region wraps a struct with a field of the name its length is read from. -/
  | sized (inner : Definition) (lengthField : String) :
      (∃ fields, inner = .struct fields ∧ lengthField ∈ fields.map Prod.fst) → WellFormed inner →
      WellFormed (.sized inner lengthField)
  | prefixed (length : LengthRef) (inner : Definition) :
      WellFormed inner → WellFormed (.prefixed length inner)

/-! ### The faults of a definition, in order -/

/-- The fault of a literal's sources: both or neither given, or hex that does not read. -/
def literalFaults (hex utf8 : Option String) : List ConfigError :=
  match hex, utf8 with
  | some h, none => if (Hex.read? h).isSome then [] else [.invalidLiteral h]
  | none, some _ => []
  | _, _ => [.literalSource]

mutual

/-- The faults of a definition, depth first, in the order compiling checks them. -/
def faults : Definition → List ConfigError
  | .number .. => []
  | .bytes _ => []
  | .literal hex utf8 => literalFaults hex utf8
  | .text .. => []
  | .struct fields => fieldsFaults fields []
  | .array item _ => faults item
  | .greedy item => faults item
  | .switch on cases default =>
    (if cases.isEmpty ∧ default.isNone then [.emptySwitch on] else []) ++ casesFaults cases ++
      defaultFaults default
  | .sized inner lengthField =>
    (if !inner.hasField lengthField then [.invalidSizedField lengthField] else []) ++ faults inner
  | .prefixed _ inner => faults inner

/-- The faults of struct fields after the names `seen`: each field's name, then its
definition. -/
def fieldsFaults : List (String × Definition) → List String → List ConfigError
  | [], _ => []
  | f :: rest, seen => fieldFaults f seen ++ fieldsFaults rest (f.1 :: seen)

/-- The faults of one field after the names `seen`. -/
def fieldFaults : String × Definition → List String → List ConfigError
  | (name, d), seen =>
    (if name.isEmpty ∨ seen.contains name then [.invalidFieldName name] else []) ++ faults d

/-- The faults of the cases of a switch, in order. -/
def casesFaults : List (String × Definition) → List ConfigError
  | [] => []
  | c :: rest => caseFaults c ++ casesFaults rest

/-- The faults of one case of a switch. -/
def caseFaults : String × Definition → List ConfigError
  | (_, d) => faults d

/-- The faults of the default of a switch, if it has one. -/
def defaultFaults : Option Definition → List ConfigError
  | none => []
  | some d => faults d

end

/-! ### Compiling reports the first fault -/

/-- What a run of checks gives when its faults are listed in order: the first fault, if any. -/
def verdict : List ConfigError → Except ConfigError Unit
  | [] => .ok ()
  | e :: _ => .error e

/-- What a compilation says of a definition, without the schema it gives. -/
def discard {α : Type} (r : Except ConfigError α) : Except ConfigError Unit :=
  r.map fun _ => ()

section Discard

variable {α β : Type}

lemma verdict_append (xs ys : List ConfigError) :
    verdict (xs ++ ys) = verdict xs >>= fun _ => verdict ys := by
  cases xs <;> rfl

@[simp] lemma discard_map (r : Except ConfigError α) (g : α → β) :
    discard (r.map g) = discard r := by
  cases r <;> rfl

/-- A compilation in two steps says what its first step says, then what its second does. -/
lemma discard_bind {x : Except ConfigError α} {f : α → Except ConfigError β}
    {vx vf : Except ConfigError Unit} (hx : discard x = vx) (hf : ∀ a, discard (f a) = vf) :
    discard (x >>= f) = vx >>= fun _ => vf := by
  subst hx
  cases x with
  | error e => rfl
  | ok a => exact hf a

/-- A compilation that ends by building its result says what its first step says. -/
lemma discard_bind_pure (x : Except ConfigError α) (g : α → β) :
    discard (x >>= fun a => pure (g a)) = discard x := by
  cases x <;> rfl

/-- A check before a compilation: its fault if it fails, what follows if it passes. -/
lemma discard_guard {c : Prop} [Decidable c] {e : ConfigError} {k : Unit → Except ConfigError α}
    {vk : Except ConfigError Unit} (hk : discard (k ()) = vk) :
    discard (if c then throw e >>= k else k ()) = verdict (if c then [e] else []) >>= fun _ => vk := by
  by_cases hc : c
  · simp only [if_pos hc]
    rfl
  · simp only [if_neg hc]
    exact hk

end Discard

lemma discard_literalBytes (hex utf8 : Option String) :
    discard (literalBytes hex utf8) = verdict (literalFaults hex utf8) := by
  rcases hex with _ | h <;> rcases utf8 with _ | t
  · rfl
  · rfl
  · simp only [literalBytes, literalFaults]
    rcases Hex.read? h with _ | bs <;> rfl
  · rfl

/-- **Compiling reports the first fault.** A definition compiles exactly when it has no fault,
and otherwise fails with the first of its faults, in the order they are listed.

**Proof sketch.** Induction over the definition: each node's compilation runs its own check,
then compiles its children in order and stops at the first failure; `faults` lists the same
checks in the same order, and `verdict` of a concatenation is the verdicts in sequence. -/
theorem discard_compile (d : Definition) : discard d.compile = verdict d.faults := by
  induction d using Definition.induction with
  | number kind order => rw [compile, faults]; rfl
  | bytes length => rw [compile, faults]; rfl
  | literal hex utf8 =>
    rw [compile, discard_map, discard_literalBytes, faults]
  | text encoding length => rw [compile, faults]; rfl
  | struct fields ih =>
    rw [compile, discard_map, faults]
    -- the fields in order, after the names of the fields before them
    suffices h : ∀ seen, discard (compileFields fields seen) = verdict (fieldsFaults fields seen)
      from h []
    induction fields with
    | nil =>
      intro seen
      rw [compileFields, fieldsFaults]
      rfl
    | cons f rest ihrest =>
      intro seen
      obtain ⟨name, d⟩ := f
      rw [compileFields, fieldsFaults, fieldFaults, List.append_assoc, verdict_append,
        verdict_append]
      exact discard_guard (discard_bind (ih _ List.mem_cons_self) fun _ =>
        (discard_bind_pure _ _).trans (ihrest (fun f hf => ih f (List.mem_cons_of_mem _ hf)) _))
  | array item count ih => rw [compile, faults, discard_bind_pure, ih]
  | greedy item ih => rw [compile, faults, discard_bind_pure, ih]
  | switch on cases default hc hd =>
    have hcases : discard (compileCases cases) = verdict (casesFaults cases) := by
      induction cases with
      | nil =>
        rw [compileCases, casesFaults]
        rfl
      | cons c rest ihrest =>
        obtain ⟨key, d⟩ := c
        rw [compileCases, casesFaults, caseFaults, verdict_append]
        exact discard_bind (hc _ List.mem_cons_self) fun _ =>
          (discard_bind_pure _ _).trans (ihrest fun c hc' => hc c (List.mem_cons_of_mem _ hc'))
    have hdefault : discard (compileDefault default) = verdict (defaultFaults default) := by
      rcases default with _ | d
      · rw [compileDefault, defaultFaults]
        rfl
      · rw [compileDefault, defaultFaults, discard_map]
        exact hd d rfl
    rw [compile, faults, List.append_assoc, verdict_append, verdict_append]
    exact discard_guard (discard_bind hcases fun _ => (discard_bind_pure _ _).trans hdefault)
  | sized inner lengthField ih =>
    rw [compile, faults, verdict_append]
    exact discard_guard ((discard_bind_pure _ _).trans ih)
  | prefixed length inner ih => rw [compile, faults, discard_bind_pure, ih]

/-! ### No faults is well formed -/

lemma hasField_iff (d : Definition) (name : String) :
    d.hasField name = true ↔ ∃ fields, d = .struct fields ∧ name ∈ fields.map Prod.fst := by
  cases d <;> simp [hasField]

lemma fieldFaults_eq_nil_iff (f : String × Definition) (seen : List String) :
    fieldFaults f seen = [] ↔ (f.1 ≠ "" ∧ f.1 ∉ seen) ∧ f.2.faults = [] := by
  obtain ⟨name, d⟩ := f
  rw [fieldFaults, List.append_eq_nil_iff]
  simp [String.isEmpty_iff]

/-- The fields of a struct after the names `seen` have no faults exactly when their names are
not empty, are not among `seen` and are distinct, and their definitions have no faults. -/
lemma fieldsFaults_eq_nil_iff (fields : List (String × Definition)) (seen : List String) :
    fieldsFaults fields seen = [] ↔
      (∀ f ∈ fields, f.1 ≠ "" ∧ f.1 ∉ seen) ∧ (fields.map Prod.fst).Nodup ∧
        ∀ f ∈ fields, f.2.faults = [] := by
  induction fields generalizing seen with
  | nil => simp [fieldsFaults]
  | cons f rest ih =>
    rw [fieldsFaults, List.append_eq_nil_iff, fieldFaults_eq_nil_iff, ih]
    simp only [List.mem_cons, forall_eq_or_imp, not_or, List.map_cons, List.nodup_cons,
      List.mem_map, not_exists, not_and]
    -- the first name must differ from the later ones, which is what the names seen record
    constructor
    · rintro ⟨⟨hname, hd⟩, hrest, hnodup, hfaults⟩
      exact ⟨⟨hname, fun g hg => ⟨(hrest g hg).1, (hrest g hg).2.2⟩⟩,
        ⟨fun g hg => (hrest g hg).2.1, hnodup⟩, hd, hfaults⟩
    · rintro ⟨⟨hname, hrest⟩, ⟨hdistinct, hnodup⟩, hd, hfaults⟩
      exact ⟨⟨hname, hd⟩, fun g hg => ⟨(hrest g hg).1, hdistinct g hg, (hrest g hg).2⟩, hnodup,
        hfaults⟩

lemma casesFaults_eq_nil_iff (cases : List (String × Definition)) :
    casesFaults cases = [] ↔ ∀ c ∈ cases, c.2.faults = [] := by
  induction cases with
  | nil => simp [casesFaults]
  | cons c rest ih =>
    obtain ⟨key, d⟩ := c
    simp [casesFaults, caseFaults, ih]

lemma defaultFaults_eq_nil_iff (default : Option Definition) :
    defaultFaults default = [] ↔ ∀ d ∈ default, d.faults = [] := by
  cases default <;> simp [defaultFaults]

/-- **No faults is well formed.** A definition has no faults exactly when every node of it is
well formed.

**Proof sketch.** Induction over the definition: a node has no faults when its own check passes
and its children have none; the checks of a struct's names against the names before them
amount to names that are not empty and distinct. -/
theorem faults_eq_nil_iff (d : Definition) : d.faults = [] ↔ d.WellFormed := by
  induction d using Definition.induction with
  | number kind order => exact ⟨fun _ => .number kind order, fun _ => by rw [faults]⟩
  | bytes length => exact ⟨fun _ => .bytes length, fun _ => by rw [faults]⟩
  | literal hex utf8 =>
    rw [faults]
    rcases hex with _ | h <;> rcases utf8 with _ | t
    · exact ⟨fun h => absurd h (by simp [literalFaults]), fun h => by cases h⟩
    · exact ⟨fun _ => .literalText t, fun _ => rfl⟩
    · simp only [literalFaults]
      exact ⟨fun hh => .literalHex h (by by_contra hn; simp [hn] at hh),
        fun hw => by cases hw with | literalHex _ hh => simp [hh]⟩
    · exact ⟨fun h => absurd h (by simp [literalFaults]), fun h => by cases h⟩
  | text encoding length => exact ⟨fun _ => .text encoding length, fun _ => by rw [faults]⟩
  | struct fields ih =>
    rw [faults, fieldsFaults_eq_nil_iff]
    constructor
    · rintro ⟨hnames, hnodup, hsub⟩
      exact .struct fields (fun f hf => (hnames f hf).1) hnodup fun f hf => (ih f hf).1 (hsub f hf)
    · intro hw
      cases hw with
      | struct _ hnames hnodup hsub =>
        exact ⟨fun f hf => ⟨hnames f hf, List.not_mem_nil⟩, hnodup,
          fun f hf => (ih f hf).2 (hsub f hf)⟩
  | array item count ih =>
    rw [faults, ih]
    exact ⟨.array item count, fun hw => by cases hw; assumption⟩
  | greedy item ih =>
    rw [faults, ih]
    exact ⟨.greedy item, fun hw => by cases hw; assumption⟩
  | switch on cases default hc hd =>
    rw [faults, List.append_eq_nil_iff, List.append_eq_nil_iff, casesFaults_eq_nil_iff,
      defaultFaults_eq_nil_iff]
    -- the emptiness check passes when there is a case or a default
    have hcheck : (if cases.isEmpty = true ∧ default.isNone = true then [ConfigError.emptySwitch on]
        else []) = [] ↔ cases ≠ [] ∨ default.isSome := by
      cases cases <;> cases default <;> simp
    rw [hcheck]
    constructor
    · rintro ⟨⟨hnonempty, hcases⟩, hdefault⟩
      exact .switch on cases default hnonempty (fun c hc' => (hc c hc').1 (hcases c hc'))
        fun d hd' => (hd d hd').1 (hdefault d hd')
    · intro hw
      cases hw with
      | switch _ _ _ hnonempty hcases hdefault =>
        exact ⟨⟨hnonempty, fun c hc' => (hc c hc').2 (hcases c hc')⟩,
          fun d hd' => (hd d hd').2 (hdefault d hd')⟩
  | sized inner lengthField ih =>
    rw [faults, List.append_eq_nil_iff, ih]
    -- the shape check passes when the wrapped definition is a struct with the field
    have hcheck : (if (!inner.hasField lengthField) = true then
        [ConfigError.invalidSizedField lengthField] else []) = [] ↔
        ∃ fields, inner = .struct fields ∧ lengthField ∈ fields.map Prod.fst := by
      rw [← hasField_iff]
      cases inner.hasField lengthField <;> simp
    rw [hcheck]
    exact ⟨fun ⟨hshape, hinner⟩ => .sized inner lengthField hshape hinner,
      fun hw => by cases hw with | sized _ _ hshape hinner => exact ⟨hshape, hinner⟩⟩
  | prefixed length inner ih =>
    rw [faults, ih]
    exact ⟨.prefixed length inner, fun hw => by cases hw; assumption⟩

lemma verdict_eq_ok_iff (xs : List ConfigError) : verdict xs = .ok () ↔ xs = [] := by
  cases xs <;> simp [verdict]

lemma verdict_eq_error_iff (xs : List ConfigError) (e : ConfigError) :
    verdict xs = .error e ↔ xs.head? = some e := by
  cases xs <;> simp [verdict]

/-- **Compiling accepts exactly the well-formed definitions and reports the first fault.** A
definition compiles exactly when every node of it is well formed; otherwise compiling fails
with the first of its faults in depth-first order: at a struct, each field's name check and
then the field's definition, in declaration order; at a switch, the emptiness check, then the
cases in the order the definition lists them, then the default; at a sized region, the shape
check and then the wrapped definition; at an array, a greedy range or a window, the definition
inside. A definition read from a document lists a switch's cases in the order of their keys
(`sortCases`, `pairwise_sortCases`).

**Proof sketch.** `discard_compile` gives the outcome of compiling as the verdict of the
faults, and `faults_eq_nil_iff` makes no faults well formed. -/
theorem compile_first_fault (d : Definition) :
    ((∃ s, d.compile = .ok s) ↔ d.WellFormed) ∧
    ∀ e, d.compile = .error e ↔ d.faults.head? = some e := by
  have h := discard_compile d
  refine ⟨?_, fun e => ?_⟩
  · rw [← faults_eq_nil_iff, ← verdict_eq_ok_iff, ← h]
    cases d.compile <;> simp [discard, Except.map]
  · rw [← verdict_eq_error_iff, ← h]
    cases d.compile <;> simp [discard, Except.map]

/-! ### The order of switch cases -/

/-- Switch cases in the order a map by key holds them come in ascending order of their keys. A
definition read from a document holds its cases so, and `compile_first_fault` then reports the
faults of its cases in that order. -/
lemma pairwise_sortCases {α : Type} (cases : List (String × α)) :
    (sortCases cases).Pairwise (fun a b => a.1 ≤ b.1) := by
  have h : (sortCases cases).Pairwise (fun a b => decide (a.1 ≤ b.1) = true) :=
    List.pairwise_mergeSort
      (fun a b c hab hbc => by simpa using String.le_trans (by simpa using hab) (by simpa using hbc))
      (fun a b => by simpa using String.le_total a.1 b.1) cases
  simpa using h

end Definition

end ByteLayout
