import ByteLayout.Proofs.Write

set_option autoImplicit false

/-!
# Builds compose by concatenation

A build appends to one accumulator shared by a whole run. Nothing a node writes depends on
what the accumulator held before it: it appends exactly what it writes when run against an
empty accumulator in the same scope. A struct writes its fields one after another, and an
array or a greedy range its items, so what they write is the concatenation of what their
children write, in declaration and item order. A sized region and a window build their inner
schema against an accumulator of their own, which is put back whether that build succeeds or
fails; when either of them fails, it has appended nothing.

The scope of a build is an argument of `Schema.buildIn`, so every build returns with the
scope it was given, on success and on error alike; and the accumulator is one array, so the
count of bytes written is its size.

## Main definitions

* `ByteLayout.BuildM.sequence` — parts built one after another, stopping at the first failure.
* `ByteLayout.Schema.writeField` — what building one field of a struct from a record does.

## Main results

* `ByteLayout.BuildM.sequence_eq_ok` — a sequence succeeds when every part does, and then
  writes the concatenation of their bytes.
* `ByteLayout.Schema.writeFields_eq_sequence`, `ByteLayout.BuildM.itemsEmitted_eq_sequence` —
  the fields of a struct and the items of an array are such sequences.
* `ByteLayout.Schema.build_composes` — builds append what they write alone; structs, arrays
  and greedy ranges write the concatenation of their children; isolated builds restore the
  accumulator, and failed sized regions and windows append nothing.
-/

namespace ByteLayout

namespace BuildM

/-- Parts built one after another: the bytes of each part in order, up to and including the
first part that fails, whose error is the result. -/
def sequence : List (Except Error Unit × Bytes) → Except Error Unit × Bytes
  | [] => (.ok (), [])
  | r :: rs => andThen r fun _ => sequence rs

/-- A sequence succeeds exactly when every part does, and then writes the concatenation of
their bytes. -/
lemma sequence_eq_ok {rs : List (Except Error Unit × Bytes)} {b : Bytes} :
    sequence rs = (.ok (), b) ↔ (∀ r ∈ rs, r.1 = .ok ()) ∧ b = rs.flatMap Prod.snd := by
  induction rs generalizing b with
  | nil => simp [sequence, eq_comm]
  | cons r rs ih =>
    rw [sequence, andThen_eq_ok]
    constructor
    · rintro ⟨_, b₁, b₂, rfl, hrest, rfl⟩
      obtain ⟨hall, rfl⟩ := ih.1 hrest
      exact ⟨by simpa using hall, by simp⟩
    · rintro ⟨hall, rfl⟩
      have hr : r.1 = .ok () := hall r List.mem_cons_self
      have hrest : sequence rs = (.ok (), rs.flatMap Prod.snd) :=
        ih.2 ⟨fun x hx => hall x (List.mem_cons_of_mem r hx), rfl⟩
      exact ⟨(), r.2, rs.flatMap Prod.snd, by rw [← hr], hrest, by simp⟩

/-- The items of a sequence from the item `i` on are built as the sequence of the items, each
with its own index. -/
lemma itemsEmitted_eq_sequence (item : Nat → Value → Except Error Unit × Bytes) (i : Nat)
    (items : List Value) :
    itemsEmitted item i items = sequence (items.mapIdx fun j x => item (i + j) x) := by
  induction items generalizing i with
  | nil => rfl
  | cons x rest ih =>
    -- the item after `x` has index `i + 1 + j` on the left and `i + (j + 1)` on the right
    have hidx : (fun j y => item (i + 1 + j) y) = fun j y => item (i + (j + 1)) y := by
      funext j y
      rw [Nat.add_right_comm, Nat.add_assoc]
    simp only [itemsEmitted, ih, List.mapIdx_cons, sequence, Nat.add_zero, hidx]

/-- Items built without their index are the sequence of the items. -/
lemma itemsEmitted_eq_sequence_map (item : Value → Except Error Unit × Bytes) (i : Nat)
    (items : List Value) :
    itemsEmitted (fun _ x => item x) i items = sequence (items.map item) := by
  induction items generalizing i with
  | nil => rfl
  | cons x rest ih => simp only [itemsEmitted, ih, List.map_cons, sequence]

end BuildM

namespace Schema

open BuildM

/-- What building the field `f` of a struct from the record `r` returns and writes: the build of
the record's value under the field's name, or the build of a missing field. -/
def writeField (r : Record) (scope : Scope) (f : String × Schema) : Except Error Unit × Bytes :=
  match r.get? f.1 with
  | some x => write f.2 x scope
  | none => writeMissing f.2 f.1

lemma writeFields_eq_sequence (fields : List (String × Schema)) (r : Record) (scope : Scope) :
    writeFields fields r scope = sequence (fields.map (writeField r scope)) := by
  induction fields with
  | nil => exact writeFields_nil scope r
  | cons f rest ih =>
    rw [writeFields_cons, ih]
    rfl

/-- A struct writes a record as the sequence of its fields, all in the scope that shows the
record. -/
lemma write_struct_record (fields : List (String × Schema)) (r : Record) (scope : Scope) :
    write (.struct fields) (.record r) scope =
      sequence (fields.map (writeField r (scope.push r))) := by
  simp only [write_struct, Value.fields?, writeFields_eq_sequence]

/-- A greedy range writes its items as a sequence, all in its own scope. -/
lemma write_greedy_items (item : Schema) (items : List Value) (scope : Scope) :
    write (.greedy item) (.array items) scope =
      sequence (items.map fun x => write item x scope) := by
  simp only [write_greedy, Value.items?, itemsEmitted_eq_sequence_map]

/-- A sized region whose build fails has written nothing. -/
lemma write_sized_of_error {inner : Schema} {total : Value → Option Int64} {v : Value}
    {scope : Scope} (h : (write (.sized inner total) v scope).1.isOk = false) :
    (write (.sized inner total) v scope).2 = [] := by
  revert h
  rw [write_sized]
  rcases write inner v scope with ⟨_ | _, b⟩
  · simp
  · dsimp only
    rcases declaredTotal total v with e | t
    · simp
    · dsimp only
      split <;> simp [Except.isOk, Except.toBool]

/-- A window whose build fails has written nothing. -/
lemma write_prefixed_of_error {length : Length} {inner : Schema} {v : Value} {scope : Scope}
    (h : (write (.prefixed length inner) v scope).1.isOk = false) :
    (write (.prefixed length inner) v scope).2 = [] := by
  revert h
  rw [write_prefixed]
  rcases write inner v scope with ⟨_ | _, b⟩ <;> simp [Except.isOk, Except.toBool]

/-- A build whose writing alone appends nothing leaves the accumulator as it found it. -/
lemma output_eq_of_write_nil {s : Schema} {v : Value} {scope : Scope} (st : BuildState)
    (h : (write s v scope).2 = []) : (exec (s.buildIn v scope) st).2.output = st.output := by
  rw [((buildIn_emits s v scope) st).2, h]
  simp

/-- **Builds compose by concatenation.** From any state of the accumulator, whatever it holds
and whatever the trace, a schema's build returns what it returns against an empty accumulator
in the same scope, and appends exactly the bytes it writes there. A struct builds a record by
building each field in declaration order, an array and a greedy range their items in order:
each succeeds exactly when all of its children do, and then writes the concatenation of their
bytes (an array also needs its count to match). An isolated build returns the bytes its inner
build wrote, and puts the accumulator back whether that build succeeds or fails; so a sized
region or a window whose build fails appends nothing.

**Proof sketch.** The first part is `buildIn_emits`, by induction over schemas. The children
parts are the equations `write_struct_record`, `write_array` and `write_greedy_items` read
through `sequence_eq_ok`. The last parts are `exec_isolated`, and the equations of sized
regions and windows, whose failures all happen before they append. -/
theorem build_composes :
    (∀ (s : Schema) (v : Value) (scope : Scope) (st : BuildState),
      (exec (s.buildIn v scope) st).1 = (write s v scope).1 ∧
      (exec (s.buildIn v scope) st).2.output = st.output ++ (write s v scope).2.toArray) ∧
    (∀ (fields : List (String × Schema)) (r : Record) (scope : Scope) (b : Bytes),
      let children := fields.map (writeField r (scope.push r))
      write (.struct fields) (.record r) scope = (.ok (), b) ↔
        (∀ c ∈ children, c.1 = .ok ()) ∧ b = children.flatMap Prod.snd) ∧
    (∀ (item : Schema) (count : Length) (items : List Value) (scope : Scope) (b : Bytes),
      let children := items.mapIdx fun i x => write item x (scope.push (Scope.indexLayer i))
      write (.array item count) (.array items) scope = (.ok (), b) ↔
        count.resolveClamped scope = .ok items.length ∧
        (∀ c ∈ children, c.1 = .ok ()) ∧ b = children.flatMap Prod.snd) ∧
    (∀ (item : Schema) (items : List Value) (scope : Scope) (b : Bytes),
      let children := items.map fun x => write item x scope
      write (.greedy item) (.array items) scope = (.ok (), b) ↔
        (∀ c ∈ children, c.1 = .ok ()) ∧ b = children.flatMap Prod.snd) ∧
    (∀ (p : BuildM Unit) (st : BuildState),
      let r := exec p { st with output := #[] }
      (exec (isolated p) st).1 = r.1.map (fun _ => r.2.output.toList) ∧
      (exec (isolated p) st).2.output = st.output) ∧
    (∀ (inner : Schema) (total : Value → Option Int64) (v : Value) (scope : Scope)
      (st : BuildState), (exec ((Schema.sized inner total).buildIn v scope) st).1.isOk = false →
      (exec ((Schema.sized inner total).buildIn v scope) st).2.output = st.output) ∧
    (∀ (length : Length) (inner : Schema) (v : Value) (scope : Scope) (st : BuildState),
      (exec ((Schema.prefixed length inner).buildIn v scope) st).1.isOk = false →
      (exec ((Schema.prefixed length inner).buildIn v scope) st).2.output = st.output) := by
  refine ⟨fun s v scope st => buildIn_emits s v scope st, ?_, ?_, ?_, ?_, ?_, ?_⟩
  · intro fields r scope b
    exact (write_struct_record fields r scope).symm ▸ sequence_eq_ok
  · intro item count items scope b
    rw [write_array]
    simp only [Value.items?, itemsEmitted_eq_sequence, Nat.zero_add]
    rcases count.resolveClamped scope with e | n
    · simp
    · by_cases hn : items.length = n
      · subst hn
        simp only [ne_eq, not_true_eq_false, if_false, true_and]
        exact sequence_eq_ok
      · simp [hn, Ne.symm hn]
  · intro item items scope b
    exact (write_greedy_items item items scope).symm ▸ sequence_eq_ok
  · intro p st
    rw [exec_isolated]
    rcases exec p { st with output := #[] } with ⟨_ | _, s⟩ <;> simp [Except.map]
  · intro inner total v scope st h
    rw [(buildIn_emits _ v scope st).1] at h
    exact output_eq_of_write_nil st (write_sized_of_error h)
  · intro length inner v scope st h
    rw [(buildIn_emits _ v scope st).1] at h
    exact output_eq_of_write_nil st (write_prefixed_of_error h)

end Schema

end ByteLayout
