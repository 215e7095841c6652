import ByteLayout.Proofs.Scan

set_option autoImplicit false

/-!
# The padding a parse skips

A sized region declares a total for its value; its parse reads the inner schema and then skips
the bytes up to that total. Those bytes are the region's padding: the parse reads nothing from
them, and a build writes zeros there. This module names where they are. `Schema.padding`
follows the parse of a schema from a cursor and collects the positions of the window that
every sized region inside it skips, in the order the parse meets them; `zeroAt` sets such
positions of some bytes to zero.

## Main definitions

* `ByteLayout.Schema.hasNode` — whether some node of a schema has a property, with
  `Schema.isSized` and `Schema.isPrefixed`.
* `ByteLayout.ParseM.itemsPadding`, `ByteLayout.ParseM.greedyPadding` — the padding of the
  items of counted and greedy repetitions.
* `ByteLayout.Schema.padding` — the positions a parse skips as padding.
* `ByteLayout.zeroAt` — bytes with some of their positions set to zero.
-/

namespace ByteLayout

namespace Schema

mutual

/-- Whether the schema or some node inside it satisfies `p`. -/
def hasNode (p : Schema → Bool) : Schema → Bool
  | .number kind order => p (.number kind order)
  | .bytes length => p (.bytes length)
  | .literal expected => p (.literal expected)
  | .text encoding length => p (.text encoding length)
  | .struct fields => p (.struct fields) || fieldsHaveNode p fields
  | .array item count => p (.array item count) || hasNode p item
  | .greedy item => p (.greedy item) || hasNode p item
  | .switch on cases default =>
    p (.switch on cases default) || fieldsHaveNode p cases || defaultHasNode p default
  | .sized inner total => p (.sized inner total) || hasNode p inner
  | .prefixed length inner => p (.prefixed length inner) || hasNode p inner

/-- Whether some schema of the fields, or of the cases, has a node satisfying `p`. -/
def fieldsHaveNode (p : Schema → Bool) : List (String × Schema) → Bool
  | [] => false
  | f :: rest => fieldHasNode p f || fieldsHaveNode p rest

/-- Whether the schema of a field, or of a case, has a node satisfying `p`. -/
def fieldHasNode (p : Schema → Bool) : String × Schema → Bool
  | (_, s) => hasNode p s

/-- Whether the default of a switch has a node satisfying `p`. -/
def defaultHasNode (p : Schema → Bool) : Option Schema → Bool
  | none => false
  | some d => hasNode p d

end

/-- A sized region. -/
def isSized : Schema → Bool
  | .sized _ _ => true
  | _ => false

/-- A window of a resolved length. -/
def isPrefixed : Schema → Bool
  | .prefixed _ _ => true
  | _ => false

lemma fieldsHaveNode_eq_false {p : Schema → Bool} {fields : List (String × Schema)}
    (h : fieldsHaveNode p fields = false) : ∀ f ∈ fields, f.2.hasNode p = false := by
  induction fields with
  | nil => intro f hf; cases hf
  | cons f' rest ih =>
    simp only [fieldsHaveNode, Bool.or_eq_false_iff] at h
    intro f hf
    rcases List.mem_cons.1 hf with rfl | hmem
    · obtain ⟨_, s⟩ := f
      exact h.1
    · exact ih h.2 f hmem

end Schema

namespace ParseM

/-- The padding of `k` items of a counted sequence from the item `i` on, each read by a function
of its index and its starting cursor and with padding given the same way. -/
def itemsPadding (item : Nat → Nat → Except Error Value × Nat) (pad : Nat → Nat → List Nat)
    (i : Nat) : Nat → Nat → List Nat
  | 0, _ => []
  | k + 1, off =>
    pad i off ++ match item i off with
      | (.ok _, o) => itemsPadding item pad (i + 1) k o
      | (.error _, _) => []

/-- The padding of the items a greedy repetition keeps: none of the attempt that fails. -/
def greedyPadding (item : Nat → Except Error Value × Nat) (pad : Nat → List Nat) (size off : Nat) :
    List Nat :=
  if off < size then
    match item off with
    | (.ok _, o) => if off < o then pad off ++ greedyPadding item pad size o else pad off
    | (.error _, _) => []
  else []
termination_by size - off

end ParseM

namespace Schema

open ParseM

mutual

/-- The positions of the window `data` that the parse of `s` from `off`, in `scope`, skips as
the padding of a sized region. -/
def padding : Schema → Array UInt8 → Scope → Nat → List Nat
  | .number _ _, _, _, _ => []
  | .bytes _, _, _, _ => []
  | .literal _, _, _, _ => []
  | .text _ _, _, _, _ => []
  | .struct fields, data, scope, off => fieldsPadding fields data scope [] off
  | .array item count, data, scope, off =>
    match count.resolveClamped scope with
    | .ok n =>
      itemsPadding (fun i => scan item data (scope.push (Scope.indexLayer i)))
        (fun i => padding item data (scope.push (Scope.indexLayer i))) 0 n off
    | .error _ => []
  | .greedy item, data, scope, off =>
    greedyPadding (scan item data scope) (padding item data scope) data.size off
  | .switch on cases default, data, scope, off =>
    casesPadding cases (on.key? scope) data scope off (defaultPadding default data scope off)
  | .sized inner total, data, scope, off =>
    padding inner data scope off ++ match scan inner data scope off with
      | (.ok v, o) => match declaredTotal total v with
        | .ok t => List.range' o (t - (o - off))
        | .error _ => []
      | (.error _, _) => []
  | .prefixed length inner, data, scope, off =>
    match length.resolveStrict scope with
    | .ok n => (padding inner (data.extract off (off + n)) scope 0).map (off + ·)
    | .error _ => []

/-- The padding of the fields of a struct, parsed after the record `acc`. -/
def fieldsPadding : List (String × Schema) → Array UInt8 → Scope → Record → Nat → List Nat
  | [], _, _, _, _ => []
  | f :: rest, data, scope, acc, off =>
    fieldPadding f data (scope.push acc) off ++ match scan f.2 data (scope.push acc) off with
      | (.ok v, o) => fieldsPadding rest data scope (Record.insert f.1 v acc) o
      | (.error _, _) => []

/-- The padding of a field, or of a case. -/
def fieldPadding : String × Schema → Array UInt8 → Scope → Nat → List Nat
  | (_, s), data, scope, off => padding s data scope off

/-- The padding of the case a key selects, or `dflt`, that of the default. -/
def casesPadding : List (String × Schema) → Option String → Array UInt8 → Scope → Nat →
    List Nat → List Nat
  | [], _, _, _, _, dflt => dflt
  | c :: rest, key, data, scope, off, dflt =>
    if key = some c.1 then fieldPadding c data scope off
    else casesPadding rest key data scope off dflt

/-- The padding of the default of a switch. -/
def defaultPadding : Option Schema → Array UInt8 → Scope → Nat → List Nat
  | none, _, _, _ => []
  | some d, data, scope, off => padding d data scope off

end

end Schema

/-- The bytes `bs`, which start at `start` of their window, with the positions in `pad` set to
zero. -/
def zeroAt (pad : List Nat) (start : Nat) (bs : Bytes) : Bytes :=
  bs.mapIdx fun i x => if start + i ∈ pad then 0 else x

namespace zeroAt

variable {pad pad' : List Nat} {start : Nat}

@[simp] lemma length (bs : Bytes) : (zeroAt pad start bs).length = bs.length := by
  simp [zeroAt]

@[simp] lemma nil_pad (bs : Bytes) : zeroAt [] start bs = bs := by
  apply List.ext_getElem (by simp)
  intro i h₁ h₂
  simp [zeroAt]

lemma append (xs ys : Bytes) :
    zeroAt pad start (xs ++ ys) = zeroAt pad start xs ++ zeroAt pad (start + xs.length) ys := by
  simp only [zeroAt, List.mapIdx_append]
  congr 2
  funext i x
  rw [Nat.add_assoc, Nat.add_comm i]

/-- Only the positions of the bytes themselves matter. -/
lemma congr (bs : Bytes) (h : ∀ i < bs.length, start + i ∈ pad ↔ start + i ∈ pad') :
    zeroAt pad start bs = zeroAt pad' start bs := by
  simp only [zeroAt]
  apply List.ext_getElem (by simp)
  intro i h₁ h₂
  simp only [List.getElem_mapIdx]
  rw [if_congr (h i (by simpa using h₁)) rfl rfl]

/-- Bytes all of whose positions are padding are zeros. -/
lemma all_pad (bs : Bytes) (h : ∀ i < bs.length, start + i ∈ pad) :
    zeroAt pad start bs = List.replicate bs.length 0 := by
  apply List.ext_getElem (by simp)
  intro i h₁ h₂
  simp only [zeroAt, List.getElem_mapIdx, List.getElem_replicate]
  rw [if_pos (h i (by simpa using h₁))]

end zeroAt

end ByteLayout
