import ByteLayout.Proofs.Rebuild

set_option autoImplicit false

/-!
# What each expression sees

Lengths and switch keys read names from a scope. A parse and a build start from the root scope,
one empty layer, and every node passes its children the scope it got, with at most one layer
more. Parsing, a struct shows the fields it has parsed so far (the later of two fields of one
name), and an array item shows its index as `_index`. Building, a struct shows its whole
record, an array item its index, and a switch the fields of the value it builds (none if that
is not a record). Switches, greedy ranges, sized regions and windows show nothing when
parsing, and greedy ranges, sized regions and windows nothing when building. A lookup finds
the innermost layer that has the name.

This module states that protocol for a node at any depth. A schema with a hole, `Ctx`, is the
chain of nodes around the node; `Ctx.scanWith` and `Ctx.writeWith` parse and build such a
schema given how the hole parses and builds, calling the hole with exactly the layers above.
The parse and the build of a whole schema are those, with the hole filled
(`scan_fill`, `write_fill`): the node, and every expression it evaluates, sees the root layer
and one layer for each enclosing struct and array item, and when building for each enclosing
switch; no layer from a sibling finished before it, from a struct nested in such a sibling,
from an earlier item or from a greedy attempt that was undone.

## Main definitions

* `ByteLayout.Schema.Ctx` — a schema with a hole, with `Ctx.fill`.
* `ByteLayout.Schema.Ctx.scanWith`, `ByteLayout.Schema.Ctx.writeWith` — the parse and the
  build around the hole.

## Main results

* `ByteLayout.Schema.scan_fill`, `ByteLayout.Schema.write_fill` — a parse and a build give each
  node the scope of the nodes around it.
* `ByteLayout.Schema.scope_visibility` — the same for a whole parse and a whole build, from the
  root scope.
* `ByteLayout.Schema.scanFields_layer_get?` — parsing, the layer of a struct answers no name
  that the fields parsed before have not.
-/

namespace ByteLayout

namespace Schema

open ParseM

/-- A schema with a hole in it, as the nodes around the hole from the outermost in: the field
`name` of a struct between the fields `before` and `after`, the items of an array or of a
greedy range, the case `key` of a switch or its default, the inside of a sized region or of a
window. -/
inductive Ctx where
  | hole
  | field (before : List (String × Schema)) (name : String) (inner : Ctx)
      (after : List (String × Schema))
  | item (inner : Ctx) (count : Length)
  | greedy (inner : Ctx)
  | case (on : SwitchOn) (before : List (String × Schema)) (key : String) (inner : Ctx)
      (after : List (String × Schema)) (default : Option Schema)
  | default (on : SwitchOn) (cases : List (String × Schema)) (inner : Ctx)
  | sized (inner : Ctx) (total : Value → Option Int64)
  | prefixed (length : Length) (inner : Ctx)

namespace Ctx

/-- The schema with `t` in the hole. -/
def fill : Ctx → Schema → Schema
  | .hole, t => t
  | .field before name inner after, t => .struct (before ++ (name, inner.fill t) :: after)
  | .item inner count, t => .array (inner.fill t) count
  | .greedy inner, t => .greedy (inner.fill t)
  | .case on before key inner after dflt, t =>
    .switch on (before ++ (key, inner.fill t) :: after) dflt
  | .default on cases inner, t => .switch on cases (some (inner.fill t))
  | .sized inner total, t => .sized (inner.fill t) total
  | .prefixed length inner, t => .prefixed length (inner.fill t)

/-- The first of some cases that a key selects. -/
def select (cases : List (String × Schema)) (key : Option String) : Option (String × Schema) :=
  cases.find? fun c => key = some c.1

/-- The parse of the schema around the hole, where `hole` parses the hole from a cursor of a
window in a scope. The hole of a struct's field is parsed in the scope with the record of the
fields before it, the hole of an array's item `i` in the scope with its index; the hole of a
greedy range, a switch, a sized region or a window in the scope of that node. -/
def scanWith (hole : Array UInt8 → Scope → Nat → Except Error Value × Nat) :
    Ctx → Array UInt8 → Scope → Nat → Except Error Value × Nat
  | .hole, data, scope, off => hole data scope off
  | .field before name inner after, data, scope, off =>
    andThen (scanFields before data scope [] off) fun w o =>
      andThen (inner.scanWith hole data (scope.push (w.fields?.getD [])) o) fun v o' =>
        scanFields after data scope (Record.insert name v (w.fields?.getD [])) o'
  | .item inner count, data, scope, off =>
    match count.resolveClamped scope with
    | .error e => (.error e, off)
    | .ok n =>
      andThen (itemsOutcome (fun i => inner.scanWith hole data (scope.push (Scope.indexLayer i)))
        0 n off) fun vs o => (.ok (.array vs), o)
  | .greedy inner, data, scope, off =>
    let r := greedyOutcome (inner.scanWith hole data scope) data.size off
    (.ok (.array r.1), r.2)
  | .case on before key inner after dflt, data, scope, off =>
    match select before (on.key? scope) with
    | some c => scan c.2 data scope off
    | none =>
      if on.key? scope = some key then inner.scanWith hole data scope off
      else scanCase after dflt (on.key? scope) data scope off
  | .default on cases inner, data, scope, off =>
    match select cases (on.key? scope) with
    | some c => scan c.2 data scope off
    | none => inner.scanWith hole data scope off
  | .sized inner total, data, scope, off =>
    andThen (inner.scanWith hole data scope off) fun v o =>
      match declaredTotal total v with
      | .error e => (.error e, o)
      | .ok t =>
        if t < o - off then (.error (.oversized t (o - off)), o)
        else if t - (o - off) > 0 then
          if t - (o - off) > data.size - o then
            (.error (.insufficientData (t - (o - off)) (data.size - o)), o)
          else (.ok v, o + (t - (o - off)))
        else (.ok v, o)
  | .prefixed length inner, data, scope, off =>
    match length.resolveStrict scope with
    | .error e => (.error e, off)
    | .ok n =>
      if n > data.size - off then (.error (.insufficientData n (data.size - off)), off)
      else match (inner.scanWith hole (data.extract off (off + n)) scope 0).1 with
        | .ok v => (.ok v, off + n)
        | .error e => (.error e, off)

/-- The build of the schema around the hole `t`, where `hole` builds a value of `t` in a
scope. The hole of a struct's field is built in the scope with the whole record, the hole of
an array's item `i` in the scope with its index, the hole of a switch in the scope with the
fields of the value; the hole of a greedy range, a sized region or a window in the scope of
that node. -/
def writeWith (t : Schema) (hole : Value → Scope → Except Error Unit × Bytes) :
    Ctx → Value → Scope → Except Error Unit × Bytes
  | .hole, v, scope => hole v scope
  | .field before name inner after, v, scope =>
    match v.fields? with
    | none => (.error (.invalidValue "struct" v.typeName), [])
    | some r =>
      BuildM.andThen (writeFields before r (scope.push r)) fun _ =>
        BuildM.andThen (match Record.get? r name with
          | some x => inner.writeWith t hole x (scope.push r)
          | none => writeMissing (inner.fill t) name) fun _ =>
          writeFields after r (scope.push r)
  | .item inner count, v, scope =>
    match v.items? with
    | none => (.error (.invalidValue "array" v.typeName), [])
    | some items => match count.resolveClamped scope with
      | .error e => (.error e, [])
      | .ok n =>
        if items.length ≠ n then (.error (.lengthMismatch "array" n items.length), [])
        else BuildM.itemsEmitted (fun i x => inner.writeWith t hole x
          (scope.push (Scope.indexLayer i))) 0 items
  | .greedy inner, v, scope =>
    match v.items? with
    | none => (.error (.invalidValue "array" v.typeName), [])
    | some items => BuildM.itemsEmitted (fun _ x => inner.writeWith t hole x scope) 0 items
  | .case on before key inner after dflt, v, scope =>
    match select before (on.key? (scope.push (v.fields?.getD []))) with
    | some c => write c.2 v (scope.push (v.fields?.getD []))
    | none =>
      if on.key? (scope.push (v.fields?.getD [])) = some key then
        inner.writeWith t hole v (scope.push (v.fields?.getD []))
      else writeCase after dflt (on.key? (scope.push (v.fields?.getD []))) v
        (scope.push (v.fields?.getD []))
  | .default on cases inner, v, scope =>
    match select cases (on.key? (scope.push (v.fields?.getD []))) with
    | some c => write c.2 v (scope.push (v.fields?.getD []))
    | none => inner.writeWith t hole v (scope.push (v.fields?.getD []))
  | .sized inner total, v, scope =>
    match inner.writeWith t hole v scope with
    | (.error e, _) => (.error e, [])
    | (.ok _, b) => match declaredTotal total v with
      | .error e => (.error e, [])
      | .ok n =>
        if b.length > n then (.error (.oversized n b.length), [])
        else (.ok (), b ++ List.replicate (n - b.length) 0)
  | .prefixed _ inner, v, scope =>
    match inner.writeWith t hole v scope with
    | (.error e, _) => (.error e, [])
    | (.ok _, b) => (.ok (), b)

end Ctx

/-! ### Splitting the fields and the cases -/

/-- The fields of a struct parse as the fields before a point, then the fields after it from
the record the first ones gave. -/
lemma scanFields_append (before after : List (String × Schema)) (data : Array UInt8)
    (scope : Scope) (acc : Record) (off : Nat) :
    scanFields (before ++ after) data scope acc off =
      andThen (scanFields before data scope acc off) fun w o =>
        scanFields after data scope (w.fields?.getD []) o := by
  induction before generalizing acc off with
  | nil => rw [List.nil_append, scanFields_nil, andThen_ok]; rfl
  | cons f rest ih =>
    obtain ⟨name, s⟩ := f
    rw [List.cons_append, scanFields_cons, scanFields_cons, andThen_assoc]
    congr 1
    funext v o
    exact ih _ _

lemma writeFields_append (before after : List (String × Schema)) (r : Record) (scope : Scope) :
    writeFields (before ++ after) r scope =
      BuildM.andThen (writeFields before r scope) fun _ => writeFields after r scope := by
  induction before with
  | nil => rw [List.nil_append, writeFields_nil, BuildM.andThen_ok]; rfl
  | cons f rest ih =>
    obtain ⟨name, s⟩ := f
    rw [List.cons_append, writeFields_cons, writeFields_cons, BuildM.andThen_assoc, ih]

/-- A switch takes the first case before a point that its key selects, else it goes on with
the cases after it. -/
lemma scanCase_append (before after : List (String × Schema)) (default : Option Schema)
    (key : Option String) (data : Array UInt8) (scope : Scope) (off : Nat) :
    scanCase (before ++ after) default key data scope off =
      match Ctx.select before key with
      | some c => scan c.2 data scope off
      | none => scanCase after default key data scope off := by
  induction before with
  | nil => rfl
  | cons c rest ih =>
    obtain ⟨k, s⟩ := c
    rw [List.cons_append, scanCase_cons]
    by_cases hk : key = some k
    · simp [Ctx.select, hk]
    · rw [if_neg hk, ih]
      simp [Ctx.select, hk]

lemma writeCase_append (before after : List (String × Schema)) (default : Option Schema)
    (key : Option String) (v : Value) (scope : Scope) :
    writeCase (before ++ after) default key v scope =
      match Ctx.select before key with
      | some c => write c.2 v scope
      | none => writeCase after default key v scope := by
  induction before with
  | nil => rfl
  | cons c rest ih =>
    obtain ⟨k, s⟩ := c
    rw [List.cons_append, writeCase_cons]
    by_cases hk : key = some k
    · simp [Ctx.select, hk]
    · rw [if_neg hk, ih]
      simp [Ctx.select, hk]

/-! ### A node at any depth -/

/-- **A parse gives each node the scope of the nodes around it.** The parse of a schema is the
parse around any of its nodes, with the node parsed in the scope that `Ctx.scanWith` gives it:
one layer more for each enclosing struct, the fields parsed before, and for each enclosing
array item, its index.

**Proof sketch.** Induction over the nodes around the hole; a struct's fields split at the
hole's field, a switch's cases at the hole's case. -/
theorem scan_fill (C : Ctx) (t : Schema) : scan (C.fill t) = C.scanWith (scan t) := by
  induction C with
  | hole => rfl
  | field before name inner after ih =>
    funext data scope off
    rw [Ctx.fill, scan_struct, scanFields_append, Ctx.scanWith]
    congr 1
    funext w o
    rw [scanFields_cons, ih]
  | item inner count ih =>
    funext data scope off
    -- what is left is the equation of `Ctx.scanWith` itself
    rw [Ctx.fill, scan_array, ih]
    rfl
  | greedy inner ih =>
    funext data scope off
    rw [Ctx.fill, scan_greedy, Ctx.scanWith, ih]
  | case on before key inner after dflt ih =>
    funext data scope off
    rw [Ctx.fill, scan_switch, scanCase_append, Ctx.scanWith]
    split
    · rfl
    · rw [scanCase_cons, ih]
  | default on cases inner ih =>
    funext data scope off
    rw [Ctx.fill, scan_switch, ← List.append_nil cases, scanCase_append, Ctx.scanWith,
      List.append_nil]
    split
    · rfl
    · rw [scanCase_nil]
      dsimp only
      rw [ih]
  | sized inner total ih =>
    funext data scope off
    rw [Ctx.fill, scan_sized, ih]
    rfl
  | prefixed length inner ih =>
    funext data scope off
    rw [Ctx.fill, scan_prefixed, ih]
    rfl

/-- **A build gives each node the scope of the nodes around it.** The build of a schema is the
build around any of its nodes, with the node built in the scope that `Ctx.writeWith` gives it:
one layer more for each enclosing struct, its whole record, for each enclosing array item, its
index, and for each enclosing switch, the fields of the value it builds.

**Proof sketch.** As for the parse: induction over the nodes around the hole. -/
theorem write_fill (C : Ctx) (t : Schema) : write (C.fill t) = C.writeWith t (write t) := by
  induction C with
  | hole => rfl
  | field before name inner after ih =>
    funext v scope
    rw [Ctx.fill, write_struct]
    simp only [writeFields_append, writeFields_cons, ih]
    rfl
  | item inner count ih =>
    funext v scope
    rw [Ctx.fill, write_array, ih]
    rfl
  | greedy inner ih =>
    funext v scope
    rw [Ctx.fill, write_greedy, ih]
    rfl
  | case on before key inner after dflt ih =>
    funext v scope
    rw [Ctx.fill, write_switch, writeCase_append, Ctx.writeWith]
    split
    · rfl
    · rw [writeCase_cons, ih]
  | default on cases inner ih =>
    funext v scope
    rw [Ctx.fill, write_switch, ← List.append_nil cases, writeCase_append, Ctx.writeWith,
      List.append_nil]
    split
    · rfl
    · rw [writeCase_nil]
      dsimp only
      rw [ih]
  | sized inner total ih =>
    funext v scope
    rw [Ctx.fill, write_sized, ih]
    rfl
  | prefixed length inner ih =>
    funext v scope
    rw [Ctx.fill, write_prefixed, ih]
    rfl

/-- **What each expression sees.** Around any node of a schema, a whole parse and a whole build
call the node in the scopes that `Ctx.scanWith` and `Ctx.writeWith` give it from the root
scope: the root layer, then one layer for each enclosing struct and array item, and when
building one for each enclosing switch, outermost first; a lookup tries them innermost first
(`Scope.get?_push`). -/
theorem scope_visibility (C : Ctx) (t : Schema) (input : Bytes) (v : Value) :
    (((C.fill t).parse input).1, ((C.fill t).parse input).2.offset) =
        C.scanWith (scan t) input.toArray Scope.root 0 ∧
      (((C.fill t).build v).1, ((C.fill t).build v).2.output.toList) =
        C.writeWith t (write t) v Scope.root := by
  constructor
  · rw [parse_eq_scan, scan_fill]
  · rw [build_eq_write, write_fill]

/-- Parsing, the layer a struct shows a field holds the fields parsed before it and no other
name: not the field's own, nor a later sibling's that no earlier one shares. -/
theorem scanFields_layer_get? {before : List (String × Schema)} {data : Array UInt8}
    {scope : Scope} {off : Nat} {w : Value} {o : Nat}
    (h : scanFields before data scope [] off = (.ok w, o)) {x : String}
    (hx : x ∉ before.map Prod.fst) : Record.get? (w.fields?.getD []) x = none := by
  obtain ⟨r, rfl, hr⟩ := scanFields_record h
  exact hr x hx

end Schema

end ByteLayout
