import ByteLayout.Definition
import ByteLayout.Json.Basic
import ByteLayout.Expr
import ByteLayout.Value.Tagged
/-!
# Documents with computed nodes

A schema document may go beyond definitions with computed nodes: little-endian number types
written `<type>_le`, and raw bytes, arrays, windows, text regions, switches and sized regions
whose lengths, keys or totals are expressions. A document with any computed node is assembled
node by node: structs, arrays, greedy repetitions, windows and switches are put together
directly and are not checked, so a struct may repeat a field name (the later field then
replaces the earlier one in the parsed record) and a switch may have no cases. Every other
node, a plain sized region with all inside it included, is read and compiled as a definition.
A document without computed nodes is read and compiled as a definition.

Reading a definition from a document, and base64, are not written here: the reader of
definitions and the base64 engine come from outside, as `Document.Readers`.

Expressions are written as JSON. An integer expression is an integer, or an object with one
of the members `const`, `int` (a field), `index`, `depth`, `len` (a field's size), `none`,
or `add`, `sub`, `mul`, `and` over a pair. A length is a non-negative integer, a field name,
an object naming a `field`, or an object holding an integer expression under `fn`. A key
expression is an object with one of `get`, `text_of`, `int`, `uint`, `value` (a tagged
value) or `none`. A total expression is an integer, or an object with one of `const`,
`get_int`, `get_uint`, `len`, `add` over a pair, or `none`.

## Main definitions

* `ByteLayout.IntExpr.ofJson?`, `KeyExpr.ofJson?`, `TotalExpr.ofJson?` — expressions as written.
* `ByteLayout.Document.Readers` — the reader of definitions and the base64 engine that reading a
  document uses.
* `ByteLayout.Schema.ofDocument` — the schema a document describes.
-/

namespace ByteLayout

/-- An integer written as a plain JSON integer. -/
def jsonInt? : Json → Option Int
  | .number n => n.toInt?
  | _ => none

/-- The integer expression a document states. -/
def IntExpr.ofJson? : Json → Option IntExpr
  | .number n => n.toInt?.map .const
  | .object [("const", j)] => (jsonInt? j).map .const
  | .object [("int", .string name)] => some (.field name)
  | .object [("index", .null)] => some .index
  | .object [("depth", .null)] => some .depth
  | .object [("len", .string name)] => some (.size name)
  | .object [("none", .null)] => some .nothing
  | .object [("add", .array [a, b])] => return .add (← IntExpr.ofJson? a) (← IntExpr.ofJson? b)
  | .object [("sub", .array [a, b])] => return .sub (← IntExpr.ofJson? a) (← IntExpr.ofJson? b)
  | .object [("mul", .array [a, b])] => return .mul (← IntExpr.ofJson? a) (← IntExpr.ofJson? b)
  | .object [("and", .array [a, b])] => return .bitAnd (← IntExpr.ofJson? a) (← IntExpr.ofJson? b)
  | _ => none

/-- The switch key expression a document states. -/
def KeyExpr.ofJson? : Json → Option KeyExpr
  | .object [("get", .string name)] => some (.get name)
  | .object [("text_of", .string name)] => some (.textOf name)
  | .object [("int", e)] => (IntExpr.ofJson? e).map .int
  | .object [("uint", e)] => (IntExpr.ofJson? e).map .uint
  | .object [("value", v)] => (Value.ofTagged? v).map .const
  | .object [("none", .null)] => some .nothing
  | _ => none

/-- The total expression a document states. -/
def TotalExpr.ofJson? : Json → Option TotalExpr
  | .number n => n.toInt?.map .const
  | .object [("const", j)] => (jsonInt? j).map .const
  | .object [("get_int", .string name)] => some (.getInt name)
  | .object [("get_uint", .string name)] => some (.getUInt name)
  | .object [("len", .null)] => some .size
  | .object [("add", .array [a, b])] => return .add (← TotalExpr.ofJson? a) (← TotalExpr.ofJson? b)
  | .object [("none", .null)] => some .nothing
  | _ => none

/-- The length a document states: a fixed number, a field, or a computed length. -/
def lengthOfJson? : Json → Option Length
  | .number n => n.toNat?.map .fixed
  | .string name => some (.field name)
  | .object [("field", .string name)] => some (.field name)
  | .object [("fn", e)] =>
    (IntExpr.ofJson? e).map fun e => .computed fun scope => (e.eval scope).map Int64.ofInt
  | _ => none

namespace Document

/-- Whether a type tag names a computed node. -/
def isComputedTag (tag : String) : Bool :=
  tag.endsWith "_le" ||
    ["bytes_fn", "array_fn", "prefixed_fn", "text_fn", "switch_fn", "switch_fixed",
      "sized_fn"].contains tag

mutual

/-- Whether a document holds a computed node anywhere. -/
def hasComputed : Json → Bool
  | .array items => hasComputedItems items
  | .object members => hasComputedMembers members
  | _ => false

/-- Whether some items hold a computed node. -/
def hasComputedItems : List Json → Bool
  | [] => false
  | j :: rest => hasComputed j || hasComputedItems rest

/-- Whether some members name a computed node or hold one. -/
def hasComputedMembers : List (String × Json) → Bool
  | [] => false
  | (k, j) :: rest =>
    (k == "type" && (j.str?.map isComputedTag).getD false) || hasComputed j ||
      hasComputedMembers rest

end

/-- A required member, or the fault of a document that does not describe a schema. -/
def need {α : Type} : Option α → Except ConfigError α
  | some a => .ok a
  | none => .error .malformed

/-- What reading documents takes from outside: the base64 engine of the text regions a document
describes, and the reader of definitions, which gives the definition a document states, if it
states one. -/
structure Readers where
  base64 : Base64Engine
  definition : Json → Option Definition

/-- The schema a definition document describes, read and compiled. -/
def compileDefinition (r : Readers) (j : Json) : Except ConfigError Schema := do
  let d ← need (r.definition j)
  d.compile

/-- The text encoding a computed text node names; UTF-8 when absent. -/
def encodingOf? (engine : Base64Engine) : Option Json → Option Encoding
  | none => some .utf8
  | some (.string "utf8") => some .utf8
  | some (.string "hex") => some .hex
  | some (.string "base64") => some (.base64 engine)
  | some _ => none

/-- The schema a document with computed nodes describes, node by node. -/
def assemble (r : Readers) (j : Json) : Except ConfigError Schema :=
  match j.field? "type" with
  | some (.string tag) =>
    if tag.endsWith "_le" then do
      let kind ← need (Definition.numberKind? (tag.dropEnd 3).toString)
      pure (.number kind .little)
    else match tag with
    | "bytes_fn" => do
      let length ← need ((j.field? "length").bind lengthOfJson?)
      pure (.bytes length)
    | "text_fn" => do
      let encoding ← need (encodingOf? r.base64 (j.field? "encoding"))
      let length ← match j.field? "length" with
        | none => pure none
        | some l => some <$> need (lengthOfJson? l)
      pure (.text encoding length)
    | "struct" =>
      match hf : j.field? "fields" with
      | some (.array items) => do
        let fields ← items.attach.mapM fun ⟨it, hm⟩ =>
          match it.field? "name", hs : it.field? "schema" with
          | some (.string name), some s =>
            have := Json.sizeOf_lt_of_item_field hf hm hs
            (assemble r s).map fun d => (name, d)
          | _, _ => .error .malformed
        pure (.struct fields)
      | _ => .error .malformed
    | "array" | "array_fn" =>
      match hi : j.field? "item" with
      | some item =>
        have := Json.sizeOf_lt_of_field? hi
        do
          let s ← assemble r item
          let count ← need ((j.field? "count").bind lengthOfJson?)
          pure (.array s count)
      | none => .error .malformed
    | "greedy_range" =>
      match hi : j.field? "item" with
      | some item =>
        have := Json.sizeOf_lt_of_field? hi
        (assemble r item).map .greedy
      | none => .error .malformed
    | "prefixed" | "prefixed_fn" =>
      match hi : j.field? "inner" with
      | some inner =>
        have := Json.sizeOf_lt_of_field? hi
        do
          let length ← need ((j.field? "length").bind lengthOfJson?)
          let s ← assemble r inner
          pure (.prefixed length s)
      | none => .error .malformed
    | "sized_fn" =>
      match hi : j.field? "inner" with
      | some inner =>
        have := Json.sizeOf_lt_of_field? hi
        do
          let s ← assemble r inner
          let total ← need ((j.field? "total").bind TotalExpr.ofJson?)
          pure (.sized s fun v => (total.eval v).map Int64.ofInt)
      | none => .error .malformed
    | "switch" | "switch_fn" | "switch_fixed" => do
      let on : SwitchOn ← match tag with
        | "switch" => .field <$> need ((j.field? "on").bind Json.str?)
        | "switch_fn" => do
          let e ← need ((j.field? "on").bind KeyExpr.ofJson?)
          pure (.computed fun scope => e.eval scope)
        | _ => .fixed <$> need ((j.field? "key").bind Json.str?)
      let cases ← match hc : j.field? "cases" with
        | none => pure []
        | some (.object members) =>
          members.attach.mapM fun ⟨(key, v), hm⟩ =>
            have := Json.sizeOf_lt_of_member_field hc hm
            (assemble r v).map fun s => (key, s)
        | some _ => .error .malformed
      let default ← match hd : j.field? "default" with
        | none | some .null => pure none
        | some v =>
          have := Json.sizeOf_lt_of_field? hd
          (assemble r v).map some
      pure (.switch on (Definition.sortCases cases) default)
    | _ => compileDefinition r j
  | _ => compileDefinition r j
termination_by sizeOf j

end Document

/-- The schema a document describes: assembled node by node if it holds a computed node,
else read and compiled as a definition. -/
def Schema.ofDocument (r : Document.Readers) (j : Json) : Except ConfigError Schema :=
  if Document.hasComputed j then Document.assemble r j else Document.compileDefinition r j

end ByteLayout
