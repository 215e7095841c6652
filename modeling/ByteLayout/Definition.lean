import ByteLayout.Schema
/-!
# Schema definitions

A definition is the data form of a schema, as a configuration document states it: every
length is a fixed number or a field, every switch is on a field, and a sized region wraps a
struct whose total is one of its own fields. Compiling a definition checks it and gives the
schema it describes.

Compiling walks the definition depth first and stops at the first fault: a struct field name
that is empty or repeats an earlier one (checked before the field's own definition), a
literal whose hex does not read as bytes or that gives both or neither of hex and text, a
switch with neither cases nor a default (checked before its cases, which are compiled in the
order of their keys, then the default), and a sized region whose inner definition is not a
struct with a field of the declared name (checked before the inner definition).

## Main definitions

* `ByteLayout.LengthRef` — a length as a definition states it.
* `ByteLayout.Definition` — the definitions.
* `ByteLayout.ConfigError` — why a definition is refused.
* `ByteLayout.Definition.compile` — the schema a definition describes.
* `ByteLayout.Definition.numberKind?`, `ByteLayout.Definition.sortCases` — the number type a
  type name names, and switch cases in the order of their keys.
-/

namespace ByteLayout

/-- A length as a definition states it: a fixed number or a field. -/
inductive LengthRef where
  | fixed (n : Nat)
  | field (name : String)

/-- The length a definition's length stands for. -/
def LengthRef.toLength : LengthRef → Length
  | .fixed n => .fixed n
  | .field name => .field name

/-- A schema as a configuration document describes it. -/
inductive Definition where
  | number (kind : NumberKind) (order : ByteOrder)
  | bytes (length : LengthRef)
  | literal (hex : Option String) (text : Option String)
  | text (encoding : Encoding) (length : Option LengthRef)
  | struct (fields : List (String × Definition))
  | array (item : Definition) (count : LengthRef)
  | greedy (item : Definition)
  | switch (on : String) (cases : List (String × Definition)) (default : Option Definition)
  | sized (inner : Definition) (lengthField : String)
  | prefixed (length : LengthRef) (inner : Definition)

/-- Why a definition is refused. -/
inductive ConfigError where
  /-- A struct field name is empty or repeats an earlier one. -/
  | invalidFieldName (name : String)
  /-- A literal's hex does not read as bytes. -/
  | invalidLiteral (hex : String)
  /-- A literal gives both or neither of hex and text. -/
  | literalSource
  /-- A switch has neither cases nor a default. -/
  | emptySwitch (on : String)
  /-- A sized region's inner definition is not a struct with a field of this name. -/
  | invalidSizedField (name : String)
  /-- A document does not describe a definition. -/
  | malformed

/-- The text of a configuration error; a malformed document has none. -/
def ConfigError.message? : ConfigError → Option String
  | .invalidFieldName name => some s!"invalid field name: {Quoted.quote name}"
  | .invalidLiteral hex => some s!"invalid literal: {hex}"
  | .literalSource => some "invalid literal: exactly one of hex and text must be set"
  | .emptySwitch on => some s!"switch on {Quoted.quote on} has no cases and no default"
  | .invalidSizedField name =>
    some s!"sized length field {Quoted.quote name} is not a field of the wrapped struct"
  | .malformed => none

/-- The total of a sized region whose value declares it in the field `name`. -/
def fieldTotal (name : String) (v : Value) : Option Int64 :=
  (v.get? name).bind Value.toInt64?

namespace Definition

/-- Whether a definition is a struct with a field of the given name. -/
def hasField (d : Definition) (name : String) : Bool :=
  match d with
  | .struct fields => fields.any (·.1 == name)
  | _ => false

/-- The bytes of a literal definition, or why it is refused. -/
def literalBytes (hex utf8 : Option String) : Except ConfigError Bytes :=
  match hex, utf8 with
  | some h, none => match Hex.read? h with
    | some bs => .ok bs
    | none => .error (.invalidLiteral h)
  | none, some t => .ok (Utf8.encode t)
  | _, _ => .error .literalSource

mutual

/-- The schema a definition describes, or the first fault in it. -/
def compile (d : Definition) : Except ConfigError Schema :=
  match d with
  | .number kind order => .ok (.number kind order)
  | .bytes length => .ok (.bytes length.toLength)
  | .literal hex utf8 => (literalBytes hex utf8).map .literal
  | .text encoding length => .ok (.text encoding (length.map LengthRef.toLength))
  | .struct fields => (compileFields fields []).map .struct
  | .array item count => do
    let s ← item.compile
    pure (.array s count.toLength)
  | .greedy item => do
    let s ← item.compile
    pure (.greedy s)
  | .switch on cases default => do
    if cases.isEmpty ∧ default.isNone then throw (.emptySwitch on)
    let cs ← compileCases cases
    let dflt ← compileDefault default
    pure (.switch (.field on) cs dflt)
  | .sized inner lengthField => do
    if !inner.hasField lengthField then throw (.invalidSizedField lengthField)
    let s ← inner.compile
    pure (.sized s (fieldTotal lengthField))
  | .prefixed length inner => do
    let s ← inner.compile
    pure (.prefixed length.toLength s)
termination_by sizeOf d

/-- Compiles struct fields in order; `seen` holds the names before them. -/
def compileFields (fields : List (String × Definition)) (seen : List String) :
    Except ConfigError (List (String × Schema)) :=
  match fields with
  | [] => .ok []
  | (name, d) :: rest => do
    if name.isEmpty ∨ seen.contains name then throw (.invalidFieldName name)
    let s ← d.compile
    let ss ← compileFields rest (name :: seen)
    pure ((name, s) :: ss)
termination_by sizeOf fields

/-- Compiles switch cases in order. -/
def compileCases (cases : List (String × Definition)) :
    Except ConfigError (List (String × Schema)) :=
  match cases with
  | [] => .ok []
  | (key, d) :: rest => do
    let s ← d.compile
    let ss ← compileCases rest
    pure ((key, s) :: ss)
termination_by sizeOf cases

/-- Compiles a switch default, if there is one. -/
def compileDefault (default : Option Definition) : Except ConfigError (Option Schema) :=
  match default with
  | none => .ok none
  | some d => d.compile.map some
termination_by sizeOf default

end

/-- The number type a type name names. -/
def numberKind? : String → Option NumberKind
  | "uint8" => some .uint8 | "uint16" => some .uint16
  | "uint32" => some .uint32 | "uint64" => some .uint64
  | "int8" => some .int8 | "int16" => some .int16
  | "int32" => some .int32 | "int64" => some .int64
  | "float32" => some .float32 | "float64" => some .float64
  | _ => none

/-- Switch cases in the order a map by key holds them: ascending order of their keys. -/
def sortCases {α : Type} (cases : List (String × α)) : List (String × α) :=
  cases.mergeSort fun a b => decide (a.1 ≤ b.1)

end Definition

end ByteLayout
