import ByteLayout.Schema
/-!
# Building

Building writes a value as bytes. Each node first converts the value to what it writes (a
number, bytes, text, a record or a list of items) and fails before writing anything if it
cannot; then it writes its bytes after everything written so far. Inside a struct the whole
record is visible, so an expression may read a field declared after it; each array item sees
its index, and a switch sees the fields of the value it writes. Sized regions and windows
build their inner schema apart and then write the result, so a failure inside them writes
nothing.

The trace follows the same rules as when parsing, and is recorded only when it is on.

## Main definitions

* `ByteLayout.BuildState` — the bytes written and the trace.
* `ByteLayout.BuildM` — the building monad, with `emit` and `isolated`.
* `ByteLayout.Schema.buildIn` — a schema's build of a value, in a scope.
* `ByteLayout.Schema.build`, `ByteLayout.Schema.buildDebug` — a schema's build of a value from
  nothing, with the trace off and on.
-/

namespace ByteLayout

/-- The moving part of a build: the bytes written, whether the trace is on, the nesting depth
of the trace and the trace so far. -/
structure BuildState where
  output : Array UInt8 := #[]
  debug : Bool := false
  depth : Nat := 0
  trace : Array Nat := #[]

/-- The state with a trace entry at the current depth, if the trace is on. -/
def BuildState.note (st : BuildState) : BuildState :=
  if st.debug then { st with trace := st.trace.push st.depth } else st

/-- Building: a computation on the build state that may fail with an error. -/
abbrev BuildM := ExceptT Error (StateM BuildState)

namespace BuildM

/-- Writes bytes after everything written so far. -/
def emit (bs : Bytes) : BuildM Unit :=
  modify fun st => { st with output := st.output ++ bs.toArray }

/-- Records a trace entry at the current depth, if the trace is on. -/
def log : BuildM Unit :=
  modify BuildState.note

/-- Runs a build and returns its outcome instead of failing. -/
def attempt {α : Type} (p : BuildM α) : BuildM (Except Error α) :=
  tryCatch (Except.ok <$> p) fun e => pure (.error e)

/-- With the trace on, runs a build between an entry at the current depth and an entry after
returning to it; with the trace off, runs it as it is. -/
def traced {α : Type} (p : BuildM α) : BuildM α := do
  if (← get).debug then
    modify fun st => { st with trace := st.trace.push st.depth, depth := st.depth + 1 }
    let r ← attempt p
    modify fun st => { st with depth := st.depth - 1, trace := st.trace.push (st.depth - 1) }
    MonadExcept.ofExcept r
  else p

/-- Runs a build against empty output and returns what it wrote, leaving the output as it was. -/
def isolated (p : BuildM Unit) : BuildM Bytes := do
  let saved := (← get).output
  modify fun st => { st with output := #[] }
  let r ← attempt p
  let inner := (← get).output
  modify fun st => { st with output := saved }
  MonadExcept.ofExcept r
  return inner.toList

/-- Builds the items of a sequence in order, the `i`-th by `item i`. -/
def itemsFrom (item : Nat → Value → BuildM Unit) (i : Nat) : List Value → BuildM Unit
  | [] => pure ()
  | v :: rest => do
    item i v
    itemsFrom item (i + 1) rest

end BuildM

/-- A value as bytes: bytes themselves, or an array of integers from 0 to 255. -/
def Value.asBytes? : Value → Option Bytes
  | .bytes b => some b
  | .array items => items.mapM fun v =>
    (v.toUInt64?).bind fun n => if n.toNat < 256 then some n.toUInt8 else none
  | _ => none

/-- Converts a value with a view, or fails naming the type expected. -/
def convert {α : Type} (view : Value → Option α) (expected : String) (v : Value) : BuildM α :=
  match view v with
  | some a => pure a
  | none => throw (.invalidValue expected v.typeName)

namespace Schema

/-- Builds a field that the record to build lacks: a literal writes its bytes, any other
schema has nothing to write. -/
def buildMissing : Schema → BuildM Unit
  | .literal expected => BuildM.emit expected
  | _ => throw .missingValue

mutual

/-- Builds a value of the schema after the bytes written so far, in `scope`. -/
def buildIn (s : Schema) (v : Value) (scope : Scope) : BuildM Unit :=
  match s with
  | .number kind order => do
    let bs ← MonadExcept.ofExcept (kind.encode order v)
    BuildM.traced (BuildM.emit bs)
  | .bytes length => do
    let bs ← convert Value.asBytes? "bytes" v
    BuildM.traced do
      let n ← MonadExcept.ofExcept (length.resolveClamped scope)
      if bs.length ≠ n then throw (.lengthMismatch "bytes" n bs.length)
      BuildM.emit bs
  | .literal expected => do
    let bs ← convert Value.asBytes? "bytes" v
    BuildM.traced do
      if bs ≠ expected then throw (.literalMismatch expected bs)
      BuildM.emit expected
  | .text encoding length => do
    let str ← convert Value.text? "text" v
    BuildM.traced do
      let bs ← MonadExcept.ofExcept ((encoding.toBytes str).mapError (.invalidEncoding encoding))
      if let some l := length then
        let n ← MonadExcept.ofExcept (l.resolveClamped scope)
        if bs.length ≠ n then throw (.lengthMismatch encoding.name n bs.length)
      BuildM.emit bs
  | .struct fields => do
    let r ← convert Value.fields? "struct" v
    BuildM.traced (buildFields fields r (scope.push r))
  | .array item count => do
    let items ← convert Value.items? "array" v
    BuildM.traced do
      let n ← MonadExcept.ofExcept (count.resolveClamped scope)
      if items.length ≠ n then throw (.lengthMismatch "array" n items.length)
      BuildM.itemsFrom (fun i x => item.buildIn x (scope.push (Scope.indexLayer i))) 0 items
  | .greedy item => do
    let items ← convert Value.items? "array" v
    BuildM.traced (BuildM.itemsFrom (fun _ x => item.buildIn x scope) 0 items)
  | .switch on cases default =>
    BuildM.traced do
      let inner := scope.push (v.fields?.getD [])
      let key := on.key? inner
      BuildM.log
      buildCase cases default key v inner
  | .sized inner total =>
    BuildM.traced do
      let built ← BuildM.isolated (inner.buildIn v scope)
      let declared ← MonadExcept.ofExcept (Schema.declaredTotal total v)
      if built.length > declared then throw (.oversized declared built.length)
      BuildM.emit built
      let padding := declared - built.length
      if padding > 0 then
        BuildM.log
        BuildM.emit (List.replicate padding 0)
  | .prefixed _ inner =>
    BuildM.traced do
      let built ← BuildM.isolated (inner.buildIn v scope)
      BuildM.emit built
termination_by sizeOf s

/-- Builds the fields of a struct in order from a record; a field the record lacks is built
as missing, and a missing value becomes a missing field of that name. -/
def buildFields (fields : List (String × Schema)) (r : Record) (scope : Scope) : BuildM Unit :=
  match fields with
  | [] => pure ()
  | (name, s) :: rest => do
    match Record.get? r name with
    | some x => s.buildIn x scope
    | none =>
      tryCatch s.buildMissing fun e => match e with
        | .missingValue => throw (.missingField name)
        | e => throw e
    buildFields rest r scope
termination_by sizeOf fields

/-- Builds the value with the case registered under the key, or the default. -/
def buildCase (cases : List (String × Schema)) (default : Option Schema) (key : Option String)
    (v : Value) (scope : Scope) : BuildM Unit :=
  match cases with
  | (k, s) :: rest => if key = some k then s.buildIn v scope else buildCase rest default key v scope
  | [] => match default with
    | some d => d.buildIn v scope
    | none => throw (.unresolvedCase key)
termination_by sizeOf cases + sizeOf default

end

/-- Builds a value from nothing, with the root scope and the trace off; the final state holds
the bytes written. -/
def build (s : Schema) (v : Value) : Except Error Unit × BuildState :=
  ((s.buildIn v Scope.root).run {}).run

/-- Builds a value as `build` does, with the trace on; the final state holds the bytes written
and the trace. -/
def buildDebug (s : Schema) (v : Value) : Except Error Unit × BuildState :=
  ((s.buildIn v Scope.root).run { debug := true }).run

end Schema

end ByteLayout
