import ByteLayout.Schema
/-!
# Parsing

Parsing reads a value at a cursor in a window of bytes. The window is the whole input, or the
bytes a prefixed schema set aside; the cursor moves forward as bytes are consumed and stays
where it was when a read fails. A window is an array, so a read costs what it reads. The scope grows by one layer inside each struct, holding the
fields parsed so far, and inside each array item, holding its index.

With the trace on, every schema node leaves a trace: the nesting depth when it starts and when
it ends, and one entry at the depth inside it for each raw byte read, switch key, end of a
greedy repetition and padding skip. With the trace off nothing is recorded and the depth
stays where it is.

## Main definitions

* `ByteLayout.ParseState` — the cursor and the trace.
* `ByteLayout.ParseM` — the parsing monad, with the cursor operations `peek`, `read`, `skip`.
* `ByteLayout.Schema.parseIn` — a schema's parse at the cursor, in a scope.
* `ByteLayout.Schema.parse`, `ByteLayout.Schema.parseDebug` — a schema's parse of a whole
  input, with the trace off and on.
-/

namespace ByteLayout

/-- The moving part of a parse: the cursor in the current window, whether the trace is on, the
nesting depth of the trace and the trace so far. -/
structure ParseState where
  offset : Nat := 0
  debug : Bool := false
  depth : Nat := 0
  trace : Array Nat := #[]

/-- The state with a trace entry at the current depth, if the trace is on. -/
def ParseState.note (st : ParseState) : ParseState :=
  if st.debug then { st with trace := st.trace.push st.depth } else st

/-- Parsing: a computation on the parse state that may fail with an error. -/
abbrev ParseM := ExceptT Error (StateM ParseState)

namespace ParseM

/-- The bytes left in a window after the cursor. -/
def remaining (data : Array UInt8) : ParseM Nat := do
  return data.size - (← get).offset

/-- Fails unless `n` bytes remain. -/
def checkBounds (data : Array UInt8) (n : Nat) : ParseM Unit := do
  let available := data.size - (← get).offset
  if n > available then throw (.insufficientData n available)

/-- The next `n` bytes, leaving the cursor where it is. -/
def peek (data : Array UInt8) (n : Nat) : ParseM Bytes := do
  checkBounds data n
  let offset := (← get).offset
  return (data.extract offset (offset + n)).toList

/-- Moves the cursor past `n` bytes. -/
def skip (data : Array UInt8) (n : Nat) : ParseM Unit := do
  checkBounds data n
  modify fun st => { st with offset := st.offset + n }

/-- The next `n` bytes, moving the cursor past them. -/
def read (data : Array UInt8) (n : Nat) : ParseM Bytes := do
  let bs ← peek data n
  modify fun st => { st with offset := st.offset + n }
  return bs

/-- Records a trace entry at the current depth, if the trace is on. -/
def log : ParseM Unit :=
  modify ParseState.note

/-- Runs a parse and returns its outcome instead of failing. -/
def attempt {α : Type} (p : ParseM α) : ParseM (Except Error α) :=
  tryCatch (Except.ok <$> p) fun e => pure (.error e)

/-- With the trace on, runs a parse between an entry at the current depth and an entry after
returning to it; with the trace off, runs it as it is. -/
def traced {α : Type} (p : ParseM α) : ParseM α := do
  if (← get).debug then
    modify fun st => { st with trace := st.trace.push st.depth, depth := st.depth + 1 }
    let r ← attempt p
    modify fun st => { st with depth := st.depth - 1, trace := st.trace.push (st.depth - 1) }
    MonadExcept.ofExcept r
  else p

/-- Runs a parse in a window of `n` bytes after the cursor, which has a cursor of its own
starting at zero; afterwards the cursor moves past the whole window if the parse succeeded
and stays where it was if it failed. -/
def within {α : Type} (n : Nat) (p : ParseM α) : ParseM α := do
  let saved := (← get).offset
  modify fun st => { st with offset := 0 }
  let r ← attempt p
  modify fun st => { st with offset := saved }
  let v ← MonadExcept.ofExcept r
  modify fun st => { st with offset := st.offset + n }
  return v

/-- Parses the items `i`, `i + 1`, … of a counted sequence, `k` of them, after `acc`. -/
def itemsFrom (item : Nat → ParseM Value) (i : Nat) : (k : Nat) → Array Value → ParseM Value
  | 0, acc => return .array acc.toList
  | k + 1, acc => do
    let v ← item i
    itemsFrom item (i + 1) k (acc.push v)

/-- Repeats a parse while bytes remain and each attempt moves the cursor forward. A failed
attempt is undone, and an attempt that consumes nothing is kept; both end the repetition
with a trace entry. No parse moves the cursor back, so the repetition goes on exactly while
an attempt leaves the cursor somewhere other than where it was
(`Schema.greedy_continues_iff_moved`). -/
def greedyFrom (data : Array UInt8) (item : ParseM Value) (acc : Array Value) (st : ParseState) :
    Except Error Value × ParseState :=
  if st.offset < data.size then
    match (item.run st).run with
    | (.ok v, st') =>
      if st.offset < st'.offset then greedyFrom data item (acc.push v) st'
      else (.ok (.array (acc.push v).toList), st'.note)
    | (.error _, st') => (.ok (.array acc.toList), { st'.note with offset := st.offset })
  else (.ok (.array acc.toList), st)
termination_by data.size - st.offset

/-- Repeats a parse as `greedyFrom` does, from the current state. -/
def greedy (data : Array UInt8) (item : ParseM Value) : ParseM Value :=
  ExceptT.mk fun st => greedyFrom data item #[] st

end ParseM

namespace Schema

mutual

/-- Parses a value of the schema at the cursor of the window `data`, in `scope`. -/
def parseIn (s : Schema) (data : Array UInt8) (scope : Scope) : ParseM Value :=
  ParseM.traced <| match s with
  | .number kind order => do
    let bs ← ParseM.read data kind.width
    return kind.decode order bs
  | .bytes length => do
    let n ← MonadExcept.ofExcept (length.resolveClamped scope)
    let bs ← ParseM.read data n
    ParseM.log
    return .bytes bs
  | .literal expected => do
    let actual ← ParseM.peek data expected.length
    if actual ≠ expected then throw (.literalMismatch expected actual)
    ParseM.skip data expected.length
    return .bytes expected
  | .text encoding length => do
    let n ← match length with
      | some l => MonadExcept.ofExcept (l.resolveClamped scope)
      | none => ParseM.remaining data
    let raw ← ParseM.peek data n
    let str ← MonadExcept.ofExcept ((encoding.toText raw).mapError (.invalidEncoding encoding))
    ParseM.skip data n
    return .text str
  | .struct fields => parseFields fields data scope []
  | .array item count => do
    let n ← MonadExcept.ofExcept (count.resolveClamped scope)
    ParseM.itemsFrom (fun i => item.parseIn data (scope.push (Scope.indexLayer i))) 0 n #[]
  | .greedy item => ParseM.greedy data (item.parseIn data scope)
  | .switch on cases default => do
    let key := on.key? scope
    ParseM.log
    parseCase cases default key data scope
  | .sized inner total => do
    let start := (← get).offset
    let v ← inner.parseIn data scope
    let declared ← MonadExcept.ofExcept (Schema.declaredTotal total v)
    let consumed := (← get).offset - start
    if declared < consumed then throw (.oversized declared consumed)
    let padding := declared - consumed
    if padding > 0 then
      ParseM.log
      ParseM.skip data padding
    return v
  | .prefixed length inner => do
    let n ← MonadExcept.ofExcept (length.resolveStrict scope)
    ParseM.checkBounds data n
    let offset := (← get).offset
    ParseM.within n (inner.parseIn (data.extract offset (offset + n)) scope)
termination_by sizeOf s

/-- Parses the fields of a struct in order, each in a scope that shows the fields before it. -/
def parseFields (fields : List (String × Schema)) (data : Array UInt8) (scope : Scope) (acc : Record) :
    ParseM Value :=
  match fields with
  | [] => return .record acc
  | (name, s) :: rest => do
    let v ← s.parseIn data (scope.push acc)
    parseFields rest data scope (Record.insert name v acc)
termination_by sizeOf fields

/-- Parses the case registered under the key, or the default. -/
def parseCase (cases : List (String × Schema)) (default : Option Schema) (key : Option String)
    (data : Array UInt8) (scope : Scope) : ParseM Value :=
  match cases with
  | (k, s) :: rest => if key = some k then s.parseIn data scope else parseCase rest default key data scope
  | [] => match default with
    | some d => d.parseIn data scope
    | none => throw (.unresolvedCase key)
termination_by sizeOf cases + sizeOf default

end

/-- Parses a whole input from its start, with the root scope and the trace off; the final state
holds the cursor. -/
def parse (s : Schema) (data : Bytes) : Except Error Value × ParseState :=
  ((s.parseIn data.toArray Scope.root).run {}).run

/-- Parses a whole input as `parse` does, with the trace on; the final state holds the cursor
and the trace. -/
def parseDebug (s : Schema) (data : Bytes) : Except Error Value × ParseState :=
  ((s.parseIn data.toArray Scope.root).run { debug := true }).run

end Schema

end ByteLayout
