import ByteLayout.Proofs.Outcome

set_option autoImplicit false

/-!
# Parsing schemas without the trace

`Schema.scan s data scope off` is what parsing `s` at cursor `off` of the window `data` returns
and where it leaves the cursor, with the trace left out. This module gives one equation for
each kind of schema, stating its parse in terms of the parses of its parts, so that later
proofs about parsing are inductions over schemas that never open the parsing monad.

## Main definitions

* `ByteLayout.Schema.induction` — induction over schemas, the fields of a struct and the
  cases of a switch being the children.
* `ByteLayout.Schema.scan`, `scanFields`, `scanCase` — the outcome of parsing a schema, the
  fields of a struct, and the case of a switch.

## Main results

* `ByteLayout.Schema.parseIn_computes` — every schema's parse computes its `scan`, from any
  state: the trace never changes a result or a cursor.
* `ByteLayout.Schema.scan_number`, …, `scan_prefixed` — the parse of each kind of schema.
* `ByteLayout.Schema.parse_eq_scan` — a whole parse is the scan of its input from zero.
-/

namespace ByteLayout

namespace Schema

open ParseM

/-- Induction over schemas, where the children of a struct are its fields and those of a
switch are its cases and its default. -/
theorem induction {motive : Schema → Prop}
    (number : ∀ kind order, motive (.number kind order))
    (bytes : ∀ length, motive (.bytes length))
    (literal : ∀ expected, motive (.literal expected))
    (text : ∀ encoding length, motive (.text encoding length))
    (struct : ∀ fields, (∀ f ∈ fields, motive f.2) → motive (.struct fields))
    (array : ∀ item count, motive item → motive (.array item count))
    (greedy : ∀ item, motive item → motive (.greedy item))
    (switch : ∀ on cases default, (∀ c ∈ cases, motive c.2) → (∀ d ∈ default, motive d) →
      motive (.switch on cases default))
    (sized : ∀ inner total, motive inner → motive (.sized inner total))
    (prefixed : ∀ length inner, motive inner → motive (.prefixed length inner))
    (s : Schema) : motive s :=
  @Schema.rec motive (fun fs => ∀ f ∈ fs, motive f.2) (fun d => ∀ x ∈ d, motive x)
    (fun f => motive f.2) number bytes literal text struct array greedy switch sized prefixed
    (fun _ h => absurd h List.not_mem_nil)
    (fun _ _ hd htl f hf => (List.mem_cons.1 hf).elim (fun h => h ▸ hd) (htl f))
    (fun _ h => absurd h (by simp))
    (fun _ h x hx => by cases hx; exact h)
    (fun _ _ h => h) s

/-- The parse of a schema at a cursor, without its trace: the value or the error, and the
cursor after it. -/
def scan (s : Schema) (data : Array UInt8) (scope : Scope) (off : Nat) :
    Except Error Value × Nat :=
  outcome (s.parseIn data scope) off

/-- The parse of the fields of a struct after the record `acc`, without its trace. -/
def scanFields (fields : List (String × Schema)) (data : Array UInt8) (scope : Scope)
    (acc : Record) (off : Nat) : Except Error Value × Nat :=
  outcome (parseFields fields data scope acc) off

/-- The parse of the case of a switch under a key, without its trace. -/
def scanCase (cases : List (String × Schema)) (default : Option Schema) (key : Option String)
    (data : Array UInt8) (scope : Scope) (off : Nat) : Except Error Value × Nat :=
  outcome (parseCase cases default key data scope) off

/-! ### The parse of each kind of schema, given the parses of its parts -/

section Cases

variable (data : Array UInt8) (scope : Scope)

lemma computes_number (kind : NumberKind) (order : ByteOrder) :
    Computes ((Schema.number kind order).parseIn data scope) fun off =>
      if kind.width > data.size - off then
        (.error (.insufficientData kind.width (data.size - off)), off)
      else (.ok (kind.decode order (data.extract off (off + kind.width)).toList),
        off + kind.width) := by
  rw [parseIn]
  refine ((Computes.read _ _).bind fun _ => Computes.pure _).traced.congr fun off => ?_
  by_cases hb : kind.width > data.size - off <;> simp [hb]

lemma computes_bytes (length : Length) :
    Computes ((Schema.bytes length).parseIn data scope) fun off =>
      match length.resolveClamped scope with
      | .error e => (.error e, off)
      | .ok n =>
        if n > data.size - off then (.error (.insufficientData n (data.size - off)), off)
        else (.ok (.bytes (data.extract off (off + n)).toList), off + n) := by
  rw [parseIn]
  refine ((Computes.ofExcept _).bind fun _ => (Computes.read _ _).bind fun _ =>
    Computes.log.bind fun _ => Computes.pure _).traced.congr fun off => ?_
  rcases length.resolveClamped scope with e | n
  · rfl
  · by_cases hb : n > data.size - off <;> simp [hb]

lemma computes_literal (expected : Bytes) :
    Computes ((Schema.literal expected).parseIn data scope) fun off =>
      if expected.length > data.size - off then
        (.error (.insufficientData expected.length (data.size - off)), off)
      else if (data.extract off (off + expected.length)).toList ≠ expected then
        (.error (.literalMismatch expected (data.extract off (off + expected.length)).toList),
          off)
      else (.ok (.bytes expected), off + expected.length) := by
  rw [parseIn]
  refine ((Computes.peek _ _).bind fun actual =>
    Computes.ite _ ((Computes.throw _).bind fun _ => (Computes.skip _ _).bind fun _ =>
      Computes.pure _) ((Computes.skip _ _).bind fun _ => Computes.pure _)).traced.congr
      fun off => ?_
  by_cases hb : expected.length > data.size - off
  · simp [hb]
  · simp [hb]

lemma computes_text (encoding : Encoding) (length : Option Length) :
    Computes ((Schema.text encoding length).parseIn data scope) fun off =>
      match (match length with
        | some l => l.resolveClamped scope
        | none => .ok (data.size - off)) with
      | .error e => (.error e, off)
      | .ok n =>
        if n > data.size - off then (.error (.insufficientData n (data.size - off)), off)
        else match encoding.toText (data.extract off (off + n)).toList with
          | .error f => (.error (.invalidEncoding encoding f), off)
          | .ok str => (.ok (.text str), off + n) := by
  rw [parseIn]
  have hbody := fun n => (Computes.peek data n).bind fun raw =>
    (Computes.ofExcept ((encoding.toText raw).mapError (Error.invalidEncoding encoding))).bind
      fun str => (Computes.skip data n).bind fun _ => Computes.pure (Value.text str)
  rcases length with _ | l
  · refine ((Computes.remaining _).bind hbody).traced.congr fun off => ?_
    simp only [andThen_ok, gt_iff_lt, Nat.lt_irrefl, if_false]
    generalize (data.extract off (off + (data.size - off))).toList = raw
    rcases encoding.toText raw with f | str <;> simp [Except.mapError]
  · refine ((Computes.ofExcept _).bind hbody).traced.congr fun off => ?_
    dsimp only
    rcases l.resolveClamped scope with e | n
    · rfl
    · by_cases hb : n > data.size - off
      · simp [hb]
      · simp only [andThen_ok, hb, if_false]
        generalize (data.extract off (off + n)).toList = raw
        rcases encoding.toText raw with f | str <;> simp [hb, Except.mapError]

lemma computes_fields_nil (acc : Record) :
    Computes (parseFields [] data scope acc) fun off => (.ok (.record acc), off) := by
  rw [parseFields]
  exact Computes.pure _

/-- A field parses in a scope that shows the record of the fields before it; the rest of the
struct then parses after it, with the field added to that record. -/
lemma computes_fields_cons (name : String) (s : Schema) (rest : List (String × Schema))
    (acc : Record) (hs : Computes (s.parseIn data (scope.push acc)) (scan s data (scope.push acc)))
    (hrest : ∀ acc', Computes (parseFields rest data scope acc') (scanFields rest data scope acc')) :
    Computes (parseFields ((name, s) :: rest) data scope acc) fun off =>
      andThen (scan s data (scope.push acc) off) fun v o =>
        scanFields rest data scope (Record.insert name v acc) o := by
  rw [parseFields]
  exact hs.bind fun v => hrest (Record.insert name v acc)

lemma computes_case_cons (k : String) (s : Schema) (rest : List (String × Schema))
    (default : Option Schema) (key : Option String)
    (hs : Computes (s.parseIn data scope) (scan s data scope))
    (hrest : Computes (parseCase rest default key data scope) (scanCase rest default key data scope)) :
    Computes (parseCase ((k, s) :: rest) default key data scope) fun off =>
      if key = some k then scan s data scope off else scanCase rest default key data scope off := by
  rw [parseCase]
  exact Computes.ite _ hs hrest

lemma computes_case_nil (default : Option Schema) (key : Option String)
    (hd : ∀ d ∈ default, Computes (d.parseIn data scope) (scan d data scope)) :
    Computes (parseCase [] default key data scope) fun off =>
      match default with
      | some d => scan d data scope off
      | none => (.error (.unresolvedCase key), off) := by
  unfold parseCase
  rcases default with _ | d
  · exact Computes.throw _
  · exact hd d rfl

lemma computes_struct (fields : List (String × Schema))
    (hfields : Computes (parseFields fields data scope []) (scanFields fields data scope [])) :
    Computes ((Schema.struct fields).parseIn data scope) (scanFields fields data scope []) := by
  rw [parseIn]
  exact hfields.traced

/-- An array resolves its count in the enclosing scope, then parses that many items, the item
`i` in a scope that shows its index. -/
lemma computes_array (item : Schema) (count : Length)
    (hitem : ∀ i, Computes (item.parseIn data (scope.push (Scope.indexLayer i)))
      (scan item data (scope.push (Scope.indexLayer i)))) :
    Computes ((Schema.array item count).parseIn data scope) fun off =>
      match count.resolveClamped scope with
      | .error e => (.error e, off)
      | .ok n =>
        andThen (itemsOutcome (fun i => scan item data (scope.push (Scope.indexLayer i))) 0 n off)
          fun vs o => (.ok (.array vs), o) := by
  rw [parseIn]
  refine ((Computes.ofExcept _).bind fun n => Computes.itemsFrom hitem 0 n #[]).traced.congr
    fun off => ?_
  rcases count.resolveClamped scope with e | n <;> simp

lemma computes_greedy (item : Schema)
    (hitem : Computes (item.parseIn data scope) (scan item data scope)) :
    Computes ((Schema.greedy item).parseIn data scope) fun off =>
      let r := greedyOutcome (scan item data scope) data.size off
      (.ok (.array r.1), r.2) := by
  rw [parseIn]
  exact (Computes.greedy hitem data).traced

/-- A switch takes its key from the enclosing scope and parses the case registered under it,
in the same scope. -/
lemma computes_switch (on : SwitchOn) (cases : List (String × Schema)) (default : Option Schema)
    (hcase : Computes (parseCase cases default (on.key? scope) data scope)
      (scanCase cases default (on.key? scope) data scope)) :
    Computes ((Schema.switch on cases default).parseIn data scope)
      (scanCase cases default (on.key? scope) data scope) := by
  rw [parseIn]
  exact (Computes.log.bind fun _ => hcase).traced

/-- A sized region parses its inner schema, then checks the total its value declares against
the bytes consumed, and skips the padding up to that total. -/
lemma computes_sized (inner : Schema) (total : Value → Option Int64)
    (hinner : Computes (inner.parseIn data scope) (scan inner data scope)) :
    Computes ((Schema.sized inner total).parseIn data scope) fun off =>
      andThen (scan inner data scope off) fun v o =>
        match declaredTotal total v with
        | .error e => (.error e, o)
        | .ok t =>
          if t < o - off then (.error (.oversized t (o - off)), o)
          else if t - (o - off) > 0 then
            if t - (o - off) > data.size - o then
              (.error (.insufficientData (t - (o - off)) (data.size - o)), o)
            else (.ok v, o + (t - (o - off)))
          else (.ok v, o) := by
  rw [parseIn]
  have hpad : ∀ (v : Value) (n : Nat), Computes
      (if n > 0 then (do log; skip data n; pure v) else pure v) fun o =>
        if n > 0 then
          (if n > data.size - o then (.error (.insufficientData n (data.size - o)), o)
          else (.ok v, o + n))
        else (.ok v, o) := by
    intro v n
    refine (Computes.ite _ (Computes.log.bind fun _ => (Computes.skip _ _).bind fun _ =>
      Computes.pure _) (Computes.pure _)).congr fun o => ?_
    by_cases hn : n > 0
    · by_cases hb : n > data.size - o <;> simp [hn, hb]
    · simp [hn]
  refine (Computes.bind_get (fun st => hinner.bind fun v => (Computes.ofExcept _).bind
      fun declared => Computes.bind_get (fun st' => Computes.ite _
        ((Computes.throw _).bind fun _ => hpad v _) (hpad v _))
        (fun _ _ h => by simp only [h]))
      (fun _ _ h => by simp only [h])).traced.congr fun off => ?_
  dsimp only
  rcases scan inner data scope off with ⟨_ | v, o⟩
  · rfl
  · simp only [andThen_ok]
    rcases declaredTotal total v with e | t
    · rfl
    · by_cases ho : t < o - off <;> simp [ho]

/-- A window resolves its length in the enclosing scope, checks that many bytes remain, and
parses its inner schema in those bytes alone, from cursor zero. -/
lemma computes_prefixed (length : Length) (inner : Schema)
    (hinner : ∀ window, Computes (inner.parseIn window scope) (scan inner window scope)) :
    Computes ((Schema.prefixed length inner).parseIn data scope) fun off =>
      match length.resolveStrict scope with
      | .error e => (.error e, off)
      | .ok n =>
        if n > data.size - off then (.error (.insufficientData n (data.size - off)), off)
        else match (scan inner (data.extract off (off + n)) scope 0).1 with
          | .ok v => (.ok v, off + n)
          | .error e => (.error e, off) := by
  rw [parseIn]
  refine ((Computes.ofExcept _).bind fun n => (Computes.checkBounds _ _).bind fun _ =>
    Computes.bind_get (fun st => (hinner _).within n) (fun _ _ h => by simp only [h])).traced.congr
    fun off => ?_
  rcases length.resolveStrict scope with e | n
  · rfl
  · dsimp only
    by_cases hb : n > data.size - off
    · simp [hb]
    · simp only [andThen_ok, hb, if_false]
      rcases scan inner (data.extract off (off + n)) scope 0 with ⟨_ | v, o⟩ <;> rfl

end Cases

/-! ### Every schema's parse computes its scan -/

lemma parseFields_computes {fields : List (String × Schema)}
    (h : ∀ f ∈ fields, ∀ data scope, Computes (f.2.parseIn data scope) (scan f.2 data scope))
    (data : Array UInt8) (scope : Scope) (acc : Record) :
    Computes (parseFields fields data scope acc) (scanFields fields data scope acc) := by
  induction fields generalizing acc with
  | nil => exact (computes_fields_nil data scope acc).outcome
  | cons f rest ih =>
    exact (computes_fields_cons data scope f.1 f.2 rest acc (h f List.mem_cons_self _ _)
      fun acc' => ih (fun g hg => h g (List.mem_cons_of_mem _ hg)) acc').outcome

lemma parseCase_computes {cases : List (String × Schema)} {default : Option Schema}
    (hc : ∀ c ∈ cases, ∀ data scope, Computes (c.2.parseIn data scope) (scan c.2 data scope))
    (hd : ∀ d ∈ default, ∀ data scope, Computes (d.parseIn data scope) (scan d data scope))
    (key : Option String) (data : Array UInt8) (scope : Scope) :
    Computes (parseCase cases default key data scope) (scanCase cases default key data scope) := by
  induction cases with
  | nil => exact (computes_case_nil data scope default key fun d hmem => hd d hmem data scope).outcome
  | cons c rest ih =>
    exact (computes_case_cons data scope c.1 c.2 rest default key (hc c List.mem_cons_self _ _)
      (ih fun g hg => hc g (List.mem_cons_of_mem _ hg))).outcome

/-- **The trace changes nothing a parse returns.** Run from any state, a schema's parse has the
result and the final cursor of its scan from the state's cursor. -/
theorem parseIn_computes (s : Schema) (data : Array UInt8) (scope : Scope) :
    Computes (s.parseIn data scope) (scan s data scope) := by
  induction s using Schema.induction generalizing data scope with
  | number kind order => exact (computes_number data scope kind order).outcome
  | bytes length => exact (computes_bytes data scope length).outcome
  | literal expected => exact (computes_literal data scope expected).outcome
  | text encoding length => exact (computes_text data scope encoding length).outcome
  | struct fields ih =>
    exact (computes_struct data scope fields (parseFields_computes ih data scope [])).outcome
  | array item count ih =>
    exact (computes_array data scope item count fun i => ih data _).outcome
  | greedy item ih => exact (computes_greedy data scope item (ih data scope)).outcome
  | switch on cases default hc hd =>
    exact (computes_switch data scope on cases default
      (parseCase_computes hc hd (on.key? scope) data scope)).outcome
  | sized inner total ih => exact (computes_sized data scope inner total (ih data scope)).outcome
  | prefixed length inner ih =>
    exact (computes_prefixed data scope length inner fun w => ih w scope).outcome

lemma exec_parseIn (s : Schema) (data : Array UInt8) (scope : Scope) (st : ParseState) :
    ((exec (s.parseIn data scope) st).1, (exec (s.parseIn data scope) st).2.offset) =
      scan s data scope st.offset :=
  parseIn_computes s data scope st

/-- A whole parse is the scan of its input from the start, in the root scope. -/
theorem parse_eq_scan (s : Schema) (input : Bytes) :
    ((s.parse input).1, (s.parse input).2.offset) = scan s input.toArray Scope.root 0 :=
  parseIn_computes s input.toArray Scope.root {}

/-! ### The scan of each kind of schema -/

section Equations

variable (data : Array UInt8) (scope : Scope) (off : Nat)

lemma scan_number (kind : NumberKind) (order : ByteOrder) :
    scan (.number kind order) data scope off =
      if kind.width > data.size - off then
        (.error (.insufficientData kind.width (data.size - off)), off)
      else (.ok (kind.decode order (data.extract off (off + kind.width)).toList),
        off + kind.width) :=
  (computes_number data scope kind order).outcome_eq off

lemma scan_bytes (length : Length) :
    scan (.bytes length) data scope off =
      match length.resolveClamped scope with
      | .error e => (.error e, off)
      | .ok n =>
        if n > data.size - off then (.error (.insufficientData n (data.size - off)), off)
        else (.ok (.bytes (data.extract off (off + n)).toList), off + n) :=
  (computes_bytes data scope length).outcome_eq off

lemma scan_literal (expected : Bytes) :
    scan (.literal expected) data scope off =
      if expected.length > data.size - off then
        (.error (.insufficientData expected.length (data.size - off)), off)
      else if (data.extract off (off + expected.length)).toList ≠ expected then
        (.error (.literalMismatch expected (data.extract off (off + expected.length)).toList),
          off)
      else (.ok (.bytes expected), off + expected.length) :=
  (computes_literal data scope expected).outcome_eq off

lemma scan_text (encoding : Encoding) (length : Option Length) :
    scan (.text encoding length) data scope off =
      match (match length with
        | some l => l.resolveClamped scope
        | none => .ok (data.size - off)) with
      | .error e => (.error e, off)
      | .ok n =>
        if n > data.size - off then (.error (.insufficientData n (data.size - off)), off)
        else match encoding.toText (data.extract off (off + n)).toList with
          | .error f => (.error (.invalidEncoding encoding f), off)
          | .ok str => (.ok (.text str), off + n) :=
  (computes_text data scope encoding length).outcome_eq off

lemma scan_struct (fields : List (String × Schema)) :
    scan (.struct fields) data scope off = scanFields fields data scope [] off :=
  (computes_struct data scope fields
    (parseFields_computes (fun f _ => parseIn_computes f.2) data scope [])).outcome_eq off

lemma scanFields_nil (acc : Record) :
    scanFields [] data scope acc off = (.ok (.record acc), off) :=
  (computes_fields_nil data scope acc).outcome_eq off

lemma scanFields_cons (name : String) (s : Schema) (rest : List (String × Schema))
    (acc : Record) :
    scanFields ((name, s) :: rest) data scope acc off =
      andThen (scan s data (scope.push acc) off) fun v o =>
        scanFields rest data scope (Record.insert name v acc) o :=
  (computes_fields_cons data scope name s rest acc (parseIn_computes s data _)
    fun acc' => parseFields_computes (fun f _ => parseIn_computes f.2) data scope acc').outcome_eq
    off

lemma scan_array (item : Schema) (count : Length) :
    scan (.array item count) data scope off =
      match count.resolveClamped scope with
      | .error e => (.error e, off)
      | .ok n =>
        andThen (itemsOutcome (fun i => scan item data (scope.push (Scope.indexLayer i))) 0 n off)
          fun vs o => (.ok (.array vs), o) :=
  (computes_array data scope item count fun _ => parseIn_computes item data _).outcome_eq off

lemma scan_greedy (item : Schema) :
    scan (.greedy item) data scope off =
      let r := greedyOutcome (scan item data scope) data.size off
      (.ok (.array r.1), r.2) :=
  (computes_greedy data scope item (parseIn_computes item data scope)).outcome_eq off

lemma scan_switch (on : SwitchOn) (cases : List (String × Schema)) (default : Option Schema) :
    scan (.switch on cases default) data scope off =
      scanCase cases default (on.key? scope) data scope off :=
  (computes_switch data scope on cases default (parseCase_computes
    (fun c _ => parseIn_computes c.2) (fun d _ => parseIn_computes d) _ data scope)).outcome_eq off

lemma scanCase_cons (k : String) (s : Schema) (rest : List (String × Schema))
    (default : Option Schema) (key : Option String) :
    scanCase ((k, s) :: rest) default key data scope off =
      if key = some k then scan s data scope off else scanCase rest default key data scope off :=
  (computes_case_cons data scope k s rest default key (parseIn_computes s data scope)
    (parseCase_computes (fun c _ => parseIn_computes c.2) (fun d _ => parseIn_computes d)
      key data scope)).outcome_eq off

lemma scanCase_nil (default : Option Schema) (key : Option String) :
    scanCase [] default key data scope off =
      match default with
      | some d => scan d data scope off
      | none => (.error (.unresolvedCase key), off) := by
  rcases default with _ | d <;>
  exact (computes_case_nil data scope _ key fun d _ => parseIn_computes d data scope).outcome_eq off

lemma scan_sized (inner : Schema) (total : Value → Option Int64) :
    scan (.sized inner total) data scope off =
      andThen (scan inner data scope off) fun v o =>
        match declaredTotal total v with
        | .error e => (.error e, o)
        | .ok t =>
          if t < o - off then (.error (.oversized t (o - off)), o)
          else if t - (o - off) > 0 then
            if t - (o - off) > data.size - o then
              (.error (.insufficientData (t - (o - off)) (data.size - o)), o)
            else (.ok v, o + (t - (o - off)))
          else (.ok v, o) :=
  (computes_sized data scope inner total (parseIn_computes inner data scope)).outcome_eq off

lemma scan_prefixed (length : Length) (inner : Schema) :
    scan (.prefixed length inner) data scope off =
      match length.resolveStrict scope with
      | .error e => (.error e, off)
      | .ok n =>
        if n > data.size - off then (.error (.insufficientData n (data.size - off)), off)
        else match (scan inner (data.extract off (off + n)) scope 0).1 with
          | .ok v => (.ok v, off + n)
          | .error e => (.error e, off) :=
  (computes_prefixed data scope length inner fun w => parseIn_computes inner w scope).outcome_eq
    off

end Equations

end Schema

end ByteLayout
