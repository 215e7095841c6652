import ByteLayout.Proofs.Emission
import ByteLayout.Proofs.Scan

set_option autoImplicit false

/-!
# Building schemas without the trace

`Schema.write s v scope` is what building `v` with `s` returns and the bytes it writes, with the
trace left out. As for parsing, this module gives one equation for each kind of schema, so that
proofs about builds are inductions over schemas that never open the building monad. A build
only ever appends, so the bytes written before a node change nothing the node returns or
writes.

## Main definitions

* `ByteLayout.Schema.write`, `writeFields`, `writeCase` — what building a schema, the fields of
  a struct, and the case of a switch return and write.
* `ByteLayout.Schema.writeMissing` — what building a field that the record lacks does.

## Main results

* `ByteLayout.Schema.buildIn_emits` — every schema's build appends what it writes from nothing,
  whatever was written before it and whatever the trace holds.
* `ByteLayout.Schema.write_number`, …, `write_prefixed` — the build of each kind of schema.
* `ByteLayout.Schema.build_eq_write` — a whole build writes what `write` says.
-/

namespace ByteLayout

namespace Schema

open BuildM

/-- What building a value with a schema returns and writes, without its trace. -/
def write (s : Schema) (v : Value) (scope : Scope) : Except Error Unit × Bytes :=
  written (s.buildIn v scope)

/-- What building the fields of a struct from a record returns and writes. -/
def writeFields (fields : List (String × Schema)) (r : Record) (scope : Scope) :
    Except Error Unit × Bytes :=
  written (buildFields fields r scope)

/-- What building a value with the case of a switch under a key returns and writes. -/
def writeCase (cases : List (String × Schema)) (default : Option Schema) (key : Option String)
    (v : Value) (scope : Scope) : Except Error Unit × Bytes :=
  written (buildCase cases default key v scope)

/-- What building a field that the record lacks returns and writes: a literal writes its
bytes, any other schema fails naming the field. -/
def writeMissing (s : Schema) (name : String) : Except Error Unit × Bytes :=
  match s with
  | .literal expected => (.ok (), expected)
  | _ => (.error (.missingField name), [])

/-! ### The build of each kind of schema, given the builds of its parts -/

section Cases

variable (v : Value) (scope : Scope)

lemma emits_number (kind : NumberKind) (order : ByteOrder) :
    Emits ((Schema.number kind order).buildIn v scope) (match kind.encode order v with
      | .ok bs => (.ok (), bs)
      | .error e => (.error e, [])) := by
  rw [buildIn]
  refine ((Emits.ofExcept _).bind fun bs => (Emits.emit bs).traced).congr ?_
  rcases kind.encode order v with e | bs <;> simp

lemma emits_bytes (length : Length) :
    Emits ((Schema.bytes length).buildIn v scope) (match v.asBytes? with
      | none => (.error (.invalidValue "bytes" v.typeName), [])
      | some bs => match length.resolveClamped scope with
        | .error e => (.error e, [])
        | .ok n =>
          if bs.length ≠ n then (.error (.lengthMismatch "bytes" n bs.length), [])
          else (.ok (), bs)) := by
  rw [buildIn]
  dsimp only
  refine ((Emits.convert _ _ v).bind fun bs => ((Emits.ofExcept _).bind fun n =>
    Emits.ite _ ((Emits.throw _).bind fun _ => Emits.emit bs) (Emits.emit bs)).traced).congr ?_
  rcases v.asBytes? with _ | bs
  · rfl
  · rcases length.resolveClamped scope with e | n
    · simp
    · by_cases hn : bs.length = n <;> simp [hn]

lemma emits_literal (expected : Bytes) :
    Emits ((Schema.literal expected).buildIn v scope) (match v.asBytes? with
      | none => (.error (.invalidValue "bytes" v.typeName), [])
      | some bs =>
        if bs ≠ expected then (.error (.literalMismatch expected bs), [])
        else (.ok (), expected)) := by
  rw [buildIn]
  dsimp only
  refine ((Emits.convert _ _ v).bind fun bs => (Emits.ite _
    ((Emits.throw _).bind fun _ => Emits.emit expected) (Emits.emit expected)).traced).congr ?_
  rcases v.asBytes? with _ | bs
  · rfl
  · by_cases hb : bs = expected <;> simp [hb]

lemma emits_text (encoding : Encoding) (length : Option Length) :
    Emits ((Schema.text encoding length).buildIn v scope) (match v.text? with
      | none => (.error (.invalidValue "text" v.typeName), [])
      | some str => match encoding.toBytes str with
        | .error f => (.error (.invalidEncoding encoding f), [])
        | .ok bs => match length with
          | none => (.ok (), bs)
          | some l => match l.resolveClamped scope with
            | .error e => (.error e, [])
            | .ok n =>
              if bs.length ≠ n then (.error (.lengthMismatch encoding.name n bs.length), [])
              else (.ok (), bs)) := by
  -- the length decides the shape of the body, so it is split first
  rcases length with _ | l <;> rw [buildIn] <;> dsimp only
  · refine ((Emits.convert _ _ v).bind fun str =>
      ((Emits.ofExcept _).bind fun bs => Emits.emit bs).traced).congr ?_
    rcases v.text? with _ | str
    · rfl
    · simp only [andThen_ok]
      rcases encoding.toBytes str with f | bs <;> simp [Except.mapError]
  · refine ((Emits.convert _ _ v).bind fun str => ((Emits.ofExcept _).bind fun bs =>
      (Emits.ofExcept _).bind fun n => Emits.ite _ ((Emits.throw _).bind fun _ => Emits.emit bs)
        (Emits.emit bs)).traced).congr ?_
    rcases v.text? with _ | str
    · rfl
    · simp only [andThen_ok]
      rcases encoding.toBytes str with f | bs
      · simp [Except.mapError]
      · rcases l.resolveClamped scope with e | n
        · simp [Except.mapError]
        · by_cases hn : bs.length = n <;> simp [Except.mapError, hn]

lemma emits_missing (s : Schema) (name : String) :
    Emits (tryCatch s.buildMissing fun e => match e with
      | .missingValue => throw (.missingField name)
      | e => throw e) (writeMissing s name) := by
  intro st
  rw [exec_tryCatch]
  cases s <;> simp [buildMissing, writeMissing]

lemma emits_fields_nil (r : Record) : Emits (buildFields [] r scope) (.ok (), []) := by
  rw [buildFields]
  exact Emits.pure ()

/-- A field builds from the record's value under its name, or as missing if it has none; the
rest of the struct is written after it. -/
lemma emits_fields_cons (name : String) (s : Schema) (rest : List (String × Schema)) (r : Record)
    (hs : ∀ x, Emits (s.buildIn x scope) (write s x scope))
    (hrest : Emits (buildFields rest r scope) (writeFields rest r scope)) :
    Emits (buildFields ((name, s) :: rest) r scope)
      (andThen (match r.get? name with
        | some x => write s x scope
        | none => writeMissing s name) fun _ => writeFields rest r scope) := by
  rw [buildFields]
  dsimp only
  rcases r.get? name with _ | x
  · exact (emits_missing s name).bind fun _ => hrest
  · exact (hs x).bind fun _ => hrest

lemma emits_case_cons (k : String) (s : Schema) (rest : List (String × Schema))
    (default : Option Schema) (key : Option String)
    (hs : Emits (s.buildIn v scope) (write s v scope))
    (hrest : Emits (buildCase rest default key v scope) (writeCase rest default key v scope)) :
    Emits (buildCase ((k, s) :: rest) default key v scope)
      (if key = some k then write s v scope else writeCase rest default key v scope) := by
  rw [buildCase]
  exact Emits.ite _ hs hrest

lemma emits_case_nil (default : Option Schema) (key : Option String)
    (hd : ∀ d ∈ default, Emits (d.buildIn v scope) (write d v scope)) :
    Emits (buildCase [] default key v scope) (match default with
      | some d => write d v scope
      | none => (.error (.unresolvedCase key), [])) := by
  unfold buildCase
  rcases default with _ | d
  · exact Emits.throw _
  · exact hd d rfl

/-- A struct takes the value's record and builds its fields in a scope that shows the whole
record. -/
lemma emits_struct (fields : List (String × Schema))
    (hfields : ∀ r, Emits (buildFields fields r (scope.push r)) (writeFields fields r (scope.push r))) :
    Emits ((Schema.struct fields).buildIn v scope) (match v.fields? with
      | none => (.error (.invalidValue "struct" v.typeName), [])
      | some r => writeFields fields r (scope.push r)) := by
  rw [buildIn]
  refine ((Emits.convert _ _ v).bind fun r => (hfields r).traced).congr ?_
  rcases v.fields? with _ | r
  · rfl
  · simp

/-- An array takes the value's items, checks their number against the count, and builds the
item `i` in a scope that shows its index. -/
lemma emits_array (item : Schema) (count : Length)
    (hitem : ∀ i x, Emits (item.buildIn x (scope.push (Scope.indexLayer i)))
      (write item x (scope.push (Scope.indexLayer i)))) :
    Emits ((Schema.array item count).buildIn v scope) (match v.items? with
      | none => (.error (.invalidValue "array" v.typeName), [])
      | some items => match count.resolveClamped scope with
        | .error e => (.error e, [])
        | .ok n =>
          if items.length ≠ n then (.error (.lengthMismatch "array" n items.length), [])
          else itemsEmitted (fun i x => write item x (scope.push (Scope.indexLayer i))) 0 items) := by
  rw [buildIn]
  dsimp only
  refine ((Emits.convert _ _ v).bind fun items => ((Emits.ofExcept _).bind fun n =>
    Emits.ite _ ((Emits.throw _).bind fun _ => Emits.itemsFrom hitem 0 items)
      (Emits.itemsFrom hitem 0 items)).traced).congr ?_
  rcases v.items? with _ | items
  · rfl
  · rcases count.resolveClamped scope with e | n
    · simp
    · by_cases hn : items.length = n <;> simp [hn]

lemma emits_greedy (item : Schema) (hitem : ∀ x, Emits (item.buildIn x scope) (write item x scope)) :
    Emits ((Schema.greedy item).buildIn v scope) (match v.items? with
      | none => (.error (.invalidValue "array" v.typeName), [])
      | some items => itemsEmitted (fun _ x => write item x scope) 0 items) := by
  rw [buildIn]
  refine ((Emits.convert _ _ v).bind fun items =>
    (Emits.itemsFrom (fun _ => hitem) 0 items).traced).congr ?_
  rcases v.items? with _ | items
  · rfl
  · simp

/-- A switch shows the fields of the value it builds, takes its key in that scope and builds
the case registered under it there. -/
lemma emits_switch (on : SwitchOn) (cases : List (String × Schema)) (default : Option Schema)
    (hcase : Emits (buildCase cases default (on.key? (scope.push (v.fields?.getD []))) v
        (scope.push (v.fields?.getD [])))
      (writeCase cases default (on.key? (scope.push (v.fields?.getD []))) v
        (scope.push (v.fields?.getD [])))) :
    Emits ((Schema.switch on cases default).buildIn v scope)
      (writeCase cases default (on.key? (scope.push (v.fields?.getD []))) v
        (scope.push (v.fields?.getD []))) := by
  rw [buildIn]
  exact (Emits.log.bind fun _ => hcase).traced.congr (by simp)

/-- A sized region builds its inner schema apart, checks it against the total the value
declares, and writes it followed by zeros up to that total. -/
lemma emits_sized (inner : Schema) (total : Value → Option Int64)
    (hinner : Emits (inner.buildIn v scope) (write inner v scope)) :
    Emits ((Schema.sized inner total).buildIn v scope) (match write inner v scope with
      | (.error e, _) => (.error e, [])
      | (.ok _, b) => match declaredTotal total v with
        | .error e => (.error e, [])
        | .ok t =>
          if b.length > t then (.error (.oversized t b.length), [])
          else (.ok (), b ++ List.replicate (t - b.length) 0)) := by
  have hpad : ∀ (b : Bytes) (t : Nat), Emits
      (if t - b.length > 0 then (do BuildM.log; emit (List.replicate (t - b.length) 0))
        else pure ()) (.ok (), List.replicate (t - b.length) 0) := by
    intro b t
    refine (Emits.ite _ (Emits.log.bind fun _ => Emits.emit _) (Emits.pure ())).congr ?_
    by_cases hp : t - b.length > 0
    · simp [hp]
    · simp [show t - b.length = 0 by omega]
  rw [buildIn]
  dsimp only
  refine ((hinner.isolated.bind fun built => (Emits.ofExcept _).bind fun declared => Emits.ite _
    ((Emits.throw _).bind fun _ => (Emits.emit built).bind fun _ => hpad built declared)
    ((Emits.emit built).bind fun _ => hpad built declared)).traced).congr ?_
  rcases write inner v scope with ⟨_ | _, b⟩
  · simp [Except.map]
  · rcases declaredTotal total v with e | t
    · simp [Except.map]
    · by_cases ho : b.length > t <;> simp [Except.map, ho]

/-- A window builds its inner schema apart and writes what it built; its length is neither
written nor checked. -/
lemma emits_prefixed (length : Length) (inner : Schema)
    (hinner : Emits (inner.buildIn v scope) (write inner v scope)) :
    Emits ((Schema.prefixed length inner).buildIn v scope) (match write inner v scope with
      | (.error e, _) => (.error e, [])
      | (.ok _, b) => (.ok (), b)) := by
  rw [buildIn]
  refine (hinner.isolated.bind fun built => Emits.emit built).traced.congr ?_
  rcases write inner v scope with ⟨_ | _, b⟩ <;> simp [Except.map]

end Cases

/-! ### Every schema's build emits what it writes -/

lemma buildFields_emits {fields : List (String × Schema)}
    (h : ∀ f ∈ fields, ∀ x scope, Emits (f.2.buildIn x scope) (write f.2 x scope))
    (r : Record) (scope : Scope) :
    Emits (buildFields fields r scope) (writeFields fields r scope) := by
  induction fields with
  | nil => exact (emits_fields_nil scope r).written
  | cons f rest ih =>
    exact (emits_fields_cons scope f.1 f.2 rest r (fun x => h f List.mem_cons_self x scope)
      (ih fun g hg => h g (List.mem_cons_of_mem _ hg))).written

lemma buildCase_emits {cases : List (String × Schema)} {default : Option Schema}
    (hc : ∀ c ∈ cases, ∀ x scope, Emits (c.2.buildIn x scope) (write c.2 x scope))
    (hd : ∀ d ∈ default, ∀ x scope, Emits (d.buildIn x scope) (write d x scope))
    (key : Option String) (v : Value) (scope : Scope) :
    Emits (buildCase cases default key v scope) (writeCase cases default key v scope) := by
  induction cases with
  | nil => exact (emits_case_nil v scope default key fun d hmem => hd d hmem v scope).written
  | cons c rest ih =>
    exact (emits_case_cons v scope c.1 c.2 rest default key (hc c List.mem_cons_self v scope)
      (ih fun g hg => hc g (List.mem_cons_of_mem _ hg))).written

/-- **A build only appends.** Run from any state, a schema's build returns what it returns
from nothing and appends to the output the bytes it writes from nothing. -/
theorem buildIn_emits (s : Schema) (v : Value) (scope : Scope) :
    Emits (s.buildIn v scope) (write s v scope) := by
  induction s using Schema.induction generalizing v scope with
  | number kind order => exact (emits_number v scope kind order).written
  | bytes length => exact (emits_bytes v scope length).written
  | literal expected => exact (emits_literal v scope expected).written
  | text encoding length => exact (emits_text v scope encoding length).written
  | struct fields ih =>
    exact (emits_struct v scope fields fun r => buildFields_emits ih r _).written
  | array item count ih => exact (emits_array v scope item count fun _ x => ih x _).written
  | greedy item ih => exact (emits_greedy v scope item fun x => ih x scope).written
  | switch on cases default hc hd =>
    exact (emits_switch v scope on cases default (buildCase_emits hc hd _ v _)).written
  | sized inner total ih => exact (emits_sized v scope inner total (ih v scope)).written
  | prefixed length inner ih => exact (emits_prefixed v scope length inner (ih v scope)).written

/-- A whole build writes what `write` says in the root scope. -/
theorem build_eq_write (s : Schema) (v : Value) :
    ((s.build v).1, (s.build v).2.output.toList) = write s v Scope.root :=
  rfl

/-! ### The build of each kind of schema -/

section Equations

variable (v : Value) (scope : Scope)

lemma write_number (kind : NumberKind) (order : ByteOrder) :
    write (.number kind order) v scope = match kind.encode order v with
      | .ok bs => (.ok (), bs)
      | .error e => (.error e, []) :=
  (emits_number v scope kind order).written_eq

lemma write_bytes (length : Length) :
    write (.bytes length) v scope = match v.asBytes? with
      | none => (.error (.invalidValue "bytes" v.typeName), [])
      | some bs => match length.resolveClamped scope with
        | .error e => (.error e, [])
        | .ok n =>
          if bs.length ≠ n then (.error (.lengthMismatch "bytes" n bs.length), [])
          else (.ok (), bs) :=
  (emits_bytes v scope length).written_eq

lemma write_literal (expected : Bytes) :
    write (.literal expected) v scope = match v.asBytes? with
      | none => (.error (.invalidValue "bytes" v.typeName), [])
      | some bs =>
        if bs ≠ expected then (.error (.literalMismatch expected bs), [])
        else (.ok (), expected) :=
  (emits_literal v scope expected).written_eq

lemma write_text (encoding : Encoding) (length : Option Length) :
    write (.text encoding length) v scope = match v.text? with
      | none => (.error (.invalidValue "text" v.typeName), [])
      | some str => match encoding.toBytes str with
        | .error f => (.error (.invalidEncoding encoding f), [])
        | .ok bs => match length with
          | none => (.ok (), bs)
          | some l => match l.resolveClamped scope with
            | .error e => (.error e, [])
            | .ok n =>
              if bs.length ≠ n then (.error (.lengthMismatch encoding.name n bs.length), [])
              else (.ok (), bs) :=
  (emits_text v scope encoding length).written_eq

lemma write_struct (fields : List (String × Schema)) :
    write (.struct fields) v scope = match v.fields? with
      | none => (.error (.invalidValue "struct" v.typeName), [])
      | some r => writeFields fields r (scope.push r) :=
  (emits_struct v scope fields fun r =>
    buildFields_emits (fun f _ => buildIn_emits f.2) r _).written_eq

lemma writeFields_nil (r : Record) : writeFields [] r scope = (.ok (), []) :=
  (emits_fields_nil scope r).written_eq

lemma writeFields_cons (name : String) (s : Schema) (rest : List (String × Schema)) (r : Record) :
    writeFields ((name, s) :: rest) r scope =
      andThen (match r.get? name with
        | some x => write s x scope
        | none => writeMissing s name) fun _ => writeFields rest r scope :=
  (emits_fields_cons scope name s rest r (fun x => buildIn_emits s x scope)
    (buildFields_emits (fun f _ => buildIn_emits f.2) r scope)).written_eq

lemma write_array (item : Schema) (count : Length) :
    write (.array item count) v scope = match v.items? with
      | none => (.error (.invalidValue "array" v.typeName), [])
      | some items => match count.resolveClamped scope with
        | .error e => (.error e, [])
        | .ok n =>
          if items.length ≠ n then (.error (.lengthMismatch "array" n items.length), [])
          else itemsEmitted (fun i x => write item x (scope.push (Scope.indexLayer i))) 0 items :=
  (emits_array v scope item count fun _ x => buildIn_emits item x _).written_eq

lemma write_greedy (item : Schema) :
    write (.greedy item) v scope = match v.items? with
      | none => (.error (.invalidValue "array" v.typeName), [])
      | some items => itemsEmitted (fun _ x => write item x scope) 0 items :=
  (emits_greedy v scope item fun x => buildIn_emits item x scope).written_eq

lemma write_switch (on : SwitchOn) (cases : List (String × Schema)) (default : Option Schema) :
    write (.switch on cases default) v scope =
      writeCase cases default (on.key? (scope.push (v.fields?.getD []))) v
        (scope.push (v.fields?.getD [])) :=
  (emits_switch v scope on cases default (buildCase_emits (fun c _ => buildIn_emits c.2)
    (fun d _ => buildIn_emits d) _ v _)).written_eq

lemma writeCase_cons (k : String) (s : Schema) (rest : List (String × Schema))
    (default : Option Schema) (key : Option String) :
    writeCase ((k, s) :: rest) default key v scope =
      if key = some k then write s v scope else writeCase rest default key v scope :=
  (emits_case_cons v scope k s rest default key (buildIn_emits s v scope)
    (buildCase_emits (fun c _ => buildIn_emits c.2) (fun d _ => buildIn_emits d) key v
      scope)).written_eq

lemma writeCase_nil (default : Option Schema) (key : Option String) :
    writeCase [] default key v scope = match default with
      | some d => write d v scope
      | none => (.error (.unresolvedCase key), []) := by
  rcases default with _ | d <;>
    exact (emits_case_nil v scope _ key fun d _ => buildIn_emits d v scope).written_eq

lemma write_sized (inner : Schema) (total : Value → Option Int64) :
    write (.sized inner total) v scope = match write inner v scope with
      | (.error e, _) => (.error e, [])
      | (.ok _, b) => match declaredTotal total v with
        | .error e => (.error e, [])
        | .ok t =>
          if b.length > t then (.error (.oversized t b.length), [])
          else (.ok (), b ++ List.replicate (t - b.length) 0) :=
  (emits_sized v scope inner total (buildIn_emits inner v scope)).written_eq

lemma write_prefixed (length : Length) (inner : Schema) :
    write (.prefixed length inner) v scope = match write inner v scope with
      | (.error e, _) => (.error e, [])
      | (.ok _, b) => (.ok (), b) :=
  (emits_prefixed v scope length inner (buildIn_emits inner v scope)).written_eq

end Equations

end Schema

end ByteLayout
