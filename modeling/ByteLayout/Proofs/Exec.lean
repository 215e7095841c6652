import Mathlib
import ByteLayout.Parse
import ByteLayout.Build

set_option autoImplicit false

/-!
# Running parse and build computations

A parse is a computation in `ParseM`, an exception monad over the parse state; a build is one
in `BuildM`, over the build state. This module runs both kinds of computation as functions
from a state to a result and a state, and gives one equation for each operation the schemas
use, so that later proofs never unfold the monads.

## Main definitions

* `ByteLayout.runFrom` — a computation that may fail, on any state, run from a state.
* `ByteLayout.ParseM.exec`, `ByteLayout.BuildM.exec` — a parse and a build run from a state.

## Main results

* `ByteLayout.ParseM.exec_bind`, `ByteLayout.BuildM.exec_bind` — sequencing.
* `ByteLayout.ParseM.exec_read`, `exec_peek`, `exec_skip`, `exec_checkBounds` — the cursor
  operations: each fails exactly when fewer bytes remain than it needs, and then leaves the
  state as it was.
* `ByteLayout.ParseM.exec_traced`, `exec_within`, `ByteLayout.BuildM.exec_isolated` — the
  wrappers, in terms of the computation they wrap.
-/

namespace ByteLayout

/-! ### Runs on any state -/

section Run

variable {σ α β : Type}

/-- A run, from a state, of a computation on states of type `σ` that may fail: its result and
the state after it. Parses and builds are such computations, each on its own state. -/
def runFrom (p : ExceptT Error (StateM σ) α) (st : σ) : Except Error α × σ :=
  (p.run st).run

lemma runFrom_bind (x : ExceptT Error (StateM σ) α) (f : α → ExceptT Error (StateM σ) β)
    (st : σ) :
    runFrom (x >>= f) st = match runFrom x st with
      | (.ok a, s) => runFrom (f a) s
      | (.error e, s) => (.error e, s) := by
  unfold runFrom
  rw [ExceptT.run_bind]
  show (StateT.run (ExceptT.run x >>= _) st).run = _
  rw [StateT.run_bind]
  rcases h : (x.run st).run with ⟨_ | a, s⟩
  · simp only [Id.run, StateT.run] at h ⊢; rw [h]; rfl
  · simp only [Id.run, StateT.run] at h ⊢; rw [h]; rfl

lemma runFrom_ofExcept (r : Except Error α) (st : σ) :
    runFrom (MonadExcept.ofExcept r : ExceptT Error (StateM σ) α) st = (r, st) := by
  cases r <;> rfl

/-- A handled computation continues with the handler from the state the failure left. -/
lemma runFrom_tryCatch (x : ExceptT Error (StateM σ) α)
    (h : Error → ExceptT Error (StateM σ) α) (st : σ) :
    runFrom (tryCatch x h) st = match runFrom x st with
      | (.ok a, s) => (.ok a, s)
      | (.error e, s) => runFrom (h e) s := by
  unfold runFrom
  simp only [tryCatch, ExceptT.run]
  rcases hx : x st with ⟨_ | a, s⟩ <;>
  simp [hx, tryCatchThe, MonadExceptOf.tryCatch, ExceptT.tryCatch, ExceptT.mk, bind, StateT.bind,
    Id.run, pure, StateT.pure]

end Run

namespace ParseState

variable (st : ParseState)

@[simp] lemma note_offset : st.note.offset = st.offset := by
  unfold note; split <;> rfl

@[simp] lemma note_debug : st.note.debug = st.debug := by
  unfold note; split <;> rfl

@[simp] lemma note_depth : st.note.depth = st.depth := by
  unfold note; split <;> rfl

lemma note_trace : st.note.trace = if st.debug then st.trace.push st.depth else st.trace := by
  unfold note; split <;> rfl

end ParseState

namespace ParseM

variable {α β : Type}

/-- A parse run from a state: its result and the state after it. -/
def exec (p : ParseM α) (st : ParseState) : Except Error α × ParseState :=
  (p.run st).run

lemma exec_eq_runFrom (p : ParseM α) (st : ParseState) : exec p st = runFrom p st :=
  rfl

lemma exec_bind (x : ParseM α) (f : α → ParseM β) (st : ParseState) :
    exec (x >>= f) st = match exec x st with
      | (.ok a, s) => exec (f a) s
      | (.error e, s) => (.error e, s) := by
  simp only [exec_eq_runFrom]
  rw [runFrom_bind]
  rcases runFrom x st with ⟨_ | a, s⟩ <;> rfl

/-- Sequencing after a computation that succeeded. -/
lemma exec_bind_of_ok {x : ParseM α} {st s : ParseState} {a : α} (h : exec x st = (.ok a, s))
    (f : α → ParseM β) : exec (x >>= f) st = exec (f a) s := by
  rw [exec_bind, h]

/-- Sequencing after a computation that failed. -/
lemma exec_bind_of_error {x : ParseM α} {st s : ParseState} {e : Error}
    (h : exec x st = (.error e, s)) (f : α → ParseM β) : exec (x >>= f) st = (.error e, s) := by
  rw [exec_bind, h]

@[simp] lemma exec_pure (a : α) (st : ParseState) : exec (pure a : ParseM α) st = (.ok a, st) :=
  rfl

@[simp] lemma exec_throw (e : Error) (st : ParseState) :
    exec (throw e : ParseM α) st = (.error e, st) :=
  rfl

@[simp] lemma exec_get (st : ParseState) : exec (get : ParseM ParseState) st = (.ok st, st) :=
  rfl

@[simp] lemma exec_modify (g : ParseState → ParseState) (st : ParseState) :
    exec (modify g : ParseM Unit) st = (.ok (), g st) :=
  rfl

@[simp] lemma exec_ofExcept (r : Except Error α) (st : ParseState) :
    exec (MonadExcept.ofExcept r : ParseM α) st = (r, st) :=
  runFrom_ofExcept r st

@[simp] lemma exec_log (st : ParseState) : exec log st = (.ok (), st.note) :=
  rfl

lemma exec_attempt (p : ParseM α) (st : ParseState) :
    exec (attempt p) st = (.ok (exec p st).1, (exec p st).2) := by
  unfold attempt exec
  simp only [tryCatch, ExceptT.run]
  rcases h : p st with ⟨_ | a, s⟩ <;>
  simp [h, Functor.map, ExceptT.map, ExceptT.mk, bind, Id.run, tryCatchThe,
    MonadExceptOf.tryCatch, ExceptT.tryCatch, StateT.bind, pure, StateT.pure, ExceptT.pure]

lemma exec_checkBounds (data : Array UInt8) (n : Nat) (st : ParseState) :
    exec (checkBounds data n) st =
      if n > data.size - st.offset then (.error (.insufficientData n (data.size - st.offset)), st)
      else (.ok (), st) := by
  unfold checkBounds
  by_cases h : n > data.size - st.offset <;> simp [h, exec_bind]

lemma exec_remaining (data : Array UInt8) (st : ParseState) :
    exec (remaining data) st = (.ok (data.size - st.offset), st) :=
  rfl

lemma exec_peek (data : Array UInt8) (n : Nat) (st : ParseState) :
    exec (peek data n) st =
      if n > data.size - st.offset then (.error (.insufficientData n (data.size - st.offset)), st)
      else (.ok (data.extract st.offset (st.offset + n)).toList, st) := by
  unfold peek
  by_cases h : n > data.size - st.offset
  · rw [exec_bind_of_error (by rw [exec_checkBounds, if_pos h])]; simp [h]
  · rw [exec_bind_of_ok (by rw [exec_checkBounds, if_neg h])]; simp [h]; rfl

lemma exec_skip (data : Array UInt8) (n : Nat) (st : ParseState) :
    exec (skip data n) st =
      if n > data.size - st.offset then (.error (.insufficientData n (data.size - st.offset)), st)
      else (.ok (), { st with offset := st.offset + n }) := by
  unfold skip
  by_cases h : n > data.size - st.offset
  · rw [exec_bind_of_error (by rw [exec_checkBounds, if_pos h])]; simp [h]
  · rw [exec_bind_of_ok (by rw [exec_checkBounds, if_neg h])]; simp [h]

lemma exec_read (data : Array UInt8) (n : Nat) (st : ParseState) :
    exec (read data n) st =
      if n > data.size - st.offset then (.error (.insufficientData n (data.size - st.offset)), st)
      else (.ok (data.extract st.offset (st.offset + n)).toList,
        { st with offset := st.offset + n }) := by
  unfold read
  by_cases h : n > data.size - st.offset
  · rw [exec_bind_of_error (by rw [exec_peek, if_pos h])]; simp [h]
  · rw [exec_bind_of_ok (by rw [exec_peek, if_neg h])]; simp [h]; rfl

/-- With the trace on, a traced computation runs one level deeper, between two trace entries;
with the trace off it is the computation itself. -/
lemma exec_traced (p : ParseM α) (st : ParseState) :
    exec (traced p) st =
      if st.debug then
        let r := exec p { st with trace := st.trace.push st.depth, depth := st.depth + 1 }
        (r.1, { r.2 with depth := r.2.depth - 1, trace := r.2.trace.push (r.2.depth - 1) })
      else exec p st := by
  unfold traced
  rw [exec_bind, exec_get]
  dsimp only
  by_cases h : st.debug
  · simp only [h, if_true, exec_bind, exec_modify, exec_attempt, exec_ofExcept]
  · simp only [h, Bool.false_eq_true, if_false]

/-- A window runs its parse from offset zero and afterwards puts the cursor past the whole
window, or back where it was if the parse failed. -/
lemma exec_within (n : Nat) (p : ParseM α) (st : ParseState) :
    exec (within n p) st =
      let r := exec p { st with offset := 0 }
      match r.1 with
      | .ok v => (.ok v, { r.2 with offset := st.offset + n })
      | .error e => (.error e, { r.2 with offset := st.offset }) := by
  unfold within
  simp only [exec_bind, exec_get, exec_modify, exec_attempt]
  rcases exec p { st with offset := 0 } with ⟨_ | v, s⟩ <;> simp

lemma exec_greedy (data : Array UInt8) (item : ParseM Value) (st : ParseState) :
    exec (greedy data item) st = greedyFrom data item #[] st :=
  rfl

lemma exec_itemsFrom_zero (item : Nat → ParseM Value) (i : Nat) (acc : Array Value)
    (st : ParseState) : exec (itemsFrom item i 0 acc) st = (.ok (.array acc.toList), st) :=
  rfl

lemma exec_itemsFrom_succ (item : Nat → ParseM Value) (i k : Nat) (acc : Array Value)
    (st : ParseState) :
    exec (itemsFrom item i (k + 1) acc) st = match exec (item i) st with
      | (.ok v, s) => exec (itemsFrom item (i + 1) k (acc.push v)) s
      | (.error e, s) => (.error e, s) := by
  rw [itemsFrom, exec_bind]
  generalize exec (item i) st = r
  rcases r with ⟨_ | v, s⟩ <;> rfl

end ParseM

namespace BuildState

variable (st : BuildState)

@[simp] lemma note_output : st.note.output = st.output := by
  unfold note; split <;> rfl

@[simp] lemma note_debug : st.note.debug = st.debug := by
  unfold note; split <;> rfl

@[simp] lemma note_depth : st.note.depth = st.depth := by
  unfold note; split <;> rfl

lemma note_trace : st.note.trace = if st.debug then st.trace.push st.depth else st.trace := by
  unfold note; split <;> rfl

end BuildState

namespace BuildM

variable {α β : Type}

/-- A build run from a state: its result and the state after it. -/
def exec (p : BuildM α) (st : BuildState) : Except Error α × BuildState :=
  (p.run st).run

lemma exec_eq_runFrom (p : BuildM α) (st : BuildState) : exec p st = runFrom p st :=
  rfl

lemma exec_bind (x : BuildM α) (f : α → BuildM β) (st : BuildState) :
    exec (x >>= f) st = match exec x st with
      | (.ok a, s) => exec (f a) s
      | (.error e, s) => (.error e, s) := by
  simp only [exec_eq_runFrom]
  rw [runFrom_bind]
  rcases runFrom x st with ⟨_ | a, s⟩ <;> rfl

@[simp] lemma exec_pure (a : α) (st : BuildState) : exec (pure a : BuildM α) st = (.ok a, st) :=
  rfl

@[simp] lemma exec_throw (e : Error) (st : BuildState) :
    exec (throw e : BuildM α) st = (.error e, st) :=
  rfl

@[simp] lemma exec_get (st : BuildState) : exec (get : BuildM BuildState) st = (.ok st, st) :=
  rfl

@[simp] lemma exec_modify (g : BuildState → BuildState) (st : BuildState) :
    exec (modify g : BuildM Unit) st = (.ok (), g st) :=
  rfl

@[simp] lemma exec_ofExcept (r : Except Error α) (st : BuildState) :
    exec (MonadExcept.ofExcept r : BuildM α) st = (r, st) :=
  runFrom_ofExcept r st

@[simp] lemma exec_emit (bs : Bytes) (st : BuildState) :
    exec (emit bs) st = (.ok (), { st with output := st.output ++ bs.toArray }) :=
  rfl

@[simp] lemma exec_log (st : BuildState) : exec log st = (.ok (), st.note) :=
  rfl

lemma exec_attempt (p : BuildM α) (st : BuildState) :
    exec (attempt p) st = (.ok (exec p st).1, (exec p st).2) := by
  unfold attempt exec
  simp only [tryCatch, ExceptT.run]
  rcases h : p st with ⟨_ | a, s⟩ <;>
  simp [h, Functor.map, ExceptT.map, ExceptT.mk, bind, Id.run, tryCatchThe,
    MonadExceptOf.tryCatch, ExceptT.tryCatch, StateT.bind, pure, StateT.pure, ExceptT.pure]

/-- A handled build continues with the handler from the state the failure left. -/
lemma exec_tryCatch (x : BuildM α) (h : Error → BuildM α) (st : BuildState) :
    exec (tryCatch x h) st = match exec x st with
      | (.ok a, s) => (.ok a, s)
      | (.error e, s) => exec (h e) s := by
  simp only [exec_eq_runFrom]
  rw [runFrom_tryCatch]
  rcases runFrom x st with ⟨_ | a, s⟩ <;> rfl

/-- With the trace on, a traced build runs one level deeper, between two trace entries; with
the trace off it is the build itself. -/
lemma exec_traced (p : BuildM α) (st : BuildState) :
    exec (traced p) st =
      if st.debug then
        let r := exec p { st with trace := st.trace.push st.depth, depth := st.depth + 1 }
        (r.1, { r.2 with depth := r.2.depth - 1, trace := r.2.trace.push (r.2.depth - 1) })
      else exec p st := by
  unfold traced
  rw [exec_bind, exec_get]
  dsimp only
  by_cases h : st.debug
  · simp only [h, if_true, exec_bind, exec_modify, exec_attempt, exec_ofExcept]
  · simp only [h, Bool.false_eq_true, if_false]

/-- An isolated build runs against empty output, then restores the output it found and
returns what the build wrote if it succeeded. -/
lemma exec_isolated (p : BuildM Unit) (st : BuildState) :
    exec (isolated p) st =
      let r := exec p { st with output := #[] }
      match r.1 with
      | .ok _ => (.ok r.2.output.toList, { r.2 with output := st.output })
      | .error e => (.error e, { r.2 with output := st.output }) := by
  unfold isolated
  simp only [exec_bind, exec_get, exec_modify, exec_attempt]
  rcases exec p { st with output := #[] } with ⟨_ | v, s⟩ <;> simp

lemma exec_itemsFrom_nil (item : Nat → Value → BuildM Unit) (i : Nat) (st : BuildState) :
    exec (itemsFrom item i []) st = (.ok (), st) :=
  rfl

lemma exec_itemsFrom_cons (item : Nat → Value → BuildM Unit) (i : Nat) (v : Value)
    (rest : List Value) (st : BuildState) :
    exec (itemsFrom item i (v :: rest)) st = match exec (item i v) st with
      | (.ok _, s) => exec (itemsFrom item (i + 1) rest) s
      | (.error e, s) => (.error e, s) := by
  rw [itemsFrom, exec_bind]
  generalize exec (item i v) st = r
  rcases r with ⟨_ | _, s⟩ <;> rfl

end BuildM

end ByteLayout
