import ByteLayout.Proofs.Write

set_option autoImplicit false

/-!
# The debug trace

With the trace on, every schema that parses or builds records an entry at the depth where it
starts, goes one level deeper for its own work, and records an entry at that depth again when it
returns, whether it succeeds or fails; its own lines (bytes read, switch keys, the end of a
greedy repetition, padding) stand one level deeper than its entries, next to the entries of the
schemas inside it. This module states that shape as a grammar of depths and proves that every
run has it, that the trace off records nothing, and that the trace never changes what a parse
or a build returns, where a parse leaves its cursor, or what a build writes.

## Main definitions

* `ByteLayout.Lines` — the depths of the entries of a stretch of a run at some depth.
* `ByteLayout.Call` — the depths of the entries of one traced invocation.
* `ByteLayout.TraceView` — the part of a state the trace consists of, with `TraceView.Extends`,
  how a run may change it.
* `ByteLayout.Traces` — computations, parses and builds alike, whose runs change the trace as
  some shape says.

## Main results

* `ByteLayout.Schema.parseIn_traces`, `ByteLayout.Schema.buildIn_traces` — every parse appends
  one invocation to the trace, and every build one or, when its value does not convert,
  nothing; both return to the depth they started at.
* `ByteLayout.Schema.debug_trace_bracketed` — the traced entry points return what the plain
  ones do, the plain ones record nothing, and a traced run records one invocation at depth 0.
-/

namespace ByteLayout

/-- The depths of the trace entries of a stretch of a run at depth `j`: lines at `j` and traced
invocations entered at `j`, one after another. -/
inductive Lines : Nat → List Nat → Prop
  /-- Nothing recorded. -/
  | nil (j : Nat) : Lines j []
  /-- A line of the stretch itself. -/
  | line {j : Nat} {xs : List Nat} : Lines j xs → Lines j (xs ++ [j])
  /-- An invocation: its entry at `j`, its own stretch one level deeper, its exit at `j`. -/
  | call {j : Nat} {xs body : List Nat} : Lines j xs → Lines (j + 1) body →
      Lines j (xs ++ (j :: body ++ [j]))

/-- The depths of the trace entries of one traced invocation entered at depth `k`: its entry at
`k`, then its own lines and the invocations inside it one level deeper, then its exit at `k`. -/
def Call (k : Nat) (seg : List Nat) : Prop :=
  ∃ body, Lines (k + 1) body ∧ seg = k :: body ++ [k]

namespace Lines

/-- Two stretches at one depth, one after the other, are a stretch at that depth. -/
theorem append {j : Nat} {xs ys : List Nat} (hx : Lines j xs) (hy : Lines j ys) :
    Lines j (xs ++ ys) := by
  revert hx
  induction hy with
  | nil => intro hx; simpa using hx
  | line _ ih =>
    intro hx
    rw [← List.append_assoc]
    exact (ih hx).line
  | call _ hbody ih =>
    intro hx
    rw [← List.append_assoc]
    exact (ih hx).call hbody

lemma of_call {j : Nat} {seg : List Nat} (h : Call j seg) : Lines j seg := by
  obtain ⟨body, hbody, rfl⟩ := h
  simpa using (Lines.nil j).call hbody

/-- No entry of a stretch at depth `j` is shallower than `j`. -/
theorem le_of_mem {j : Nat} {xs : List Nat} (h : Lines j xs) : ∀ x ∈ xs, j ≤ x := by
  induction h with
  | nil => intro x hx; cases hx
  | line _ ih =>
    intro x hx
    rcases List.mem_append.1 hx with hx | hx
    · exact ih x hx
    · rw [List.mem_singleton.1 hx]
  | call _ _ ih ihbody =>
    intro x hx
    rcases List.mem_append.1 hx with hx | hx
    · exact ih x hx
    · rcases List.mem_append.1 hx with hx | hx
      · rcases List.mem_cons.1 hx with rfl | hx
        · exact Nat.le_refl _
        · exact Nat.le_of_succ_le (ihbody x hx)
      · rw [List.mem_singleton.1 hx]

end Lines

/-- What the trace consists of in a state: whether it is on, the depth, and the entries so far. -/
structure TraceView where
  on : Bool
  depth : Nat
  entries : Array Nat

namespace TraceView

/-- The view `after` continues `before` as `P` says: with the trace still on or off, at the same
depth, and with the entries of `before` followed by a segment, which is empty when the trace is
off and has the shape `P` at the starting depth when it is on. -/
def Extends (P : Nat → List Nat → Prop) (before after : TraceView) : Prop :=
  after.on = before.on ∧ after.depth = before.depth ∧
    ∃ seg, after.entries.toList = before.entries.toList ++ seg ∧
      (before.on = true → P before.depth seg) ∧ (before.on = false → seg = [])

variable {P Q : Nat → List Nat → Prop} {t t₁ t₂ t₃ : TraceView}

lemma Extends.refl (hP : ∀ k, P k []) (t : TraceView) : Extends P t t :=
  ⟨rfl, rfl, [], by simp, fun _ => hP _, fun _ => rfl⟩

lemma Extends.mono (h : Extends P t₁ t₂) (hPQ : ∀ k seg, P k seg → Q k seg) : Extends Q t₁ t₂ := by
  obtain ⟨hon, hdepth, seg, hseg, hP, hoff⟩ := h
  exact ⟨hon, hdepth, seg, hseg, fun h => hPQ _ _ (hP h), hoff⟩

/-- With the trace off, a run that records nothing has every shape. -/
lemma Extends.of_off (ht : t₁.on = false) (h : Extends P t₁ t₂) : Extends Q t₁ t₂ := by
  obtain ⟨hon, hdepth, seg, hseg, -, hoff⟩ := h
  exact ⟨hon, hdepth, seg, hseg, fun h => absurd (ht.symm.trans h) Bool.false_ne_true, hoff⟩

/-- One stretch after another at the same depth. -/
lemma Extends.trans (h₁ : Extends Lines t₁ t₂) (h₂ : Extends Lines t₂ t₃) :
    Extends Lines t₁ t₃ := by
  obtain ⟨hon₁, hdepth₁, seg₁, hseg₁, hP₁, hoff₁⟩ := h₁
  obtain ⟨hon₂, hdepth₂, seg₂, hseg₂, hP₂, hoff₂⟩ := h₂
  refine ⟨hon₂.trans hon₁, hdepth₂.trans hdepth₁, seg₁ ++ seg₂, by
    rw [hseg₂, hseg₁, List.append_assoc], fun h => ?_, fun h => ?_⟩
  · exact (hP₁ h).append (hdepth₁ ▸ hP₂ (hon₁.trans h))
  · rw [hoff₁ h, hoff₂ (hon₁.trans h)]
    rfl

/-- A run that records nothing, then a run of some shape. -/
lemma Extends.silent_trans (h₁ : Extends (fun _ seg => seg = []) t₁ t₂) (h₂ : Extends P t₂ t₃) :
    Extends P t₁ t₃ := by
  obtain ⟨hon₁, hdepth₁, seg₁, hseg₁, hP₁, hoff₁⟩ := h₁
  obtain ⟨hon₂, hdepth₂, seg₂, hseg₂, hP₂, hoff₂⟩ := h₂
  -- the first run records nothing whether the trace is on or off
  have hnil : seg₁ = [] := by
    cases hb : t₁.on
    · exact hoff₁ hb
    · exact hP₁ hb
  subst hnil
  refine ⟨hon₂.trans hon₁, hdepth₂.trans hdepth₁, seg₂, by rw [hseg₂, hseg₁, List.append_nil],
    fun h => ?_, fun h => hoff₂ (hon₁.trans h)⟩
  exact hdepth₁ ▸ hP₂ (hon₁.trans h)

/-- A line at the current depth, when the trace is on. -/
def note (t : TraceView) : TraceView :=
  if t.on then { t with entries := t.entries.push t.depth } else t

lemma extends_note (t : TraceView) : Extends Lines t t.note := by
  by_cases hon : t.on = true
  · have hn : t.note = { t with entries := t.entries.push t.depth } := by simp [note, hon]
    rw [hn]
    exact ⟨rfl, rfl, [t.depth], by simp, fun _ => (Lines.nil _).line,
      fun h => absurd (h.symm.trans hon) Bool.false_ne_true⟩
  · have hn : t.note = t := by simp [note, hon]
    rw [hn]
    exact Extends.refl Lines.nil t

/-- An invocation with the trace on: an entry at the depth, a stretch one level deeper, and an
entry after going back up. The stretch returns to the depth it started at, so going back up
lands exactly on the depth of the entry: the decrease never stops at zero. -/
lemma Extends.call (hon : t.on = true) (h : Extends Lines t₁ t₂)
    (h₁ : t₁ = { t with entries := t.entries.push t.depth, depth := t.depth + 1 })
    (h₂ : t₃ = { t₂ with depth := t₂.depth - 1, entries := t₂.entries.push (t₂.depth - 1) }) :
    Extends Call t t₃ := by
  subst h₁ h₂
  obtain ⟨hon', hdepth, body, hbody, hP, -⟩ := h
  simp only at hon' hdepth hbody hP
  have hback : t₂.depth - 1 = t.depth := by omega
  refine ⟨hon', hback, t.depth :: body ++ [t.depth], ?_, fun _ => ⟨body, hP hon, rfl⟩,
    fun h => absurd (h.symm.trans hon) Bool.false_ne_true⟩
  simp [hback, hbody]

/-- A continuation read off: the run returns to the depth it started at and appends a segment,
of the shape `P` at that depth with the trace on and empty with it off. -/
lemma Extends.segment (h : Extends P t₁ t₂) :
    t₂.depth = t₁.depth ∧ ∃ seg, t₂.entries.toList = t₁.entries.toList ++ seg ∧
      if t₁.on then P t₁.depth seg else seg = [] := by
  obtain ⟨-, hdepth, seg, hseg, hP, hoff⟩ := h
  refine ⟨hdepth, seg, hseg, ?_⟩
  cases hb : t₁.on
  · exact hoff hb
  · exact hP hb

end TraceView

/-- The trace view of a parse state. -/
def ParseState.view (st : ParseState) : TraceView := ⟨st.debug, st.depth, st.trace⟩

/-- The trace view of a build state. -/
def BuildState.view (st : BuildState) : TraceView := ⟨st.debug, st.depth, st.trace⟩

lemma ParseState.view_note (st : ParseState) : st.note.view = st.view.note := by
  unfold ParseState.note TraceView.note ParseState.view
  by_cases h : st.debug = true <;> simp [h]

lemma BuildState.view_note (st : BuildState) : st.note.view = st.view.note := by
  unfold BuildState.note TraceView.note BuildState.view
  by_cases h : st.debug = true <;> simp [h]

open TraceView

/-! ### Computations that trace -/

section Traces

variable {σ α β : Type}

/-- A computation on states whose trace `view` shows traces as `P`: every run of it, from any
state, changes the trace as `P` says. Parses and builds are such computations, each on its own
state. -/
def Traces (view : σ → TraceView) (p : ExceptT Error (StateM σ) α)
    (P : Nat → List Nat → Prop) : Prop :=
  ∀ st : σ, Extends P (view st) (view (runFrom p st).2)

namespace Traces

variable {view : σ → TraceView} {p : ExceptT Error (StateM σ) α}
  {P : Nat → List Nat → Prop}

/-- A computation that leaves the trace alone traces as any shape that allows nothing. -/
lemma of_view_eq (h : ∀ st, view (runFrom p st).2 = view st) (hP : ∀ k, P k []) :
    Traces view p P := by
  intro st
  rw [h st]
  exact Extends.refl hP _

/-- One run, read off from where it ended. -/
lemma extends_of_runFrom (h : Traces view p P) {st s : σ} {r : Except Error α}
    (e : runFrom p st = (r, s)) : Extends P (view st) (view s) := by
  have h₁ := h st
  rw [e] at h₁
  exact h₁

lemma mono (h : Traces view p P) {Q : Nat → List Nat → Prop}
    (hPQ : ∀ k seg, P k seg → Q k seg) : Traces view p Q :=
  fun st => (h st).mono hPQ

/-- An invocation is a stretch. -/
lemma lines (h : Traces view p Call) : Traces view p Lines :=
  h.mono fun _ _ => Lines.of_call

/-- A computation that records nothing or one invocation records a stretch. -/
lemma maybe_lines (h : Traces view p fun k seg => seg = [] ∨ Call k seg) : Traces view p Lines :=
  h.mono fun _ _ hseg => hseg.elim (fun hnil => hnil ▸ Lines.nil _) Lines.of_call

lemma pure (a : α) : Traces view (Pure.pure a : ExceptT Error (StateM σ) α) Lines :=
  of_view_eq (fun _ => rfl) Lines.nil

lemma throw (e : Error) : Traces view (MonadExcept.throw e : ExceptT Error (StateM σ) α) Lines :=
  of_view_eq (fun _ => rfl) Lines.nil

/-- An outcome given as it is records nothing, whether it is a failure or not. -/
lemma silent_ofExcept (r : Except Error α) :
    Traces view (MonadExcept.ofExcept r : ExceptT Error (StateM σ) α) fun _ seg => seg = [] :=
  of_view_eq (fun st => by rw [runFrom_ofExcept]) fun _ => rfl

lemma ofExcept (r : Except Error α) :
    Traces view (MonadExcept.ofExcept r : ExceptT Error (StateM σ) α) Lines :=
  of_view_eq (fun st => by rw [runFrom_ofExcept]) Lines.nil

/-- A step that adds an entry at the current depth, when the trace is on. -/
lemma note {g : σ → σ} (hg : ∀ st, view (g st) = (view st).note) :
    Traces view (modify g : ExceptT Error (StateM σ) Unit) Lines := by
  intro st
  show Extends Lines (view st) (view (g st))
  rw [hg]
  exact extends_note _

/-- Sequencing: the continuation's stretch follows the first part's, if the first part
succeeded. -/
lemma bind {x : ExceptT Error (StateM σ) α} {f : α → ExceptT Error (StateM σ) β}
    (hx : Traces view x Lines) (hf : ∀ a, Traces view (f a) Lines) :
    Traces view (x >>= f) Lines := by
  intro st
  rw [runFrom_bind]
  rcases e : runFrom x st with ⟨_ | a, s⟩
  · exact hx.extends_of_runFrom e
  · exact (hx.extends_of_runFrom e).trans (hf a s)

/-- A computation that records nothing, then one of some shape: nothing if the first fails. -/
lemma bind_silent {x : ExceptT Error (StateM σ) α} {f : α → ExceptT Error (StateM σ) β}
    (hx : Traces view x fun _ seg => seg = []) (hf : ∀ a, Traces view (f a) P) :
    Traces view (x >>= f) fun k seg => seg = [] ∨ P k seg := by
  intro st
  rw [runFrom_bind]
  rcases e : runFrom x st with ⟨_ | a, s⟩
  · exact (hx.extends_of_runFrom e).mono fun _ _ => Or.inl
  · exact (hx.extends_of_runFrom e).silent_trans ((hf a s).mono fun _ _ => Or.inr)

/-- A computation that reads the state first. -/
lemma bind_get {g : σ → ExceptT Error (StateM σ) β} (hg : ∀ st, Traces view (g st) Lines) :
    Traces view (get >>= g) Lines :=
  bind (of_view_eq (fun _ => rfl) Lines.nil) hg

lemma ite (c : Prop) [Decidable c] {a b : ExceptT Error (StateM σ) α} (ha : Traces view a P)
    (hb : Traces view b P) : Traces view (if c then a else b) P := by
  split
  · exact ha
  · exact hb

/-- A handled computation: the handler's stretch follows the failed one's. -/
lemma tryCatch {x : ExceptT Error (StateM σ) α} {h : Error → ExceptT Error (StateM σ) α}
    (hx : Traces view x Lines) (hh : ∀ e, Traces view (h e) Lines) :
    Traces view (MonadExcept.tryCatch x h) Lines := by
  intro st
  rw [runFrom_tryCatch]
  rcases e : runFrom x st with ⟨_ | a, s⟩
  · exact (hx.extends_of_runFrom e).trans (hh _ s)
  · exact hx.extends_of_runFrom e

end Traces

end Traces

namespace ParseM

/-! ### The steps of a parse -/

namespace Traces

variable {α : Type} {p : ParseM α}

lemma remaining (data : Array UInt8) : Traces ParseState.view (ParseM.remaining data) Lines :=
  Traces.of_view_eq (fun _ => rfl) Lines.nil

lemma checkBounds (data : Array UInt8) (n : Nat) :
    Traces ParseState.view (ParseM.checkBounds data n) Lines :=
  Traces.of_view_eq (fun st => by rw [← exec_eq_runFrom, exec_checkBounds]; split <;> rfl)
    Lines.nil

lemma peek (data : Array UInt8) (n : Nat) : Traces ParseState.view (ParseM.peek data n) Lines :=
  Traces.of_view_eq (fun st => by rw [← exec_eq_runFrom, exec_peek]; split <;> rfl) Lines.nil

lemma skip (data : Array UInt8) (n : Nat) : Traces ParseState.view (ParseM.skip data n) Lines :=
  Traces.of_view_eq (fun st => by rw [← exec_eq_runFrom, exec_skip]; split <;> rfl) Lines.nil

lemma read (data : Array UInt8) (n : Nat) : Traces ParseState.view (ParseM.read data n) Lines :=
  Traces.of_view_eq (fun st => by rw [← exec_eq_runFrom, exec_read]; split <;> rfl) Lines.nil

lemma log : Traces ParseState.view ParseM.log Lines :=
  Traces.note ParseState.view_note

/-- A traced computation whose runs are stretches is one invocation. -/
lemma traced (hp : Traces ParseState.view p Lines) :
    Traces ParseState.view (ParseM.traced p) Call := by
  intro st
  rw [← exec_eq_runFrom, exec_traced]
  split
  · rename_i hon
    exact Extends.call hon (hp _) rfl rfl
  · rename_i hoff
    exact (hp st).of_off (Bool.eq_false_iff.2 hoff)

/-- A window runs its parse on the same trace. -/
lemma within (hp : Traces ParseState.view p Lines) (n : Nat) :
    Traces ParseState.view (ParseM.within n p) Lines := by
  intro st
  have h := hp { st with offset := 0 }
  rw [← exec_eq_runFrom, exec_within]
  dsimp only
  split <;> exact h

lemma itemsFrom {item : Nat → ParseM Value} (hitem : ∀ i, Traces ParseState.view (item i) Lines)
    (i k : Nat) (acc : Array Value) :
    Traces ParseState.view (ParseM.itemsFrom item i k acc) Lines := by
  induction k generalizing i acc with
  | zero =>
    exact Traces.of_view_eq (fun st => by rw [← exec_eq_runFrom, exec_itemsFrom_zero]) Lines.nil
  | succ k ih =>
    intro st
    rw [← exec_eq_runFrom, exec_itemsFrom_succ]
    rcases e : exec (item i) st with ⟨_ | v, s⟩
    · exact (hitem i).extends_of_runFrom e
    · exact ((hitem i).extends_of_runFrom e).trans (ih (i + 1) (acc.push v) s)

/-- A greedy repetition is its items one after another, and a line when it stops on an item
that fails or consumes nothing; rolling back a failed item moves the cursor only. -/
lemma greedyFrom_extends {item : ParseM Value} (hitem : Traces ParseState.view item Lines)
    (data : Array UInt8) (acc : Array Value) (st : ParseState) :
    Extends Lines st.view (greedyFrom data item acc st).2.view := by
  induction acc, st using ParseM.greedyFrom.induct data item with
  | case1 acc st hlt v s e hadv ih =>
    have h₁ := hitem.extends_of_runFrom e
    rw [greedyFrom, if_pos hlt]
    simp only [e, if_pos hadv]
    exact h₁.trans ih
  | case2 acc st hlt v s e hadv =>
    have h₁ := hitem.extends_of_runFrom e
    rw [greedyFrom, if_pos hlt]
    simp only [e, if_neg hadv]
    rw [ParseState.view_note]
    exact h₁.trans (extends_note _)
  | case3 acc st hlt err s e =>
    have h₁ := hitem.extends_of_runFrom e
    rw [greedyFrom, if_pos hlt]
    simp only [e]
    have hview : ({ s.note with offset := st.offset } : ParseState).view = s.note.view := rfl
    rw [hview, ParseState.view_note]
    exact h₁.trans (extends_note _)
  | case4 acc st hge =>
    rw [greedyFrom, if_neg hge]
    exact Extends.refl Lines.nil _

lemma greedy {item : ParseM Value} (hitem : Traces ParseState.view item Lines)
    (data : Array UInt8) : Traces ParseState.view (ParseM.greedy data item) Lines :=
  fun st => by rw [← exec_eq_runFrom, exec_greedy]; exact greedyFrom_extends hitem data #[] st

end Traces

end ParseM

namespace BuildM

/-! ### The steps of a build -/

namespace Traces

variable {α : Type} {p : BuildM α}

lemma emit (bs : Bytes) : Traces BuildState.view (BuildM.emit bs) Lines :=
  Traces.of_view_eq (fun _ => rfl) Lines.nil

lemma log : Traces BuildState.view BuildM.log Lines :=
  Traces.note BuildState.view_note

/-- Converting a value records nothing, whether it succeeds or not. -/
lemma silent_convert {γ : Type} (view : Value → Option γ) (expected : String) (v : Value) :
    Traces BuildState.view (ByteLayout.convert view expected v) fun _ seg => seg = [] := by
  refine Traces.of_view_eq (fun st => ?_) fun _ => rfl
  unfold ByteLayout.convert
  split <;> rfl

/-- A traced build whose runs are stretches is one invocation. -/
lemma traced (hp : Traces BuildState.view p Lines) :
    Traces BuildState.view (BuildM.traced p) Call := by
  intro st
  rw [← exec_eq_runFrom, exec_traced]
  split
  · rename_i hon
    exact Extends.call hon (hp _) rfl rfl
  · rename_i hoff
    exact (hp st).of_off (Bool.eq_false_iff.2 hoff)

/-- An isolated build sets the output aside, not the trace. -/
lemma isolated {p : BuildM Unit} (hp : Traces BuildState.view p Lines) :
    Traces BuildState.view (BuildM.isolated p) Lines := by
  intro st
  have h := hp { st with output := #[] }
  rw [← exec_eq_runFrom, exec_isolated]
  dsimp only
  split <;> exact h

lemma itemsFrom {item : Nat → Value → BuildM Unit}
    (hitem : ∀ i v, Traces BuildState.view (item i v) Lines) (i : Nat) (vs : List Value) :
    Traces BuildState.view (BuildM.itemsFrom item i vs) Lines := by
  induction vs generalizing i with
  | nil =>
    exact Traces.of_view_eq (fun st => by rw [← exec_eq_runFrom, exec_itemsFrom_nil]) Lines.nil
  | cons v rest ih => exact (hitem i v).bind fun _ => ih (i + 1)

end Traces

end BuildM

namespace Schema

/-! ### Every parse is one invocation -/

lemma parseFields_traces {fields : List (String × Schema)}
    (h : ∀ f ∈ fields, ∀ data scope, Traces ParseState.view (f.2.parseIn data scope) Call)
    (data : Array UInt8) (scope : Scope) (acc : Record) :
    Traces ParseState.view (parseFields fields data scope acc) Lines := by
  induction fields generalizing acc with
  | nil =>
    rw [parseFields]
    exact Traces.pure _
  | cons f rest ih =>
    rw [parseFields]
    exact (h f List.mem_cons_self data _).lines.bind fun v =>
      ih (fun g hg => h g (List.mem_cons_of_mem _ hg)) _

lemma parseCase_traces {cases : List (String × Schema)} {default : Option Schema}
    (hc : ∀ c ∈ cases, ∀ data scope, Traces ParseState.view (c.2.parseIn data scope) Call)
    (hd : ∀ d ∈ default, ∀ data scope, Traces ParseState.view (d.parseIn data scope) Call)
    (key : Option String) (data : Array UInt8) (scope : Scope) :
    Traces ParseState.view (parseCase cases default key data scope) Lines := by
  induction cases with
  | nil =>
    unfold parseCase
    rcases default with _ | d
    · exact Traces.throw _
    · exact (hd d rfl data scope).lines
  | cons c rest ih =>
    rw [parseCase]
    exact Traces.ite _ (hc c List.mem_cons_self data scope).lines
      (ih fun g hg => hc g (List.mem_cons_of_mem _ hg))

open ParseM in
/-- **Every parse is one invocation.** Run from any state, a schema's parse returns to the
depth it started at and, with the trace on, appends to the trace the entries of one invocation
entered at that depth, whether it succeeds or fails; with the trace off it appends nothing.

**Proof sketch.** Induction over schemas: each parse is a traced body, and each body is a
sequence of cursor operations, lines and parses of the schemas inside it, each of which is a
stretch one level deeper. -/
theorem parseIn_traces (s : Schema) (data : Array UInt8) (scope : Scope) :
    Traces ParseState.view (s.parseIn data scope) Call := by
  induction s using Schema.induction generalizing data scope with
  | number kind order =>
    rw [parseIn]
    exact Traces.traced ((Traces.read _ _).bind fun _ => Traces.pure _)
  | bytes length =>
    rw [parseIn]
    exact Traces.traced ((Traces.ofExcept _).bind fun _ => (Traces.read _ _).bind fun _ =>
      Traces.log.bind fun _ => Traces.pure _)
  | literal expected =>
    rw [parseIn]
    exact Traces.traced ((Traces.peek _ _).bind fun _ => Traces.ite _
      ((Traces.throw _).bind fun _ => (Traces.skip _ _).bind fun _ => Traces.pure _)
      ((Traces.skip _ _).bind fun _ => Traces.pure _))
  | text encoding length =>
    rw [parseIn]
    have hbody := fun n => (Traces.peek data n).bind fun raw =>
      (Traces.ofExcept ((encoding.toText raw).mapError (Error.invalidEncoding encoding))).bind
        fun str => (Traces.skip data n).bind fun _ => Traces.pure (Value.text str)
    -- the length decides where the count comes from; the body after it is the same
    rcases length with _ | l
    · exact Traces.traced ((Traces.remaining _).bind hbody)
    · exact Traces.traced ((Traces.ofExcept _).bind hbody)
  | struct fields ih =>
    rw [parseIn]
    exact Traces.traced (parseFields_traces ih data scope [])
  | array item count ih =>
    rw [parseIn]
    exact Traces.traced ((Traces.ofExcept _).bind fun n =>
      Traces.itemsFrom (fun i => (ih data _).lines) 0 n #[])
  | greedy item ih =>
    rw [parseIn]
    exact Traces.traced (Traces.greedy (ih data scope).lines data)
  | switch on cases default hc hd =>
    rw [parseIn]
    exact Traces.traced (Traces.log.bind fun _ => parseCase_traces hc hd _ data scope)
  | sized inner total ih =>
    rw [parseIn]
    -- the padding, logged only when there is some
    have hpad := fun (v : Value) (n : Nat) => Traces.ite (n > 0)
      (Traces.log.bind fun _ => (Traces.skip data n).bind fun _ => Traces.pure v) (Traces.pure v)
    exact Traces.traced (Traces.bind_get fun _ => (ih data scope).lines.bind fun v =>
      (Traces.ofExcept _).bind fun _ => Traces.bind_get fun _ =>
        Traces.ite _ ((Traces.throw _).bind fun _ => hpad v _) (hpad v _))
  | prefixed length inner ih =>
    rw [parseIn]
    exact Traces.traced ((Traces.ofExcept _).bind fun _ => (Traces.checkBounds _ _).bind fun _ =>
      Traces.bind_get fun _ => Traces.within (ih _ scope).lines _)

/-! ### Every build is one invocation, or nothing -/

lemma buildMissing_traces (s : Schema) : Traces BuildState.view s.buildMissing Lines := by
  unfold buildMissing
  split
  · exact BuildM.Traces.emit _
  · exact Traces.throw _

lemma buildFields_traces {fields : List (String × Schema)}
    (h : ∀ f ∈ fields, ∀ v scope, Traces BuildState.view (f.2.buildIn v scope) Lines)
    (r : Record) (scope : Scope) : Traces BuildState.view (buildFields fields r scope) Lines := by
  induction fields with
  | nil =>
    rw [buildFields]
    exact Traces.pure _
  | cons f rest ih =>
    obtain ⟨name, s⟩ := f
    have hrest := ih fun g hg => h g (List.mem_cons_of_mem _ hg)
    rw [buildFields]
    dsimp only
    -- a field the record lacks is built as missing, and its failure renamed
    rcases Record.get? r name with _ | x
    · refine (Traces.tryCatch (buildMissing_traces s) fun e => ?_).bind fun _ => hrest
      split <;> exact Traces.throw _
    · exact (h (name, s) List.mem_cons_self x scope).bind fun _ => hrest

lemma buildCase_traces {cases : List (String × Schema)} {default : Option Schema}
    (hc : ∀ c ∈ cases, ∀ v scope, Traces BuildState.view (c.2.buildIn v scope) Lines)
    (hd : ∀ d ∈ default, ∀ v scope, Traces BuildState.view (d.buildIn v scope) Lines)
    (key : Option String) (v : Value) (scope : Scope) :
    Traces BuildState.view (buildCase cases default key v scope) Lines := by
  induction cases with
  | nil =>
    unfold buildCase
    rcases default with _ | d
    · exact Traces.throw _
    · exact hd d rfl v scope
  | cons c rest ih =>
    rw [buildCase]
    exact Traces.ite _ (hc c List.mem_cons_self v scope)
      (ih fun g hg => hc g (List.mem_cons_of_mem _ hg))

open BuildM in
/-- **Every build is one invocation, or nothing.** Run from any state, a schema's build returns
to the depth it started at and, with the trace on, appends to the trace either nothing, when
the value it is given does not convert to what the schema writes, or the entries of one
invocation entered at that depth, whether it then succeeds or fails; with the trace off it
appends nothing.

**Proof sketch.** Induction over schemas, as for parses: a number, bytes, a literal, a text, a
struct, an array and a greedy range convert their value before their traced body, which
records nothing; a switch, a sized region and a window trace their whole build. -/
theorem buildIn_traces (s : Schema) (v : Value) (scope : Scope) :
    Traces BuildState.view (s.buildIn v scope) fun k seg => seg = [] ∨ Call k seg := by
  induction s using Schema.induction generalizing v scope with
  | number kind order =>
    rw [buildIn]
    exact (Traces.silent_ofExcept _).bind_silent fun _ => Traces.traced (Traces.emit _)
  | bytes length =>
    rw [buildIn]
    exact (Traces.silent_convert _ _ v).bind_silent fun _ =>
      Traces.traced ((Traces.ofExcept _).bind fun _ =>
        Traces.ite _ ((Traces.throw _).bind fun _ => Traces.emit _) (Traces.emit _))
  | literal expected =>
    rw [buildIn]
    exact (Traces.silent_convert _ _ v).bind_silent fun _ =>
      Traces.traced (Traces.ite _ ((Traces.throw _).bind fun _ => Traces.emit _) (Traces.emit _))
  | text encoding length =>
    -- the length decides the shape of the body, so it is split first
    rcases length with _ | l <;> rw [buildIn]
    · exact (Traces.silent_convert _ _ v).bind_silent fun _ =>
        Traces.traced ((Traces.ofExcept _).bind fun _ => Traces.emit _)
    · exact (Traces.silent_convert _ _ v).bind_silent fun _ =>
        Traces.traced ((Traces.ofExcept _).bind fun _ =>
          (Traces.ofExcept _).bind fun _ =>
            Traces.ite _ ((Traces.throw _).bind fun _ => Traces.emit _) (Traces.emit _))
  | struct fields ih =>
    rw [buildIn]
    exact (Traces.silent_convert _ _ v).bind_silent fun r =>
      Traces.traced (buildFields_traces (fun f hf x sc => (ih f hf x sc).maybe_lines) r _)
  | array item count ih =>
    rw [buildIn]
    have hitems := Traces.itemsFrom fun i x => (ih x (scope.push (Scope.indexLayer i))).maybe_lines
    exact (Traces.silent_convert _ _ v).bind_silent fun items =>
      Traces.traced ((Traces.ofExcept _).bind fun _ =>
        Traces.ite _ ((Traces.throw _).bind fun _ => hitems 0 items) (hitems 0 items))
  | greedy item ih =>
    rw [buildIn]
    exact (Traces.silent_convert _ _ v).bind_silent fun items =>
      Traces.traced (Traces.itemsFrom (fun _ x => (ih x scope).maybe_lines) 0 items)
  | switch on cases default hc hd =>
    rw [buildIn]
    refine (Traces.traced ?_).mono fun _ _ => Or.inr
    exact Traces.log.bind fun _ =>
      buildCase_traces (fun c hmem x sc => (hc c hmem x sc).maybe_lines)
        (fun d hmem x sc => (hd d hmem x sc).maybe_lines) _ v _
  | sized inner total ih =>
    rw [buildIn]
    refine (Traces.traced ?_).mono fun _ _ => Or.inr
    -- the padding, logged only when there is some
    have hpad := fun n : Nat => Traces.ite (n > 0)
      (Traces.log.bind fun _ => Traces.emit (List.replicate n 0)) (Traces.pure ())
    exact (Traces.isolated (ih v scope).maybe_lines).bind fun built =>
      (Traces.ofExcept _).bind fun _ => Traces.ite _
        ((Traces.throw _).bind fun _ => (Traces.emit built).bind fun _ => hpad _)
        ((Traces.emit built).bind fun _ => hpad _)
  | prefixed length inner ih =>
    rw [buildIn]
    refine (Traces.traced ?_).mono fun _ _ => Or.inr
    exact (Traces.isolated (ih v scope).maybe_lines).bind fun built => Traces.emit built

/-! ### The traced entry points -/

/-- **Tracing is inert and well-bracketed.** The traced parse of an input returns what the plain
one does and leaves the cursor where it does; the traced build of a value returns what the
plain one does and writes the same bytes. The plain ones record nothing. A traced parse ends at
depth 0 with the entries of one invocation entered at depth 0: its entry, then its own lines
and the invocations inside it at depth 1, each bracketed the same way one level deeper, then
its exit at depth 0. A traced build ends at depth 0 with the entries of one such invocation, or
with none when its value does not convert to what the schema writes. Every parse and every
build inside them, from whatever state, failing or not, returns to the depth it started at and
appends one invocation entered there (a build: or nothing), and nothing with the trace off.
Each exit decrements a depth one more than its entry's, so it never saturates.

**Proof sketch.** The last two parts are `parseIn_traces` and `buildIn_traces` read off by
`Extends.segment`. Both entry points run the same computation from states that differ only in
the flag, so `parseIn_computes` and `buildIn_emits`, which hold from any state, give them one
result, one cursor and one output; the trace parts are the last two at the two starting
states. -/
theorem debug_trace_bracketed :
    (∀ (s : Schema) (d : Bytes),
      (s.parseDebug d).1 = (s.parse d).1 ∧ (s.parseDebug d).2.offset = (s.parse d).2.offset ∧
      (s.parse d).2.trace = #[] ∧
      (s.parseDebug d).2.depth = 0 ∧ Call 0 (s.parseDebug d).2.trace.toList) ∧
    (∀ (s : Schema) (v : Value),
      (s.buildDebug v).1 = (s.build v).1 ∧ (s.buildDebug v).2.output = (s.build v).2.output ∧
      (s.build v).2.trace = #[] ∧
      (s.buildDebug v).2.depth = 0 ∧
        ((s.buildDebug v).2.trace = #[] ∨ Call 0 (s.buildDebug v).2.trace.toList)) ∧
    (∀ (s : Schema) (data : Array UInt8) (scope : Scope) (st : ParseState),
      let st' := (ParseM.exec (s.parseIn data scope) st).2
      st'.depth = st.depth ∧ ∃ seg, st'.trace.toList = st.trace.toList ++ seg ∧
        if st.debug then Call st.depth seg else seg = []) ∧
    (∀ (s : Schema) (v : Value) (scope : Scope) (st : BuildState),
      let st' := (BuildM.exec (s.buildIn v scope) st).2
      st'.depth = st.depth ∧ ∃ seg, st'.trace.toList = st.trace.toList ++ seg ∧
        if st.debug then seg = [] ∨ Call st.depth seg else seg = []) := by
  refine ⟨fun s d => ?_, fun s v => ?_,
    fun s data scope st => (parseIn_traces s data scope st).segment,
    fun s v scope st => (buildIn_traces s v scope st).segment⟩
  · have hp : s.parse d = ParseM.exec (s.parseIn d.toArray Scope.root) {} := rfl
    have hq : s.parseDebug d = ParseM.exec (s.parseIn d.toArray Scope.root) { debug := true } := rfl
    rw [hp, hq]
    -- both runs start at offset 0, so their scans agree
    obtain ⟨hres, hoff⟩ := Prod.mk.inj
      ((exec_parseIn s d.toArray Scope.root { debug := true }).trans
        (exec_parseIn s d.toArray Scope.root {}).symm)
    obtain ⟨-, seg, hseg, hnil⟩ := (parseIn_traces s d.toArray Scope.root {}).segment
    obtain ⟨hdepth, seg', hseg', hcall⟩ :=
      (parseIn_traces s d.toArray Scope.root { debug := true }).segment
    -- both runs start from an empty trace at depth 0, the plain one with the trace off
    have hnil : seg = [] := hnil
    have hcall : Call 0 seg' := hcall
    exact ⟨hres, hoff, Array.toList_eq_nil_iff.1 (hseg.trans hnil), hdepth,
      (congrArg (Call 0) hseg').mpr hcall⟩
  · have hp : s.build v = BuildM.exec (s.buildIn v Scope.root) {} := rfl
    have hq : s.buildDebug v = BuildM.exec (s.buildIn v Scope.root) { debug := true } := rfl
    rw [hp, hq]
    obtain ⟨hres₁, hout₁⟩ := buildIn_emits s v Scope.root {}
    obtain ⟨hres₂, hout₂⟩ := buildIn_emits s v Scope.root { debug := true }
    obtain ⟨-, seg, hseg, hnil⟩ := (buildIn_traces s v Scope.root {}).segment
    obtain ⟨hdepth, seg', hseg', hcall⟩ := (buildIn_traces s v Scope.root { debug := true }).segment
    have hnil : seg = [] := hnil
    have hcall : seg' = [] ∨ Call 0 seg' := hcall
    exact ⟨hres₂.trans hres₁.symm, hout₂.trans hout₁.symm,
      Array.toList_eq_nil_iff.1 (hseg.trans hnil), hdepth,
      hcall.imp (fun h => Array.toList_eq_nil_iff.1 (hseg'.trans h))
        fun h => (congrArg (Call 0) hseg').mpr h⟩

end Schema

end ByteLayout
