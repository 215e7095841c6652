import ByteLayout.Proofs.Cursor

set_option autoImplicit false

/-!
# Greedy repetition

A greedy range reads items for as long as bytes remain and each item parses. Its reference
semantics is a relation, `ParseM.GreedyRun`, read off the loop case by case: at the end of the
window it reads nothing; otherwise it runs the item at the cursor, and an item that fails reads
nothing and leaves the cursor where the attempt started, an item that consumes nothing is the
last, and an item that moves the cursor is followed by the repetition from where it ended.

This module shows that the relation is deterministic, and that from any cursor inside the
window a greedy range's parse succeeds with exactly the items and the cursor the relation
gives. The loop stops because every continuing step moves the cursor forward and no parse
moves it past the end of the window.

## Main definitions

* `ByteLayout.ParseM.GreedyRun` — the items a greedy repetition reads from a cursor, and the
  cursor after them.

## Main results

* `ByteLayout.ParseM.GreedyRun.unique` — one cursor has one run.
* `ByteLayout.ParseM.greedyOutcome_run` — the outcome of the loop is a run.
* `ByteLayout.Schema.greedy_continues_iff_moved` — the loop's test that the cursor moved forward
  is the test that it moved at all.
* `ByteLayout.Schema.greedy_returns_run` — a greedy range's parse never fails and returns its
  run.
-/

namespace ByteLayout

namespace ParseM

/-- The items a greedy repetition of `item` reads from the cursor `o` of a window of `size`
bytes, and the cursor after them. `item o` is the result of parsing one item at `o`, and the
cursor it leaves. -/
inductive GreedyRun (item : Nat → Except Error Value × Nat) (size : Nat) :
    Nat → List Value → Nat → Prop
  /-- At the end of the window nothing is read. -/
  | atEnd : GreedyRun item size size [] size
  /-- An item that fails reads nothing, and the cursor goes back to where it started. -/
  | failed {o o' : Nat} {e : Error} : o ≠ size → item o = (.error e, o') →
      GreedyRun item size o [] o
  /-- An item that consumes nothing is the last. -/
  | stalled {o : Nat} {v : Value} : o ≠ size → item o = (.ok v, o) → GreedyRun item size o [v] o
  /-- An item that moves the cursor is followed by the repetition from where it ended. -/
  | advanced {o o' e : Nat} {v : Value} {vs : List Value} : o ≠ size → item o = (.ok v, o') →
      o < o' → GreedyRun item size o' vs e → GreedyRun item size o (v :: vs) e

namespace GreedyRun

variable {item : Nat → Except Error Value × Nat} {size : Nat}

/-- One cursor has one run: the relation is a function of the cursor. -/
theorem unique {o : Nat} {vs vs' : List Value} {e e' : Nat} (h : GreedyRun item size o vs e)
    (h' : GreedyRun item size o vs' e') : vs = vs' ∧ e = e' := by
  induction h generalizing vs' e' with
  | atEnd =>
    cases h' with
    | atEnd => exact ⟨rfl, rfl⟩
    | failed hne _ | stalled hne _ | advanced hne _ _ _ => exact absurd rfl hne
  | failed hne he =>
    cases h' with
    | atEnd => exact absurd rfl hne
    | failed => exact ⟨rfl, rfl⟩
    | stalled _ hv | advanced _ hv _ _ => rw [he] at hv; cases hv
  | stalled hne hv =>
    cases h' with
    | atEnd => exact absurd rfl hne
    | failed _ he => rw [hv] at he; cases he
    | stalled _ hv' => rw [hv] at hv'; cases hv'; exact ⟨rfl, rfl⟩
    | advanced _ hv' hlt _ =>
      -- the item ended where it started, so it cannot have moved the cursor
      rw [hv] at hv'
      cases hv'
      exact absurd hlt (Nat.lt_irrefl _)
  | advanced hne hv hlt _ ih =>
    cases h' with
    | atEnd => exact absurd rfl hne
    | failed _ he => rw [hv] at he; cases he
    | stalled _ hv' =>
      rw [hv] at hv'
      cases hv'
      exact absurd hlt (Nat.lt_irrefl _)
    | advanced _ hv' _ hrest =>
      rw [hv] at hv'
      cases hv'
      obtain ⟨rfl, rfl⟩ := ih hrest
      exact ⟨rfl, rfl⟩

end GreedyRun

/-- **The greedy loop computes the run.** For an item that moves the cursor forward and not past
the end of the window, the outcome of the loop from any cursor inside the window is a run.

**Proof sketch.** Functional induction on the loop: a continuing step stays inside the window,
so the induction hypothesis applies there; a step that does not continue ended where it
started, since the item never moves the cursor back. -/
theorem greedyOutcome_run {item : Nat → Except Error Value × Nat} {size : Nat}
    (hitem : Advances size item) (o : Nat) (ho : o ≤ size) :
    GreedyRun item size o (greedyOutcome item size o).1 (greedyOutcome item size o).2 := by
  induction o using greedyOutcome.induct item size with
  | case1 off hlt v o e hadv ih =>
    have hend : o ≤ size := by simpa [e] using (hitem off ho).2
    rw [greedyOutcome, if_pos hlt, e]
    simp only [if_pos hadv]
    exact .advanced (Nat.ne_of_lt hlt) e hadv (ih hend)
  | case2 off hlt v o e hadv =>
    have hstart : off ≤ o := by simpa [e] using (hitem off ho).1
    have ho' : o = off := by omega
    rw [greedyOutcome, if_pos hlt, e]
    simp only [if_neg hadv]
    subst ho'
    exact .stalled (Nat.ne_of_lt hlt) e
  | case3 off hlt err o e =>
    rw [greedyOutcome, if_pos hlt, e]
    exact .failed (Nat.ne_of_lt hlt) e
  | case4 off hge =>
    have hoff : off = size := by omega
    rw [greedyOutcome, if_neg hge]
    subst hoff
    exact .atEnd

end ParseM

namespace Schema

open ParseM

/-- **The loop stops exactly when an item leaves the cursor where it was.** After an item, the
greedy loop goes on when the cursor moved forward. No parse from inside the window moves the
cursor back (`parseIn_moves`), so this is the same as going on when the cursor moved at all, and
stopping when the item left it at the checkpoint taken before it. -/
theorem greedy_continues_iff_moved (item : Schema) (data : Array UInt8) (scope : Scope)
    (st : ParseState) (h : st.offset ≤ data.size) :
    st.offset < (exec (item.parseIn data scope) st).2.offset ↔
      (exec (item.parseIn data scope) st).2.offset ≠ st.offset := by
  have hback := (parseIn_moves item data scope st h).1
  omega

/-- **A greedy range returns its run.** From any state whose cursor is inside the window, and in
any scope, the parse of a greedy range succeeds; its cursor ends no earlier than it started and
not past the end of the window; and its items and final cursor are exactly those of the run of
its item from the starting cursor, where the item at a cursor is what parsing it there returns
and the cursor it leaves.

**Proof sketch.** `scan_greedy` gives the parse as the greedy loop over the item's scan;
`scan_advances` makes the item move forward within the window, so `greedyOutcome_run` gives a
run and `greedyOutcome_bounds` the bounds, and `GreedyRun.unique` makes it the only one. -/
theorem greedy_returns_run (item : Schema) (data : Array UInt8) (scope : Scope) (st : ParseState)
    (h : st.offset ≤ data.size) :
    let r := exec ((Schema.greedy item).parseIn data scope) st
    (∃ vs, r.1 = .ok (.array vs)) ∧ st.offset ≤ r.2.offset ∧ r.2.offset ≤ data.size ∧
    ∀ vs o, (r.1 = .ok (.array vs) ∧ r.2.offset = o) ↔
      GreedyRun (scan item data scope) data.size st.offset vs o := by
  intro r
  have hitem := scan_advances item data scope
  have hr : (r.1, r.2.offset) = (.ok (.array (greedyOutcome (scan item data scope) data.size
      st.offset).1), (greedyOutcome (scan item data scope) data.size st.offset).2) := by
    rw [exec_parseIn, scan_greedy]
  simp only [Prod.mk.injEq] at hr
  obtain ⟨hres, hoff⟩ := hr
  have hrun := greedyOutcome_run hitem st.offset h
  obtain ⟨hlo, hhi⟩ := greedyOutcome_bounds hitem st.offset h
  refine ⟨⟨_, hres⟩, hoff ▸ hlo, hoff ▸ hhi, fun vs o => ⟨?_, fun h' => ?_⟩⟩
  · rintro ⟨hvs, rfl⟩
    rw [hres] at hvs
    cases hvs
    exact hoff ▸ hrun
  · obtain ⟨rfl, rfl⟩ := hrun.unique h'
    exact ⟨hres, hoff⟩

/-- Two 16-bit items read greedily from five bytes: the run stops at the last byte. -/
theorem greedy_returns_run_pairs :
    let st : ParseState := {}
    let data : Array UInt8 := #[0, 1, 0, 2, 9]
    st.offset ≤ data.size ∧
    let r := exec ((Schema.greedy (.number .uint16 .big)).parseIn data Scope.root) st
    (∃ vs, r.1 = .ok (.array vs)) ∧ st.offset ≤ r.2.offset ∧ r.2.offset ≤ data.size ∧
    ∀ vs o, (r.1 = .ok (.array vs) ∧ r.2.offset = o) ↔
      GreedyRun (scan (.number .uint16 .big) data Scope.root) data.size st.offset vs o :=
  ⟨by decide, greedy_returns_run _ _ _ _ (by decide)⟩

end Schema

end ByteLayout
