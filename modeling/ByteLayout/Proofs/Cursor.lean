import ByteLayout.Proofs.Scan

set_option autoImplicit false

/-!
# The cursor stays in its window

A parse moves its cursor forward and never past the end of the window it reads, whether it
succeeds or fails, in any scope; a schema read in one piece leaves the cursor where it was when
it fails. The data and the scope are arguments of a parse, so no parse can change them. On one
shared cursor, any sequence of reads, peeks, skips, bounds checks and parses from the start of
an input therefore keeps the cursor inside the input, and each step moves it as promised.

## Main definitions

* `ByteLayout.ParseM.Advances` — an outcome that moves a cursor forward and not past an end.
* `ByteLayout.Schema.isAtomic` — the schemas read in one piece.
* `ByteLayout.CursorStep` — one operation on a shared cursor, with `CursorStep.Moves`, what it
  may do to the cursor.
* `ByteLayout.runSteps` — the state after a sequence of operations.

## Main results

* `ByteLayout.Schema.scan_advances` — every parse moves the cursor forward, within the window.
* `ByteLayout.Schema.scan_offset_of_error` — a failed parse of a schema read in one piece does
  not move the cursor.
* `ByteLayout.CursorStep.moves` — each operation does what `Moves` says.
* `ByteLayout.cursor_within_input` — any run of operations keeps the cursor in the input.
-/

namespace ByteLayout

namespace ParseM

variable {α β : Type}

/-- From any cursor in a window of `size` bytes, the outcome's cursor is no earlier and no
later than the end. -/
def Advances (size : Nat) (F : Nat → Except Error α × Nat) : Prop :=
  ∀ off, off ≤ size → off ≤ (F off).2 ∧ (F off).2 ≤ size

/-- Sequencing keeps the cursor moving forward within the window. -/
lemma Advances.andThen {size : Nat} {F : Nat → Except Error α × Nat}
    {G : α → Nat → Except Error β × Nat} (hF : Advances size F) (hG : ∀ a, Advances size (G a)) :
    Advances size fun off => ParseM.andThen (F off) G := by
  intro off h
  obtain ⟨h1, h2⟩ := hF off h
  dsimp only
  generalize F off = r at h1 h2
  rcases r with ⟨_ | a, o⟩
  · exact ⟨h1, h2⟩
  · obtain ⟨h3, h4⟩ := hG a o h2
    exact ⟨Nat.le_trans h1 h3, h4⟩

lemma advances_itemsOutcome {size : Nat} {item : Nat → Nat → Except Error Value × Nat}
    (hitem : ∀ i, Advances size (item i)) (i k : Nat) :
    Advances size (itemsOutcome item i k) := by
  induction k generalizing i with
  | zero => intro off h; exact ⟨Nat.le_refl off, h⟩
  | succ k ih =>
    exact (hitem i).andThen fun _ =>
      (ih (i + 1)).andThen fun _ _ h => ⟨Nat.le_refl _, h⟩

/-- A greedy repetition of an item that keeps the cursor in the window keeps it there too. -/
lemma greedyOutcome_bounds {size : Nat} {item : Nat → Except Error Value × Nat}
    (hitem : Advances size item) (off : Nat) (h : off ≤ size) :
    off ≤ (greedyOutcome item size off).2 ∧ (greedyOutcome item size off).2 ≤ size := by
  induction off using greedyOutcome.induct item size with
  | case1 off hlt v o e hadv ih =>
    obtain ⟨-, h2⟩ := hitem off h
    rw [e] at h2
    obtain ⟨h3, h4⟩ := ih h2
    rw [greedyOutcome, if_pos hlt, e]
    simp only [if_pos hadv]
    exact ⟨by omega, h4⟩
  | case2 off hlt v o e hadv =>
    obtain ⟨h1, h2⟩ := hitem off h
    rw [e] at h1 h2
    rw [greedyOutcome, if_pos hlt, e]
    simp only [if_neg hadv]
    exact ⟨h1, h2⟩
  | case3 off hlt err o e =>
    rw [greedyOutcome, if_pos hlt, e]
    exact ⟨Nat.le_refl off, h⟩
  | case4 off hge =>
    rw [greedyOutcome, if_neg hge]
    exact ⟨Nat.le_refl off, h⟩

end ParseM

namespace Schema

open ParseM

/-- The schemas read in one piece: a number, bytes, a literal, a text and a window. Each checks
that its bytes are there before it moves the cursor. -/
def isAtomic : Schema → Bool
  | .number .. | .bytes _ | .literal _ | .text .. | .prefixed .. => true
  | _ => false

/-- How a parse of `s` may move a cursor at `off` in a window of `size` bytes, given its result
and the cursor after it: forward, not past the end, and not at all when a schema read in one
piece fails. -/
def Moves {α : Type} (s : Schema) (size off : Nat) (r : Except Error α × Nat) : Prop :=
  off ≤ r.2 ∧ r.2 ≤ size ∧ (s.isAtomic = true → r.1.isOk = false → r.2 = off)

section Bounds

variable (data : Array UInt8) (scope : Scope)

lemma scanFields_advances {fields : List (String × Schema)}
    (h : ∀ f ∈ fields, ∀ scope, Advances data.size (scan f.2 data scope)) (acc : Record) :
    Advances data.size (scanFields fields data scope acc) := by
  induction fields generalizing acc with
  | nil =>
    intro off hoff
    rw [scanFields_nil]
    exact ⟨Nat.le_refl off, hoff⟩
  | cons f rest ih =>
    have hrest := fun acc' => ih (fun g hg => h g (List.mem_cons_of_mem _ hg)) acc'
    intro off hoff
    rw [scanFields_cons]
    exact ((h f List.mem_cons_self _).andThen fun v => hrest (Record.insert f.1 v acc)) off hoff

lemma scanCase_advances {cases : List (String × Schema)} {default : Option Schema}
    (hc : ∀ c ∈ cases, Advances data.size (scan c.2 data scope))
    (hd : ∀ d ∈ default, Advances data.size (scan d data scope)) (key : Option String) :
    Advances data.size (scanCase cases default key data scope) := by
  induction cases with
  | nil =>
    intro off hoff
    rw [scanCase_nil]
    rcases default with _ | d
    · exact ⟨Nat.le_refl off, hoff⟩
    · exact hd d rfl off hoff
  | cons c rest ih =>
    intro off hoff
    rw [scanCase_cons]
    split
    · exact hc c List.mem_cons_self off hoff
    · exact ih (fun g hg => hc g (List.mem_cons_of_mem _ hg)) off hoff

end Bounds

/-- **A parse moves its cursor forward, within its window.** From any cursor inside the window,
in any scope, a schema's parse leaves the cursor no earlier than it found it and no later than
the end of the window, whether it succeeds or fails.

**Proof sketch.** Induction over the schema: each equation of `scan` moves the cursor by a
length it has checked against what remains, or by what its parts move it. -/
theorem scan_advances (s : Schema) (data : Array UInt8) (scope : Scope) :
    Advances data.size (scan s data scope) := by
  induction s using Schema.induction generalizing data scope with
  | number kind order =>
    intro off h
    rw [scan_number]
    split <;> simp <;> omega
  | bytes length =>
    intro off h
    rw [scan_bytes]
    rcases length.resolveClamped scope with e | n
    · exact ⟨Nat.le_refl off, h⟩
    · dsimp only
      split <;> simp <;> omega
  | literal expected =>
    intro off h
    rw [scan_literal]
    split
    · exact ⟨Nat.le_refl off, h⟩
    · split <;> simp <;> omega
  | text encoding length =>
    intro off h
    rw [scan_text]
    -- without a length the text runs to the end of the window
    rcases length with _ | l
    · dsimp only
      split
      · exact ⟨Nat.le_refl off, h⟩
      · split <;> simp <;> omega
    · dsimp only
      rcases l.resolveClamped scope with e | n
      · exact ⟨Nat.le_refl off, h⟩
      · dsimp only
        split
        · exact ⟨Nat.le_refl off, h⟩
        · split <;> simp <;> omega
  | struct fields ih =>
    intro off h
    rw [scan_struct]
    exact scanFields_advances data scope (fun f hf => ih f hf data) [] off h
  | array item count ih =>
    intro off h
    rw [scan_array]
    rcases count.resolveClamped scope with e | n
    · exact ⟨Nat.le_refl off, h⟩
    · exact ((advances_itemsOutcome (fun i => ih data _) 0 n).andThen
        fun _ _ h' => ⟨Nat.le_refl _, h'⟩) off h
  | greedy item ih =>
    intro off h
    rw [scan_greedy]
    exact greedyOutcome_bounds (ih data scope) off h
  | switch on cases default hc hd =>
    intro off h
    rw [scan_switch]
    exact scanCase_advances data scope (fun c hmem => hc c hmem data scope)
      (fun d hmem => hd d hmem data scope) _ off h
  | sized inner total ih =>
    intro off h
    rw [scan_sized]
    refine ((ih data scope).andThen fun v o ho => ?_) off h
    rcases declaredTotal total v with e | t
    · exact ⟨Nat.le_refl o, ho⟩
    · dsimp only
      split
      · exact ⟨Nat.le_refl o, ho⟩
      · split
        · split <;> simp <;> omega
        · exact ⟨Nat.le_refl o, ho⟩
  | prefixed length inner ih =>
    intro off h
    rw [scan_prefixed]
    rcases length.resolveStrict scope with e | n
    · exact ⟨Nat.le_refl off, h⟩
    · dsimp only
      split
      · exact ⟨Nat.le_refl off, h⟩
      · split <;> simp <;> omega

/-- **A failed read of one piece does not move the cursor.** A number, bytes, a literal, a text
or a window that fails to parse leaves the cursor where it found it. -/
theorem scan_offset_of_error {s : Schema} (hs : s.isAtomic = true) (data : Array UInt8)
    (scope : Scope) (off : Nat) (h : (scan s data scope off).1.isOk = false) :
    (scan s data scope off).2 = off := by
  revert h
  cases s with
  | number kind order =>
    rw [scan_number]
    split <;> simp [Except.isOk, Except.toBool]
  | bytes length =>
    rw [scan_bytes]
    rcases length.resolveClamped scope with e | n
    · simp
    · dsimp only
      split <;> simp [Except.isOk, Except.toBool]
  | literal expected =>
    rw [scan_literal]
    split
    · simp
    · split <;> simp [Except.isOk, Except.toBool]
  | text encoding length =>
    rw [scan_text]
    rcases length with _ | l
    · dsimp only
      split
      · simp
      · split <;> simp [Except.isOk, Except.toBool]
    · dsimp only
      rcases l.resolveClamped scope with e | n
      · simp
      · dsimp only
        split
        · simp
        · split <;> simp [Except.isOk, Except.toBool]
  | prefixed length inner =>
    rw [scan_prefixed]
    rcases length.resolveStrict scope with e | n
    · simp
    · dsimp only
      split
      · simp
      · split <;> simp [Except.isOk, Except.toBool]
  | _ => simp [isAtomic] at hs

/-- Every parse, from a cursor inside its window and in any scope, moves the cursor as `Moves`
says. -/
lemma parseIn_moves (s : Schema) (data : Array UInt8) (scope : Scope) (st : ParseState)
    (h : st.offset ≤ data.size) :
    s.Moves data.size st.offset
      ((exec (s.parseIn data scope) st).1, (exec (s.parseIn data scope) st).2.offset) := by
  rw [exec_parseIn]
  obtain ⟨h1, h2⟩ := scan_advances s data scope st.offset h
  exact ⟨h1, h2, fun hs => scan_offset_of_error hs data scope st.offset⟩

end Schema

/-- One operation on a cursor shared by a sequence of them: reading, peeking, skipping or
checking for `n` bytes, or parsing a schema at the cursor. -/
inductive CursorStep
  | read (n : Nat)
  | peek (n : Nat)
  | skip (n : Nat)
  | check (n : Nat)
  | parse (s : Schema)

namespace CursorStep

open ParseM

/-- The operation as a parse of `data` in the root scope, its value dropped. -/
def toParse (data : Array UInt8) : CursorStep → ParseM Unit
  | .read n => ParseM.read data n >>= fun _ => pure ()
  | .peek n => ParseM.peek data n >>= fun _ => pure ()
  | .skip n => ParseM.skip data n
  | .check n => ParseM.checkBounds data n
  | .parse s => s.parseIn data Scope.root >>= fun _ => pure ()

/-- What an operation may do to a cursor at `off` in an input of `size` bytes, given its result
and the cursor after it. A read or a skip of `n` bytes succeeds exactly when `n` bytes remain,
and then moves past them; a peek or a check never moves; each fails short of bytes naming the
bytes it needed and those that remained. A parse moves as `Schema.Moves` says. -/
def Moves (size off : Nat) : CursorStep → Except Error Unit × Nat → Prop
  | .read n, r | .skip n, r =>
    r = if n ≤ size - off then (.ok (), off + n)
      else (.error (.insufficientData n (size - off)), off)
  | .peek n, r | .check n, r =>
    r = if n ≤ size - off then (.ok (), off)
      else (.error (.insufficientData n (size - off)), off)
  | .parse s, r => s.Moves size off r

/-- Every operation, from a cursor inside the input, moves the cursor as `Moves` says. -/
lemma moves (data : Array UInt8) (step : CursorStep) (st : ParseState)
    (h : st.offset ≤ data.size) :
    step.Moves data.size st.offset
      ((exec (step.toParse data) st).1, (exec (step.toParse data) st).2.offset) := by
  -- each primitive checks `n` against what remains, and moves only if it is there
  cases step with
  | read n =>
    rw [toParse, ((Computes.read data n).bind fun _ => Computes.pure ()) st]
    by_cases hn : n ≤ data.size - st.offset
    · simp [Moves, hn, Nat.not_lt.mpr hn]
    · simp [Moves, hn, Nat.lt_of_not_le hn]
  | peek n =>
    rw [toParse, ((Computes.peek data n).bind fun _ => Computes.pure ()) st]
    by_cases hn : n ≤ data.size - st.offset
    · simp [Moves, hn, Nat.not_lt.mpr hn]
    · simp [Moves, hn, Nat.lt_of_not_le hn]
  | skip n =>
    rw [toParse, Computes.skip data n st]
    by_cases hn : n ≤ data.size - st.offset
    · simp [Moves, hn, Nat.not_lt.mpr hn]
    · simp [Moves, hn, Nat.lt_of_not_le hn]
  | check n =>
    rw [toParse, Computes.checkBounds data n st]
    by_cases hn : n ≤ data.size - st.offset
    · simp [Moves, hn, Nat.not_lt.mpr hn]
    · simp [Moves, hn, Nat.lt_of_not_le hn]
  | parse s =>
    have hs := Schema.parseIn_moves s data Scope.root st h
    rw [toParse]
    rw [((Schema.parseIn_computes s data Scope.root).bind fun _ => Computes.pure ()) st]
    rw [Schema.exec_parseIn] at hs
    simp only [Moves]
    generalize Schema.scan s data Scope.root st.offset = r at hs
    rcases r with ⟨_ | v, o⟩ <;> exact hs

/-- An operation from a cursor inside the input leaves it inside the input. -/
lemma Moves.le_size {size off : Nat} {step : CursorStep} {r : Except Error Unit × Nat}
    (hm : step.Moves size off r) (h : off ≤ size) : r.2 ≤ size := by
  cases step with
  | read n | skip n => rw [hm]; split <;> simp <;> omega
  | peek n | check n => rw [hm]; split <;> simp <;> omega
  | parse s => exact hm.2.1

end CursorStep

/-- The state of a cursor over `data` after a sequence of operations. -/
def runSteps (data : Array UInt8) (steps : List CursorStep) (st : ParseState) : ParseState :=
  steps.foldl (fun st step => (ParseM.exec (step.toParse data) st).2) st

lemma runSteps_offset_le (data : Array UInt8) (steps : List CursorStep) (st : ParseState)
    (h : st.offset ≤ data.size) : (runSteps data steps st).offset ≤ data.size := by
  -- each operation keeps the cursor inside the input, and the run is one operation after another
  induction steps generalizing st with
  | nil => exact h
  | cons step rest ih => exact ih _ ((step.moves data st h).le_size h)

/-- **The cursor stays inside its input.** From any cursor inside its window and in any scope,
a parse moves the cursor forward and not past the end, and not at all when a schema read in
one piece fails. On a cursor shared from the start of an input, after any sequence of reads,
peeks, skips, checks and parses the cursor is inside the input, and the next operation moves it
as `CursorStep.Moves` says: reads and skips of `n` bytes succeed exactly when `n` bytes remain
and move past them, peeks and checks never move, and those that fail name the bytes they needed
and those that remained.

**Proof sketch.** The first part is `scan_advances` and `scan_offset_of_error` through the
trace-free parse; the second follows by induction on the sequence, each operation keeping the
cursor inside the input. -/
theorem cursor_within_input :
    (∀ (s : Schema) (data : Array UInt8) (scope : Scope) (st : ParseState),
      st.offset ≤ data.size →
      s.Moves data.size st.offset
        ((ParseM.exec (s.parseIn data scope) st).1,
          (ParseM.exec (s.parseIn data scope) st).2.offset)) ∧
    (∀ (input : Bytes) (steps : List CursorStep) (step : CursorStep),
      let st := runSteps input.toArray steps {}
      st.offset ≤ input.length ∧
      step.Moves input.length st.offset
        ((ParseM.exec (step.toParse input.toArray) st).1,
          (ParseM.exec (step.toParse input.toArray) st).2.offset)) := by
  refine ⟨Schema.parseIn_moves, fun input steps step => ?_⟩
  have h := runSteps_offset_le input.toArray steps {} (Nat.zero_le _)
  exact ⟨by simpa using h, by simpa using CursorStep.moves input.toArray step _ h⟩

end ByteLayout
