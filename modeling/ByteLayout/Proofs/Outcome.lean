import ByteLayout.Proofs.Exec

set_option autoImplicit false

/-!
# Outcomes of parses without their trace

A parse writes its trace as it goes, but nothing it reads depends on the trace: its result and
where it leaves the cursor are a function of where the cursor starts. This module names that
function for each operation the schemas use and shows that sequencing, windows, counted items
and greedy repetition combine these functions in the expected way. A schema's parse is then
described by one plain function of the cursor, with no monad and no trace in it.

## Main definitions

* `ByteLayout.ParseM.outcome` — the result and final cursor of a parse started at a cursor.
* `ByteLayout.ParseM.Computes` — a parse whose result and final cursor are a given function of
  the starting cursor, whatever trace it starts with.
* `ByteLayout.ParseM.itemsOutcome`, `ByteLayout.ParseM.greedyOutcome` — counted and greedy
  repetition of an item given by its outcomes.

## Main results

* `ByteLayout.ParseM.Computes.read`, `peek`, `skip`, `checkBounds` — the cursor operations.
* `ByteLayout.ParseM.Computes.bind`, `traced`, `within`, `itemsFrom`, `greedy` — the
  combinations.
* `ByteLayout.ParseM.Computes.unique` — a parse computes one function only.
-/

namespace ByteLayout

namespace ParseM

variable {α β : Type}

/-- The result of a parse started at a cursor, and the cursor it ends at. -/
def outcome (p : ParseM α) (off : Nat) : Except Error α × Nat :=
  let r := exec p { offset := off }
  (r.1, r.2.offset)

/-- Continues from where a successful outcome left the cursor; an error stays as it is. -/
def andThen (r : Except Error α × Nat) (k : α → Nat → Except Error β × Nat) :
    Except Error β × Nat :=
  match r with
  | (.ok a, o) => k a o
  | (.error e, o) => (.error e, o)

@[simp] lemma andThen_ok (a : α) (o : Nat) (k : α → Nat → Except Error β × Nat) :
    andThen (.ok a, o) k = k a o :=
  rfl

@[simp] lemma andThen_error (e : Error) (o : Nat) (k : α → Nat → Except Error β × Nat) :
    andThen (.error e, o) k = (.error e, o) :=
  rfl

/-- A sequence succeeds when its first part does and the rest succeeds from where it ended. -/
lemma andThen_eq_ok {r : Except Error α × Nat} {k : α → Nat → Except Error β × Nat} {c : β}
    {o : Nat} : andThen r k = (.ok c, o) ↔ ∃ a o₁, r = (.ok a, o₁) ∧ k a o₁ = (.ok c, o) := by
  rcases r with ⟨_ | a, o₁⟩ <;> simp

lemma andThen_assoc {γ : Type} (r : Except Error α × Nat) (f : α → Nat → Except Error β × Nat)
    (g : β → Nat → Except Error γ × Nat) :
    andThen (andThen r f) g = andThen r fun a o => andThen (f a o) g := by
  rcases r with ⟨_ | a, o⟩ <;> rfl

/-- `p` computes `f`: run from any state, its result and the cursor it ends at are `f` of the
cursor it starts at. The trace and its depth change nothing that the parse returns. -/
def Computes (p : ParseM α) (f : Nat → Except Error α × Nat) : Prop :=
  ∀ st : ParseState, ((exec p st).1, (exec p st).2.offset) = f st.offset

namespace Computes

variable {p : ParseM α} {F G : Nat → Except Error α × Nat}

lemma outcome_eq (h : Computes p F) (off : Nat) : outcome p off = F off :=
  h { offset := off }

/-- A parse computes at most one function. -/
lemma unique (hF : Computes p F) (hG : Computes p G) : F = G :=
  funext fun off => (hF.outcome_eq off).symm.trans (hG.outcome_eq off)

lemma congr (h : Computes p F) (hFG : ∀ off, F off = G off) : Computes p G :=
  fun st => (h st).trans (hFG st.offset)

/-- A parse that computes some function computes its own outcome. -/
lemma outcome (h : Computes p F) : Computes p (ParseM.outcome p) :=
  congr h fun off => (h.outcome_eq off).symm

lemma fst_eq (h : Computes p F) (st : ParseState) : (exec p st).1 = (F st.offset).1 := by
  rw [← h st]

lemma offset_eq (h : Computes p F) (st : ParseState) :
    (exec p st).2.offset = (F st.offset).2 := by
  rw [← h st]

lemma pure (a : α) : Computes (Pure.pure a : ParseM α) fun off => (.ok a, off) :=
  fun _ => rfl

lemma throw (e : Error) : Computes (MonadExcept.throw e : ParseM α) fun off => (.error e, off) :=
  fun _ => rfl

lemma ofExcept (r : Except Error α) :
    Computes (MonadExcept.ofExcept r : ParseM α) fun off => (r, off) := by
  intro st
  simp

lemma log : Computes ParseM.log fun off => (.ok (), off) := by
  intro st
  simp

lemma remaining (data : Array UInt8) :
    Computes (ParseM.remaining data) fun off => (.ok (data.size - off), off) :=
  fun _ => rfl

lemma checkBounds (data : Array UInt8) (n : Nat) :
    Computes (ParseM.checkBounds data n) fun off =>
      if n > data.size - off then (.error (.insufficientData n (data.size - off)), off)
      else (.ok (), off) := by
  intro st
  simp only [exec_checkBounds]
  split <;> rfl

lemma peek (data : Array UInt8) (n : Nat) :
    Computes (ParseM.peek data n) fun off =>
      if n > data.size - off then (.error (.insufficientData n (data.size - off)), off)
      else (.ok (data.extract off (off + n)).toList, off) := by
  intro st
  simp only [exec_peek]
  split <;> rfl

lemma skip (data : Array UInt8) (n : Nat) :
    Computes (ParseM.skip data n) fun off =>
      if n > data.size - off then (.error (.insufficientData n (data.size - off)), off)
      else (.ok (), off + n) := by
  intro st
  simp only [exec_skip]
  split <;> rfl

lemma read (data : Array UInt8) (n : Nat) :
    Computes (ParseM.read data n) fun off =>
      if n > data.size - off then (.error (.insufficientData n (data.size - off)), off)
      else (.ok (data.extract off (off + n)).toList, off + n) := by
  intro st
  simp only [exec_read]
  split <;> rfl

/-- Sequencing: the continuation runs from the cursor the first parse left. -/
lemma bind {x : ParseM α} {f : α → ParseM β} {F : Nat → Except Error α × Nat}
    {G : α → Nat → Except Error β × Nat} (hx : Computes x F) (hf : ∀ a, Computes (f a) (G a)) :
    Computes (x >>= f) fun off => andThen (F off) G := by
  intro st
  simp only
  rw [← hx st, exec_bind]
  rcases exec x st with ⟨_ | a, s⟩
  · rfl
  · exact hf a s

/-- A parse that reads the state and then depends on it only through the cursor. -/
lemma bind_get {g : ParseState → ParseM β} {G : ParseState → Nat → Except Error β × Nat}
    (hg : ∀ st, Computes (g st) (G st))
    (hG : ∀ st₁ st₂ : ParseState, st₁.offset = st₂.offset → G st₁ = G st₂) :
    Computes (get >>= g) fun off => G { offset := off } off := by
  intro st
  simp only [exec_bind, exec_get]
  rw [hg st st, hG st { offset := st.offset } rfl]

lemma ite (c : Prop) [Decidable c] {a b : ParseM α} (ha : Computes a F) (hb : Computes b G) :
    Computes (if c then a else b) fun off => if c then F off else G off := by
  split
  · exact ha
  · exact hb

lemma traced (hp : Computes p F) : Computes (ParseM.traced p) F := by
  intro st
  rw [exec_traced]
  split
  · exact hp _
  · exact hp st

/-- A window runs its parse from cursor zero; the cursor then moves past the whole window, or
stays where it was if the parse failed. -/
lemma within (hp : Computes p F) (n : Nat) :
    Computes (ParseM.within n p) fun off => match F 0 with
      | (.ok v, _) => (.ok v, off + n)
      | (.error e, _) => (.error e, off) := by
  intro st
  have h := hp { st with offset := 0 }
  simp only [exec_within]
  rw [show F 0 = F { st with offset := 0 }.offset from rfl, ← h]
  rcases exec p { st with offset := 0 } with ⟨_ | v, s⟩ <;> rfl

end Computes

/-- The outcome of `k` items of a counted sequence from the item `i` on, each read by a function
of its index and its starting cursor. -/
def itemsOutcome (item : Nat → Nat → Except Error Value × Nat) (i : Nat) :
    Nat → Nat → Except Error (List Value) × Nat
  | 0, off => (.ok [], off)
  | k + 1, off =>
    andThen (item i off) fun v o =>
      andThen (itemsOutcome item (i + 1) k o) fun vs o' => (.ok (v :: vs), o')

lemma Computes.itemsFrom {item : Nat → ParseM Value} {F : Nat → Nat → Except Error Value × Nat}
    (hitem : ∀ i, Computes (item i) (F i)) (i k : Nat) (acc : Array Value) :
    Computes (ParseM.itemsFrom item i k acc) fun off =>
      andThen (itemsOutcome F i k off) fun vs o => (.ok (.array (acc.toList ++ vs)), o) := by
  induction k generalizing i acc with
  | zero => intro st; simp [exec_itemsFrom_zero, itemsOutcome]
  | succ k ih =>
    intro st
    simp only [exec_itemsFrom_succ, itemsOutcome]
    rw [← hitem i st]
    rcases exec (item i) st with ⟨_ | v, s⟩
    · rfl
    · simp only [andThen_ok]
      rw [ih (i + 1) (acc.push v) s]
      dsimp only
      generalize itemsOutcome F (i + 1) k s.offset = r
      rcases r with ⟨_ | vs, o'⟩ <;> simp

/-- The items a greedy repetition reads from a cursor, and the cursor after them: nothing at
the end of the window; nothing, with the cursor back where it was, if the next item fails; the
item alone if it consumed nothing; else the item followed by the repetition after it. -/
def greedyOutcome (item : Nat → Except Error Value × Nat) (size off : Nat) : List Value × Nat :=
  if off < size then
    match item off with
    | (.ok v, o) =>
      if off < o then
        let r := greedyOutcome item size o
        (v :: r.1, r.2)
      else ([v], o)
    | (.error _, _) => ([], off)
  else ([], off)
termination_by size - off

lemma greedyFrom_computes {item : ParseM Value} {F : Nat → Except Error Value × Nat}
    (hitem : Computes item F) (data : Array UInt8) (acc : Array Value) (st : ParseState) :
    ((greedyFrom data item acc st).1, (greedyFrom data item acc st).2.offset) =
      let r := greedyOutcome F data.size st.offset
      (.ok (.array (acc.toList ++ r.1)), r.2) := by
  induction acc, st using ParseM.greedyFrom.induct data item with
  | case1 acc st hlt v s e hadv ih =>
    have e' : F st.offset = (.ok v, s.offset) := by rw [← hitem st]; simp only [exec, e]
    rw [greedyFrom, if_pos hlt, greedyOutcome, if_pos hlt, e']
    simp only [e, if_pos hadv]
    rw [ih]
    simp
  | case2 acc st hlt v s e hadv =>
    have e' : F st.offset = (.ok v, s.offset) := by rw [← hitem st]; simp only [exec, e]
    rw [greedyFrom, if_pos hlt, greedyOutcome, if_pos hlt, e']
    simp [e, if_neg hadv]
  | case3 acc st hlt err s e =>
    have e' : F st.offset = (.error err, s.offset) := by rw [← hitem st]; simp only [exec, e]
    rw [greedyFrom, if_pos hlt, greedyOutcome, if_pos hlt, e']
    simp [e]
  | case4 acc st hge =>
    rw [greedyFrom, if_neg hge, greedyOutcome, if_neg hge]
    simp

lemma Computes.greedy {item : ParseM Value} {F : Nat → Except Error Value × Nat}
    (hitem : Computes item F) (data : Array UInt8) :
    Computes (ParseM.greedy data item) fun off =>
      let r := greedyOutcome F data.size off
      (.ok (.array r.1), r.2) := by
  intro st
  simpa [exec_greedy] using greedyFrom_computes hitem data #[] st

end ParseM

end ByteLayout
