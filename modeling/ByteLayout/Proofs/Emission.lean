import ByteLayout.Proofs.Exec

set_option autoImplicit false

/-!
# What builds emit

A build appends bytes to the output and writes its trace, but it never reads either: what it
returns and what it appends are the same whatever was written before it and whatever the
trace holds. This module names that pair — the result and the appended bytes — for each
operation the schemas use, and shows how sequencing, isolated builds and counted items
combine them.

## Main definitions

* `ByteLayout.BuildM.Emits` — a build that, from any state, returns a given result and
  appends given bytes.
* `ByteLayout.BuildM.written` — what a build returns and writes from nothing.
* `ByteLayout.BuildM.andThen` — sequencing of such pairs: the bytes of both parts, or of the
  first part alone if it failed.
* `ByteLayout.BuildM.itemsEmitted` — the items of a sequence built one after another.

## Main results

* `ByteLayout.BuildM.Emits.bind`, `traced`, `isolated`, `itemsFrom` — the combinations.
* `ByteLayout.BuildM.Emits.unique` — a build emits one pair only.
-/

namespace ByteLayout

namespace BuildM

variable {α β : Type}

/-- Continues after a successful result, adding the bytes of the continuation to those
already emitted; an error stays, with the bytes emitted before it. -/
def andThen (r : Except Error α × Bytes) (k : α → Except Error β × Bytes) :
    Except Error β × Bytes :=
  match r with
  | (.ok a, bs) => ((k a).1, bs ++ (k a).2)
  | (.error e, bs) => (.error e, bs)

@[simp] lemma andThen_ok (a : α) (bs : Bytes) (k : α → Except Error β × Bytes) :
    andThen (.ok a, bs) k = ((k a).1, bs ++ (k a).2) :=
  rfl

@[simp] lemma andThen_error (e : Error) (bs : Bytes) (k : α → Except Error β × Bytes) :
    andThen (.error e, bs) k = (.error e, bs) :=
  rfl

lemma andThen_assoc {γ : Type} (r : Except Error α × Bytes) (f : α → Except Error β × Bytes)
    (g : β → Except Error γ × Bytes) :
    andThen (andThen r f) g = andThen r fun a => andThen (f a) g := by
  rcases r with ⟨_ | a, bs⟩
  · rfl
  · rcases hf : f a with ⟨_ | b, bs'⟩ <;> simp [andThen, hf, List.append_assoc]

/-- A sequence succeeds exactly when both parts do, and then writes the bytes of both. -/
lemma andThen_eq_ok {r : Except Error α × Bytes} {k : α → Except Error β × Bytes} {c : β}
    {b : Bytes} :
    andThen r k = (.ok c, b) ↔ ∃ a b₁ b₂, r = (.ok a, b₁) ∧ k a = (.ok c, b₂) ∧ b = b₁ ++ b₂ := by
  rcases r with ⟨_ | a, b₁⟩
  · simp
  · constructor
    · intro h
      simp only [andThen_ok, Prod.mk.injEq] at h
      exact ⟨a, b₁, (k a).2, rfl, Prod.ext h.1 rfl, h.2.symm⟩
    · rintro ⟨a', b₁', b₂, h1, h2, rfl⟩
      simp only [Prod.mk.injEq, Except.ok.injEq] at h1
      obtain ⟨rfl, rfl⟩ := h1
      simp [h2]

/-- `p` emits `r`: run from any state, it returns `r.1` and appends `r.2` to the output. -/
def Emits (p : BuildM α) (r : Except Error α × Bytes) : Prop :=
  ∀ st : BuildState, (exec p st).1 = r.1 ∧ (exec p st).2.output = st.output ++ r.2.toArray

/-- What a build returns and writes when run from nothing. -/
def written (p : BuildM α) : Except Error α × Bytes :=
  let r := exec p {}
  (r.1, r.2.output.toList)

namespace Emits

variable {p : BuildM α} {r : Except Error α × Bytes}

/-- A build that emits something emits what it returns and writes from nothing. -/
lemma written_eq (h : Emits p r) : written p = r := by
  obtain ⟨h1, h2⟩ := h {}
  simp only [BuildM.written, h1, h2]
  simp

/-- A build emits one pair only. -/
lemma unique {r' : Except Error α × Bytes} (h : Emits p r) (h' : Emits p r') : r = r' :=
  h.written_eq.symm.trans h'.written_eq

lemma congr {r' : Except Error α × Bytes} (h : Emits p r) (hr : r = r') : Emits p r' :=
  hr ▸ h

/-- A build that emits something emits what it writes from nothing. -/
lemma written (h : Emits p r) : Emits p (BuildM.written p) :=
  h.congr h.written_eq.symm

lemma pure (a : α) : Emits (Pure.pure a : BuildM α) (.ok a, []) := by
  intro st
  simp

lemma throw (e : Error) : Emits (MonadExcept.throw e : BuildM α) (.error e, []) := by
  intro st
  simp

lemma ofExcept (x : Except Error α) : Emits (MonadExcept.ofExcept x : BuildM α) (x, []) := by
  intro st
  simp

lemma emit (bs : Bytes) : Emits (BuildM.emit bs) (.ok (), bs) := by
  intro st
  simp

lemma log : Emits BuildM.log (.ok (), []) := by
  intro st
  simp

lemma convert {γ : Type} (view : Value → Option γ) (expected : String) (v : Value) :
    Emits (ByteLayout.convert view expected v) (match view v with
      | some a => (.ok a, [])
      | none => (.error (.invalidValue expected v.typeName), [])) := by
  unfold ByteLayout.convert
  rcases view v with _ | a
  · exact Emits.throw _
  · exact Emits.pure a

/-- Sequencing: the continuation appends after the first build. -/
lemma bind {x : BuildM α} {f : α → BuildM β} {r : Except Error α × Bytes}
    {k : α → Except Error β × Bytes} (hx : Emits x r) (hf : ∀ a, Emits (f a) (k a)) :
    Emits (x >>= f) (andThen r k) := by
  intro st
  obtain ⟨h1, h2⟩ := hx st
  rw [exec_bind]
  rcases e : exec x st with ⟨_ | a, s⟩ <;> rw [e] at h1 h2 <;> rcases r with ⟨_ | a', bs⟩ <;>
    simp only at h1 h2
  · cases h1
    exact ⟨rfl, h2⟩
  · cases h1
  · cases h1
  · cases h1
    obtain ⟨h3, h4⟩ := hf a s
    refine ⟨h3, ?_⟩
    rw [h4, h2]
    simp

lemma ite (c : Prop) [Decidable c] {a b : BuildM α} {ra rb : Except Error α × Bytes}
    (ha : Emits a ra) (hb : Emits b rb) : Emits (if c then a else b) (if c then ra else rb) := by
  split
  · exact ha
  · exact hb

lemma traced (hp : Emits p r) : Emits (BuildM.traced p) r := by
  intro st
  rw [exec_traced]
  split
  · exact hp _
  · exact hp st

/-- A handled build: the handler runs after the bytes the failed build emitted. -/
lemma tryCatch {x : BuildM α} {h : Error → BuildM α} {H : Error → Except Error α × Bytes}
    (hx : Emits x r) (hh : ∀ e, Emits (h e) (H e)) :
    Emits (tryCatch x h) (match r with
      | (.ok a, bs) => (.ok a, bs)
      | (.error e, bs) => ((H e).1, bs ++ (H e).2)) := by
  intro st
  obtain ⟨h1, h2⟩ := hx st
  rw [exec_tryCatch]
  rcases e : exec x st with ⟨_ | a, s⟩ <;> rw [e] at h1 h2 <;> rcases r with ⟨_ | a', bs⟩ <;>
    simp only at h1 h2
  · cases h1
    obtain ⟨h3, h4⟩ := hh _ s
    refine ⟨h3, ?_⟩
    rw [h4, h2]
    simp
  · cases h1
  · cases h1
  · cases h1
    exact ⟨rfl, h2⟩

/-- An isolated build appends nothing; it returns what its build wrote, or its build's error. -/
lemma isolated {p : BuildM Unit} {r : Except Error Unit × Bytes} (hp : Emits p r) :
    Emits (BuildM.isolated p) (r.1.map fun _ => r.2, []) := by
  intro st
  obtain ⟨h1, h2⟩ := hp { st with output := #[] }
  simp only [exec_isolated]
  rcases e : exec p { st with output := #[] } with ⟨_ | u, s⟩ <;> rw [e] at h1 h2 <;>
    rcases r with ⟨_ | u', bs⟩ <;> simp only at h1 h2
  · cases h1
    simp [Except.map]
  · cases h1
  · cases h1
  · simp at h2
    simp [Except.map, h2]

end Emits

/-- The result and the bytes of the items of a sequence from the item `i` on, each built by a
function of its index and its value. -/
def itemsEmitted (item : Nat → Value → Except Error Unit × Bytes) (i : Nat) :
    List Value → Except Error Unit × Bytes
  | [] => (.ok (), [])
  | v :: rest => andThen (item i v) fun _ => itemsEmitted item (i + 1) rest

lemma Emits.itemsFrom {item : Nat → Value → BuildM Unit}
    {F : Nat → Value → Except Error Unit × Bytes} (hitem : ∀ i v, Emits (item i v) (F i v))
    (i : Nat) (vs : List Value) : Emits (BuildM.itemsFrom item i vs) (itemsEmitted F i vs) := by
  induction vs generalizing i with
  | nil => exact Emits.pure ()
  | cons v rest ih => exact (hitem i v).bind fun _ => ih (i + 1)

end BuildM

end ByteLayout
