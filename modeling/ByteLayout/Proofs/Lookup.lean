import ByteLayout.Proofs.Exec

set_option autoImplicit false

/-!
# Looking names up in records and scopes

A record answers a name with the value of its first field of that name, and setting a field
changes the answer for that name only. A scope answers with its innermost layer that has the
name. Two scopes that answer alike for the names an expression reads give the expression the
same value: that is how a parse and a build, whose scopes hold different layers, still resolve
the same lengths and keys.

## Main definitions

* `ByteLayout.Length.ReadsFrom`, `ByteLayout.SwitchOn.ReadsFrom` — a length or a key that is
  fixed or reads one of some names.
* `ByteLayout.Scope.Agree` — two scopes that answer alike for some names.

## Main results

* `ByteLayout.Record.get?_insert`, `ByteLayout.Record.get?_ofList_map` — lookups after setting
  fields.
* `ByteLayout.Scope.get?_push` — a lookup tries the new layer first.
* `ByteLayout.Scope.Agree.resolve_eq`, `ByteLayout.Scope.Agree.key?_eq` — agreeing scopes
  resolve a length or a key alike.
-/

namespace ByteLayout

namespace Record

@[simp] lemma get?_nil (x : String) : get? [] x = none := rfl

lemma get?_cons (k : String) (w : Value) (rest : Record) (x : String) :
    get? ((k, w) :: rest) x = if x = k then some w else get? rest x := by
  by_cases h : x = k
  · simp [get?, h]
  · simp [get?, Ne.symm h, h]

/-- Setting a field answers its name with the new value and every other name as before. -/
theorem get?_insert (n : String) (v : Value) (r : Record) (x : String) :
    (Record.insert n v r).get? x = if x = n then some v else r.get? x := by
  induction r with
  | nil => rw [insert, get?_cons]
  | cons p rest ih =>
    obtain ⟨k, w⟩ := p
    rw [insert]
    split
    · rw [get?_cons]
    · split
      · -- the field of that name is replaced
        rename_i hk
        subst hk
        rw [get?_cons, get?_cons]
        by_cases h : x = n <;> simp [h]
      · -- the new field goes further in, past `k`
        rename_i hk
        rw [get?_cons, get?_cons, ih]
        by_cases h : x = n
        · subst h
          simp [hk]
        · simp [h]

lemma get?_foldl_insert (names : List String) (f : String → Value) (r : Record) (x : String) :
    (names.foldl (fun r n => insert n (f n) r) r).get? x =
      if x ∈ names then some (f x) else r.get? x := by
  induction names generalizing r with
  | nil => simp
  | cons n rest ih =>
    rw [List.foldl_cons, ih, get?_insert]
    by_cases hx : x = n
    · subst hx
      simp
    · simp [hx]

/-- The record of some names, each with a value given by a function, answers each of those
names with its value and no other name. -/
theorem get?_ofList_map (names : List String) (f : String → Value) (x : String) :
    (ofList (names.map fun n => (n, f n))).get? x = if x ∈ names then some (f x) else none := by
  rw [ofList, List.foldl_map]
  exact get?_foldl_insert names f [] x

lemma ofList_map_append (names more : List String) (f : String → Value) :
    ofList ((names ++ more).map fun n => (n, f n)) =
      more.foldl (fun r n => insert n (f n) r) (ofList (names.map fun n => (n, f n))) := by
  rw [ofList, ofList, List.map_append, List.foldl_append, List.foldl_map]

end Record

namespace Scope

@[simp] lemma get?_root (x : String) : root.get? x = none := rfl

/-- A lookup tries the new layer first, then the scope under it. -/
theorem get?_push (s : Scope) (l : Record) (x : String) :
    (s.push l).get? x = (l.get? x).or (s.get? x) := by
  simp only [get?, push, List.findSome?_cons]
  cases l.get? x <;> rfl

/-- Two scopes agree on some names when they answer each of them alike. -/
def Agree (names : List String) (P B : Scope) : Prop :=
  ∀ x ∈ names, P.get? x = B.get? x

namespace Agree

variable {vis vis' : List String} {P B : Scope}

lemma mono (h : Agree vis P B) (hsub : ∀ x ∈ vis', x ∈ vis) : Agree vis' P B :=
  fun x hx => h x (hsub x hx)

/-- New layers keep two scopes agreeing on the names the layers answer alike, provided a name
that neither layer answers is one the scopes under them already agreed on. -/
lemma push (h : Agree vis P B) {l₁ l₂ : Record}
    (hl : ∀ x ∈ vis', l₁.get? x = l₂.get? x ∧ (l₁.get? x = none → x ∈ vis)) :
    Agree vis' (P.push l₁) (B.push l₂) := by
  intro x hx
  obtain ⟨heq, hnone⟩ := hl x hx
  rw [get?_push, get?_push, ← heq]
  cases e : l₁.get? x
  · exact h x (hnone e)
  · rfl

/-- A layer on one side only keeps the agreement on the names it does not answer. -/
lemma push_right (h : Agree vis P B) {l : Record} (hl : ∀ x ∈ vis, l.get? x = none) :
    Agree vis P (B.push l) := by
  intro x hx
  rw [get?_push, hl x hx]
  exact h x hx

/-- An array item's layer keeps two scopes agreeing, and they agree on its index too. -/
lemma push_index (h : Agree vis P B) (i : Nat) :
    Agree (indexName :: vis) (P.push (indexLayer i)) (B.push (indexLayer i)) :=
  h.push fun x hx => ⟨rfl, fun hnone => by
    rcases List.mem_cons.1 hx with rfl | hmem
    · simp [indexLayer, Record.get?_cons] at hnone
    · exact hmem⟩

/-- A name bound in the top layer of one side, with the value the other side's top layer
already holds for it, joins the names the two agree on. -/
lemma push_insert {acc r : Record} (h : Agree vis (P.push acc) (B.push r)) {name : String}
    {v : Value} (hname : name ∉ vis) (hr : r.get? name = some v) :
    Agree (vis ++ [name]) (P.push (acc.insert name v)) (B.push r) := by
  intro x hx
  rcases List.mem_append.1 hx with hbefore | hlast
  · have hne : x ≠ name := by
      rintro rfl
      exact hname hbefore
    rw [get?_push, Record.get?_insert, if_neg hne, ← get?_push]
    exact h x hbefore
  · rw [List.mem_singleton.1 hlast, get?_push, get?_push, Record.get?_insert, if_pos rfl, hr]
    rfl

end Agree

end Scope

/-- A length that is fixed or reads one of `names`. -/
def Length.ReadsFrom (names : List String) : Length → Prop
  | .fixed _ => True
  | .field name => name ∈ names
  | .computed _ => False

/-- A switch key that is fixed or read from one of `names`. -/
def SwitchOn.ReadsFrom (names : List String) : SwitchOn → Prop
  | .field name => name ∈ names
  | .computed _ => False
  | .fixed _ => True

namespace Scope.Agree

variable {vis : List String} {P B : Scope}

/-- Agreeing scopes resolve alike a length that reads only names they agree on. -/
theorem resolve_eq (h : Agree vis P B) {l : Length} (hl : l.ReadsFrom vis) :
    l.resolve P = l.resolve B := by
  cases l with
  | fixed n => rfl
  | field name => simp only [Length.resolve, h name hl]
  | computed f => exact hl.elim

lemma resolveClamped_eq (h : Agree vis P B) {l : Length} (hl : l.ReadsFrom vis) :
    l.resolveClamped P = l.resolveClamped B := by
  rw [Length.resolveClamped, Length.resolveClamped, h.resolve_eq hl]

lemma resolveStrict_eq (h : Agree vis P B) {l : Length} (hl : l.ReadsFrom vis) :
    l.resolveStrict P = l.resolveStrict B := by
  rw [Length.resolveStrict, Length.resolveStrict, h.resolve_eq hl]

/-- Agreeing scopes give a switch the same key when it reads only names they agree on. -/
theorem key?_eq (h : Agree vis P B) {on : SwitchOn} (hon : on.ReadsFrom vis) :
    on.key? P = on.key? B := by
  cases on with
  | field name => simp only [SwitchOn.key?, h name hon]
  | computed f => exact hon.elim
  | fixed key => rfl

end Scope.Agree

end ByteLayout
