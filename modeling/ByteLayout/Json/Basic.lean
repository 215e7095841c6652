/-!
# JSON documents

JSON documents as schema definitions and plain values arrive in. A number keeps how it was
written: its sign, its digits before and after the point, and its exponent part, since a plain
integer and the same number written with a point or an exponent load as different values, and
a reader of doubles may treat the digits before the point apart from those after it. An
object holds each key once, the last occurrence winning.

## Main definitions

* `ByteLayout.JsonNumber` — a number as written.
* `ByteLayout.Json` — the documents, with lookups by key.

## Main results

* `ByteLayout.Json.sizeOf_lt_of_field?` and its siblings — what a lookup finds is smaller than
  the document, so readers of nested documents terminate.
-/

namespace ByteLayout

/-- A JSON number as written: its sign, the digits before the point, the digits after it
(empty without a point, since a point needs a digit after it), and the exponent part. -/
structure JsonNumber where
  negative : Bool
  whole : List Nat
  fraction : List Nat
  exponent : Option Int

/-- A JSON document. -/
inductive Json where
  | null
  | bool (b : Bool)
  | number (n : JsonNumber)
  | string (s : String)
  | array (items : List Json)
  | object (fields : List (String × Json))

namespace JsonNumber

/-- The value of a list of decimal digits, most significant first. -/
def digitsValue (ds : List Nat) : Nat :=
  ds.foldl (fun acc d => acc * 10 + d) 0

/-- Whether the number is written as a plain integer, with neither a point nor an exponent. -/
def integral (n : JsonNumber) : Bool :=
  n.fraction.isEmpty && n.exponent.isNone

/-- All the digits, before and after the point, as one natural number. -/
def mantissa (n : JsonNumber) : Nat :=
  digitsValue (n.whole ++ n.fraction)

/-- The power of ten of the mantissa's last digit: the number is
`(-1)^negative * mantissa * 10^scale`. -/
def scale (n : JsonNumber) : Int :=
  n.exponent.getD 0 - n.fraction.length

/-- The natural number a plain non-negative integer stands for. -/
def toNat? (n : JsonNumber) : Option Nat :=
  if n.integral ∧ ¬n.negative then some n.mantissa else none

/-- The integer a plain integer stands for; a minus zero is not one. -/
def toInt? (n : JsonNumber) : Option Int :=
  if !n.integral then none
  else if n.negative then (if n.mantissa = 0 then none else some (-(n.mantissa : Int)))
  else some n.mantissa

/-- A plain integer. -/
def ofInt (i : Int) : JsonNumber :=
  ⟨i < 0, (Nat.toDigits 10 i.natAbs).map fun c => c.toNat - '0'.toNat, [], none⟩

end JsonNumber

namespace Json

/-- A natural number as a document. -/
def nat (n : Nat) : Json := .number (JsonNumber.ofInt n)

/-- The value of a key of an object. -/
def field? (j : Json) (key : String) : Option Json :=
  match j with
  | .object fields => (fields.find? (·.1 == key)).map (·.2)
  | _ => none

/-- The text of a string. -/
def str? : Json → Option String
  | .string s => some s
  | _ => none

/-- The items of an array. -/
def items? : Json → Option (List Json)
  | .array items => some items
  | _ => none

/-- The fields of an object. -/
def fields? : Json → Option (List (String × Json))
  | .object fields => some fields
  | _ => none

/-- Adds a key to the fields of an object, replacing an earlier occurrence in place. -/
def setField (fields : List (String × Json)) (key : String) (v : Json) : List (String × Json) :=
  if fields.any (·.1 == key) then fields.map fun (k, w) => if k == key then (k, v) else (k, w)
  else fields ++ [(key, v)]

/-- A value found under a key is smaller than the object. -/
theorem sizeOf_lt_of_field? {j : Json} {key : String} {v : Json} (h : j.field? key = some v) :
    sizeOf v < sizeOf j := by
  cases j with
  | object fields =>
    simp only [field?, Option.map_eq_some_iff] at h
    obtain ⟨⟨k, w⟩, hf, rfl⟩ := h
    have hm := List.sizeOf_lt_of_mem (List.mem_of_find?_eq_some hf)
    simp only [Prod.mk.sizeOf_spec] at hm
    simp only [object.sizeOf_spec]
    omega
  | _ => simp [field?] at h
/-- An item of an array is smaller than the array. -/
theorem sizeOf_lt_of_mem_items {j : Json} {items : List Json} {v : Json} (h : j.items? = some items) (hv : v ∈ items) :
    sizeOf v < sizeOf j := by
  cases j with
  | array xs =>
    simp only [items?, Option.some.injEq] at h
    subst h
    have := List.sizeOf_lt_of_mem hv
    simp only [array.sizeOf_spec]
    omega
  | _ => simp [items?] at h
/-- A member of an object is smaller than the object. -/
theorem sizeOf_lt_of_mem_fields {j : Json} {fields : List (String × Json)} {k : String} {v : Json}
    (h : j.fields? = some fields) (hv : (k, v) ∈ fields) : sizeOf v < sizeOf j := by
  cases j with
  | object xs =>
    simp only [fields?, Option.some.injEq] at h
    subst h
    have := List.sizeOf_lt_of_mem hv
    simp only [Prod.mk.sizeOf_spec] at this
    simp only [object.sizeOf_spec]
    omega
  | _ => simp [fields?] at h

/-- A definition found under a key of an array item under a key is smaller than the document. -/
theorem sizeOf_lt_of_item_field {j : Json} {k key : String} {items : List Json} {it s : Json}
    (hf : j.field? k = some (.array items)) (hm : it ∈ items) (hs : it.field? key = some s) :
    sizeOf s < sizeOf j :=
  Nat.lt_trans (sizeOf_lt_of_field? hs)
    (Nat.lt_trans (sizeOf_lt_of_mem_items rfl hm) (sizeOf_lt_of_field? hf))

/-- A member of an object under a key is smaller than the document. -/
theorem sizeOf_lt_of_member_field {j : Json} {k key : String} {members : List (String × Json)}
    {v : Json} (hf : j.field? k = some (.object members)) (hm : (key, v) ∈ members) :
    sizeOf v < sizeOf j :=
  Nat.lt_trans (sizeOf_lt_of_mem_fields rfl hm) (sizeOf_lt_of_field? hf)

end Json

end ByteLayout
