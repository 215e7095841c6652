import ByteLayout.Error
import ByteLayout.Scope
/-!
# Lengths

A length or count is a fixed number, the value of a visible field, or any function of the
scope. Resolving it gives a signed 64-bit integer; byte regions and arrays read a negative
length as zero, while windows refuse it.

## Main definitions

* `ByteLayout.Length` — the three forms of a length.
* `ByteLayout.Length.resolve`, `resolveClamped`, `resolveStrict` — its value in a scope.
-/

namespace ByteLayout

/-- A byte length or an item count, resolved when a schema needs it. -/
inductive Length where
  | fixed (n : Nat)
  | field (name : String)
  | computed (f : Scope → Option Int64)

namespace Length

/-- How a length is shown in schema names: the number, the field name, or `fn`. -/
def label : Length → String
  | .fixed n => toString n
  | .field name => name
  | .computed _ => "fn"

/-- The value of a length in a scope, which may be negative. -/
def resolve (l : Length) (scope : Scope) : Except Error Int :=
  match l with
  | .fixed n => if n < Nat.pow 2 63 then .ok n else .error (.invalidLength (.tooLarge n))
  | .field name =>
    match scope.get? name with
    | some v => match v.toInt64? with
      | some n => .ok n.toInt
      | none => .error (.invalidLength (.notInteger name v))
    | none => .error (.invalidLength (.notInScope name))
  | .computed f =>
    match f scope with
    | some n => .ok n.toInt
    | none => .error (.invalidLength .noValue)

/-- The value of a length in a scope, a negative one counting as zero. -/
def resolveClamped (l : Length) (scope : Scope) : Except Error Nat :=
  (l.resolve scope).map Int.toNat

/-- The value of a length in a scope, which must not be negative. -/
def resolveStrict (l : Length) (scope : Scope) : Except Error Nat := do
  let n ← l.resolve scope
  if n < 0 then throw (.invalidLength (.negative n)) else pure n.toNat

end Length

end ByteLayout
