import ByteLayout.Scope
/-!
# Expressions for computed lengths, keys and totals

Three small expression languages give computed lengths, switch keys and region totals as
data. Integer expressions read the scope and compute in signed 64-bit arithmetic, where an
overflow gives no value; key expressions give the value a switch takes its key from; total
expressions read the value of a sized region.

## Main definitions

* `ByteLayout.IntExpr`, `ByteLayout.IntExpr.eval` — integers over a scope.
* `ByteLayout.KeyExpr`, `ByteLayout.KeyExpr.eval` — switch keys over a scope.
* `ByteLayout.TotalExpr`, `ByteLayout.TotalExpr.eval` — region totals over a value.
-/

namespace ByteLayout

/-- An integer in the signed 64-bit range, or nothing. -/
def inInt64 (n : Int) : Option Int :=
  if -Nat.pow 2 63 ≤ n ∧ n < Nat.pow 2 63 then some n else none

/-- The size of a value that has one: the bytes of bytes or text, the items of an array. -/
def Value.size? : Value → Option Nat
  | .bytes b => some b.length
  | .text s => some s.utf8ByteSize
  | .array items => some items.length
  | _ => none

/-- An integer computed from the scope. -/
inductive IntExpr where
  | const (n : Int)
  /-- A visible field as an integer. -/
  | field (name : String)
  /-- The index of the innermost array item. -/
  | index
  /-- The number of scope layers. -/
  | depth
  /-- The size of a visible bytes, text or array field. -/
  | size (name : String)
  | nothing
  | add (a b : IntExpr)
  | sub (a b : IntExpr)
  | mul (a b : IntExpr)
  | bitAnd (a b : IntExpr)

/-- The value of an integer expression in a scope; arithmetic that leaves the signed 64-bit
range gives nothing. -/
def IntExpr.eval (scope : Scope) : IntExpr → Option Int
  | .const n => inInt64 n
  | .field name => (scope.int? name).map Int64.toInt
  | .index => (scope.index?).bind fun i => inInt64 i.toNat
  | .depth => inInt64 scope.depth
  | .size name => ((scope.get? name).bind Value.size?).bind fun n => inInt64 n
  | .nothing => none
  | .add a b => do inInt64 ((← a.eval scope) + (← b.eval scope))
  | .sub a b => do inInt64 ((← a.eval scope) - (← b.eval scope))
  | .mul a b => do inInt64 ((← a.eval scope) * (← b.eval scope))
  | .bitAnd a b => do
    let x ← a.eval scope
    let y ← b.eval scope
    pure ((Int64.ofInt x).land (Int64.ofInt y)).toInt

/-- A switch key computed from the scope. -/
inductive KeyExpr where
  /-- The visible value of a field. -/
  | get (name : String)
  /-- The visible value of a field, if it is text. -/
  | textOf (name : String)
  /-- An integer, as a signed value. -/
  | int (e : IntExpr)
  /-- A non-negative integer, as an unsigned value. -/
  | uint (e : IntExpr)
  | const (v : Value)
  | nothing

/-- The value a switch key expression gives in a scope. -/
def KeyExpr.eval (scope : Scope) : KeyExpr → Option Value
  | .get name => scope.get? name
  | .textOf name => ((scope.get? name).bind Value.text?).map .text
  | .int e => (e.eval scope).map fun n => .signed (Int64.ofInt n)
  | .uint e => (e.eval scope).bind fun n =>
    if n < 0 then none else some (.unsigned (UInt64.ofNat n.toNat))
  | .const v => some v
  | .nothing => none

/-- A region total computed from the region's value. -/
inductive TotalExpr where
  | const (n : Int)
  /-- A field of the value as a signed integer. -/
  | getInt (name : String)
  /-- A field of the value as an unsigned integer within the signed range. -/
  | getUInt (name : String)
  /-- The size of the value. -/
  | size
  | add (a b : TotalExpr)
  | nothing

/-- The total an expression gives for a value. -/
def TotalExpr.eval (v : Value) : TotalExpr → Option Int
  | .const n => inInt64 n
  | .getInt name => ((v.get? name).bind Value.toInt64?).map Int64.toInt
  | .getUInt name => ((v.get? name).bind Value.toUInt64?).bind fun n => inInt64 n.toNat
  | .size => v.size?.bind fun n => inInt64 n
  | .add a b => do inInt64 ((← a.eval v) + (← b.eval v))
  | .nothing => none

end ByteLayout
