import ByteLayout.Value
/-!
# Scopes

What the length and key expressions of a schema can see: a stack of records, one for the
whole input and one for each enclosing struct, array item or switch being written. A name is
looked up from the innermost layer outwards, so a field of the current struct hides a field
of the same name further out.

## Main definitions

* `ByteLayout.Scope` — the layers, innermost first, with `Scope.root` and `Scope.push`.
* `ByteLayout.Scope.get?`, `int?`, `index?`, `depth` — what expressions read from a scope.
-/

namespace ByteLayout

/-- The records visible to expressions, innermost first. -/
structure Scope where
  layers : List Record

namespace Scope

/-- The name under which an array item's index is visible. -/
def indexName : String := "_index"

/-- The scope at the start of a parse or a build: one empty layer. -/
def root : Scope := ⟨[[]]⟩

/-- The scope with one more layer inside. -/
def push (s : Scope) (layer : Record) : Scope := ⟨layer :: s.layers⟩

/-- The innermost visible value of a name. -/
def get? (s : Scope) (name : String) : Option Value :=
  s.layers.findSome? (Record.get? · name)

/-- The innermost visible value of a name, as a signed 64-bit integer. -/
def int? (s : Scope) (name : String) : Option Int64 :=
  (s.get? name).bind Value.toInt64?

/-- The index of the innermost array item. -/
def index? (s : Scope) : Option UInt64 :=
  (s.get? indexName).bind Value.toUInt64?

/-- The number of layers, the root layer included. -/
def depth (s : Scope) : Nat := s.layers.length

/-- The layer that makes an array item's index visible. -/
def indexLayer (i : Nat) : Record := [(indexName, .unsigned (UInt64.ofNat i))]

end Scope

end ByteLayout
