import ByteLayout.Value
import ByteLayout.Text.Encoding
import ByteLayout.Text.Quoted
/-!
# Errors of reading and writing

Each way a parse or a build can fail is a constructor holding its cause; `Error.message`
gives the wording and `Error.kind` the coarse class that callers match on. A missing field, a
missing value and a value of the wrong type all have the class of an invalid value.

## Main definitions

* `ByteLayout.LengthFault` — why a length, count or region total is unusable.
* `ByteLayout.Error` — why a parse or a build failed.
* `ByteLayout.ErrorKind` — the classes of errors.
-/

namespace ByteLayout

/-- Why a length, count or region total is unusable. -/
inductive LengthFault where
  /-- A fixed length beyond the signed 64-bit range. -/
  | tooLarge (n : Nat)
  /-- No field of this name is visible. -/
  | notInScope (name : String)
  /-- The field holds a value that is not a signed 64-bit integer. -/
  | notInteger (name : String) (found : Value)
  /-- A computed length gave nothing. -/
  | noValue
  /-- A length that must not be negative is. -/
  | negative (n : Int)
  /-- A region total gave nothing. -/
  | totalNotInteger
  /-- A region total is negative. -/
  | totalNegative (n : Int)

/-- The text of a length fault. -/
def LengthFault.message : LengthFault → String
  | .tooLarge n => s!"{n} does not fit in i64"
  | .notInScope name => s!"field {Quoted.quote name} is not in scope"
  | .notInteger name found => s!"field {Quoted.quote name} is {found.typeName}, not an integer"
  | .noValue => "length function returned no value"
  | .negative n => s!"{n} is negative"
  | .totalNotInteger => "sized total is not an integer"
  | .totalNegative n => s!"sized total {n} is negative"

/-- Why a parse or a build failed. -/
inductive Error where
  /-- Fewer bytes remain in the window than a read needs. -/
  | insufficientData (needed available : Nat)
  /-- A value's length differs from the length the schema resolved. -/
  | lengthMismatch (schema : String) (expected actual : Nat)
  /-- Bytes differ from a literal, on the wire or in the value to write. -/
  | literalMismatch (expected actual : Bytes)
  /-- A switch found no case for its key, or no key, and has no default. -/
  | unresolvedCase (key : Option String)
  /-- A length, count or total is unusable. -/
  | invalidLength (fault : LengthFault)
  /-- The schema inside a sized region used more bytes than the region's total. -/
  | oversized (declared actual : Nat)
  /-- A record to write lacks a field that cannot be written without a value. -/
  | missingField (name : String)
  /-- A schema was asked to write without a value. -/
  | missingValue
  /-- A value is not of the type a schema writes. -/
  | invalidValue (expected found : String)
  /-- Bytes or text do not fit a text encoding. -/
  | invalidEncoding (encoding : Encoding) (fault : Encoding.Fault)

/-- The classes of errors that callers match on. -/
inductive ErrorKind where
  | insufficientData
  | lengthMismatch
  | literalMismatch
  | unresolvedCase
  | invalidLength
  | oversizedSubSchema
  | invalidValue
  | invalidEncoding
  | invalidConfiguration

namespace Error

/-- The class of an error. -/
def kind : Error → ErrorKind
  | .insufficientData .. => .insufficientData
  | .lengthMismatch .. => .lengthMismatch
  | .literalMismatch .. => .literalMismatch
  | .unresolvedCase _ => .unresolvedCase
  | .invalidLength _ => .invalidLength
  | .oversized .. => .oversizedSubSchema
  | .missingField _ | .missingValue | .invalidValue .. => .invalidValue
  | .invalidEncoding .. => .invalidEncoding

/-- Bytes as a bracketed list of two-digit hex numbers: `[4d, 5a]`. -/
def byteList (bs : Bytes) : String :=
  "[" ++ ", ".intercalate (bs.map fun b => String.ofList (Hex.byteChars b)) ++ "]"

/-- The text of an error. -/
def message : Error → String
  | .insufficientData needed available =>
    s!"not enough data: needed {needed} bytes, only {available} available"
  | .lengthMismatch schema expected actual =>
    s!"{schema} length mismatch: expected {expected}, got {actual}"
  | .literalMismatch expected actual =>
    s!"literal mismatch: expected {byteList expected} but got {byteList actual}"
  | .unresolvedCase key => "switch case not found for key: " ++ key.getD "<missing>"
  | .invalidLength fault => s!"invalid length: {fault.message}"
  | .oversized declared actual =>
    s!"sub-schema used {actual} bytes, more than the declared total of {declared}"
  | .missingField name => s!"missing field: {name}"
  | .missingValue => "missing value"
  | .invalidValue expected found => s!"invalid value: expected {expected}, found {found}"
  | .invalidEncoding encoding fault => s!"invalid {encoding.name} data: {fault.reason}"

end Error

end ByteLayout
