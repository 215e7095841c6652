import ByteLayout.IEEE.Format
import ByteLayout.IEEE.Shortest
import ByteLayout.IEEE.Reading
import ByteLayout.Text.Hex
import ByteLayout.Text.Printable
import ByteLayout.Text.Quoted
import ByteLayout.Text.Utf8
import ByteLayout.Text.Encoding
import ByteLayout.Value
import ByteLayout.Error
import ByteLayout.Scope
import ByteLayout.Length
import ByteLayout.Number
import ByteLayout.Schema
import ByteLayout.Parse
import ByteLayout.Build
import ByteLayout.Definition
import ByteLayout.Json.Basic
import ByteLayout.Json.Writer
import ByteLayout.Value.Plain
import ByteLayout.Value.Tagged
import ByteLayout.Expr
import ByteLayout.Definition.Computed
import ByteLayout.Proofs.Exec
import ByteLayout.Proofs.Outcome
import ByteLayout.Proofs.Scan
import ByteLayout.Proofs.Cursor
import ByteLayout.Proofs.Emission
import ByteLayout.Proofs.Write
import ByteLayout.Proofs.Canonical
import ByteLayout.Proofs.NumberCodec
import ByteLayout.Proofs.RoundTrip
import ByteLayout.Proofs.TextCodec
import ByteLayout.Proofs.Padding
import ByteLayout.Proofs.Rebuild
import ByteLayout.Proofs.Visibility
import ByteLayout.Proofs.Composition
import ByteLayout.Proofs.Greedy
import ByteLayout.Proofs.Locality
import ByteLayout.Proofs.Trace
import ByteLayout.Proofs.Region
import ByteLayout.Proofs.HexReading
import ByteLayout.Proofs.Validation
