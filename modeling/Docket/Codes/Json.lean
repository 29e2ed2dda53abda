import Docket.Codes
import Docket.Record.Basic

/-!
# Codes as JSON

A code is read by its three fields, all of which must be there. Its number is a
signed integer of 32 bits and its status an unsigned one of 16 bits.
-/

set_option autoImplicit false

namespace Docket.Code

/-- Signed integers of 32 bits. -/
def numberCodec : Codec (Ranged (-2147483648) 2147483647) :=
  .ranged .integer ⟨0, by decide⟩

/-- Unsigned integers of 16 bits. -/
def statusCodec : Codec (Ranged 0 65535) :=
  .ranged .integer ⟨0, by decide⟩

/-- The fields of a code. -/
def fields : List Field :=
  [ ⟨"code", Ranged (-2147483648) 2147483647, numberCodec⟩,
    ⟨"http_status", Ranged 0 65535, statusCodec⟩, ⟨"message", String, .text⟩ ]

/-- Reads a code. -/
def decode (value : Json) : Except DecodeError Code :=
  (Row.decode fields value).map fun row => ⟨row.1.val, row.2.1.val.toNat, row.2.2.1⟩

/-- Writes a code. -/
def toJson (code : Code) : Json :=
  .object
    [ ("code", .ofInt code.number), ("http_status", .ofInt code.status),
      ("message", .string code.message) ]

end Docket.Code
