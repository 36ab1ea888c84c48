import TboxFramework.Library.GeneralFormat
import TboxFramework.Log.Fields

/-!
# The JSON line formatter

One object on one line, its members in the order of the fields. Strings are escaped
byte by byte; numbers are printed as `std::to_string` and `%g` print them.
-/

namespace TboxFramework.Log

open TboxFramework.Decimal
open TboxFramework.Store (Bytes text)

set_option autoImplicit false

namespace JsonLineFormatter

/-- `%x` of a number below sixteen. -/
def hexDigit (number : Nat) : UInt8 :=
  if number < 10 then UInt8.ofNat (48 + number) else UInt8.ofNat (87 + number)

/-- One character of `escapeString`; a byte is an `unsigned char`, so that `%04x` starts
with two zeros. -/
def escapeByte (byte : UInt8) : Bytes :=
  if byte = 34 then text "\\\""
  else if byte = 92 then text "\\\\"
  else if byte = 8 then text "\\b"
  else if byte = 12 then text "\\f"
  else if byte = 10 then text "\\n"
  else if byte = 13 then text "\\r"
  else if byte = 9 then text "\\t"
  else if byte < 32 then
    text "\\u00" ++ [hexDigit (byte.toNat / 16), hexDigit (byte.toNat % 16)]
  else [byte]

def escapeString (bytes : Bytes) : Bytes := bytes.flatMap escapeByte

def formatValue : FieldValue → Bytes
  | .string value => text "\"" ++ escapeString value ++ text "\""
  | .int64 value => signedNumeral value.toInt
  | .double value => GeneralFormat.general value
  | .bool value => if value then text "true" else text "false"

def formatMember (field : Field) : Bytes :=
  text "\"" ++ escapeString field.key ++ text "\":" ++ formatValue field.value

/-- The loop over the fields; a comma stands before all but the first. -/
def formatMembers : Bool → List Field → Bytes
  | _, [] => []
  | first, field :: rest =>
      (if first then [] else text ",") ++ (formatMember field ++ formatMembers false rest)

def format (fields : List Field) : Bytes := text "\x7b" ++ formatMembers true fields ++ text "\x7d"

end JsonLineFormatter

end TboxFramework.Log
