import TboxFramework.Library.GeneralFormat
import TboxFramework.Log.Enricher
import TboxFramework.Log.LogFileNames

/-!
# The standard formatter

A line for people: local time, service, level and message, then the caller's fields.
The rules of the time zone are a parameter.
-/

namespace TboxFramework.Log

open TboxFramework.Decimal
open TboxFramework.Store (Bytes cString text)

set_option autoImplicit false

namespace StandardFormatter

def commonFields : List Bytes :=
  [text "schema_version", text "timestamp", text "time_synced", text "mono_ms", text "level",
    text "service", text "module", text "event", text "message", text "pid", text "tid",
    text "trace_id", text "request_id", text "session_id"]

def isCommonField (key : Bytes) : Bool := commonFields.contains key

/-- The first field of this key that is text. -/
def extractFieldValue (fields : List Field) (key default : Bytes) : Bytes :=
  match fields with
  | [] => default
  | field :: rest =>
      match field.value with
      | .string value => if field.key = key then value else extractFieldValue rest key default
      | _ => extractFieldValue rest key default

/-! ## Time -/

/-- `%d` of `sscanf`. -/
def scanNumber (bytes : Bytes) : Option (Int × Bytes) :=
  let signed := readSign (bytes.dropWhile isSpace)
  let digits := signed.2.takeWhile fun byte => decide (IsDigit byte)
  if digits = [] then none
  else
    let number : Int := if signed.1 then -value digits else value digits
    some (number, signed.2.drop digits.length)

/-- A character of the format that stands for itself. -/
def scanChar (expected : UInt8) : Bytes → Option Bytes
  | [] => none
  | byte :: rest => if byte = expected then some rest else none

/-- `sscanf` with "%d-%d-%dT%d:%d:%d", all six conversions made. -/
def scanTime (bytes : Bytes) : Option BrokenDownTime := do
  let (year, bytes) ← scanNumber bytes
  let bytes ← scanChar 45 bytes
  let (month, bytes) ← scanNumber bytes
  let bytes ← scanChar 45 bytes
  let (day, bytes) ← scanNumber bytes
  let bytes ← scanChar 84 bytes
  let (hour, bytes) ← scanNumber bytes
  let bytes ← scanChar 58 bytes
  let (minute, bytes) ← scanNumber bytes
  let bytes ← scanChar 58 bytes
  let (second, _) ← scanNumber bytes
  some ⟨year - 1900, month - 1, day, hour, minute, second⟩

/-- `std::atoi`. -/
def atoi (bytes : Bytes) : Int := ((scanNumber bytes).map Prod.fst).getD 0

/-- The three digits after the first point from the twentieth character on. -/
def milliseconds (utcTimestamp : Bytes) : Int :=
  match find [46] (utcTimestamp.drop 19) with
  | some offset =>
      if 19 + offset + 3 < utcTimestamp.length then
        atoi ((utcTimestamp.drop (19 + offset + 1)).take 3)
      else 0
  | none => 0

/-- The buffer holds 31 characters and the terminator. -/
def printLocal (tmLocal : BrokenDownTime) (ms : Int) : Bytes :=
  (printTime (text " ") tmLocal ms).take 31

/-- `localTime` is `timegm` followed by `localtime_r`. -/
def utcToLocalFormat (localTime : BrokenDownTime → BrokenDownTime) (utcTimestamp : Bytes) : Bytes :=
  if utcTimestamp.length < 20 ∨ utcTimestamp[10]? ≠ some 84 then utcTimestamp
  else
    match scanTime (cString utcTimestamp) with
    | some tmUtc => printLocal (localTime tmUtc) (milliseconds utcTimestamp)
    | none => utcTimestamp

/-! ## The line -/

/-- A value as the stream prints it, doubles with the stream's default precision. -/
def printValue : FieldValue → Bytes
  | .string value => value
  | .int64 value => signedNumeral value.toInt
  | .double value => GeneralFormat.general value
  | .bool value => if value then text "true" else text "false"

/-- The loop over the fields; a separator stands before all but the first that is printed. -/
def formatExtraFrom : Bool → List Field → Bytes
  | _, [] => []
  | first, field :: rest =>
      if isCommonField field.key then formatExtraFrom first rest
      else
        (if first then [] else text ", ") ++
          (field.key ++ text "=" ++ printValue field.value ++ formatExtraFrom false rest)

def formatExtraFields (fields : List Field) : Bytes := formatExtraFrom true fields

def format (localTime : BrokenDownTime → BrokenDownTime) (fields : List Field) : Bytes :=
  let timestamp := extractFieldValue fields (text "timestamp") (text "----/--/-- --:--:--.---")
  let service := extractFieldValue fields (text "service") (text "unknown")
  let level := extractFieldValue fields (text "level") (text "info")
  let message := extractFieldValue fields (text "message") []
  let extra := formatExtraFields fields
  text "[" ++ utcToLocalFormat localTime timestamp ++ text "] [" ++ service ++ text "] [" ++
    level.map toLower ++ text "] " ++ message ++ (if extra = [] then [] else text ", " ++ extra)

end StandardFormatter

end TboxFramework.Log
