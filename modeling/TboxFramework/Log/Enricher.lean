import TboxFramework.Library.Decimal
import TboxFramework.Log.Fields
import Mathlib.Data.Bool.AllAny

/-!
# The enricher

Every record starts with fields of its own, among them the context that is not empty;
the caller's fields follow. The clocks and the identities of process and thread are
what the operating system answers at the moment of the record.
-/

namespace TboxFramework.Log

open TboxFramework.Decimal
open TboxFramework.Store (Bytes text)

set_option autoImplicit false

/-- `struct tm`. -/
structure BrokenDownTime where
  tmYear : Int
  tmMon : Int
  tmMday : Int
  tmHour : Int
  tmMin : Int
  tmSec : Int

/-- What the system answers while a record is made. -/
structure Moment where
  /-- `gmtime_r` of the time of day. -/
  utc : BrokenDownTime
  microseconds : Int
  /-- The seconds of `CLOCK_REALTIME`. -/
  realSeconds : Int
  monoMs : Int64
  pid : Int64
  tid : Int64

/-- `%0<width>d`. -/
def zeroPadded (width : Nat) (number : Int) : Bytes :=
  let digits := numeral number.natAbs
  let sign := minusText (number < 0)
  sign ++ List.replicate (width - sign.length - digits.length) 48 ++ digits

/-- `%04d-%02d-%02d`, what stands between date and time, and `%02d:%02d:%02d.%03d`. -/
def printTime (between : Bytes) (time : BrokenDownTime) (milliseconds : Int) : Bytes :=
  zeroPadded 4 (time.tmYear + 1900) ++ text "-" ++ zeroPadded 2 (time.tmMon + 1) ++ text "-" ++
    zeroPadded 2 time.tmMday ++ between ++ zeroPadded 2 time.tmHour ++ text ":" ++
    zeroPadded 2 time.tmMin ++ text ":" ++ zeroPadded 2 time.tmSec ++ text "." ++
    zeroPadded 3 milliseconds

structure Enricher where
  service : Bytes

namespace Enricher

/-- The buffer holds 63 characters and the terminator. -/
def getTimestampUTC (moment : Moment) : Bytes :=
  (printTime (text "T") moment.utc (moment.microseconds.tdiv 1000) ++ text "Z").take 63

def isTimeSynced (moment : Moment) : Bool := 1577836800 < moment.realSeconds

def recordFields (enricher : Enricher) (moment : Moment) (level : LogLevel)
    (module event message : Bytes) : List Field :=
  [⟨text "schema_version", .int64 1, .normal⟩,
    ⟨text "timestamp", .string (getTimestampUTC moment), .normal⟩,
    ⟨text "time_synced", .bool (isTimeSynced moment), .normal⟩,
    ⟨text "mono_ms", .int64 moment.monoMs, .normal⟩,
    ⟨text "level", .string (logLevelToString level), .normal⟩,
    ⟨text "service", .string enricher.service, .normal⟩,
    ⟨text "module", .string module, .normal⟩,
    ⟨text "event", .string event, .normal⟩,
    ⟨text "message", .string message, .normal⟩,
    ⟨text "pid", .int64 moment.pid, .normal⟩,
    ⟨text "tid", .int64 moment.tid, .normal⟩]

/-- A context field is left out when it is empty. -/
def contextField (key value : Bytes) : List Field :=
  if value = [] then [] else [⟨key, .string value, .normal⟩]

def contextFields : Option LogContext → List Field
  | none => []
  | some context =>
      contextField (text "trace_id") context.traceId ++
        contextField (text "request_id") context.requestId ++
        contextField (text "session_id") context.sessionId

def enrich (enricher : Enricher) (moment : Moment) (fields : List Field) (level : LogLevel)
    (module event message : Bytes) (context : Option LogContext) : List Field :=
  enricher.recordFields moment level module event message ++ contextFields context ++ fields

theorem forall_context_field {property : Field → Prop} {key value : Bytes}
    (given : property ⟨key, .string value, .normal⟩) :
    ∀ field ∈ contextField key value, property field := by
  intro field member
  unfold contextField at member
  split at member
  · cases member
  · rw [List.mem_singleton] at member
    rw [member]
    exact given

/-- The fields of a context are its three texts under their names. -/
theorem forall_context_fields {property : Field → Prop} {context : Option LogContext}
    (given : ∀ texts ∈ context, property ⟨text "trace_id", .string texts.traceId, .normal⟩ ∧
      property ⟨text "request_id", .string texts.requestId, .normal⟩ ∧
      property ⟨text "session_id", .string texts.sessionId, .normal⟩) :
    ∀ field ∈ contextFields context, property field := by
  cases context with
  | none =>
      intro field member
      cases member
  | some texts =>
      obtain ⟨trace, request, session⟩ := given texts rfl
      unfold contextFields
      rw [List.forall_mem_append, List.forall_mem_append]
      exact ⟨⟨forall_context_field trace, forall_context_field request⟩,
        forall_context_field session⟩

end Enricher

/-! ## Times are printable -/

/-- A character of the ASCII range that is not a control character. -/
def IsPrintable (byte : UInt8) : Prop := 32 ≤ byte ∧ byte < 127

instance (byte : UInt8) : Decidable (IsPrintable byte) := inferInstanceAs (Decidable (_ ∧ _))

theorem numeric_printable {byte : UInt8} (numeric : IsNumeric byte) : IsPrintable byte :=
  ⟨UInt8.le_trans (by decide) numeric.1, UInt8.lt_of_le_of_lt numeric.2 (by decide)⟩

/-- A character that times are made of; the brackets of a line come behind it. -/
def IsClock (byte : UInt8) : Prop := 32 ≤ byte ∧ byte ≤ 90

instance (byte : UInt8) : Decidable (IsClock byte) := inferInstanceAs (Decidable (_ ∧ _))

theorem clock_printable {byte : UInt8} (clock : IsClock byte) : IsPrintable byte :=
  ⟨clock.1, UInt8.lt_of_le_of_lt clock.2 (by decide)⟩

theorem digit_clock {byte : UInt8} (isDigit : IsDigit byte) : IsClock byte :=
  ⟨UInt8.le_trans (by decide) isDigit.1, UInt8.le_trans isDigit.2 (by decide)⟩

theorem zero_padded_clock (width : Nat) (number : Int) :
    ∀ byte ∈ zeroPadded width number, IsClock byte := by
  have minus : ∀ negative, ∀ byte ∈ minusText negative, IsClock byte := by
    intro negative
    cases negative <;> exact List.all_iff_forall_prop.mp (by decide)
  intro byte member
  unfold zeroPadded at member
  simp only [List.mem_append, List.mem_replicate] at member
  rcases member with (sign | zero) | digit
  · exact minus _ byte sign
  · rw [zero.2]
    decide
  · exact digit_clock (numeral_digits _ byte digit)

theorem print_time_clock {between : Bytes} (plain : ∀ byte ∈ between, IsClock byte)
    (time : BrokenDownTime) (milliseconds : Int) :
    ∀ byte ∈ printTime between time milliseconds, IsClock byte := by
  have dash : ∀ byte ∈ text "-", IsClock byte :=
    List.all_iff_forall_prop.mp (by decide)
  have colon : ∀ byte ∈ text ":", IsClock byte :=
    List.all_iff_forall_prop.mp (by decide)
  have point : ∀ byte ∈ text ".", IsClock byte :=
    List.all_iff_forall_prop.mp (by decide)
  intro byte member
  unfold printTime at member
  simp only [List.mem_append] at member
  rcases member with
    ((((((((((((year | first) | month) | second) | day) | middle) | hour) | third) | minute) |
      fourth) | seconds) | last) | fraction)
  · exact zero_padded_clock _ _ byte year
  · exact dash byte first
  · exact zero_padded_clock _ _ byte month
  · exact dash byte second
  · exact zero_padded_clock _ _ byte day
  · exact plain byte middle
  · exact zero_padded_clock _ _ byte hour
  · exact colon byte third
  · exact zero_padded_clock _ _ byte minute
  · exact colon byte fourth
  · exact zero_padded_clock _ _ byte seconds
  · exact point byte last
  · exact zero_padded_clock _ _ byte fraction

theorem Enricher.timestamp_clock (moment : Moment) :
    ∀ byte ∈ Enricher.getTimestampUTC moment, IsClock byte := by
  have zone : ∀ byte ∈ text "Z", IsClock byte :=
    List.all_iff_forall_prop.mp (by decide)
  intro byte member
  have among := List.mem_of_mem_take member
  rw [List.mem_append] at among
  cases among with
  | inl time =>
      exact print_time_clock (List.all_iff_forall_prop.mp (by decide)) _ _ byte time
  | inr zulu => exact zone byte zulu

theorem Enricher.timestamp_printable (moment : Moment) :
    ∀ byte ∈ Enricher.getTimestampUTC moment, IsPrintable byte :=
  fun byte member => clock_printable (Enricher.timestamp_clock moment byte member)

end TboxFramework.Log
