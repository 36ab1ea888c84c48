import TboxFramework.Log.JsonReading
import TboxFramework.Log.LoggerLine

/-!
# JSON lines

A call whose texts are UTF-8 leaves a line that a strict reader accepts, exactly when its
doubles are numbers and the redactor cuts no text inside a character.
-/

namespace TboxFramework.Log

open GeneralFormat (IsFinite)
open JsonLineFormatter (Printable ValidField valid_text)
open TboxFramework.Store (Bytes text)
open Utf8 (AllAscii Valid)

set_option autoImplicit false

/-! ## Redaction -/

namespace Redactor

/-- What a redactor shows of an open field: a number that is one, text that is not cut
inside a character. -/
structure Shows (redactor : Redactor) (field : Field) : Prop where
  number : ∀ bits, field.value = .double bits → IsFinite bits
  masked : ∀ value, field.value = .string value → field.sensitivity = .identifier →
    redactor.config.identifiers = text "mask" → 4 < value.length →
      Valid (value.take 2) ∧ Valid (value.drop (value.length - 2))
  truncated : ∀ value, field.value = .string value → field.sensitivity = .payload →
    redactor.config.rawPayloadMaxBytes.toNat < value.length →
      Valid (value.take redactor.config.rawPayloadMaxBytes.toNat)

def Readable (redactor : Redactor) (field : Field) : Prop :=
  ¬ Secret field → redactor.Shows field

/-- A field that a JSON line can hold. -/
structure Presentable (field : Field) : Prop where
  texts : ValidField field
  value : Printable field.value

theorem presentable_string {field : Field} {value : Bytes} (string : field.value = .string value) :
    Presentable field ↔ Valid field.key ∧ Valid value := by
  constructor
  · intro presentable
    exact ⟨presentable.texts.key, presentable.texts.value value string⟩
  · intro both
    refine ⟨⟨both.1, ?_⟩, ?_⟩
    · intro other same
      rw [string, FieldValue.string.injEq] at same
      rw [← same]
      exact both.2
    · intro bits double
      rw [string] at double
      cases double

theorem withheld_presentable {field : Field} (notice : String) (valid : Valid field.key) :
    Presentable (withheld field (text notice)) :=
  (presentable_string rfl).mpr ⟨valid.append (valid_text _), valid_text notice⟩

theorem valid_mask_iff (value : Bytes) : Valid (maskValue value) ↔
    (4 < value.length → Valid (value.take 2) ∧ Valid (value.drop (value.length - 2))) := by
  have stars : text "****" ≠ [] ∧ AllAscii (text "****") := by decide
  unfold maskValue
  by_cases short : value.length ≤ 4
  · rw [if_pos short]
    exact iff_of_true (valid_text _) fun long => absurd long (Nat.not_lt.mpr short)
  · rw [if_neg short, List.append_assoc, Utf8.valid_joined_iff stars.1 stars.2]
    exact (imp_iff_right (Nat.not_le.mp short)).symm

theorem valid_truncate_iff (redactor : Redactor) {value : Bytes} (valid : Valid value) :
    Valid (redactor.truncatePayload value) ↔
      (redactor.config.rawPayloadMaxBytes.toNat < value.length →
        Valid (value.take redactor.config.rawPayloadMaxBytes.toNat)) := by
  have notice : text "...[truncated]" ≠ [] ∧ AllAscii (text "...[truncated]") := by decide
  unfold truncatePayload
  by_cases short : value.length ≤ redactor.config.rawPayloadMaxBytes.toNat
  · rw [if_pos short]
    exact iff_of_true valid fun long => absurd long (Nat.not_lt.mpr short)
  · rw [if_neg short, Utf8.valid_ended_iff notice.1 notice.2]
    exact (imp_iff_right (Nat.not_le.mp short)).symm

theorem valid_hash (value : Bytes) : Valid (hashValue value) := by
  refine ((valid_text _).append ?_).append (valid_text _)
  rw [decimal_eq_numeral]
  exact Utf8.valid_of_ascii fun byte member =>
    JsonLineFormatter.numeric_ascii (Decimal.digit_numeric (Decimal.numeral_digits _ byte member))

variable (redactor : Redactor)

theorem presentable_identifier_iff {field : Field} (texts : ValidField field) {value : Bytes}
    (identifier : field.sensitivity = .identifier) (string : field.value = .string value) :
    Presentable (redactor.redactIdentifier field value) ↔ redactor.Shows field := by
  have shows_iff : redactor.Shows field ↔ (redactor.config.identifiers = text "mask" →
      4 < value.length → Valid (value.take 2) ∧ Valid (value.drop (value.length - 2))) := by
    constructor
    · intro shows
      exact shows.masked value string identifier
    · intro masked
      refine ⟨?_, ?_, ?_⟩
      · intro bits double
        rw [string] at double
        cases double
      · intro other same _
        rw [string, FieldValue.string.injEq] at same
        rw [← same]
        exact masked
      · intro other _ payload
        rw [identifier] at payload
        cases payload
  unfold redactIdentifier
  rw [shows_iff]
  by_cases mask : redactor.config.identifiers = text "mask"
  · rw [if_pos mask, presentable_string rfl, valid_mask_iff, imp_iff_right mask]
    exact and_iff_right texts.key
  · rw [if_neg mask]
    refine iff_of_true ?_ fun policy => absurd policy mask
    split
    · exact withheld_presentable _ texts.key
    · exact (presentable_string rfl).mpr ⟨texts.key, valid_hash value⟩

theorem presentable_payload_iff {field : Field} (texts : ValidField field) {value : Bytes}
    (payload : field.sensitivity = .payload) (string : field.value = .string value) :
    Presentable { field with value := .string (redactor.truncatePayload value) } ↔
      redactor.Shows field := by
  rw [presentable_string rfl, valid_truncate_iff redactor (texts.value value string)]
  constructor
  · intro both
    refine ⟨?_, ?_, ?_⟩
    · intro bits double
      rw [string] at double
      cases double
    · intro other _ identifier
      rw [payload] at identifier
      cases identifier
    · intro other same _
      rw [string, FieldValue.string.injEq] at same
      rw [← same]
      exact both.2
  · intro shows
    exact ⟨texts.key, shows.truncated value string payload⟩

/-- A field whose text the redactor does not touch. -/
theorem presentable_untouched_iff {field : Field} (texts : ValidField field)
    (untouched : field.sensitivity = .normal ∨ field.value.type ≠ .kString) :
    Presentable field ↔ redactor.Shows field := by
  have text_normal : ∀ value, field.value = .string value → field.sensitivity = .normal := by
    intro value string
    cases untouched with
    | inl normal => exact normal
    | inr unprinted => rw [string] at unprinted; exact absurd rfl unprinted
  constructor
  · intro presentable
    refine ⟨presentable.value, ?_, ?_⟩
    · intro value string identifier
      rw [text_normal value string] at identifier
      cases identifier
    · intro value string payload
      rw [text_normal value string] at payload
      cases payload
  · intro shows
    exact ⟨texts, shows.number⟩

/-- Of a field with valid texts, what is shown is presentable exactly when it is readable. -/
theorem presentable_redacted_iff {field : Field} (texts : ValidField field) :
    Presentable (redactor.redactField field) ↔ redactor.Readable field := by
  by_cases secret : Secret field
  · rw [redact_secret redactor secret]
    exact iff_of_true (withheld_presentable _ texts.key) fun shown => absurd secret shown
  · unfold Readable
    rw [imp_iff_right secret]
    cases field.value.string_or_unprinted with
    | inr unprinted =>
        rw [redact_unprinted redactor secret unprinted]
        exact presentable_untouched_iff redactor texts (.inr unprinted)
    | inl string =>
        obtain ⟨value, string⟩ := string
        cases declared : field.sensitivity with
        | normal =>
            rw [redact_normal redactor secret declared]
            exact presentable_untouched_iff redactor texts (.inl declared)
        | identifier =>
            rw [redact_identifier redactor secret declared string]
            exact presentable_identifier_iff redactor texts declared string
        | payload =>
            rw [redact_payload redactor secret declared string]
            exact presentable_payload_iff redactor texts declared string
        | secret => exact absurd (.inr declared) secret

end Redactor

/-! ## The line -/

namespace LoggerParts

open Redactor (Presentable Readable)

variable {parts : LoggerParts} {call : LogCall}

structure ValidContext (context : LogContext) : Prop where
  traceId : Valid context.traceId
  requestId : Valid context.requestId
  sessionId : Valid context.sessionId

/-- Every text of the Logger and of the call is UTF-8. -/
structure ValidCall (parts : LoggerParts) (call : LogCall) : Prop where
  service : Valid parts.enricher.service
  module : Valid parts.module
  event : Valid call.event
  message : Valid call.message
  context : ∀ context, call.context = some context → ValidContext context
  fields : ∀ field ∈ call.fields, ValidField field

/-- A field of the record itself: nothing in it is withheld or cut. -/
structure Plain (field : Field) : Prop where
  texts : ValidField field
  normal : field.sensitivity = .normal
  number : ∀ bits, field.value ≠ .double bits

theorem plain_string (key : String) {value : Bytes} (valid : Valid value) :
    Plain ⟨text key, .string value, .normal⟩ := by
  refine ⟨⟨valid_text key, ?_⟩, rfl, fun _ same => by cases same⟩
  intro other same
  cases same
  exact valid

theorem plain_int (key : String) (value : Int64) : Plain ⟨text key, .int64 value, .normal⟩ :=
  ⟨⟨valid_text key, fun _ same => by cases same⟩, rfl, fun _ same => by cases same⟩

theorem plain_bool (key : String) (value : Bool) : Plain ⟨text key, .bool value, .normal⟩ :=
  ⟨⟨valid_text key, fun _ same => by cases same⟩, rfl, fun _ same => by cases same⟩

theorem Plain.readable {field : Field} (plain : Plain field) (redactor : Redactor) :
    redactor.Readable field := by
  intro _
  refine ⟨?_, ?_, ?_⟩
  · intro bits double
    exact absurd double (plain.number bits)
  · intro value _ identifier
    rw [plain.normal] at identifier
    cases identifier
  · intro value _ payload
    rw [plain.normal] at payload
    cases payload

theorem record_fields_plain (valid : ValidCall parts call) :
    ∀ field ∈ parts.enricher.recordFields call.moment call.level parts.module call.event
      call.message, Plain field := by
  have timestamp : Valid (Enricher.getTimestampUTC call.moment) := by
    apply Utf8.valid_of_ascii
    intro byte member
    have printable := Enricher.timestamp_printable call.moment byte member
    exact UInt8.lt_trans printable.2 (by decide)
  have level : Valid (logLevelToString call.level) := by
    cases call.level <;> exact valid_text _
  intro field member
  unfold Enricher.recordFields at member
  simp only [List.mem_cons, List.not_mem_nil, or_false] at member
  rcases member with rfl | rfl | rfl | rfl | rfl | rfl | rfl | rfl | rfl | rfl | rfl
  · exact plain_int "schema_version" _
  · exact plain_string "timestamp" timestamp
  · exact plain_bool "time_synced" _
  · exact plain_int "mono_ms" _
  · exact plain_string "level" level
  · exact plain_string "service" valid.service
  · exact plain_string "module" valid.module
  · exact plain_string "event" valid.event
  · exact plain_string "message" valid.message
  · exact plain_int "pid" _
  · exact plain_int "tid" _

theorem context_fields_plain (valid : ValidCall parts call) :
    ∀ field ∈ Enricher.contextFields call.context, Plain field := by
  apply Enricher.forall_context_fields
  intro context found
  have texts := valid.context context found
  exact ⟨plain_string "trace_id" texts.traceId, plain_string "request_id" texts.requestId,
    plain_string "session_id" texts.sessionId⟩

/-- Only the caller's fields can be unfit for a JSON line. -/
theorem presentable_line_iff (valid : ValidCall parts call) :
    (∀ field ∈ parts.redacted call, Presentable field) ↔
      ∀ field ∈ call.fields, parts.redactor.Readable field := by
  unfold redacted Redactor.redact Enricher.enrich
  rw [List.forall_mem_map, List.forall_mem_append, List.forall_mem_append]
  have own : ∀ field, Plain field → Presentable (parts.redactor.redactField field) :=
    fun field plain => (parts.redactor.presentable_redacted_iff plain.texts).mpr
      (plain.readable parts.redactor)
  constructor
  · intro presentable field member
    exact (parts.redactor.presentable_redacted_iff (valid.fields field member)).mp
      (presentable.2 field member)
  · intro readable
    refine ⟨⟨?_, ?_⟩, ?_⟩
    · intro field member
      exact own field (record_fields_plain valid field member)
    · intro field member
      exact own field (context_fields_plain valid field member)
    · intro field member
      exact (parts.redactor.presentable_redacted_iff (valid.fields field member)).mpr
        (readable field member)

/-- A JSON line has at least the members of the record itself. -/
theorem json_line_eq (json : parts.useStandardFormat = false) :
    ∃ field rest, parts.redacted call = field :: rest ∧
      parts.line call = JsonLineFormatter.format (field :: rest) := by
  unfold line
  rw [if_neg (by rw [json]; exact Bool.false_ne_true)]
  cases shape : parts.redacted call with
  | nil =>
      have long := congrArg List.length shape
      simp [redacted, Redactor.redact, Enricher.enrich, Enricher.recordFields] at long
  | cons field rest => exact ⟨field, rest, rfl, rfl⟩

theorem json_line_valid_iff (json : parts.useStandardFormat = false) :
    Valid (parts.line call) ↔ ∀ field ∈ parts.redacted call, ValidField field := by
  obtain ⟨field, rest, shape, formatted⟩ := @json_line_eq parts call json
  rw [formatted, shape]
  exact JsonLineFormatter.valid_format_iff field rest

theorem json_line_accepted_iff (json : parts.useStandardFormat = false) :
    Json.AcceptsObject (parts.line call) ↔
      ∀ field ∈ parts.redacted call, Printable field.value := by
  obtain ⟨field, rest, shape, formatted⟩ := @json_line_eq parts call json
  rw [formatted, shape]
  exact JsonLineFormatter.accepts_format_iff field rest

theorem mem_redacted {field : Field} (member : field ∈ call.fields) :
    parts.redactor.redactField field ∈ parts.redacted call :=
  List.mem_map_of_mem (List.mem_append_right _ member)

theorem log_produces {handed : Bytes × LogLevel} (produced : parts.log call = some handed) :
    handed = (parts.line call, call.level) := by
  unfold log at produced
  split at produced
  · exact (Option.some.inj produced).symm
  · cases produced

/-- The JSON line of a call whose texts are UTF-8 is one object in UTF-8 exactly when its
fields are readable. -/
theorem json_line_readable_iff (parts : LoggerParts) (call : LogCall)
    (json : parts.useStandardFormat = false) (valid : ValidCall parts call)
    (handed : Bytes × LogLevel) (produced : parts.log call = some handed) :
    (Valid handed.1 ∧ Json.AcceptsObject handed.1) ↔
      ∀ field ∈ call.fields, parts.redactor.Readable field := by
  rw [log_produces produced, ← presentable_line_iff valid, json_line_valid_iff json,
    json_line_accepted_iff json]
  constructor
  · intro both field member
    exact ⟨both.1 field member, both.2 field member⟩
  · intro presentable
    exact ⟨fun field member => (presentable field member).texts,
      fun field member => (presentable field member).value⟩

def batteryLogger : LoggerParts := ⟨text "battery", ⟨text "tbox"⟩, ⟨{}⟩, ⟨.kInfo, []⟩, false⟩

def startOfEpoch : Moment := ⟨⟨70, 0, 1, 0, 0, 0⟩, 0, 0, 0, 1, 1⟩

def chargingCall (fields : List Field) : LogCall :=
  ⟨.kInfo, text "state", text "charging", fields, none, startOfEpoch, id⟩

def plate (number : String) : Field := ⟨text "plate", .string (text number), .identifier⟩

def voltage (bits : UInt64) : Field := ⟨text "voltage", .double bits, .normal⟩

theorem plate_valid (number : String) : ValidField (plate number) := by
  refine ⟨valid_text "plate", ?_⟩
  intro value same
  cases same
  exact valid_text number

theorem voltage_valid (bits : UInt64) : ValidField (voltage bits) :=
  ⟨valid_text "voltage", fun _ same => by cases same⟩

theorem charging_call_valid {fields : List Field} (valid : ∀ field ∈ fields, ValidField field) :
    ValidCall batteryLogger (chargingCall fields) :=
  ⟨valid_text "tbox", valid_text "battery", valid_text "state", valid_text "charging",
    (fun _ same => by cases same), valid⟩

/-- A plate of ASCII characters is masked, and twelve and a half volts are a number. -/
theorem charging_line_accepted :
    Valid (batteryLogger.line (chargingCall [plate "GBA12345", voltage 0x4029000000000000])) ∧
      Json.AcceptsObject
        (batteryLogger.line (chargingCall [plate "GBA12345", voltage 0x4029000000000000])) := by
  have valid : ∀ field ∈ [plate "GBA12345", voltage 0x4029000000000000], ValidField field := by
    intro field member
    simp only [List.mem_cons, List.not_mem_nil, or_false] at member
    rcases member with rfl | rfl
    · exact plate_valid "GBA12345"
    · exact voltage_valid _
  apply (json_line_readable_iff batteryLogger
    (chargingCall [plate "GBA12345", voltage 0x4029000000000000]) rfl (charging_call_valid valid)
    (_, .kInfo) rfl).mpr
  intro field member _
  change field ∈ [plate "GBA12345", voltage 0x4029000000000000] at member
  simp only [List.mem_cons, List.not_mem_nil, or_false] at member
  rcases member with rfl | rfl
  · refine ⟨(fun _ same => by cases same), ?_, fun _ _ same => by cases same⟩
    intro value same _ _ _
    cases same
    decide
  · refine ⟨?_, (fun _ same => by cases same), fun _ same => by cases same⟩
    intro bits same
    cases same
    decide

/-- A voltage that is not a number, and a plate whose first character takes three bytes. -/
theorem unreadable_lines_rejected :
    (ValidCall batteryLogger (chargingCall [voltage 0x7FF8000000000000]) ∧
      ¬ Json.AcceptsObject (batteryLogger.line (chargingCall [voltage 0x7FF8000000000000]))) ∧
    (ValidCall batteryLogger (chargingCall [plate "京A12345"]) ∧
      ¬ Valid (batteryLogger.line (chargingCall [plate "京A12345"]))) := by
  refine ⟨⟨charging_call_valid ?_, ?_⟩, ⟨charging_call_valid ?_, ?_⟩⟩
  · intro field member
    rw [List.mem_singleton.mp member]
    exact voltage_valid _
  · rw [json_line_accepted_iff rfl]
    intro printable
    exact absurd (printable _ (mem_redacted List.mem_cons_self) _ rfl) (by decide)
  · intro field member
    rw [List.mem_singleton.mp member]
    exact plate_valid _
  · rw [json_line_valid_iff rfl]
    intro valid
    have masked := (valid _ (mem_redacted List.mem_cons_self)).value _ rfl
    revert masked
    decide

end LoggerParts

end TboxFramework.Log
