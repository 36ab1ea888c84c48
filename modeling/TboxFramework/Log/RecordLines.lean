import TboxFramework.Log.JsonRoundTrip
import TboxFramework.Log.LoggerLine
import TboxFramework.Log.RotationRefinement

/-!
# One record, one line

The JSON formatter escapes every line break. The standard formatter writes text as it
is: its line is one line exactly when the text that the redactor leaves is.
-/

namespace TboxFramework.Log

open Decimal (IsNumeric)
open TboxFramework.Store (Bytes text)

set_option autoImplicit false

/-- Neither a line feed nor a carriage return. -/
def SingleLine (bytes : Bytes) : Prop := 10 ∉ bytes ∧ 13 ∉ bytes

instance (bytes : Bytes) : Decidable (SingleLine bytes) := inferInstanceAs (Decidable (_ ∧ _))

theorem single_line_append (front back : Bytes) :
    SingleLine (front ++ back) ↔ SingleLine front ∧ SingleLine back := by
  unfold SingleLine
  rw [List.mem_append, List.mem_append, not_or, not_or]
  exact and_and_and_comm

theorem single_line_printable {bytes : Bytes} (printable : ∀ byte ∈ bytes, IsPrintable byte) :
    SingleLine bytes := by
  constructor
  · intro member
    exact absurd (printable 10 member) (by decide)
  · intro member
    exact absurd (printable 13 member) (by decide)

theorem single_line_numeric {bytes : Bytes} (numeric : ∀ byte ∈ bytes, IsNumeric byte) :
    SingleLine bytes :=
  single_line_printable fun byte member => numeric_printable (numeric byte member)

/-- A line of which the other parts are known to be single. -/
theorem single_line_after {front back : Bytes} (single : SingleLine front) :
    SingleLine (front ++ back) ↔ SingleLine back := by
  rw [single_line_append]
  exact and_iff_right single

theorem single_line_before {front back : Bytes} (single : SingleLine back) :
    SingleLine (front ++ back) ↔ SingleLine front := by
  rw [single_line_append]
  exact and_iff_left single

/-! ## The JSON formatter -/

namespace JsonLineFormatter

/-- Both line breaks are control bytes, and a line holds none. -/
theorem format_single (fields : List Field) : SingleLine (format fields) := by
  have visible := format_visible fields
  constructor
  · intro member
    exact absurd (visible 10 member) (by decide)
  · intro member
    exact absurd (visible 13 member) (by decide)

end JsonLineFormatter

/-! ## The standard formatter -/

namespace StandardFormatter

/-- What the formatter prints of a field is on one line. -/
def PrintedSingle (field : Field) : Prop :=
  isCommonField field.key = false → SingleLine field.key ∧ SingleLine (printValue field.value)

theorem common_field_single {key : Bytes} (common : isCommonField key = true) :
    SingleLine key := by
  have all : ∀ other ∈ commonFields, SingleLine other := by decide
  exact all key (List.contains_iff_mem.mp common)

theorem printed_single_iff (field : Field) : PrintedSingle field ↔
    SingleLine field.key ∧
      (isCommonField field.key = false → SingleLine (printValue field.value)) := by
  unfold PrintedSingle
  cases common : isCommonField field.key with
  | true => simp [common_field_single common]
  | false => simp

theorem number_single {value : FieldValue} (unprinted : value.type ≠ .kString) :
    SingleLine (printValue value) := by
  cases value with
  | string value => exact absurd rfl unprinted
  | int64 value =>
      exact single_line_numeric (Decimal.number_numeric (Decimal.signed_numeral_number _))
  | double value => exact single_line_numeric (GeneralFormat.general_numeric value)
  | bool value => cases value <;> decide

theorem extra_single_iff (fields : List Field) : ∀ first,
    SingleLine (formatExtraFrom first fields) ↔ ∀ field ∈ fields, PrintedSingle field := by
  induction fields with
  | nil =>
      intro first
      exact iff_of_true (by decide : SingleLine []) fun field member => by cases member
  | cons field rest induction =>
      intro first
      rw [List.forall_mem_cons]
      unfold formatExtraFrom
      cases common : isCommonField field.key with
      | true =>
          have unprinted : PrintedSingle field := by
            intro uncommon
            rw [common] at uncommon
            cases uncommon
          rw [if_pos rfl, induction first, and_iff_right unprinted]
      | false =>
          have printed : PrintedSingle field ↔
              SingleLine field.key ∧ SingleLine (printValue field.value) := imp_iff_right common
          have separator : SingleLine (if first then [] else text ", ") := by
            cases first <;> decide
          have equals : SingleLine (text "=") := by decide
          rw [if_neg Bool.false_ne_true, single_line_after separator, single_line_append,
            single_line_append, single_line_before equals, induction false, printed]

theorem local_time_clock (localTime : BrokenDownTime → BrokenDownTime) {timestamp : Bytes}
    (clock : ∀ byte ∈ timestamp, IsClock byte) :
    ∀ byte ∈ utcToLocalFormat localTime timestamp, IsClock byte := by
  unfold utcToLocalFormat
  split
  · exact clock
  · split
    · intro byte member
      exact print_time_clock (List.all_iff_forall_prop.mp (by decide)) _ _ byte
        (List.mem_of_mem_take member)
    · exact clock

/-- A field is found behind others if none of them has its key. -/
theorem extract_at (position : Nat) {key value : Bytes} {tail : List Field} : ∀ {fields},
    List.drop position fields = ⟨key, .string value, .normal⟩ :: tail →
    key ∉ (fields.map Field.key).take position →
    ∀ default, extractFieldValue fields key default = value := by
  induction position with
  | zero =>
      intro fields here _ default
      rw [List.drop_zero] at here
      rw [here]
      exact if_pos rfl
  | succ position induction =>
      intro fields here absent default
      cases fields with
      | nil => cases here
      | cons field rest =>
          rw [List.map_cons, List.take_succ_cons, List.mem_cons, not_or] at absent
          have later := induction here absent.2 default
          unfold extractFieldValue
          cases field.value with
          | string other => exact (if_neg (Ne.symm absent.1)).trans later
          | int64 number => exact later
          | double number => exact later
          | bool flag => exact later

/-- The time and the level never break the line. -/
theorem format_single_iff (localTime : BrokenDownTime → BrokenDownTime) {fields : List Field}
    {timestamp service level message : Bytes}
    (timestampFound : ∀ default, extractFieldValue fields (text "timestamp") default = timestamp)
    (levelFound : ∀ default, extractFieldValue fields (text "level") default = level)
    (serviceFound : ∀ default, extractFieldValue fields (text "service") default = service)
    (messageFound : ∀ default, extractFieldValue fields (text "message") default = message)
    (timestampClock : ∀ byte ∈ timestamp, IsClock byte) (levelSingle : SingleLine (level.map toLower)) :
    SingleLine (format localTime fields) ↔
      SingleLine service ∧ SingleLine message ∧ ∀ field ∈ fields, PrintedSingle field := by
  have extra : SingleLine (if formatExtraFields fields = [] then []
      else text ", " ++ formatExtraFields fields) ↔ ∀ field ∈ fields, PrintedSingle field := by
    rw [← extra_single_iff fields true]
    change _ ↔ SingleLine (formatExtraFields fields)
    split
    · next empty => rw [empty]
    · exact single_line_after (by decide)
  have time : SingleLine (text "[" ++ utcToLocalFormat localTime timestamp ++ text "] [") := by
    rw [single_line_before (by decide), single_line_after (by decide)]
    exact single_line_printable fun byte member =>
      clock_printable (local_time_clock localTime timestampClock byte member)
  unfold format
  simp only [timestampFound, serviceFound, levelFound, messageFound]
  rw [single_line_append, extra, single_line_append, single_line_before (by decide),
    single_line_before levelSingle, single_line_before (by decide), single_line_after time,
    and_assoc]

end StandardFormatter

/-! ## Redaction -/

namespace Redactor

open StandardFormatter (PrintedSingle common_field_single commonFields isCommonField
  number_single printValue printed_single_iff)

/-- What a class and the policies leave of a text is on one line. -/
def LeavesSingle (redactor : Redactor) : Sensitivity → Bytes → Prop
  | .normal, value => SingleLine value
  | .identifier, value => redactor.config.identifiers = text "mask" → 4 < value.length →
      SingleLine (value.take 2) ∧ SingleLine (value.drop (value.length - 2))
  | .payload, value => SingleLine (value.take redactor.config.rawPayloadMaxBytes.toNat)
  | .secret, _ => True

/-- A field of which no line break is left for the standard line: its key is always shown
unless the line has a place of its own for it. -/
structure ShownSingle (redactor : Redactor) (field : Field) : Prop where
  key : SingleLine field.key
  value : ¬ Secret field → isCommonField field.key = false →
    ∀ value, field.value = .string value → redactor.LeavesSingle field.sensitivity value

theorem withheld_single_iff (field : Field) {notice : Bytes} (single : SingleLine notice) :
    PrintedSingle (withheld field notice) ↔ SingleLine field.key := by
  rw [printed_single_iff]
  unfold withheld printValue
  rw [single_line_before (by decide)]
  exact and_iff_left fun _ => single

theorem mask_single_iff (value : Bytes) : SingleLine (maskValue value) ↔
    (4 < value.length →
      SingleLine (value.take 2) ∧ SingleLine (value.drop (value.length - 2))) := by
  unfold maskValue
  by_cases short : value.length ≤ 4
  · rw [if_pos short]
    exact iff_of_true (by decide) fun long => absurd long (Nat.not_lt.mpr short)
  · rw [if_neg short, single_line_append, single_line_before (by decide)]
    exact (imp_iff_right (Nat.not_le.mp short)).symm

theorem truncate_single_iff (redactor : Redactor) (value : Bytes) :
    SingleLine (redactor.truncatePayload value) ↔
      SingleLine (value.take redactor.config.rawPayloadMaxBytes.toNat) := by
  unfold truncatePayload
  split
  · next short => rw [List.take_of_length_le short]
  · exact single_line_before (by decide)

theorem hash_single (value : Bytes) : SingleLine (hashValue value) := by
  unfold hashValue
  rw [single_line_before (by decide), single_line_after (by decide), decimal_eq_numeral]
  exact single_line_numeric fun byte member =>
    Decimal.digit_numeric (Decimal.numeral_digits _ byte member)

variable (redactor : Redactor)

theorem printed_string_iff {field : Field} {value : Bytes} :
    PrintedSingle { field with value := .string value } ↔
      SingleLine field.key ∧ (isCommonField field.key = false → SingleLine value) :=
  printed_single_iff _

theorem printed_identifier_iff {field : Field} {value : Bytes} :
    PrintedSingle (redactor.redactIdentifier field value) ↔ SingleLine field.key ∧
      (isCommonField field.key = false → redactor.LeavesSingle .identifier value) := by
  unfold redactIdentifier
  by_cases mask : redactor.config.identifiers = text "mask"
  · have leaves : redactor.LeavesSingle .identifier value ↔ SingleLine (maskValue value) := by
      rw [mask_single_iff]
      exact imp_iff_right mask
    rw [if_pos mask, printed_string_iff, leaves]
  · have nothing : redactor.LeavesSingle .identifier value := fun policy => absurd policy mask
    rw [if_neg mask, and_iff_left fun _ => nothing]
    split
    · exact withheld_single_iff field (by decide)
    · rw [printed_string_iff]
      exact and_iff_left fun _ => hash_single value

/-- What the standard line shows of a redacted field. -/
theorem printed_redacted_iff (field : Field) :
    PrintedSingle (redactor.redactField field) ↔ redactor.ShownSingle field := by
  by_cases secret : Secret field
  · rw [redact_secret redactor secret, withheld_single_iff field (by decide)]
    exact ⟨fun key => ⟨key, fun shown => absurd secret shown⟩, fun shown => shown.key⟩
  · have printed : redactor.ShownSingle field ↔ SingleLine field.key ∧
        (isCommonField field.key = false → ∀ value, field.value = .string value →
          redactor.LeavesSingle field.sensitivity value) :=
      ⟨fun shown => ⟨shown.key, shown.value secret⟩, fun both => ⟨both.1, fun _ => both.2⟩⟩
    rw [printed]
    cases field.value.string_or_unprinted with
    | inr unprinted =>
        rw [redact_unprinted redactor secret unprinted, printed_single_iff]
        refine and_congr_right' (iff_of_true (fun _ => number_single unprinted) ?_)
        intro _ value string
        rw [string] at unprinted
        exact absurd rfl unprinted
    | inl string =>
        obtain ⟨value, string⟩ := string
        have only : (∀ other, field.value = .string other →
            redactor.LeavesSingle field.sensitivity other) ↔
              redactor.LeavesSingle field.sensitivity value := by
          rw [string]
          simp
        rw [only]
        cases declared : field.sensitivity with
        | normal =>
            rw [redact_normal redactor secret declared, printed_single_iff, string]
            rfl
        | identifier =>
            rw [redact_identifier redactor secret declared string]
            exact printed_identifier_iff redactor
        | payload =>
            rw [redact_payload redactor secret declared string, printed_string_iff,
              truncate_single_iff]
            rfl
        | secret => exact absurd (.inr declared) secret

end Redactor

/-! ## The line -/

namespace LoggerParts

open StandardFormatter (PrintedSingle commonFields extractFieldValue isCommonField)

variable {parts : LoggerParts} {call : LogCall}

/-- The text of a call that reaches the standard line is on one line. -/
structure Unbroken (parts : LoggerParts) (call : LogCall) : Prop where
  service : SingleLine parts.enricher.service
  message : SingleLine call.message
  fields : ∀ field ∈ call.fields, parts.redactor.ShownSingle field

/-- A field that the record makes itself. -/
def IsOwn (field : Field) : Prop :=
  isCommonField field.key = true ∧ field.sensitivity = .normal

def ownFields (parts : LoggerParts) (call : LogCall) : List Field :=
  parts.enricher.recordFields call.moment call.level parts.module call.event call.message ++
    Enricher.contextFields call.context

/-- The record's own fields are those of its list and those that the context gives. -/
theorem forall_own_fields {property : Field → Prop}
    (record : ∀ field ∈ parts.enricher.recordFields call.moment call.level parts.module call.event
      call.message, property field)
    (inherited : ∀ key value, isCommonField key = true →
      property ⟨key, .string value, .normal⟩) :
    ∀ field ∈ ownFields parts call, property field := by
  unfold ownFields
  rw [List.forall_mem_append]
  constructor
  · exact record
  · apply Enricher.forall_context_fields
    intro texts _
    exact ⟨inherited _ _ (by decide), inherited _ _ (by decide), inherited _ _ (by decide)⟩

theorem own_fields_own : ∀ field ∈ ownFields parts call, IsOwn field := by
  apply forall_own_fields
  · intro field record
    have among : field.key ∈ commonFields.take 11 := List.mem_map_of_mem record
    refine ⟨List.contains_iff_mem.mpr (List.mem_of_mem_take among), ?_⟩
    unfold Enricher.recordFields at record
    simp only [List.mem_cons, List.not_mem_nil, or_false] at record
    rcases record with rfl | rfl | rfl | rfl | rfl | rfl | rfl | rfl | rfl | rfl | rfl
    all_goals rfl
  · intro key value common
    exact ⟨common, rfl⟩

theorem redact_own (redactor : Redactor) {field : Field} (own : IsOwn field) :
    redactor.redactField field = field := by
  have plain : ∀ key ∈ commonFields, Redactor.isSecretKey key = false := by decide
  apply Redactor.redact_normal redactor ?_ own.2
  intro secret
  cases secret with
  | inl listed =>
      rw [plain field.key (List.contains_iff_mem.mp own.1)] at listed
      cases listed
  | inr declared =>
      rw [own.2] at declared
      cases declared

theorem redacted_eq : parts.redacted call =
    ownFields parts call ++ call.fields.map parts.redactor.redactField := by
  change ((ownFields parts call ++ call.fields).map parts.redactor.redactField) = _
  rw [List.map_append]
  congr 1
  apply (List.map_congr_left _).trans (List.map_id _)
  intro field member
  exact redact_own parts.redactor (own_fields_own field member)

/-- The formatter finds the text that the record put at a position of its own. -/
theorem own_field_found (position : Nat) {key value : Bytes} {tail : List Field}
    (here : (parts.enricher.recordFields call.moment call.level parts.module call.event
      call.message).drop position = ⟨key, .string value, .normal⟩ :: tail)
    (absent : key ∉ commonFields.take position) (default : Bytes) :
    extractFieldValue (parts.redacted call) key default = value := by
  have inside : position < 11 := by
    have long := congrArg List.length here
    rw [List.length_drop, List.length_cons] at long
    change 11 - position = _ at long
    omega
  rw [redacted_eq, ownFields, List.append_assoc]
  apply StandardFormatter.extract_at position
  · rw [List.drop_append_of_le_length (Nat.le_of_lt inside), here]
    rfl
  · rw [List.map_append, List.take_append_of_le_length (Nat.le_of_lt inside)]
    change key ∉ (commonFields.take 11).take position
    rw [List.take_take, Nat.min_eq_left (Nat.le_of_lt inside)]
    exact absent

/-- The standard line is one line exactly when the text that reaches it is. -/
theorem standard_line_single_iff (standard : parts.useStandardFormat = true) :
    SingleLine (parts.line call) ↔ Unbroken parts call := by
  have level : SingleLine ((logLevelToString call.level).map toLower) := by
    cases call.level <;> decide
  have own : ∀ field ∈ ownFields parts call, PrintedSingle field := by
    intro field member uncommon
    rw [(own_fields_own field member).1] at uncommon
    cases uncommon
  have fields : (∀ field ∈ parts.redacted call, PrintedSingle field) ↔
      ∀ field ∈ call.fields, parts.redactor.ShownSingle field := by
    rw [redacted_eq, List.forall_mem_append, and_iff_right own, List.forall_mem_map]
    exact forall₂_congr fun field _ => parts.redactor.printed_redacted_iff field
  have formatted : SingleLine (StandardFormatter.format call.localTime (parts.redacted call)) ↔ _ :=
    StandardFormatter.format_single_iff call.localTime
      (own_field_found 1 rfl (by decide)) (own_field_found 4 rfl (by decide))
      (own_field_found 5 rfl (by decide)) (own_field_found 8 rfl (by decide))
      (Enricher.timestamp_clock call.moment) level
  unfold line
  rw [if_pos standard, formatted, fields]
  exact ⟨fun both => ⟨both.1, both.2.1, both.2.2⟩, fun single =>
    ⟨single.service, single.message, single.fields⟩⟩

end LoggerParts

/-! ## The file -/

open RollingFileSink (lineFeed output)

/-- The line feeds of a file. -/
def LogFile.lines (file : LogFile) : Nat := (file.chunks.flatMap Chunk.bytes).count lineFeed

namespace LogDirectory

/-- Every chunk is a line and its end. -/
def Lined (directory : LogDirectory) : Prop :=
  ∀ file ∈ directory, ∀ chunk ∈ file.chunks, ∃ line, SingleLine line ∧ chunk.bytes = output line

theorem lines_of_chunks {chunks : List Chunk}
    (lined : ∀ chunk ∈ chunks, ∃ line, SingleLine line ∧ chunk.bytes = output line) :
    (chunks.flatMap Chunk.bytes).count lineFeed = chunks.length := by
  induction chunks with
  | nil => rfl
  | cons chunk rest induction =>
      rw [List.forall_mem_cons] at lined
      obtain ⟨line, single, bytes⟩ := lined.1
      have own : chunk.bytes.count lineFeed = 1 := by
        have none_inside : line.count lineFeed = 0 := List.count_eq_zero_of_not_mem single.1
        rw [bytes, output, List.count_append, none_inside]
        rfl
      rw [List.flatMap_cons, List.count_append, own, induction lined.2, List.length_cons,
        Nat.add_comm]

theorem Lined.lines {directory : LogDirectory} (lined : Lined directory) :
    ∀ file ∈ directory, file.lines = file.chunks.length :=
  fun file member => lines_of_chunks (lined file member)

theorem Lined.of_subset {before after : LogDirectory} (lined : Lined before)
    (subset : ∀ file ∈ after, file ∈ before) : Lined after :=
  fun file member => lined file (subset file member)

theorem Lined.append {directory : LogDirectory} (lined : Lined directory) (name : Bytes)
    (number : Nat) {line : Bytes} (single : SingleLine line) :
    Lined (directory.append name ⟨number, output line⟩) := by
  intro file member chunk among
  unfold LogDirectory.append at member
  obtain ⟨old, oldMember, changed⟩ := List.mem_map.mp member
  split at changed
  · rw [← changed, List.mem_append, List.mem_singleton] at among
    cases among with
    | inl before => exact lined old oldMember chunk before
    | inr added => exact ⟨line, single, by rw [added]⟩
  · rw [← changed] at among
    exact lined old oldMember chunk among

theorem Lined.create {directory : LogDirectory} (lined : Lined directory) (name : Bytes) :
    Lined (directory.create name) := by
  unfold LogDirectory.create
  split
  · exact lined
  · intro file member
    rw [List.mem_append, List.mem_singleton] at member
    cases member with
    | inl before => exact lined file before
    | inr added =>
        rw [added]
        intro chunk among
        cases among

end LogDirectory

namespace RollingFileSink

variable {sink : RollingFileSink} {directory : LogDirectory} {outcomes : FileOutcomes}

theorem lined_open (lined : directory.Lined) :
    (openNewFile sink directory outcomes).2.2.Lined := by
  unfold openNewFile
  split
  · exact lined.create _
  · exact lined

/-- Making room removes files and adds none. -/
theorem make_room_subset {remaining : LogDirectory}
    (made : sink.makeRoom directory outcomes = .ok remaining) :
    ∀ file ∈ remaining, file ∈ directory := by
  have unchanged : directory = remaining → ∀ file ∈ remaining, file ∈ directory := by
    intro same file member
    rw [same]
    exact member
  unfold makeRoom removeOldestFile at made
  split at made
  · split at made
    · cases found : oldestFile sink.serviceName directory.names with
      | error error =>
          rw [found] at made
          cases made
      | ok oldest =>
          rw [found] at made
          cases oldest with
          | none => exact unchanged (Except.ok.inj made)
          | some name =>
              have removed := Except.ok.inj made
              split at removed
              · intro file member
                rw [← removed] at member
                exact List.mem_of_mem_filter member
              · exact unchanged removed
    · exact unchanged (Except.ok.inj made)
  · exact unchanged (Except.ok.inj made)

theorem lined_rotate (lined : directory.Lined) :
    (sink.rotateIfNeeded directory outcomes).2.2.Lined := by
  unfold rotateIfNeeded
  split
  · exact lined
  · cases made : sink.makeRoom directory outcomes with
    | error error => exact lined
    | ok remaining => exact lined_open (lined.of_subset (make_room_subset made))

/-- A write that is not cut short adds its line and the line's end. -/
theorem lined_write (number : Nat) {line : Bytes} (whole : outcomes.shortWrite = none)
    (single : SingleLine line) (lined : directory.Lined) :
    (sink.write directory number line outcomes).2.2.Lined := by
  unfold write
  split
  · rw [whole]
    exact lined_rotate (lined.append _ number single)
  · exact lined

end RollingFileSink

namespace LogService

theorem lined_writes {lines : List Bytes} (single : ∀ line ∈ lines, SingleLine line) :
    ∀ {service : LogService}, service.directory.Lined → (service.writes lines).directory.Lined := by
  induction lines with
  | nil => exact fun lined => lined
  | cons line rest induction =>
      intro service lined
      rw [List.forall_mem_cons] at single
      exact induction single.2
        (RollingFileSink.lined_write service.written rfl single.1 lined)

end LogService

namespace LoggerParts

/-- The lines that calls in succession hand on. -/
def handedOn (parts : LoggerParts) (calls : List LogCall) : List Bytes :=
  (calls.filterMap parts.log).map Prod.fst

theorem line_single_iff (parts : LoggerParts) (call : LogCall) : SingleLine (parts.line call) ↔
    parts.useStandardFormat = false ∨ parts.Unbroken call := by
  cases format : parts.useStandardFormat with
  | false =>
      refine iff_of_true ?_ (.inl rfl)
      unfold line
      rw [if_neg (by rw [format]; exact Bool.false_ne_true)]
      exact JsonLineFormatter.format_single _
  | true =>
      rw [standard_line_single_iff format]
      simp

/-- The calls that pass the level filter. -/
def Logs (parts : LoggerParts) (call : LogCall) : Prop :=
  parts.levelFilter.shouldLog call.level (moduleName parts.module) = true

theorem mem_handed_on {parts : LoggerParts} {calls : List LogCall} {bytes : Bytes} :
    bytes ∈ parts.handedOn calls ↔ ∃ call ∈ calls, parts.Logs call ∧ parts.line call = bytes := by
  unfold handedOn
  rw [List.mem_map]
  constructor
  · intro mapped
    obtain ⟨handed, member, same⟩ := mapped
    obtain ⟨call, among, produced⟩ := List.mem_filterMap.mp member
    unfold log at produced
    split at produced
    · next passed =>
        refine ⟨call, among, passed, ?_⟩
        rw [← same, ← Option.some.inj produced]
    · cases produced
  · intro logged
    obtain ⟨call, among, passed, same⟩ := logged
    refine ⟨(bytes, call.level), List.mem_filterMap.mpr ⟨call, among, ?_⟩, rfl⟩
    unfold log
    rw [← same]
    exact if_pos passed

/-- Every record is one line, of what is handed on and in the files, exactly when the
format is JSON or no text of a record that reaches the line has a line break. -/
theorem records_are_lines_iff (parts : LoggerParts) (calls : List LogCall)
    (config : FileConfig) (serviceName : Bytes) :
    ((∀ line ∈ parts.handedOn calls, SingleLine line) ∧
      ∀ file ∈ ((LogService.start config serviceName []).writes (parts.handedOn calls)).directory,
        file.lines = file.chunks.length) ↔
    (parts.useStandardFormat = false ∨
      ∀ call ∈ calls, parts.Logs call → parts.Unbroken call) := by
  have lines : (∀ line ∈ parts.handedOn calls, SingleLine line) ↔
      (parts.useStandardFormat = false ∨
        ∀ call ∈ calls, parts.Logs call → parts.Unbroken call) := by
    constructor
    · intro single
      by_cases json : parts.useStandardFormat = false
      · exact .inl json
      · refine .inr ?_
        intro call member passed
        have line := single _ (mem_handed_on.mpr ⟨call, member, passed, rfl⟩)
        exact ((line_single_iff parts call).mp line).resolve_left json
    · intro unbroken line member
      obtain ⟨call, among, passed, same⟩ := mem_handed_on.mp member
      rw [← same, line_single_iff]
      exact unbroken.imp_right fun all => all call among passed
  rw [← lines]
  refine and_iff_left_of_imp ?_
  intro single
  apply LogDirectory.Lined.lines
  apply LogService.lined_writes single
  exact RollingFileSink.lined_open fun file member => by cases member

def standardLogger : LoggerParts := ⟨text "battery", ⟨text "tbox"⟩, ⟨{}⟩, ⟨.kInfo, []⟩, true⟩

/-- A message that carries a second record. -/
def forgedCall : LogCall where
  level := .kInfo
  event := text "state"
  message := text "charging\n[2026-07-26 11:55:56.848] [tbox] [fatal] stopped"
  fields := []
  context := none
  moment := ⟨⟨126, 6, 26, 3, 55, 56⟩, 848000, 1785038156, 0, 1, 1⟩
  localTime := id

/-- One call writes two lines. -/
theorem message_forges_record :
    standardLogger.Logs forgedCall ∧ ¬ SingleLine (standardLogger.line forgedCall) ∧
      (output (standardLogger.line forgedCall)).count lineFeed = 2 := by
  refine ⟨rfl, ?_, by decide +kernel⟩
  rw [standard_line_single_iff rfl]
  intro unbroken
  exact absurd unbroken.message (by decide)

end LoggerParts

end TboxFramework.Log
