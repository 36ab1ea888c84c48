import TboxFramework.Log.JsonLines
import TboxFramework.Log.JsonRoundTrip
import TboxFramework.Log.RecordLines
import TboxFramework.Log.StandardReading

/-!
# The record's own fields

What a reader of a line takes for the record's own fields: in the standard format the
three brackets and the message, in the JSON format the member of each name, where a name
that occurs twice is an error. The standard formatter hides reserved keys of the caller,
but nothing marks where a service, a message or a key ends; the JSON formatter prints
reserved keys behind the record's own.
-/

namespace TboxFramework.Log

open GeneralFormat (IsFinite)
open JsonLineFormatter (Printable memberOf read_format valueOf)
open Redactor (Secret withheld)
open StandardFormatter (commonFields formatExtraFields formatExtraFrom isCommonField
  utcToLocalFormat)
open TboxFramework.Store (Bytes text)

set_option autoImplicit false

/-- The element of a list of one. -/
def only {α : Type} : List α → Option α
  | [element] => some element
  | _ => none

/-- The value that a reader of a JSON line finds under a name. -/
def memberValue (line name : Bytes) : Option Json.Value :=
  match Json.read line with
  | some (.object members) =>
      (only (members.filter fun member => member.1 = name)).map Prod.snd
  | _ => none

theorem filter_members (fields : List Field) (name : Bytes) :
    (fields.map memberOf).filter (fun member => member.1 = name) =
      (fields.filter fun field => field.key = name).map memberOf := by
  rw [List.filter_map]
  rfl

theorem only_map {α β : Type} (f : α → β) (list : List α) :
    only (list.map f) = (only list).map f := by
  match list with
  | [] => rfl
  | [element] => rfl
  | first :: second :: rest => rfl

theorem member_value_format {fields : List Field}
    (printable : ∀ field ∈ fields, Printable field.value) (name : Bytes) :
    memberValue (JsonLineFormatter.format fields) name =
      (only (fields.filter fun field => field.key = name)).map fun field =>
        valueOf field.value := by
  unfold memberValue
  rw [read_format printable]
  simp only [filter_members, only_map, Option.map_map]
  rfl

/-- A field is the only one of its key where keys are distinct. -/
theorem filter_key {fields : List Field} (distinct : (fields.map Field.key).Nodup)
    {field : Field} (member : field ∈ fields) :
    (fields.filter fun other => other.key = field.key) = [field] := by
  induction fields with
  | nil => cases member
  | cons first rest induction =>
      rw [List.map_cons, List.nodup_cons] at distinct
      cases List.mem_cons.mp member with
      | inl here =>
          have others : (rest.filter fun other => other.key = first.key) = [] := by
            rw [List.filter_eq_nil_iff]
            intro other among same
            apply distinct.1
            rw [← of_decide_eq_true same]
            exact List.mem_map_of_mem among
          rw [here, List.filter_cons_of_pos (by simp), others]
      | inr later =>
          have apart : first.key ≠ field.key := by
            intro same
            apply distinct.1
            rw [same]
            exact List.mem_map_of_mem later
          rw [List.filter_cons_of_neg (by simpa using apart)]
          exact induction distinct.2 later

/-! ## What the redactor does to a key -/

namespace Redactor

variable (redactor : Redactor)

/-- The redactor shows a notice under another key in the field's place. -/
def Renames (field : Field) : Prop :=
  Secret field ∨ field.sensitivity = .identifier ∧ field.value.type = .kString ∧
    redactor.config.identifiers = text "reject"

theorem key_redacted_string {field : Field} {value : Bytes} (shown : ¬ Secret field)
    (string : field.value = .string value) (kept : ¬ redactor.Renames field) :
    (redactor.redactField field).key = field.key := by
  cases declared : field.sensitivity with
  | normal => rw [redact_normal redactor shown declared]
  | payload => rw [redact_payload redactor shown declared string]
  | secret => exact absurd (.inr declared) shown
  | identifier =>
      have allowed : redactor.config.identifiers ≠ text "reject" := fun reject =>
        kept (.inr ⟨declared, congrArg FieldValue.type string, reject⟩)
      rw [redact_identifier redactor shown declared string]
      unfold redactIdentifier
      rw [if_neg allowed]
      split
      · rfl
      · rfl

theorem key_kept {field : Field} (kept : ¬ redactor.Renames field) :
    (redactor.redactField field).key = field.key := by
  have shown : ¬ Secret field := fun secret => kept (.inl secret)
  cases field.value.string_or_unprinted with
  | inl string =>
      obtain ⟨value, string⟩ := string
      exact redactor.key_redacted_string shown string kept
  | inr unprinted => rw [redact_unprinted redactor shown unprinted]

theorem key_renamed {field : Field} (renamed : redactor.Renames field) :
    (redactor.redactField field).key = field.key ++ text "_redacted" := by
  by_cases secret : Secret field
  · rw [redact_secret redactor secret]
    rfl
  · cases renamed with
    | inl listed => exact absurd listed secret
    | inr rejected =>
        obtain ⟨identifier, string, reject⟩ := rejected
        cases field.value.string_or_unprinted with
        | inr unprinted => exact absurd string unprinted
        | inl found =>
            obtain ⟨value, found⟩ := found
            rw [redact_identifier redactor secret identifier found]
            unfold redactIdentifier
            rw [if_neg (by rw [reject]; decide), if_pos reject]
            rfl

/-- No reserved key is the key of a notice. -/
theorem renamed_uncommon (key : Bytes) : key ++ text "_redacted" ∉ commonFields := by
  have endings : ∀ common ∈ commonFields, (text "_redacted").isSuffixOf common = false := by
    decide
  intro common
  have suffix := endings _ common
  rw [List.isSuffixOf_iff_suffix.mpr (List.suffix_append key _)] at suffix
  cases suffix

theorem printable_redacted_iff (field : Field) :
    Printable (redactor.redactField field).value ↔ (¬ Secret field → Printable field.value) := by
  by_cases secret : Secret field
  · rw [redact_secret redactor secret]
    exact iff_of_true (fun bits same => by cases same) fun shown => absurd secret shown
  · rw [imp_iff_right secret]
    cases field.value.string_or_unprinted with
    | inr unprinted => rw [redact_unprinted redactor secret unprinted]
    | inl string =>
        obtain ⟨value, string⟩ := string
        have text_left : ∃ left, (redactor.redactField field).value = .string left := by
          rw [redact_string redactor secret string]
          unfold redactString
          split
          · unfold redactIdentifier
            split
            · exact ⟨_, rfl⟩
            · split
              · exact ⟨_, rfl⟩
              · exact ⟨_, rfl⟩
          · exact ⟨_, rfl⟩
          · exact ⟨value, string⟩
        obtain ⟨left, text_left⟩ := text_left
        rw [text_left, string]
        exact iff_of_true (fun bits same => by cases same) fun bits same => by cases same

end Redactor

/-! ## The lines -/

namespace LoggerParts

variable {parts : LoggerParts} {call : LogCall}

/-- The call without the caller's fields. -/
def bare (call : LogCall) : LogCall := { call with fields := [] }

/-- The record's own values in a standard line. -/
def standardOwn (parts : LoggerParts) (call : LogCall) : StandardFormatter.Reading :=
  ⟨utcToLocalFormat call.localTime (Enricher.getTimestampUTC call.moment), parts.enricher.service,
    (logLevelToString call.level).map toLower, call.message⟩

/-- What a reader takes for the record's own fields is the record's, as if the caller had
given no fields. -/
def KeepsOwn (parts : LoggerParts) (call : LogCall) : Prop :=
  if parts.useStandardFormat = true then
    StandardFormatter.read (parts.line (bare call)) = some (standardOwn parts call) ∧
      StandardFormatter.read (parts.line call) = some (standardOwn parts call)
  else
    ∀ field ∈ ownFields parts call,
      memberValue (parts.line (bare call)) field.key = some (valueOf field.value) ∧
        memberValue (parts.line call) field.key = some (valueOf field.value)

/-- Nothing in a standard line looks like an end of the service, of the message or of the
first key where there is none. -/
structure PartsShown (parts : LoggerParts) (call : LogCall) : Prop where
  service : ¬ text "] [" <:+: parts.enricher.service
  message : StandardFormatter.FieldFree call.message
  key : ∀ field, StandardFormatter.firstPrinted (call.fields.map parts.redactor.redactField) =
    some field → StandardFormatter.KeyShown field.key

/-- The field leaves a JSON line readable and every name of the record to the record. -/
structure LeavesOwn (parts : LoggerParts) (call : LogCall) (field : Field) : Prop where
  printable : ¬ Secret field → Printable field.value
  apart : field.key ∈ (ownFields parts call).map Field.key → parts.redactor.Renames field

/-! ### The standard format -/

theorem extra_own (fields rest : List Field)
    (common : ∀ field ∈ fields, isCommonField field.key = true) :
    formatExtraFields (fields ++ rest) = formatExtraFields rest := by
  unfold formatExtraFields
  induction fields with
  | nil => rfl
  | cons field fields induction =>
      rw [List.forall_mem_cons] at common
      rw [List.cons_append, formatExtraFrom, if_pos common.1]
      exact induction common.2

theorem standard_line_eq (standard : parts.useStandardFormat = true) :
    parts.line call =
      text "[" ++ utcToLocalFormat call.localTime (Enricher.getTimestampUTC call.moment) ++
        text "] [" ++ parts.enricher.service ++ text "] [" ++
          (logLevelToString call.level).map toLower ++ text "] " ++
            (call.message ++ StandardFormatter.tail
              (formatExtraFields (call.fields.map parts.redactor.redactField))) := by
  have extra : formatExtraFields (parts.redacted call) =
      formatExtraFields (call.fields.map parts.redactor.redactField) := by
    rw [redacted_eq]
    exact extra_own _ _ fun field member => (own_fields_own field member).1
  unfold line StandardFormatter.format
  rw [if_pos standard, own_field_found 1 rfl (by decide), own_field_found 4 rfl (by decide),
    own_field_found 5 rfl (by decide), own_field_found 8 rfl (by decide), extra]
  exact List.append_assoc _ _ _

theorem local_time_free (call : LogCall) :
    93 ∉ utcToLocalFormat call.localTime (Enricher.getTimestampUTC call.moment) := by
  intro member
  have clock := StandardFormatter.local_time_clock call.localTime
    (Enricher.timestamp_clock call.moment) 93 member
  exact absurd clock (by decide)

theorem level_free (level : LogLevel) : 93 ∉ (logLevelToString level).map toLower := by
  cases level <;> decide

/-- A reader of one standard line gets the record's own values. -/
theorem standard_read_iff (standard : parts.useStandardFormat = true) :
    StandardFormatter.read (parts.line call) = some (standardOwn parts call) ↔
      PartsShown parts call := by
  unfold standardOwn
  rw [standard_line_eq standard,
    StandardFormatter.read_line_iff _ (local_time_free call) (level_free call.level),
    StandardFormatter.read_message_iff, StandardFormatter.begins_field_iff]
  constructor
  · exact fun ⟨service, message, key⟩ => ⟨service, message, key⟩
  · exact fun ⟨service, message, key⟩ => ⟨service, message, key⟩

theorem standard_keeps_own_iff (standard : parts.useStandardFormat = true) :
    parts.KeepsOwn call ↔ PartsShown parts call := by
  unfold KeepsOwn
  rw [if_pos standard, standard_read_iff standard]
  apply and_iff_right_of_imp
  -- without fields no key is printed
  rintro ⟨service, message, -⟩
  exact (@standard_read_iff parts (bare call) standard).mpr ⟨service, message, nofun⟩

/-! ### The JSON format -/

theorem own_keys_sublist (parts : LoggerParts) (call : LogCall) :
    ((ownFields parts call).map Field.key).Sublist commonFields := by
  have context_key : ∀ key value : Bytes,
      ((Enricher.contextField key value).map Field.key).Sublist [key] := by
    intro key value
    unfold Enricher.contextField
    split
    · exact List.nil_sublist _
    · exact List.Sublist.refl _
  have context : ((Enricher.contextFields call.context).map Field.key).Sublist
      (commonFields.drop 11) := by
    cases call.context with
    | none => exact List.nil_sublist _
    | some context =>
        unfold Enricher.contextFields
        rw [List.map_append, List.map_append]
        exact ((context_key _ _).append (context_key _ _)).append (context_key _ _)
  unfold ownFields
  rw [List.map_append, ← List.take_append_drop 11 commonFields]
  exact List.Sublist.append (List.Sublist.refl _) context

theorem own_keys_distinct (parts : LoggerParts) (call : LogCall) :
    ((ownFields parts call).map Field.key).Nodup :=
  (own_keys_sublist parts call).nodup (by decide)

theorem own_printable : ∀ field ∈ ownFields parts call, Printable field.value := by
  apply forall_own_fields
  · intro field record
    unfold Enricher.recordFields at record
    simp only [List.mem_cons, List.not_mem_nil, or_false] at record
    rcases record with rfl | rfl | rfl | rfl | rfl | rfl | rfl | rfl | rfl | rfl | rfl
    all_goals
      intro bits same
      cases same
  · intro key value _ bits same
    cases same

/-- Under a name of the record, its own value is found when no other field has the name. -/
theorem member_value_own (json : parts.useStandardFormat = false)
    (printable : ∀ field ∈ parts.redacted call, Printable field.value) {field : Field}
    (own : field ∈ ownFields parts call) :
    memberValue (parts.line call) field.key = some (valueOf field.value) ↔
      ∀ other ∈ call.fields, (parts.redactor.redactField other).key ≠ field.key := by
  have line_eq : parts.line call = JsonLineFormatter.format (parts.redacted call) := by
    unfold line
    rw [if_neg (by rw [json]; exact Bool.false_ne_true)]
  rw [line_eq, member_value_format printable, redacted_eq, List.filter_append,
    filter_key (own_keys_distinct parts call) own]
  cases others : (call.fields.map parts.redactor.redactField).filter
      fun other => other.key = field.key with
  | nil =>
      rw [List.filter_eq_nil_iff, List.forall_mem_map] at others
      constructor
      · intro _ other member same
        exact others other member (decide_eq_true same)
      · intro _
        rfl
  | cons first rest =>
      have among : first ∈ (call.fields.map parts.redactor.redactField).filter
          fun other => other.key = field.key := by
        rw [others]
        exact List.mem_cons_self
      rw [List.mem_filter] at among
      obtain ⟨other, member, redacted⟩ := List.mem_map.mp among.1
      constructor
      · intro found
        cases found
      · intro apart
        apply absurd (of_decide_eq_true among.2)
        rw [← redacted]
        exact apart other member

theorem redacted_printable_iff : (∀ field ∈ parts.redacted call, Printable field.value) ↔
    ∀ field ∈ call.fields, ¬ Secret field → Printable field.value := by
  rw [redacted_eq, List.forall_mem_append, and_iff_right own_printable, List.forall_mem_map]
  exact forall₂_congr fun field _ => parts.redactor.printable_redacted_iff field

/-- A name of the record is left to it exactly by a field that has another or loses it. -/
theorem apart_iff (field : Field) :
    (∀ own ∈ ownFields parts call, (parts.redactor.redactField field).key ≠ own.key) ↔
      (field.key ∈ (ownFields parts call).map Field.key → parts.redactor.Renames field) := by
  by_cases renamed : parts.redactor.Renames field
  · refine iff_of_true ?_ fun _ => renamed
    intro own member same
    rw [Redactor.key_renamed _ renamed] at same
    apply Redactor.renamed_uncommon field.key
    rw [same]
    exact (own_keys_sublist parts call).subset (List.mem_map_of_mem member)
  · rw [Redactor.key_kept _ renamed]
    constructor
    · intro apart reserved
      obtain ⟨own, member, same⟩ := List.mem_map.mp reserved
      exact absurd same.symm (apart own member)
    · intro reserved own member same
      apply renamed
      apply reserved
      rw [same]
      exact List.mem_map_of_mem member

/-- A line that is no JSON text has no members. -/
theorem member_value_rejected {line : Bytes} (rejected : ¬ Json.Accepts line) (name : Bytes) :
    memberValue line name = none := by
  unfold memberValue
  cases found : Json.read line with
  | none => rfl
  | some value => exact absurd ((Json.read_iff_accepts line).mp ⟨value, found⟩) rejected

theorem json_keeps_own_iff (json : parts.useStandardFormat = false) :
    parts.KeepsOwn call ↔ ∀ field ∈ call.fields, LeavesOwn parts call field := by
  have bare_kept : ∀ field ∈ ownFields parts call,
      memberValue (parts.line (bare call)) field.key = some (valueOf field.value) := by
    intro field own
    have none_given : ∀ other ∈ (bare call).fields,
        (parts.redactor.redactField other).key ≠ field.key := by
      intro other member
      cases member
    refine (@member_value_own parts (bare call) json ?_ field own).mpr none_given
    apply redacted_printable_iff.mpr
    intro other member
    cases member
  unfold KeepsOwn
  rw [if_neg (by rw [json]; exact Bool.false_ne_true)]
  constructor
  · intro kept
    have printable : ∀ field ∈ parts.redacted call, Printable field.value := by
      rw [← json_line_accepted_iff json]
      by_contra refused
      have rejected : ¬ Json.Accepts (parts.line call) := by
        intro accepted
        apply refused
        obtain ⟨field, rest, _, formatted⟩ := @json_line_eq parts call json
        refine ⟨accepted, ?_⟩
        rw [formatted]
        rfl
      have first := (kept ⟨text "schema_version", .int64 1, .normal⟩ List.mem_cons_self).2
      rw [member_value_rejected rejected] at first
      cases first
    intro field member
    refine ⟨redacted_printable_iff.mp printable field member, ?_⟩
    apply (apart_iff field).mp
    intro own among
    exact (member_value_own json printable among).mp (kept own among).2 field member
  · intro leaves field own
    have printable : ∀ field ∈ parts.redacted call, Printable field.value :=
      redacted_printable_iff.mpr fun other member => (leaves other member).printable
    refine ⟨bare_kept field own, (member_value_own json printable own).mpr ?_⟩
    intro other member
    exact (apart_iff other).mpr (leaves other member).apart field own

/-- A reader finds the record's own fields in a standard line exactly when nothing in the
service, the message and the first printed key looks like an end, and in a JSON line exactly
when no field of the caller breaks the line or stands under a name of the record. -/
theorem own_fields_kept_iff (parts : LoggerParts) (call : LogCall) :
    parts.KeepsOwn call ↔
      if parts.useStandardFormat = true then PartsShown parts call
      else ∀ field ∈ call.fields, LeavesOwn parts call field := by
  cases format : parts.useStandardFormat with
  | true =>
      rw [if_pos rfl]
      exact standard_keeps_own_iff format
  | false =>
      rw [if_neg Bool.false_ne_true]
      exact json_keeps_own_iff format

/-- A caller's field named "level" is a second level. -/
theorem second_level_ambiguous :
    ¬ batteryLogger.KeepsOwn (chargingCall [⟨text "level", .string (text "FATAL"), .normal⟩]) := by
  rw [json_keeps_own_iff rfl]
  intro leaves
  have renamed := (leaves _ List.mem_cons_self).apart (by decide)
  revert renamed
  unfold Redactor.Renames
  decide

end LoggerParts

end TboxFramework.Log
