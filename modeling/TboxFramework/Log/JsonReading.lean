import TboxFramework.Library.Json
import TboxFramework.Library.Utf8
import TboxFramework.Log.JsonLineFormatter

/-!
# Reading what the JSON formatter writes

A strict reader accepts the line of some fields exactly when no double of them is an
infinity or a NaN; the line is UTF-8 exactly when their keys and strings are.
-/

namespace TboxFramework.Log

open Decimal (IsNumeric)
open GeneralFormat (IsFinite general)
open Interleaving (run run_append run_cons)
open Json (Ended Place step)
open TboxFramework.Store (Bytes text)
open Utf8 (AllAscii IsAscii Valid)

set_option autoImplicit false

namespace JsonLineFormatter

/-! ## Reading -/

section Reading

variable {stack : List Json.Container}

theorem format_string (value : Bytes) :
    formatValue (.string value) = text "\"" ++ (escapeString value ++ text "\"") :=
  List.append_assoc _ _ _

theorem format_members_cons (field : Field) (rest : List Field) :
    formatMembers false (field :: rest) =
      text "," ++ (formatMember field ++ formatMembers false rest) := rfl

theorem format_eq (field : Field) (rest : List Field) :
    format (field :: rest) =
      text "\x7b" ++ (formatMember field ++ (formatMembers false rest ++ text "\x7d")) := by
  unfold format
  rw [List.append_assoc]
  change _ ++ (([] ++ (formatMember field ++ formatMembers false rest)) ++ _) = _
  rw [List.nil_append, List.append_assoc]

theorem hex_digit_hex {number : Nat} (small : number < 16) :
    Json.isHex (hexDigit number) = true := by
  revert number
  decide

/-- A string stays open behind every escaped byte. -/
theorem run_escape_byte (isKey : Bool) (byte : UInt8) :
    run step ⟨.string isKey, stack⟩ (escapeByte byte) = some ⟨.string isKey, stack⟩ := by
  unfold escapeByte
  split
  · rfl
  · split
    · rfl
    · split
      · rfl
      · split
        · rfl
        · split
          · rfl
          · split
            · rfl
            · split
              · rfl
              · next quote backslash _ _ _ _ _ =>
                  split
                  · next control =>
                      have high : Json.isHex (hexDigit (byte.toNat / 16)) = true :=
                        hex_digit_hex (by have := byte.toNat_lt; omega)
                      have low : Json.isHex (hexDigit (byte.toNat % 16)) = true :=
                        hex_digit_hex (Nat.mod_lt _ (by omega))
                      change run step ⟨.hex isKey 2, stack⟩ [_, _] = _
                      rw [run_cons, step, high]
                      change run step ⟨.hex isKey 1, stack⟩ [_] = _
                      rw [run_cons, step, low]
                      rfl
                  · next plain =>
                      change (step ⟨.string isKey, stack⟩ byte).bind some = _
                      simp [step, quote, backslash, plain]

theorem run_escape_string (isKey : Bool) (bytes : Bytes) :
    run step ⟨.string isKey, stack⟩ (escapeString bytes) = some ⟨.string isKey, stack⟩ := by
  unfold escapeString
  induction bytes with
  | nil => rfl
  | cons byte rest induction =>
      rw [List.flatMap_cons, run_append, run_escape_byte, Option.bind_some, induction]

/-- A value that is not an infinity or a NaN. -/
def Printable (value : FieldValue) : Prop := ∀ bits, value = .double bits → IsFinite bits

theorem run_printable {value : FieldValue} (printable : Printable value) :
    ∃ place, Ended place ∧
      run step ⟨.value, stack⟩ (formatValue value) = some ⟨place, stack⟩ := by
  cases value with
  | string value =>
      refine ⟨.after, .inl rfl, ?_⟩
      have opened : run step ⟨.value, stack⟩ (text "\"") = some ⟨.string false, stack⟩ := rfl
      rw [format_string, run_append, opened, Option.bind_some, run_append, run_escape_string]
      rfl
  | int64 value => exact Json.run_number (Decimal.signed_numeral_number _)
  | double value => exact Json.run_number (GeneralFormat.general_number (printable value rfl))
  | bool value => cases value <;> exact ⟨.after, .inl rfl, rfl⟩

/-- The words for infinities and NaNs are no values. -/
theorem run_unprintable {value : FieldValue} (unprintable : ¬ Printable value) :
    run step ⟨.value, stack⟩ (formatValue value) = none := by
  cases value with
  | string value => exact absurd (fun bits same => by cases same) unprintable
  | int64 value => exact absurd (fun bits same => by cases same) unprintable
  | bool value => exact absurd (fun bits same => by cases same) unprintable
  | double value =>
      have infinite : ¬ IsFinite value := by
        intro finite
        apply unprintable
        intro bits same
        cases same
        exact finite
      obtain ⟨word, words, shape⟩ := GeneralFormat.general_word infinite
      change run step ⟨.value, stack⟩ (general value) = none
      rw [shape, run_append, Json.run_minus, Option.bind_some]
      cases GeneralFormat.negative value <;> rcases words with rfl | rfl <;> rfl

/-- The places where the name of a member may start. -/
def MemberStart (place : Place) : Prop := place = .firstKey ∨ place = .key

theorem run_member {place : Place} (start : MemberStart place) (field : Field) :
    run step ⟨place, stack⟩ (formatMember field) =
      run step ⟨.value, stack⟩ (formatValue field.value) := by
  have opened : run step ⟨place, stack⟩ (text "\"") = some ⟨.string true, stack⟩ := by
    rcases start with rfl | rfl <;> rfl
  have closed : run step ⟨.string true, stack⟩ (text "\":") = some ⟨.value, stack⟩ := rfl
  unfold formatMember
  rw [List.append_assoc, List.append_assoc, run_append, opened, Option.bind_some, run_append,
    run_escape_string, Option.bind_some, run_append, closed, Option.bind_some]

theorem run_comma {place : Place} (ended : Ended place) :
    run step ⟨place, .object :: stack⟩ (text ",") = some ⟨.key, .object :: stack⟩ := by
  change (step ⟨place, .object :: stack⟩ 44).bind some = _
  rw [Json.ended_step ended (by decide) (by decide) rfl]
  rfl

theorem run_close {place : Place} (ended : Ended place) :
    run step ⟨place, .object :: stack⟩ (text "\x7d") = some ⟨.after, stack⟩ := by
  change (step ⟨place, .object :: stack⟩ 125).bind some = _
  rw [Json.ended_step ended (by decide) (by decide) rfl]
  rfl

theorem run_members_cons {place : Place} (ended : Ended place) (field : Field)
    (rest : List Field) :
    run step ⟨place, .object :: stack⟩ (formatMembers false (field :: rest)) =
      (run step ⟨.value, .object :: stack⟩ (formatValue field.value)).bind fun next =>
        run step next (formatMembers false rest) := by
  rw [format_members_cons, run_append, run_comma ended, Option.bind_some, run_append,
    run_member (.inr rfl)]

/-- Behind a complete member, the others are read exactly when all are printable. -/
theorem run_members {place : Place} (ended : Ended place) (fields : List Field) :
    ((∀ field ∈ fields, Printable field.value) →
      ∃ last, Ended last ∧ run step ⟨place, .object :: stack⟩ (formatMembers false fields) =
        some ⟨last, .object :: stack⟩) ∧
    ((¬ ∀ field ∈ fields, Printable field.value) →
      run step ⟨place, .object :: stack⟩ (formatMembers false fields) = none) := by
  induction fields generalizing place with
  | nil =>
      refine ⟨fun _ => ⟨place, ended, rfl⟩, ?_⟩
      intro unprintable
      exact absurd (fun field member => by cases member) unprintable
  | cons field rest induction =>
      rw [run_members_cons ended, List.forall_mem_cons]
      by_cases printable : Printable field.value
      · obtain ⟨next, nextEnded, read⟩ := @run_printable (.object :: stack) _ printable
        rw [read, Option.bind_some]
        have later := induction nextEnded
        exact ⟨fun all => later.1 all.2, fun unprintable =>
          later.2 fun all => unprintable ⟨printable, all⟩⟩
      · rw [run_unprintable printable]
        exact ⟨fun all => absurd all.1 printable, fun _ => rfl⟩

/-- The line of at least one field is an object exactly when its values are printable. -/
theorem accepts_format_iff (field : Field) (rest : List Field) :
    Json.AcceptsObject (format (field :: rest)) ↔
      ∀ member ∈ field :: rest, Printable member.value := by
  have first : ((format (field :: rest)).dropWhile Json.isBlank).head? = some 123 := rfl
  have entered : run step ⟨.value, []⟩ (text "\x7b") = some ⟨.firstKey, [.object]⟩ := rfl
  have read : run step ⟨.value, []⟩ (format (field :: rest)) =
      (run step ⟨.value, [.object]⟩ (formatValue field.value)).bind fun next =>
        (run step next (formatMembers false rest)).bind fun last =>
          run step last (text "\x7d") := by
    rw [format_eq, run_append, entered, Option.bind_some, run_append, run_member (.inl rfl)]
    simp only [run_append]
  unfold Json.AcceptsObject Json.Accepts
  rw [first, read, List.forall_mem_cons]
  by_cases printable : Printable field.value
  · obtain ⟨place, ended, valueRead⟩ := @run_printable [.object] _ printable
    have members := @run_members [] _ ended rest
    rw [valueRead, Option.bind_some]
    by_cases all : ∀ member ∈ rest, Printable member.value
    · obtain ⟨last, lastEnded, membersRead⟩ := members.1 all
      rw [membersRead, Option.bind_some, run_close lastEnded]
      exact iff_of_true ⟨⟨_, rfl, .inl rfl, rfl⟩, rfl⟩ ⟨printable, all⟩
    · rw [members.2 all]
      refine iff_of_false ?_ fun both => all both.2
      intro accepted
      obtain ⟨⟨final, failed, _⟩, _⟩ := accepted
      cases failed
  · rw [run_unprintable printable]
    refine iff_of_false ?_ fun both => printable both.1
    intro accepted
    obtain ⟨⟨final, failed, _⟩, _⟩ := accepted
    cases failed

end Reading

/-! ## Text -/

theorem valid_text (literal : String) : Valid (text literal) := Utf8.valid_string literal

theorem hex_digit_ascii {number : Nat} (small : number < 16) : IsAscii (hexDigit number) := by
  revert number
  decide

theorem escape_large {byte : UInt8} (large : ¬ IsAscii byte) : escapeByte byte = [byte] := by
  have special : ∀ other, IsAscii other → byte ≠ other := by
    intro other ascii same
    rw [same] at large
    exact large ascii
  have visible : ¬ byte < 32 := fun control =>
    large (UInt8.lt_trans control (by decide))
  unfold escapeByte
  rw [if_neg (special 34 (by decide)), if_neg (special 92 (by decide)),
    if_neg (special 8 (by decide)), if_neg (special 12 (by decide)),
    if_neg (special 10 (by decide)), if_neg (special 13 (by decide)),
    if_neg (special 9 (by decide)), if_neg visible]

theorem escape_ascii {byte : UInt8} (ascii : IsAscii byte) :
    escapeByte byte ≠ [] ∧ AllAscii (escapeByte byte) := by
  unfold escapeByte
  split_ifs
  any_goals decide
  · next control =>
      have high : IsAscii (hexDigit (byte.toNat / 16)) :=
        hex_digit_ascii (by have := byte.toNat_lt; omega)
      have low : IsAscii (hexDigit (byte.toNat % 16)) := hex_digit_ascii (Nat.mod_lt _ (by omega))
      have start : AllAscii (text "\\u00") := by decide
      refine ⟨by simp, ?_⟩
      intro other member
      simp only [List.mem_append, List.mem_cons, List.not_mem_nil, or_false] at member
      rcases member with prefixed | first | second
      · exact start other prefixed
      · rw [first]; exact high
      · rw [second]; exact low
  · refine ⟨List.cons_ne_nil _ _, ?_⟩
    intro other member
    rw [List.mem_singleton] at member
    rw [member]
    exact ascii

/-- Escaping leaves the bytes of longer characters alone. -/
theorem valid_escape_iff (bytes : Bytes) : Valid (escapeString bytes) ↔ Valid bytes :=
  Utf8.valid_flat_map_iff (fun _ large => escape_large large) (fun _ ascii => escape_ascii ascii)
    bytes

/-- A field whose texts are UTF-8. -/
structure ValidField (field : Field) : Prop where
  key : Valid field.key
  value : ∀ value, field.value = .string value → Valid value

theorem numeric_ascii {byte : UInt8} (numeric : IsNumeric byte) : IsAscii byte :=
  UInt8.lt_of_le_of_lt numeric.2 (by decide)

theorem valid_value_iff (value : FieldValue) :
    Valid (formatValue value) ↔ ∀ string, value = .string string → Valid string := by
  cases value with
  | string value =>
      have quote : text "\"" ≠ [] ∧ AllAscii (text "\"") := by decide
      rw [format_string, Utf8.valid_ascii_append_iff quote.2,
        Utf8.valid_ended_iff quote.1 quote.2, valid_escape_iff]
      simp
  | int64 value =>
      refine iff_of_true (Utf8.valid_of_ascii fun byte member => ?_) (fun _ same => by cases same)
      exact numeric_ascii (Decimal.number_numeric (Decimal.signed_numeral_number _) byte member)
  | double value =>
      refine iff_of_true (Utf8.valid_of_ascii fun byte member => ?_) (fun _ same => by cases same)
      exact numeric_ascii (GeneralFormat.general_numeric value byte member)
  | bool value =>
      refine iff_of_true ?_ (fun _ same => by cases same)
      cases value <;> exact valid_text _

theorem valid_member_iff (field : Field) : Valid (formatMember field) ↔ ValidField field := by
  have quote : AllAscii (text "\"") := by decide
  have colon : text "\":" ≠ [] ∧ AllAscii (text "\":") := by decide
  unfold formatMember
  rw [List.append_assoc, List.append_assoc, Utf8.valid_ascii_append_iff quote,
    Utf8.valid_joined_iff colon.1 colon.2, valid_escape_iff, valid_value_iff]
  exact ⟨fun both => ⟨both.1, both.2⟩, fun valid => ⟨valid.key, valid.value⟩⟩

/-- Commas and the brace separate the members. -/
theorem valid_members_iff (fields : List Field) : ∀ front : Bytes,
    Valid (front ++ (formatMembers false fields ++ text "\x7d")) ↔
      Valid front ∧ ∀ field ∈ fields, ValidField field := by
  have brace : text "\x7d" ≠ [] ∧ AllAscii (text "\x7d") := by decide
  have comma : text "," ≠ [] ∧ AllAscii (text ",") := by decide
  induction fields with
  | nil =>
      intro front
      rw [formatMembers, List.nil_append, Utf8.valid_ended_iff brace.1 brace.2]
      simp
  | cons field rest induction =>
      intro front
      rw [format_members_cons, List.append_assoc, List.append_assoc,
        Utf8.valid_joined_iff comma.1 comma.2, induction, valid_member_iff, List.forall_mem_cons]

/-- The line of at least one field is UTF-8 exactly when all texts are. -/
theorem valid_format_iff (field : Field) (rest : List Field) :
    Valid (format (field :: rest)) ↔ ∀ member ∈ field :: rest, ValidField member := by
  have brace : AllAscii (text "\x7b") := by decide
  rw [format_eq, Utf8.valid_ascii_append_iff brace, valid_members_iff, valid_member_iff,
    List.forall_mem_cons]

end JsonLineFormatter

end TboxFramework.Log
