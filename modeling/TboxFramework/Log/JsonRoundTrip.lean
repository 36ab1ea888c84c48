import TboxFramework.Library.JsonValues
import TboxFramework.Log.JsonReading

/-!
# The JSON line as a text of values

A strict reader finds in a line the members that the fields are: every key and string
byte for byte, every integer and boolean, in their order and with repetitions.
-/

namespace TboxFramework.Log

open Interleaving (observe observing run run_append)
open Json (Ended Frame Piece Reading decode note numberValue step)
open TboxFramework.Store (Bytes text)

set_option autoImplicit false

namespace JsonLineFormatter

/-- The value that a reader is to find. -/
def valueOf : FieldValue → Json.Value
  | .string value => .string value
  | .int64 value => .integer value.toInt
  | .double value => numberValue (GeneralFormat.general value)
  | .bool value => .bool value

def memberOf (field : Field) : Bytes × Json.Value := (field.key, valueOf field.value)

/-- How a reader takes an escaped byte: control bytes without a short escape are code units. -/
def pieceOf (byte : UInt8) : Piece :=
  if byte = 8 ∨ byte = 12 ∨ byte = 10 ∨ byte = 13 ∨ byte = 9 then .byte byte
  else if byte < 32 then .unit byte.toNat
  else .byte byte

theorem decode_piece (byte : UInt8) (rest : List Piece) :
    decode (pieceOf byte :: rest) = byte :: decode rest := by
  unfold pieceOf
  split
  · exact Json.decode_byte byte rest
  · split
    · next control =>
        have ascii : byte.toNat < 128 := by
          have small := UInt8.lt_iff_toNat_lt.mp control
          simp only [UInt8.reduceToNat] at small
          omega
        rw [Json.decode_ascii ascii, UInt8.ofNat_toNat]
    · exact Json.decode_byte byte rest

theorem decode_pieces (bytes : Bytes) : decode (bytes.map pieceOf) = bytes := by
  induction bytes with
  | nil => rfl
  | cons byte rest induction => rw [List.map_cons, decode_piece, induction]

theorem hex_value_digit {number : Nat} (small : number < 16) :
    Json.hexValue (hexDigit number) = number := by
  revert number
  decide

section Reading

variable {stack : List Json.Container} {reading : Reading}

theorem observe_hex (isKey : Bool) (byte : UInt8) :
    observe step note ⟨.string isKey, stack⟩ reading
        (text "\\u00" ++ [hexDigit (byte.toNat / 16), hexDigit (byte.toNat % 16)]) =
      { reading with pieces := reading.pieces ++ [.unit byte.toNat], code := 0 } := by
  have high : byte.toNat / 16 < 16 := by
    have bound := byte.toNat_lt
    omega
  have low : byte.toNat % 16 < 16 := Nat.mod_lt _ (by omega)
  have code : 16 * (byte.toNat / 16) + byte.toNat % 16 = byte.toNat := by omega
  change observe step note ⟨.hex isKey 2, stack⟩ { reading with code := 0 } [_, _] = _
  simp [observe, step, note, hex_digit_hex high, hex_digit_hex low, hex_value_digit high,
    hex_value_digit low, code]

/-- A byte of a string is read as it was before the escape. -/
theorem observe_escape_byte (isKey : Bool) (byte : UInt8) :
    (observe step note ⟨.string isKey, stack⟩ reading (escapeByte byte)).pieces =
        reading.pieces ++ [pieceOf byte] ∧
      (observe step note ⟨.string isKey, stack⟩ reading (escapeByte byte)).frames =
        reading.frames := by
  unfold escapeByte
  split_ifs with quote backslash backspace formFeed lineFeed carriageReturn tab control
  · rw [quote]; exact ⟨rfl, rfl⟩
  · rw [backslash]; exact ⟨rfl, rfl⟩
  · rw [backspace]; exact ⟨rfl, rfl⟩
  · rw [formFeed]; exact ⟨rfl, rfl⟩
  · rw [lineFeed]; exact ⟨rfl, rfl⟩
  · rw [carriageReturn]; exact ⟨rfl, rfl⟩
  · rw [tab]; exact ⟨rfl, rfl⟩
  · rw [observe_hex]
    simp [pieceOf, backspace, formFeed, lineFeed, carriageReturn, tab, control]
  · simp [observe, step, note, pieceOf, quote, backslash, control]

theorem read_escape_string (isKey : Bool) (bytes : Bytes) :
    ∃ after : Reading,
      run (observing step note) (reading, ⟨.string isKey, stack⟩) (escapeString bytes) =
        some (after, ⟨.string isKey, stack⟩) ∧
      after.pieces = reading.pieces ++ bytes.map pieceOf ∧ after.frames = reading.frames := by
  unfold escapeString
  induction bytes generalizing reading with
  | nil => exact ⟨reading, rfl, by simp, rfl⟩
  | cons byte rest induction =>
      have first := @observe_escape_byte stack reading isKey byte
      obtain ⟨after, completed, pieces, frames⟩ := @induction
        (observe step note ⟨.string isKey, stack⟩ reading (escapeByte byte))
      refine ⟨after, ?_, ?_, ?_⟩
      · rw [List.flatMap_cons, run_append, Interleaving.run_observing, run_escape_byte,
          Option.map_some, Option.bind_some, completed]
      · rw [pieces, first.1, List.map_cons, List.append_assoc]
        rfl
      · rw [frames, first.2]

/-- Between its quotes a string is read as it is. -/
theorem read_quoted (isKey : Bool) (bytes : Bytes) (fresh : reading.pieces = []) :
    ∃ after : Reading, decode after.pieces = bytes ∧ after.frames = reading.frames ∧
      run (observing step note) (reading, ⟨.string isKey, stack⟩)
          (escapeString bytes ++ text "\"") =
        some (after.endString isKey, ⟨if isKey then .colon else .after, stack⟩) := by
  obtain ⟨after, completed, pieces, frames⟩ := @read_escape_string stack reading isKey bytes
  refine ⟨after, ?_, frames, ?_⟩
  · rw [pieces, fresh, List.nil_append, decode_pieces]
  · rw [run_append, completed]
    rfl

/-- A value is read, and nothing that is open around it changes. -/
theorem read_value {value : FieldValue} (printable : Printable value) :
    ∃ (after : Reading) (place : Json.Place), Ended place ∧
      run (observing step note) (reading, ⟨.value, stack⟩) (formatValue value) =
        some (after, ⟨place, stack⟩) ∧
      after.value = valueOf value ∧ after.frames = reading.frames := by
  cases value with
  | string value =>
      obtain ⟨after, decoded, frames, completed⟩ :=
        @read_quoted stack { reading with pieces := [] } false value rfl
      have opened : run (observing step note) (reading, ⟨.value, stack⟩) (text "\"") =
          some ({ reading with pieces := [] }, ⟨.string false, stack⟩) := rfl
      refine ⟨after.endString false, .after, .inl rfl, ?_, ?_, frames⟩
      · rw [format_string, run_append, opened, Option.bind_some, completed]
        rfl
      · change Json.Value.string (decode after.pieces) = .string value
        rw [decoded]
  | int64 value =>
      obtain ⟨place, ended, completed⟩ :=
        @Json.read_number stack reading _ (Decimal.signed_numeral_number value.toInt)
      refine ⟨_, place, ended, completed, ?_, rfl⟩
      exact Json.number_value_signed value.toInt
  | double value =>
      obtain ⟨place, ended, completed⟩ :=
        @Json.read_number stack reading _ (GeneralFormat.general_number (printable value rfl))
      exact ⟨_, place, ended, completed, rfl, rfl⟩
  | bool value =>
      cases value with
      | true => exact ⟨{ reading with value := .bool true }, .after, .inl rfl, rfl, rfl, rfl⟩
      | false => exact ⟨{ reading with value := .bool false }, .after, .inl rfl, rfl, rfl, rfl⟩

/-- A member is read with its name in the object that is open. -/
theorem read_member {place : Json.Place} (start : MemberStart place) {field : Field}
    (printable : Printable field.value) {members : List (Bytes × Json.Value)} {name : Bytes}
    {outer : List Frame} (opened : reading.frames = .object members name :: outer) :
    ∃ (after : Reading) (next : Json.Place), Ended next ∧
      run (observing step note) (reading, ⟨place, stack⟩) (formatMember field) =
        some (after, ⟨next, stack⟩) ∧
      after.value = valueOf field.value ∧
      after.frames = .object members field.key :: outer := by
  have quote : run (observing step note) (reading, ⟨place, stack⟩) (text "\"") =
      some ({ reading with pieces := [] }, ⟨.string true, stack⟩) := by
    rcases start with rfl | rfl <;> rfl
  obtain ⟨named, decoded, frames, completed⟩ :=
    @read_quoted stack { reading with pieces := [] } true field.key rfl
  have key : (named.endString true).frames = .object members field.key :: outer := by
    unfold Reading.endString
    rw [frames, opened, if_pos rfl, decoded]
  have colon : run (observing step note) (named.endString true, ⟨.colon, stack⟩) (text ":") =
      some (named.endString true, ⟨.value, stack⟩) := rfl
  obtain ⟨after, next, ended, valued, value, kept⟩ :=
    @read_value stack (named.endString true) _ printable
  refine ⟨after, next, ended, ?_, value, kept.trans key⟩
  have shape : formatMember field = text "\"" ++ ((escapeString field.key ++ text "\"") ++
      (text ":" ++ formatValue field.value)) := by
    unfold formatMember
    simp only [List.append_assoc]
    rfl
  rw [shape, run_append, quote, Option.bind_some, run_append, completed, Option.bind_some,
    if_pos rfl, run_append, colon, Option.bind_some, valued]

theorem read_comma {place : Json.Place} (ended : Ended place) :
    run (observing step note) (reading, ⟨place, .object :: stack⟩) (text ",") =
      some (reading.follow 44, ⟨.key, .object :: stack⟩) := by
  have noted : observe step note ⟨place, .object :: stack⟩ reading (text ",") =
      reading.follow 44 :=
    (Json.observe_single (run_comma ended)).trans (Json.note_ended ended rfl)
  rw [Interleaving.run_observing, run_comma ended, Option.map_some, noted]

theorem read_close {place : Json.Place} (ended : Ended place) :
    run (observing step note) (reading, ⟨place, .object :: stack⟩) (text "\x7d") =
      some (reading.follow 125, ⟨.after, stack⟩) := by
  have noted : observe step note ⟨place, .object :: stack⟩ reading (text "\x7d") =
      reading.follow 125 :=
    (Json.observe_single (run_close ended)).trans (Json.note_ended ended rfl)
  rw [Interleaving.run_observing, run_close ended, Option.map_some, noted]

/-- Behind a complete member, the others are read in their order; the induction is on them. -/
theorem read_members {place : Json.Place} (ended : Ended place) {fields : List Field}
    (printable : ∀ field ∈ fields, Printable field.value)
    {members : List (Bytes × Json.Value)} {name : Bytes} {outer : List Frame}
    (opened : reading.frames = .object members name :: outer) :
    ∃ after : Reading,
      run (observing step note) (reading, ⟨place, .object :: stack⟩)
          (formatMembers false fields ++ text "\x7d") = some (after, ⟨.after, stack⟩) ∧
        after.value = .object (members ++ (name, reading.value) :: fields.map memberOf) := by
  induction fields generalizing reading place members name with
  | nil =>
      refine ⟨reading.follow 125, read_close ended, ?_⟩
      unfold Reading.follow
      rw [opened]
      rfl
  | cons field rest induction =>
      have comma : (reading.follow 44).frames =
          .object (members ++ [(name, reading.value)]) [] :: outer := by
        unfold Reading.follow
        rw [opened]
        rfl
      obtain ⟨named, next, nextEnded, completed, value, frames⟩ :=
        @read_member (.object :: stack) (reading.follow 44) .key (.inr rfl) field
          (printable field List.mem_cons_self) _ _ _ comma
      obtain ⟨after, remaining, object⟩ := induction nextEnded
        (fun other member => printable other (List.mem_cons_of_mem field member)) frames
      refine ⟨after, ?_, ?_⟩
      · rw [format_members_cons, List.append_assoc, List.append_assoc, run_append,
          read_comma ended, Option.bind_some, run_append, completed, Option.bind_some, remaining]
      · rw [object, value, List.append_assoc, List.map_cons]
        rfl

/-- The line of some fields is the object of their members. -/
theorem read_format {fields : List Field} (printable : ∀ field ∈ fields, Printable field.value) :
    Json.read (format fields) = some (.object (fields.map memberOf)) := by
  cases fields with
  | nil => rfl
  | cons field rest =>
      have brace : run (observing step note) (({} : Reading), ⟨.value, []⟩) (text "\x7b") =
          some ({ ({} : Reading) with frames := [.object [] []] }, ⟨.firstKey, [.object]⟩) := rfl
      obtain ⟨named, place, ended, completed, value, frames⟩ :=
        @read_member [.object] { ({} : Reading) with frames := [.object [] []] } .firstKey
          (.inl rfl) field (printable field List.mem_cons_self) _ _ _ rfl
      obtain ⟨after, remaining, object⟩ := @read_members [] named place ended rest
        (fun other member => printable other (List.mem_cons_of_mem field member)) _ _ _ frames
      unfold Json.read
      rw [format_eq, run_append, brace, Option.bind_some, run_append, completed,
        Option.bind_some, remaining, Option.bind_some, if_pos ⟨.inl rfl, rfl⟩, object, value]
      rfl

end Reading

/-! ## The bytes of a line -/

/-- No byte is a control byte. -/
def Visible (bytes : Bytes) : Prop := ∀ byte ∈ bytes, 32 ≤ byte

instance (bytes : Bytes) : Decidable (Visible bytes) :=
  List.decidableBAll (fun byte => 32 ≤ byte) bytes

theorem visible_append (front back : Bytes) :
    Visible (front ++ back) ↔ Visible front ∧ Visible back := List.forall_mem_append

theorem visible_numeric {bytes : Bytes} (numeric : ∀ byte ∈ bytes, Decimal.IsNumeric byte) :
    Visible bytes :=
  fun byte member => UInt8.le_trans (by decide) (numeric byte member).1

theorem hex_digit_visible {number : Nat} (small : number < 16) : 32 ≤ hexDigit number := by
  revert number
  decide

theorem escape_byte_visible (byte : UInt8) : Visible (escapeByte byte) := by
  unfold escapeByte
  split_ifs with _ _ _ _ _ _ _ control
  any_goals decide
  · rw [visible_append]
    refine ⟨by decide, ?_⟩
    intro digit member
    simp only [List.mem_cons, List.not_mem_nil, or_false] at member
    rcases member with rfl | rfl
    · exact hex_digit_visible (by have bound := byte.toNat_lt; omega)
    · exact hex_digit_visible (Nat.mod_lt _ (by omega))
  · intro other member
    rw [List.mem_singleton.mp member]
    exact UInt8.not_lt.mp control

theorem escape_string_visible (bytes : Bytes) : Visible (escapeString bytes) := by
  intro other member
  obtain ⟨byte, _, among⟩ := List.mem_flatMap.mp member
  exact escape_byte_visible byte other among

theorem value_visible (value : FieldValue) : Visible (formatValue value) := by
  cases value with
  | string value =>
      unfold formatValue
      rw [visible_append, visible_append]
      exact ⟨⟨by decide, escape_string_visible value⟩, by decide⟩
  | int64 value =>
      exact visible_numeric (Decimal.number_numeric (Decimal.signed_numeral_number _))
  | double value => exact visible_numeric (GeneralFormat.general_numeric value)
  | bool value => cases value <;> decide

theorem members_visible (fields : List Field) :
    ∀ first, Visible (formatMembers first fields) := by
  induction fields with
  | nil =>
      intro first byte member
      cases member
  | cons field rest induction =>
      intro first
      unfold formatMembers formatMember
      rw [visible_append, visible_append, visible_append, visible_append, visible_append]
      refine ⟨?_, ⟨⟨⟨by decide, escape_string_visible field.key⟩, by decide⟩,
        value_visible field.value⟩, induction false⟩
      cases first <;> decide

theorem format_visible (fields : List Field) : Visible (format fields) := by
  unfold format
  rw [visible_append, visible_append]
  exact ⟨⟨by decide, members_visible fields true⟩, by decide⟩

/-- A line holds no control byte, and a strict reader finds in it one object: the given
keys with the given strings, integers and booleans, in their order. -/
theorem format_reads_back (fields : List Field)
    (exact : ∀ field ∈ fields, field.value.type ≠ .kDouble) :
    (∀ byte ∈ format fields, 32 ≤ byte) ∧ Json.AcceptsObject (format fields) ∧
      Json.read (format fields) = some (.object (fields.map memberOf)) := by
  have printable : ∀ field ∈ fields, Printable field.value := by
    intro field member bits double
    exact absurd (congrArg FieldValue.type double) (exact field member)
  have found := read_format printable
  exact ⟨format_visible fields, ⟨(Json.read_iff_accepts _).mp ⟨_, found⟩, rfl⟩, found⟩

def quotedFields : List Field :=
  [⟨[34, 92, 10, 1, 255], .string (text "\\\"\n"), .normal⟩,
    ⟨text "speed", .int64 (-9223372036854775808), .normal⟩, ⟨[], .bool true, .normal⟩]

/-- A key of a quote, a backslash, two control bytes and a byte above 127. -/
theorem quoted_fields_read_back :
    Json.read (format quotedFields) =
      some (.object [([34, 92, 10, 1, 255], .string (text "\\\"\n")),
        (text "speed", .integer (-9223372036854775808)), ([], .bool true)]) := by
  apply (format_reads_back quotedFields ?_).2.2
  decide

end JsonLineFormatter

end TboxFramework.Log
