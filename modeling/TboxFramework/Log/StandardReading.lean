import TboxFramework.Library.Separators
import TboxFramework.Log.StandardFormatter

/-!
# Reading what the standard formatter writes

A reader of `[time] [service] [level] message, key=value, …` ends each bracket where the
next one opens, and the message where a printed field begins: behind a ", ", with a "="
before the next one. Text of the service, of the message or of a key that looks like such
an end misleads it.
-/

namespace TboxFramework.Log.StandardFormatter

open Separators
open TboxFramework.Store (Bytes text)

set_option autoImplicit false

/-- What a line shows of its record. -/
structure Reading where
  time : Bytes
  service : Bytes
  level : Bytes
  message : Bytes
  deriving DecidableEq

/-- A printed field has a "=" before the next ", ". -/
def BeginsField (bytes : Bytes) : Prop := 61 ∈ firstPart (text ", ") bytes

instance (bytes : Bytes) : Decidable (BeginsField bytes) := inferInstanceAs (Decidable (_ ∈ _))

/-- The message ends at the first ", " behind which a field begins. -/
def readMessage : Bytes → Bytes
  | [] => []
  | byte :: rest =>
      if text ", " <+: byte :: rest ∧ BeginsField (rest.drop 1) then []
      else byte :: readMessage rest

def read : Bytes → Option Reading
  | 91 :: line => do
      let (time, line) ← cut (text "] [") line
      let (service, line) ← cut (text "] [") line
      let (level, line) ← cut (text "] ") line
      some ⟨time, service, level, readMessage line⟩
  | _ => none

/-! ## The message -/

/-- What stands behind the message: nothing, or the printed fields. -/
def tail (extra : Bytes) : Bytes := if extra = [] then [] else text ", " ++ extra

/-- No part of the message looks like a printed field. -/
def FieldFree (message : Bytes) : Prop :=
  ∀ front back, message = front ++ text ", " ++ back → 61 ∉ back

theorem field_free_cons (byte : UInt8) (rest : Bytes) :
    FieldFree (byte :: rest) ↔
      (∀ back, byte :: rest = text ", " ++ back → 61 ∉ back) ∧ FieldFree rest := by
  constructor
  · intro free
    constructor
    · exact fun back split => free [] back split
    · intro front back split
      exact free (byte :: front) back (by rw [split]; rfl)
  · rintro ⟨here, later⟩ front back split
    cases front with
    | nil => exact here back split
    | cons letter front => exact later front back (List.cons.inj split).2

theorem first_part_tail (message extra : Bytes) :
    firstPart (text ", ") (message ++ tail extra) = firstPart (text ", ") message := by
  unfold tail
  split
  · rw [List.append_nil]
  · rw [← List.append_assoc]
    exact first_part_append (by decide) (by decide) message extra

/-- A ", " that begins in the message ends in it. -/
theorem separator_in_message (byte : UInt8) (rest extra : Bytes) :
    text ", " <+: byte :: (rest ++ tail extra) ↔ text ", " <+: byte :: rest := by
  have comma : text ", " = [44, 32] := rfl
  unfold tail
  rw [comma]
  cases rest with
  | nil =>
      split
      · rfl
      · simp [List.cons_prefix_cons]
  | cons next rest => simp [List.cons_prefix_cons]

/-- A letter is read when the message does not end before it. -/
theorem read_message_cons (byte : UInt8) (rest extra : Bytes) :
    readMessage (byte :: (rest ++ tail extra)) = byte :: rest ↔
      (∀ back, byte :: rest = text ", " ++ back → 61 ∉ firstPart (text ", ") back) ∧
        readMessage (rest ++ tail extra) = rest := by
  have ends : text ", " <+: byte :: (rest ++ tail extra) ∧ BeginsField ((rest ++ tail extra).drop 1) ↔
      ∃ back, byte :: rest = text ", " ++ back ∧ 61 ∈ firstPart (text ", ") back := by
    rw [separator_in_message]
    constructor
    · rintro ⟨⟨back, split⟩, field⟩
      have after : rest = 32 :: back := (List.cons.inj split).2.symm
      rw [after, List.cons_append, List.drop_one, List.tail_cons, BeginsField,
        first_part_tail] at field
      exact ⟨back, split.symm, field⟩
    · rintro ⟨back, split, field⟩
      have after : rest = 32 :: back := (List.cons.inj split).2
      refine ⟨⟨back, split.symm⟩, ?_⟩
      rwa [after, List.cons_append, List.drop_one, List.tail_cons, BeginsField, first_part_tail]
  rw [readMessage]
  by_cases field : ∃ back, byte :: rest = text ", " ++ back ∧ 61 ∈ firstPart (text ", ") back
  · rw [if_pos (ends.mpr field)]
    obtain ⟨back, split, member⟩ := field
    exact iff_of_false (List.cons_ne_nil _ _).symm fun both => both.1 back split member
  · rw [if_neg (mt ends.mp field), List.cons.injEq, and_iff_right rfl]
    refine (and_iff_right ?_).symm
    exact fun back split member => field ⟨back, split, member⟩

theorem read_message_iff (message extra : Bytes) :
    readMessage (message ++ tail extra) = message ↔
      FieldFree message ∧ (extra ≠ [] → BeginsField extra) := by
  induction message with
  | nil =>
      have nothingFree : FieldFree [] := by
        intro front back split
        simp [show text ", " = [44, 32] from rfl] at split
      rw [and_iff_right nothingFree, List.nil_append]
      unfold tail
      by_cases nothing : extra = []
      · rw [if_pos nothing]
        exact iff_of_true rfl (absurd nothing)
      · have line : text ", " ++ extra = 44 :: 32 :: extra := rfl
        have begins : text ", " <+: 44 :: 32 :: extra := ⟨extra, rfl⟩
        rw [if_neg nothing, line, readMessage, List.drop_one, List.tail_cons,
          imp_iff_right nothing]
        by_cases field : BeginsField extra
        · rw [if_pos ⟨begins, field⟩]
          exact iff_of_true rfl field
        · rw [if_neg (fun both => field both.2)]
          exact iff_of_false (List.cons_ne_nil _ _) field
  | cons byte rest induction =>
      have letters : FieldFree rest → ∀ back, byte :: rest = text ", " ++ back →
          (61 ∈ firstPart (text ", ") back ↔ 61 ∈ back) := by
        intro free back split
        apply mem_first_part (by decide) (by decide)
        intro front behind parts
        have after : rest = 32 :: back := (List.cons.inj split).2
        exact free (32 :: front) behind (by rw [after, parts]; rfl)
      rw [List.cons_append, read_message_cons, field_free_cons, induction]
      constructor
      · rintro ⟨here, free, extras⟩
        refine ⟨⟨?_, free⟩, extras⟩
        exact fun back split => mt (letters free back split).mpr (here back split)
      · rintro ⟨⟨here, free⟩, extras⟩
        refine ⟨?_, free, extras⟩
        exact fun back split => mt (letters free back split).mp (here back split)

/-- A ", " alone ends no message. -/
example : readMessage (text "parked, locked, soc=80, vin=x") = text "parked, locked" := by decide

/-! ## The printed fields -/

/-- The first field that the line prints. -/
def firstPrinted (fields : List Field) : Option Field :=
  fields.find? fun field => !isCommonField field.key

theorem extra_eq (fields : List Field) :
    match firstPrinted fields with
    | some field => ∃ rest, formatExtraFields fields = field.key ++ 61 :: rest
    | none => formatExtraFields fields = [] := by
  unfold firstPrinted formatExtraFields
  induction fields with
  | nil => rfl
  | cons field rest induction =>
      rw [List.find?_cons, formatExtraFrom]
      cases common : isCommonField field.key with
      | true => exact induction
      | false =>
          refine ⟨printValue field.value ++ formatExtraFrom false rest, ?_⟩
          simp [show text "=" = [61] from rfl]

/-- A key that a reader takes for the beginning of a field. -/
def KeyShown (key : Bytes) : Prop := ∀ front back, key = front ++ text ", " ++ back → 61 ∈ front

theorem begins_field_iff (fields : List Field) :
    (formatExtraFields fields ≠ [] → BeginsField (formatExtraFields fields)) ↔
      ∀ field, firstPrinted fields = some field → KeyShown field.key := by
  have extra := extra_eq fields
  cases printed : firstPrinted fields with
  | none =>
      rw [printed] at extra
      exact iff_of_true (absurd extra) nofun
  | some field =>
      rw [printed] at extra
      obtain ⟨rest, extra⟩ := extra
      have filled : formatExtraFields fields ≠ [] := by
        rw [extra]
        simp
      have shown : BeginsField (formatExtraFields fields) ↔ KeyShown field.key := by
        unfold BeginsField KeyShown
        rw [extra]
        exact mark_mem_first_part (by decide) (by decide) (by decide) field.key rest
      rw [imp_iff_right filled, shown]
      simp

/-! ## The line -/

/-- A part without a closing bracket is read up to the next one. -/
theorem cut_bracket {part separator : Bytes} (unbordered : Unbordered separator)
    (closing : 93 ∈ separator) (free : 93 ∉ part) (line : Bytes) :
    cut separator (part ++ separator ++ line) = some (part, line) :=
  cut_append unbordered (List.ne_nil_of_mem closing) (fun inside => free (inside.subset closing))
    line

/-- The reader gets what the line was made of. -/
theorem read_line_iff {time service level message : Bytes} (rest : Bytes) (timeFree : 93 ∉ time)
    (levelFree : 93 ∉ level) :
    read (text "[" ++ time ++ text "] [" ++ service ++ text "] [" ++ level ++ text "] " ++ rest) =
        some ⟨time, service, level, message⟩ ↔
      ¬ text "] [" <:+: service ∧ readMessage rest = message := by
  have line : text "[" ++ time ++ text "] [" ++ service ++ text "] [" ++ level ++ text "] " ++
      rest = 91 :: (time ++ text "] [" ++
        (service ++ text "] [" ++ (level ++ text "] " ++ rest))) := by
    simp [show text "[" = [91] from rfl]
  have first : cut (text "] [") (time ++ text "] [" ++
      (service ++ text "] [" ++ (level ++ text "] " ++ rest))) = some (time, _) :=
    cut_bracket (by decide) (by decide) timeFree _
  have third : cut (text "] ") (level ++ text "] " ++ rest) = some (level, rest) :=
    cut_bracket (by decide) (by decide) levelFree rest
  rw [line, read, first]
  simp only [Option.bind_eq_bind, Option.bind_some]
  constructor
  · intro found
    obtain ⟨second, middle, found⟩ := Option.bind_eq_some_iff.mp found
    obtain ⟨last, ends, found⟩ := Option.bind_eq_some_iff.mp found
    have same := Option.some.inj found
    rw [Reading.mk.injEq] at same
    obtain ⟨behind, before⟩ := cut_eq_some (by decide) (show
      cut (text "] [") (service ++ text "] [" ++ (level ++ text "] " ++ rest)) =
        some (second.1, second.2) from middle)
    rw [same.2.1] at behind before
    have after : level ++ text "] " ++ rest = second.2 :=
      List.append_cancel_left behind
    rw [← after, third] at ends
    cases ends
    exact ⟨before, same.2.2.2⟩
  · rintro ⟨free, same⟩
    rw [cut_append (by decide) (by decide) free, Option.bind_some, third, Option.bind_some, same]

end TboxFramework.Log.StandardFormatter
